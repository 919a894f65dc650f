import Debugger.Path
import Debugger.Proofs.Lines
import Debugger.Proofs.LowerCase
import Mathlib.Data.List.Induction
import Mathlib.Logic.Relation

/-!
# Keys

The key of a path is its absolute form, read segment by segment (`Path.Reads`), in lower case. Two spellings of a path
that differ in slashes, in dots, in detours or in the case of ASCII letters (`Path.Respelled`) have one key, and a key
is its own key (`Path.key_reads`). Lower-casing does not get in the way: it goes segment by segment and neither adds
nor removes a mark, so that a segment that names something still does.
-/

namespace Debugger

namespace Text

/-! ### Pieces -/

private theorem split_eq_splitOn (sep : Char) (s : List Char) : split sep s = s.splitOn sep := by
  rw [List.splitOn_eq_splitOnP]
  induction s with
  | nil => rfl
  | cons c s ih =>
    rw [split, List.splitOnP_cons_eq_if_modifyHead, ← ih]
    by_cases h : c = sep
    · rw [if_pos h, if_pos (beq_iff_eq.2 h)]
    · obtain ⟨p, ps, hsplit⟩ := List.exists_cons_of_ne_nil (split_ne_nil sep s)
      rw [if_neg h, if_neg (by simpa using h), hsplit]
      rfl

private theorem split_append_cons (sep : Char) (s t : List Char) :
    split sep (s ++ sep :: t) = split sep s ++ split sep t := by
  rw [split_eq_splitOn, split_eq_splitOn, split_eq_splitOn, List.splitOn_eq_splitOnP]
  exact List.splitOnP_append_cons s t (beq_self_eq_true sep)

private theorem not_mem_of_mem_split {sep : Char} {s p : List Char} (h : p ∈ split sep s) : sep ∉ p := by
  obtain ⟨before, after, hsplit⟩ := List.append_of_mem h
  exact (eq_of_split hsplit).2.1

/-- A map that keeps the separator apart from the other characters goes piece by piece. -/
private theorem split_map {sep : Char} {f : Char → Char} (hf : ∀ c, f c = sep ↔ c = sep) (s : List Char) :
    split sep (s.map f) = (split sep s).map (List.map f) := by
  induction s with
  | nil => rfl
  | cons c s ih =>
    rw [List.map_cons, split, split, ih]
    by_cases h : c = sep
    · rw [if_pos h, if_pos ((hf c).2 h)]
      rfl
    · obtain ⟨p, ps, hsplit⟩ := List.exists_cons_of_ne_nil (split_ne_nil sep s)
      rw [if_neg h, if_neg (mt (hf c).1 h), hsplit]
      rfl

end Text

namespace Path

variable {cwd path path' : String} {before part after : List Segment} {segment : Segment}

/-! ### Following segments -/

/-- A segment that names something below a directory. -/
def IsName (segment : Segment) : Prop := segment ≠ [] ∧ segment ≠ here ∧ segment ≠ up

/-- What is left when a path is read from left to right: a segment that says nothing is dropped, a step up drops the
last one that is left, if there is one, and a name is left. -/
inductive Reads : List Segment → List Segment → Prop where
  | start : Reads [] []
  | skip {path kept : List Segment} {segment : Segment} (h : Reads path kept) (hs : segment = [] ∨ segment = here) :
      Reads (path ++ [segment]) kept
  | back {path kept : List Segment} (h : Reads path kept) : Reads (path ++ [up]) kept.dropLast
  | keep {path kept : List Segment} {segment : Segment} (h : Reads path kept) (hs : IsName segment) :
      Reads (path ++ [segment]) (kept ++ [segment])

private theorem segment_cases (segment : Segment) :
    (segment = [] ∨ segment = here) ∨ segment = up ∨ IsName segment := by
  by_cases hskip : segment = [] ∨ segment = here
  · exact .inl hskip
  · rw [not_or] at hskip
    by_cases hup : segment = up
    · exact .inr (.inl hup)
    · exact .inr (.inr ⟨hskip.1, hskip.2, hup⟩)

private theorem follow_skip (h : segment = [] ∨ segment = here) (kept : List Segment) : follow kept segment = kept := by
  unfold follow
  rw [if_pos (by simpa using h)]

private theorem follow_up (kept : List Segment) : follow kept up = kept.tail := rfl

private theorem follow_name (h : IsName segment) (kept : List Segment) : follow kept segment = segment :: kept := by
  unfold follow
  rw [if_neg (by simpa using ⟨h.1, h.2.1⟩), if_neg h.2.2]

private theorem resolve_concat (path : List Segment) (segment : Segment) :
    resolve (path ++ [segment]) = (follow (resolve path).reverse segment).reverse := by
  unfold resolve
  rw [List.foldl_append, List.reverse_reverse]
  rfl

/-- Reading a path and resolving it are the same. -/
private theorem reads_iff {path kept : List Segment} : Reads path kept ↔ resolve path = kept := by
  constructor
  · intro h
    induction h with
    | start => rfl
    | skip h hs ih => rw [resolve_concat, follow_skip hs, List.reverse_reverse, ih]
    | back h ih => rw [resolve_concat, follow_up, ih, List.tail_reverse, List.reverse_reverse]
    | keep h hs ih => rw [resolve_concat, follow_name hs, List.reverse_cons, List.reverse_reverse, ih]
  · rintro rfl
    induction path using List.reverseRecOn with
    | nil => exact .start
    | append_singleton path segment ih =>
      rw [resolve_concat]
      rcases segment_cases segment with hs | rfl | hs
      · rw [follow_skip hs, List.reverse_reverse]
        exact .skip ih hs
      · rw [follow_up, List.tail_reverse, List.reverse_reverse]
        exact .back ih
      · rw [follow_name hs, List.reverse_cons, List.reverse_reverse]
        exact .keep ih hs

private theorem resolve_of_names {path : List Segment} (h : ∀ segment ∈ path, IsName segment) :
    resolve path = path := by
  rw [← reads_iff]
  induction path using List.reverseRecOn with
  | nil => exact .start
  | append_singleton path segment ih =>
    refine .keep (ih fun s hs => h s (List.mem_append_left _ hs)) (h segment ?_)
    exact List.mem_append_right _ (List.mem_singleton_self segment)

/-- Segments that lead back to where they start from can stand anywhere. -/
private theorem resolve_insert (h : ∀ kept, part.foldl follow kept = kept) (before after : List Segment) :
    resolve (before ++ part ++ after) = resolve (before ++ after) := by
  unfold resolve
  rw [List.foldl_append, List.foldl_append, h, List.foldl_append]

private theorem foldl_follow_skip (h : segment = [] ∨ segment = here) (kept : List Segment) :
    [segment].foldl follow kept = kept :=
  follow_skip h kept

private theorem foldl_follow_detour (h : IsName segment) (kept : List Segment) :
    [segment, up].foldl follow kept = kept := by
  rw [List.foldl_cons, List.foldl_cons, List.foldl_nil, follow_name h, follow_up, List.tail_cons]

/-! ### Segments of a path -/

private theorem segments_ne_nil (path : String) : segments path ≠ [] := Text.split_ne_nil '/' path.toList

private theorem segments_append_slash (path path' : String) :
    segments (path ++ "/" ++ path') = segments path ++ segments path' := by
  have htext : (path ++ "/" ++ path').toList = path.toList ++ '/' :: path'.toList := by simp
  unfold segments
  rw [htext, Text.split_append_cons]

/-- A path starts at the root if it starts with an empty segment. -/
private theorem isAbsolute_iff (h : path ≠ "") : isAbsolute path = true ↔ (segments path).head? = some [] := by
  have hne : path.toList ≠ [] := by simpa using h
  obtain ⟨c, s, hs⟩ := List.exists_cons_of_ne_nil hne
  obtain ⟨p, ps, hsplit⟩ := List.exists_cons_of_ne_nil (Text.split_ne_nil '/' s)
  unfold isAbsolute segments
  rw [hs, Text.split, hsplit]
  by_cases hc : c = '/'
  · simp [hc]
  · simp [hc]

/-- The absolute form of a path has its segments, after those of the working directory if it is not absolute. -/
private theorem resolve_segments_join (cwd path : String) :
    resolve (segments (join cwd path)) = resolve (absolute cwd path) := by
  unfold absolute join
  cases isAbsolute path with
  | true => rfl
  | false =>
    rw [if_neg Bool.false_ne_true]
    by_cases hempty : cwd = ""
    · rw [if_pos (by simpa using hempty), hempty]
      exact (resolve_insert (foldl_follow_skip (.inl rfl)) [] (segments path)).symm
    · rw [if_neg (by simpa using hempty)]
      by_cases hslash : cwd.toList.getLast? = some '/'
      · obtain ⟨dir, hdir⟩ := List.getLast?_eq_some_iff.1 hslash
        have hcwd : cwd = String.ofList dir ++ "/" ++ "" := by
          rw [← String.toList_inj, hdir]
          simp
        have hjoin : cwd ++ path = String.ofList dir ++ "/" ++ path := by
          rw [hcwd]
          simp
        rw [if_pos hslash, hjoin, segments_append_slash]
        rw [hcwd, segments_append_slash]
        exact (resolve_insert (foldl_follow_skip (.inl rfl)) _ (segments path)).symm
      · rw [if_neg hslash, segments_append_slash]

private theorem render_eq (path : List Segment) : render path = '/' :: ['/'].intercalate path := by
  induction path with
  | nil => rfl
  | cons segment path ih =>
    cases path with
    | nil => simp [render]
    | cons next path =>
      have hmore : render (segment :: next :: path) = '/' :: segment ++ render (next :: path) := rfl
      rw [hmore, ih, List.intercalate_cons_cons]
      simp

/-! ### Names in lower case -/

private theorem isName_lower (h : IsName segment) : IsName (Text.lower segment) := by
  -- A text whose lower-case form is made of dots only is that form, so it is no name either.
  have hdots : (∀ c ∈ Text.lower segment, c = '.') → Text.lower segment = segment :=
    Text.isMark_dot.lower_eq_self
  refine ⟨fun hform => h.1 ?_, fun hform => h.2.1 ?_, fun hform => h.2.2 ?_⟩
  · rw [← hdots (by simp [hform]), hform]
  · rw [← hdots (by simp [hform, here]), hform]
  · rw [← hdots (by simp [hform, up]), hform]

private theorem slash_not_mem_lower (h : '/' ∉ segment) : '/' ∉ Text.lower segment :=
  mt Text.isMark_slash.mem_of_mem_lowerAfter h

private theorem slash_not_mem_of_mem_absolute (h : segment ∈ absolute cwd path) : '/' ∉ segment := by
  unfold absolute at h
  split at h
  · exact Text.not_mem_of_mem_split h
  · rcases List.mem_append.1 h with h | h
    · exact Text.not_mem_of_mem_split h
    · exact Text.not_mem_of_mem_split h

private theorem mem_of_reads {path kept : List Segment} (h : Reads path kept) : ∀ segment ∈ kept, segment ∈ path := by
  induction h with
  | start => exact fun segment hs => hs
  | skip h hs ih => exact fun segment hs => List.mem_append_left _ (ih segment hs)
  | back h ih => exact fun segment hs => List.mem_append_left _ (ih segment (List.dropLast_subset _ hs))
  | keep h hs ih =>
    intro segment hmem
    rcases List.mem_append.1 hmem with hmem | hmem
    · exact List.mem_append_left _ (ih segment hmem)
    · exact List.mem_append_right _ hmem

/-! ### Keys -/

private theorem key_eq (h : path ≠ "") :
    key cwd path = String.ofList (Text.lower ('/' :: ['/'].intercalate (resolve (absolute cwd path)))) := by
  unfold key
  rw [if_neg h, render_eq]

private theorem lower_key (cwd path : String) : Text.lower (key cwd path).toList = (key cwd path).toList := by
  by_cases h : path = ""
  · rw [h]
    rfl
  · rw [key_eq h, String.toList_ofList, Text.lower_lower]

/-- A key is a slash and names between slashes. -/
private theorem exists_names (cwd : String) (h : path ≠ "") : ∃ names : List Segment,
    (∀ name ∈ names, IsName name ∧ '/' ∉ name) ∧ (key cwd path).toList = '/' :: ['/'].intercalate names := by
  refine ⟨(resolve (absolute cwd path)).map Text.lower, fun name hname => ?_, ?_⟩
  · obtain ⟨segment, hs, rfl⟩ := List.mem_map.1 hname
    have habsolute : segment ∈ absolute cwd path := mem_of_reads (reads_iff.2 rfl) segment hs
    exact ⟨isName_lower (mem_resolve hs), slash_not_mem_lower (slash_not_mem_of_mem_absolute habsolute)⟩
  · rw [key_eq h, String.toList_ofList, ← Text.parts_slash.lower_intercalate]
    exact Text.parts_slash.lower_append_cons [] _

/-- Names between slashes, after a slash, are segments below the root. -/
private theorem segments_of_names {names : List Segment} (h : path.toList = '/' :: ['/'].intercalate names)
    (hnames : ∀ name ∈ names, '/' ∉ name) (hne : names ≠ []) : segments path = [] :: names := by
  unfold segments
  rw [h, Text.split, if_pos rfl, Text.split_eq_splitOn, List.splitOn_intercalate '/' hnames hne]

/-- A path of names below the root is its own key, if lower-casing does not change it. -/
private theorem key_eq_self {names : List Segment} (h : path.toList = '/' :: ['/'].intercalate names)
    (hnames : ∀ name ∈ names, IsName name ∧ '/' ∉ name) (hlower : Text.lower path.toList = path.toList) :
    key cwd path = path := by
  have habsolute : isAbsolute path = true := by
    unfold isAbsolute
    rw [h]
    rfl
  have hne : path ≠ "" := by
    rintro rfl
    exact absurd habsolute Bool.false_ne_true
  have hresolve : resolve (absolute cwd path) = names := by
    unfold absolute
    rw [if_pos habsolute]
    by_cases hnil : names = []
    · rw [hnil] at h ⊢
      unfold segments
      rw [h]
      rfl
    · rw [segments_of_names h (fun name hname => (hnames name hname).2) hnil]
      exact (resolve_insert (foldl_follow_skip (.inl rfl)) [] names).trans
        (resolve_of_names fun name hname => (hnames name hname).1)
  rw [key_eq hne, hresolve, ← h, hlower, String.ofList_toList]

/-! ### Spellings -/

/-- A path and another spelling of it: with a slash doubled, a slash put at the end, a segment put in that stays where
it is, a name put in and a step up from it, or with ASCII letters in another case. In an absolute path the first
segment, which is the one before the first slash, stays first. -/
inductive Respelled : String → String → Prop where
  | slash (before after : String) : Respelled (before ++ "/" ++ after) (before ++ "//" ++ after)
  | trailing (path : String) : Respelled path (path ++ "/")
  | stay {path path' : String} {before after : List Segment} (h : segments path = before ++ after)
      (h' : segments path' = before ++ [here] ++ after) (hroot : isAbsolute path = true → before ≠ []) :
      Respelled path path'
  | detour {path path' : String} {before after : List Segment} {name : Segment} (hname : IsName name)
      (h : segments path = before ++ after) (h' : segments path' = before ++ [name, up] ++ after)
      (hroot : isAbsolute path = true → before ≠ []) : Respelled path path'
  | recase {path path' : String} (h : path'.toList.map Char.toLower = path.toList.map Char.toLower) :
      Respelled path path'

/-- Segments that lead back to where they start from make no difference in a path that stays absolute or relative. -/
private theorem key_insert (hne : path ≠ "") (h : segments path = before ++ after)
    (h' : segments path' = before ++ part ++ after) (hpart : ∀ kept, part.foldl follow kept = kept)
    (hnil : part ≠ []) (hroot : before = [] → isAbsolute path' = isAbsolute path) :
    path' ≠ "" ∧ key cwd path' = key cwd path := by
  have hne' : path' ≠ "" := by
    rintro rfl
    have hlen := congrArg List.length h'
    have hpath := List.length_pos_iff.2 (segments_ne_nil path)
    have hmore := List.length_pos_iff.2 hnil
    rw [h] at hpath
    simp only [List.length_append] at hlen hpath
    have hone : (segments "").length = 1 := rfl
    omega
  have habsolute : isAbsolute path' = isAbsolute path := by
    cases before with
    | nil => exact hroot rfl
    | cons b before =>
      rw [Bool.eq_iff_iff, isAbsolute_iff hne, isAbsolute_iff hne', h, h']
      exact Iff.rfl
  have hresolve : resolve (absolute cwd path') = resolve (absolute cwd path) := by
    unfold absolute
    rw [habsolute, h, h']
    cases isAbsolute path with
    | true => exact resolve_insert hpart before after
    | false =>
      have hmore := resolve_insert hpart (segments cwd ++ before) after
      simpa using hmore
  rw [key_eq hne, key_eq hne', hresolve]
  exact ⟨hne', rfl⟩

/-- A path that does not start with an empty segment is not absolute, neither before nor after a segment is put in. -/
private theorem isAbsolute_insert (hname : segment ≠ []) (h' : segments path' = before ++ segment :: part ++ after)
    (hroot : isAbsolute path = true → before ≠ []) (hnil : before = []) : isAbsolute path' = isAbsolute path := by
  have hne' : path' ≠ "" := by
    rintro rfl
    rw [hnil] at h'
    exact hname (List.cons.inj h').1.symm
  have hrelative : ¬ isAbsolute path = true := fun habsolute => hroot habsolute hnil
  have hrelative' : ¬ isAbsolute path' = true := by
    rw [isAbsolute_iff hne', h', hnil]
    simpa using hname
  rw [Bool.eq_false_iff.2 hrelative, Bool.eq_false_iff.2 hrelative']

/-! ### The case of ASCII letters -/

private theorem map_intercalate (f : Char → Char) (sep : List Char) (ps : List (List Char)) :
    (sep.intercalate ps).map f = (sep.map f).intercalate (ps.map (List.map f)) := by
  induction ps with
  | nil => rfl
  | cons p ps ih =>
    cases ps with
    | nil => simp
    | cons q ps =>
      rw [List.map_cons] at ih
      rw [List.map_cons, List.map_cons, List.intercalate_cons_cons, List.intercalate_cons_cons, ← ih,
        List.map_append, List.map_append]

private theorem map_toLower_eq_iff {dots : Segment} (h : dots = [] ∨ dots = here ∨ dots = up) :
    segment.map Char.toLower = dots ↔ segment = dots := by
  refine Text.isMark_dot.map_toLower_eq_iff ?_
  rcases h with rfl | rfl | rfl
  · simp
  · simp [here]
  · simp [up]

private theorem follow_map_toLower (kept : List Segment) (segment : Segment) :
    follow (kept.map (List.map Char.toLower)) (segment.map Char.toLower) =
      (follow kept segment).map (List.map Char.toLower) := by
  have hnil : segment.map Char.toLower = [] ↔ segment = [] := map_toLower_eq_iff (.inl rfl)
  have hhere : segment.map Char.toLower = here ↔ segment = here := map_toLower_eq_iff (.inr (.inl rfl))
  have hup : segment.map Char.toLower = up ↔ segment = up := map_toLower_eq_iff (.inr (.inr rfl))
  rcases segment_cases segment with hs | hs | hs
  · rw [follow_skip hs, follow_skip (hs.imp hnil.2 hhere.2)]
  · rw [hup.2 hs, hs, follow_up, follow_up, List.map_tail]
  · rw [follow_name hs, follow_name ⟨mt hnil.1 hs.1, mt hhere.1 hs.2.1, mt hup.1 hs.2.2⟩, List.map_cons]

private theorem foldl_follow_map_toLower (path kept : List Segment) :
    (path.map (List.map Char.toLower)).foldl follow (kept.map (List.map Char.toLower)) =
      (path.foldl follow kept).map (List.map Char.toLower) := by
  induction path generalizing kept with
  | nil => rfl
  | cons segment path ih => rw [List.map_cons, List.foldl_cons, List.foldl_cons, follow_map_toLower, ih]

private theorem resolve_map_toLower (path : List Segment) :
    resolve (path.map (List.map Char.toLower)) = (resolve path).map (List.map Char.toLower) := by
  have hfold := foldl_follow_map_toLower path []
  rw [List.map_nil] at hfold
  unfold resolve
  rw [hfold, List.map_reverse]

private theorem toLower_eq_slash_iff (c : Char) : c.toLower = '/' ↔ c = '/' :=
  Text.isMark_slash.toLower_eq_iff

private theorem isAbsolute_recase (h : path'.toList.map Char.toLower = path.toList.map Char.toLower) :
    isAbsolute path' = isAbsolute path := by
  have hhead : path'.toList.head?.map Char.toLower = path.toList.head?.map Char.toLower := by
    rw [← List.head?_map, h, List.head?_map]
  have hslash : ∀ path : String, isAbsolute path = true ↔ path.toList.head?.map Char.toLower = some '/' := by
    intro path
    simp [isAbsolute, toLower_eq_slash_iff]
  rw [Bool.eq_iff_iff, hslash, hslash, hhead]

private theorem segments_recase (h : path'.toList.map Char.toLower = path.toList.map Char.toLower) :
    (segments path').map (List.map Char.toLower) = (segments path).map (List.map Char.toLower) := by
  unfold segments
  rw [← Text.split_map toLower_eq_slash_iff, h, Text.split_map toLower_eq_slash_iff]

private theorem absolute_recase (h : path'.toList.map Char.toLower = path.toList.map Char.toLower) :
    (absolute cwd path').map (List.map Char.toLower) = (absolute cwd path).map (List.map Char.toLower) := by
  unfold absolute
  rw [isAbsolute_recase h]
  cases isAbsolute path with
  | true => exact segments_recase h
  | false => exact (List.map_append).trans ((congrArg _ (segments_recase h)).trans List.map_append.symm)

/-- A key does not depend on the case of ASCII letters. -/
private theorem key_recase (hne : path ≠ "") (h : path'.toList.map Char.toLower = path.toList.map Char.toLower) :
    path' ≠ "" ∧ key cwd path' = key cwd path := by
  have hne' : path' ≠ "" := by
    rintro rfl
    exact hne (by simpa using h.symm)
  have hfold : ∀ kept : List Segment, Text.lower ('/' :: ['/'].intercalate kept) =
      Text.lower ('/' :: ['/'].intercalate (kept.map (List.map Char.toLower))) := by
    intro kept
    rw [← Text.lower_map_toLower, List.map_cons, map_intercalate]
    rfl
  rw [key_eq hne, key_eq hne', hfold, hfold (resolve (absolute cwd path)), ← resolve_map_toLower,
    ← resolve_map_toLower, absolute_recase h]
  exact ⟨hne', rfl⟩

/-- Every single change of the spelling leaves the key as it is. -/
private theorem Respelled.key_eq (h : Respelled path path') (hne : path ≠ "") :
    path' ≠ "" ∧ key cwd path' = key cwd path := by
  cases h with
  | slash before after =>
    have hsegments : segments (before ++ "//" ++ after) = segments before ++ [[]] ++ segments after := by
      have hslash : before ++ "//" ++ after = before ++ "/" ++ "" ++ "/" ++ after := by
        rw [← String.toList_inj]
        simp
      rw [hslash, segments_append_slash, segments_append_slash]
      rfl
    exact key_insert hne (segments_append_slash before after) hsegments (foldl_follow_skip (.inl rfl))
      (List.cons_ne_nil _ _) fun hnil => absurd hnil (segments_ne_nil before)
  | trailing =>
    have hsegments : segments (path ++ "/") = segments path ++ [[]] ++ [] := by
      have hslash : path ++ "/" = path ++ "/" ++ "" := String.append_empty.symm
      rw [hslash, segments_append_slash, List.append_nil]
      rfl
    exact key_insert hne (List.append_nil _).symm hsegments (foldl_follow_skip (.inl rfl))
      (List.cons_ne_nil _ _) fun hnil => absurd hnil (segments_ne_nil path)
  | stay h h' hroot =>
    exact key_insert hne h h' (foldl_follow_skip (.inr rfl)) (List.cons_ne_nil _ _)
      (isAbsolute_insert (List.cons_ne_nil _ _) h' hroot)
  | detour hname h h' hroot =>
    exact key_insert hne h h' (foldl_follow_detour hname) (List.cons_ne_nil _ _)
      (isAbsolute_insert hname.1 h' hroot)
  | recase h => exact key_recase hne h

private theorem key_respelled (h : Relation.ReflTransGen Respelled path path') (hne : path ≠ "") :
    path' ≠ "" ∧ key cwd path' = key cwd path := by
  induction h with
  | refl => exact ⟨hne, rfl⟩
  | tail _ hstep ih =>
    obtain ⟨hmid, hkey⟩ := ih
    obtain ⟨hne', hkey'⟩ := hstep.key_eq hmid
    exact ⟨hne', hkey'.trans hkey⟩

/-- The key of a path is its absolute form, read from left to right, in lower case. So it is the root or names below it
and nothing else, it is one key for all spellings of the path, and it is its own key. -/
theorem key_reads (cwd : String) (h : path ≠ "") :
    (∃ kept, Reads (segments (join cwd path)) kept ∧
      key cwd path = String.ofList (Text.lower ('/' :: ['/'].intercalate kept))) ∧
    (key cwd path = "/" ∨ ∃ names, names ≠ [] ∧ (∀ name ∈ names, IsName name) ∧
      segments (key cwd path) = [] :: names) ∧
    (∀ path', Relation.ReflTransGen Respelled path path' → key cwd path' = key cwd path) ∧
    key cwd (key cwd path) = key cwd path := by
  obtain ⟨names, hnames, htext⟩ := exists_names cwd h
  refine ⟨⟨_, reads_iff.2 (resolve_segments_join cwd path), key_eq h⟩, ?_,
    fun path' hspelled => (key_respelled hspelled h).2, key_eq_self htext hnames (lower_key cwd path)⟩
  by_cases hnil : names = []
  · rw [hnil] at htext
    exact .inl (String.toList_inj.1 htext)
  · exact .inr ⟨names, hnil, fun name hname => (hnames name hname).1,
      segments_of_names htext (fun name hname => (hnames name hname).2) hnil⟩

/-- A file in the working directory, also by a detour and with its name in capitals. The sigma that ends a segment ends
a word. -/
theorem key_of_detour : "ΟΔΟΣ/init.pp" ≠ "" ∧ key "/Etc" "ΟΔΟΣ/init.pp" = "/etc/οδος/init.pp" ∧
    key "/Etc" "sub/..//ΟΔΟΣ/INIT.pp" = key "/Etc" "ΟΔΟΣ/init.pp" := by
  have hne : "ΟΔΟΣ/init.pp" ≠ "" := by decide
  have hname : IsName "sub".toList := ⟨by decide, by decide, by decide⟩
  have hsegments : segments "sub/../ΟΔΟΣ/init.pp" = [] ++ ["sub".toList, up] ++ segments "ΟΔΟΣ/init.pp" := by decide
  have hdetour : Respelled "ΟΔΟΣ/init.pp" "sub/../ΟΔΟΣ/init.pp" := .detour hname rfl hsegments (by decide)
  have hslash : Respelled "sub/../ΟΔΟΣ/init.pp" "sub/..//ΟΔΟΣ/init.pp" := .slash "sub/.." "ΟΔΟΣ/init.pp"
  have hcase : Respelled "sub/..//ΟΔΟΣ/init.pp" "sub/..//ΟΔΟΣ/INIT.pp" := .recase (by decide)
  exact ⟨hne, by decide +kernel, (key_reads "/Etc" hne).2.2.1 _ (.tail (.tail (.single hdetour) hslash) hcase)⟩

end Path

end Debugger
