import Debugger.Breakpoint
import Debugger.LineIndex
import Mathlib.Algebra.GroupWithZero.Nat
import Mathlib.Data.List.GetD

/-!
# Lines and byte offsets

Breakpoints count the lines of a text by its pieces between newlines, and nodes count them by the offsets at which lines
start. A byte belongs to a line with the newline that ends it (`Text.OnLine`). Both ways of counting agree: the binary
search finds the line that a byte is on (`LineIndex.lineAt_of_onLine`), for it counts the line starts up to the byte
(`LineIndex.lineAt_ofSource`).
-/

namespace Debugger

namespace Text

/-- The number of bytes of a text. -/
def size (s : List Char) : Nat := (s.map Char.utf8Size).sum

/-- The number of bytes of some lines with the newlines that end them. -/
def sizeOfLines (ls : List (List Char)) : Nat := (ls.map fun l => size l + 1).sum

/-- A byte is on a line, counted from one, if it is a byte of the line or of the newline that ends it. -/
def OnLine (s : List Char) (line byte : Nat) : Prop :=
  ∃ before l after, lines s = before ++ l :: after ∧ line = before.length + 1 ∧
    sizeOfLines before ≤ byte ∧ byte ≤ sizeOfLines before + size l ∧ byte < size s

private theorem size_append (s t : List Char) : size (s ++ t) = size s + size t := by
  simp [size]

theorem size_cons (c : Char) (s : List Char) : size (c :: s) = c.utf8Size + size s := by
  simp [size]

theorem size_utf8Encode (s : List Char) : s.utf8Encode.size = size s := by
  induction s with
  | nil => rfl
  | cons c s ih =>
    have hfirst : [c].utf8Encode.size = c.utf8Size := by
      rw [List.utf8Encode_singleton, List.size_toByteArray, String.length_utf8EncodeChar]
    rw [List.utf8Encode_cons, ByteArray.size_append, ih, hfirst, size_cons]

/-- A text up to the end of a piece: the pieces before it with their separators, and the piece. -/
theorem eq_of_split {sep : Char} {s l : List Char} {before after : List (List Char)}
    (h : split sep s = before ++ l :: after) :
    (∃ rest, s = before.flatMap (· ++ [sep]) ++ l ++ rest) ∧ sep ∉ l ∧ ∀ p ∈ before, sep ∉ p := by
  induction s generalizing before l after with
  | nil =>
    rw [split, List.singleton_eq_append_iff] at h
    simp at h
    obtain ⟨rfl, rfl, -⟩ := h
    exact ⟨⟨[], rfl⟩, List.not_mem_nil, fun p hp => absurd hp List.not_mem_nil⟩
  | cons c s ih =>
    by_cases hc : c = sep
    · rw [split, if_pos hc] at h
      rcases before with _ | ⟨p, before⟩
      · obtain ⟨rfl, -⟩ := List.cons.inj h
        exact ⟨⟨c :: s, rfl⟩, List.not_mem_nil, fun p hp => absurd hp List.not_mem_nil⟩
      · obtain ⟨rfl, htail⟩ := List.cons.inj h
        obtain ⟨⟨rest, hs⟩, hl, hbefore⟩ := ih htail
        refine ⟨⟨rest, by rw [hc, hs]; rfl⟩, hl, fun q hq => ?_⟩
        rcases List.mem_cons.1 hq with rfl | hq
        · exact List.not_mem_nil
        · exact hbefore q hq
    · obtain ⟨p, ps, hsplit⟩ := List.exists_cons_of_ne_nil (split_ne_nil sep s)
      rw [split, if_neg hc, hsplit] at h
      rcases before with _ | ⟨q, before⟩
      · obtain ⟨rfl, -⟩ := List.cons.inj h
        have hfirst : split sep s = [] ++ p :: ps := hsplit
        obtain ⟨⟨rest, hs⟩, hp, -⟩ := ih hfirst
        refine ⟨⟨rest, by rw [hs]; rfl⟩, ?_, fun q hq => absurd hq List.not_mem_nil⟩
        rw [List.mem_cons, not_or]
        exact ⟨fun heq => hc heq.symm, hp⟩
      · obtain ⟨rfl, htail⟩ := List.cons.inj h
        have hmore : split sep s = (p :: before) ++ l :: after := hsplit.trans (congrArg (p :: ·) htail)
        obtain ⟨⟨rest, hs⟩, hl, hbefore⟩ := ih hmore
        refine ⟨⟨rest, by rw [hs]; rfl⟩, hl, fun q hq => ?_⟩
        rcases List.mem_cons.1 hq with rfl | hq
        · rw [List.mem_cons, not_or]
          exact ⟨fun heq => hc heq.symm, hbefore p List.mem_cons_self⟩
        · exact hbefore q (List.mem_cons_of_mem p hq)

private theorem lines_prefix (s : List Char) : lines s <+: split '\n' s := by
  show (if (split '\n' s).getLast? = some [] then (split '\n' s).dropLast else split '\n' s) <+: split '\n' s
  split
  · exact List.dropLast_prefix _
  · exact List.prefix_rfl

private theorem count_flatMap {sep : Char} {ls : List (List Char)} (h : ∀ p ∈ ls, sep ∉ p) :
    (ls.flatMap (· ++ [sep])).count sep = ls.length := by
  induction ls with
  | nil => rfl
  | cons l ls ih =>
    rw [List.forall_mem_cons] at h
    rw [List.flatMap_cons, List.count_append, ih h.2, List.count_append, List.count_eq_zero.2 h.1]
    simp
    omega

private theorem size_flatMap (ls : List (List Char)) : size (ls.flatMap (· ++ ['\n'])) = sizeOfLines ls := by
  induction ls with
  | nil => rfl
  | cons l ls ih =>
    have hnewline : size ['\n'] = 1 := rfl
    rw [List.flatMap_cons, size_append, ih, size_append, hnewline]
    simp [sizeOfLines]

theorem sizeOfLines_cons (l : List Char) (ls : List (List Char)) :
    sizeOfLines (l :: ls) = size l + 1 + sizeOfLines ls := by
  simp [sizeOfLines]

theorem sizeOfLines_append (ls ls' : List (List Char)) :
    sizeOfLines (ls ++ ls') = sizeOfLines ls + sizeOfLines ls' := by
  simp [sizeOfLines]

/-- The pieces of a text have all its bytes, and one more for the separator that the last piece lacks. -/
theorem sizeOfLines_split (s : List Char) : sizeOfLines (split '\n' s) = size s + 1 := by
  induction s with
  | nil => rfl
  | cons c s ih =>
    rw [split, size_cons]
    by_cases hc : c = '\n'
    · have hnewline : ('\n' : Char).utf8Size = 1 := rfl
      rw [if_pos hc, sizeOfLines_cons, ih, hc, hnewline]
      simp [size]
      omega
    · obtain ⟨p, ps, hsplit⟩ := List.exists_cons_of_ne_nil (split_ne_nil '\n' s)
      rw [hsplit, sizeOfLines_cons] at ih
      rw [if_neg hc, hsplit]
      simp only [sizeOfLines_cons, size_cons]
      omega

/-- The last piece is dropped if it is empty, and else it is the last line. -/
private theorem lines_cases (s : List Char) :
    split '\n' s = lines s ++ [[]] ∨ ∃ before l, l ≠ [] ∧ lines s = before ++ [l] ∧ split '\n' s = before ++ [l] := by
  have hlines : lines s = if (split '\n' s).getLast? = some [] then (split '\n' s).dropLast else split '\n' s := rfl
  by_cases hempty : (split '\n' s).getLast? = some []
  · rw [if_pos hempty] at hlines
    obtain ⟨before, hsplit⟩ := List.getLast?_eq_some_iff.1 hempty
    rw [hlines, hsplit, List.dropLast_concat]
    exact .inl rfl
  · rw [if_neg hempty] at hlines
    have hsplit := (List.dropLast_concat_getLast (split_ne_nil '\n' s)).symm
    refine .inr ⟨_, _, fun hnil => hempty ?_, hlines.trans hsplit, hsplit⟩
    rw [List.getLast?_eq_some_getLast (split_ne_nil '\n' s), hnil]

/-- The lines of a text with their newlines have all its bytes. -/
theorem size_le_sizeOfLines (s : List Char) : size s ≤ sizeOfLines (lines s) := by
  have hpieces := sizeOfLines_split s
  rcases lines_cases s with hsplit | ⟨before, l, -, hlines, hsplit⟩
  · have hempty : sizeOfLines [[]] = 1 := rfl
    rw [hsplit, sizeOfLines_append] at hpieces
    omega
  · rw [hsplit] at hpieces
    rw [hlines]
    omega

private theorem length_le_sizeOfLines (ls : List (List Char)) : ls.length ≤ sizeOfLines ls := by
  induction ls with
  | nil => exact Nat.le_refl 0
  | cons l ls ih =>
    rw [sizeOfLines_cons, List.length_cons]
    omega

/-- There are no more lines than bytes. -/
theorem length_lines_le (s : List Char) : (lines s).length ≤ size s := by
  have hpieces := sizeOfLines_split s
  rcases lines_cases s with hsplit | ⟨before, l, hl, hlines, hsplit⟩
  · have hempty : sizeOfLines [[]] = 1 := rfl
    have hlength := length_le_sizeOfLines (lines s)
    rw [hsplit, sizeOfLines_append] at hpieces
    omega
  · obtain ⟨c, l, rfl⟩ := List.exists_cons_of_ne_nil hl
    have hpos := c.utf8Size_pos
    have hlength := length_le_sizeOfLines before
    rw [hsplit, sizeOfLines_append, sizeOfLines_cons, size_cons] at hpieces
    rw [hlines, List.length_append, List.length_singleton]
    omega

end Text

namespace LineIndex

open Text (size)

/-! ### The starts of lines -/

theorem startsAfter_append (offset : Nat) (s t : List Char) :
    startsAfter offset (s ++ t) = startsAfter offset s ++ startsAfter (offset + size s) t := by
  induction s generalizing offset with
  | nil => rfl
  | cons c s ih =>
    have hnext : offset + size (c :: s) = offset + c.utf8Size + size s := by
      rw [Text.size_cons]
      omega
    rw [List.cons_append, startsAfter, startsAfter, ih, hnext]
    by_cases hc : c = '\n'
    · rw [if_pos hc, if_pos hc, List.cons_append]
    · rw [if_neg hc, if_neg hc]

theorem bounds_of_mem_startsAfter {offset start : Nat} {s : List Char} (h : start ∈ startsAfter offset s) :
    offset < start ∧ start ≤ offset + size s := by
  induction s generalizing offset with
  | nil => contradiction
  | cons c s ih =>
    have hpos := c.utf8Size_pos
    have hsize := Text.size_cons c s
    rw [startsAfter] at h
    by_cases hc : c = '\n'
    · rw [if_pos hc, List.mem_cons] at h
      rcases h with rfl | h
      · omega
      · have := ih h
        omega
    · rw [if_neg hc] at h
      have := ih h
      omega

theorem pairwise_startsAfter (offset : Nat) (s : List Char) : (startsAfter offset s).Pairwise (· < ·) := by
  induction s generalizing offset with
  | nil => exact .nil
  | cons c s ih =>
    rw [startsAfter]
    by_cases hc : c = '\n'
    · rw [if_pos hc]
      exact .cons (fun start h => (bounds_of_mem_startsAfter h).1) (ih _)
    · rw [if_neg hc]
      exact ih _

private theorem pairwise_ofSource (source : String) : (ofSource source).starts.Pairwise (· < ·) :=
  .cons (fun _ h => (bounds_of_mem_startsAfter h).1) (pairwise_startsAfter 0 source.toList)

/-! ### The binary search -/

/-- The search cuts the entries into those up to the offset and those past it. -/
private theorem countUpTo_cut {starts : Array Nat} {offset lo hi : Nat} (hhi : hi ≤ starts.size) (hle : lo ≤ hi)
    (hsorted : ∀ i j, i ≤ j → j < starts.size → starts.getD i 0 ≤ starts.getD j 0)
    (hbelow : ∀ i < lo, starts.getD i 0 ≤ offset)
    (habove : ∀ i, hi ≤ i → i < starts.size → offset < starts.getD i 0) :
    let n := countUpTo starts offset lo hi
    n ≤ starts.size ∧ (∀ i < n, starts.getD i 0 ≤ offset) ∧
      ∀ i, n ≤ i → i < starts.size → offset < starts.getD i 0 := by
  fun_induction countUpTo starts offset lo hi with
  | case1 lo hi hlt mid hmid ih =>
    have hmid' : mid = lo + (hi - lo) / 2 := rfl
    refine ih hhi (by omega) (fun i hi' => ?_) habove
    have := hsorted i mid (by omega) (by omega)
    omega
  | case2 lo hi hlt mid hmid ih =>
    have hmid' : mid = lo + (hi - lo) / 2 := rfl
    refine ih (by omega) (by omega) hbelow fun i hi' hsize => ?_
    have := hsorted mid i hi' hsize
    omega
  | case3 lo hi hlt =>
    obtain rfl : lo = hi := by omega
    exact ⟨hhi, hbelow, habove⟩

private theorem countP_of_cut {starts : List Nat} {offset n : Nat} (hn : n ≤ starts.length)
    (hbelow : ∀ i < n, starts.getD i 0 ≤ offset)
    (habove : ∀ i, n ≤ i → i < starts.length → offset < starts.getD i 0) :
    starts.countP (· ≤ offset) = n := by
  have hfirst : (starts.take n).countP (· ≤ offset) = n := by
    have hlength : (starts.take n).length = n := by rw [List.length_take, Nat.min_eq_left hn]
    refine Eq.trans (List.countP_eq_length.2 fun start hin => ?_) hlength
    obtain ⟨i, hi, rfl⟩ := List.mem_iff_getElem.1 hin
    have hle := hbelow i (by omega)
    rw [List.getD_eq_getElem _ _ (by omega)] at hle
    simpa using hle
  have hlast : (starts.drop n).countP (· ≤ offset) = 0 := by
    refine List.countP_eq_zero.2 fun start hin => ?_
    obtain ⟨i, hi, rfl⟩ := List.mem_iff_getElem.1 hin
    rw [List.length_drop] at hi
    have hlt := habove (n + i) (by omega) (by omega)
    rw [List.getD_eq_getElem _ _ (by omega)] at hlt
    simpa using hlt
  rw [← List.take_append_drop n starts, List.countP_append, hfirst, hlast, Nat.add_zero]

/-- The binary search counts the entries up to the offset. -/
private theorem countUpTo_eq {starts : List Nat} (h : starts.Pairwise (· < ·)) (offset : Nat) :
    countUpTo starts.toArray offset 0 starts.toArray.size = starts.countP (· ≤ offset) := by
  have hget : ∀ i, starts.toArray.getD i 0 = starts.getD i 0 := by
    intro i
    simp [Array.getD_eq_getD_getElem?, List.getD_eq_getElem?_getD]
  have hsorted : ∀ i j, i ≤ j → j < starts.toArray.size → starts.toArray.getD i 0 ≤ starts.toArray.getD j 0 := by
    intro i j hij hj
    rw [List.size_toArray] at hj
    rw [hget, hget, List.getD_eq_getElem _ _ (by omega), List.getD_eq_getElem _ _ hj]
    rcases Nat.eq_or_lt_of_le hij with rfl | hlt
    · exact Nat.le_refl _
    · exact Nat.le_of_lt (List.pairwise_iff_getElem.1 h i j (by omega) hj hlt)
  have hnone : ∀ i < 0, starts.toArray.getD i 0 ≤ offset := fun i hi => absurd hi (Nat.not_lt_zero i)
  obtain ⟨hn, hbelow, habove⟩ := countUpTo_cut (Nat.le_refl _) (Nat.zero_le starts.toArray.size) hsorted hnone
    fun i hi hlt => absurd hlt (Nat.not_lt.2 hi)
  simp only [hget] at hbelow habove
  exact (countP_of_cut hn hbelow habove).symm

/-- The line of an offset is one more than the newlines that end up to it. -/
theorem lineAt_ofSource (source : String) (offset : Nat) :
    (ofSource source).lineAt offset = (startsAfter 0 source.toList).countP (· ≤ offset) + 1 := by
  have hcount : (ofSource source).starts.countP (· ≤ offset) =
      (startsAfter 0 source.toList).countP (· ≤ offset) + 1 := by
    rw [ofSource, List.countP_cons_of_pos (by simp)]
  rw [lineAt, countUpTo_eq (pairwise_ofSource source), hcount]
  omega

theorem lineAt_mono (source : String) {offset offset' : Nat} (h : offset ≤ offset') :
    (ofSource source).lineAt offset ≤ (ofSource source).lineAt offset' := by
  rw [lineAt_ofSource, lineAt_ofSource]
  have hcount : (startsAfter 0 source.toList).countP (· ≤ offset) ≤
      (startsAfter 0 source.toList).countP (· ≤ offset') := by
    refine List.countP_mono_left fun start _ hstart => ?_
    simp only [decide_eq_true_eq] at hstart ⊢
    omega
  omega

/-- A byte that is on a line is found there. -/
theorem lineAt_of_onLine {source : String} {line byte : Nat} (h : Text.OnLine source.toList line byte) :
    (ofSource source).lineAt byte = line := by
  obtain ⟨before, l, after, hlines, rfl, hlow, hhigh, -⟩ := h
  obtain ⟨more, hsplit⟩ := Text.lines_prefix source.toList
  rw [hlines, List.append_assoc, List.cons_append] at hsplit
  obtain ⟨⟨rest, hsource⟩, hl, hbefore⟩ := Text.eq_of_split hsplit.symm
  rw [lineAt_ofSource, hsource, startsAfter_append, startsAfter_append, List.countP_append, List.countP_append]
  have hpieces : (startsAfter 0 (before.flatMap (· ++ ['\n']))).countP (· ≤ byte) = before.length := by
    rw [List.countP_eq_length.2, length_startsAfter, Text.count_flatMap hbefore]
    intro start hin
    have hbound := (bounds_of_mem_startsAfter hin).2
    rw [Text.size_flatMap] at hbound
    simp only [decide_eq_true_eq]
    omega
  have hline : ∀ offset, startsAfter offset l = [] := by
    intro offset
    rw [← List.length_eq_zero_iff, length_startsAfter, List.count_eq_zero]
    exact hl
  have hrest : (startsAfter (0 + size (before.flatMap (· ++ ['\n']) ++ l)) rest).countP (· ≤ byte) = 0 := by
    refine List.countP_eq_zero.2 fun start hin => ?_
    have hbound := (bounds_of_mem_startsAfter hin).1
    rw [Text.size_append, Text.size_flatMap] at hbound
    simp only [decide_eq_true_eq]
    omega
  rw [hpieces, hline, hrest]
  simp

end LineIndex

end Debugger
