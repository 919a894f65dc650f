import Debugger.Proofs.Lines
import Debugger.Proofs.References

/-!
# Where breakpoints are placed

A request for the breakpoints of a file is answered with an entry for each line, in order and with the number that was
asked for. The entry says whether the file has a text with code on that line, and the registry then holds just the lines
for which it does (`setBreakpoints_places`). Line numbers are signed in messages and unsigned in the registry. That does
no harm, for a number that changes between the two is greater than the number of lines of any text
(`unsignedLine_eq_iff`).
-/

namespace Debugger

namespace Text

/-- On a line there is something before its comment that is not white space. -/
def HasCode (l : List Char) : Prop :=
  ∃ before c after, l = before ++ c :: after ∧ commentMarker ∉ before ∧ c ≠ commentMarker ∧ isBlank c = false

private theorem hasCode_cons {c : Char} {l : List Char} :
    HasCode (c :: l) ↔ c ≠ commentMarker ∧ (isBlank c = false ∨ HasCode l) := by
  constructor
  · rintro ⟨before, d, after, hl, hbefore, hd, hblank⟩
    cases before with
    | nil =>
      obtain ⟨rfl, rfl⟩ := List.cons.inj hl
      exact ⟨hd, .inl hblank⟩
    | cons b before =>
      obtain ⟨rfl, rfl⟩ := List.cons.inj hl
      rw [List.mem_cons, not_or] at hbefore
      exact ⟨fun hc => hbefore.1 hc.symm, .inr ⟨before, d, after, rfl, hbefore.2, hd, hblank⟩⟩
  · rintro ⟨hc, hblank | ⟨before, d, after, rfl, hbefore, hd, hblank⟩⟩
    · exact ⟨[], c, l, rfl, List.not_mem_nil, hc, hblank⟩
    · refine ⟨c :: before, d, after, rfl, ?_, hd, hblank⟩
      rw [List.mem_cons, not_or]
      exact ⟨fun h => hc h.symm, hbefore⟩

/-- The check that a line is blank finds out whether there is code on it. -/
private theorem isBlankLine_eq_false_iff {l : List Char} : isBlankLine l = false ↔ HasCode l := by
  induction l with
  | nil => simp [isBlankLine, HasCode]
  | cons c l ih =>
    rw [hasCode_cons, ← ih]
    by_cases hc : c = commentMarker
    · simp [isBlankLine, hc]
    · have htake : (c :: l).takeWhile (· ≠ commentMarker) = c :: l.takeWhile (· ≠ commentMarker) :=
        List.takeWhile_cons_of_pos (by simpa using hc)
      unfold isBlankLine
      rw [htake, List.all_cons, Bool.and_eq_false_iff]
      exact ⟨fun h => ⟨hc, h⟩, fun h => h.2⟩

/-! ### Bytes and lines -/

private theorem size_of_decode? {bytes : List UInt8} {text : String} (h : decode? bytes = some text) :
    size text.toList = bytes.length := by
  unfold decode? String.fromUTF8? at h
  split at h
  · cases h
    rw [← size_utf8Encode, String.utf8Encode_toList]
    rfl
  · contradiction

end Text

/-- A line of a text is not rejected just if the text has it and there is code on it. -/
private theorem rejectLine_eq_none_iff {text : String} {line : Nat} :
    rejectLine text line = none ↔
      ∃ n l, line = n + 1 ∧ (Text.lines text.toList)[n]? = some l ∧ Text.HasCode l := by
  constructor
  · intro h
    cases line with
    | zero => contradiction
    | succ n =>
      cases hline : (Text.lines text.toList)[n]? with
      | none =>
        simp only [rejectLine, hline] at h
        contradiction
      | some l =>
        simp only [rejectLine, hline] at h
        cases hblank : isBlankLine l with
        | true =>
          rw [hblank] at h
          contradiction
        | false => exact ⟨n, l, rfl, hline, Text.isBlankLine_eq_false_iff.1 hblank⟩
  · rintro ⟨n, l, rfl, hline, hcode⟩
    have hblank := Text.isBlankLine_eq_false_iff.2 hcode
    simp only [rejectLine, hline, hblank, Bool.false_eq_true, ↓reduceIte]

namespace Files

/-- A line of a file, counted from one, can carry a breakpoint: the bytes of the file are text that has the line, and
there is code on it. -/
def Carries (files : Files) (file : String) (line : Nat) : Prop :=
  ∃ bytes text n l, files.find? file = some (.file bytes) ∧ Text.decode? bytes = some text ∧ line = n + 1 ∧
    (Text.lines text.toList)[n]? = some l ∧ Text.HasCode l

/-- The text of a file is read from its bytes. -/
private theorem read?_eq_ok_iff {files : Files} {file text : String} :
    files.read? file = some (.ok text) ↔
      ∃ bytes, files.find? file = some (.file bytes) ∧ Text.decode? bytes = some text := by
  constructor
  · intro h
    obtain ⟨entry, hfind, hread⟩ := Option.map_eq_some_iff.1 h
    cases entry with
    | directory => contradiction
    | file bytes =>
      cases hdecode : Text.decode? bytes with
      | none =>
        simp only [hdecode] at hread
        contradiction
      | some text' =>
        simp only [hdecode] at hread
        cases hread
        exact ⟨bytes, hfind, hdecode⟩
  · rintro ⟨bytes, hfind, hdecode⟩
    simp only [read?, hfind, Option.map_some, hdecode]

private theorem rejectLine_eq_none_iff {files : Files} {file : String} {line : Nat} :
    files.rejectLine file line = none ↔ files.Carries file line := by
  constructor
  · intro h
    unfold rejectLine at h
    split at h
    · contradiction
    · contradiction
    · next text hread =>
      obtain ⟨bytes, hfind, hdecode⟩ := read?_eq_ok_iff.1 hread
      obtain ⟨n, l, hline⟩ := Debugger.rejectLine_eq_none_iff.1 h
      exact ⟨bytes, text, n, l, hfind, hdecode, hline⟩
  · rintro ⟨bytes, text, n, l, hfind, hdecode, hline⟩
    have hread : files.read? file = some (.ok text) := read?_eq_ok_iff.2 ⟨bytes, hfind, hdecode⟩
    simp only [rejectLine, hread]
    exact Debugger.rejectLine_eq_none_iff.2 ⟨n, l, hline⟩

/-- The number of a line that can carry a breakpoint is not greater than the number of bytes of the file. -/
private theorem le_of_carries {files : Files} {file : String} {line : Nat} (h : files.Carries file line) :
    ∃ bytes, files.find? file = some (.file bytes) ∧ line ≤ bytes.length := by
  obtain ⟨bytes, text, n, l, hfile, htext, rfl, hline, -⟩ := h
  have hlength := Text.length_lines_le text.toList
  have hlt := (List.getElem?_eq_some_iff.1 hline).1
  rw [Text.size_of_decode? htext] at hlength
  exact ⟨bytes, hfile, by omega⟩

end Files

namespace Adapter

/-- A message can carry a number: it is a signed number of 64 bits. -/
def Signed (line : Int) : Prop := -0x8000000000000000 ≤ line ∧ line < 0x8000000000000000

/-- A number that a message can carry is turned into the number of a line just if it is that number, as far as lines are
not too many. -/
theorem unsignedLine_eq_iff {line : Int} (h : Signed line) {n : Nat} (hn : n < 0x8000000000000000) :
    unsignedLine line = n ↔ line = n := by
  have hsize : (UInt64.size : Int) = 0x10000000000000000 := rfl
  obtain ⟨hlow, hhigh⟩ := h
  unfold unsignedLine
  rw [hsize]
  omega

/-- The entry for a line of a file, if a breakpoint is asked for there. -/
def entry (files : Files) (source : Source) (path : String) (line : Int) : BreakpointView where
  verified := (files.rejectLine path (unsignedLine line)).isNone
  message := (files.rejectLine path (unsignedLine line)).map Rejection.message
  source := some source
  line := some (signedLine (unsignedLine line))

private theorem setBreakpoints_eq (a : Adapter) {source : Source} {path : String} (hpath : source.path = some path)
    (requested : List Int) :
    a.setBreakpoints source requested =
      (a.withSession { a.session with breakpoints :=
          (a.session.breakpoints.setLines a.engine.files path (requested.map unsignedLine)).1 },
        requested.map (entry a.engine.files source path)) := by
  simp only [setBreakpoints, hpath, Registry.setLines, List.map_map]
  rfl

section

variable {files : Files} {path : String}
  (hsize : ∀ bytes, files.find? path = some (.file bytes) → bytes.length < 0x8000000000000000)

include hsize

private theorem unsignedLine_eq_iff_of_carries {line : Int} (h : Signed line) {n : Nat} (hn : files.Carries path n) :
    unsignedLine line = n ↔ line = n := by
  obtain ⟨bytes, hfind, hle⟩ := Files.le_of_carries hn
  exact unsignedLine_eq_iff h (Nat.lt_of_le_of_lt hle (hsize bytes hfind))

/-- An entry is verified just if its line is one that can carry a breakpoint. -/
private theorem verified_entry_iff {line : Int} (h : Signed line) (source : Source) :
    (entry files source path line).verified = true ↔ ∃ n : Nat, line = n ∧ files.Carries path n := by
  have hverified : (entry files source path line).verified = true ↔ files.Carries path (unsignedLine line) :=
    Option.isNone_iff_eq_none.trans Files.rejectLine_eq_none_iff
  rw [hverified]
  constructor
  · intro hcarries
    exact ⟨unsignedLine line, (unsignedLine_eq_iff_of_carries hsize h hcarries).1 rfl, hcarries⟩
  · rintro ⟨n, hline, hcarries⟩
    rwa [(unsignedLine_eq_iff_of_carries hsize h hcarries).2 hline]

/-- The file then has breakpoints on the lines that were asked for and can carry one. -/
private theorem mem_linesOf_setLines (r : Registry) {requested : List Int} (hsigned : ∀ line ∈ requested, Signed line)
    (n : Nat) :
    n ∈ (r.setLines files path (requested.map unsignedLine)).1.linesOf path ↔
      (n : Int) ∈ requested ∧ files.Carries path n := by
  rw [Registry.linesOf_setLines, if_pos rfl, mem_ordered, List.mem_filter, List.mem_map, Option.isNone_iff_eq_none,
    Files.rejectLine_eq_none_iff]
  constructor
  · -- a line that is accepted has the number that was asked for
    rintro ⟨⟨line, hmem, hline⟩, hcarries⟩
    obtain rfl := (unsignedLine_eq_iff_of_carries hsize (hsigned line hmem) hcarries).1 hline
    exact ⟨hmem, hcarries⟩
  · rintro ⟨hmem, hcarries⟩
    exact ⟨⟨n, hmem, (unsignedLine_eq_iff_of_carries hsize (hsigned n hmem) hcarries).2 rfl⟩, hcarries⟩

end

/-- A request for the breakpoints of a file, with line numbers that a message can carry, is answered with an entry for
each of them, in order. An entry is verified just if its line can carry a breakpoint, and has a message just if not.
Then the file has breakpoints on the verified lines, in ascending order, and nothing else is different. The file has
fewer bytes than there are positive numbers that a message can carry, as has every text that fits into memory. -/
theorem setBreakpoints_places (setup : Setup) (interpreter : Interpreter) (a : Adapter) {source : Source}
    {path : String} {breakpoints lines : Option (List Int)} {requested : List Int} (hpath : source.path = some path)
    (hrequested : breakpoints = some requested ∨ breakpoints = none ∧ lines = some requested)
    (hsigned : ∀ line ∈ requested, Signed line)
    (hsize : ∀ bytes, a.engine.files.find? path = some (.file bytes) → bytes.length < 0x8000000000000000)
    (seq : Int) :
    ∃ registry views, a.handle setup interpreter ⟨seq, .setBreakpoints source breakpoints lines⟩ =
        (a.withSession { a.session with breakpoints := registry },
          .response ⟨seq, .ok ("setBreakpoints", .breakpoints views)⟩) ∧
      views.map (·.line) = requested.map some ∧
      (∀ view ∈ views, ∀ line, view.line = some line →
        (view.verified = true ↔ ∃ n : Nat, line = n ∧ a.engine.files.Carries path n)) ∧
      (∀ view ∈ views, view.message.isSome = !view.verified) ∧
      (registry.linesOf path).Pairwise (· < ·) ∧
      (∀ n, n ∈ registry.linesOf path ↔ ∃ view ∈ views, view.line = some (n : Int) ∧ view.verified = true) ∧
      (∀ other, Path.key registry.cwd other ≠ Path.key registry.cwd path →
        registry.linesOf other = a.session.breakpoints.linesOf other) ∧
      registry = { a.session.breakpoints with lines := registry.lines } := by
  have hexecute : a.execute setup interpreter (.setBreakpoints source breakpoints lines) = some
      (a.withSession { a.session with breakpoints :=
          (a.session.breakpoints.setLines a.engine.files path (requested.map unsignedLine)).1 },
        .ok (.breakpoints (requested.map (entry a.engine.files source path)))) := by
    have hlines : (breakpoints.or lines).getD [] = requested := by
      rcases hrequested with rfl | ⟨rfl, rfl⟩ <;> rfl
    simp only [execute, hlines, setBreakpoints_eq a hpath]
  have hline : ∀ line ∈ requested, (entry a.engine.files source path line).line = some line := by
    intro line hmem
    exact congrArg some (signedLine_unsignedLine (hsigned line hmem).1 (hsigned line hmem).2)
  refine ⟨_, _, handle_of_ok (r := ⟨seq, .setBreakpoints source breakpoints lines⟩) hexecute (by simp), ?_, ?_, ?_, ?_,
    ?_, ?_, rfl⟩
  · rw [List.map_map]
    exact List.map_congr_left hline
  · intro view hview line hsame
    obtain ⟨requestedLine, hmem, rfl⟩ := List.mem_map.1 hview
    rw [hline requestedLine hmem, Option.some.injEq] at hsame
    rw [verified_entry_iff hsize (hsigned requestedLine hmem), hsame]
  · intro view hview
    obtain ⟨line, -, rfl⟩ := List.mem_map.1 hview
    simp only [entry, Option.isSome_map]
    cases a.engine.files.rejectLine path (unsignedLine line) <;> rfl
  · rw [Registry.linesOf_setLines, if_pos rfl]
    exact pairwise_ordered _
  · intro n
    rw [mem_linesOf_setLines hsize _ hsigned]
    constructor
    · rintro ⟨hmem, hcarries⟩
      exact ⟨_, List.mem_map_of_mem hmem, hline n hmem,
        (verified_entry_iff hsize (hsigned n hmem) source).2 ⟨n, rfl, hcarries⟩⟩
    · rintro ⟨view, hview, hsame, hverified⟩
      obtain ⟨line, hmem, rfl⟩ := List.mem_map.1 hview
      rw [hline line hmem, Option.some.injEq] at hsame
      obtain ⟨m, hm, hcarries⟩ := (verified_entry_iff hsize (hsigned line hmem) source).1 hverified
      rw [hsame] at hm hmem
      exact ⟨hmem, Int.ofNat_inj.1 hm ▸ hcarries⟩
  · intro other hother
    exact (Registry.linesOf_setLines ..).trans (if_neg hother)

/-- Of a text with code on its first and third lines, the third line is asked for twice, and also numbers that are no
lines: a breakpoint is placed on the third line, and none on any line that is not positive. -/
theorem placed_among_numbers :
    let text := "$a = 1\n # c\n\u00a0b"
    let requested : List Int := [3, 0, -1, 2, 3, 0x7FFFFFFFFFFFFFFF, -0x8000000000000000]
    let source := Source.ofPath "/site.pp"
    let breakpoints : Option (List Int) := none
    let a := new {} (({} : Files).write "/site.pp" text.toUTF8.toList)
    (source.path = some "/site.pp" ∧
        (breakpoints = some requested ∨ breakpoints = none ∧ some requested = some requested) ∧
        (∀ line ∈ requested, Signed line) ∧
        ∀ bytes, a.engine.files.find? "/site.pp" = some (.file bytes) → bytes.length < 0x8000000000000000) ∧
      ∃ registry views, a.handle {} (.scripted [] (.ok 0) [])
          ⟨1, .setBreakpoints source breakpoints (some requested)⟩ =
          (a.withSession { a.session with breakpoints := registry },
            .response ⟨1, .ok ("setBreakpoints", .breakpoints views)⟩) ∧
        views.map (·.line) = requested.map some ∧ 3 ∈ registry.linesOf "/site.pp" ∧
        ∀ view ∈ views, ∀ line, view.line = some line → line ≤ 0 → view.verified = false := by
  intro text requested source breakpoints a
  have hfind : a.engine.files.find? "/site.pp" = some (.file text.toUTF8.toList) := by decide +kernel
  have hdecode : Text.decode? text.toUTF8.toList = some text := by decide +kernel
  have hsigned : ∀ line ∈ requested, Signed line := by
    simp [requested, Signed]
  have hsize : ∀ bytes, a.engine.files.find? "/site.pp" = some (.file bytes) → bytes.length < 0x8000000000000000 := by
    intro bytes h
    rw [hfind] at h
    cases h
    decide +kernel
  have hpath : source.path = some "/site.pp" := rfl
  obtain ⟨registry, views, hanswer, hlines, hverified, -, -, hplaced, -⟩ :=
    setBreakpoints_places {} (.scripted [] (.ok 0) []) a hpath (.inr ⟨rfl, rfl⟩) hsigned hsize 1
  refine ⟨⟨hpath, .inr ⟨rfl, rfl⟩, hsigned, hsize⟩, registry, views, hanswer, hlines, ?_, ?_⟩
  · have hcode : Text.HasCode "\u00a0b".toList := ⟨['\u00a0'], 'b', [], by decide, by decide, by decide, by decide⟩
    have hthree : a.engine.files.Carries "/site.pp" 3 :=
      ⟨_, text, 2, "\u00a0b".toList, hfind, hdecode, rfl, by decide, hcode⟩
    have hmem : some (3 : Int) ∈ views.map (·.line) := by
      rw [hlines]
      decide
    obtain ⟨view, hview, hline⟩ := List.mem_map.1 hmem
    exact (hplaced 3).2 ⟨view, hview, hline, (hverified view hview 3 hline).2 ⟨3, rfl, hthree⟩⟩
  · intro view hview line hline hnot
    cases hv : view.verified with
    | false => rfl
    | true =>
      obtain ⟨n, rfl, -, -, m, -, -, -, rfl, -⟩ := (hverified view hview line hline).1 hv
      omega

end Adapter

end Debugger
