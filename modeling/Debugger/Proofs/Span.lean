import Debugger.Proofs.Hit
import Mathlib.Data.Nat.Init

/-!
# Stops on the lines of a node

Each byte of a text is on just one line, the one that its offset is found on (`Text.onLine_iff`). The bytes of a node
are on the lines from that of its first byte to that of its last byte (`LineIndex.exists_onLine_iff`), but a node looks
for breakpoints up to the line of the offset where it ends, which is one line more if its last byte is a newline
(`LineIndex.lineAt_succ`). So a stop at a breakpoint reports a line that the node has a byte on, except for this one
(`Session.stops_on_line_of_node`).
-/

namespace Debugger

namespace Text

/-- A newline ends just before an offset. -/
def EndsLine (s : List Char) (offset : Nat) : Prop :=
  ∃ before after, s = before ++ '\n' :: after ∧ size before + 1 = offset

/-! ### Each byte is on a line -/

/-- An offset below the end of some lines falls on one of them. -/
private theorem exists_piece {ls : List (List Char)} {byte : Nat} (h : byte < sizeOfLines ls) :
    ∃ before l after, ls = before ++ l :: after ∧ sizeOfLines before ≤ byte ∧ byte ≤ sizeOfLines before + size l := by
  induction ls generalizing byte with
  | nil => exact absurd h (Nat.not_lt_zero byte)
  | cons l ls ih =>
    by_cases hfirst : byte ≤ size l
    · exact ⟨[], l, ls, rfl, Nat.zero_le byte, by simpa [sizeOfLines] using hfirst⟩
    · rw [sizeOfLines_cons] at h
      have hrest : byte - (size l + 1) < sizeOfLines ls := by omega
      obtain ⟨before, l', after, rfl, hlow, hhigh⟩ := ih hrest
      refine ⟨l :: before, l', after, rfl, ?_, ?_⟩ <;> rw [sizeOfLines_cons] <;> omega

/-- A byte of a text is on the line that its offset is found on, and on no other. -/
theorem onLine_iff {source : String} {line byte : Nat} :
    OnLine source.toList line byte ↔
      byte < size source.toList ∧ (LineIndex.ofSource source).lineAt byte = line := by
  constructor
  · intro h
    have hsize : byte < size source.toList := by
      obtain ⟨-, -, -, -, -, -, -, hsize⟩ := h
      exact hsize
    exact ⟨hsize, LineIndex.lineAt_of_onLine h⟩
  · rintro ⟨hsize, rfl⟩
    obtain ⟨before, l, after, hlines, hlow, hhigh⟩ :=
      exists_piece (Nat.lt_of_lt_of_le hsize (size_le_sizeOfLines source.toList))
    have hon : OnLine source.toList (before.length + 1) byte := ⟨before, l, after, hlines, rfl, hlow, hhigh, hsize⟩
    rwa [LineIndex.lineAt_of_onLine hon]

end Text

namespace LineIndex

open Text (size)

/-! ### Where a line begins -/

/-- A line starts at an offset, other than the first, just if a newline ends there. -/
private theorem mem_startsAfter {offset start : Nat} {s : List Char} :
    start ∈ startsAfter offset s ↔
      ∃ before after, s = before ++ '\n' :: after ∧ offset + (size before + 1) = start := by
  constructor
  · intro h
    induction s generalizing offset with
    | nil => contradiction
    | cons c s ih =>
      rw [startsAfter] at h
      by_cases hc : c = '\n'
      · rw [if_pos hc, List.mem_cons] at h
        rcases h with rfl | h
        · exact ⟨[], s, by rw [hc]; rfl, by rw [hc]; rfl⟩
        · obtain ⟨before, after, rfl, rfl⟩ := ih h
          exact ⟨c :: before, after, rfl, by rw [Text.size_cons]; omega⟩
      · rw [if_neg hc] at h
        obtain ⟨before, after, rfl, rfl⟩ := ih h
        exact ⟨c :: before, after, rfl, by rw [Text.size_cons]; omega⟩
  · rintro ⟨before, after, rfl, rfl⟩
    rw [startsAfter_append, startsAfter, if_pos rfl]
    exact List.mem_append_right _ List.mem_cons_self

private theorem endsLine_iff {s : List Char} {offset : Nat} : Text.EndsLine s offset ↔ offset ∈ startsAfter 0 s := by
  simp only [Text.EndsLine, mem_startsAfter, Nat.zero_add]

private theorem countP_le_succ {ns : List Nat} (h : ns.Pairwise (· < ·)) (n : Nat) :
    ns.countP (· ≤ n + 1) = ns.countP (· ≤ n) + if n + 1 ∈ ns then 1 else 0 := by
  have hcount : ns.countP (· ≤ n + 1) = ns.countP (· ≤ n) + ns.count (n + 1) := by
    clear h
    induction ns with
    | nil => rfl
    | cons m ns ih =>
      simp only [List.countP_cons, List.count_cons, ih, decide_eq_true_eq, beq_iff_eq]
      split <;> split <;> split <;> omega
  rw [hcount, List.Nodup.count (h.imp Nat.ne_of_lt)]

/-- From one offset to the next the line changes just if a line starts there, and then by one. -/
theorem lineAt_succ (source : String) (offset : Nat) :
    (ofSource source).lineAt (offset + 1) =
      (ofSource source).lineAt offset + if offset + 1 ∈ startsAfter 0 source.toList then 1 else 0 := by
  rw [lineAt_ofSource, lineAt_ofSource, countP_le_succ (pairwise_startsAfter 0 source.toList)]
  omega

/-- From one offset to a later one no line is left out. -/
private theorem exists_lineAt_eq {source : String} {first last line : Nat} (h : first ≤ last)
    (hfirst : (ofSource source).lineAt first ≤ line) (hlast : line ≤ (ofSource source).lineAt last) :
    ∃ byte, first ≤ byte ∧ byte ≤ last ∧ (ofSource source).lineAt byte = line := by
  induction last, h using Nat.le_induction with
  | base => exact ⟨first, Nat.le_refl _, Nat.le_refl _, Nat.le_antisymm hfirst hlast⟩
  | succ last h ih =>
    have hsucc := lineAt_succ source last
    -- the line goes up by one at most, so it is reached only now or was reached before
    rcases Nat.lt_or_ge ((ofSource source).lineAt last) line with hlt | hge
    · refine ⟨last + 1, by omega, Nat.le_refl _, ?_⟩
      split at hsucc <;> omega
    · obtain ⟨byte, hlow, hhigh, hline⟩ := ih hge
      exact ⟨byte, hlow, by omega, hline⟩

/-- The bytes of a span are on the lines from that of the first to that of the last of them. -/
theorem exists_onLine_iff {source : String} {offset length line : Nat} (hlength : 0 < length)
    (hinside : offset + length ≤ size source.toList) :
    (∃ byte, offset ≤ byte ∧ byte < offset + length ∧ Text.OnLine source.toList line byte) ↔
      (ofSource source).lineAt offset ≤ line ∧ line ≤ (ofSource source).lineAt (offset + length - 1) := by
  constructor
  · rintro ⟨byte, hlow, hhigh, hon⟩
    obtain ⟨-, rfl⟩ := Text.onLine_iff.1 hon
    exact ⟨lineAt_mono source hlow, lineAt_mono source (by omega)⟩
  · rintro ⟨hfirst, hlast⟩
    obtain ⟨byte, hlow, hhigh, hline⟩ := exists_lineAt_eq (by omega) hfirst hlast
    exact ⟨byte, hlow, by omega, Text.onLine_iff.2 ⟨by omega, hline⟩⟩

/-- Up to the line of the offset where a span ends, its bytes are on all lines from that of the first byte, but for the
last one if the span ends with a newline. -/
private theorem exists_onLine_iff_of_le {source : String} {offset length line : Nat} (hlength : 0 < length)
    (hinside : offset + length ≤ size source.toList) (hfirst : (ofSource source).lineAt offset ≤ line)
    (hlast : line ≤ (ofSource source).lineAt (offset + length)) :
    (∃ byte, offset ≤ byte ∧ byte < offset + length ∧ Text.OnLine source.toList line byte) ↔
      ¬ (Text.EndsLine source.toList (offset + length) ∧ line = (ofSource source).lineAt (offset + length)) := by
  have hsucc := lineAt_succ source (offset + length - 1)
  rw [Nat.sub_add_cancel (by omega)] at hsucc
  rw [exists_onLine_iff hlength hinside, endsLine_iff]
  -- the line of the end is that of the last byte, or the next one if it starts there
  by_cases hstart : offset + length ∈ startsAfter 0 source.toList
  · rw [if_pos hstart] at hsucc
    constructor
    · rintro ⟨-, hle⟩ ⟨-, heq⟩
      omega
    · intro h
      have hne : line ≠ (ofSource source).lineAt (offset + length) := fun heq => h ⟨hstart, heq⟩
      omega
  · rw [if_neg hstart] at hsucc
    exact ⟨fun _ h => hstart h.1, fun _ => ⟨hfirst, by omega⟩⟩

end LineIndex

/-- A node takes up the bytes of a text at a place: at least one, and none past the end of the text. -/
structure Node.Spans (node : Node) (place : Location) (text : String) : Prop where
  location : node.location = some place
  index : node.index = LineIndex.ofSource text
  first : place.line = (LineIndex.ofSource text).lineAt place.offset
  length : 0 < place.length
  inside : place.offset + place.length ≤ Text.size text.toList

/-! ### What a stop reports -/

/-- The line is read off the text of a stop. -/
private theorem Stop.line_of_text {file : String} {line line' : Nat}
    (h : (Stop.atLine file line).text = "Line " ++ toString line') : line = line' :=
  eq_of_toString_eq ((String.append_right_inj "Line ").1 h)

namespace Session

/-- A stop that is announced when a node is entered is the one that is looked for at the node. -/
private theorem stopAt_of_entered {setup : Setup} {s : Session} {node : Node} {scope : Scope} {stop : Stop}
    {thread : Int} (h : (s.perform setup (.hook (.enter node scope))).1.events = s.events ++ [.stopped stop thread]) :
    { s with depth := s.depth + 1 }.stopAt setup node = some stop := by
  have hevents : (s.announce setup (.enter node scope)).1.events = s.events ++ [.stopped stop thread] := by
    rw [← h]
    simp only [perform]
    rw [awaitIf_session]
    rfl
  rcases announce_changes setup s (.enter node scope) with
    ⟨depth, hs⟩ | ⟨channel, text, hs⟩ | ⟨hfree, depth, what, snapshot, hs⟩
  · rw [hs] at hevents
    exact absurd (List.self_eq_append_right.1 hevents) (by simp)
  · rw [hs, events_send, List.append_cancel_left_eq] at hevents
    cases hevents
  · cases hwhat : { s with depth := s.depth + 1 }.stopAt setup node with
    | some what' =>
      rw [(enter_of_stopAt hfree scope hwhat).2, List.append_cancel_left_eq] at h
      cases h
      rfl
    | none =>
      have hnone : s.announce setup (.enter node scope) = _ := enter_of_free hfree setup node scope
      rw [hwhat, hs] at hnone
      exact absurd (congrArg Prod.snd hnone) (by simp)

/-- The line that is reported with a breakpoint is one that was looked at. -/
private theorem lineBreakpoint_of_stopAt {setup : Setup} {s : Session} {node : Node} {stop : Stop}
    (h : s.stopAt setup node = some stop) (hreason : stop.reason = .breakpoint) :
    ∃ file line, s.lineBreakpoint setup node = some (file, line) ∧ stop = .atLine file line := by
  unfold stopAt at h
  cases hfunction : s.functionBreakpoint node with
  | some name =>
    simp only [hfunction, Option.some.injEq] at h
    rw [← h] at hreason
    contradiction
  | none =>
    cases hline : s.lineBreakpoint setup node with
    | some found =>
      obtain ⟨file, line⟩ := found
      simp only [hfunction, hline, Option.some.injEq] at h
      exact ⟨file, line, rfl, h.symm⟩
    | none =>
      simp only [hfunction, hline] at h
      split at h
      · cases h
        contradiction
      · contradiction

private theorem between_of_lineBreakpoint {setup : Setup} {s : Session} {node : Node} {place : Location} {file : String}
    {line : Nat} (hlocation : node.location = some place) (h : s.lineBreakpoint setup node = some (file, line)) :
    file = place.file ∧ place.line ≤ line ∧ line ≤ node.endLine place := by
  simp only [lineBreakpoint, hlocation, Option.bind_eq_bind, Option.bind_some] at h
  split at h
  · contradiction
  · obtain ⟨found, hfound, hsame⟩ := Option.bind_eq_some_iff.1 h
    have hspan := List.find?_some hfound
    cases hsame
    simp only [Bool.and_eq_true, decide_eq_true_eq] at hspan
    exact ⟨rfl, hspan⟩

/-- When evaluation stops at a breakpoint on entering a node, the node has a byte on the line that is reported, unless
the node ends with a newline and the line is the one after it. -/
theorem stops_on_line_of_node (setup : Setup) {s : Session} {node : Node} {place : Location} {text : String}
    (scope : Scope) {stop : Stop} {thread : Int} {line : Nat} (hspans : node.Spans place text)
    (hstop : (s.perform setup (.hook (.enter node scope))).1.events = s.events ++ [.stopped stop thread])
    (hreason : stop.reason = .breakpoint) (hreport : stop.text = "Line " ++ toString line) :
    stop = .atLine place.file line ∧
      ((∃ byte, place.offset ≤ byte ∧ byte < place.offset + place.length ∧ Text.OnLine text.toList line byte) ↔
        ¬ (Text.EndsLine text.toList (place.offset + place.length) ∧ line = node.endLine place)) := by
  obtain ⟨file, found, hfound, rfl⟩ := lineBreakpoint_of_stopAt (stopAt_of_entered hstop) hreason
  obtain ⟨rfl, hfirst, hlast⟩ := between_of_lineBreakpoint hspans.location hfound
  obtain rfl : found = line := Stop.line_of_text hreport
  refine ⟨rfl, ?_⟩
  rw [hspans.first] at hfirst
  rw [Node.endLine, hspans.index] at hlast ⊢
  exact LineIndex.exists_onLine_iff_of_le hspans.length hspans.inside hfirst hlast

/-- A node over two lines without the last newline stops at the second of them, and has a byte there. -/
theorem stops_on_last_line :
    let text := "$a = 1\n$b = 2\n"
    let place : Location := { file := "/site.pp", line := 1, offset := 0, length := 13 }
    let node : Node := { id := 0, kind := "Block", location := some place, index := LineIndex.ofSource text }
    let e := Engine.new {} (({} : Files).write "/site.pp" text.toUTF8.toList)
    let s := (e.step {} (.setLines "/site.pp" [2])).1.session
    let stop : Stop := .atLine "/site.pp" 2
    (node.Spans place text ∧ (s.perform {} (.hook (.enter node {}))).1.events = s.events ++ [.stopped stop 1] ∧
        stop.reason = .breakpoint ∧ stop.text = "Line " ++ toString 2) ∧
      ∃ byte, 0 ≤ byte ∧ byte < 0 + 13 ∧ Text.OnLine text.toList 2 byte := by
  intro text place node e s stop
  have hspans : node.Spans place text := by
    refine ⟨rfl, rfl, ?_, by decide, by decide⟩
    rw [LineIndex.lineAt_ofSource]
    decide
  have hstop : (s.perform {} (.hook (.enter node {}))).1.events = s.events ++ [.stopped stop 1] := by decide +kernel
  obtain ⟨-, hbyte⟩ := stops_on_line_of_node {} {} hspans hstop rfl rfl
  exact ⟨⟨hspans, hstop, rfl, rfl⟩, hbyte.2 fun hends => absurd (LineIndex.endsLine_iff.1 hends.1) (by decide)⟩

/-- A node does not always have a byte on the line that is reported: a node that ends with a newline stops at a
breakpoint on the line after it. -/
theorem stops_past_last_line :
    ¬ ∀ (text : String) (requested : List Nat) (node : Node) (place : Location) (stop : Stop) (line : Nat),
      let e := Engine.new {} (({} : Files).write place.file text.toUTF8.toList)
      let s := (e.step {} (.setLines place.file requested)).1.session
      node.Spans place text → (s.perform {} (.hook (.enter node {}))).1.events = s.events ++ [.stopped stop 1] →
        stop.reason = .breakpoint → stop.text = "Line " ++ toString line →
          ∃ byte, place.offset ≤ byte ∧ byte < place.offset + place.length ∧ Text.OnLine text.toList line byte := by
  intro h
  let text := "$a = 1\n$b = 2\n"
  let place : Location := { file := "/site.pp", line := 1, offset := 0, length := 7 }
  let node : Node := { id := 0, kind := "Assignment", location := some place, index := LineIndex.ofSource text }
  have hspans : node.Spans place text := by
    refine ⟨rfl, rfl, ?_, by decide, by decide⟩
    rw [LineIndex.lineAt_ofSource]
    decide
  have hbyte := h text [2] node place (.atLine "/site.pp" 2) 2 hspans (by decide +kernel) rfl rfl
  have hlast := ((LineIndex.exists_onLine_iff hspans.length hspans.inside).1 hbyte).2
  rw [LineIndex.lineAt_ofSource] at hlast
  exact absurd hlast (by decide)

end Session

end Debugger
