import Debugger.Proofs.Termination

/-!
# Stops and resumes take turns

The stops that are announced and the resumes that are granted alternate along every run that does not change the paused
flag directly, and the first of them is a stop (`stops_and_resumes_alternate`). So the paused flag tells whose turn it
is, and after the end of the session neither happens again.
-/

namespace Debugger

/-- A stop that is announced, or a resume that is granted. -/
inductive Turn where
  | stop
  | resume
deriving DecidableEq, Repr

/-- The one that follows. -/
def Turn.other : Turn → Turn
  | stop => resume
  | resume => stop

/-- Stops and resumes alternate, and the first one is as given. -/
def Alternates : Turn → List Turn → Prop
  | _, [] => True
  | first, turn :: turns => turn = first ∧ Alternates first.other turns

/-- Whether an operation is a resume that was granted. -/
def Operation.grants : Operation → Reply → Bool
  | .resume _, .ok => true
  | _, _ => false

private theorem not_grants {op : Operation} {reply : Reply} (h : reply ≠ .ok) : op.grants reply = false := by
  unfold Operation.grants
  split
  · exact absurd rfl h
  · rfl

namespace Engine

/-- The turns of a step. A resume is granted before the evaluation that it lets go on can stop again. -/
def stepTurns (setup : Setup) (e : Engine) (op : Operation) : List Turn :=
  let (next, reply, _) := e.step setup op
  (if op.grants reply then [.resume] else []) ++
    (next.session.stops.drop e.session.stops.length).map fun _ => .stop

/-- The turns of a run, in order. -/
def turns (setup : Setup) : Engine → List Operation → List Turn
  | _, [] => []
  | e, op :: ops => e.stepTurns setup op ++ (e.step setup op).1.turns setup ops

variable (setup : Setup)

theorem stepTurns_eq (e : Engine) (op : Operation) :
    e.stepTurns setup op = (if op.grants (e.step setup op).2.1 then [.resume] else []) ++
      ((e.step setup op).1.session.stops.drop e.session.stops.length).map fun _ => .stop := rfl

/-- How the turns of a step move the paused flag. -/
inductive Shifts : Bool → List Turn → Bool → Prop where
  | stay (paused : Bool) : Shifts paused [] paused
  | stop : Shifts false [.stop] true
  | resume : Shifts true [.resume] false
  | again : Shifts true [.resume, .stop] true

private theorem shifts_of_oneStop {s s' : Session} (h : OneStop s s') :
    Shifts s.flags.paused ((s'.stops.drop s.stops.length).map fun _ => .stop) s'.flags.paused := by
  rcases h with ⟨hs, hp⟩ | ⟨⟨hp, hp', -⟩, what, hs⟩
  · simpa [hs, hp] using Shifts.stay s.flags.paused
  · simpa [hs, hp, hp'] using Shifts.stop

/-- A step that does not change the paused flag directly moves it by its turns. -/
private theorem shifts_stepTurns {e : Engine} {op : Operation} (hassert : op ≠ .assert .paused)
    (hclear : op ≠ .clear .paused) :
    Shifts e.session.flags.paused (e.stepTurns setup op) (e.step setup op).1.session.flags.paused := by
  have hplain : op.grants (e.step setup op).2.1 = false → OneStop e.session (e.step setup op).1.session →
      Shifts e.session.flags.paused (e.stepTurns setup op) (e.step setup op).1.session.flags.paused := by
    intro hg hone
    rw [stepTurns_eq setup, hg]
    exact shifts_of_oneStop hone
  rcases step_cases setup e op with ⟨actions, rfl⟩ | rfl | hs
  · exact hplain rfl (oneStop_step (.inl ⟨actions, rfl⟩))
  · exact hplain rfl (oneStop_step (.inr rfl))
  · have hone := oneStop_settle setup (e.serve op).1
    rcases e.serve_cases hassert hclear with ⟨hsteady, hok⟩ | ⟨command, rfl, hp, hserve⟩
    · refine hplain ?_ (hs ▸ hone.of_eq hsteady.stops hsteady.paused)
      rw [hs]
      exact not_grants hok
    · rw [hserve] at hs hone
      rw [stepTurns_eq setup, hs, hp]
      -- after the resume evaluation either goes on or stops once more
      rcases hone with ⟨hstops, hpaused⟩ | ⟨⟨-, hpaused, -⟩, what, hstops⟩
      · have hstops' : _ = e.session.stops := hstops
        have hpaused' : _ = false := hpaused
        simp only [hstops', hpaused', List.drop_length, List.map_nil]
        exact .resume
      · have hstops' : _ = e.session.stops ++ [what] := hstops
        simp only [hstops', hpaused, List.drop_left, List.map_cons, List.map_nil]
        exact .again

/-- Whose turn it is. -/
def due (paused : Bool) : Turn := if paused then .resume else .stop

private theorem turns_spec {ops : List Operation} (hassert : Operation.assert .paused ∉ ops)
    (hclear : Operation.clear .paused ∉ ops) (e : Engine) :
    Alternates (due e.session.flags.paused) (e.turns setup ops) ∧
      (e.turns setup ops).count .stop + e.session.flags.paused.toNat =
        (e.turns setup ops).count .resume + (e.run setup ops).session.flags.paused.toNat := by
  induction ops generalizing e with
  | nil => exact ⟨trivial, rfl⟩
  | cons op ops ih =>
    rw [List.mem_cons, not_or] at hassert hclear
    obtain ⟨halt, hcount⟩ := ih hassert.2 hclear.2 (e.step setup op).1
    have hshifts := shifts_stepTurns setup (e := e) (Ne.symm hassert.1) (Ne.symm hclear.1)
    rw [run_cons, turns]
    -- only how the turns move the flag matters from here on
    revert halt hcount hshifts
    generalize e.stepTurns setup op = ts, (e.step setup op).1.turns setup ops = us
    generalize (e.step setup op).1.session.flags.paused = after, e.session.flags.paused = before
    intro halt hcount hshifts
    cases hshifts with
    | stay => exact ⟨halt, hcount⟩
    | stop => exact ⟨⟨rfl, halt⟩, by simp at hcount ⊢; omega⟩
    | resume => exact ⟨⟨rfl, halt⟩, by simp at hcount ⊢; omega⟩
    | again => exact ⟨⟨rfl, rfl, halt⟩, by simp at hcount ⊢; omega⟩

/-- The stops among the turns are all that were announced. -/
private theorem length_stops_run (e : Engine) (ops : List Operation) :
    (e.run setup ops).session.stops.length = e.session.stops.length + (e.turns setup ops).count .stop := by
  induction ops generalizing e with
  | nil => rfl
  | cons op ops ih =>
    have hstep : (e.step setup op).1.session.stops.length =
        e.session.stops.length + (e.stepTurns setup op).count .stop := by
      have hle : e.session.stops.length ≤ (e.step setup op).1.session.stops.length := by
        obtain ⟨s, hs, ⟨hstops, -⟩ | ⟨-, what, hstops⟩⟩ := exists_oneStop_step setup e op
        · exact Nat.le_of_eq (by rw [hstops, hs])
        · rw [hstops, hs, List.length_append]
          omega
      have hresume : (if op.grants (e.step setup op).2.1 then [Turn.resume] else []).count .stop = 0 := by
        split <;> rfl
      rw [stepTurns_eq setup, List.count_append, hresume, List.map_const', List.count_replicate_self, List.length_drop]
      omega
    rw [run_cons, ih, hstep, turns, List.count_append]
    omega

theorem turns_of_over {e : Engine} (h : e.session.Over) (ops : List Operation) : e.turns setup ops = [] := by
  induction ops generalizing e with
  | nil => rfl
  | cons op ops ih =>
    obtain ⟨hover, hstops⟩ : (e.step setup op).1.session.Over ∧
        (e.step setup op).1.session.stops = e.session.stops := over_run setup h [op]
    have hgrants : op.grants (e.step setup op).2.1 = false := by
      cases op with
      | resume command =>
        have hstep : (e.step setup (.resume command)).2.1 = (e.serve (.resume command)).2 := rfl
        rw [hstep]
        simp only [serve, h.resume]
        rfl
      | _ => rfl
    rw [turns, ih hover, stepTurns_eq setup, hgrants, hstops]
    simp

/-- Stops and resumes take turns, beginning with a stop, along every run that does not change the paused flag directly.
So there were as many stops as granted resumes, and one more while evaluation is paused. When the session is over,
neither happens any more. -/
theorem stops_and_resumes_alternate (setup : Setup) (files : Files) (ops : List Operation)
    (hassert : Operation.assert .paused ∉ ops) (hclear : Operation.clear .paused ∉ ops) :
    let start := new setup files
    let e := start.run setup ops
    Alternates .stop (start.turns setup ops) ∧
      (start.turns setup ops).count .stop = e.session.stops.length ∧
      e.session.stops.length =
        (start.turns setup ops).count .resume + (if e.session.isSet .paused then 1 else 0) ∧
      (e.session.isSet .terminate = true → ∀ later, e.turns setup later = []) := by
  intro start e
  obtain ⟨halt, hcount⟩ := turns_spec setup hassert hclear start
  have hlength : e.session.stops.length = (start.turns setup ops).count .stop := by
    have h := length_stops_run setup start ops
    rwa [show start.session.stops.length = 0 from rfl, Nat.zero_add] at h
  refine ⟨halt, hlength.symm, ?_, fun hterm later => ?_⟩
  · have hpaused : e.session.flags.paused.toNat = if e.session.isSet .paused then 1 else 0 := by
      rw [Session.isSet_paused]
      cases e.session.flags.paused <;> rfl
    rw [hlength, ← hpaused]
    exact hcount
  · exact turns_of_over setup (over_of_isSet (mirrored_run setup files ops) hterm) later

/-- Of two resumes at one stop the second is refused, so the next turn is a stop again. -/
theorem one_resume_between_stops :
    let ops : List Operation :=
      [.call [.stop .afterStep {}, .hook .leave, .stop .afterStep {}], .call [.stop .afterStep {}], .resume .next,
        .resume .continue, .resume .stepIn]
    (Operation.assert .paused ∉ ops ∧ Operation.clear .paused ∉ ops) ∧
      Alternates .stop ((new {} {}).turns {} ops) ∧
      (new {} {}).turns {} ops = [.stop, .resume, .stop, .resume] ∧
      ((new {} {}).run {} ops).session.stops.length = 2 := by
  intro ops
  have hassert : Operation.assert .paused ∉ ops := by simp [ops]
  have hclear : Operation.clear .paused ∉ ops := by simp [ops]
  obtain ⟨halternate, -, hlength, -⟩ := stops_and_resumes_alternate {} {} ops hassert hclear
  exact ⟨⟨hassert, hclear⟩, halternate, rfl, hlength⟩

end Engine

end Debugger
