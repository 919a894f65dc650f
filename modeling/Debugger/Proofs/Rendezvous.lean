import Debugger.Proofs.Run

/-!
# The rendezvous of client and evaluation

While the session goes on, three things that are kept apart agree in every state that a run reaches: there is a snapshot
just when the paused flag is set, and the paused flag is set just when a call of the evaluation side is parked in a
pause (`paused_iff_saved_and_parked`). The end of the session leaves the flag and the snapshot as they are.
-/

namespace Debugger.Engine

open Session (Steady)

/-- The paused flag, the snapshot and what evaluation waits for agree. Between a resume and the moment when the parked
call takes its token, the flag is reset already. -/
structure Rendezvous (w : Option Wait) (s : Session) : Prop where
  mirrored : s.flags.terminate = s.ended
  saved : s.saved.isSome = s.flags.paused
  parked : s.ended = false → s.flags.paused = (decide (w = some .resume) && !s.signals.resume)

private theorem Rendezvous.steady {w : Option Wait} {s s' : Session} (h : Rendezvous w s) (hs : Steady s s') :
    Rendezvous w s' where
  mirrored := hs.mirrored h.mirrored
  saved := by rw [hs.saved, hs.paused, h.saved]
  parked he := by
    have hse : s.ended = false := by
      cases hse : s.ended
      · rfl
      · rw [hs.ended hse] at he
        contradiction
    have ht : s'.signals.resume = s.signals.resume := by
      rcases hs.token with ht | ht
      · exact ht
      · rw [ht] at he
        contradiction
    rw [hs.paused, ht]
    exact h.parked hse

/-- An evaluation that is not stopped may wait for something else, and then go on. -/
private theorem Rendezvous.unparked {w w' : Option Wait} {s : Session} (h : Rendezvous w s) (hw : w ≠ some .resume)
    (hw' : w' ≠ some .resume) : Rendezvous w' s where
  mirrored := h.mirrored
  saved := h.saved
  parked he := by
    have hp := h.parked he
    simp only [hw, decide_false, Bool.false_and] at hp
    simp only [hp, hw', decide_false, Bool.false_and]

private theorem rendezvous_halt {s : Session} (h : s.Free) (setup : Setup) (what : Stop) (snapshot : Snapshot) :
    Rendezvous (some .resume) (s.halt setup what snapshot) where
  mirrored := h.2.1.trans h.2.2.symm
  saved := rfl
  parked _ := rfl

theorem rendezvous_kept (setup : Setup) : Kept setup Rendezvous where
  perform s a h := by
    rcases Session.perform_cases setup s a with ⟨hs, hw⟩ | ⟨hf, depth, what, snapshot, hs⟩
    · refine (h.steady hs).unparked nofun ?_
      cases hp : (s.perform setup a).2 with
      | done outcome => nofun
      | waiting w =>
        rw [hp] at hw
        exact fun he => hw (congrArg Progress.waiting (Option.some.inj he))
    · rw [hs]
      exact rendezvous_halt (s := { s with depth }) hf setup what snapshot
  release s w outcome h ho := by
    by_cases hw : w = .resume
    · subst hw
      refine ⟨h.mirrored, h.saved, fun he => ?_⟩
      -- the session goes on, so it is a token that ended the wait
      have he : s.ended = false := he
      have ht : s.signals.resume = true := by
        cases ht : s.signals.resume <;> simp_all [Session.outcome?]
      show s.flags.paused = _
      rw [h.parked he, ht]
      rfl
    · exact (h.steady (Session.steady_takeToken s w hw)).unparked (by simpa using hw) nofun
  beside s w a h hi := h.steady (Session.steady_immediate hi setup)
  expire s code h := (h.steady (Session.steady_record s rfl)).unparked nofun nofun

theorem rendezvous_serve {e : Engine} {op : Operation} (hassert : op ≠ .assert .paused) (hclear : op ≠ .clear .paused)
    (h : Rendezvous e.waiting e.session) : Rendezvous e.waiting (e.serve op).1.session := by
  rcases e.serve_cases hassert hclear with ⟨hs, -⟩ | ⟨command, rfl, -, hs⟩
  · exact h.steady hs
  · rw [hs]
    exact ⟨h.mirrored, rfl, fun _ => by simp [Session.goOn]⟩

theorem rendezvous_run (setup : Setup) (files : Files) {ops : List Operation}
    (hassert : Operation.assert .paused ∉ ops) (hclear : Operation.clear .paused ∉ ops) :
    Rendezvous ((new setup files).run setup ops).waiting ((new setup files).run setup ops).session :=
  (rendezvous_kept setup).run
    (fun _ hop _ => rendezvous_serve (fun h => hassert (h ▸ hop)) (fun h => hclear (h ▸ hop)))
    ⟨rfl, rfl, fun _ => rfl⟩

/-- In every state that is reached without changing the paused flag directly, there is a snapshot just when the flag is
set, and while the session goes on, the flag is set just when a call is parked in a pause. -/
theorem paused_iff_saved_and_parked (setup : Setup) (files : Files) (ops : List Operation)
    (hassert : Operation.assert .paused ∉ ops) (hclear : Operation.clear .paused ∉ ops) :
    let e := (new setup files).run setup ops
    (e.session.hasSaved = true ↔ e.session.isSet .paused = true) ∧
      (e.session.isSet .terminate = false → (e.session.isSet .paused = true ↔ e.waits (· = .resume) = true)) := by
  intro e
  have h : Rendezvous e.waiting e.session := rendezvous_run setup files hassert hclear
  have hset : e.Settled := settled_run (settled_new setup files) ops
  refine ⟨by rw [Session.hasSaved, h.saved, Session.isSet_paused], fun ht => ?_⟩
  have he : e.session.ended = false := by
    rw [Session.isSet_terminate] at ht
    cases hen : e.session.ended <;> simp_all
  rw [Session.isSet_paused, waits_eq, h.parked he]
  by_cases hw : e.waiting = some .resume
  · simp [hw, (hset.resume hw).1]
  · simp [hw]

/-- A stop saves a snapshot and parks the call. Values that are handed out and announcements beside the call leave it
so. -/
theorem saved_and_parked_after_stop :
    let ops : List Operation := [.call [.stop .afterStep {}], .cache .undef, .call [.hook .leave]]
    let e := (new {} {}).run {} ops
    (Operation.assert .paused ∉ ops ∧ Operation.clear .paused ∉ ops) ∧
      e.session.hasSaved = true ∧ e.waits (· = .resume) = true := by
  intro ops e
  have hassert : Operation.assert .paused ∉ ops := by simp [ops]
  have hclear : Operation.clear .paused ∉ ops := by simp [ops]
  obtain ⟨hsaved, hparked⟩ := paused_iff_saved_and_parked {} {} ops hassert hclear
  exact ⟨⟨hassert, hclear⟩, hsaved.2 rfl, (hparked rfl).1 rfl⟩

end Debugger.Engine
