import Debugger.Proofs.Run

/-!
# The end of a session

The end is written down twice, in a flag and beside it, and the two agree in every state that a run reaches. From the
step on that ends the session, no stop is announced, nothing waits but a process for the disconnect of the client, and
every resume is refused (`terminated_for_good`), also when the paused flag and the snapshot are left over.
-/

namespace Debugger

/-- The session is over by both accounts. -/
def Session.Over (s : Session) : Prop := s.flags.terminate = true ∧ s.ended = true

namespace Session

private theorem Over.silent {s s' : Session} (h : s.Over) (hs : Silent s s') : s'.Over := by
  have he := hs.ended h.2
  exact ⟨(hs.mirrored (h.1.trans h.2.symm)).trans he, he⟩

private theorem Over.not_free {s : Session} (h : s.Over) : ¬ s.Free := by
  rintro ⟨-, -, he⟩
  rw [h.2] at he
  contradiction

theorem Over.isSet {s : Session} (h : s.Over) : s.isSet .terminate = true := by simp [h.2]

private theorem over_terminate (s : Session) : s.terminate.Over := ⟨rfl, rfl⟩

private theorem over_perform_exit (setup : Setup) (s : Session) (code : Int) : (s.perform setup (.exit code)).1.Over :=
  (over_terminate _).silent (steady_await (s.announceExit setup code) (.disconnect code) nofun).1.toSilent

/-! ### Actions in a session that is over -/

variable {s : Session} (h : s.Over) (setup : Setup)
include h

theorem Over.perform_steady (a : Action) :
    Steady s (s.perform setup a).1 ∧ (s.perform setup a).2 ≠ .waiting .resume := by
  rcases perform_cases setup s a with hs | ⟨hf, -⟩
  · exact hs
  · exact absurd hf h.not_free

private theorem Over.perform_hook (hook : Hook) : (s.perform setup (.hook hook)).2 = .done .completed := by
  rcases announce_cases setup s hook with ⟨-, hb⟩ | ⟨hf, -⟩
  · simp only [perform, awaitIf, hb, Bool.false_eq_true, ↓reduceIte]
  · exact absurd hf h.not_free

private theorem Over.perform_stop (what : Stop) (snapshot : Snapshot) :
    s.perform setup (.stop what snapshot) = (s, .done .completed) := by
  simp only [perform, stop_of_not_free h.not_free, awaitIf, Bool.false_eq_true, ↓reduceIte]

private theorem Over.perform_awaitStart : s.perform setup .awaitStart = (s, .done (.start false)) := by
  simp only [perform, await, outcome?, h.2, ↓reduceIte]

theorem Over.resume (command : Resume) : s.resume command = .error .terminated := by
  simp only [Session.resume, h.1, ↓reduceIte]

/-- Only the exit of the process waits. -/
theorem Over.perform_done {a : Action} (ha : ∀ code, a ≠ .exit code) :
    ∃ outcome, (s.perform setup a).2 = .done outcome := by
  cases a with
  | hook hook => exact ⟨_, h.perform_hook setup hook⟩
  | stop what snapshot => exact ⟨_, congrArg Prod.snd (h.perform_stop setup what snapshot)⟩
  | awaitStart => exact ⟨_, congrArg Prod.snd (h.perform_awaitStart setup)⟩
  | exit code => exact absurd rfl (ha code)
  | _ => exact ⟨_, rfl⟩

private theorem Over.advance_finished (outcome : Outcome) {actions : List Action}
    (ha : ∀ code, Action.exit code ∉ actions) : ∃ o, (s.advance setup outcome actions).2 = .finished o := by
  induction actions generalizing s outcome with
  | nil =>
    unfold advance
    split <;> first | exact ⟨_, rfl⟩ | contradiction
  | cons a rest ih =>
    by_cases ho : outcome = .start false
    · subst ho
      exact ⟨_, rfl⟩
    · obtain ⟨o, hd⟩ := h.perform_done setup (a := a) fun code he => ha code (he ▸ List.mem_cons_self)
      have hover := h.silent (h.perform_steady setup a).1.toSilent
      simp only [advance]
      split
      · rename_i s' o' hp
        rw [hp] at hover
        exact ih hover o' fun code hm => ha code (List.mem_cons_of_mem a hm)
      · rename_i s' wait hp
        rw [hp] at hd
        contradiction

end Session

namespace Engine

open Session (Over)

/-! ### Runs -/

theorem mirrored_kept (setup : Setup) : Kept setup fun _ s => s.flags.terminate = s.ended where
  perform s a h := by
    rcases Session.perform_cases setup s a with ⟨hs, -⟩ | ⟨hf, depth, what, snapshot, hs⟩
    · exact hs.mirrored h
    · rw [hs]
      exact h
  release s w outcome h _ := by cases w <;> exact h
  beside s w a h hi := (Session.steady_immediate hi setup).mirrored h
  expire s code h := h

/-- In every state that a run reaches, the flag and the account beside it agree. -/
theorem mirrored_run (setup : Setup) (files : Files) (ops : List Operation) :
    ((new setup files).run setup ops).session.flags.terminate = ((new setup files).run setup ops).session.ended :=
  (mirrored_kept setup).run (fun op _ e => (e.silent_serve op).mirrored) rfl

theorem over_of_isSet {s : Session} (h : s.flags.terminate = s.ended) (hs : s.isSet .terminate = true) : s.Over := by
  rw [Session.isSet_terminate, h, Bool.or_self] at hs
  exact ⟨h.trans hs, hs⟩

theorem over_kept (setup : Setup) (stops : List Stop) : Kept setup fun _ s => s.Over ∧ s.stops = stops where
  perform s a h := by
    have hs := (h.1.perform_steady setup a).1
    exact ⟨h.1.silent hs.toSilent, hs.stops.trans h.2⟩
  release s w outcome h _ := by cases w <;> exact h
  beside s w a h hi := by
    have hs := Session.steady_immediate hi setup
    exact ⟨h.1.silent hs.toSilent, hs.stops.trans h.2⟩
  expire s code h := ⟨h.1, (Session.steady_record s rfl).stops.trans h.2⟩

/-- A session that is over stays over, and no stop is announced any more. -/
theorem over_run (setup : Setup) {e : Engine} (h : e.session.Over) (ops : List Operation) :
    (e.run setup ops).session.Over ∧ (e.run setup ops).session.stops = e.session.stops :=
  (over_kept setup e.session.stops).run
    (fun op _ e' h' => ⟨h'.1.silent (e'.silent_serve op), (e'.silent_serve op).stops.trans h'.2⟩) ⟨h, rfl⟩

/-- A step after which the session is over has announced no stop. -/
theorem stops_step_of_over {setup : Setup} {e : Engine} {op : Operation} (h : (e.step setup op).1.session.Over) :
    (e.step setup op).1.session.stops = e.session.stops := by
  obtain ⟨s, hs, ⟨hstops, -⟩ | ⟨⟨-, -, hend⟩, -⟩⟩ := exists_oneStop_step setup e op
  · exact hstops.trans hs
  · rw [h.2] at hend
    contradiction

/-! ### What ends a session, and what holds then -/

/-- How an engine behaves when its session is over. -/
structure Closed (setup : Setup) (e : Engine) : Prop where
  isSet : e.session.isSet .terminate = true
  phase : e.session.phase = .terminated
  /-- Only a process that exits may wait, for the client to disconnect. -/
  waiting : ∀ w ∈ e.waiting, ∃ code, w = .disconnect code
  hook : ∀ hook, (e.session.perform setup (.hook hook)).2 = .done .completed
  stop : ∀ what snapshot, e.session.perform setup (.stop what snapshot) = (e.session, .done .completed)
  awaitStart : e.session.perform setup .awaitStart = (e.session, .done (.start false))
  resume : ∀ command, e.step setup (.resume command) = (e, .refused .terminated, none)

private theorem closed_of_over {setup : Setup} {e : Engine} (h : e.session.Over) (hset : e.Settled) :
    Closed setup e where
  isSet := h.isSet
  phase := Session.phase_eq_terminated_iff.2 h.isSet
  waiting w hw := by
    cases w with
    | resume => exact absurd h.2 (by simp [(hset.resume hw).2])
    | start => exact absurd h.2 (by simp [(hset.start hw).1])
    | disconnect code => exact ⟨code, rfl⟩
  hook hook := h.perform_hook setup hook
  stop what snapshot := h.perform_stop setup what snapshot
  awaitStart := h.perform_awaitStart setup
  resume command := by
    have hserve : e.serve (.resume command) = (e, .refused .terminated) := by simp only [serve, h.resume]
    have hstep : e.step setup (.resume command) =
        (((e.serve (.resume command)).1.settle setup).1, (e.serve (.resume command)).2,
          ((e.serve (.resume command)).1.settle setup).2) := rfl
    rw [hstep, hserve, settle_of_settled setup hset]

end Engine

/-- The operations that end a session: three of the client, and the exit of the process, which an evaluation side at
rest announces. -/
def Operation.Ends (e : Engine) : Operation → Prop
  | .terminate | .disconnect | .assert .terminate => True
  | .call (.exit _ :: _) => e.call = none
  | _ => False

namespace Engine

/-- The client ends a session at once, and the exit of the process does before anything else happens. -/
private theorem ends_cases {e : Engine} {op : Operation} (h : op.Ends e) :
    (e.serve op).1.session.Over ∧ (∀ setup, e.step setup op =
        (((e.serve op).1.settle setup).1, (e.serve op).2, ((e.serve op).1.settle setup).2)) ∨
      e.call = none ∧ ∃ code rest, op = .call (.exit code :: rest) := by
  unfold Operation.Ends at h
  split at h
  · exact .inl ⟨Session.over_terminate _, fun _ => rfl⟩
  · exact .inl ⟨Session.over_terminate _, fun _ => rfl⟩
  · exact .inl ⟨Session.over_terminate _, fun _ => rfl⟩
  · exact .inr ⟨h, _, _, rfl⟩
  · exact h.elim

theorem over_step_of_ends {setup : Setup} {e : Engine} {op : Operation} (h : op.Ends e) :
    (e.step setup op).1.session.Over := by
  rcases ends_cases h with ⟨hover, hs⟩ | ⟨hc, code, rest, rfl⟩
  · rw [hs]
    exact ((over_kept setup _).settle ⟨hover, rfl⟩).1
  · rcases step_call_cases setup e (.exit code :: rest) with ⟨-, hs⟩ | ⟨call, a, hcall, -⟩ | ⟨hne, -⟩
    · rw [hs, proceed_session]
      have hover := Session.over_perform_exit setup e.session code
      simp only [Session.advance]
      split
      · rename_i s outcome hp
        rw [hp] at hover
        have hkept := (over_kept setup s.stops).proceed ⟨hover, rfl⟩ e outcome rest
        rw [proceed_session] at hkept
        exact hkept.1
      · rename_i s wait hp
        rw [hp] at hover
        exact hover
    · rw [hc] at hcall
      contradiction
    · exact absurd hc hne

/-- When the session ends, a call that is parked in a pause returns, and then its script runs to its end, up to an exit
of the process. A call that waits for the start returns without it. -/
private theorem finished_of_ends {setup : Setup} {e : Engine} {op : Operation} (h : op.Ends e) {w : Wait}
    {rest : List Action} (hc : e.call = some (w, rest)) :
    (w = .start → (e.step setup op).2.2 = some (.start false)) ∧
      (w = .resume → (∀ code, Action.exit code ∉ rest) → ∃ outcome, (e.step setup op).2.2 = some outcome) := by
  rcases ends_cases h with ⟨hover, hs⟩ | ⟨hnone, -⟩
  · have hcall : (e.serve op).1.call = some (w, rest) := by rw [serve_call, hc]
    refine ⟨?_, ?_⟩
    · rintro rfl
      have hrelease : (e.serve op).1.session.release .start =
          some ((e.serve op).1.session.takeToken .start, .start false) := by
        simp [Session.release, Session.outcome?, hover.2]
      rw [hs]
      simp only [settle, hcall, hrelease, proceed, Session.advance]
    · -- no stop and no wait for the start is left for the rest of the script to wait at
      rintro rfl hrest
      have hrelease : (e.serve op).1.session.release .resume =
          some ((e.serve op).1.session.takeToken .resume, .completed) := by
        simp [Session.release, Session.outcome?, hover.2]
      have htaken : ((e.serve op).1.session.takeToken .resume).Over := hover
      obtain ⟨o, hfin⟩ := htaken.advance_finished setup .completed hrest
      refine ⟨o, ?_⟩
      rw [hs]
      simp only [settle, hcall, hrelease, proceed]
      split
      · rename_i s o' hadv
        rw [hadv] at hfin
        exact congrArg some (Status.finished.inj hfin)
      · rename_i s wait left hadv
        rw [hadv] at hfin
        contradiction
  · rw [hnone] at hc
    contradiction

/-- From every state that a run reaches, the operations that end a session do end it, and a call that is parked or waits
for the start returns. From the step on that ends it, whatever is done, no stop is announced and the engine stays
closed. -/
theorem terminated_for_good (setup : Setup) (files : Files) (ops : List Operation) :
    let e := (new setup files).run setup ops
    (∀ op, op.Ends e → (e.step setup op).1.session.isSet .terminate = true ∧
        ∀ w rest, e.call = some (w, rest) →
          (w = .start → (e.step setup op).2.2 = some (.start false)) ∧
            (w = .resume → (∀ code, Action.exit code ∉ rest) → ∃ outcome, (e.step setup op).2.2 = some outcome)) ∧
      ∀ op, (e.step setup op).1.session.isSet .terminate = true → ∀ later,
        ((e.step setup op).1.run setup later).session.stops = e.session.stops ∧
          Closed setup ((e.step setup op).1.run setup later) := by
  intro e
  refine ⟨fun op hop => ⟨(over_step_of_ends hop).isSet, fun w rest hc => finished_of_ends hop hc⟩, ?_⟩
  intro op hterm later
  have hrun : (e.step setup op).1 = (new setup files).run setup (ops ++ [op]) := by
    rw [run_append]
    rfl
  have hover : (e.step setup op).1.session.Over := by
    rw [hrun] at hterm ⊢
    exact over_of_isSet (mirrored_run setup files _) hterm
  have hset : (e.step setup op).1.Settled := by
    rw [hrun]
    exact settled_run (settled_new setup files) _
  obtain ⟨hover', hstops⟩ := over_run setup hover later
  exact ⟨hstops.trans (stops_step_of_over hover), closed_of_over hover' (settled_run hset later)⟩

/-- The session ends while evaluation is stopped: the parked call returns, and the paused flag that is left over lets no
resume through, not even when the client tries to take back the end. -/
theorem refused_after_end_at_stop :
    let e := (new {} {}).run {} [.call [.stop .afterStep {}, .hook .leave]]
    let next := (e.step {} .terminate).1
    let later : List Operation := [.clear .terminate, .assert .startRequested, .call [.stop .afterStep {}]]
    (∃ outcome, (e.step {} .terminate).2.2 = some outcome) ∧
      (next.run {} later).session.isSet .paused = true ∧
      (next.run {} later).step {} (.resume .continue) = (next.run {} later, .refused .terminated, none) := by
  intro e next later
  obtain ⟨hends, hlater⟩ := terminated_for_good {} {} [.call [.stop .afterStep {}, .hook .leave]]
  obtain ⟨hover, hparked⟩ := hends .terminate trivial
  refine ⟨(hparked .resume [.hook .leave] rfl).2 rfl (fun code => ?_), rfl, ?_⟩
  · simp
  · exact (hlater .terminate hover later).2.resume .continue

end Engine

end Debugger
