import Debugger.Proofs.Live

/-!
# What a step does to the flags

An action or an operation has one effect on the flags (`Action.effect`, `Operation.effect`), whatever else happens in
the session. Besides, an announcement may stop an evaluation that is free, which sets the paused flag, and a resume that
is granted resets it. So for single operations there are four cases (`flags_step_cases`), and a fact about the flags
alone follows from them.
-/

namespace Debugger

namespace Flags

/-- The start is requested once both sides are ready. -/
def requestStart (flags : Flags) : Flags :=
  { flags with startRequested := flags.startRequested || flags.sessionReady && flags.clientConfigured }

/-- The phase that the flags tell. -/
def phase (flags : Flags) : Phase :=
  if flags.terminate then .terminated
  else if flags.paused then .paused
  else if flags.started then .running
  else if flags.startRequested then .ready
  else .idle

end Flags

/-- What an action does to the flags, apart from a stop. -/
def Action.effect (flags : Flags) : Action → Flags
  | .prepare _ => { flags with sessionReady := true }.requestStart
  | .begin => { flags with started := true }
  | .exit _ => { flags with terminate := true }
  | _ => flags

/-- Whether an action may stop evaluation. -/
def Action.Announces : Action → Prop
  | .hook _ | .stop _ _ => True
  | _ => False

/-- What an operation does to the flags, apart from a stop and from a resume that is granted. -/
def Operation.effect (flags : Flags) : Operation → Flags
  | .assert .terminate | .terminate | .disconnect => { flags with terminate := true }
  | .assert .sessionReady => { flags with sessionReady := true }.requestStart
  | .assert .clientConfigured => { flags with clientConfigured := true }.requestStart
  | .assert flag => flags.set true flag
  | .clear .terminate => flags
  | .clear flag => flags.set false flag
  | .begin => { flags with started := true }
  | .call [a] => a.effect flags
  | _ => flags

namespace Session

theorem phase_eq {s : Session} (h : s.flags.terminate = s.ended) : s.phase = s.flags.phase := by
  unfold phase Flags.phase
  rw [← h, Bool.or_self]

private theorem flags_checkStart (s : Session) : s.checkStart.flags = s.flags.requestStart := by
  obtain ⟨flags, _, _, _, _, _, _, _, _⟩ := s
  obtain ⟨requested, _, _, configured, ready, _, _⟩ := flags
  cases requested <;> cases configured <;> cases ready <;> rfl

private theorem flags_takeToken (s : Session) (w : Wait) : (s.takeToken w).flags = s.flags := by
  cases w <;> rfl

private theorem flags_awaitIf (stopped : Session × Bool) : (awaitIf stopped).1.flags = stopped.1.flags := by
  rw [awaitIf_session]

private theorem flags_announceExit (setup : Setup) (code : Int) (s : Session) :
    (s.announceExit setup code).flags = { s.flags with terminate := true } := by
  unfold announceExit
  split <;> rfl

/-- An action has its effect on the flags, or it stops an evaluation that is free. -/
theorem flags_perform (setup : Setup) (s : Session) (a : Action) :
    (s.perform setup a).1.flags = a.effect s.flags ∨
      a.Announces ∧ s.Free ∧ (s.perform setup a).1.flags = { s.flags with paused := true } := by
  cases a with
  | hook hook =>
    have hkept : (s.perform setup (.hook hook)).1.flags = (s.announce setup hook).1.flags := flags_awaitIf _
    rw [hkept]
    rcases announce_changes setup s hook with ⟨depth, hs⟩ | ⟨channel, text, hs⟩ | ⟨hf, depth, what, snapshot, hs⟩ <;>
      rw [hs]
    · exact .inl rfl
    · exact .inl rfl
    · exact .inr ⟨trivial, hf, rfl⟩
  | stop what snapshot =>
    have hkept : (s.perform setup (.stop what snapshot)).1.flags = (s.stop setup what snapshot).1.flags :=
      flags_awaitIf _
    rw [hkept]
    rcases stop_cases setup what snapshot s with hs | ⟨hf, hs⟩ <;> rw [hs]
    · exact .inl rfl
    · exact .inr ⟨trivial, hf, rfl⟩
  | prepare path => exact .inl (flags_checkStart _)
  | awaitStart =>
    left
    show (s.await .start).1.flags = s.flags
    rw [await_session]
  | exit code =>
    left
    show ((s.announceExit setup code).await (.disconnect code)).1.flags = _
    rw [await_session]
    exact flags_announceExit setup code s
  | _ => exact .inl rfl

end Session

namespace Engine

/-- An operation of the client has its effect on the flags, or it is a resume that is granted. -/
theorem flags_serve (e : Engine) {op : Operation} (hcall : ∀ actions, op ≠ .call actions) :
    (e.serve op).1.session.flags = op.effect e.session.flags ∨
      ∃ command, op = .resume command ∧ (e.serve op).2 = .ok ∧ e.session.flags.terminate = false ∧
        e.session.flags.paused = true ∧ (e.serve op).1.session.flags = { e.session.flags with paused := false } := by
  cases op with
  | assert flag =>
    left
    cases flag with
    | sessionReady => exact Session.flags_checkStart _
    | clientConfigured => exact Session.flags_checkStart _
    | _ => rfl
  | clear flag => left; cases flag <;> rfl
  | takeDisconnect =>
    left
    simp only [serve]
    split <;> rfl
  | resume command =>
    rcases e.serve_resume_cases command with ⟨-, err, hs⟩ | ⟨⟨hterminate, hpaused⟩, hs⟩ <;> rw [hs]
    · exact .inl rfl
    · exact .inr ⟨command, rfl, rfl, hterminate, hpaused, rfl⟩
  | cache v =>
    left
    simp only [serve, Session.cacheValue_eq]
    cases e.session.saved <;> rfl
  | cached id =>
    left
    simp only [serve]
    split <;> rfl
  | call actions => exact absurd rfl (hcall actions)
  | _ => exact .inl rfl

/-- What the client does to the flags, a single call that goes on then leaves alone. -/
theorem flags_settle (setup : Setup) {e : Engine} (h : e.Single) :
    (e.settle setup).1.session.flags = e.session.flags := by
  rcases h.settle_cases setup with hs | ⟨w, outcome, -, -, hs⟩ <;> rw [hs]
  exact Session.flags_takeToken _ w

theorem single_serve {e : Engine} (h : e.Single) (op : Operation) : (e.serve op).1.Single := by
  intro w rest hcall
  rw [serve_call] at hcall
  exact h w rest hcall

/-- A single operation changes the flags not at all, by its effect, by a stop of an evaluation that is free, or by a
resume that is granted. -/
theorem flags_step_cases (setup : Setup) {e : Engine} (hsingle : e.Single) {op : Operation}
    (hop : ∀ actions, op = .call actions → ∃ a, actions = [a]) :
    (e.step setup op).1.session.flags = e.session.flags ∨
      (e.step setup op).1.session.flags = op.effect e.session.flags ∨
      (∃ a, op = .call [a] ∧ a.Announces ∧ e.session.Free ∧
        (e.step setup op).1.session.flags = { e.session.flags with paused := true }) ∨
      ∃ command, op = .resume command ∧ (e.step setup op).2.1 = .ok ∧ e.session.flags.terminate = false ∧
        e.session.flags.paused = true ∧
        (e.step setup op).1.session.flags = { e.session.flags with paused := false } := by
  by_cases hcall : ∃ actions, op = .call actions
  · obtain ⟨actions, rfl⟩ := hcall
    obtain ⟨a, rfl⟩ := hop actions rfl
    have hperform := Session.flags_perform setup e.session a
    rcases step_call_cases setup e [a] with ⟨hcall, -⟩ | ⟨call, b, -, hb, -, hs⟩ | ⟨-, hs⟩
    · rw [step_call_singleton setup hcall a]
      rcases hperform with h | ⟨ha, hf, h⟩
      · exact .inr (.inl h)
      · exact .inr (.inr (.inl ⟨a, rfl, ha, hf, h⟩))
    · obtain rfl : a = b := (List.cons.inj hb).1
      rw [hs]
      rcases hperform with h | ⟨ha, hf, h⟩
      · exact .inr (.inl h)
      · exact .inr (.inr (.inl ⟨a, rfl, ha, hf, h⟩))
    · rw [hs]
      exact .inl rfl
  · have hcall : ∀ actions, op ≠ .call actions := fun actions h => hcall ⟨actions, h⟩
    by_cases hgrace : op = .graceExpires
    · subst hgrace
      left
      rcases step_graceExpires_cases setup e with hs | ⟨code, rest, hwaits, hs⟩ <;> rw [hs]
      obtain rfl := hsingle _ rest hwaits
      rw [proceed_session, Session.advance_nil]
      rfl
    · right
      rw [step_of_served setup e op hcall hgrace, flags_settle setup (single_serve hsingle op)]
      rcases e.flags_serve hcall with h | ⟨command, hr, hok, ht, hp, h⟩
      · exact .inl h
      · exact .inr (.inr ⟨command, hr, hok, ht, hp, h⟩)

end Engine

end Debugger
