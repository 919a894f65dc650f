import Debugger.Proofs.Pause

/-!
# What becomes of a snapshot

A step does one of three things to the snapshot (`step_saved`): a stop replaces it by a fresh one, a resume that is
granted drops it, and everything else keeps it, with the values that the step hands out. After a stop the call is parked
without a token, so the next stop can only come after a resume that is granted (`held_step`), also when the flags are
changed directly.
-/

namespace Debugger

/-- The values that an operation hands out while there is a snapshot. -/
def Operation.values : Operation → List Value
  | .cache v => [v]
  | _ => []

namespace Session

/-- Hands out values, if there is a snapshot that keeps them. -/
def handOut (s : Session) (vs : List Value) : Session :=
  { s with saved := s.saved.map fun snapshot => { snapshot with cache := snapshot.cache ++ vs } }

theorem handOut_nil (s : Session) : s.handOut [] = s := by
  cases h : s.saved <;> simp [handOut, h] <;> rw [← h]

theorem handOut_handOut (s : Session) (vs ws : List Value) : (s.handOut vs).handOut ws = s.handOut (vs ++ ws) := by
  simp [handOut, Function.comp_def, List.append_assoc]

theorem handOut_of_not_saved {s : Session} (h : s.saved = none) (vs : List Value) : s.handOut vs = s := by
  simp only [handOut, h, Option.map_none]
  rw [← h]

theorem handOut_of_saved {s : Session} {snapshot : Snapshot} (h : s.saved = some snapshot) (vs : List Value) :
    (s.handOut vs).saved = some { snapshot with cache := snapshot.cache ++ vs } := by
  simp only [handOut, h, Option.map_some]

/-- A value is handed out only while there is a snapshot, under the number after those in use. -/
theorem cacheValue_eq (s : Session) (v : Value) :
    s.cacheValue v = match s.saved with
      | none => .error .notPaused
      | some snapshot => .ok (snapshot.cache.length + 1, s.handOut [v]) := by
  unfold cacheValue handOut
  cases s.saved <;> rfl

/-! ### Actions -/

private theorem saved_announce {setup : Setup} {s : Session} {hook : Hook} (h : (s.announce setup hook).2 = false) :
    (s.announce setup hook).1.saved = s.saved := by
  have hstop : ∀ (t : Session) (what : Stop) (snapshot : Snapshot), (t.stop setup what snapshot).2 = false →
      (t.stop setup what snapshot).1.saved = t.saved := by
    intro t what snapshot ht
    rcases stop_cases setup what snapshot t with hs | ⟨-, hs⟩
    · rw [hs]
    · rw [hs] at ht
      contradiction
  cases hook with
  | enter node scope =>
    simp only [announce, enter] at h ⊢
    split
    · rfl
    rename_i hp
    rw [if_neg hp] at h
    split
    · rfl
    rename_i he
    rw [if_neg he] at h
    split
    · rename_i what hwhat
      rw [hwhat] at h
      exact hstop _ what _ h
    · rfl
  | leave =>
    simp only [announce, leave]
    split <;> rfl
  | exception e =>
    simp only [announce, raise] at h ⊢
    split
    · rfl
    · rename_i hp
      rw [if_neg hp] at h
      exact hstop s _ _ h
  | log level text =>
    rcases log_cases level text s with hs | hs <;> simp only [announce, hs]
    rfl

/-- An action keeps the snapshot, or it stops evaluation. -/
private theorem saved_perform (setup : Setup) (s : Session) (a : Action) :
    (s.perform setup a).1.saved = s.saved ∨ (s.perform setup a).2 = .waiting .resume := by
  have hstill : Still s (s.perform setup a).1 →
      (s.perform setup a).1.saved = s.saved ∨ (s.perform setup a).2 = .waiting .resume := fun h => .inl h.saved
  cases a with
  | hook hook =>
    rcases announce_cases setup s hook with ⟨-, hb⟩ | ⟨hf, depth, what, snapshot, hs⟩
    · left
      simp only [perform, awaitIf, hb, Bool.false_eq_true, ↓reduceIte]
      exact saved_announce hb
    · right
      simp only [perform, hs]
      rw [awaitIf_halt (s := { s with depth }) hf.2.2]
  | stop what snapshot =>
    rcases stop_cases setup what snapshot s with hs | ⟨hf, hs⟩
    · exact .inl (by simp only [perform, hs, awaitIf]; rfl)
    · right
      simp only [perform, hs]
      rw [awaitIf_halt hf.2.2]
  | prepare path =>
    have hunit : Still s { s with unit := some path } := ⟨rfl, rfl, rfl, rfl⟩
    exact hstill (hunit.trans (still_assert _ .sessionReady))
  | awaitStart => exact hstill (still_await s .start)
  | exit code => exact hstill ((still_announceExit setup code s).trans (still_await _ _))
  | _ => exact .inl rfl

end Session

/-! ### Steps -/

namespace Engine

open Session (Over)

/-- Evaluation has just stopped: a call is parked without a token, and no value was handed out yet. -/
structure Halted (w : Option Wait) (s : Session) : Prop where
  parked : w = some .resume
  token : s.signals.resume = false
  fresh : ∃ snapshot, s.saved = some snapshot ∧ snapshot.cache = []

/-- No stop is announced and the snapshot is kept, or evaluation has just stopped. -/
def KeepsOrHalts (s : Session) (w : Option Wait) (s' : Session) : Prop :=
  s'.stops = s.stops ∧ s'.saved = s.saved ∨ s'.stops ≠ s.stops ∧ Halted w s'

private theorem keepsOrHalts_proceed (setup : Setup) (e : Engine) (s : Session) (outcome : Outcome)
    (actions : List Action) :
    KeepsOrHalts s (e.proceed setup s outcome actions).1.waiting (e.proceed setup s outcome actions).1.session := by
  have hperform : ∀ s' a, KeepsOrHalts s none s' →
      KeepsOrHalts s (s'.perform setup a).2.wait? (s'.perform setup a).1 := by
    intro s' a h
    rcases h with ⟨hstops, hsaved⟩ | ⟨-, hhalted⟩
    · rcases Session.perform_cases setup s' a with ⟨hs, hw⟩ | ⟨-, depth, what, snapshot, hs⟩
      · exact .inl ⟨hs.stops.trans hstops, ((Session.saved_perform setup s' a).resolve_right hw).trans hsaved⟩
      · rw [hs]
        refine .inr ⟨?_, rfl, rfl, _, rfl, rfl⟩
        have hmore : ({ s' with depth }.halt setup what snapshot).stops = s.stops ++ [what] := by
          rw [Session.stops_halt, ← hstops]
          rfl
        simp [hmore]
    · cases hhalted.parked
  rw [proceed_session, proceed_waiting]
  exact Session.advance_induction hperform (.inl ⟨rfl, rfl⟩) outcome actions

private theorem keepsOrHalts_settle (setup : Setup) (e : Engine) :
    KeepsOrHalts e.session (e.settle setup).1.waiting (e.settle setup).1.session := by
  rcases settle_cases setup e with ⟨-, hs⟩ | ⟨w, rest, outcome, -, -, hs⟩
  · rw [hs]
    exact .inl ⟨rfl, rfl⟩
  · rw [hs]
    have hproceed := keepsOrHalts_proceed setup e (e.session.takeToken w) outcome rest
    cases w <;> exact hproceed

/-- The client keeps the snapshot, with the values that it is handed out, unless a resume drops it. -/
private theorem saved_serve (e : Engine) (op : Operation) :
    (e.serve op).1.session.saved =
      if op.grants (e.serve op).2 then none else (e.session.handOut op.values).saved := by
  have hkept : op.values = [] → op.grants (e.serve op).2 = false → Session.Still e.session (e.serve op).1.session →
      (e.serve op).1.session.saved =
        if op.grants (e.serve op).2 then none else (e.session.handOut op.values).saved := by
    intro hvalues hgrants hstill
    rw [hgrants, hvalues, Session.handOut_nil]
    exact hstill.saved
  cases op with
  | assert flag => exact hkept rfl rfl (Session.still_assert _ flag)
  | clear flag => exact hkept rfl rfl (Session.still_clear _ flag)
  | resume command =>
    rcases e.serve_resume_cases command with ⟨-, err, hs⟩ | ⟨-, hs⟩
    · exact hkept rfl (by rw [hs]; rfl) (by rw [hs]; exact .refl _)
    · rw [hs]
      rfl
  | takeDisconnect =>
    simp only [serve]
    split
    · exact (congrArg Session.saved (Session.handOut_nil e.session)).symm
    · exact (congrArg Session.saved (Session.handOut_nil e.session)).symm
  | cache v =>
    cases hs : e.session.saved with
    | none =>
      have hserve : e.serve (.cache v) = (e, .refused .notPaused) := by simp only [serve, Session.cacheValue_eq, hs]
      rw [hserve, Session.handOut_of_not_saved hs]
      rfl
    | some snapshot =>
      have hserve : e.serve (.cache v) =
          ({ e with session := e.session.handOut [v] }, .id (snapshot.cache.length + 1)) := by
        simp only [serve, Session.cacheValue_eq, hs]
      rw [hserve]
      rfl
  | cached id =>
    simp only [serve]
    split <;> exact (congrArg Session.saved (Session.handOut_nil e.session)).symm
  | _ => exact (congrArg Session.saved (Session.handOut_nil e.session)).symm

/-- A step stops evaluation, or it keeps the snapshot with the values that it hands out, or it drops the snapshot by a
resume that is granted. -/
theorem step_saved (setup : Setup) (e : Engine) (op : Operation) :
    let (e', reply, _) := e.step setup op
    e'.session.stops = e.session.stops ∧
        e'.session.saved = (if op.grants reply then none else (e.session.handOut op.values).saved) ∨
      e'.session.stops ≠ e.session.stops ∧ Halted e'.waiting e'.session := by
  have hnil : (e.session.handOut []).saved = e.session.saved := congrArg Session.saved (Session.handOut_nil e.session)
  rcases step_cases setup e op with ⟨actions, rfl⟩ | rfl | hs
  · rcases step_call_cases setup e actions with ⟨-, hs⟩ | ⟨call, a, -, -, hi, hs⟩ | ⟨-, hs⟩
    · rw [hs]
      exact (keepsOrHalts_proceed setup e _ _ actions).imp_left fun h => ⟨h.1, h.2.trans hnil.symm⟩
    · rw [hs]
      exact .inl ⟨(Session.steady_immediate hi setup).stops, (Session.still_immediate hi setup).saved.trans hnil.symm⟩
    · rw [hs]
      exact .inl ⟨rfl, hnil.symm⟩
  · rcases step_graceExpires_cases setup e with hs | ⟨code, rest, -, hs⟩
    · rw [hs]
      exact .inl ⟨rfl, hnil.symm⟩
    · rw [hs]
      have hstops : (e.session.record (.forcedExit code)).stops = e.session.stops :=
        (Session.steady_record e.session rfl).stops
      have hproceed :=
        keepsOrHalts_proceed setup e (e.session.record (.forcedExit code)) (.exited .gracePeriodExpired) rest
      rw [KeepsOrHalts, hstops] at hproceed
      exact hproceed.imp_left fun h => ⟨h.1, h.2.trans hnil.symm⟩
  · rw [hs]
    have hsettle := keepsOrHalts_settle setup (e.serve op).1
    rw [KeepsOrHalts, (e.silent_serve op).stops] at hsettle
    exact hsettle.imp_left fun h => ⟨h.1, h.2.trans (saved_serve e op)⟩

/-! ### From a stop to the next resume -/

/-- No stop can be announced before a resume is granted: the session is over, or a call is parked without a token. -/
def Held (e : Engine) : Prop :=
  e.session.Over ∨
    e.session.flags.terminate = e.session.ended ∧ e.waiting = some .resume ∧ e.session.signals.resume = false

/-- Without a resume, the client leaves no token for a parked call while the session goes on. -/
theorem token_serve {e : Engine} {op : Operation} (hgrant : op.grants (e.serve op).2 = false)
    (hend : (e.serve op).1.session.ended = false) :
    (e.serve op).1.session.signals.resume = e.session.signals.resume := by
  by_cases hassert : op = .assert .paused
  · subst hassert
    rfl
  by_cases hclear : op = .clear .paused
  · subst hclear
    rfl
  rcases e.serve_cases hassert hclear with ⟨hs, -⟩ | ⟨command, rfl, -, hs⟩
  · rcases hs.token with ht | ht
    · exact ht
    · rw [hend] at ht
      contradiction
  · rw [hs] at hgrant
    contradiction

/-- Until a resume is granted no stop is announced. -/
theorem held_step (setup : Setup) {e : Engine} {op : Operation} (h : e.Held)
    (hgrant : op.grants (e.step setup op).2.1 = false) :
    (e.step setup op).1.Held ∧ (e.step setup op).1.session.stops = e.session.stops := by
  rcases h with hover | ⟨hm, hw, ht⟩
  · obtain ⟨hover', hstops⟩ : (e.step setup op).1.session.Over ∧ _ := over_run setup hover [op]
    exact ⟨.inl hover', hstops⟩
  have hparked : e.Held := .inr ⟨hm, hw, ht⟩
  rcases step_cases setup e op with ⟨actions, rfl⟩ | rfl | hs
  · rcases step_call_cases setup e actions with ⟨hcall, -⟩ | ⟨call, a, -, -, hi, hs⟩ | ⟨-, hs⟩
    · rw [waiting_of_idle hcall] at hw
      contradiction
    · rw [hs]
      refine ⟨?_, (Session.steady_immediate hi setup).stops⟩
      rcases Session.perform_of_immediate hi setup with hp | ⟨channel, text, hp⟩ <;> rw [hp] <;>
        exact .inr ⟨hm, hw, ht⟩
    · rw [hs]
      exact ⟨hparked, rfl⟩
  · rcases step_graceExpires_cases setup e with hs | ⟨code, rest, hcall, -⟩
    · rw [hs]
      exact ⟨hparked, rfl⟩
    · rw [waiting_of_call hcall] at hw
      cases hw
  · rw [hs] at hgrant ⊢
    have hsilent := e.silent_serve op
    have hmirrored := hsilent.mirrored hm
    cases hend : (e.serve op).1.session.ended with
    | true =>
      -- the parked call returns, and no stop takes place in a session that is over
      obtain ⟨hover, hstops⟩ := (over_kept setup _).settle ⟨⟨hmirrored.trans hend, hend⟩, rfl⟩
      exact ⟨.inl hover, hstops.trans hsilent.stops⟩
    | false =>
      have htoken := (token_serve hgrant hend).trans ht
      have hw' : (e.serve op).1.waiting = some .resume := (waiting_congr (serve_call e op)).trans hw
      have hset : (e.serve op).1.Settled := by
        intro w hmem
        rw [hw'] at hmem
        obtain rfl := Option.some.inj hmem
        simp [Session.outcome?, htoken, hend]
      rw [settle_of_settled setup hset]
      exact ⟨.inr ⟨hmirrored, hw', htoken⟩, hsilent.stops⟩

theorem Halted.held {e : Engine} (h : Halted e.waiting e.session)
    (hm : e.session.flags.terminate = e.session.ended) : e.Held :=
  .inr ⟨hm, h.parked, h.token⟩

/-- A step takes back no stop that was announced. -/
private theorem stops_prefix_step (setup : Setup) (e : Engine) (op : Operation) :
    e.session.stops <+: (e.step setup op).1.session.stops := by
  obtain ⟨s, hs, ⟨hstops, -⟩ | ⟨-, what, hstops⟩⟩ := exists_oneStop_step setup e op
  · exact ⟨[], (List.append_nil _).trans (hstops.trans hs).symm⟩
  · exact ⟨[what], by rw [hstops, hs]⟩

theorem stops_prefix_run (setup : Setup) (e : Engine) (ops : List Operation) :
    e.session.stops <+: (e.run setup ops).session.stops := by
  induction ops generalizing e with
  | nil => exact List.prefix_rfl
  | cons op ops ih => exact (stops_prefix_step setup e op).trans (ih _)

end Engine

end Debugger
