import Debugger.Proofs.Notes
import Debugger.Proofs.Snapshot

/-!
# No stale wake-up

A resume that is granted while nothing is parked leaves its token in the slot. A stop takes a token that was left before
it, so a call is parked at an empty slot, and while the session goes on only a resume that is granted fills the slot
again (`wakes_cases`). So a call that is parked goes on in the step that grants a resume or ends the session and in no
other (`parked_until_released`), also when the flags were changed directly before or meanwhile.
-/

namespace Debugger

namespace Engine

open Session (Over)

variable {setup : Setup} {e : Engine}

/-- A call that goes on has less left to do, so it is not parked as it was. -/
private theorem call_proceed_ne (e : Engine) (s : Session) (outcome : Outcome) (rest : List Action) (w : Wait) :
    (e.proceed setup s outcome rest).1.call ≠ some (w, rest) := by
  intro h
  -- one of the actions waits, so those that are left cannot be all of them
  obtain ⟨-, done, a, hactions, -⟩ := exists_of_call_proceed h
  have hlength := congrArg List.length hactions
  rw [List.length_append, List.length_cons] at hlength
  omega

private theorem not_over_of_isSet (h : e.session.isSet .terminate = false) : ¬ e.session.Over := by
  intro hover
  rw [hover.isSet] at h
  contradiction

private theorem slot_of_grants {op : Operation} (h : op.grants (e.serve op).2 = true) :
    (e.serve op).1.session.signals.resume = true := by
  cases op with
  | resume command =>
    rcases e.serve_resume_cases command with ⟨-, err, hs⟩ | ⟨-, hs⟩
    · rw [hs] at h
      contradiction
    · rw [hs]
      rfl
  | _ => cases h

/-- A parked call stays as it is in a step that neither grants a resume nor ends the session, and goes on in a step that
does. -/
private theorem parked_step (setup : Setup) (hset : e.Settled) (hm : e.session.flags.terminate = e.session.ended)
    {rest : List Action} (hc : e.call = some (.resume, rest)) (op : Operation) :
    (e.step setup op).1.call = e.call ∧
        op.grants (e.step setup op).2.1 = false ∧ (e.step setup op).1.session.isSet .terminate = false ∨
      (e.step setup op).1.call ≠ e.call ∧
        (op.grants (e.step setup op).2.1 = true ∨ (e.step setup op).1.session.isSet .terminate = true) := by
  obtain ⟨htoken, hend⟩ := hset.resume (waiting_of_call hc)
  have hterm : e.session.isSet .terminate = false := by rw [Session.isSet_terminate, hm, hend, Bool.or_self]
  rcases step_cases setup e op with ⟨actions, rfl⟩ | rfl | hs
  · rcases step_call_cases setup e actions with ⟨hnone, -⟩ | ⟨call, a, -, -, hi, hs⟩ | ⟨-, hs⟩
    · rw [hc] at hnone
      contradiction
    · rw [hs]
      refine .inl ⟨rfl, rfl, ?_⟩
      rcases Session.perform_of_immediate hi setup with hp | ⟨channel, text, hp⟩
      · rw [hp]
        exact hterm
      · rw [hp]
        exact hterm
    · rw [hs]
      exact .inl ⟨rfl, rfl, hterm⟩
  · rcases step_graceExpires_cases setup e with hs | ⟨code, left, hcall, -⟩
    · rw [hs]
      exact .inl ⟨rfl, rfl, hterm⟩
    · rw [hc] at hcall
      cases hcall
  · rw [hs]
    have hcall : (e.serve op).1.call = some (.resume, rest) := by rw [serve_call, hc]
    have hmirrored := (e.silent_serve op).mirrored hm
    rcases settle_cases setup (e.serve op).1 with ⟨hwait, hsettle⟩ | ⟨w, left, outcome, hc', ho, hsettle⟩
    · rw [hsettle]
      obtain ⟨htoken', hend'⟩ := Settled.resume hwait (waiting_of_call hcall)
      refine .inl ⟨serve_call e op, ?_, ?_⟩
      · rw [Bool.eq_false_iff]
        intro hgrant
        rw [slot_of_grants hgrant] at htoken'
        contradiction
      · rw [Session.isSet_terminate, hmirrored, hend', Bool.or_self]
    · rw [hsettle]
      obtain ⟨rfl, rfl⟩ := Prod.mk.inj (Option.some.inj (hcall.symm.trans hc'))
      refine .inr ⟨hc ▸ call_proceed_ne _ _ outcome rest .resume, ?_⟩
      by_cases hgrant : op.grants (e.serve op).2 = true
      · exact .inl hgrant
      right
      rw [Bool.not_eq_true] at hgrant
      cases hend' : (e.serve op).1.session.ended with
      | true =>
        have hover : ((e.serve op).1.session.takeToken .resume).Over := ⟨hmirrored.trans hend', hend'⟩
        exact ((over_kept setup _).proceed ⟨hover, rfl⟩ _ outcome rest).1.isSet
      | false =>
        -- the session goes on without a granted resume, so the slot is as empty as it was
        have hslot := (token_serve hgrant hend').trans htoken
        simp [Session.outcome?, hslot, hend'] at ho

/-- Until a resume is granted or the session ends, a parked call stays as it is. -/
private theorem call_run_of_parked (setup : Setup) (hset : e.Settled) (hm : e.session.flags.terminate = e.session.ended)
    {rest : List Action} (hc : e.call = some (.resume, rest)) {later : List Operation}
    (hgrant : Turn.resume ∉ e.turns setup later) (hterm : (e.run setup later).session.isSet .terminate = false) :
    (e.run setup later).call = e.call := by
  induction later generalizing e with
  | nil => rfl
  | cons op later ih =>
    rw [turns, List.mem_append, not_or, stepTurns_eq] at hgrant
    rw [run_cons] at hterm ⊢
    have hm' : (e.step setup op).1.session.flags.terminate = (e.step setup op).1.session.ended :=
      (mirrored_kept setup).step (e.silent_serve op).mirrored hm
    rcases parked_step setup hset hm hc op with ⟨hcall, -, -⟩ | ⟨-, hgranted | hended⟩
    · rw [← hcall]
      exact ih (settled_step hset op) hm' (hcall.trans hc) hgrant.2 hterm
    · rw [hgranted] at hgrant
      simp at hgrant
    · have hover := (over_run setup (over_of_isSet hm' hended) later).1
      exact absurd hover (not_over_of_isSet hterm)

/-- In every state that a run of any operations reaches, a stop parks its call at an empty slot, whatever token was left
there. While a call is parked, the slot is empty. The call goes on in a step just when the step grants a resume or ends
the session, so until then it stays parked as it is. -/
theorem parked_until_released (setup : Setup) (files : Files) (ops : List Operation) :
    let e := (new setup files).run setup ops
    (∀ op, (e.step setup op).1.session.stops ≠ e.session.stops →
        (e.step setup op).1.waits (· = .resume) = true ∧ (e.step setup op).1.session.signals.resume = false) ∧
      (e.waits (· = .resume) = true →
        (e.session.isSet .terminate = false ∧ e.session.signals.resume = false) ∧
          (∀ op, (e.step setup op).1.call ≠ e.call ↔
            op.grants (e.step setup op).2.1 = true ∨ (e.step setup op).1.session.isSet .terminate = true) ∧
          ∀ later, Turn.resume ∉ e.turns setup later → (e.run setup later).session.isSet .terminate = false →
            (e.run setup later).call = e.call) := by
  intro e
  have hset : e.Settled := settled_run (settled_new setup files) ops
  have hm : e.session.flags.terminate = e.session.ended := mirrored_run setup files ops
  refine ⟨fun op hstop => ?_, fun hparked => ?_⟩
  · rcases step_saved setup e op with ⟨hstops, -⟩ | ⟨-, hhalted⟩
    · exact absurd hstops hstop
    · exact ⟨(waits_eq _ _).2 hhalted.parked, hhalted.token⟩
  · rw [waits_eq] at hparked
    obtain ⟨htoken, hend⟩ := hset.resume hparked
    rw [waiting] at hparked
    obtain ⟨⟨w, rest⟩, hc, rfl⟩ := Option.map_eq_some_iff.1 hparked
    refine ⟨⟨?_, htoken⟩, fun op => ?_, fun later hgrant hterm => ?_⟩
    · rw [Session.isSet_terminate, hm, hend, Bool.or_self]
    · rcases parked_step setup hset hm hc op with ⟨hcall, hgrant, hterm⟩ | ⟨hcall, hreleased⟩
      · rw [hgrant, hterm]
        exact ⟨fun hne => absurd hcall hne, by simp⟩
      · exact ⟨fun _ => hreleased, fun _ => hcall⟩
    · exact call_run_of_parked setup hset hm hc hgrant hterm

/-- Two resumes are granted while nothing is parked, and one of them leaves its token. The stop that comes then does not
take it for its own: the call is parked, also while a continue is refused because the flag is reset, and goes on with
the next resume that is granted. -/
theorem parked_after_stray_resumes :
    let e := (new {} {}).run {} [.assert .paused, .resume .continue, .assert .paused, .resume .next,
      .call [.stop .afterStep {}, .hook .leave]]
    let later : List Operation := [.clear .paused, .resume .continue, .assert .suppressLogs, .assert .paused]
    let next := e.run {} later
    (e.waits (· = .resume) = true ∧ Turn.resume ∉ e.turns {} later ∧ next.session.isSet .terminate = false) ∧
      next.call = some (.resume, [.hook .leave]) ∧
      (next.step {} (.resume .continue)).1.call ≠ next.call := by
  intro e later next
  have hgrant : Turn.resume ∉ e.turns {} later := by
    have hturns : e.turns {} later = [] := rfl
    rw [hturns]
    exact List.not_mem_nil
  obtain ⟨-, hparked⟩ := parked_until_released {} {} [.assert .paused, .resume .continue, .assert .paused,
    .resume .next, .call [.stop .afterStep {}, .hook .leave]]
  obtain ⟨-, -, hstays⟩ := hparked rfl
  obtain ⟨-, hreleased⟩ := parked_until_released {} {} ([.assert .paused, .resume .continue, .assert .paused,
    .resume .next, .call [.stop .afterStep {}, .hook .leave]] ++ later)
  obtain ⟨-, hgoes, -⟩ := hreleased rfl
  exact ⟨⟨rfl, hgrant, rfl⟩, hstays later hgrant rfl, (hgoes (.resume .continue)).2 (.inl rfl)⟩

end Engine

end Debugger
