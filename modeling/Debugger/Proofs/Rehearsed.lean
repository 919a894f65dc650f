import Debugger.Proofs.Live
import Debugger.Proofs.Rendezvous

/-!
# Rehearsed runs come to their end

A rehearsed run is a run of the engine (`exists_run`), so what holds of every run holds of it. It always comes to its
end: whatever the moves are that begin no evaluation of their own and do not change the paused flag themselves, nothing
is left outstanding (`idle_run`). For the start is granted or the session is ended, each move at a stop is used up or
takes evaluation further, and a process that waits to exit does so when the grace period runs out.
-/

namespace Debugger

/-- An operation of a client that begins no evaluation of its own and does not change the paused flag itself. -/
structure Operation.Moves (op : Operation) : Prop where
  call : ∀ actions, op ≠ .call actions
  assert : op ≠ .assert .paused
  clear : op ≠ .clear .paused

private theorem Operation.moves_continue : (Operation.resume .continue).Moves := ⟨by simp, by simp, by simp⟩

private theorem Operation.moves_terminate : Operation.terminate.Moves := ⟨by simp, by simp, by simp⟩

namespace Engine

variable {setup : Setup} {e : Engine} {program : List Action}

/-- A move leaves the outstanding call as it is, or lets it go on. -/
private theorem step_move_cases (setup : Setup) {op : Operation} (hop : op.Moves) :
    (e.step setup op).1.call = e.call ∨
      ∃ w rest, e.call = some (w, rest) ∧
        ∃ e' s outcome, (e.step setup op).1 = (proceed setup e' s outcome rest).1 := by
  rcases step_cases setup e op with ⟨actions, heq⟩ | rfl | hs
  · exact absurd heq (hop.call actions)
  · rcases step_graceExpires_cases setup e with hs | ⟨code, rest, hcall, hs⟩ <;> rw [hs]
    · exact .inl rfl
    · exact .inr ⟨_, rest, hcall, _, _, _, rfl⟩
  · rw [hs]
    rcases settle_cases setup (e.serve op).1 with ⟨-, hsettle⟩ | ⟨w, rest, outcome, hcall, -, hsettle⟩ <;>
      rw [hsettle]
    · exact .inl (serve_call e op)
    · exact .inr ⟨w, rest, (serve_call e op).symm.trans hcall, _, _, _, rfl⟩

/-! ### How much is outstanding -/

/-- How many actions are not done yet, with the one that waits. -/
def pending (e : Engine) : Nat := e.call.elim 0 fun call => call.2.length + 1

private theorem pending_of_call {w : Wait} {rest : List Action} (h : e.call = some (w, rest)) :
    e.pending = rest.length + 1 := by
  rw [pending, h, Option.elim_some]

private theorem pending_eq_zero : e.pending = 0 ↔ e.call = none := by
  cases h : e.call <;> simp [pending, h]

private theorem pending_proceed_le (setup : Setup) (e : Engine) (s : Session) (outcome : Outcome)
    (actions : List Action) : (e.proceed setup s outcome actions).1.pending ≤ actions.length := by
  cases hcall : (e.proceed setup s outcome actions).1.call with
  | none => simp [pending, hcall]
  | some call =>
    obtain ⟨w, rest⟩ := call
    obtain ⟨-, done, a, rfl, -⟩ := exists_of_call_proceed hcall
    rw [pending_of_call hcall, List.length_append, List.length_cons]
    omega

private theorem pending_step_le (setup : Setup) {op : Operation} (hop : op.Moves) :
    (e.step setup op).1.pending ≤ e.pending := by
  rcases step_move_cases setup hop with hcall | ⟨w, rest, hcall, e', s, outcome, hs⟩
  · exact Nat.le_of_eq (by rw [pending, pending, hcall])
  · rw [hs, pending_of_call hcall]
    exact Nat.le_succ_of_le (pending_proceed_le setup e' s outcome rest)

private theorem pending_run_le (setup : Setup) {ops : List Operation} (hops : ∀ op ∈ ops, op.Moves) :
    (e.run setup ops).pending ≤ e.pending := by
  induction ops generalizing e with
  | nil => exact Nat.le_refl _
  | cons op ops ih =>
    rw [List.forall_mem_cons] at hops
    exact Nat.le_trans (ih hops.2) (pending_step_le setup hops.1)

/-- At a stop, a continue takes evaluation further. -/
private theorem pending_continue_lt (setup : Setup) (hset : e.Settled) (h : Rendezvous e.waiting e.session)
    (hw : e.waiting = some .resume) : (e.step setup (.resume .continue)).1.pending < e.pending := by
  obtain ⟨htoken, hgoes⟩ := hset.resume hw
  have hpaused : e.session.flags.paused = true := by
    rw [h.parked hgoes, hw, htoken]
    rfl
  obtain ⟨⟨w, rest⟩, hcall, rfl⟩ := Option.map_eq_some_iff.1 hw
  rw [step_resume setup hcall hpaused (h.mirrored.trans hgoes), pending_of_call hcall]
  exact Nat.lt_succ_of_le (pending_proceed_le setup e _ _ rest)

/-! ### What is outstanding of a program -/

/-- The outstanding call waits in an action of a program, and the actions after it are left. -/
def Within (program : List Action) (e : Engine) : Prop :=
  ∀ w rest, e.call = some (w, rest) → ∃ done a, program = done ++ a :: rest ∧ a.Awaits w

private theorem within_proceed (setup : Setup) (e : Engine) (s : Session) (outcome : Outcome) {actions : List Action}
    (h : actions <:+ program) : (e.proceed setup s outcome actions).1.Within program := by
  intro w rest hcall
  obtain ⟨t, done, a, rfl, hperform⟩ := exists_of_call_proceed hcall
  obtain ⟨before, rfl⟩ := h
  have hwait : (t.perform setup a).2.wait? = some w := by rw [hperform]; rfl
  exact ⟨before ++ done, a, (List.append_assoc ..).symm, Session.awaits_perform hwait⟩

private theorem Within.step (h : e.Within program) (setup : Setup) {op : Operation} (hop : op.Moves) :
    (e.step setup op).1.Within program := by
  rcases step_move_cases setup hop with hcall | ⟨w, rest, hcall, e', s, outcome, hs⟩
  · exact fun w rest hc => h w rest (hcall ▸ hc)
  · obtain ⟨done, a, rfl, -⟩ := h w rest hcall
    rw [hs]
    exact within_proceed setup e' s outcome ((List.suffix_cons a rest).trans (List.suffix_append done _))

private theorem Within.run (h : e.Within program) (setup : Setup) {ops : List Operation}
    (hops : ∀ op ∈ ops, op.Moves) : (e.run setup ops).Within program := by
  induction ops generalizing e with
  | nil => exact h
  | cons op ops ih =>
    rw [List.forall_mem_cons] at hops
    exact ih (h.step setup hops.1) hops.2

/-! ### The start and the end of a launch -/

section Launch

variable {interpreter : Interpreter} {files : Files} {args : LaunchArgs}

/-- After an action that waits, evaluation does not ask for its start. -/
private theorem Within.not_awaitStart (h : e.Within (interpreter.program files args)) :
    e.Carries (· ≠ .awaitStart) := by
  rintro w rest hcall a ha rfl
  obtain ⟨done, b, hprogram, hb⟩ := h w rest hcall
  obtain ⟨pre, post, rfl⟩ := List.append_of_mem ha
  -- it asks right after the preparation, which does not wait
  have hsplit : (done ++ b :: pre) ++ .awaitStart :: post = interpreter.program files args := by
    rw [hprogram, List.append_assoc, List.cons_append]
  have hprepared := (Interpreter.eq_of_awaitStart hsplit).2
  have hmem : b ∈ [.prepare args.path] := hprepared ▸ by simp
  obtain rfl := List.mem_singleton.1 hmem
  exact hb

private theorem Within.not_start_step (h : e.Within (interpreter.program files args)) (hw : e.waiting ≠ some .start)
    (setup : Setup) {op : Operation} (hop : op.Moves) : (e.step setup op).1.waiting ≠ some .start := by
  have hkept : KeptOn setup (· ≠ .awaitStart) fun w _ => w ≠ some .start := by
    refine ⟨fun s a ha _ hs => ?_, fun _ _ _ _ _ => by simp, fun _ _ _ hw _ => hw, fun _ _ _ => by simp⟩
    have hawaits := Session.awaits_perform hs
    cases a <;> first | exact hawaits | exact ha rfl
  exact hkept.step h.not_awaitStart (fun actions heq => absurd heq (hop.call actions)) id hw

private theorem Within.not_start_run (h : e.Within (interpreter.program files args)) (hw : e.waiting ≠ some .start)
    (setup : Setup) {ops : List Operation} (hops : ∀ op ∈ ops, op.Moves) :
    (e.run setup ops).waiting ≠ some .start := by
  induction ops generalizing e with
  | nil => exact hw
  | cons op ops ih =>
    rw [List.forall_mem_cons] at hops
    exact ih (h.step setup hops.1) (h.not_start_step hw setup hops.1) hops.2

/-- A process that does not wait for a client is over when the grace period has run out. -/
private theorem Within.idle (h : e.Within (interpreter.program files args)) (hstart : e.waiting ≠ some .start)
    (hresume : e.waiting ≠ some .resume) (setup : Setup) : (e.step setup .graceExpires).1.call = none := by
  cases hcall : e.call with
  | none =>
    have hnot : ∀ code rest, e.call ≠ some (.disconnect code, rest) := by simp [hcall]
    rw [step_graceExpires_of_not_waiting setup hnot, hcall]
  | some call =>
    obtain ⟨w, rest⟩ := call
    have hw := waiting_of_call hcall
    cases w with
    | start => exact absurd hw hstart
    | resume => exact absurd hw hresume
    | disconnect code =>
      obtain ⟨done, a, hprogram, ha⟩ := h _ rest hcall
      obtain rfl : rest = [] := by
        cases a with
        | exit code' =>
          have hsplit : (done ++ [.exit code']) ++ rest = interpreter.program files args := by
            rw [hprogram, List.append_assoc, List.singleton_append]
          have hexit : Action.exit code' ∈ done ++ [.exit code'] := by simp
          exact Interpreter.eq_nil_of_exit hsplit hexit
        | _ => exact ha.elim
      rw [step_graceExpires_of_waiting setup hcall, proceed, Session.advance_nil]

end Launch

end Engine

namespace Rehearsal

open Engine

variable {setup : Setup} {e : Engine} {moves : List Operation}

/-- Going from stop to stop is a run, of some of the moves and of continues. -/
private theorem exists_follow (setup : Setup) (e : Engine) (moves : List Operation) (fuel : Nat) :
    ∃ ops, follow setup e moves fuel = e.run setup ops ∧ ∀ op ∈ ops, op ∈ moves ∨ op = .resume .continue := by
  induction fuel generalizing e moves with
  | zero => exact ⟨[], rfl, by simp⟩
  | succ fuel ih =>
    unfold follow
    split
    · obtain ⟨ops, hops, hmem⟩ := ih (e.step setup (moves.headD (.resume .continue))).1 moves.tail
      refine ⟨moves.headD (.resume .continue) :: ops, hops, fun op hop => ?_⟩
      rcases List.mem_cons.1 hop with rfl | hop
      · cases moves with
        | nil => exact .inr rfl
        | cons move moves => exact .inl List.mem_cons_self
      · exact (hmem op hop).imp_left List.mem_of_mem_tail
    · exact ⟨[], rfl, by simp⟩

/-- Each move at a stop is used up or takes evaluation further, and so does each continue after them. -/
private theorem not_parked_follow (setup : Setup) (hset : e.Settled) (h : Rendezvous e.waiting e.session)
    (hmoves : ∀ op ∈ moves, op.Moves) {fuel : Nat} (hfuel : e.pending + moves.length ≤ fuel) :
    (follow setup e moves fuel).waiting ≠ some .resume := by
  induction fuel generalizing e moves with
  | zero =>
    have hidle : e.call = none := pending_eq_zero.1 (by omega)
    simp [follow, waiting_of_idle hidle]
  | succ fuel ih =>
    unfold follow
    split
    · rename_i hwaits
      have hw := (waits_eq e .resume).1 hwaits
      have hnext : ∀ op : Operation, op.Moves →
          Rendezvous (e.step setup op).1.waiting (e.step setup op).1.session :=
        fun op hop => (rendezvous_kept setup).step (rendezvous_serve hop.assert hop.clear) h
      cases moves with
      | nil =>
        have hlt := pending_continue_lt setup hset h hw
        refine ih (settled_step hset _) (hnext _ Operation.moves_continue) (by simp) ?_
        simp only [List.headD_nil, List.tail_nil, List.length_nil] at hfuel ⊢
        omega
      | cons move moves =>
        rw [List.forall_mem_cons] at hmoves
        have hle := pending_step_le (e := e) setup hmoves.1
        refine ih (settled_step hset move) (hnext move hmoves.1) hmoves.2 ?_
        simp only [List.headD_cons, List.tail_cons, List.length_cons] at hfuel ⊢
        omega
    · rename_i hwaits
      exact fun hw => hwaits ((waits_eq e .resume).2 hw)

section Run

variable (setup : Setup) (files : Files) (interpreter : Interpreter) (args : LaunchArgs) (r : Rehearsal)

/-- What is done until the manifest is ready and the client has made its moves. -/
private def opening : List Operation := r.before ++ .call (interpreter.program files args) :: r.ready

/-- A session that has not started by then is ended. -/
private def closing : List Operation :=
  if ((Engine.new setup files).run setup (r.opening files interpreter args)).session.flags.startRequested then []
  else [.terminate]

/-- The engine when the moves at the stops begin. -/
private def opened : Engine :=
  (Engine.new setup files).run setup (r.opening files interpreter args ++ r.closing setup files interpreter args)

private theorem run_eq : r.run setup files interpreter args =
    (follow setup (r.opened setup files interpreter args) r.stops
      ((interpreter.program files args).length + r.stops.length)).run setup [.graceExpires] := by
  simp only [run, opened, closing, opening, Engine.run_append]
  split <;> rfl

private theorem mem_closing {op : Operation} (hop : op ∈ r.closing setup files interpreter args) : op = .terminate := by
  unfold closing at hop
  split at hop
  · contradiction
  · exact List.mem_singleton.1 hop

/-- A rehearsed run is a run of the engine, with the moves in their places. -/
theorem exists_run : ∃ ops, r.run setup files interpreter args =
      (Engine.new setup files).run setup (r.before ++ .call (interpreter.program files args) :: r.ready ++ ops) ∧
    ∀ op ∈ ops, op ∈ r.stops ∨ op ∈ [.terminate, .resume .continue, .graceExpires] := by
  obtain ⟨ops, hops, hmem⟩ := exists_follow setup (r.opened setup files interpreter args) r.stops
    ((interpreter.program files args).length + r.stops.length)
  refine ⟨r.closing setup files interpreter args ++ (ops ++ [.graceExpires]), ?_, fun op hop => ?_⟩
  · rw [run_eq, hops, opened, ← Engine.run_append, ← Engine.run_append, List.append_assoc]
    rfl
  · rcases List.mem_append.1 hop with hop | hop
    · exact .inr (by simp [mem_closing setup files interpreter args r hop])
    · rcases List.mem_append.1 hop with hop | hop
      · exact (hmem op hop).imp_right fun heq => by simp [heq]
      · exact .inr (by simp [List.mem_singleton.1 hop])

/-- When the stops begin, the start is granted or the session is ended. -/
private theorem not_start_opened : (r.opened setup files interpreter args).waiting ≠ some .start := by
  intro hw
  have hset : (r.opened setup files interpreter args).Settled := settled_run (settled_new setup files) _
  have hdecided : (r.opened setup files interpreter args).session.ended = true ∨
      (r.opened setup files interpreter args).session.flags.startRequested = true := by
    rw [opened, closing, Engine.run_append]
    split
    · exact .inr ‹_›
    · have hends : ∀ e : Engine, Operation.terminate.Ends e := fun _ => trivial
      exact .inl (over_step_of_ends (hends _)).2
  simp [hset.start hw] at hdecided

variable {r} (hmoves : ∀ op ∈ r.before ++ r.ready ++ r.stops, op.Moves)
include hmoves

/-- If evaluation waits then, it does so in an action of the program. -/
private theorem opened_within : (r.opened setup files interpreter args).Within (interpreter.program files args) ∧
    (r.opened setup files interpreter args).pending ≤ (interpreter.program files args).length := by
  have hready : ∀ op ∈ r.ready ++ r.closing setup files interpreter args, op.Moves := by
    intro op hop
    rcases List.mem_append.1 hop with hop | hop
    · exact hmoves op (by simp [hop])
    · exact mem_closing setup files interpreter args r hop ▸ Operation.moves_terminate
  have hbefore : ((Engine.new setup files).run setup r.before).call = none :=
    pending_eq_zero.1 (Nat.le_zero.1 (pending_run_le setup fun op hop => hmoves op (by simp [hop])))
  rw [opened, opening, List.append_assoc, List.cons_append, Engine.run_append, Engine.run_cons]
  rcases step_call_cases setup ((Engine.new setup files).run setup r.before) (interpreter.program files args) with
    ⟨-, hs⟩ | ⟨call, a, hcall, -⟩ | ⟨hcall, -⟩
  · rw [hs]
    refine ⟨(within_proceed setup _ _ _ List.suffix_rfl).run setup hready, ?_⟩
    exact Nat.le_trans (pending_run_le setup hready) (pending_proceed_le setup _ _ _ _)
  · rw [hbefore] at hcall
    contradiction
  · exact absurd hbefore hcall

private theorem opened_ne {op : Operation}
    (hop : op ∈ r.opening files interpreter args ++ r.closing setup files interpreter args) :
    op ≠ .assert .paused ∧ op ≠ .clear .paused := by
  simp only [opening, List.append_assoc, List.cons_append, List.mem_append, List.mem_cons] at hop
  rcases hop with hop | rfl | hop | hop
  · have hmove := hmoves op (by simp [hop])
    exact ⟨hmove.assert, hmove.clear⟩
  · simp
  · have hmove := hmoves op (by simp [hop])
    exact ⟨hmove.assert, hmove.clear⟩
  · simp [mem_closing setup files interpreter args r hop]

/-- Whatever a client moves, a rehearsed run leaves nothing outstanding. -/
theorem idle_run : (r.run setup files interpreter args).call = none := by
  obtain ⟨hwithin, hpending⟩ := opened_within setup files interpreter args hmoves
  have hstart := not_start_opened setup files interpreter args r
  have hset : (r.opened setup files interpreter args).Settled := settled_run (settled_new setup files) _
  have hparked : Rendezvous (r.opened setup files interpreter args).waiting
      (r.opened setup files interpreter args).session :=
    rendezvous_run setup files (fun hin => (opened_ne setup files interpreter args hmoves hin).1 rfl)
      fun hin => (opened_ne setup files interpreter args hmoves hin).2 rfl
  have hstops : ∀ op ∈ r.stops, op.Moves := fun op hop => hmoves op (by simp [hop])
  have hfollowed := not_parked_follow setup hset hparked hstops (Nat.add_le_add_right hpending _)
  obtain ⟨ops, hops, hmem⟩ := exists_follow setup (r.opened setup files interpreter args) r.stops
    ((interpreter.program files args).length + r.stops.length)
  have hall : ∀ op ∈ ops, op.Moves := by
    intro op hop
    rcases hmem op hop with hstop | rfl
    · exact hstops op hstop
    · exact Operation.moves_continue
  rw [hops] at hfollowed
  rw [run_eq, hops]
  exact (hwithin.run setup hall).idle (hwithin.not_start_run hstart setup hall) hfollowed setup

end Run

end Rehearsal

end Debugger
