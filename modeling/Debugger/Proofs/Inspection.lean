import Debugger.Adapter
import Debugger.Proofs.Pause

/-!
# Inspection is inert

Looking at the threads, at the stack and at values writes into the snapshot of a pause: values are numbered there. No
decision that is made later looks at these numbers, because everything that a session does commutes with forgetting
them (`Adapter.bare_take`). So requests that only look can be inserted anywhere in a run without a trace in what the
client is told, in the other answers, or in the rest of the state (`inspection_inert`).
-/

namespace Debugger

namespace Session

/-- A session without the values that were handed out. -/
def bare (s : Session) : Session := { s with saved := s.saved.map Snapshot.bare }

private theorem bare_bare (s : Session) : s.bare.bare = s.bare := by
  cases h : s.saved <;> simp [bare, h, Snapshot.bare]

private theorem bare_pauseDepth (s : Session) : s.bare.pauseDepth = s.pauseDepth := by
  unfold pauseDepth
  cases h : s.saved <;> simp [bare, h, Snapshot.bare]

/-! ### Announcements -/

private theorem bare_stop (setup : Setup) (what : Stop) (snapshot : Snapshot) (s : Session) :
    s.bare.stop setup what snapshot = (s.stop setup what snapshot).map bare id := by
  by_cases h : s.Free
  · rw [stop_of_free h, stop_of_free (s := s.bare) h]
    rfl
  · rw [stop_of_not_free h, stop_of_not_free (s := s.bare) h]
    rfl

private theorem bare_enter (setup : Setup) (node : Node) (scope : Scope) (s : Session) :
    s.bare.enter setup node scope = (s.enter setup node scope).map bare id := by
  unfold enter
  rw [apply_ite (Prod.map bare id)]
  refine ite_congr rfl (fun _ => rfl) fun _ => ?_
  dsimp only
  rw [apply_ite (Prod.map bare id)]
  refine ite_congr rfl (fun _ => rfl) fun _ => ?_
  -- where evaluation stops depends on the node, the breakpoints, the run mode and the depth only
  have hplace : { s.bare with depth := s.bare.depth + 1 }.stopAt setup node =
      { s with depth := s.depth + 1 }.stopAt setup node := rfl
  rw [hplace]
  cases { s with depth := s.depth + 1 }.stopAt setup node with
  | none => rfl
  | some what => exact bare_stop setup what _ { s with depth := s.depth + 1 }

private theorem bare_announce (setup : Setup) (s : Session) (hook : Hook) :
    s.bare.announce setup hook = (s.announce setup hook).map bare id := by
  cases hook with
  | enter node scope => exact bare_enter setup node scope s
  | leave =>
    have hleave : s.bare.leave = s.leave.bare := by
      unfold leave
      rw [apply_ite bare]
      rfl
    simp only [announce, hleave]
    rfl
  | exception e =>
    simp only [announce, raise]
    rw [apply_ite (Prod.map bare id)]
    exact ite_congr rfl (fun _ => rfl) fun _ => bare_stop setup _ _ s
  | log level text =>
    have hlog : s.bare.log level text = (s.log level text).bare := by
      unfold log
      rw [apply_ite bare]
      rfl
    simp only [announce, hlog]
    rfl

/-! ### Waits -/

private theorem bare_takeToken (s : Session) (wait : Wait) : s.bare.takeToken wait = (s.takeToken wait).bare := by
  cases wait <;> rfl

private theorem bare_await (s : Session) (wait : Wait) : s.bare.await wait = (s.await wait).map bare id := by
  have ho : s.bare.outcome? wait = s.outcome? wait := rfl
  simp only [await, ho, bare_takeToken]
  cases s.outcome? wait with
  | none => rfl
  | some outcome => by_cases hw : wait = .start <;> simp [hw]

private theorem bare_release (s : Session) (wait : Wait) :
    s.bare.release wait = (s.release wait).map (Prod.map bare id) := by
  have ho : s.bare.outcome? wait = s.outcome? wait := rfl
  simp only [release, ho, bare_takeToken]
  cases s.outcome? wait <;> rfl

/-! ### Actions -/

private theorem bare_checkStart (s : Session) : s.bare.checkStart = s.checkStart.bare := by
  unfold checkStart
  rw [apply_ite bare]
  rfl

private theorem bare_assert (s : Session) (f : Flag) : s.bare.assert f = (s.assert f).bare := by
  have hstart : { s.bare with flags := s.flags.set true f }.checkStart =
      { s with flags := s.flags.set true f }.checkStart.bare := bare_checkStart { s with flags := s.flags.set true f }
  cases f with
  | sessionReady => exact hstart
  | clientConfigured => exact hstart
  | _ => rfl

private theorem bare_clear (s : Session) (f : Flag) : s.bare.clear f = (s.clear f).bare := by
  cases f <;> rfl

private theorem bare_announceExit (setup : Setup) (code : Int) (s : Session) :
    s.bare.announceExit setup code = (s.announceExit setup code).bare := by
  unfold announceExit
  cases setup.announcesEnd <;> rfl

private theorem bare_awaitIf (stopped : Session × Bool) :
    awaitIf (stopped.map bare id) = (awaitIf stopped).map bare id := by
  obtain ⟨s, b⟩ := stopped
  cases b with
  | true => exact bare_await s .resume
  | false => rfl

private theorem bare_perform (setup : Setup) (s : Session) (a : Action) :
    s.bare.perform setup a = (s.perform setup a).map bare id := by
  cases a with
  | hook hook =>
    simp only [perform, bare_announce]
    exact bare_awaitIf _
  | stop what snapshot =>
    simp only [perform, bare_stop]
    exact bare_awaitIf _
  | prepare path => exact congrArg (·, _) (bare_assert { s with unit := some path } .sessionReady)
  | awaitStart => exact bare_await s .start
  | exit code =>
    simp only [perform, bare_announceExit]
    exact bare_await _ _
  | _ => rfl

/-- Evaluation goes on in the same way, whatever values were handed out. -/
private theorem bare_advance (setup : Setup) (s : Session) (outcome : Outcome) (actions : List Action) :
    s.bare.advance setup outcome actions = (s.advance setup outcome actions).map bare id := by
  induction actions generalizing s outcome with
  | nil =>
    unfold advance
    split <;> first | rfl | contradiction
  | cons a rest ih =>
    by_cases ho : outcome = .start false
    · subst ho
      rfl
    · simp only [advance, bare_perform]
      cases s.perform setup a with
      | mk s' progress =>
        cases progress with
        | done outcome' => exact ih s' outcome'
        | waiting wait => rfl

/-! ### Resumes and values -/

private theorem bare_resume (s : Session) (command : Resume) : s.bare.resume command = (s.resume command).map bare := by
  unfold resume
  rw [apply_ite (Except.map bare)]
  refine ite_congr rfl (fun _ => rfl) fun _ => ?_
  rw [apply_ite (Except.map bare)]
  refine ite_congr rfl (fun _ => rfl) fun _ => ?_
  rw [bare_pauseDepth]
  rfl

private theorem bare_cacheValue {s s' : Session} {v : Value} {id : Int} (h : s.cacheValue v = .ok (id, s')) :
    s'.bare = s.bare := by
  unfold cacheValue at h
  split at h
  · contradiction
  · rename_i snapshot hs
    cases h
    simp [bare, hs, Snapshot.bare]

end Session

/-- Whether an operation hands out values or looks them up. -/
def Operation.showsValues : Operation → Bool
  | .cache _ | .cached _ => true
  | _ => false

namespace Engine

/-- An engine without the values that were handed out. -/
def bare (e : Engine) : Engine := { e with session := e.session.bare }

private theorem bare_bare (e : Engine) : e.bare.bare = e.bare := by
  simp [bare, Session.bare_bare]

private theorem bare_proceed (setup : Setup) (e : Engine) (s : Session) (outcome : Outcome) (actions : List Action) :
    e.bare.proceed setup s.bare outcome actions = (e.proceed setup s outcome actions).map bare id := by
  simp only [proceed, Session.bare_advance]
  cases s.advance setup outcome actions with
  | mk s' status => cases status <;> rfl

private theorem bare_settle (setup : Setup) (e : Engine) : e.bare.settle setup = (e.settle setup).map bare id := by
  have hcall : e.bare.call = e.call := rfl
  simp only [settle, hcall]
  cases e.call with
  | none => rfl
  | some call =>
    have hrelease : e.bare.session.release call.1 = (e.session.release call.1).map (Prod.map Session.bare id) :=
      Session.bare_release e.session call.1
    simp only [hrelease]
    cases e.session.release call.1 with
    | none => rfl
    | some r => exact bare_proceed setup e r.1 r.2 call.2

private theorem bare_serve (e : Engine) {op : Operation} (hop : op.showsValues = false) :
    e.bare.serve op = (e.serve op).map bare id := by
  cases op with
  | assert flag => exact congrArg (e.bare.update ·) (Session.bare_assert e.session flag)
  | clear flag => exact congrArg (e.bare.update ·) (Session.bare_clear e.session flag)
  | takeDisconnect =>
    simp only [serve]
    rw [apply_ite (Prod.map bare id)]
    exact ite_congr rfl (fun _ => rfl) fun _ => rfl
  | resume command =>
    have hresume : e.bare.session.resume command = (e.session.resume command).map Session.bare :=
      Session.bare_resume e.session command
    simp only [serve, hresume]
    cases e.session.resume command <;> rfl
  | cache v => contradiction
  | cached id => contradiction
  | _ => rfl

private theorem serve_showsValues (e : Engine) {op : Operation} (hop : op.showsValues = true) :
    (e.serve op).1.bare = e.bare := by
  cases op with
  | cache v =>
    simp only [serve]
    split
    · rename_i id s h
      simp [bare, Session.bare_cacheValue h]
    · rfl
  | cached id =>
    simp only [serve]
    split <;> rfl
  | _ => contradiction

private theorem bare_step_call (setup : Setup) (e : Engine) (actions : List Action) :
    e.bare.step setup (.call actions) = (e.step setup (.call actions)).map bare id := by
  have hcall : e.bare.call = e.call := rfl
  have hsession : e.bare.session = e.session.bare := rfl
  cases hc : e.call with
  | none =>
    simp only [step, hcall, hc]
    rw [hsession, bare_proceed]
    rfl
  | some call =>
    -- beside an outstanding call only a single action can be carried out
    rcases actions with _ | ⟨a, _ | ⟨b, rest⟩⟩
    · simp only [step, hcall, hc]
      rfl
    · simp only [step, hcall, hc]
      rw [apply_ite (Prod.map bare id)]
      refine ite_congr rfl (fun _ => ?_) fun _ => rfl
      rw [hsession, Session.bare_perform]
      rfl
    · simp only [step, hcall, hc]
      rfl

private theorem bare_step_graceExpires (setup : Setup) (e : Engine) :
    e.bare.step setup .graceExpires = (e.step setup .graceExpires).map bare id := by
  have hcall : e.bare.call = e.call := rfl
  simp only [step, hcall]
  split
  · rename_i code rest hc
    have hproceed := bare_proceed setup e (e.session.record (.forcedExit code)) (.exited .gracePeriodExpired) rest
    exact congrArg (fun r => (r.1, Reply.nothing, r.2)) hproceed
  · rfl

/-- An operation that shows no values does and answers the same, whatever values were handed out. -/
private theorem bare_step (setup : Setup) (e : Engine) {op : Operation} (hop : op.showsValues = false) :
    e.bare.step setup op = (e.step setup op).map bare id := by
  by_cases hcall : ∃ actions, op = .call actions
  · obtain ⟨actions, rfl⟩ := hcall
    exact bare_step_call setup e actions
  by_cases hgrace : op = .graceExpires
  · subst hgrace
    exact bare_step_graceExpires setup e
  have hserved := fun e : Engine => step_of_served setup e op (fun actions h => hcall ⟨actions, h⟩) hgrace
  rw [hserved, hserved, bare_serve e hop, Prod.map_fst, bare_settle]
  rfl

/-- An operation that shows values leaves the same behind, whatever values were handed out before. -/
private theorem bare_step_of_showsValues (setup : Setup) (e : Engine) (op : Operation) (hop : op.showsValues = true) :
    (e.bare.step setup op).1.bare = (e.step setup op).1.bare := by
  have hserved := fun e : Engine => step_of_served setup e op (by rintro actions rfl; contradiction)
    (by rintro rfl; contradiction)
  have hserve : (e.bare.serve op).1.bare = (e.serve op).1.bare := by
    rw [serve_showsValues _ hop, serve_showsValues _ hop, bare_bare]
  have hsettle : ∀ e : Engine, (e.settle setup).1.bare = (e.bare.settle setup).1 := fun e => by rw [bare_settle]; rfl
  rw [hserved, hserved, hsettle, hsettle, hserve]

end Engine

/-! ### Requests -/

/-- Whether a command shows values, which hands out numbers for them. -/
def Command.showsValues : Command → Bool
  | .scopes | .expand _ | .evaluate _ => true
  | _ => false

/-- Whether a command only looks at the session. -/
def Command.inspects : Command → Bool
  | .threads | .stackTrace => true
  | command => command.showsValues

namespace Adapter

/-- A front end without the values that were handed out. -/
def bare (a : Adapter) : Adapter := { a with engine := a.engine.bare }

private theorem bare_operate (setup : Setup) (a : Adapter) (op : Operation) (hop : op.showsValues = false) :
    a.bare.operate setup op = (a.operate setup op).map bare id := by
  have hstep : a.bare.engine.step setup op = (a.engine.step setup op).map Engine.bare id :=
    Engine.bare_step setup a.engine hop
  simp only [operate, hstep]
  rfl

/-- The stack that is shown does not tell which values were handed out. -/
private theorem bare_stackFrames (a : Adapter) : a.bare.stackFrames = a.stackFrames := by
  have hstack : a.bare.session.saved.elim [] (·.stack) = a.session.saved.elim [] (·.stack) := by
    change (a.session.saved.map Snapshot.bare).elim [] (·.stack) = _
    cases a.session.saved <;> rfl
  have hplace : pausePlace a.bare.session = pausePlace a.session := by
    change pausePlace { a.session with saved := a.session.saved.map Snapshot.bare } = _
    unfold pausePlace
    cases a.session.saved <;> rfl
  have hsource : a.bare.sourceOf = a.sourceOf := rfl
  simp only [stackFrames, hstack, hplace, hsource]

private theorem bare_setBreakpoints (a : Adapter) (source : Source) (lines : List Int) :
    a.bare.setBreakpoints source lines = (a.setBreakpoints source lines).map bare id := by
  unfold setBreakpoints
  cases source.path <;> rfl

private theorem bare_launch (setup : Setup) (interpreter : Interpreter) (a : Adapter) (args : LaunchArgs) :
    a.bare.launch setup interpreter args = (a.launch setup interpreter args).bare := by
  have hcall := bare_operate setup { a with manifest := some args.manifest, launched := true }
    (.call (interpreter.program a.engine.files args)) rfl
  exact congrArg Prod.fst hcall

/-- A command that shows no values does the same, whatever values were handed out, and is answered the same. -/
private theorem bare_execute (setup : Setup) (interpreter : Interpreter) (a : Adapter) {command : Command}
    (h : command.showsValues = false) :
    a.bare.execute setup interpreter command = (a.execute setup interpreter command).map (Prod.map bare id) := by
  cases command with
  | launch data =>
    have hargs : a.bare.launchArgs data = a.launchArgs data := rfl
    simp only [execute, hargs, bare_launch]
    cases a.launchArgs data <;> rfl
  | setBreakpoints source breakpoints lines =>
    simp only [execute, bare_setBreakpoints]
    rfl
  | configurationDone =>
    simp only [execute, bare_operate setup a (.assert .clientConfigured) rfl]
    rfl
  | stackTrace =>
    simp only [execute, bare_stackFrames]
    rfl
  | resume command =>
    simp only [execute, bare_operate setup a (.resume command) rfl]
    rfl
  | disconnect =>
    simp only [execute, bare_operate setup a .disconnect rfl]
    rfl
  | scopes => contradiction
  | expand id => contradiction
  | evaluate expression => contradiction
  | _ => rfl

/-! ### Requests that look -/

private theorem bare_reference (s : Session) (v : Value) : (reference s v).1.bare = s.bare := by
  unfold reference
  split
  · split
    · rename_i id s' h
      exact Session.bare_cacheValue h
    · rfl
  · rfl

private theorem bare_scopeViews (s : Session) : (scopeViews s).1.bare = s.bare := by
  unfold scopeViews
  split
  · rfl
  · rename_i scope _
    have hlocals := bare_reference s (.hash scope.locals)
    split
    · rename_i s' cause h
      rwa [h] at hlocals
    · rename_i s' locals h
      rw [h] at hlocals
      have hglobals := bare_reference s' (.hash scope.globals)
      split
      · rename_i s'' cause h'
        rw [h'] at hglobals
        exact hglobals.trans hlocals
      · rename_i s'' globals h'
        rw [h'] at hglobals
        exact hglobals.trans hlocals

private theorem bare_variableViews (s : Session) (named : List (String × Value)) :
    (variableViews s named).1.bare = s.bare := by
  induction named generalizing s with
  | nil => rfl
  | cons entry rest ih =>
    obtain ⟨name, v⟩ := entry
    have hfirst := bare_reference s v
    unfold variableViews
    split
    · rename_i s' cause h
      rwa [h] at hfirst
    · rename_i s' id h
      rw [h] at hfirst
      have hrest := ih s'
      split
      · rename_i s'' cause h'
        rw [h'] at hrest
        exact hrest.trans hfirst
      · rename_i s'' views h'
        rw [h'] at hrest
        exact hrest.trans hfirst

private theorem bare_expand (s : Session) (id : Int) : (expand s id).1.bare = s.bare := by
  unfold expand
  split
  · exact bare_variableViews s _
  · rfl

private theorem bare_evaluate (interpreter : Interpreter) (s : Session) (expression : String) :
    (evaluate interpreter s expression).1.bare = s.bare := by
  unfold evaluate
  split
  · rfl
  split
  · rfl
  rename_i v _
  have hv := bare_reference s v
  split
  · rename_i s' cause h
    rwa [h] at hv
  · rename_i s' id h
    rwa [h] at hv

private theorem bare_withSession {a : Adapter} {s : Session} (h : s.bare = a.session.bare) :
    (a.withSession s).bare = a.bare := by
  simp [bare, withSession, Engine.bare, h, session]

/-- A command that only looks leaves nothing behind but values that were handed out. -/
private theorem execute_inspects (setup : Setup) (interpreter : Interpreter) (a : Adapter) {command : Command}
    (h : command.inspects = true) :
    ∃ a' result, a.execute setup interpreter command = some (a', result) ∧ a'.bare = a.bare := by
  cases command with
  | threads => exact ⟨a, _, rfl, rfl⟩
  | stackTrace => exact ⟨a, _, rfl, rfl⟩
  | scopes => exact ⟨_, _, rfl, bare_withSession (bare_scopeViews a.session)⟩
  | expand id => exact ⟨_, _, rfl, bare_withSession (bare_expand a.session id)⟩
  | evaluate expression => exact ⟨_, _, rfl, bare_withSession (bare_evaluate interpreter a.session expression)⟩
  | _ => contradiction

private theorem bare_handle (setup : Setup) (interpreter : Interpreter) (a : Adapter) {r : Request}
    (h : r.command.showsValues = false) :
    a.bare.handle setup interpreter r = (a.handle setup interpreter r).map bare id := by
  simp only [handle, bare_execute setup interpreter a h]
  cases a.execute setup interpreter r.command with
  | none => rfl
  | some outcome =>
    obtain ⟨a', result⟩ := outcome
    cases result <;> rfl

private theorem handle_inspects (setup : Setup) (interpreter : Interpreter) (a : Adapter) {r : Request}
    (h : r.command.inspects = true) : (a.handle setup interpreter r).1.bare = a.bare := by
  obtain ⟨a', result, hexecute, hbare⟩ := execute_inspects setup interpreter a h
  simp only [handle, hexecute]
  cases result <;> exact hbare

end Adapter

/-! ### Runs with inspections -/

/-- What reaches a front end: a request of its client, or an operation on its session. The latter are the calls of the
evaluation side when they come one by one, the end of the grace period, and the client's operations by other ways. -/
inductive Input where
  | request (r : Request)
  | operation (op : Operation)

/-- Whether an input shows values, which hands out numbers for them or looks numbers up. -/
def Input.showsValues : Input → Bool
  | request r => r.command.showsValues
  | operation op => op.showsValues

/-- Whether an input is a request that only looks at the session. -/
def Input.inspects : Input → Bool
  | request r => r.command.inspects
  | operation _ => false

/-- What comes back for an input. -/
inductive Output where
  | answer (a : Answer)
  | reply (r : Reply)

/-- An input of a run, with a mark if it was inserted. -/
structure Marked where
  input : Input
  inserted : Bool := false

/-- What is observed after an input: what came back, unless the input shows values, and the state but for the values
that were handed out. The events that were sent are in the state. -/
structure Observation where
  output : Option Output
  state : Adapter

namespace Adapter

/-- Takes an input. -/
def take (setup : Setup) (interpreter : Interpreter) (a : Adapter) : Input → Adapter × Output
  | .request r => (a.handle setup interpreter r).map id .answer
  | .operation op => (a.operate setup op).map id .reply

/-- What is observed of a run after the inputs that were not inserted, with the state at its end. -/
def observe (setup : Setup) (interpreter : Interpreter) (a : Adapter) : List Marked → List Observation × Adapter
  | [] => ([], a)
  | entry :: rest =>
    let (a, output) := a.take setup interpreter entry.input
    let (seen, final) := a.observe setup interpreter rest
    if entry.inserted then (seen, final)
    else (⟨if entry.input.showsValues then none else some output, a.bare⟩ :: seen, final)

theorem bare_take (setup : Setup) (interpreter : Interpreter) (a : Adapter) {i : Input} (h : i.showsValues = false) :
    a.bare.take setup interpreter i = (a.take setup interpreter i).map bare id := by
  cases i with
  | request r =>
    simp only [take, bare_handle setup interpreter a (r := r) h]
    rfl
  | operation op =>
    simp only [take, bare_operate setup a op h]
    rfl

private theorem take_inspects (setup : Setup) (interpreter : Interpreter) (a : Adapter) {i : Input}
    (h : i.inspects = true) : (a.take setup interpreter i).1.bare = a.bare := by
  cases i with
  | request r => exact handle_inspects setup interpreter a h
  | operation op => contradiction

private theorem bare_bare (a : Adapter) : a.bare.bare = a.bare := by
  simp [bare, Engine.bare_bare]

private theorem bare_take_of_showsValues (setup : Setup) (interpreter : Interpreter) (a : Adapter) {i : Input}
    (h : i.showsValues = true) : (a.bare.take setup interpreter i).1.bare = (a.take setup interpreter i).1.bare := by
  cases i with
  | request r =>
    have hlooks : r.command.inspects = true := by
      unfold Command.inspects
      split
      · rfl
      · rfl
      · exact h
    have hinput : (Input.request r).inspects = true := hlooks
    rw [take_inspects setup interpreter _ hinput, take_inspects setup interpreter _ hinput, bare_bare]
  | operation op =>
    have hengine := Engine.bare_step_of_showsValues setup a.engine op h
    exact congrArg (fun engine => { a with engine }) hengine

/-- Front ends that differ only in the values that were handed out differ only in them after an input, and give the same
back, unless the input shows values. -/
private theorem take_congr (setup : Setup) (interpreter : Interpreter) {a a' : Adapter} (h : a.bare = a'.bare)
    (i : Input) : (a.take setup interpreter i).1.bare = (a'.take setup interpreter i).1.bare ∧
      (i.showsValues = false → (a.take setup interpreter i).2 = (a'.take setup interpreter i).2) := by
  cases hi : i.showsValues with
  | true =>
    refine ⟨?_, nofun⟩
    rw [← bare_take_of_showsValues setup interpreter a hi, ← bare_take_of_showsValues setup interpreter a' hi, h]
  | false =>
    have ha := bare_take setup interpreter a hi
    have ha' := bare_take setup interpreter a' hi
    rw [h, ha'] at ha
    exact ⟨(congrArg Prod.fst ha).symm, fun _ => (congrArg Prod.snd ha).symm⟩

/-- Two runs are observed to be the same if one is the other with inspections inserted, also from front ends that differ
in the values that were handed out. -/
private theorem observe_filter (setup : Setup) (interpreter : Interpreter) {a a' : Adapter} (h : a.bare = a'.bare)
    {entries : List Marked} (hinserted : ∀ entry ∈ entries, entry.inserted = true → entry.input.inspects = true) :
    (a.observe setup interpreter entries).1 =
        (a'.observe setup interpreter (entries.filter fun entry => !entry.inserted)).1 ∧
      (a.observe setup interpreter entries).2.bare =
        (a'.observe setup interpreter (entries.filter fun entry => !entry.inserted)).2.bare := by
  induction entries generalizing a a' with
  | nil => exact ⟨rfl, h⟩
  | cons entry rest ih =>
    rw [List.forall_mem_cons] at hinserted
    cases hmark : entry.inserted with
    | true =>
      -- only the run with the insertions moves on, to a state that differs by values at most
      have hsame : (a.take setup interpreter entry.input).1.bare = a'.bare :=
        (take_inspects setup interpreter a (hinserted.1 hmark)).trans h
      simp only [observe, hmark, ↓reduceIte, Bool.not_true, Bool.false_eq_true, not_false_eq_true,
        List.filter_cons_of_neg]
      exact ih hsame hinserted.2
    | false =>
      obtain ⟨hsame, houtput⟩ := take_congr setup interpreter h entry.input
      obtain ⟨hseen, hfinal⟩ := ih hsame hinserted.2
      simp only [observe, hmark, Bool.not_false, List.filter_cons_of_pos, Bool.false_eq_true, ↓reduceIte]
      refine ⟨?_, hfinal⟩
      rw [hseen, hsame]
      cases hshows : entry.input.showsValues with
      | true => rfl
      | false => rw [houtput hshows]

/-- Requests that only look can be inserted anywhere. The run with them is answered like the run without them, except
where values are shown; after each of its own inputs, and at the end, the state is the same but for the values that were
handed out; and the client is told the same. -/
theorem inspection_inert (setup : Setup) (interpreter : Interpreter) (a : Adapter) (entries : List Marked)
    (hinserted : ∀ entry ∈ entries, entry.inserted = true → entry.input.inspects = true) :
    let original := entries.filter fun entry => !entry.inserted
    (a.observe setup interpreter entries).1 = (a.observe setup interpreter original).1 ∧
      (a.observe setup interpreter entries).2.bare = (a.observe setup interpreter original).2.bare ∧
      (a.observe setup interpreter entries).2.session.events =
        (a.observe setup interpreter original).2.session.events := by
  intro original
  obtain ⟨hseen, hfinal⟩ := observe_filter setup interpreter (rfl : a.bare = a.bare) hinserted
  exact ⟨hseen, hfinal, congrArg (·.session.events) hfinal⟩

/-- At a function breakpoint the client asks for the scopes, for the values in one of them and for the value of an
expression: four values are handed out, and nothing else is different from a run without these requests. -/
theorem inert_at_breakpoint :
    let scope : Scope := { locals := [("x", .array [.integer 1])] }
    let called : Node := { id := 0, kind := "CallExpression", function := some "debug::break" }
    let interpreter := Interpreter.scripted [.enter called scope, .leave] (.ok 0) []
    let a := Adapter.new {} (({} : Files).write "/site.pp" [])
    let entries : List Marked :=
      [⟨.request ⟨1, .configurationDone⟩, false⟩,
        ⟨.request ⟨2, .launch (some (.obj [("manifest", .str "/site.pp")]))⟩, false⟩, ⟨.request ⟨3, .scopes⟩, true⟩,
        ⟨.request ⟨4, .expand 1⟩, true⟩, ⟨.request ⟨5, .stackTrace⟩, false⟩, ⟨.request ⟨6, .evaluate "$x"⟩, true⟩]
    let original := entries.filter fun entry => !entry.inserted
    (∀ entry ∈ entries, entry.inserted = true → entry.input.inspects = true) ∧
      (a.observe {} interpreter entries).1 = (a.observe {} interpreter original).1 ∧
      (a.observe {} interpreter entries).2.session.saved.map (·.cache.length) = some 4 ∧
      (a.observe {} interpreter original).2.session.saved.map (·.cache.length) = some 0 := by
  intro scope called interpreter a entries original
  have hinserted : ∀ entry ∈ entries, entry.inserted = true → entry.input.inspects = true := by
    simp [entries, Input.inspects, Command.inspects, Command.showsValues]
  exact ⟨hinserted, (inspection_inert {} interpreter a entries hinserted).1, by decide +kernel, by decide +kernel⟩

end Adapter

end Debugger
