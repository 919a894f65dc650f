import Debugger.Proofs.Inspection
import Debugger.Proofs.Snapshot

/-!
# Requests as operations

A front end does nothing for a request that its client could not do by operations on the session: the engine that it
leaves is the one that `Adapter.operations` leave (`handle_engine`). So a run of a front end is a run of its engine
(`run_engine`), and what holds along every run of an engine holds along every run of a front end.

A request that shows values hands out those of them that are containers, in order (`handOut`).
-/

namespace Debugger

/-! ### Values that are handed out -/

/-- The containers among some values. -/
def Value.containers (vs : List Value) : List Value := vs.filter hasChildren

/-- The references for values when some were handed out before: the next numbers for containers, and zero for the
others. -/
def Value.references : Nat → List Value → List Int
  | _, [] => []
  | n, v :: vs => if v.hasChildren then (n + 1 : Nat) :: references (n + 1) vs else 0 :: references n vs

namespace Session

theorem saved_of_cachedValue {s : Session} {id : Int} {v : Value} (h : s.cachedValue id = .ok v) :
    ∃ snapshot, s.saved = some snapshot := by
  cases hs : s.saved with
  | none => simp [cachedValue, hs] at h
  | some snapshot => exact ⟨snapshot, rfl⟩

end Session

namespace Adapter

theorem reference_of_not_saved {s : Session} (h : s.saved = none) (v : Value) :
    reference s v = (s, if v.hasChildren then .error .notPaused else .ok 0) := by
  unfold reference
  rw [Session.cacheValue_eq, h]
  split <;> rfl

theorem reference_of_saved {s : Session} {snapshot : Snapshot} (h : s.saved = some snapshot) (v : Value) :
    reference s v = (s.handOut (Value.containers [v]),
      .ok (if v.hasChildren then (snapshot.cache.length + 1 : Nat) else 0)) := by
  unfold reference
  rw [Session.cacheValue_eq, h]
  cases hc : v.hasChildren with
  | true => simp [Value.containers, hc]
  | false => simp [Value.containers, hc, Session.handOut_nil]

/-- At a pause the values of some variables can be shown, and the containers among them are handed out. -/
theorem variableViews_of_saved {s : Session} {snapshot : Snapshot} (h : s.saved = some snapshot)
    (named : List (String × Value)) :
    ∃ views, variableViews s named = (s.handOut (Value.containers (named.map (·.2))), .ok views) ∧
      views.map (·.reference) = Value.references snapshot.cache.length (named.map (·.2)) := by
  induction named generalizing s snapshot with
  | nil => exact ⟨[], by simp [variableViews, Value.containers, Session.handOut_nil], rfl⟩
  | cons entry rest ih =>
    obtain ⟨name, v⟩ := entry
    have hfirst := reference_of_saved h v
    obtain ⟨views, hviews, hreferences⟩ := ih (Session.handOut_of_saved h (Value.containers [v]))
    refine ⟨⟨name, v.render, v.typeName, if v.hasChildren then (snapshot.cache.length + 1 : Nat) else 0⟩ :: views,
      ?_, ?_⟩
    · simp only [variableViews, hfirst, hviews, Session.handOut_handOut]
      rw [Value.containers, Value.containers, ← List.filter_append]
      rfl
    · rw [List.map_cons, hreferences]
      cases hc : v.hasChildren <;> simp [Value.references, Value.containers, hc]

/-- At a pause in a scope the two groups of its variables are handed out. -/
theorem scopeViews_of_saved {s : Session} {snapshot : Snapshot} {scope : Scope} (h : s.saved = some snapshot)
    (hscope : snapshot.scope = some scope) :
    scopeViews s = (s.handOut [.hash scope.locals, .hash scope.globals],
      .ok [⟨"Local", (snapshot.cache.length + 1 : Nat)⟩, ⟨"Global", (snapshot.cache.length + 2 : Nat)⟩]) := by
  have hlocals : reference s (.hash scope.locals) =
      (s.handOut [.hash scope.locals], .ok (snapshot.cache.length + 1 : Nat)) := reference_of_saved h _
  have hglobals := reference_of_saved (Session.handOut_of_saved h [.hash scope.locals]) (.hash scope.globals)
  have hlength : (snapshot.cache ++ [Value.hash scope.locals]).length = snapshot.cache.length + 1 := List.length_append
  unfold scopeViews
  simp only [h, Option.bind_some, hscope, hlocals, hglobals, Session.handOut_handOut, hlength]
  rfl

/-- The values that a command shows, in order. -/
def shown (interpreter : Interpreter) (s : Session) : Command → List Value
  | .scopes => (s.saved.bind (·.scope)).elim [] fun scope => [.hash scope.locals, .hash scope.globals]
  | .expand id =>
    match s.cachedValue id with
    | .ok v => v.children.map (·.2)
    | .error _ => []
  | .evaluate expression =>
    if s.flags.paused then
      match interpreter.evaluate expression (s.saved.bind (·.scope)) s.unit with
      | .ok v => [v]
      | .error _ => []
    else []
  | _ => []

theorem scopeViews_session (interpreter : Interpreter) (s : Session) :
    (scopeViews s).1 = s.handOut (Value.containers (shown interpreter s .scopes)) := by
  cases h : s.saved with
  | none => simp [scopeViews, h, Session.handOut_of_not_saved]
  | some snapshot =>
    cases hscope : snapshot.scope with
    | none => simp [scopeViews, shown, h, hscope, Value.containers, Session.handOut_nil]
    | some scope =>
      rw [scopeViews_of_saved h hscope]
      simp only [shown, h, Option.bind_some, hscope]
      rfl

theorem expand_session (interpreter : Interpreter) (s : Session) (id : Int) :
    (expand s id).1 = s.handOut (Value.containers (shown interpreter s (.expand id))) := by
  cases hv : s.cachedValue id with
  | error err => simp [expand, shown, hv, Value.containers, Session.handOut_nil]
  | ok v =>
    obtain ⟨snapshot, h⟩ := Session.saved_of_cachedValue hv
    obtain ⟨views, hviews, -⟩ := variableViews_of_saved h v.children
    simp only [expand, shown, hv, hviews]

theorem evaluate_session (interpreter : Interpreter) (s : Session) (expression : String) :
    (evaluate interpreter s expression).1 =
      s.handOut (Value.containers (shown interpreter s (.evaluate expression))) := by
  cases hp : s.flags.paused with
  | false => simp [evaluate, shown, hp, Value.containers, Session.handOut_nil]
  | true =>
    cases hv : interpreter.evaluate expression (s.saved.bind (·.scope)) s.unit with
    | error text => simp [evaluate, shown, hp, hv, Value.containers, Session.handOut_nil]
    | ok v =>
      cases h : s.saved with
      | none =>
        rw [Session.handOut_of_not_saved h]
        rw [h] at hv
        simp only [evaluate, hp, h, hv, reference_of_not_saved h]
        cases v.hasChildren <;> rfl
      | some snapshot =>
        rw [h] at hv
        simp only [evaluate, shown, hp, h, hv, reference_of_saved h]
        rfl

end Adapter

/-! ### Operations of a command -/

namespace Engine

/-- The engine with another session in which what is waited for has happened no sooner. -/
private theorem Settled.of_outcome {e : Engine} (h : e.Settled) {s : Session}
    (hsame : ∀ w, s.outcome? w = e.session.outcome? w) : Settled { e with session := s } :=
  fun w hw => (hsame w).trans (h w hw)

private theorem settled_handOut {e : Engine} (h : e.Settled) (vs : List Value) :
    Settled { e with session := e.session.handOut vs } :=
  h.of_outcome fun w => by cases w <;> rfl

private theorem settled_breakpoints {e : Engine} (h : e.Settled) (breakpoints : Registry) :
    Settled { e with session := { e.session with breakpoints } } :=
  h.of_outcome fun w => by cases w <;> rfl

/-- Values that are handed out one after the other. -/
theorem run_cache (setup : Setup) {e : Engine} (h : e.Settled) (vs : List Value) :
    e.run setup (vs.map .cache) = { e with session := e.session.handOut vs } := by
  induction vs generalizing e with
  | nil => simp only [List.map_nil, Session.handOut_nil]; rfl
  | cons v vs ih =>
    have hserve : (e.serve (.cache v)).1 = { e with session := e.session.handOut [v] } := by
      simp only [serve, Session.cacheValue_eq]
      cases hs : e.session.saved with
      | none => simp only [Session.handOut_of_not_saved hs]
      | some snapshot => rfl
    have hstep : (e.step setup (.cache v)).1 = { e with session := e.session.handOut [v] } := by
      rw [step_of_served setup e (.cache v) (by simp) (by simp)]
      simp only [hserve]
      rw [settle_of_settled setup (settled_handOut h [v])]
    rw [List.map_cons, run_cons, hstep, ih (settled_handOut h [v])]
    simp only [Session.handOut_handOut, List.singleton_append]

end Engine

namespace Adapter

/-- The operations by which a front end carries out a command. -/
def operations (interpreter : Interpreter) (a : Adapter) : Command → List Operation
  | .launch data =>
    match a.launchArgs data with
    | .ok args => [.call (interpreter.program a.engine.files args)]
    | .error _ => []
  | .setBreakpoints source breakpoints lines =>
    source.path.elim [] fun path => [.setLines path (((breakpoints.or lines).getD []).map unsignedLine)]
  | .setFunctionBreakpoints names => [.setFunctions names]
  | .configurationDone => [.assert .clientConfigured]
  | .resume command => [.resume command]
  | .disconnect => [.disconnect]
  | command => (Value.containers (shown interpreter a.session command)).map .cache

theorem handle_eq_execute {setup : Setup} {interpreter : Interpreter} {a a' : Adapter} {r : Request}
    {result : Except AdapterError Body} (h : a.execute setup interpreter r.command = some (a', result)) :
    (a.handle setup interpreter r).1 = a' := by
  simp only [handle, h]
  cases result <;> rfl

/-- The engine that a request leaves is the one that the operations of its command leave. -/
theorem handle_engine (setup : Setup) (interpreter : Interpreter) {a : Adapter} (h : a.engine.Settled) (r : Request) :
    (a.handle setup interpreter r).1.engine = a.engine.run setup (a.operations interpreter r.command) := by
  have hshows : ∀ command s, s = a.session.handOut (Value.containers (shown interpreter a.session command)) →
      (a.withSession s).engine =
        a.engine.run setup ((Value.containers (shown interpreter a.session command)).map .cache) := by
    intro command s hs
    rw [Engine.run_cache setup h, hs]
    rfl
  cases hr : r.command with
  | launch data =>
    cases hargs : a.launchArgs data with
    | ok args =>
      rw [handle_eq_execute (by rw [hr, execute, hargs])]
      simp only [operations, hargs]
      rfl
    | error err =>
      rw [handle_eq_execute (by rw [hr, execute, hargs])]
      simp only [operations, hargs]
      rfl
  | setBreakpoints source breakpoints lines =>
    rw [handle_eq_execute (by rw [hr, execute])]
    cases hpath : source.path with
    | none => simp only [setBreakpoints, operations, hpath]; rfl
    | some path =>
      have hsettle := Engine.settle_of_settled setup (Engine.settled_breakpoints h
        (a.session.breakpoints.setLines a.engine.files path (((breakpoints.or lines).getD []).map unsignedLine)).1)
      simp only [setBreakpoints, operations, hpath]
      exact (congrArg Prod.fst hsettle).symm
  | setFunctionBreakpoints names =>
    rw [handle_eq_execute (by rw [hr, execute])]
    exact (congrArg Prod.fst (Engine.settle_of_settled setup (Engine.settled_breakpoints h
      (a.session.breakpoints.setFunctions names).1))).symm
  | configurationDone => rw [handle_eq_execute (by rw [hr, execute])]; rfl
  | resume command => rw [handle_eq_execute (by rw [hr, execute])]; rfl
  | disconnect => rw [handle_eq_execute (by rw [hr, execute])]; rfl
  | scopes =>
    rw [handle_eq_execute (by rw [hr, execute])]
    exact hshows .scopes _ (scopeViews_session interpreter a.session)
  | expand id =>
    rw [handle_eq_execute (by rw [hr, execute])]
    exact hshows (.expand id) _ (expand_session interpreter a.session id)
  | evaluate expression =>
    rw [handle_eq_execute (by rw [hr, execute])]
    exact hshows (.evaluate expression) _ (evaluate_session interpreter a.session expression)
  | initialization => simp only [handle, hr]; rfl
  | unsupported name => simp only [handle, hr]; rfl
  | _ => rw [handle_eq_execute (by rw [hr, execute])]; rfl

/-! ### Runs -/

/-- Takes inputs one after the other. -/
def run (setup : Setup) (interpreter : Interpreter) (a : Adapter) (inputs : List Input) : Adapter :=
  inputs.foldl (fun a i => (a.take setup interpreter i).1) a

theorem run_cons (setup : Setup) (interpreter : Interpreter) (a : Adapter) (i : Input) (inputs : List Input) :
    a.run setup interpreter (i :: inputs) = (a.take setup interpreter i).1.run setup interpreter inputs := rfl

theorem run_append (setup : Setup) (interpreter : Interpreter) (a : Adapter) (inputs more : List Input) :
    a.run setup interpreter (inputs ++ more) = (a.run setup interpreter inputs).run setup interpreter more :=
  List.foldl_append

/-- The operations of an input. -/
def operationsOf (interpreter : Interpreter) (a : Adapter) : Input → List Operation
  | .request r => a.operations interpreter r.command
  | .operation op => [op]

theorem take_engine (setup : Setup) (interpreter : Interpreter) {a : Adapter} (h : a.engine.Settled) (i : Input) :
    (a.take setup interpreter i).1.engine = a.engine.run setup (a.operationsOf interpreter i) := by
  cases i with
  | request r => exact handle_engine setup interpreter h r
  | operation op => rfl

/-- A run of a front end is a run of its engine. -/
theorem run_engine (setup : Setup) (interpreter : Interpreter) {a : Adapter} (h : a.engine.Settled)
    (inputs : List Input) : ∃ ops, (a.run setup interpreter inputs).engine = a.engine.run setup ops := by
  induction inputs generalizing a with
  | nil => exact ⟨[], rfl⟩
  | cons i inputs ih =>
    have hi := take_engine setup interpreter h i
    obtain ⟨ops, hops⟩ := ih (a := (a.take setup interpreter i).1) (by rw [hi]; exact Engine.settled_run h _)
    refine ⟨a.operationsOf interpreter i ++ ops, ?_⟩
    rw [run_cons, hops, hi, Engine.run_append]

theorem settled_run (setup : Setup) (interpreter : Interpreter) (files : Files) (inputs : List Input) :
    ((new setup files).run setup interpreter inputs).engine.Settled := by
  obtain ⟨ops, hops⟩ := run_engine setup interpreter (a := new setup files) (Engine.settled_new setup files) inputs
  rw [hops]
  exact Engine.settled_run (Engine.settled_new setup files) ops

theorem mirrored_run (setup : Setup) (interpreter : Interpreter) (files : Files) (inputs : List Input) :
    let s := ((new setup files).run setup interpreter inputs).session
    s.flags.terminate = s.ended := by
  intro s
  obtain ⟨ops, hops⟩ := run_engine setup interpreter (a := new setup files) (Engine.settled_new setup files) inputs
  simp only [s, session, hops]
  exact Engine.mirrored_run setup files ops

end Adapter

end Debugger
