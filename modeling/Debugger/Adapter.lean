import Debugger.Launch
import Debugger.Response

/-!
# Answering requests

An `Adapter` answers the requests of one client about one evaluation. `handle` gives a response to every request that it
knows: it launches a manifest, sets breakpoints, resumes evaluation, and shows the stack, the variables and the value of
an expression while evaluation is paused.
-/

namespace Debugger

/-- Why a request is refused. -/
inductive AdapterError where
  | alreadyLaunched
  | missingLaunchArguments
  | launchArguments (cause : Mismatch)
  | evaluation (text : String)
  | session (cause : SessionError)

/-- The message for a request that is refused. -/
def AdapterError.message : AdapterError → String
  | alreadyLaunched => "A manifest is already being evaluated"
  | missingLaunchArguments => "Missing launch arguments"
  | launchArguments cause => "Failed to deserialize launch arguments: " ++ cause.message
  | evaluation text => "Evaluation error: " ++ text
  | session cause => cause.message

/-- The state of a front end: the engine, the manifest of the launch, and whether there was a launch. -/
structure Adapter where
  engine : Engine
  manifest : Option String := none
  launched : Bool := false

/-- What becomes of a request. -/
inductive Answer where
  | response (r : Response)
  /-- A response after which nothing is answered any more. -/
  | shutdown (r : Response)
  /-- The command is not supported, and there is no response. -/
  | unhandled

namespace Adapter

/-- A front end that has not been asked anything. -/
def new (setup : Setup) (files : Files) : Adapter := { engine := .new setup files }

/-- The session that is debugged. -/
def session (a : Adapter) : Session := a.engine.session

/-- Changes the session. -/
def withSession (a : Adapter) (s : Session) : Adapter := { a with engine := { a.engine with session := s } }

/-! ### The stack -/

/-- A line number as messages carry it: a signed number of 64 bits. -/
def signedLine (line : Nat) : Int := (line : Int).bmod UInt64.size

/-- A signed line number of a message as a line number. Negative ones are huge. -/
def unsignedLine (line : Int) : Nat := (line % UInt64.size).toNat

/-- A line number that a message can carry comes back as it was sent. -/
theorem signedLine_unsignedLine {line : Int} (h : -0x8000000000000000 ≤ line) (h' : line < 0x8000000000000000) :
    signedLine (unsignedLine line) = line := by
  have hsize : (UInt64.size : Int) = 0x10000000000000000 := rfl
  have hpos : 0 ≤ line % UInt64.size := by rw [hsize]; omega
  unfold signedLine unsignedLine
  rw [Int.toNat_of_nonneg hpos, Int.emod_bmod]
  exact Int.bmod_eq_of_le (by omega) (by omega)

/-- The source of a frame: its file, or else the manifest. -/
def sourceOf (a : Adapter) (file : Option String) : Option Source := (file.or a.manifest).map Source.ofPath

/-- The place where evaluation is paused, if the stack does not tell: that of the node or of the exception. -/
def pausePlace (s : Session) : Option Location := do
  let snapshot ← s.saved
  (snapshot.node.bind (·.location)).or (snapshot.exception.bind (·.location))

/-- The frames of the paused evaluation, innermost first. Without frames there is one for the place of the pause, and
without a pause there is a placeholder. -/
def stackFrames (a : Adapter) : List FrameView :=
  match a.session.saved.elim [] (·.stack) with
  | [] =>
    match pausePlace a.session with
    | some place => [⟨1, "main", signedLine place.line, a.sourceOf (some place.file)⟩]
    | none => [⟨0, "unknown", 1, a.sourceOf none⟩]
  | stack => stack.reverse.mapIdx fun i f => ⟨i + 1, f.name, signedLine f.line, a.sourceOf f.file⟩

/-! ### Values

What is handed out before a failure stays handed out, so each function also returns the session as it leaves it. -/

/-- A reference for a value: a fresh one for a container, zero for anything else. -/
def reference (s : Session) (v : Value) : Session × Except SessionError Int :=
  if v.hasChildren then
    match s.cacheValue v with
    | .ok (id, s) => (s, .ok id)
    | .error cause => (s, .error cause)
  else (s, .ok 0)

/-- The groups of variables of the scope of the pause. -/
def scopeViews (s : Session) : Session × Except SessionError (List ScopeView) :=
  match s.saved.bind (·.scope) with
  | none => (s, .ok [])
  | some scope =>
    match reference s (.hash scope.locals) with
    | (s, .error cause) => (s, .error cause)
    | (s, .ok locals) =>
      match reference s (.hash scope.globals) with
      | (s, .error cause) => (s, .error cause)
      | (s, .ok globals) => (s, .ok [⟨"Local", locals⟩, ⟨"Global", globals⟩])

/-- Named values as variables. -/
def variableViews (s : Session) : List (String × Value) → Session × Except SessionError (List VariableView)
  | [] => (s, .ok [])
  | (name, v) :: rest =>
    match reference s v with
    | (s, .error cause) => (s, .error cause)
    | (s, .ok id) =>
      match variableViews s rest with
      | (s, .error cause) => (s, .error cause)
      | (s, .ok views) => (s, .ok (⟨name, v.render, v.typeName, id⟩ :: views))

/-- The values inside the value that a reference was handed out for. -/
def expand (s : Session) (id : Int) : Session × Except SessionError (List VariableView) :=
  match s.cachedValue id with
  | .ok v => variableViews s v.children
  | .error cause => (s, .error cause)

/-- The value of an expression at the pause. -/
def evaluate (interpreter : Interpreter) (s : Session) (expression : String) :
    Session × Except AdapterError Body :=
  if !s.flags.paused then (s, .error (.session .notPaused))
  else
    match interpreter.evaluate expression (s.saved.bind (·.scope)) s.unit with
    | .error text => (s, .error (.evaluation text))
    | .ok v =>
      match reference s v with
      | (s, .error cause) => (s, .error (.session cause))
      | (s, .ok id) => (s, .ok (.value v.render v.typeName id))

/-! ### Breakpoints -/

/-- Sets the breakpoints of a source. A source without a path has none. -/
def setBreakpoints (a : Adapter) (source : Source) (lines : List Int) : Adapter × List BreakpointView :=
  match source.path with
  | none => (a, [])
  | some path =>
    let (registry, results) := a.session.breakpoints.setLines a.engine.files path (lines.map unsignedLine)
    let views := results.map fun b =>
      { verified := b.verified, message := b.rejection.map Rejection.message, source := some source
        line := match b.target with
          | .line _ line => some (signedLine line)
          | .function _ => none }
    (a.withSession { a.session with breakpoints := registry }, views)

/-- Sets the function breakpoints. -/
def setFunctionBreakpoints (a : Adapter) (names : List String) : Adapter × List BreakpointView :=
  let (registry, results) := a.session.breakpoints.setFunctions names
  (a.withSession { a.session with breakpoints := registry }, results.map fun b => { verified := b.verified })

/-! ### Requests -/

/-- The arguments of a launch that is acceptable now. -/
def launchArgs (a : Adapter) (data : Option Json) : Except AdapterError LaunchArgs :=
  if a.launched then .error .alreadyLaunched
  else match data with
    | none => .error .missingLaunchArguments
    | some data => (LaunchArgs.read data).mapError .launchArguments

/-- Carries out an operation on the session. -/
def operate (setup : Setup) (a : Adapter) (op : Operation) : Adapter × Reply :=
  let (engine, reply, _) := a.engine.step setup op
  ({ a with engine }, reply)

/-- Starts an evaluation. -/
def launch (setup : Setup) (interpreter : Interpreter) (a : Adapter) (args : LaunchArgs) : Adapter :=
  let a := { a with manifest := some args.manifest, launched := true }
  (a.operate setup (.call (interpreter.program a.engine.files args))).1

/-- The outcome of an inspection of the session. -/
def inspected (a : Adapter) (view : α → Body) (r : Session × Except SessionError α) :
    Adapter × Except AdapterError Body :=
  (a.withSession r.1, (r.2.map view).mapError .session)

/-- Carries out a command: the state that it leaves, with the body of the response or the reason why the command is
refused. An unsupported command has no outcome. -/
def execute (setup : Setup) (interpreter : Interpreter) (a : Adapter) :
    Command → Option (Adapter × Except AdapterError Body)
  | .launch data => some <|
    match a.launchArgs data with
    | .ok args => (a.launch setup interpreter args, .ok .empty)
    | .error e => (a, .error e)
  | .setBreakpoints source breakpoints lines =>
    let (a, views) := a.setBreakpoints source ((breakpoints.or lines).getD [])
    some (a, .ok (.breakpoints views))
  | .setFunctionBreakpoints names =>
    let (a, views) := a.setFunctionBreakpoints names
    some (a, .ok (.breakpoints views))
  | .setExceptionBreakpoints => some (a, .ok .exceptionBreakpoints)
  | .configurationDone => some ((a.operate setup (.assert .clientConfigured)).1, .ok .empty)
  | .threads => some (a, .ok (.threads setup.config.threadId))
  | .stackTrace => some (a, .ok (.stackTrace a.stackFrames))
  | .scopes => some (a.inspected .scopes (scopeViews a.session))
  | .expand id => some (a.inspected .expansion (expand a.session id))
  | .evaluate expression =>
    let (s, result) := evaluate interpreter a.session expression
    some (a.withSession s, result)
  | .resume command =>
    let (a, reply) := a.operate setup (.resume command)
    some (a, match reply with
      | .refused cause => .error (.session cause)
      | _ => .ok (if command = .continue then .continued else .empty))
  | .disconnect => some ((a.operate setup .disconnect).1, .ok .empty)
  | .initialization | .unsupported _ => none

/-- Answers a request. -/
def handle (setup : Setup) (interpreter : Interpreter) (a : Adapter) (r : Request) : Adapter × Answer :=
  match a.execute setup interpreter r.command with
  | none => (a, .unhandled)
  | some (a, .error e) => (a, .response ⟨r.seq, .error e.message⟩)
  | some (a, .ok body) =>
    let response := ⟨r.seq, .ok (r.command.name, body)⟩
    (a, if r.command matches .disconnect then .shutdown response else .response response)

/-- The front end is given up. -/
def close (setup : Setup) (a : Adapter) : Adapter := (a.operate setup .disconnect).1

end Adapter

end Debugger
