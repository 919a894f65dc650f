import Debugger.Evaluation

/-!
# The engine

An `Engine` is a session with the call that the evaluation side has outstanding, if any. `step` carries out one
operation, of the client or of the evaluation side, and then lets an outstanding call go on if its wait is over. One
call can be outstanding. While it is, another one is carried out only if it cannot wait: a report, or an announcement
while evaluation is paused.
-/

namespace Debugger

/-- A change to the file system. -/
inductive FileChange where
  | write (path : String) (bytes : List UInt8)
  | makeDirectory (path : String)
  | remove (path : String)

/-- Makes a change. -/
def Files.apply (files : Files) : FileChange → Files
  | .write path bytes => files.write path bytes
  | .makeDirectory path => files.makeDirectory path
  | .remove path => files.remove path

/-- An operation on a session. -/
inductive Operation where
  | assert (flag : Flag)
  | clear (flag : Flag)
  | setMode (mode : RunMode)
  | begin
  | terminate
  | disconnect
  /-- Has the client disconnected since this was last asked? -/
  | takeDisconnect
  | resume (command : Resume)
  | cache (v : Value)
  | cached (id : Int)
  | setUnit (path : String)
  | unit
  | setLines (file : String) (lines : List Nat)
  | lines (file : String)
  | findLine (file : String) (first last : Nat)
  | setFunctions (names : List String)
  | functions
  | hasFunction (name : String)
  | changeFile (change : FileChange)
  /-- The evaluation side begins with some actions. -/
  | call (actions : List Action)
  /-- The process that waits to exit has waited long enough. -/
  | graceExpires

/-- What an operation answers. -/
inductive Reply where
  | nothing
  | ok
  | busy
  | refused (e : SessionError)
  | bool (b : Bool)
  | id (n : Int)
  | value (v : Value)
  | path (p : Option String)
  | breakpoints (bs : List Breakpoint)
  | lines (ls : List Nat)
  | line (l : Option Nat)
  | names (ns : List String)

/-- A session, its files, and the outstanding call: what it waits for and what it does afterwards. -/
structure Engine where
  session : Session
  files : Files
  call : Option (Wait × List Action) := none

namespace Engine

/-- An engine at rest. -/
def new (setup : Setup) (files : Files) : Engine := { session := .new setup files.cwd, files }

/-- The evaluation side carries out actions. The outcome is that of a call that is over. -/
def proceed (setup : Setup) (e : Engine) (s : Session) (outcome : Outcome) (actions : List Action) :
    Engine × Option Outcome :=
  match s.advance setup outcome actions with
  | (s, .finished outcome) => ({ e with session := s, call := none }, some outcome)
  | (s, .blocked wait rest) => ({ e with session := s, call := some (wait, rest) }, none)

/-- Lets the outstanding call go on, if its wait is over. -/
def settle (setup : Setup) (e : Engine) : Engine × Option Outcome :=
  match e.call with
  | none => (e, none)
  | some (wait, rest) =>
    match e.session.release wait with
    | none => (e, none)
    | some (s, outcome) => e.proceed setup s outcome rest

/-- Whether the evaluation side waits for the given thing. -/
def waits (e : Engine) (p : Wait → Bool) : Bool := e.call.any fun c => p c.1

/-- Whether actions can be carried out while a call is outstanding. -/
def immediate (s : Session) : List Action → Bool
  | [.hook (.log _ _)] | [.failure _] => true
  | [.hook _] | [.stop _ _] => s.flags.paused
  | _ => false

/-- Changes the session. -/
def update (e : Engine) (s : Session) : Engine × Reply := ({ e with session := s }, .nothing)

/-- Changes the breakpoints. -/
def place (e : Engine) (r : Registry × List Breakpoint) : Engine × Reply :=
  ({ e with session := { e.session with breakpoints := r.1 } }, .breakpoints r.2)

/-- Carries out an operation of the client. -/
def serve (e : Engine) : Operation → Engine × Reply
  | .assert flag => e.update (e.session.assert flag)
  | .clear flag => e.update (e.session.clear flag)
  | .setMode mode => e.update (e.session.setMode mode)
  | .begin => e.update e.session.beginEvaluation
  | .terminate => e.update e.session.terminate
  | .disconnect => e.update e.session.disconnect
  | .takeDisconnect =>
    if e.waits (· matches .disconnect _) then (e, .busy)
    else ({ e with session := e.session.takeToken (.disconnect 0) }, .bool e.session.signals.disconnect)
  | .resume command =>
    match e.session.resume command with
    | .ok s => ({ e with session := s }, .ok)
    | .error err => (e, .refused err)
  | .cache v =>
    match e.session.cacheValue v with
    | .ok (id, s) => ({ e with session := s }, .id id)
    | .error err => (e, .refused err)
  | .cached id =>
    match e.session.cachedValue id with
    | .ok v => (e, .value v)
    | .error err => (e, .refused err)
  | .setUnit path => e.update { e.session with unit := some path }
  | .unit => (e, .path e.session.unit)
  | .setLines file ls => e.place (e.session.breakpoints.setLines e.files file ls)
  | .lines file => (e, .lines (e.session.breakpoints.linesOf file))
  | .findLine file first last => (e, .line (e.session.breakpoints.findLine file first last))
  | .setFunctions names => e.place (e.session.breakpoints.setFunctions names)
  | .functions => (e, .names e.session.breakpoints.functionNames)
  | .hasFunction name => (e, .bool (e.session.breakpoints.hasFunction name))
  | .changeFile change => ({ e with files := e.files.apply change }, .nothing)
  | .call _ | .graceExpires => (e, .nothing)

/-- Carries out an operation. The last component is the outcome of a call that came to its end. -/
def step (setup : Setup) (e : Engine) : Operation → Engine × Reply × Option Outcome
  | .call actions =>
    match e.call, actions with
    | none, _ =>
      let (e, finished) := e.proceed setup e.session .completed actions
      (e, .nothing, finished)
    | some _, [a] =>
      if immediate e.session [a] then ({ e with session := (e.session.perform setup a).1 }, .ok, none)
      else (e, .busy, none)
    | some _, _ => (e, .busy, none)
  | .graceExpires =>
    match e.call with
    | some (.disconnect code, rest) =>
      let (e, finished) :=
        e.proceed setup (e.session.record (.forcedExit code)) (.exited .gracePeriodExpired) rest
      (e, .nothing, finished)
    | _ => (e, .nothing, none)
  | op =>
    let (e, reply) := e.serve op
    let (e, finished) := e.settle setup
    (e, reply, finished)

/-- Carries out operations one after the other. -/
def run (setup : Setup) (e : Engine) (ops : List Operation) : Engine :=
  ops.foldl (fun e op => (e.step setup op).1) e

theorem run_cons (setup : Setup) (e : Engine) (op : Operation) (ops : List Operation) :
    e.run setup (op :: ops) = (e.step setup op).1.run setup ops := rfl

theorem run_append (setup : Setup) (e : Engine) (ops ops' : List Operation) :
    e.run setup (ops ++ ops') = (e.run setup ops).run setup ops' := List.foldl_append

end Engine

end Debugger
