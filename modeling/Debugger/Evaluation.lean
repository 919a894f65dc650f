import Debugger.Hook

/-!
# Evaluations

What the evaluation side does is a list of actions. `advance` carries them out until one has to wait: for a paused
evaluation to be resumed, for the start, or for the client to disconnect before the process exits. What is left then
goes on when the wait is over, which `release` decides.
-/

namespace Debugger

/-- What the interpreter announces while it evaluates. -/
inductive Hook where
  | enter (node : Node) (scope : Scope)
  | leave
  | exception (e : Exception)
  | log (level : LogLevel) (text : String)

/-- An action of the evaluation side. -/
inductive Action where
  | hook (h : Hook)
  /-- A node was entered, and evaluation is not paused any more. -/
  | visit (node : Node)
  /-- Stop for a reason of the host's own. -/
  | stop (what : Stop) (snapshot : Snapshot)
  | failure (text : String)
  | prepare (path : String)
  | awaitStart
  | begin
  | exit (code : Int)

/-- A node to be evaluated in a scope, with those that are evaluated inside it. -/
inductive Tree where
  | node (node : Node) (scope : Scope) (children : List Tree)
deriving Inhabited

mutual

/-- The actions by which a tree is evaluated: the node is entered and visited, then its children are evaluated, then it
is left. -/
def Tree.actions : Tree → List Action
  | .node n scope children =>
    .hook (.enter n scope) :: .visit n :: Tree.forest children ++ [.hook .leave]

/-- The actions by which trees are evaluated one after the other. -/
def Tree.forest : List Tree → List Action
  | [] => []
  | t :: ts => t.actions ++ Tree.forest ts

end

/-- How a process came to its end. -/
inductive Disposition where
  | disconnected
  | gracePeriodExpired
deriving DecidableEq, Repr

/-- What an action returns. -/
inductive Outcome where
  | completed
  /-- Whether the start was granted. -/
  | start (granted : Bool)
  | exited (how : Disposition)
deriving DecidableEq, Repr

/-- What an evaluation waits for. -/
inductive Wait where
  | resume
  | start
  /-- The client to disconnect, before the process exits with a code. -/
  | disconnect (code : Int)
deriving DecidableEq, Repr

/-- An action is done, or has to wait. -/
inductive Progress where
  | done (outcome : Outcome)
  | waiting (wait : Wait)
deriving DecidableEq, Repr

namespace Session

/-- How a wait ends, if what is waited for has happened. The end of the session ends every wait but the one for a
disconnect. -/
def outcome? (s : Session) : Wait → Option Outcome
  | .resume => if s.signals.resume || s.ended then some .completed else none
  | .start =>
    if s.ended then some (.start false) else if s.flags.startRequested then some (.start true) else none
  | .disconnect _ => if s.signals.disconnect then some (.exited .disconnected) else none

/-- Takes the token that wakes a wait. -/
def takeToken (s : Session) : Wait → Session
  | .resume => { s with signals := { s.signals with resume := false } }
  | .start => { s with signals := { s.signals with start := false } }
  | .disconnect _ => { s with signals := { s.signals with disconnect := false } }

/-- Ends a wait, if what is waited for has happened. -/
def release (s : Session) (wait : Wait) : Option (Session × Outcome) :=
  (s.outcome? wait).map fun outcome => (s.takeToken wait, outcome)

/-- Waits, unless what is waited for has happened already. A start that was granted before leaves its token. -/
def await (s : Session) (wait : Wait) : Session × Progress :=
  match s.outcome? wait with
  | some outcome => (if wait = .start then s else s.takeToken wait, .done outcome)
  | none => (s.takeToken wait, .waiting wait)

/-- An announcement, after which evaluation goes on or waits to be resumed. -/
def announce (setup : Setup) (s : Session) : Hook → Session × Bool
  | .enter node scope => s.enter setup node scope
  | .leave => (s.leave, false)
  | .exception e => s.raise setup e
  | .log level text => (s.log level text, false)

/-- Waits to be resumed if evaluation has stopped. -/
def awaitIf (stopped : Session × Bool) : Session × Progress :=
  if stopped.2 then stopped.1.await .resume else (stopped.1, .done .completed)

/-- Carries out an action. -/
def perform (setup : Setup) (s : Session) : Action → Session × Progress
  | .hook h => awaitIf (s.announce setup h)
  | .visit node => (s.record (.visited node s.depth), .done .completed)
  | .stop what snapshot => awaitIf (s.stop setup what snapshot)
  | .failure text => (s.reportFailure text, .done .completed)
  | .prepare path => (s.prepare path, .done .completed)
  | .awaitStart => s.await .start
  | .begin => (s.beginEvaluation, .done .completed)
  | .exit code => (s.announceExit setup code).await (.disconnect code)

end Session

/-- An evaluation is over, or waits with actions left. -/
inductive Status where
  | finished (outcome : Outcome)
  | blocked (wait : Wait) (rest : List Action)

/-- Carries out actions until one has to wait, after an earlier one with the given outcome. If the start is refused, the
rest is dropped. The outcome of all is that of the last action. -/
def Session.advance (setup : Setup) (s : Session) : Outcome → List Action → Session × Status
  | .start false, _ => (s, .finished (.start false))
  | outcome, [] => (s, .finished outcome)
  | _, a :: rest =>
    match s.perform setup a with
    | (s, .done outcome) => s.advance setup outcome rest
    | (s, .waiting wait) => (s, .blocked wait rest)

end Debugger
