import Debugger.Session

/-!
# What the evaluation announces

The interpreter announces each node that it enters and leaves, each exception, each log message and its exit. Entering
a node raises the depth and may stop evaluation: at a function breakpoint, else at a line breakpoint on a line that the
node spans, else because the node completes a step. A stop saves a snapshot and tells the client; the evaluation then
waits. While evaluation is paused, inspecting a value may make the interpreter evaluate again: those announcements
change nothing.
-/

namespace Debugger.Session

/-- Stops evaluation, unless it is stopped already or the session is over. The second component says whether the
evaluation has to wait. Tokens that were left before the stop do not count. -/
def stop (setup : Setup) (what : Stop) (snapshot : Snapshot) (s : Session) : Session × Bool :=
  if s.flags.paused || s.flags.terminate || s.ended then (s, false)
  else
    let s := { s with
      signals := { s.signals with resume := false }
      saved := some { snapshot with cache := [] }
      flags := { s.flags with paused := true } }
    (s.send (.stopped what setup.config.threadId), true)

/-- The first line with a breakpoint among the lines that a node spans, with its file. A node without length spans
none. -/
def lineBreakpoint (setup : Setup) (node : Node) (s : Session) : Option (String × Nat) := do
  let place ← node.location
  if place.length = 0 || !setup.carriesBreakpoint node then none
  else
    let line ← s.breakpoints.findLine place.file place.line (node.endLine place)
    return (place.file, line)

/-- The function breakpoint that a node hits. -/
def functionBreakpoint (node : Node) (s : Session) : Option String :=
  node.function.filter s.breakpoints.hasFunction

/-- Why evaluation stops at a node that is entered, if it does. -/
def stopAt (setup : Setup) (node : Node) (s : Session) : Option Stop :=
  match s.functionBreakpoint node, s.lineBreakpoint setup node with
  | some name, _ => some (.atFunction name)
  | none, some (file, line) => some (.atLine file line)
  | none, none => if s.mode.pausesAt s.depth then some .afterStep else none

/-- The snapshot of a pause at a node. -/
def snapshotAt (node : Node) (scope : Scope) (s : Session) : Snapshot :=
  { stack := scope.stack.reverse, node := some node, scope := some scope, depth := s.depth }

/-- A node is entered. -/
def enter (setup : Setup) (node : Node) (scope : Scope) (s : Session) : Session × Bool :=
  if s.flags.paused then (s, false)
  else
    let s := { s with depth := s.depth + 1 }
    if s.ended then (s, false)
    else match s.stopAt setup node with
      | some what => s.stop setup what (s.snapshotAt node scope)
      | none => (s, false)

/-- A node is left. -/
def leave (s : Session) : Session := if s.flags.paused then s else { s with depth := s.depth - 1 }

/-- The program has raised an exception. -/
def raise (setup : Setup) (e : Exception) (s : Session) : Session × Bool :=
  if s.flags.paused then (s, false)
  else s.stop setup (.onException e.message) { exception := some e, stack := e.stack.reverse, depth := s.depth }

/-- The program has logged a message. -/
def log (level : LogLevel) (text : String) (s : Session) : Session :=
  if s.isSet .suppressLogs then s
  else s.send (.output level.channel (level.render ++ ": " ++ text ++ "\n"))

/-- Reports an error that kept evaluation from running to its end. -/
def reportFailure (text : String) (s : Session) : Session := s.send (.output .stderr (text ++ "\n"))

/-- The process exits: the client is told, and the session ends. -/
def announceExit (setup : Setup) (code : Int) (s : Session) : Session :=
  let s := s.send (.exited code)
  let s := if setup.announcesEnd then s.send .terminated else s
  s.terminate

/-- The manifest is ready to be evaluated. -/
def prepare (path : String) (s : Session) : Session := { s with unit := some path }.assert .sessionReady

end Debugger.Session
