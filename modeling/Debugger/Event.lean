/-!
# What the client is told

The events of a session: evaluation has stopped, there is output, the process has exited, the session is over.
-/

namespace Debugger

/-- Why evaluation stopped. -/
inductive StopReason where
  | step
  | breakpoint
  | function
  | exception
deriving DecidableEq, Repr, Inhabited

/-- The text of a reason. -/
def StopReason.render : StopReason → String
  | step => "step"
  | breakpoint => "breakpoint"
  | function => "function breakpoint"
  | exception => "exception"

/-- A stop as it is announced: the reason, what happened in words, and a short text. -/
structure Stop where
  reason : StopReason
  description : String
  text : String
deriving DecidableEq, Repr

namespace Stop

/-- A stop at the call of a function that has a breakpoint. -/
def atFunction (name : String) : Stop := ⟨.function, "Function breakpoint hit in " ++ name, name⟩

/-- A stop at a line that has a breakpoint. -/
def atLine (file : String) (line : Nat) : Stop :=
  ⟨.breakpoint, "Breakpoint hit at " ++ file ++ ":" ++ toString line, "Line " ++ toString line⟩

/-- A stop at the end of a step. -/
def afterStep : Stop := ⟨.step, "Step completed", ""⟩

/-- A stop where an exception was raised. -/
def onException (message : String) : Stop := ⟨.exception, message, message⟩

end Stop

/-- The channel of an output. -/
inductive Channel where
  | console
  | stdout
  | stderr
deriving DecidableEq, Repr, Inhabited

/-- What the client is told. -/
inductive Event where
  | stopped (stop : Stop) (threadId : Int)
  | output (channel : Channel) (text : String)
  | exited (code : Int)
  | terminated
deriving DecidableEq, Repr

/-- The level of a log message of the program. -/
inductive LogLevel where
  | debug
  | info
  | notice
  | warning
  | err
  | alert
  | emerg
  | crit
deriving DecidableEq, Repr, Inhabited

namespace LogLevel

/-- The name of a level. -/
def render : LogLevel → String
  | debug => "debug"
  | info => "info"
  | notice => "notice"
  | warning => "warning"
  | err => "err"
  | alert => "alert"
  | emerg => "emerg"
  | crit => "crit"

/-- The channel for messages of a level: from a warning on, they are errors. -/
def channel : LogLevel → Channel
  | debug | info | notice => .stdout
  | warning | err | alert | emerg | crit => .stderr

end LogLevel

end Debugger
