import Debugger.Request.Arguments
import Debugger.RunMode

/-!
# Requests of the client

A request has a number and a command with its arguments. `Request.read` takes one from a JSON object, whose members
`seq`, `command` and `arguments` may be there only once and whose other members are ignored.
-/

namespace Debugger

/-- What the client asks for. -/
inductive Command where
  /-- The first request of a client. -/
  | initialization
  /-- Evaluate a manifest. The data are launch arguments. -/
  | launch (data : Option Json)
  /-- Replace the breakpoints of a source, given with their lines or by their lines alone. -/
  | setBreakpoints (source : Source) (breakpoints lines : Option (List Int))
  | setFunctionBreakpoints (names : List String)
  | setExceptionBreakpoints
  | configurationDone
  | threads
  | stackTrace
  | scopes
  /-- Show the values inside the one that a reference was handed out for. -/
  | expand (reference : Int)
  | evaluate (expression : String)
  | resume (command : Resume)
  | disconnect
  /-- A command that is known by name and not supported. -/
  | unsupported (name : String)

/-- A numbered request. -/
structure Request where
  seq : Int
  command : Command

/-- The name of a command. -/
def Command.name : Command → String
  | initialization => "initialize"
  | launch _ => "launch"
  | setBreakpoints _ _ _ => "setBreakpoints"
  | setFunctionBreakpoints _ => "setFunctionBreakpoints"
  | setExceptionBreakpoints => "setExceptionBreakpoints"
  | configurationDone => "configurationDone"
  | threads => "threads"
  | stackTrace => "stackTrace"
  | scopes => "scopes"
  | expand _ => "variables"
  | evaluate _ => "evaluate"
  | resume .continue => "continue"
  | resume .next => "next"
  | resume .stepIn => "stepIn"
  | resume .stepOut => "stepOut"
  | disconnect => "disconnect"
  | unsupported name => name

namespace Request

open Json

/-- The command with a name, from the members of its arguments. -/
def ofRecord (name : String) (members : List (String × Json)) : Except Mismatch Command :=
  match name with
  | "initialize" => return .initialization
  | "setBreakpoints" => do
    let source ← readField members "source" Source.read
    let breakpoints ← readFieldOption members "breakpoints" (readList readLine)
    let lines ← readFieldOption members "lines" (readList readInt64)
    return .setBreakpoints source breakpoints lines
  | "setFunctionBreakpoints" =>
    return .setFunctionBreakpoints (← readField members "breakpoints" (readList readFunctionName))
  | "setExceptionBreakpoints" => return .setExceptionBreakpoints
  | "stackTrace" => return .stackTrace
  | "scopes" => return .scopes
  | "variables" => return .expand (← readField members "variablesReference" readInt64)
  | "evaluate" => return .evaluate (← readField members "expression" readString)
  | "continue" => return .resume .continue
  | "next" => return .resume .next
  | "stepIn" => return .resume .stepIn
  | "stepOut" => return .resume .stepOut
  | "disconnect" => return .disconnect
  | name => return .unsupported name

/-- Reads a command by its name. -/
def readCommand (name : String) (arguments : Option Json) : Except Mismatch Command :=
  match name with
  | "launch" => return .launch (some (← readArguments readLaunchData arguments))
  | "attach" => do let _ ← readArguments readAttachData arguments; return .unsupported name
  | "configurationDone" => do noArguments arguments; return .configurationDone
  | "threads" => do noArguments arguments; return .threads
  | "loadedSources" => do noArguments arguments; return .unsupported name
  | name =>
    match record? name with
    | some fields => do ofRecord name (← readArguments (readRecord fields) arguments)
    | none => .error (.variant name)

/-- Reads a request. -/
def read : Reader Request
  | .obj ms => do
    let members ← (Json.obj ms).readFields ["seq", "command", "arguments"]
    let seq ← readField members "seq" readInt64
    let name ← readField members "command" readTag
    return { seq, command := ← readCommand name (members.lookup "arguments") }
  | v => .error (.type v "a request")

end Request

end Debugger
