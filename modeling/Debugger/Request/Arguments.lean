import Debugger.Json.Record
import Debugger.Source

/-!
# Arguments of requests

What the arguments of each command have to be. Most commands take a record, whose fields `record?` lists. A launch takes
an object of any members, and some commands take nothing.
-/

namespace Debugger.Request

open Json

/-! ### Parts of arguments -/

/-- Reads one of the units in which a step may be asked for. -/
def readGranularity : Reader String := readName ["statement", "line", "instruction"]

/-- Reads the format of values. -/
def readValueFormat : Reader (List (String × Json)) := readRecord [.optional "hex" readBool]

/-- Reads the format of stack frames. -/
def readFrameFormat : Reader (List (String × Json)) :=
  readRecord <|
    ["parameters", "parameterTypes", "parameterNames", "parameterValues", "line", "module", "includeAll"].map
      (Field.optional · readBool)

/-- Reads a breakpoint on a line. -/
def readLineBreakpoint : Reader (List (String × Json)) :=
  readRecord [.required "line" readInt64, .optional "column" readInt64, .optional "condition" readString,
    .optional "hit_condition" readString, .optional "log_message" readString]

/-- Reads a breakpoint on a function. -/
def readFunctionBreakpoint : Reader (List (String × Json)) :=
  readRecord [.required "name" readString, .optional "condition" readString, .optional "hitCondition" readString]

/-- Reads a breakpoint on data. -/
def readDataBreakpoint : Reader (List (String × Json)) :=
  readRecord [.required "dataId" readString, .optional "accessType" (readName ["read", "write", "readWrite"]),
    .optional "condition" readString, .optional "hitCondition" readString]

/-- Reads a breakpoint on an instruction. -/
def readInstructionBreakpoint : Reader (List (String × Json)) :=
  readRecord [.required "instructionReference" readString, .optional "offset" readInt64,
    .optional "condition" readString, .optional "hitCondition" readString]

/-- Reads an option of an exception filter. -/
def readFilterOption : Reader (List (String × Json)) :=
  readRecord [.required "filterId" readString, .optional "condition" readString]

/-- Reads a part of the path of an exception. -/
def readExceptionPath : Reader (List (String × Json)) :=
  readRecord [.optional "negate" readBool, .required "names" (readList readString)]

/-- Reads when an exception is to stop evaluation. -/
def readExceptionOption : Reader (List (String × Json)) :=
  readRecord [.optional "path" (readList readExceptionPath),
    .required "breakMode" (readName ["never", "always", "unhandled", "userUnhandled"])]

/-- The line of a breakpoint on a line. -/
def readLine : Reader Int := fun v => do
  readField (← readLineBreakpoint v) "line" readInt64

/-- The name in a breakpoint on a function. -/
def readFunctionName : Reader String := fun v => do
  readField (← readFunctionBreakpoint v) "name" readString

/-! ### Arguments that are no records -/

/-- Reads an object with any members. Those that are listed are checked, and the others are its data. -/
def readData (fields : List Field) : Reader Json
  | .obj ms => do
    let _ ← readRecord fields (.obj ms)
    return .obj (ms.filter fun m => fields.all (·.name ≠ m.1))
  | v => .error (.type v "a map")

/-- Reads the data of a launch. -/
def readLaunchData : Reader Json := readData [.optional "noDebug" readBool, .optional "__restart" readAny]

/-- Reads the data for joining what runs already. -/
def readAttachData : Reader Json := readData [.optional "__restart" readAny]

/-- Reads arguments that have to be there. -/
def readArguments (read : Reader α) : Option Json → Except Mismatch α
  | some v => read v
  | none => .error (.missing "arguments")

/-- Checks that a command without arguments has none. -/
def noArguments : Option Json → Except Mismatch Unit
  | none | some .null => .ok ()
  | some v => .error (.type v "no arguments")

/-! ### Arguments that are records -/

/-- The fields that the first request of a client may have. -/
def clientFields : List Field :=
  [.optional "clientID" readString, .optional "clientName" readString, .required "adapterID" readString,
   .optional "locale" readString, .optional "linesStartAt1" readBool, .optional "columnsStartAt1" readBool,
   .optional "pathFormat" (readOpenName ["path", "uri"])] ++
  ["supportsVariableType", "supportsVariablePaging", "supportsRunInTerminalRequest", "supportsMemoryReferences",
   "supportsProgressReporting", "supportsInvalidatedEvent", "supportsMemoryEvent",
   "supportsArgsCanBeInterpretedByShell", "supportsStartDebuggingRequest"].map (Field.optional · readBool)

/-- The fields for the choice of a thread that is to go on. -/
def threadFields : List Field := [.required "threadId" readInt64, .optional "singleThread" readBool]

/-- The fields of the arguments of a command, if they are a record. -/
def record? : String → Option (List Field)
  | "initialize" => some clientFields
  | "setBreakpoints" => some
    [.required "source" Source.read, .optional "breakpoints" (readList readLineBreakpoint),
     .optional "lines" (readList readInt64), .optional "sourceModified" readBool]
  | "setFunctionBreakpoints" => some [.required "breakpoints" (readList readFunctionBreakpoint)]
  | "setExceptionBreakpoints" => some
    [.required "filters" (readList readString), .optional "filterOptions" (readList readFilterOption),
     .optional "exceptionOptions" (readList readExceptionOption)]
  | "setDataBreakpoints" => some [.required "breakpoints" (readList readDataBreakpoint)]
  | "setInstructionBreakpoints" => some [.required "breakpoints" (readList readInstructionBreakpoint)]
  | "breakpointLocations" => some
    [.required "source" Source.read, .required "line" readInt64, .optional "column" readInt64,
     .optional "endLine" readInt64, .optional "endColumn" readInt64]
  | "dataBreakpointInfo" => some
    [.optional "variablesReference" readInt64, .required "name" readString, .optional "frameId" readInt64]
  | "stackTrace" => some
    [.required "threadId" readInt64, .optional "startFrame" readInt64, .optional "levels" readInt64,
     .optional "format" readFrameFormat]
  | "scopes" => some [.required "frameId" readInt64]
  | "variables" => some
    [.required "variablesReference" readInt64, .optional "filter" (readName ["indexed", "named"]),
     .optional "start" readInt64, .optional "count" readInt64, .optional "format" readValueFormat]
  | "setVariable" => some
    [.required "variablesReference" readInt64, .required "name" readString, .required "value" readString,
     .optional "format" readValueFormat]
  | "evaluate" => some
    [.required "expression" readString, .optional "frameId" readInt64,
     .optional "context" (readOpenName ["variables", "watch", "repl", "hover", "clipboard"]),
     .optional "format" readValueFormat]
  | "setExpression" => some
    [.required "expression" readString, .required "value" readString, .optional "frameId" readInt64,
     .optional "format" readValueFormat]
  | "completions" => some
    [.optional "frameId" readInt64, .required "text" readString, .required "column" readInt64,
     .optional "line" readInt64]
  | "continue" | "reverseContinue" => some threadFields
  | "next" | "stepOut" | "stepBack" => some (threadFields ++ [.optional "granularity" readGranularity])
  | "stepIn" => some
    (threadFields ++ [.optional "targetId" readInt64, .optional "granularity" readGranularity])
  | "stepInTargets" | "restartFrame" => some [.required "frameId" readInt64]
  | "goto" => some [.required "threadId" readInt64, .required "targetId" readInt64]
  | "gotoTargets" => some
    [.required "source" Source.read, .required "line" readInt64, .optional "column" readInt64]
  | "pause" | "exceptionInfo" => some [.required "threadId" readInt64]
  | "source" => some [.optional "source" Source.read, .required "sourceReference" readInt64]
  | "modules" => some [.optional "startModule" readInt64, .optional "moduleCount" readInt64]
  | "readMemory" => some
    [.required "memoryReference" readString, .optional "offset" readInt64, .required "count" readInt64]
  | "writeMemory" => some
    [.required "memoryReference" readString, .optional "offset" readInt64, .optional "allowPartial" readBool,
     .required "data" readString]
  | "disassemble" => some
    [.required "memoryReference" readString, .optional "offset" readInt64, .optional "instructionOffset" readInt64,
     .required "instructionCount" readInt64, .optional "resolveSymbols" readBool]
  | "disconnect" => some
    [.optional "restart" readBool, .optional "terminateDebuggee" readBool, .optional "suspendDebuggee" readBool]
  | "terminate" => some [.optional "restart" readBool]
  | "terminateThreads" => some [.optional "threadIds" (readList readInt64)]
  | "restart" => some [.optional "arguments" readLaunchData]
  | "cancel" => some [.optional "requestId" readInt64, .optional "progressId" readString]
  | _ => none

end Debugger.Request
