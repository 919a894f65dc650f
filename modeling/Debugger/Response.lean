import Debugger.Event
import Debugger.Request

/-!
# Messages to the client

Responses and events, and their JSON forms. A transcript is what has been written to the client; each message in it has
the next number.
-/

namespace Debugger

/-- A stack frame as it is shown. -/
structure FrameView where
  id : Int
  name : String
  line : Int
  source : Option Source

/-- A group of variables as it is shown. -/
structure ScopeView where
  name : String
  reference : Int
deriving DecidableEq, Repr

/-- A variable as it is shown. The reference is zero if there is nothing inside it to ask for. -/
structure VariableView where
  name : String
  value : String
  type : String
  reference : Int
deriving DecidableEq, Repr

/-- A breakpoint as it is shown. -/
structure BreakpointView where
  verified : Bool
  message : Option String := none
  source : Option Source := none
  line : Option Int := none

/-- What a successful response carries. -/
inductive Body where
  | empty
  | capabilities
  | breakpoints (bs : List BreakpointView)
  | exceptionBreakpoints
  | threads (id : Int)
  | stackTrace (frames : List FrameView)
  | scopes (groups : List ScopeView)
  | expansion (vs : List VariableView)
  | value (text type : String) (reference : Int)
  | continued

/-- The answer to a request: the name of the command and a body, or a message. -/
structure Response where
  requestSeq : Int
  result : Except String (String × Body)

/-! ### JSON forms of responses -/

/-- What the adapter can do. -/
def capabilities : List (String × Bool) :=
  [("supportsConfigurationDoneRequest", true), ("supportsFunctionBreakpoints", true),
   ("supportsEvaluateForHovers", true), ("supportsExceptionOptions", false),
   ("supportsExceptionFilterOptions", false)]

/-- A stack frame as a JSON value. -/
def FrameView.toJson (f : FrameView) : Json :=
  .obj ([("id", .int f.id), ("name", .str f.name)] ++ Json.optional "source" Source.toJson f.source ++
    [("line", .int f.line), ("column", .int 1)])

/-- A group of variables as a JSON value. -/
def ScopeView.toJson (s : ScopeView) : Json :=
  .obj [("name", .str s.name), ("variablesReference", .int s.reference), ("expensive", .bool false)]

/-- A variable as a JSON value. -/
def VariableView.toJson (v : VariableView) : Json :=
  .obj [("name", .str v.name), ("value", .str v.value), ("type", .str v.type), ("evaluateName", .str v.name),
    ("variablesReference", .int v.reference)]

/-- A breakpoint as a JSON value. -/
def BreakpointView.toJson (b : BreakpointView) : Json :=
  .obj ([("verified", .bool b.verified)] ++ Json.optional "message" .str b.message ++
    Json.optional "source" Source.toJson b.source ++ Json.optional "line" .int b.line)

/-- A body as a JSON value, if there is anything in it. -/
def Body.toJson? : Body → Option Json
  | empty => none
  | capabilities => some (.obj (Debugger.capabilities.map fun c => (c.1, .bool c.2)))
  | breakpoints bs => some (.obj [("breakpoints", .arr (bs.map BreakpointView.toJson))])
  | exceptionBreakpoints => some (.obj [])
  | threads id => some (.obj [("threads", .arr [.obj [("id", .int id), ("name", .str "main")]])])
  | stackTrace frames =>
    some (.obj [("stackFrames", .arr (frames.map FrameView.toJson)), ("totalFrames", .int frames.length)])
  | scopes groups => some (.obj [("scopes", .arr (groups.map ScopeView.toJson))])
  | expansion vs => some (.obj [("variables", .arr (vs.map VariableView.toJson))])
  | value text type reference =>
    some (.obj [("result", .str text), ("type", .str type), ("variablesReference", .int reference)])
  | continued => some (.obj [("all_threads_continued", .bool true)])

/-- The members of a response. -/
def Response.members (r : Response) : List (String × Json) :=
  match r.result with
  | .ok (command, body) =>
    [("request_seq", .int r.requestSeq), ("success", .bool true), ("command", .str command)] ++
      Json.optional "body" id body.toJson? ++ [("error", .null)]
  | .error message =>
    [("request_seq", .int r.requestSeq), ("success", .bool false), ("message", .str message), ("error", .null)]

/-! ### JSON forms of events -/

/-- The name of a reason in messages. -/
def StopReason.wireName : StopReason → String
  | step => "step"
  | breakpoint => "breakpoint"
  | function => "function"
  | exception => "exception"

/-- The name of a channel in messages. -/
def Channel.wireName : Channel → String
  | console => "console"
  | stdout => "stdout"
  | stderr => "stderr"

/-- The members of an event. -/
def Event.members : Event → List (String × Json)
  | stopped stop threadId =>
    [("event", .str "stopped"), ("body", .obj
      [("reason", .str stop.reason.wireName), ("description", .str stop.description), ("threadId", .int threadId),
       ("preserveFocusHint", .null), ("text", .str stop.text), ("allThreadsStopped", .bool true),
       ("hitBreakpointIds", .null)])]
  | output channel text =>
    [("event", .str "output"), ("body", .obj
      [("category", .str channel.wireName), ("output", .str text), ("group", .null), ("variablesReference", .null),
       ("source", .null), ("line", .null), ("column", .null), ("data", .null)])]
  | exited code => [("event", .str "exited"), ("body", .obj [("exitCode", .int code)])]
  | terminated => [("event", .str "terminated"), ("body", .obj [("restart", .bool false)])]

/-- An event as a JSON value. -/
def Event.toJson (e : Event) : Json := .obj e.members

/-! ### Transcripts -/

/-- A message to the client. -/
inductive Message where
  | response (r : Response)
  /-- The adapter is ready for configuration. -/
  | initialized
  | event (e : Event)

/-- A message as a JSON value, with its number. -/
def Message.toJson (seq : Nat) : Message → Json
  | response r => .obj ([("seq", .int seq), ("type", .str "response")] ++ r.members)
  | initialized => .obj [("seq", .int seq), ("type", .str "event"), ("event", .str "initialized")]
  | event e => .obj ([("seq", .int seq), ("type", .str "event")] ++ e.members)

/-- The JSON values of messages that are numbered from the given number on. -/
def Message.toJsons (first : Nat) (ms : List Message) : List Json := ms.mapIdx fun i m => m.toJson (first + i)

end Debugger
