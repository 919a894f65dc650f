import Debugger.Adapter
import Debugger.Wire

/-!
# Serving a client

`serve` answers the requests of a client from the first to the last. The first one has to introduce the client. The
session ends with a request to disconnect, with the end of the requests, or with a message that cannot be read.
-/

namespace Debugger

/-- Why a client is not served to its end. -/
inductive ServeError where
  | noRequest
  | notIntroduced
  /-- The events of the session are taken by someone else. -/
  | eventsTaken
  | wire (cause : WireError)
deriving DecidableEq, Repr

/-- The message for a client that is not served to its end. -/
def ServeError.message : ServeError → String
  | noRequest => "Protocol error: Missing initialize request"
  | notIntroduced => "Protocol error: Expected initialize request"
  | eventsTaken => "Protocol error: Debugger messages are already consumed"
  | wire cause => cause.message

/-- What serving a client comes to: the messages to it, the front end as it is left, and the error, if any. -/
structure Served where
  messages : List Message
  adapter : Adapter
  error : Option ServeError

namespace Served

/-- The messages to a client for a request: the response, and then the events that have come up. -/
def messagesOf (answer : Answer) (old new : Adapter) : List Message :=
  let events := (new.session.events.drop old.session.events.length).map Message.event
  match answer with
  | .response r | .shutdown r => .response r :: events
  | .unhandled => events

/-- Puts messages before those that are there. -/
def after (ms : List Message) (s : Served) : Served := { s with messages := ms ++ s.messages }

/-- Answers requests until the client disconnects. -/
def loop (setup : Setup) (interpreter : Interpreter) (a : Adapter) : List (Except WireError Request) → Served
  | [] => ⟨[], a, none⟩
  | .error e :: _ => ⟨[], a, some (.wire e)⟩
  | .ok r :: rest =>
    let (a', answer) := a.handle setup interpreter r
    let ms := messagesOf answer a a'
    if answer matches .shutdown _ then ⟨ms, a', none⟩ else (loop setup interpreter a' rest).after ms

/-- Serves a client. `eventsFree` says whether the events of the session can still be taken. -/
def ofRequests (setup : Setup) (interpreter : Interpreter) (a : Adapter) (eventsFree : Bool) :
    List (Except WireError Request) → Served
  | [] => ⟨[], a, some .noRequest⟩
  | .error e :: _ => ⟨[], a, some (.wire e)⟩
  | .ok r :: rest =>
    if r.command matches .initialization then
      let greeting := [.response ⟨r.seq, .ok (r.command.name, .capabilities)⟩, .initialized]
      if eventsFree then (loop setup interpreter a rest).after greeting
      else ⟨greeting, a, some .eventsTaken⟩
    else ⟨[], a, some .notIntroduced⟩

end Served

/-- Serves the client that sends the given bytes. The front end is given up afterwards. -/
def serve (setup : Setup) (interpreter : Interpreter) (a : Adapter) (eventsFree : Bool) (bytes : List UInt8) :
    Served :=
  let served := Served.ofRequests setup interpreter a eventsFree (Wire.incoming bytes)
  { served with adapter := served.adapter.close setup }

end Debugger
