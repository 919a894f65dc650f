import Debugger.Breakpoint
import Debugger.Config
import Debugger.Event
import Debugger.Flag
import Debugger.RunMode

/-!
# The state of a debug session

A `Session` is what the client and the evaluation share: the flags, the run mode, the depth of the evaluation, the
breakpoints, and the snapshot that is saved while evaluation is paused. The client's operations are here.

* `assert` and `clear` set and reset a flag. When the session is ready and the client is configured, start is requested.
* `resume` lets a paused evaluation go on: it sets the run mode by the depth of the pause, drops the snapshot and leaves
  a token for the evaluation that waits.
* `terminate` ends the session for good, and `disconnect` also releases a process that waits to exit.
* `cacheValue` and `cachedValue` number the values that the client inspects at a pause.
-/

namespace Debugger

/-- What is captured when evaluation pauses. -/
structure Snapshot where
  exception : Option Exception := none
  /-- The frames, the caller first. -/
  stack : List Frame := []
  node : Option Node := none
  scope : Option Scope := none
  depth : Nat := 0
  /-- The values that were handed out for inspection. The first one has number one. -/
  cache : List Value := []
deriving Repr, BEq, Inhabited

/-- Wake-up tokens, of each kind at most one: for a paused evaluation, for one that waits for its start, and for a
process that waits to exit. -/
structure Signals where
  resume : Bool := false
  start : Bool := false
  disconnect : Bool := false
deriving DecidableEq, Repr, Inhabited

/-- Something that happened in a session. -/
inductive Occurrence where
  /-- The client was told something. -/
  | sent (event : Event)
  /-- The evaluation of a node has begun, at a depth. -/
  | visited (node : Node) (depth : Nat)
  /-- The process was ended because the client did not disconnect. -/
  | forcedExit (code : Int)
deriving DecidableEq, Repr

/-- Why an operation of the client is refused. -/
inductive SessionError where
  | notPaused
  | terminated
  | unknownReference (id : Int)
deriving DecidableEq, Repr

/-- The message for an operation that is refused. -/
def SessionError.message : SessionError → String
  | notPaused => "Evaluation is not paused"
  | terminated => "Debug session has been terminated"
  | unknownReference id => "Unknown variable reference: " ++ toString id

/-- Where a session is in its life. -/
inductive Phase where
  | idle
  | ready
  | running
  | paused
  | terminated
deriving DecidableEq, Repr, Inhabited

/-- The name of a phase. -/
def Phase.render : Phase → String
  | idle => "idle"
  | ready => "ready"
  | running => "running"
  | paused => "paused"
  | terminated => "terminated"

/-- The state of a debug session. -/
structure Session where
  flags : Flags := {}
  /-- Set with the terminate flag and never reset: what an evaluation that waits looks at. -/
  ended : Bool := false
  mode : RunMode := .run
  /-- The number of nodes that are being evaluated. -/
  depth : Nat := 0
  /-- The path of the manifest that is evaluated. -/
  unit : Option String := none
  /-- The snapshot of the pause, until evaluation is resumed. -/
  saved : Option Snapshot := none
  breakpoints : Registry
  signals : Signals := {}
  /-- What happened, in order. -/
  journal : List Occurrence := []
deriving Repr

namespace Session

/-- A session that has not begun, in a working directory. -/
def new (setup : Setup) (cwd : String) : Session :=
  { breakpoints := { cwd, sentinel := setup.config.sentinelFunction } }

/-- Adds something to the journal. -/
def record (s : Session) (o : Occurrence) : Session := { s with journal := s.journal ++ [o] }

/-- Tells the client something. -/
def send (s : Session) (e : Event) : Session := s.record (.sent e)

/-- The events that were sent to the client. -/
def events (s : Session) : List Event :=
  s.journal.filterMap fun
    | .sent e => some e
    | _ => none

@[simp]
theorem events_send (s : Session) (e : Event) : (s.send e).events = s.events ++ [e] := by
  simp [send, record, events]

/-! ### Flags and phases -/

/-- Ends the session. A paused evaluation and one that waits for its start are woken. -/
def terminate (s : Session) : Session :=
  { s with
    flags := { s.flags with terminate := true }
    ended := true
    signals := { s.signals with resume := true, start := true } }

/-- The client has gone: ends the session and releases a process that waits to exit. -/
def disconnect (s : Session) : Session :=
  let s := s.terminate
  { s with signals := { s.signals with disconnect := true } }

/-- Requests the start once the session is ready and the client is configured. -/
def checkStart (s : Session) : Session :=
  if s.flags.sessionReady && s.flags.clientConfigured && !s.flags.startRequested then
    { s with flags := { s.flags with startRequested := true }, signals := { s.signals with start := true } }
  else s

/-- Whether a flag is set. -/
def isSet (s : Session) (f : Flag) : Bool := (f = .terminate && s.ended) || s.flags.get f

/-- Sets a flag. -/
def assert (s : Session) (f : Flag) : Session :=
  let asserted := { s with flags := s.flags.set true f }
  match f with
  | .terminate => s.terminate
  | .sessionReady | .clientConfigured => asserted.checkStart
  | _ => asserted

/-- Resets a flag. The terminate flag stays. -/
def clear (s : Session) (f : Flag) : Session :=
  match f with
  | .terminate => s
  | f => { s with flags := s.flags.set false f }

/-- The phase of a session, read off its flags. -/
def phase (s : Session) : Phase :=
  if s.flags.terminate || s.ended then .terminated
  else if s.flags.paused then .paused
  else if s.flags.started then .running
  else if s.flags.startRequested then .ready
  else .idle

@[simp]
theorem isSet_paused (s : Session) : s.isSet .paused = s.flags.paused := by simp [isSet, Flags.get]

@[simp]
theorem isSet_terminate (s : Session) : s.isSet .terminate = (s.ended || s.flags.terminate) := by
  simp [isSet, Flags.get]

theorem phase_eq_terminated_iff {s : Session} : s.phase = .terminated ↔ s.isSet .terminate = true := by
  unfold phase isSet
  split
  · simp_all [Flags.get, or_comm]
  · split <;> (try split) <;> (try split) <;> simp_all [Flags.get]

/-! ### Running and resuming -/

/-- Sets the run mode. -/
def setMode (s : Session) (mode : RunMode) : Session := { s with mode }

/-- Evaluation begins: at depth zero, and without stopping until a breakpoint. -/
def beginEvaluation (s : Session) : Session :=
  { s with depth := 0, mode := .run, flags := { s.flags with started := true } }

/-- The depth of the pause, or of the evaluation if there is no snapshot. -/
def pauseDepth (s : Session) : Nat := s.saved.elim s.depth (·.depth)

/-- Lets a paused evaluation go on. -/
def resume (s : Session) (command : Resume) : Except SessionError Session :=
  if s.flags.terminate then .error .terminated
  else if !s.flags.paused then .error .notPaused
  else .ok { s with
    mode := command.mode s.pauseDepth
    saved := none
    flags := { s.flags with paused := false }
    signals := { s.signals with resume := true } }

/-- Whether there is a snapshot. -/
def hasSaved (s : Session) : Bool := s.saved.isSome

/-! ### Inspecting values -/

/-- Hands out a number for a value, for as long as the pause lasts. -/
def cacheValue (s : Session) (v : Value) : Except SessionError (Int × Session) :=
  match s.saved with
  | none => .error .notPaused
  | some snapshot =>
    .ok (snapshot.cache.length + 1, { s with saved := some { snapshot with cache := snapshot.cache ++ [v] } })

/-- The value that a number was handed out for. -/
def cachedValue (s : Session) (id : Int) : Except SessionError Value :=
  let found := match s.saved, id with
    | some snapshot, .ofNat (n + 1) => snapshot.cache[n]?
    | _, _ => none
  match found with
  | some v => .ok v
  | none => .error (.unknownReference id)

end Session

end Debugger
