/-!
# Flags of a session

Seven named conditions that the client and the evaluation set and read.
-/

namespace Debugger

/-- The name of a condition. -/
inductive Flag where
  | startRequested
  | started
  | paused
  | clientConfigured
  | sessionReady
  | terminate
  | suppressLogs
deriving DecidableEq, Repr, Inhabited

/-- All flags, in order. -/
def Flag.all : List Flag :=
  [startRequested, started, paused, clientConfigured, sessionReady, terminate, suppressLogs]

/-- Which conditions hold. -/
structure Flags where
  startRequested : Bool := false
  started : Bool := false
  paused : Bool := false
  clientConfigured : Bool := false
  sessionReady : Bool := false
  terminate : Bool := false
  suppressLogs : Bool := false
deriving DecidableEq, Repr, Inhabited

namespace Flags

/-- Whether a condition holds. -/
def get (flags : Flags) : Flag → Bool
  | .startRequested => flags.startRequested
  | .started => flags.started
  | .paused => flags.paused
  | .clientConfigured => flags.clientConfigured
  | .sessionReady => flags.sessionReady
  | .terminate => flags.terminate
  | .suppressLogs => flags.suppressLogs

/-- Makes a condition hold or not. -/
def set (flags : Flags) (value : Bool) : Flag → Flags
  | .startRequested => { flags with startRequested := value }
  | .started => { flags with started := value }
  | .paused => { flags with paused := value }
  | .clientConfigured => { flags with clientConfigured := value }
  | .sessionReady => { flags with sessionReady := value }
  | .terminate => { flags with terminate := value }
  | .suppressLogs => { flags with suppressLogs := value }

end Flags

end Debugger
