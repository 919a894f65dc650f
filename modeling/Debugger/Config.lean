import Debugger.Json.Decode
import Debugger.Node

/-!
# Configuration

`Config` holds the settings of a debug session. Each has a default, so an empty object is a valid configuration.
`Setup` adds the choices that the host makes in code.
-/

namespace Debugger

/-- The settings of a debug session. -/
structure Config where
  /-- How often a waiting evaluation looks whether the session has ended, in milliseconds. -/
  pollIntervalMs : Nat := 250
  /-- How long the end of the process waits for the client to disconnect, in milliseconds. -/
  exitGracePeriodMs : Nat := 5000
  /-- The function that always has a breakpoint. -/
  sentinelFunction : String := "debug::break"
  /-- The kinds of nodes that are too coarse to carry a line breakpoint. -/
  excludedNodeKinds : List String := ["BlockExpression", "HostClassDefinition"]
  /-- The number by which the client knows the evaluation. -/
  threadId : Int := 1
deriving DecidableEq, Repr, Inhabited

namespace Config

/-- The poll interval in force. It is never zero. -/
def pollInterval (c : Config) : Nat := max 1 c.pollIntervalMs

/-- The names of the settings, in order. -/
def fieldNames : List String :=
  ["pollIntervalMs", "exitGracePeriodMs", "sentinelFunction", "excludedNodeKinds", "threadId"]

/-- Changes the setting of the given name. Other names are ignored. -/
def set (c : Config) (name : String) (v : Json) : Except Mismatch Config :=
  match name with
  | "pollIntervalMs" => return { c with pollIntervalMs := ← v.readNat64 }
  | "exitGracePeriodMs" => return { c with exitGracePeriodMs := ← v.readNat64 }
  | "sentinelFunction" => return { c with sentinelFunction := ← v.readString }
  | "excludedNodeKinds" => return { c with excludedNodeKinds := ← v.readList Json.readString }
  | "threadId" => return { c with threadId := ← v.readInt64 }
  | _ => .ok c

/-- Reads a configuration: an object, whose members are taken by name, or an array of settings in order, of which the
last ones may be left out. -/
def read : Reader Config
  | .obj ms => (Json.sortMembers ms).foldlM (fun c m => c.set m.1 m.2) {}
  | .arr items => do
    let c ← (fieldNames.zip items).foldlM (fun c m => c.set m.1 m.2) {}
    if items.length ≤ fieldNames.length then return c
    else throw (.length items.length "fewer elements in array")
  | v => .error (.type v "struct DebugConfig")

end Config

/-- How a session is set up: what no operation of the session changes. -/
structure Setup where
  config : Config := {}
  /-- Which nodes may carry a line breakpoint. -/
  carriesBreakpoint : Node → Bool := fun node => !config.excludedNodeKinds.contains node.kind
  /-- Whether the client is told that the session is over. -/
  announcesEnd : Bool := true

end Debugger
