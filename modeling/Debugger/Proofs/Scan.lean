import Debugger.Proofs.Run
import Mathlib.Data.List.Infix

/-!
# Stepping as a plain scan

A script is a list of announcements, and each has a nesting level: the number of nodes that are being evaluated there.
`scan` reads off a script and the moves of a client where evaluation stops, without a session: the first stop is the
first exception or node with a breakpoint, and after a stop at a level the next one is the first later exception, node
with a breakpoint in force, or node whose level completes the step. `Engine.halts` is what it is compared with: the
stops that are announced along a run.
-/

namespace Debugger

/-! ### Scripts -/

/-- Whether a node is entered. -/
def Hook.enters : Hook → Bool
  | .enter _ _ => true
  | _ => false

/-- Whether a node is left. -/
def Hook.leaves : Hook → Bool
  | .leave => true
  | _ => false

/-- The node that is entered. -/
def Hook.node? : Hook → Option Node
  | .enter node _ => some node
  | _ => none

/-- The number of nodes that are entered and not left. -/
def nesting (script : List Hook) : Nat := script.countP Hook.enters - script.countP Hook.leaves

/-- Up to no point are more nodes left than entered. -/
def WellBracketed (script : List Hook) : Prop :=
  ∀ part ∈ script.inits, part.countP Hook.leaves ≤ part.countP Hook.enters

instance (script : List Hook) : Decidable (WellBracketed script) :=
  inferInstanceAs (Decidable (∀ part ∈ script.inits, part.countP Hook.leaves ≤ part.countP Hook.enters))

/-- An announcement with its nesting level. A node that is entered counts itself. -/
structure Point where
  hook : Hook
  level : Nat

/-- The announcements of a script that come after others, with their levels. -/
def points (before : List Hook) : List Hook → List Point
  | [] => []
  | hook :: script => ⟨hook, nesting (before ++ [hook])⟩ :: points (before ++ [hook]) script

/-! ### The scan -/

/-- A stop as the client finds it: its reason, and the node and the depth that are saved. -/
structure Halt where
  reason : StopReason
  node : Option Node
  depth : Option Nat
deriving DecidableEq, Repr

/-- Whether a node calls a function that has a breakpoint. -/
def Registry.hitsFunction (r : Registry) (node : Node) : Bool := node.function.any r.hasFunction

/-- Whether a node that may carry a breakpoint spans a line that has one. -/
def Registry.hitsLine (r : Registry) (setup : Setup) (node : Node) : Bool :=
  node.location.any fun place =>
    place.length ≠ 0 && setup.carriesBreakpoint node &&
      (r.linesOf place.file).any fun line => place.line ≤ line && line ≤ node.endLine place

/-- Why there is a stop at a point, given the breakpoints in force and the levels that complete a step. -/
def Point.reason? (setup : Setup) (r : Registry) (completes : Nat → Bool) (p : Point) : Option StopReason :=
  match p.hook with
  | .exception _ => some .exception
  | .enter node _ =>
    if r.hitsFunction node then some .function
    else if r.hitsLine setup node then some .breakpoint
    else if completes p.level then some .step
    else none
  | .leave | .log _ _ => none

/-- The stop at a point. -/
def Point.halt (reason : StopReason) (p : Point) : Halt := ⟨reason, p.hook.node?, some p.level⟩

/-- The first point where there is a reason to stop, and the points after it. -/
def firstStop (why : Point → Option StopReason) : List Point → Option (StopReason × Point × List Point)
  | [] => none
  | p :: ps =>
    match why p with
    | some reason => some (reason, p, ps)
    | none => firstStop why ps

/-- A change of the breakpoints. -/
inductive Placement where
  | lines (file : String) (lines : List Nat)
  | functions (names : List String)

/-- The breakpoints after a change. -/
def Placement.place (files : Files) (r : Registry) : Placement → Registry
  | .lines file ls => (r.setLines files file ls).1
  | .functions names => (r.setFunctions names).1

/-- The levels of nodes that complete a step which a command begins at a level. -/
def Resume.completes (level : Nat) : Resume → Nat → Bool
  | .continue, _ => false
  | .next, n => n ≤ level
  | .stepIn, _ => true
  | .stepOut, n => n < level

/-- What a client does at a stop: it changes breakpoints, and then it resumes evaluation. -/
structure Move where
  placements : List Placement := []
  command : Resume

/-- The stops of a script, with one move of the client at each. Without a move evaluation stays where it is. -/
def scan (setup : Setup) (files : Files) (r : Registry) (completes : Nat → Bool) (ps : List Point)
    (moves : List Move) : List Halt :=
  match firstStop (Point.reason? setup r completes) ps with
  | none => []
  | some (reason, p, rest) =>
    p.halt reason ::
      match moves with
      | [] => []
      | move :: moves =>
        scan setup files (move.placements.foldl (Placement.place files) r) (move.command.completes p.level) rest moves

/-! ### The stops of a run -/

/-- The operation that changes the breakpoints. -/
def Placement.operation : Placement → Operation
  | .lines file ls => .setLines file ls
  | .functions names => .setFunctions names

/-- The operations of a move. -/
def Move.operations (move : Move) : List Operation :=
  move.placements.map Placement.operation ++ [.resume move.command]

/-- A stop that was announced, with what the session has saved for it. -/
def Halt.of (s : Session) (what : Stop) : Halt := ⟨what.reason, s.saved.bind (·.node), s.saved.map (·.depth)⟩

namespace Engine

/-- The stops that are announced along a run, each with what is saved at the end of its step. -/
def halts (setup : Setup) : Engine → List Operation → List Halt
  | _, [] => []
  | e, op :: ops =>
    let next := (e.step setup op).1
    (next.session.stops.drop e.session.stops.length).map (.of next.session) ++ next.halts setup ops

end Engine

end Debugger
