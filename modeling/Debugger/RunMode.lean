/-!
# Run modes

The run mode decides which future evaluation points complete a step. The depth of a point is the number of nodes that
are being evaluated there.
-/

namespace Debugger

/-- The stepping strategy in force, with the depth of the pause that a step was issued from. -/
inductive RunMode where
  /-- Run until a breakpoint. -/
  | run
  /-- Pause at every node. -/
  | stepIn
  /-- Pause at the next node at this depth or less. -/
  | next (depth : Nat)
  /-- Pause at the next node at less than this depth. -/
  | stepOut (depth : Nat)
deriving DecidableEq, Repr, Inhabited

namespace RunMode

/-- Whether a node that is entered at `depth` completes a step. -/
def pausesAt (depth : Nat) : RunMode → Bool
  | run => false
  | stepIn => true
  | next d => depth ≤ d
  | stepOut d => depth < d

/-- The text of a mode. -/
def render : RunMode → String
  | run => "run"
  | stepIn => "step-in"
  | next d => "next (depth " ++ toString d ++ ")"
  | stepOut d => "step-out (depth " ++ toString d ++ ")"

end RunMode

/-- The commands that let a paused evaluation go on. -/
inductive Resume where
  | continue
  | next
  | stepIn
  | stepOut
deriving DecidableEq, Repr, Inhabited

/-- The run mode that a command sets when it is given at a pause at `depth`. -/
def Resume.mode (depth : Nat) : Resume → RunMode
  | .continue => .run
  | .next => .next depth
  | .stepIn => .stepIn
  | .stepOut => .stepOut depth

end Debugger
