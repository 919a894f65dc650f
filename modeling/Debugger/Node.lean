import Debugger.LineIndex
import Debugger.Value

/-!
# What the interpreter shows of an evaluation

Nodes of the program with their place in a source file, scopes with their variables, stack frames, and the exceptions
that the program raises.
-/

namespace Debugger

/-- A place in a source file: the line of its first byte, counted from one, and the bytes it spans. -/
structure Location where
  file : String
  line : Nat
  offset : Nat
  length : Nat
deriving DecidableEq, Repr

/-- A frame of the call stack of the program. -/
structure Frame where
  name : String
  file : Option String
  line : Nat
deriving DecidableEq, Repr

/-- A node of the program that is evaluated, identified by a number. -/
structure Node where
  id : Nat
  kind : String
  /-- The function that is called, if the node is a call of a named function. -/
  function : Option String := none
  location : Option Location := none
  /-- The lines of the source that the node stands in. -/
  index : LineIndex := {}
deriving DecidableEq, Repr, Inhabited

/-- The last line that a node at a place spans, found from the offset where it ends. -/
def Node.endLine (node : Node) (place : Location) : Nat := node.index.lineAt (place.offset + place.length)

/-- The variables that are visible where a node is evaluated, and the active frames, innermost first. -/
structure Scope where
  locals : List (String × Value) := []
  globals : List (String × Value) := []
  stack : List Frame := []
deriving Repr, BEq, Inhabited

/-- The visible variables, the local ones before the global ones. -/
def Scope.variables (scope : Scope) : List (String × Value) := scope.locals ++ scope.globals

/-- An error raised by the program, with the frames active where it was raised, innermost first. -/
structure Exception where
  message : String
  location : Option Location := none
  stack : List Frame := []
deriving DecidableEq, Repr

end Debugger
