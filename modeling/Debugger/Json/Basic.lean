import Debugger.Decimal.Layout

/-!
# JSON values

A JSON value as it is read: an object keeps its members in the order of the text, repeated names included, and a number
is an integer of at most 64 bits or a binary floating-point number. `render` writes a value without spaces.
-/

namespace Debugger

/-- A JSON value. Floating-point numbers are given by their 64 bits. -/
inductive Json where
  | null
  | bool (b : Bool)
  | int (n : Int)
  | float (bits : UInt64)
  | str (s : String)
  | arr (items : List Json)
  | obj (members : List (String × Json))
deriving Repr, BEq

namespace Json

/-- A list of texts as an array. -/
def strings (xs : List String) : Json := .arr (xs.map .str)

/-- A value that may be missing, with `null` for the missing one. -/
def orNull (f : α → Json) : Option α → Json
  | none => .null
  | some a => f a

/-- A member that is left out if its value is missing. -/
def optional (name : String) (f : α → Json) : Option α → List (String × Json)
  | none => []
  | some a => [(name, f a)]

/-- Numbers are written with the fewest digits that identify them, positionally from `1e-5` to below `1e+16`. Of two
equally near decimals the one with an even last digit is taken. -/
def numberLayout : Decimal.Layout := ⟨-4, 16, true, .even⟩

/-- A character of a string as it is written between quotes. -/
def renderChar (c : Char) : List Char :=
  if c = '"' || c = '\\' then ['\\', c]
  else if c < ' ' then
    ['\\', 'u', '0', '0', Nat.digitChar (c.toNat / 16), Nat.digitChar (c.toNat % 16)]
  else [c]

/-- A string between quotes. -/
def renderString (s : String) : List Char := '"' :: s.toList.flatMap renderChar ++ ['"']

mutual

/-- The text of a value, without spaces. -/
def renderChars : Json → List Char
  | .null => ['n', 'u', 'l', 'l']
  | .bool true => ['t', 'r', 'u', 'e']
  | .bool false => ['f', 'a', 'l', 's', 'e']
  | .int n => (toString n).toList
  | .float bits => numberLayout.render bits
  | .str s => renderString s
  | .arr items => '[' :: renderItems items ++ [']']
  | .obj members => '\x7b' :: renderMembers members ++ ['\x7d']

/-- The items of an array, with commas between them. -/
def renderItems : List Json → List Char
  | [] => []
  | [v] => renderChars v
  | v :: vs => renderChars v ++ ',' :: renderItems vs

/-- The members of an object, with commas between them. -/
def renderMembers : List (String × Json) → List Char
  | [] => []
  | [(k, v)] => renderString k ++ ':' :: renderChars v
  | (k, v) :: ms => renderString k ++ ':' :: renderChars v ++ ',' :: renderMembers ms

end

/-- The text of a value, without spaces. -/
def render (v : Json) : String := String.ofList v.renderChars

end Json

end Debugger
