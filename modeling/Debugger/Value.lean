import Debugger.Decimal.Layout

/-!
# Values of the interpreted program

`Value` is the data that variable inspection shows. `Value.render` is its text: strings between single quotes, arrays
in brackets, hashes in braces with an arrow between key and value.
-/

namespace Debugger

/-- Data of the interpreted program. A float is given by its 64 bits, and a hash keeps its entries in insertion
order. -/
inductive Value where
  | undef
  | boolean (b : Bool)
  | integer (n : Int)
  | float (bits : UInt64)
  | string (s : String)
  | array (items : List Value)
  | hash (entries : List (String × Value))
deriving Repr, BEq, Inhabited

namespace Value

/-- The name of the type of a value. -/
def typeName : Value → String
  | undef => "Undef"
  | boolean _ => "Boolean"
  | integer _ => "Integer"
  | float _ => "Float"
  | string _ => "String"
  | array _ => "Array"
  | hash _ => "Hash"

/-- Whether a value is a container, also an empty one. -/
def hasChildren : Value → Bool
  | array _ | hash _ => true
  | _ => false

/-- The values directly inside a value, each with its name: the key in a hash, the position in brackets in an array. -/
def children : Value → List (String × Value)
  | array items => items.mapIdx fun i v => ("[" ++ toString i ++ "]", v)
  | hash entries => entries
  | _ => []

/-- Floats are written with the fewest digits that identify them, positionally from `1e-4` to below `1e16`. Of two
equally near decimals the greater one is taken. -/
def floatLayout : Decimal.Layout := ⟨-3, 16, false, .greater⟩

/-- A text between single quotes. A single quote inside it is written after a backslash. -/
def quote (s : String) : List Char :=
  '\'' :: s.toList.flatMap (fun c => if c = '\'' then ['\\', '\''] else [c]) ++ ['\'']

mutual

/-- The characters of the text of a value. -/
def renderChars : Value → List Char
  | undef => ['u', 'n', 'd', 'e', 'f']
  | boolean true => ['t', 'r', 'u', 'e']
  | boolean false => ['f', 'a', 'l', 's', 'e']
  | integer n => (toString n).toList
  | float bits => floatLayout.render bits
  | string s => quote s
  | array items => '[' :: renderItems items ++ [']']
  | hash entries => '\x7b' :: renderEntries entries ++ ['\x7d']

/-- The items of an array, with commas between them. -/
def renderItems : List Value → List Char
  | [] => []
  | [v] => renderChars v
  | v :: vs => renderChars v ++ ',' :: ' ' :: renderItems vs

/-- The entries of a hash, with commas between them. -/
def renderEntries : List (String × Value) → List Char
  | [] => []
  | [(k, v)] => quote k ++ ' ' :: '=' :: '>' :: ' ' :: renderChars v
  | (k, v) :: es => quote k ++ ' ' :: '=' :: '>' :: ' ' :: renderChars v ++ ',' :: ' ' :: renderEntries es

end

/-- The text of a value. -/
def render (v : Value) : String := String.ofList v.renderChars

end Value

/-- A number can be read from its decimal digits. -/
theorem eq_of_toString_eq {m n : Nat} (h : toString m = toString n) : m = n := by
  rw [Nat.toString_eq_ofList_toDigits, Nat.toString_eq_ofList_toDigits] at h
  rw [← Nat.ofDigitChars_ten_toDigits (n := m), String.ofList_injective h, Nat.ofDigitChars_ten_toDigits]

end Debugger
