import Debugger.Json.Basic
import Debugger.Text.Escaped

/-!
# Reading typed data from JSON values

Each reader takes a value to data of one type or says how the value differs from what was expected. A record is read
from the members of an object; it may also be given as the array of its fields in order.
-/

namespace Debugger

/-- How a JSON value differs from what was expected. -/
inductive Mismatch where
  /-- A value of another kind. -/
  | type (found : Json) (expected : String)
  /-- An integer out of range. -/
  | value (found : Int) (expected : String)
  /-- A name that is none of those allowed. -/
  | variant (found : String)
  /-- A required member that is not there. -/
  | missing (name : String)
  /-- A member that is there twice. -/
  | duplicate (name : String)
  /-- An array with another number of items. -/
  | length (found : Nat) (expected : String)

namespace Json

/-- A value as a message names it. -/
def describe : Json → String
  | .null => "null"
  | .bool b => "boolean `" ++ (if b then "true" else "false") ++ "`"
  | .int n => "integer `" ++ toString n ++ "`"
  | .float bits => "floating point `" ++ String.ofList (numberLayout.render bits) ++ "`"
  | .str s => "string " ++ Text.escaped s
  | .arr _ => "sequence"
  | .obj _ => "map"

end Json

/-- The message for a mismatch. -/
def Mismatch.message : Mismatch → String
  | .type found expected => "invalid type: " ++ found.describe ++ ", expected " ++ expected
  | .value found expected => "invalid value: " ++ (Json.int found).describe ++ ", expected " ++ expected
  | .variant found => "unknown variant `" ++ found ++ "`"
  | .missing name => "missing field `" ++ name ++ "`"
  | .duplicate name => "duplicate field `" ++ name ++ "`"
  | .length found expected => "invalid length " ++ toString found ++ ", expected " ++ expected

/-- A reader of typed data. -/
abbrev Reader (α : Type) := Json → Except Mismatch α

namespace Json

/-- Reads an integer from `lo` to `hi`. -/
def readInt (lo hi : Int) (expected : String) : Reader Int
  | .int n => if lo ≤ n && n ≤ hi then .ok n else .error (.value n expected)
  | v => .error (.type v expected)

/-- Reads a signed integer of 64 bits. -/
def readInt64 : Reader Int := readInt (-0x8000000000000000) 0x7FFFFFFFFFFFFFFF "i64"

/-- Reads a signed integer of 32 bits. -/
def readInt32 : Reader Int := readInt (-0x80000000) 0x7FFFFFFF "i32"

/-- Reads an unsigned integer of 64 bits. -/
def readNat64 : Reader Nat := fun v => Int.toNat <$> readInt 0 0xFFFFFFFFFFFFFFFF "u64" v

/-- Reads a string. -/
def readString : Reader String
  | .str s => .ok s
  | v => .error (.type v "a string")

/-- Reads a boolean. -/
def readBool : Reader Bool
  | .bool b => .ok b
  | v => .error (.type v "a boolean")

/-- Reads an array of items. -/
def readList (read : Reader α) : Reader (List α)
  | .arr items => items.mapM read
  | v => .error (.type v "a sequence")

/-- Reads a value that may be `null`. -/
def readOption (read : Reader α) : Reader (Option α)
  | .null => .ok none
  | v => some <$> read v

/-- Reads a name: a string, or an object with one member of this name and nothing in it. -/
def readTag : Reader String
  | .str s | .obj [(s, .null)] | .obj [(s, .obj [])] => .ok s
  | v => .error (.type v "a name")

/-- Reads one of the given names. -/
def readName (names : List String) : Reader String := fun v => do
  let s ← readTag v
  if names.contains s then return s else throw (.variant s)

/-- Reads any string. One of the given names may also be the one member of an object, with `null` in it. -/
def readOpenName (names : List String) : Reader String
  | .str s => .ok s
  | .obj [(s, .null)] => if names.contains s then .ok s else .error (.variant s)
  | v => .error (.type v "a name")

/-- Reads anything. -/
def readAny : Reader Json := .ok

/-! ### Members -/

/-- Puts a member into a list that is ordered by name. A member of the same name is replaced. -/
def insertMember (name : String) (v : Json) : List (String × Json) → List (String × Json)
  | [] => [(name, v)]
  | (k, w) :: ms =>
    if name < k then (name, v) :: (k, w) :: ms
    else if name = k then (name, v) :: ms
    else (k, w) :: insertMember name v ms

/-- The members of an object ordered by name, the last one of each name. -/
def sortMembers (ms : List (String × Json)) : List (String × Json) :=
  ms.foldl (fun sorted m => insertMember m.1 m.2 sorted) []

mutual

/-- A value whose objects are ordered by name, with the last member of each name. -/
def unique : Json → Json
  | .arr items => .arr (uniqueItems items)
  | .obj ms => .obj (sortMembers (uniqueMembers ms))
  | v => v

/-- `unique` for the items of an array. -/
def uniqueItems : List Json → List Json
  | [] => []
  | v :: vs => v.unique :: uniqueItems vs

/-- `unique` for the values of members. -/
def uniqueMembers : List (String × Json) → List (String × Json)
  | [] => []
  | (k, v) :: ms => (k, v.unique) :: uniqueMembers ms

end

/-- The members with a name. -/
def named (name : String) (ms : List (String × Json)) : List Json :=
  (ms.filter (·.1 = name)).map (·.2)

/-- The fields of a record: the members of an object, none of them there twice, or the items of an array of the right
length. Other members are kept. -/
def readFields (names : List String) : Reader (List (String × Json))
  | .obj ms =>
    match names.find? fun name => 1 < (named name ms).length with
    | some name => .error (.duplicate name)
    | none => .ok ms
  | .arr items =>
    if items.length = names.length then .ok (names.zip items)
    else .error (.length items.length ("a list of " ++ toString names.length ++ " fields"))
  | v => .error (.type v "a record")

/-- Reads a field that has to be there. -/
def readField (fields : List (String × Json)) (name : String) (read : Reader α) : Except Mismatch α :=
  match fields.lookup name with
  | some v => read v
  | none => .error (.missing name)

/-- Reads a field that may be missing or `null`. -/
def readFieldOption (fields : List (String × Json)) (name : String) (read : Reader α) :
    Except Mismatch (Option α) :=
  match fields.lookup name with
  | some v => readOption read v
  | none => .ok none

end Json

end Debugger
