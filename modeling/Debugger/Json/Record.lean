import Debugger.Json.Decode

/-!
# Records with checked fields

The fields of a record are all checked when it is read, also those that nobody asks for afterwards. A `Field` says what
is expected, and `readRecord` checks a value against a list of them.
-/

namespace Debugger.Json

/-- A field of a record: whether it has to be there, and what its value has to be. A field that need not be there may
also be `null`. -/
structure Field where
  name : String
  isRequired : Bool
  check : Reader Unit

namespace Field

/-- A field that has to be there. -/
def required (name : String) (read : Reader α) : Field := ⟨name, true, fun v => (read v).map fun _ => ()⟩

/-- A field that need not be there. -/
def optional (name : String) (read : Reader α) : Field := ⟨name, false, fun v => (read v).map fun _ => ()⟩

/-- Checks the value of a field among the members of a record. -/
def checkIn (f : Field) (members : List (String × Json)) : Except Mismatch Unit :=
  if f.isRequired then readField members f.name f.check
  else (readFieldOption members f.name f.check).map fun _ => ()

end Field

/-- Reads a record: its members, with all fields checked. -/
def readRecord (fields : List Field) : Reader (List (String × Json)) := fun v => do
  let members ← v.readFields (fields.map (·.name))
  for f in fields do
    f.checkIn members
  return members

end Debugger.Json
