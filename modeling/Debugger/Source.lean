import Debugger.Json.Decode
import Debugger.Path

/-!
# Sources in messages

A `Source` names a source file in a message. One that the client sends is echoed, with what is missing left out.
-/

namespace Debugger

/-- A source file as messages describe it. -/
inductive Source where
  | mk (name path : Option String) (reference : Option Int) (hint origin : Option String)
    (sources : Option (List Source)) (adapterData : Option Json) (checksums : Option (List (String × String)))

namespace Source

/-- The path of a source. -/
def path : Source → Option String
  | mk _ path _ _ _ _ _ _ => path

/-- The source for a file. -/
def ofPath (path : String) : Source := mk (Path.fileName? path) (some path) none none none none none none

/-- The names of the parts of a source, in order. -/
def fieldNames : List String :=
  ["name", "path", "source_reference", "presentation_hint", "origin", "sources", "adapter_data", "checksums"]

/-- The hints on how a source is to be shown. -/
def hints : List String := ["normal", "emphasize", "deEmphasize"]

/-- The names of the ways to compute a checksum. -/
def algorithms : List String := ["MD5", "SHA1", "SHA256", "timestamp"]

/-- Reads a checksum with the way it was computed. -/
def readChecksum : Reader (String × String) := fun v => do
  let fields ← v.readFields ["algorithm", "checksum"]
  return (← Json.readField fields "algorithm" (Json.readName algorithms),
    ← Json.readField fields "checksum" Json.readString)

/-- Reads a source whose sources are nested less than `depth` deep. -/
def readNested : Nat → Reader Source
  | 0 => fun v => .error (.type v "a source")
  | depth + 1 => fun v => do
    let fields ← v.readFields fieldNames
    let name ← Json.readFieldOption fields "name" Json.readString
    let path ← Json.readFieldOption fields "path" Json.readString
    let reference ← Json.readFieldOption fields "source_reference" Json.readInt32
    let hint ← Json.readFieldOption fields "presentation_hint" (Json.readName hints)
    let origin ← Json.readFieldOption fields "origin" Json.readString
    let sources ← Json.readFieldOption fields "sources" (Json.readList (readNested depth))
    let adapterData ← Json.readFieldOption fields "adapter_data" Json.readAny
    let checksums ← Json.readFieldOption fields "checksums" (Json.readList readChecksum)
    return mk name path reference hint origin sources adapterData checksums

/-- The depth to which sources can be nested in a message. -/
def nestingLimit : Nat := 128

/-- Reads a source. -/
def read : Reader Source := readNested nestingLimit

mutual

/-- A source as a JSON value. -/
def toJson : Source → Json
  | mk name path reference hint origin sources adapterData checksums =>
    .obj <|
      Json.optional "name" .str name ++ Json.optional "path" .str path ++
      Json.optional "source_reference" .int reference ++ Json.optional "presentation_hint" .str hint ++
      Json.optional "origin" .str origin ++
      (match sources with
        | none => []
        | some ss => [("sources", .arr (toJsons ss))]) ++
      Json.optional "adapter_data" Json.unique adapterData ++
      Json.optional "checksums"
        (fun cs => .arr (cs.map fun c => .obj [("algorithm", .str c.1), ("checksum", .str c.2)])) checksums

/-- Sources as JSON values. -/
def toJsons : List Source → List Json
  | [] => []
  | s :: ss => s.toJson :: toJsons ss

end

end Source

end Debugger
