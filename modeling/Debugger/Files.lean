import Debugger.Path
import Debugger.Text.Utf8

/-!
# Files

The file system as data: directories and files by their place below the root, and a working directory. A path is
followed segment by segment, and every segment but the last has to be a directory.
-/

namespace Debugger

/-- What stands at a place of the file system. -/
inductive Entry where
  | directory
  | file (bytes : List UInt8)
deriving DecidableEq, Repr

/-- Why a file that exists cannot be read as text. -/
inductive ReadError where
  | isDirectory
  | notText
deriving DecidableEq, Repr

/-- The message for a file that cannot be read. -/
def ReadError.message : ReadError → String
  | isDirectory => "Is a directory (os error 21)"
  | notText => "stream did not contain valid UTF-8"

/-- A file system with a working directory. Places are given by their segments below the root. -/
structure Files where
  cwd : String := "/"
  entries : List (List Path.Segment × Entry) := []
deriving DecidableEq, Repr

namespace Files

/-- What stands at a place. The root is a directory. -/
def entry? (files : Files) (place : List Path.Segment) : Option Entry :=
  if place = [] then some .directory else files.entries.lookup place

/-- Puts an entry at a place, instead of what stood there. -/
def put (files : Files) (place : List Path.Segment) (e : Entry) : Files :=
  { files with entries := (place, e) :: files.entries.filter (·.1 ≠ place) }

/-- Makes the missing ones of the directories on the way to a place, which is given in two parts. -/
def makeDirectories (files : Files) (above : List Path.Segment) : List Path.Segment → Files
  | [] => files
  | segment :: below =>
    let place := above ++ [segment]
    let files := if (files.entry? place).isSome then files else files.put place .directory
    files.makeDirectories place below

/-- The place that a path names by its text. -/
def placeOf (files : Files) (path : String) : List Path.Segment := Path.resolve (Path.absolute files.cwd path)

/-- Makes a directory. -/
def makeDirectory (files : Files) (path : String) : Files := files.makeDirectories [] (files.placeOf path)

/-- Writes a file. -/
def write (files : Files) (path : String) (bytes : List UInt8) : Files :=
  let place := files.placeOf path
  (files.makeDirectories [] place.dropLast).put place (.file bytes)

/-- Deletes a file. -/
def remove (files : Files) (path : String) : Files :=
  let place := files.placeOf path
  { files with entries := files.entries.filter (·.1 ≠ place) }

/-- A file system with nothing in it but the working directory. -/
def inDirectory (cwd : String) : Files := Files.makeDirectory { cwd } cwd

/-- The most bytes that a name may have. -/
def nameLimit : Nat := 255

/-- The number of bytes from which on a path is too long. -/
def pathLimit : Nat := 4096

/-- Follows segments from a place. Only a directory can be followed further. -/
def walk (files : Files) (place : List Path.Segment) : List Path.Segment → Option (List Path.Segment)
  | [] => some place
  | segment :: rest =>
    if files.entry? place ≠ some .directory then none
    else if segment = [] || segment = Path.here then files.walk place rest
    else if segment = Path.up then files.walk place.dropLast rest
    else if nameLimit < (String.ofList segment).utf8ByteSize then none
    else if (files.entry? (place ++ [segment])).isSome then files.walk (place ++ [segment]) rest
    else none

/-- What a path leads to. -/
def find? (files : Files) (path : String) : Option Entry := do
  if path = "" || path.toList.contains '\x00' || pathLimit ≤ path.utf8ByteSize then none
  else
    let start := if Path.isAbsolute path then [] else Path.resolve (Path.segments files.cwd)
    files.entry? (← files.walk start (Path.segments path))

/-- Whether a path leads to a file. -/
def isFile (files : Files) (path : String) : Bool :=
  match files.find? path with
  | some (.file _) => true
  | _ => false

/-- The text of what a path leads to, if there is anything. -/
def read? (files : Files) (path : String) : Option (Except ReadError String) :=
  (files.find? path).map fun
    | .directory => .error .isDirectory
    | .file bytes => match Text.decode? bytes with
      | some text => .ok text
      | none => .error .notText

end Files

end Debugger
