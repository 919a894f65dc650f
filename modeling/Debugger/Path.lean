import Debugger.Text.Case
import Debugger.Text.Split

/-!
# Paths

A path is a text whose segments stand between slashes. `Path.key` is the name under which a file is looked up: its
absolute path with `.` and `..` resolved in the text alone, in lower case, so that two spellings of one path have one
key.
-/

namespace Debugger.Path

/-- A part of a path between slashes. -/
abbrev Segment := List Char

/-- The segment that stays where it is. -/
def here : Segment := ['.']

/-- The segment that goes one step up. -/
def up : Segment := ['.', '.']

/-- The segments of a path. A slash at an end and two slashes in a row leave an empty segment. -/
def segments (path : String) : List Segment := Text.split '/' path.toList

/-- Whether a path starts at the root. -/
def isAbsolute (path : String) : Bool := path.toList.head? = some '/'

/-- Follows one segment from a directory that is given by the segments below the root, the last one first. -/
def follow (kept : List Segment) (segment : Segment) : List Segment :=
  if segment = [] || segment = here then kept
  else if segment = up then kept.tail
  else segment :: kept

/-- Follows segments from the root. -/
def resolve (path : List Segment) : List Segment := (path.foldl follow []).reverse

private theorem mem_foldl_follow {segment : Segment} {path kept : List Segment} (h : segment ∈ path.foldl follow kept) :
    segment ∈ kept ∨ segment ≠ [] ∧ segment ≠ here ∧ segment ≠ up := by
  induction path generalizing kept with
  | nil => exact .inl h
  | cons s path ih =>
    rcases ih h with h | h
    · unfold follow at h
      split at h
      · exact .inl h
      · split at h
        · exact .inl (List.mem_of_mem_tail h)
        · rcases List.mem_cons.1 h with rfl | h
          · exact .inr (by simp_all)
          · exact .inl h
    · exact .inr h

/-- The segments that are kept all name something. -/
theorem mem_resolve {segment : Segment} {path : List Segment} (h : segment ∈ resolve path) :
    segment ≠ [] ∧ segment ≠ here ∧ segment ≠ up := by
  rcases mem_foldl_follow (List.mem_reverse.1 h) with h | h
  · exact absurd h List.not_mem_nil
  · exact h

/-- The segments of a path, seen from a working directory. -/
def absolute (cwd path : String) : List Segment :=
  if isAbsolute path then segments path else segments cwd ++ segments path

/-- Segments below the root as a path. -/
def render (path : List Segment) : List Char :=
  match path with
  | [] => ['/']
  | path => path.flatMap ('/' :: ·)

/-- The name under which a file is looked up. The empty path names no file and has the empty key. -/
def key (cwd path : String) : String :=
  if path = "" then "" else String.ofList (Text.lower (render (resolve (absolute cwd path))))

/-- A path below a directory. An absolute path stands for itself. -/
def join (dir path : String) : String :=
  if isAbsolute path || dir = "" then path
  else if dir.toList.getLast? = some '/' then dir ++ path
  else dir ++ "/" ++ path

/-- The last segment of a path, if it names a file: not for the root and not for a path that ends by going up. -/
def fileName? (path : String) : Option String :=
  match ((segments path).filter fun s => s ≠ [] && s ≠ here).getLast? with
  | some s => if s = up then none else some (String.ofList s)
  | none => none

end Debugger.Path
