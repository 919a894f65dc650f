/-!
# Lines by byte offset

A `LineIndex` holds the byte offsets at which the lines of a source text start. `lineAt` finds the line that contains a
byte by binary search, and offsets past the end belong to the last line.
-/

namespace Debugger

/-- The byte offsets at which the lines of a text start, in ascending order. -/
structure LineIndex where
  starts : List Nat := []
deriving DecidableEq, Repr, Inhabited

namespace LineIndex

/-- The offsets just after the newlines of a text that starts at the given offset. -/
def startsAfter (offset : Nat) : List Char → List Nat
  | [] => []
  | c :: s =>
    let next := offset + c.utf8Size
    if c = '\n' then next :: startsAfter next s else startsAfter next s

/-- The index of a source text. The first line starts at its beginning, each other one after a newline. -/
def ofSource (source : String) : LineIndex := ⟨0 :: startsAfter 0 source.toList⟩

/-- The number of lines of a text. A newline at the end is followed by one more, empty, line. -/
def lineCount (index : LineIndex) : Nat := index.starts.length

theorem length_startsAfter (offset : Nat) (s : List Char) :
    (startsAfter offset s).length = s.count '\n' := by
  induction s generalizing offset with
  | nil => rfl
  | cons c s ih =>
    by_cases h : c = '\n' <;> simp [startsAfter, h, ih]

/-- There is one line more than there are newlines. -/
theorem lineCount_ofSource (source : String) :
    (ofSource source).lineCount = source.toList.count '\n' + 1 := by
  simp [ofSource, lineCount, length_startsAfter]

/-- How many of the entries between `lo` and `hi` and before `lo` are at most `offset`, for ascending entries of which
those before `lo` are at most `offset` and those from `hi` on are greater. -/
def countUpTo (starts : Array Nat) (offset lo hi : Nat) : Nat :=
  if lo < hi then
    let mid := lo + (hi - lo) / 2
    if starts.getD mid 0 ≤ offset then countUpTo starts offset (mid + 1) hi
    else countUpTo starts offset lo mid
  else lo
termination_by hi - lo

/-- The line that contains the byte at `offset`, counted from one. -/
def lineAt (index : LineIndex) (offset : Nat) : Nat :=
  let starts := index.starts.toArray
  max 1 (countUpTo starts offset 0 starts.size)

end LineIndex

end Debugger
