/-!
# Pieces and lines of a text

`split` cuts a text at every separator. The lines of a text are its pieces between newlines, without an empty last
piece; a carriage return before a newline stays with its line.
-/

namespace Debugger.Text

/-- The pieces between the separators: one more than there are separators. -/
def split (sep : Char) : List Char → List (List Char)
  | [] => [[]]
  | c :: s =>
    if c = sep then [] :: split sep s
    else match split sep s with
      | [] => [[c]]
      | p :: ps => (c :: p) :: ps

/-- The lines of a text. A newline ends its line, so a text that ends with one has no empty line after it. -/
def lines (s : List Char) : List (List Char) :=
  let pieces := split '\n' s
  if pieces.getLast? = some [] then pieces.dropLast else pieces

theorem split_ne_nil (sep : Char) (s : List Char) : split sep s ≠ [] := by
  cases s with
  | nil => simp [split]
  | cons c s =>
    simp only [split]
    split
    · simp
    · split <;> simp

example : lines "a\n\nb".toList = ["a".toList, [], "b".toList] := by decide
example : lines "a\n".toList = ["a".toList] := by decide
example : lines [] = [] := by decide

end Debugger.Text
