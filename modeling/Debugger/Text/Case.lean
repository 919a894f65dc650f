import Debugger.Text.CaseTable

/-!
# Lower case

`lower` is the full lower-case mapping of a text. All characters but two are mapped one by one: `İ` becomes two
characters, and `Σ` becomes `ς` at the end of a word and `σ` elsewhere. A `Σ` ends a word if a cased character stands
before it and none after it, case-ignorable characters being skipped on both sides.
-/

namespace Debugger.Text

/-- Whether a character has case. -/
def isCased (c : Char) : Bool := cased.has c

/-- Whether a character is skipped when the end of a word is looked for. -/
def isCaseIgnorable (c : Char) : Bool := caseIgnorable.has c

/-- The lower-case form of a character on its own. -/
def lowerChar (c : Char) : List Char :=
  if c = 'İ' then ['i', '\u0307']
  else match lowerRuns.find? fun r => r.has c.toNat with
    | some r => [Char.ofNat (r.target + (c.toNat - r.first))]
    | none => [c]

/-- Whether the first character that is not case-ignorable is cased. -/
def meetsCased (s : List Char) : Bool :=
  match s.dropWhile isCaseIgnorable with
  | [] => false
  | c :: _ => isCased c

/-- The lower-case form of a text that follows the characters `before`, the nearest first. -/
def lowerAfter (before : List Char) : List Char → List Char
  | [] => []
  | c :: s =>
    (if c = 'Σ' then [if meetsCased before && !meetsCased s then 'ς' else 'σ'] else lowerChar c) ++
      lowerAfter (c :: before) s

/-- The lower-case form of a text. -/
def lower (s : List Char) : List Char := lowerAfter [] s

end Debugger.Text
