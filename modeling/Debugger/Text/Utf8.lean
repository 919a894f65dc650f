/-!
# Reading bytes as text

`lossy` reads any bytes as text: each character is read from its encoded form, and where no character can be read, the
longest run of bytes that begins one is replaced by a single replacement character.
-/

namespace Debugger.Text

/-- The ranges in which the bytes after a first byte lie, for a first byte of a character. -/
def continuations (b : UInt8) : Option (List (UInt8 × UInt8)) :=
  if b ≤ 0x7F then some []
  else if 0xC2 ≤ b && b ≤ 0xDF then some [(0x80, 0xBF)]
  else if b = 0xE0 then some [(0xA0, 0xBF), (0x80, 0xBF)]
  else if b = 0xED then some [(0x80, 0x9F), (0x80, 0xBF)]
  else if 0xE1 ≤ b && b ≤ 0xEF then some [(0x80, 0xBF), (0x80, 0xBF)]
  else if b = 0xF0 then some [(0x90, 0xBF), (0x80, 0xBF), (0x80, 0xBF)]
  else if b = 0xF4 then some [(0x80, 0x8F), (0x80, 0xBF), (0x80, 0xBF)]
  else if 0xF1 ≤ b && b ≤ 0xF3 then some [(0x80, 0xBF), (0x80, 0xBF), (0x80, 0xBF)]
  else none

/-- How many of the given ranges are met by the bytes, one after the other. -/
def matched : List (UInt8 × UInt8) → List UInt8 → Nat
  | [], _ => 0
  | _ :: _, [] => 0
  | (lo, hi) :: ranges, b :: bytes => if lo ≤ b && b ≤ hi then matched ranges bytes + 1 else 0

/-- The payload of a first byte that is followed by `n` others. -/
def leadPayload (n : Nat) (b : UInt8) : Nat :=
  match n with
  | 0 => b.toNat
  | 1 => b.toNat % 0x20
  | 2 => b.toNat % 0x10
  | _ => b.toNat % 0x08

/-- The character whose encoded form is a first byte and the bytes after it. -/
def assemble (b : UInt8) (tail : List UInt8) : Char :=
  Char.ofNat (tail.foldl (fun n t => n * 0x40 + t.toNat % 0x40) (leadPayload tail.length b))

/-- The character that stands for bytes that are not text. -/
def replacement : Char := '\uFFFD'

/-- The text of any bytes. -/
def lossy : List UInt8 → List Char
  | [] => []
  | b :: bytes =>
    match continuations b with
    | none => replacement :: lossy bytes
    | some ranges =>
      let n := matched ranges bytes
      (if n = ranges.length then assemble b (bytes.take n) else replacement) :: lossy (bytes.drop n)
termination_by bytes => bytes.length
decreasing_by all_goals simp +arith

/-- The text of bytes that are the encoded form of one. -/
def decode? (bytes : List UInt8) : Option String := String.fromUTF8? ⟨bytes.toArray⟩

end Debugger.Text
