import Debugger.Text.Printable

/-!
# Escaped text

A text between double quotes, as messages quote what they were given: the quote, the backslash and a few controls have
a short escape, and characters without a visible form of their own are shown by their code point.
-/

namespace Debugger.Text

/-- A code point in lower-case hexadecimal digits between braces. -/
def escapeCode (c : Char) : List Char := ['\\', 'u', '\x7b'] ++ Nat.toDigits 16 c.toNat ++ ['\x7d']

/-- The written form of one character of a quoted text. -/
def escapeChar (c : Char) : List Char :=
  if c = '\x00' then ['\\', '0']
  else if c = '\t' then ['\\', 't']
  else if c = '\r' then ['\\', 'r']
  else if c = '\n' then ['\\', 'n']
  else if c = '"' || c = '\\' then ['\\', c]
  else if ' ' ≤ c && c ≤ '~' then [c]
  else if unprintable.has c || joining.has c || ignorable.has c then escapeCode c
  else [c]

/-- A text between double quotes, with its characters escaped. -/
def escaped (s : String) : String := String.ofList ('"' :: s.toList.flatMap escapeChar ++ ['"'])

end Debugger.Text
