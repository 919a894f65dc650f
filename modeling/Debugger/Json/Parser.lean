import Debugger.Json.Basic

/-!
# Reading JSON

`Json.parse?` reads a text that is one JSON value with blanks around it. Arrays and objects may be nested up to
`nestingLimit` deep. An integer that does not fit into 64 bits is read as a floating-point number, and a number without
a finite floating-point value is refused.
-/

namespace Debugger.Json

/-- The depth to which arrays and objects may be nested. -/
def nestingLimit : Nat := 127

/-- The blanks between the parts of a value. -/
def isSpace (c : Char) : Bool := c = ' ' || c = '\n' || c = '\t' || c = '\r'

/-- A text without the blanks before its first part. -/
def skipSpace (s : List Char) : List Char := s.dropWhile isSpace

/-! ### Strings -/

/-- The value of a hexadecimal digit. -/
def hexDigit? (c : Char) : Option Nat :=
  if c.isDigit then some (c.toNat - '0'.toNat)
  else if 'a' ≤ c && c ≤ 'f' then some (c.toNat - 'a'.toNat + 10)
  else if 'A' ≤ c && c ≤ 'F' then some (c.toNat - 'A'.toNat + 10)
  else none

/-- The value of four hexadecimal digits. -/
def hex4? (a b c d : Char) : Option Nat := do
  return (((← hexDigit? a) * 16 + (← hexDigit? b)) * 16 + (← hexDigit? c)) * 16 + (← hexDigit? d)

/-- The character that a letter after a backslash stands for. -/
def shortEscape? : Char → Option Char
  | '"' => some '"'
  | '\\' => some '\\'
  | '/' => some '/'
  | 'b' => some '\x08'
  | 'f' => some '\x0c'
  | 'n' => some '\n'
  | 'r' => some '\r'
  | 't' => some '\t'
  | _ => none

/-- The rest of a string after its opening quote, and the text after its closing quote. The first argument is the first
half of a character that is written as two numbers, if that has just been read. -/
def stringBody : Option Nat → List Char → Option (List Char × List Char)
  | high, '\\' :: 'u' :: a :: b :: c :: d :: s => do
    let n ← hex4? a b c d
    let isLow := 0xDC00 ≤ n && n ≤ 0xDFFF
    match high with
    | none =>
      if 0xD800 ≤ n && n ≤ 0xDBFF then stringBody (some n) s
      else if isLow then none
      else do
        let (cs, rest) ← stringBody none s
        return (Char.ofNat n :: cs, rest)
    | some h =>
      if isLow then do
        let (cs, rest) ← stringBody none s
        return (Char.ofNat (0x10000 + (h - 0xD800) * 0x400 + (n - 0xDC00)) :: cs, rest)
      else none
  | some _, _ => none
  | none, [] => none
  | none, '"' :: s => some ([], s)
  | none, '\\' :: e :: s => do
    let c ← shortEscape? e
    let (cs, rest) ← stringBody none s
    return (c :: cs, rest)
  | none, c :: s =>
    if c < ' ' then none
    else do
      let (cs, rest) ← stringBody none s
      return (c :: cs, rest)

/-! ### Numbers -/

/-- A number that is being read: the digits that fit into 64 bits, and the power of ten to scale them by. -/
structure Significand where
  digits : Nat := 0
  exponent : Int := 0
  full : Bool := false

/-- The digit's value. -/
def digitValue (c : Char) : Nat := c.toNat - '0'.toNat

/-- Takes in a digit before the point. A digit that does not fit any more only moves the point. -/
def Significand.pushWhole (a : Significand) (c : Char) : Significand :=
  let n := a.digits * 10 + digitValue c
  if a.full || UInt64.size ≤ n then { a with exponent := a.exponent + 1, full := true } else { a with digits := n }

/-- Takes in a digit after the point. A digit that does not fit any more is dropped. -/
def Significand.pushFraction (a : Significand) (c : Char) : Significand :=
  let n := a.digits * 10 + digitValue c
  if a.full || UInt64.size ≤ n then { a with full := true } else { a with digits := n, exponent := a.exponent - 1 }

/-- A float times a power of ten, in one rounding where the power is itself a float. Larger negative powers are reached
by division, which comes to zero within `fuel` steps; larger positive ones have no finite value. -/
def scale (f : Float) (e : Int) : Nat → Option Float
  | 0 => some f
  | fuel + 1 =>
    if 0 ≤ e && e ≤ 308 then
      let g := f * Float.ofScientific 1 false e.toNat
      if g.isInf then none else some g
    else if -308 ≤ e && e < 0 then some (f / Float.ofScientific 1 false (-e).toNat)
    else if f == 0 then some f
    else if 0 < e then none
    else scale (f / Float.ofScientific 1 false 308) (e + 308) fuel

/-- The floating-point number of a significand. -/
def Significand.toFloat? (a : Significand) (negative : Bool) : Option Json := do
  let f ← scale (Float.ofNat a.digits) a.exponent 4
  return .float (if negative then -f else f).toBits

/-- A number without point and exponent: an integer, if it fits. -/
def Significand.toInteger? (a : Significand) (negative : Bool) : Option Json :=
  if a.full then a.toFloat? negative
  else if !negative then some (.int a.digits)
  else if 0 < a.digits && a.digits ≤ 0x8000000000000000 then some (.int (-a.digits))
  else a.toFloat? negative

/-- The digits at the front of a text, and the rest. -/
def spanDigits (s : List Char) : List Char × List Char := s.span Char.isDigit

/-- The exponent of a number, after its letter: a sign, if any, and digits. -/
def exponent? (s : List Char) : Option (Int × List Char) :=
  let (negative, s) := match s with
    | '+' :: s => (false, s)
    | '-' :: s => (true, s)
    | s => (false, s)
  let (ds, rest) := spanDigits s
  if ds = [] then none
  else
    let n : Int := ds.foldl (fun n c => n * 10 + digitValue c) 0
    some (if negative then -n else n, rest)

/-- The rest of a number after its whole part. -/
def numberTail (negative : Bool) (a : Significand) (s : List Char) : Option (Json × List Char) :=
  let withExponent (a : Significand) (s : List Char) : Option (Json × List Char) := do
    let (e, rest) ← exponent? s
    return (← Significand.toFloat? { a with exponent := a.exponent + e } negative, rest)
  match s with
  | '.' :: s =>
    let (ds, rest) := spanDigits s
    if ds = [] then none
    else
      let a := ds.foldl Significand.pushFraction { a with full := false }
      match rest with
      | 'e' :: rest | 'E' :: rest => withExponent a rest
      | rest => (a.toFloat? negative).map (·, rest)
  | 'e' :: rest | 'E' :: rest => withExponent a rest
  | rest => (a.toInteger? negative).map (·, rest)

/-- A number, after its sign. A zero stands alone before the point. -/
def unsignedNumber (negative : Bool) : List Char → Option (Json × List Char)
  | '0' :: s =>
    match s with
    | c :: _ => if c.isDigit then none else numberTail negative {} s
    | [] => numberTail negative {} s
  | c :: s =>
    if c.isDigit then
      let (ds, rest) := spanDigits (c :: s)
      numberTail negative (ds.foldl Significand.pushWhole {}) rest
    else none
  | [] => none

/-- A number. -/
def number : List Char → Option (Json × List Char)
  | '-' :: s => unsignedNumber true s
  | s => unsignedNumber false s

/-! ### Values -/

mutual

/-- A value at the front of a text, with arrays and objects nested at most `depth` deep, and the rest. The fuel bounds
the number of values and separators that are read. -/
def value (fuel depth : Nat) (s : List Char) : Option (Json × List Char) :=
  match fuel with
  | 0 => none
  | fuel + 1 =>
    match skipSpace s with
    | 'n' :: 'u' :: 'l' :: 'l' :: s => some (.null, s)
    | 't' :: 'r' :: 'u' :: 'e' :: s => some (.bool true, s)
    | 'f' :: 'a' :: 'l' :: 's' :: 'e' :: s => some (.bool false, s)
    | '"' :: s => (stringBody none s).map fun (cs, rest) => (.str (String.ofList cs), rest)
    | '[' :: s =>
      match depth with
      | 0 => none
      | depth + 1 =>
        match skipSpace s with
        | ']' :: s => some (.arr [], s)
        | s => (items fuel depth s).map fun (vs, rest) => (.arr vs, rest)
    | '\x7b' :: s =>
      match depth with
      | 0 => none
      | depth + 1 =>
        match skipSpace s with
        | '\x7d' :: s => some (.obj [], s)
        | s => (members fuel depth s).map fun (ms, rest) => (.obj ms, rest)
    | s => number s

/-- The items of an array up to its closing bracket. -/
def items (fuel depth : Nat) (s : List Char) : Option (List Json × List Char) :=
  match fuel with
  | 0 => none
  | fuel + 1 => do
    let (v, s) ← value fuel depth s
    match skipSpace s with
    | ',' :: s =>
      let (vs, rest) ← items fuel depth s
      return (v :: vs, rest)
    | ']' :: s => return ([v], s)
    | _ => none

/-- The members of an object up to its closing brace. -/
def members (fuel depth : Nat) (s : List Char) : Option (List (String × Json) × List Char) :=
  match fuel with
  | 0 => none
  | fuel + 1 =>
    match skipSpace s with
    | '"' :: s => do
      let (k, s) ← stringBody none s
      match skipSpace s with
      | ':' :: s =>
        let (v, s) ← value fuel depth s
        match skipSpace s with
        | ',' :: s =>
          let (ms, rest) ← members fuel depth s
          return ((String.ofList k, v) :: ms, rest)
        | '\x7d' :: s => return ([(String.ofList k, v)], s)
        | _ => none
      | _ => none
    | _ => none

end

/-- The value that a text is, if it is one. -/
def parse? (s : String) : Option Json := do
  let cs := s.toList
  let (v, rest) ← value (2 * cs.length + 2) nestingLimit cs
  if skipSpace rest = [] then return v else none

end Debugger.Json
