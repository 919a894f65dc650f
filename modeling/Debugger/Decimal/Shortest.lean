/-!
# The shortest decimal of a binary number

A finite binary number stands for the interval of reals that round to it. `shortest` finds the fewest decimal digits
that name a point of that interval, and of two such points the one nearer to the number; if they are equally near, a
`Tie` decides.
-/

namespace Debugger.Decimal

/-- What the 64 bits of a binary floating-point number stand for: a signed `m * 2 ^ q`, or no finite number. `narrow`
says that the number below is half as far away as the number above. -/
inductive Binary where
  | finite (negative : Bool) (m : Nat) (q : Int) (narrow : Bool)
  | infinite (negative : Bool)
  | undefined
deriving DecidableEq, Repr

/-- The bit above the fraction that every number of full precision has. -/
def hiddenBit : Nat := 0x10000000000000

/-- The number that 64 bits encode: a sign, eleven bits of exponent and fifty-two of fraction. -/
def Binary.ofBits (bits : UInt64) : Binary :=
  let n : Nat := bits.toNat
  let negative : Bool := 0x8000000000000000 ≤ n
  let exponent : Nat := n / hiddenBit % 0x800
  let fraction : Nat := n % hiddenBit
  if exponent = 2047 then if fraction = 0 then .infinite negative else .undefined
  else if exponent = 0 then .finite negative fraction (-1074) false
  else .finite negative (hiddenBit + fraction) (exponent - 1075) (fraction = 0 && exponent ≠ 1)

/-- A decimal: its digits, without zeros at the end, after a point that is moved by `point` places to the right. -/
structure Digits where
  digits : List Char
  point : Int
deriving DecidableEq, Repr

/-- A positive rational number as a quotient. -/
structure Ratio where
  num : Nat
  den : Nat

/-- A natural number times a power of a base. -/
def Ratio.scaled (n base : Nat) (e : Int) : Ratio := ⟨n * base.pow e.toNat, base.pow (-e).toNat⟩

/-- The interval of the reals that round to a number, with the number in it: `low`, `mid` and `high` over one
denominator, the ends included if the number is even. -/
structure Interval where
  low : Nat
  mid : Nat
  high : Nat
  den : Nat
  closed : Bool

/-- The interval of `m * 2 ^ q`: half way to the neighbours on both sides, in quarters of the last place. -/
def Interval.around (m : Nat) (q : Int) (narrow : Bool) : Interval :=
  let unit := Ratio.scaled 1 2 (q - 2)
  ⟨(4 * m - if narrow then 1 else 2) * unit.num, 4 * m * unit.num, (4 * m + 2) * unit.num, unit.den, m % 2 = 0⟩

/-- Whether `num / den` lies in the interval. -/
def Interval.has (i : Interval) (r : Ratio) : Bool :=
  let n := r.num * i.den
  (i.low * r.den < n && n < i.high * r.den) ||
    (i.closed && (i.low * r.den = n || n = i.high * r.den))

/-- The least `k` with `num / den < 10 ^ k`, for a positive quotient. -/
def magnitude (num den : Nat) : Int :=
  if den ≤ num then (Nat.toDigits 10 (num / den)).length
  else
    let k := (Nat.toDigits 10 (den / num)).length
    if den ≤ num * Nat.pow 10 (k - 1) then 2 - k else 1 - k

/-- Which of two neighbours stands for what is half way between them. -/
inductive Tie where
  | greater
  | even
deriving DecidableEq, Repr

/-- The choice between a number and its successor. -/
def Tie.choose (t : Tie) (n : Nat) : Nat :=
  match t with
  | greater => n + 1
  | even => if n % 2 = 0 then n else n + 1

/-- The point of the grid of multiples of `10 ^ e` that lies in the interval. If there are two, it is the one nearer to
the number of the interval. -/
def gridPoint (t : Tie) (i : Interval) (e : Int) : Option Nat :=
  let grid := Ratio.scaled 1 10 e
  let below := i.mid * grid.den / (i.den * grid.num)
  let lies (n : Nat) : Bool := i.has ⟨n * grid.num, grid.den⟩
  match lies below, lies (below + 1) with
  | true, true =>
    let twice := 2 * i.mid * grid.den
    let middle := (2 * below + 1) * (i.den * grid.num)
    if twice < middle then some below else if middle < twice then some (below + 1) else some (t.choose below)
  | true, false => some below
  | false, true => some (below + 1)
  | false, false => none

/-- A natural number times `10 ^ e` as digits. -/
def Digits.ofNat (n : Nat) (e : Int) : Digits :=
  let all := Nat.toDigits 10 n
  ⟨(all.reverse.dropWhile (· = '0')).reverse, all.length + e⟩

/-- All digits of `m * 2 ^ q`. -/
def exact (m : Nat) (q : Int) : Digits :=
  if 0 ≤ q then Digits.ofNat (m * Nat.pow 2 q.toNat) 0 else Digits.ofNat (m * Nat.pow 5 (-q).toNat) q

/-- The fewest digits that name a point of the interval. Seventeen always do. -/
def shortest (t : Tie) (m : Nat) (q : Int) (narrow : Bool) : Digits :=
  let i := Interval.around m q narrow
  let k := magnitude i.mid i.den
  let hit := (List.range 17).findSome? fun (n : Nat) =>
    let e : Int := k - (n + 1)
    (gridPoint t i e).map fun p => Digits.ofNat p e
  hit.getD (exact m q)

end Debugger.Decimal
