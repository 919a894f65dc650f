import Debugger.Decimal.Shortest

/-!
# Writing decimals

A `Layout` holds the decisions that turn a binary number into text: where positional notation ends, how an exponent is
written, and which of two equally good decimals is taken. `Layout.render` writes any 64 bits by it.
-/

namespace Debugger.Decimal

/-- How decimals are written. A number is positional if its point stands at `least … most`, and otherwise has one digit
before the point and an exponent, which has a sign if it is negative or `plus` is set. A positional number has at least
one digit after the point. -/
structure Layout where
  least : Int
  most : Int
  plus : Bool
  tie : Tie

/-- Whether a decimal with its point at the given place is written positionally. -/
def Layout.positional (l : Layout) (point : Int) : Bool :=
  l.least ≤ point && point ≤ l.most

/-- Digits with their point, and at least one digit on each side of it. -/
def Digits.positional (d : Digits) : List Char :=
  if d.point ≤ 0 then '0' :: '.' :: List.replicate (-d.point).toNat '0' ++ d.digits
  else
    let n := d.point.toNat
    let after := d.digits.drop n
    d.digits.take n ++ List.replicate (n - d.digits.length) '0' ++ '.' :: if after = [] then ['0'] else after

/-- Digits with a point after the first, if there are others, and an exponent. -/
def Digits.scientific (d : Digits) (plus : Bool) : List Char :=
  let head := match d.digits with
    | c :: c' :: ds => c :: '.' :: c' :: ds
    | ds => ds
  let exponent := (toString (d.point - 1)).toList
  head ++ 'e' :: if plus && 0 < d.point then '+' :: exponent else exponent

/-- The text of the number that 64 bits encode. Zero keeps its sign, and what is undefined has none. -/
def Layout.render (l : Layout) (bits : UInt64) : List Char :=
  let signed (negative : Bool) (s : List Char) := if negative then '-' :: s else s
  match Binary.ofBits bits with
  | .undefined => "NaN".toList
  | .infinite negative => signed negative "inf".toList
  | .finite negative m q narrow =>
    if m = 0 then signed negative "0.0".toList
    else
      let d := shortest l.tie m q narrow
      signed negative (if l.positional d.point then d.positional else d.scientific l.plus)

end Debugger.Decimal
