/-
ReleaseKit.Number.Decimal — decimal texts of binary numbers.

Two texts are in use. The shortest text of a number has the fewest digits that
still single it out among all numbers of its format, and of those the digits
nearest to it. The text with one decimal place is the exact value rounded, a
tie to the even digit.
-/
import ReleaseKit.Number.Binary64

namespace ReleaseKit

/-- `digits * 10 ^ exponent`. -/
structure Decimal where
  digits : Nat
  exponent : Int
deriving DecidableEq, Repr

namespace Decimal

/-! ## §1 The fewest digits that read back -/

/-- The decimals that round to a number: those between `low / den` and
`high / den`, the ends included when `closed`. -/
structure Interval where
  low : Nat
  mid : Nat
  high : Nat
  den : Nat
  closed : Bool

/-- The interval of `x`: half a unit to either side, but a quarter below a
significand that starts a new power of two. -/
def Interval.of (x : Binary64) : Interval :=
  let scale := Nat.pow 2 x.exponent.toNat
  let below :=
    if x.significand = Nat.pow 2 52 ∧ x.exponent ≠ Binary64.leastExponent then 1 else 2
  { low := (4 * x.significand - below) * scale
    mid := 4 * x.significand * scale
    high := (4 * x.significand + 2) * scale
    den := 4 * Nat.pow 2 (-x.exponent).toNat
    closed := x.significand % 2 == 0 }

/-- Whether `n / d` lies in the interval. -/
def Interval.contains (i : Interval) (n d : Nat) : Bool :=
  let v := n * i.den
  if i.closed then i.low * d ≤ v && v ≤ i.high * d else i.low * d < v && v < i.high * d

/-- The point of the grid of all multiples of `10 ^ exponent` that lies in the
interval and is nearest to its middle, if one does. -/
def Interval.onGrid (i : Interval) (exponent : Int) : Option Nat :=
  let up := Nat.pow 10 exponent.toNat
  let down := Nat.pow 10 (-exponent).toNat
  let point (k : Nat) : Bool := i.contains (k * up) down
  let lower := i.mid * down / (i.den * up)
  let nearest := roundDiv (i.mid * down) (i.den * up)
  if point nearest then some nearest
  else if point lower then some lower
  else if point (lower + 1) then some (lower + 1)
  else none

/-- The first grid with a point in the interval, from `10 ^ exponent` towards
finer ones. -/
def Interval.search (i : Interval) : Nat → Int → Decimal
  | 0, exponent => ⟨0, exponent⟩
  | steps + 1, exponent =>
    match i.onGrid exponent with
    | some k => ⟨k, exponent⟩
    | none => i.search steps (exponent - 1)

/-- An exponent whose power of ten is above the number. -/
def above (x : Binary64) : Int :=
  if x.denominator ≤ x.numerator then ((Nat.toDigits 10 (x.numerator / x.denominator)).length : Int)
  else 2 - ((Nat.toDigits 10 (x.denominator / x.numerator)).length : Int)

/-- Moves the zeros that end the digits into the exponent. -/
def dropZeros : Nat → Decimal → Decimal
  | 0, d => d
  | steps + 1, d =>
    if d.digits ≠ 0 ∧ d.digits % 10 = 0 then dropZeros steps ⟨d.digits / 10, d.exponent + 1⟩
    else d

/-- The shortest decimal of `x`: seventeen digits always suffice. -/
def shortest (x : Binary64) : Decimal :=
  dropZeros 20 ((Interval.of x).search 20 (above x))

/-! ## §2 Texts -/

def zeros (n : Nat) : List Char := List.replicate n '0'

/-- The text of a decimal: positional with at least one place on either side of
the point, as long as it starts within sixteen places before and five after the
point; otherwise with an exponent that carries its sign. -/
def text (d : Decimal) : String :=
  let ds := Nat.toDigits 10 d.digits
  let size : Int := ds.length
  let point := size + d.exponent
  String.ofList <|
    if 0 ≤ d.exponent ∧ point ≤ 16 then ds ++ zeros d.exponent.toNat ++ ['.', '0']
    else if 0 < point ∧ point ≤ 16 then ds.take point.toNat ++ '.' :: ds.drop point.toNat
    else if -5 < point ∧ point ≤ 0 then ['0', '.'] ++ zeros (-point).toNat ++ ds
    else
      let fraction := if ds.length = 1 then [] else '.' :: ds.drop 1
      let sign := if 0 < point then '+' else '-'
      ds.take 1 ++ fraction ++ ['e', sign] ++ Nat.toDigits 10 (point - 1).natAbs

end Decimal

namespace Binary64

/-- The shortest text of a number. -/
def shortestText (x : Binary64) : String :=
  if x.isZero then "0.0" else (Decimal.shortest x).text

/-- The exact value with one decimal place, a tie to the even digit. -/
def oneDecimalText (x : Binary64) : String :=
  let tenths := roundDiv (x.numerator * 10) x.denominator
  toString (tenths / 10) ++ "." ++ toString (tenths % 10)

end Binary64

end ReleaseKit
