/-
ReleaseKit.Json.Number — the numbers of a JSON text.

A number without point and exponent that fits 64 bits is an integer; minus zero
and everything else is a binary floating point number. Such a number is found
from at most 64 bits of its digits: digits after a point that no longer fit are
dropped, digits before it that do not fit count as a power of ten, and the
integer is multiplied or divided by the power of ten, each step rounded.
-/
import ReleaseKit.Number.Decimal

namespace ReleaseKit.Json

/-- A number as it was read. -/
inductive Number where
  | natural (value : Nat)
  | negative (value : Nat)
  | floating (minus : Bool) (value : Binary64)
deriving DecidableEq, Repr

namespace Number

/-- The greatest integer of 64 bits. -/
def greatest : Nat := Nat.pow 2 64 - 1

/-- The greatest exponent that is still counted. -/
def greatestExponent : Nat := Nat.pow 2 31 - 1

/-- An integer whose digits fit 64 bits, with its sign. -/
def ofInteger (minus : Bool) (digits : Nat) : Number :=
  if !minus then natural digits
  else if digits = 0 ∨ Nat.pow 2 63 < digits then floating true (Binary64.ofNat digits)
  else negative digits

/-- Divides by `10 ^ 308` until the exponent has come within reach, then by the
power that is left. -/
def scaleDown : Nat → Binary64 → Nat → Binary64
  | 0, x, _ => x
  | steps + 1, x, exponent =>
    if exponent ≤ 308 then x.div (Binary64.powerOfTen exponent)
    else if x.isZero then x
    else scaleDown steps (x.div (Binary64.powerOfTen 308)) (exponent - 308)

/-- `digits * 10 ^ exponent`, none if that is beyond the greatest number. -/
def ofParts? (digits : Nat) (exponent : Int) : Option Binary64 :=
  let x := Binary64.ofNat digits
  if exponent < 0 then
    -- two divisions by `10 ^ 308` make every 64-bit integer zero
    some (scaleDown 4 x exponent.natAbs)
  else if exponent ≤ 308 then
    let y := x.mul (Binary64.powerOfTen exponent.toNat)
    if y.overflows then none else some y
  else if x.isZero then some x
  else none

/-- The digits that are taken from `ds` before 64 bits are full, with what has
been taken before, their number, and the digits that are left. -/
def takeDigits (sofar : Nat) (count : Nat) : List Nat → Nat × Nat × List Nat
  | [] => (sofar, count, [])
  | d :: ds =>
    if greatest < sofar * 10 + d then (sofar, count, d :: ds)
    else takeDigits (sofar * 10 + d) (count + 1) ds

/-- What an error message calls the number. -/
def describe : Number → String
  | natural n => "integer `" ++ toString n ++ "`"
  | negative n => "integer `-" ++ toString n ++ "`"
  | floating minus x =>
    "floating point `" ++ (if minus then "-" else "") ++ x.shortestText ++ "`"

end Number

end ReleaseKit.Json
