/-
ReleaseKit.Number.Binary64 — numbers of 53 binary digits, in exact arithmetic.

Times and the numbers of a manifest are rounded to the binary64 format. Here
such a number is a pair of integers and every operation is done exactly on
fractions and rounded once, to the nearest number and from a tie to the even
one. No machine arithmetic is involved, so a proof can follow each digit.
-/

namespace ReleaseKit

/-! ## §1 Rounding a quotient -/

/-- The integer nearest to `num / den`; of two equally near, the even one. -/
def roundDiv (num den : Nat) : Nat :=
  let quotient := num / den
  let remainder := num % den
  if den < 2 * remainder || (2 * remainder == den && quotient % 2 == 1) then quotient + 1
  else quotient

/-- Rounding moves a quotient by at most one half. -/
theorem two_mul_roundDiv_mul_le (num den : Nat) :
    2 * (roundDiv num den * den) ≤ 2 * num + den := by
  have h := Nat.div_add_mod num den
  unfold roundDiv
  simp only [Bool.or_eq_true, decide_eq_true_eq, Bool.and_eq_true, beq_iff_eq]
  have hc : den * (num / den) = num / den * den := Nat.mul_comm _ _
  split
  · rw [Nat.add_mul]
    omega
  · omega

/-! ## §2 The format -/

/-- A non-negative number `significand * 2 ^ exponent` with at most 53 binary
digits. The exponent has a least value, as in the format; that it has a
greatest one is left to `overflows`. -/
structure Binary64 where
  significand : Nat
  exponent : Int
deriving DecidableEq, Repr

namespace Binary64

/-- The least exponent of the format. -/
def leastExponent : Int := -1074

/-- The greatest exponent of the format. -/
def greatestExponent : Int := 971

def zero : Binary64 := ⟨0, leastExponent⟩

/-- Whether the number is beyond the greatest finite one. -/
def overflows (x : Binary64) : Bool := greatestExponent < x.exponent

/-- Numerator and denominator of the number, as integers. -/
def numerator (x : Binary64) : Nat := x.significand * Nat.pow 2 x.exponent.toNat

def denominator (x : Binary64) : Nat := Nat.pow 2 (-x.exponent).toNat

/-- `num / den` in units of `2 ^ exponent`, as a fraction. -/
def inUnits (num den : Nat) (exponent : Int) : Nat × Nat :=
  (num * Nat.pow 2 (-exponent).toNat, den * Nat.pow 2 exponent.toNat)

/-- The exponent at which `num / den` has 53 binary digits before the point, or
the least one if the fraction is too small for that. -/
def exponentOf (num den : Nat) : Int :=
  let guess : Int := (num.log2 : Int) - (den.log2 : Int) - 53
  let (n, d) := inUnits num den guess
  max leastExponent (if Nat.pow 2 53 ≤ n / d then guess + 1 else guess)

/-- The number nearest to `num / den`, from a tie the one with an even
significand. -/
def ofRatio (num den : Nat) : Binary64 :=
  if num = 0 then zero
  else
    let exponent := exponentOf num den
    let (n, d) := inUnits num den exponent
    let significand := roundDiv n d
    if significand = Nat.pow 2 53 then ⟨Nat.pow 2 52, exponent + 1⟩
    else ⟨significand, exponent⟩

def ofNat (n : Nat) : Binary64 := ofRatio n 1

/-! ## §3 Arithmetic -/

def add (x y : Binary64) : Binary64 :=
  ofRatio (x.numerator * y.denominator + y.numerator * x.denominator)
    (x.denominator * y.denominator)

def mul (x y : Binary64) : Binary64 :=
  ofRatio (x.numerator * y.numerator) (x.denominator * y.denominator)

/-- The quotient; `y` is not zero where it is used. -/
def div (x y : Binary64) : Binary64 :=
  ofRatio (x.numerator * y.denominator) (x.denominator * y.numerator)

/-- The number nearest to a power of ten. -/
def powerOfTen (n : Nat) : Binary64 := ofNat (Nat.pow 10 n)

def isZero (x : Binary64) : Bool := x.significand == 0

end Binary64

end ReleaseKit
