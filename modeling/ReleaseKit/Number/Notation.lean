/-
ReleaseKit.Number.Notation — real numbers read from text and written in digits.

A number is kept exactly, as a fraction. It is rounded twice: to the significant
bits that a machine word has, and to the digits that are asked for; both times a
half goes to the even neighbour.

  §1 Fractions  — `Amount`, rounding to bits.
  §2 Reading    — `Amount.read`.
  §3 Writing    — `fixedDigits`, `exponentDigits`, `generalDigits`.
  §4 Computing  — sums, products and quotients, rounded as doubles are.
-/

namespace ReleaseKit

/-! ## §1 Fractions -/

/-- A number, as programs compute with it. -/
inductive Amount where
  /-- a fraction and its sign -/
  | finite (negative : Bool) (num den : Nat)
  | infinite (negative : Bool)
  | undefined
deriving DecidableEq, Repr

namespace Amount

/-- A quotient to the nearest integer, a half to the even one. -/
def divideEven (num den : Nat) : Nat :=
  let q := num / den
  let r := num % den
  if 2 * r < den then q
  else if den < 2 * r then q + 1
  else if q % 2 = 0 then q
  else q + 1

/-- The power of a base by which a fraction has to be divided to lie between one
and the base. -/
def magnitude (base num den : Nat) : Int :=
  let digits (n : Nat) : Nat := (Nat.toDigits base n).length
  let guess : Int := (digits num : Int) - (digits den : Int)
  let least : Bool :=
    if 0 ≤ guess then den * Nat.pow base guess.toNat ≤ num
    else den ≤ num * Nat.pow base (-guess).toNat
  if least then guess else guess - 1

/-- A fraction times a power. -/
def scale (base : Nat) (power : Int) (num den : Nat) : Nat × Nat :=
  if 0 ≤ power then (num * Nat.pow base power.toNat, den)
  else (num, den * Nat.pow base (-power).toNat)

/-- The nearest fraction with so many significant bits. -/
def toBits (bits : Nat) (num den : Nat) : Nat × Nat :=
  if num = 0 then (0, 1)
  else
    let shift : Int := (bits : Int) - 1 - magnitude 2 num den
    let (n, d) := scale 2 shift num den
    scale 2 (-shift) (divideEven n d) 1

/-- The nearest number with so many significant bits; with 53 bits, what is too
great for a double is infinite. -/
def round (bits : Nat) : Amount → Amount
  | finite negative num den =>
    let (n, d) := toBits bits num den
    if bits = 53 && n ≥ d * Nat.pow 2 1024 then infinite negative else finite negative n d
  | other => other

/-! ## §2 Reading -/

/-- The value of digits. -/
def ofDigits (base : Nat) (digits : List Char) : Nat :=
  digits.foldl (fun n c =>
    let v := if c.isDigit then c.toNat - 48 else c.toLower.toNat - 87
    n * base + v) 0

def isHex (c : Char) : Bool := c.isDigit || ('a' ≤ c.toLower && c.toLower ≤ 'f')

/-- The greatest exponent that is taken at its word. -/
def exponentLimit : Nat := 5000

/-- An exponent behind its letter, and what follows it. -/
def readExponent (letter : Char) (chars : List Char) : Int × List Char :=
  match chars with
  | c :: rest =>
    if c.toLower = letter then
      let (negative, digits) :=
        match rest with
        | '-' :: r => (true, r)
        | '+' :: r => (false, r)
        | r => (false, r)
      let taken := digits.takeWhile Char.isDigit
      if taken.isEmpty then (0, chars)
      else
        let n : Int := min (ofDigits 10 taken) exponentLimit
        (if negative then -n else n, digits.drop taken.length)
    else (0, chars)
  | [] => (0, [])

/-- The fraction that a text starts with, without its sign, and what follows. -/
def readPositive (chars : List Char) : Option ((Nat × Nat) × List Char) :=
  let mantissa (base : Nat) (isDigit : Char → Bool) (cs : List Char) :
      Option (Nat × Nat × List Char) :=
    let whole := cs.takeWhile isDigit
    let rest := cs.drop whole.length
    let part :=
      match rest with
      | '.' :: r => r.takeWhile isDigit
      | _ => []
    let left :=
      match rest with
      | '.' :: r => if whole.isEmpty && part.isEmpty then rest else r.drop part.length
      | _ => rest
    if whole.isEmpty && part.isEmpty then none
    else some (ofDigits base (whole ++ part), part.length, left)
  let decimal : Option ((Nat × Nat) × List Char) :=
    (mantissa 10 Char.isDigit chars).map fun (n, places, rest) =>
      let (e, rest) := readExponent 'e' rest
      (scale 10 (e - places) n 1, rest)
  match chars with
  | '0' :: x :: rest =>
    if x.toLower = 'x' then
      match mantissa 16 isHex rest with
      | some (n, places, rest) =>
        let (e, rest) := readExponent 'p' rest
        some (scale 2 (e - 4 * places) n 1, rest)
      | none => some ((0, 1), x :: rest)
    else decimal
  | _ => decimal

/-- The number that a text starts with, and what follows it. -/
def read (chars : List Char) : Option (Amount × List Char) :=
  let start := chars.dropWhile fun c => c.isWhitespace || c == '\x0b' || c == '\x0c'
  let (negative, rest) :=
    match start with
    | '-' :: r => (true, r)
    | '+' :: r => (false, r)
    | r => (false, r)
  let word := String.ofList ((rest.takeWhile Char.isAlpha).map Char.toLower)
  if word = "inf" || word = "infinity" then some (infinite negative, rest.drop word.length)
  else if word = "nan" then some (undefined, rest.drop 3)
  else
    match readPositive rest with
    | some ((num, den), left) => some (finite negative num den, left)
    | none => none

/-! ## §3 Writing -/

/-- Digits with a point before the last so many. -/
def placePoint (places : Nat) (digits : List Char) : List Char :=
  let padded := List.replicate (places + 1 - digits.length) '0' ++ digits
  let whole := padded.length - places
  if places = 0 then padded else padded.take whole ++ '.' :: padded.drop whole

/-- A fraction with so many digits after the point. -/
def fixedDigits (places num den : Nat) : List Char :=
  placePoint places (Nat.toDigits 10 (divideEven (num * Nat.pow 10 places) den))

/-- The digits of a fraction, one and so many more, and its exponent. -/
def leadingDigits (places num den : Nat) : List Char × Int :=
  if num = 0 then (List.replicate (places + 1) '0', 0)
  else
    let e := magnitude 10 num den
    let (n, d) := scale 10 (places - e) num den
    let digits := Nat.toDigits 10 (divideEven n d)
    if places + 1 < digits.length then (digits.take (places + 1), e + 1) else (digits, e)

/-- An exponent with its sign and at least two digits. -/
def exponentText (e : Int) : List Char :=
  let digits := Nat.toDigits 10 e.natAbs
  (if e < 0 then '-' else '+') :: (if digits.length < 2 then '0' :: digits else digits)

/-- A fraction with one digit before the point and an exponent. -/
def exponentDigits (places num den : Nat) : List Char :=
  let (digits, e) := leadingDigits places num den
  placePoint places digits ++ 'e' :: exponentText e

/-- Digits without the zeros that end them behind a point. -/
def stripZeros (chars : List Char) : List Char :=
  if chars.contains '.' then
    let kept := chars.reverse.dropWhile (· == '0')
    (match kept with
      | '.' :: r => r
      | r => r).reverse
  else chars

/-- A fraction with so many significant digits, in whichever form is shorter. -/
def generalDigits (keepZeros : Bool) (precision num den : Nat) : List Char :=
  let p := if precision = 0 then 1 else precision
  let (digits, e) := leadingDigits (p - 1) num den
  let strip (chars : List Char) : List Char := if keepZeros then chars else stripZeros chars
  if -4 ≤ e && e < p then strip (fixedDigits ((p : Int) - 1 - e).toNat num den)
  else strip (placePoint (p - 1) digits) ++ 'e' :: exponentText e

/-- A number that is no fraction, in letters. -/
def word : Amount → List Char
  | infinite _ => "inf".toList
  | undefined => "nan".toList
  | finite _ _ _ => []

def isNegative : Amount → Bool
  | finite negative _ _ => negative
  | infinite negative => negative
  | undefined => false

/-- A number written by a conversion letter with a precision, without its
sign. -/
def digits (letter : Char) (keepZeros : Bool) (precision : Nat) : Amount → List Char
  | finite _ num den =>
    if letter = 'f' then fixedDigits precision num den
    else if letter = 'e' then exponentDigits precision num den
    else generalDigits keepZeros precision num den
  | other => other.word

/-! ## §4 Computing -/

/-- A fraction with its sign as a double, whole if it is. -/
def ofFraction (num : Int) (den : Nat) : Amount :=
  let n := num.natAbs
  if den = 1 && n < 9007199254740992 then finite (num < 0) n 1
  else
    match round 53 (finite (num < 0) n den) with
    | finite negative n d => if n % d = 0 then finite negative (n / d) 1 else finite negative n d
    | other => other

/-- An integer. -/
def ofInt (n : Int) : Amount := ofFraction n 1

/-- The numerator of a fraction with its sign. -/
def signed (negative : Bool) (num : Nat) : Int := if negative then -(num : Int) else num

def neg : Amount → Amount
  | finite negative num den => finite (!negative && num != 0) num den
  | infinite negative => infinite !negative
  | undefined => undefined

def add : Amount → Amount → Amount
  | finite s a b, finite t c d =>
    if b = d then ofFraction (signed s a + signed t c) b
    else ofFraction (signed s a * d + signed t c * b) (b * d)
  | infinite s, infinite t => if s = t then infinite s else undefined
  | infinite s, finite _ _ _ => infinite s
  | finite _ _ _, infinite t => infinite t
  | _, _ => undefined

def sub (x y : Amount) : Amount := x.add y.neg

def mul : Amount → Amount → Amount
  | finite s a b, finite t c d => ofFraction (signed s a * signed t c) (b * d)
  | undefined, _ => undefined
  | _, undefined => undefined
  | finite s a _, infinite t => if a = 0 then undefined else infinite (s != t)
  | infinite s, finite t c _ => if c = 0 then undefined else infinite (s != t)
  | infinite s, infinite t => infinite (s != t)

def div : Amount → Amount → Amount
  | finite s a b, finite t c d =>
    if c = 0 then (if a = 0 then undefined else infinite (s != t))
    else ofFraction (signed (s != t) (a * d)) (b * c)
  | finite _ _ _, infinite _ => finite false 0 1
  | infinite s, finite t _ _ => infinite (s != t)
  | _, _ => undefined

/-- The integer part, towards zero. -/
def truncate : Amount → Amount
  | finite negative num den => finite (negative && den ≤ num) (num / den) 1
  | other => other

/-- The integer part as an integer. -/
def toInt : Amount → Int
  | finite negative num den => signed negative (num / den)
  | infinite negative => if negative then -9223372036854775808 else 9223372036854775807
  | undefined => -9223372036854775808

/-- What is left of a division that is cut off at an integer. -/
def rem (x y : Amount) : Amount :=
  match x, y with
  | finite s a b, finite _ c d => if c = 0 then undefined else ofFraction (signed s (a * d % (c * b))) (b * d)
  | finite _ _ _, infinite _ => x
  | _, _ => undefined

/-- The square root. -/
def sqrt : Amount → Amount
  | finite negative num den =>
    if num = 0 then finite false 0 1
    else if negative then undefined
    else
      -- so many bits that the root has more than a double
      let root := Nat.sqrt (num * Nat.pow 2 256 / den)
      ofFraction root (Nat.pow 2 128)
  | infinite false => infinite false
  | _ => undefined

/-- A power; with an exponent that is not whole, only one with halves is known. -/
def pow (x y : Amount) : Amount :=
  match x, y with
  | finite s a b, finite t n 1 =>
    if 2000 < n then
      (if a = b then finite false 1 1 else if a < b then finite false 0 1 else infinite (s && n % 2 = 1))
    else
      let up := ofFraction (signed (s && n % 2 = 1) (Nat.pow a n)) (Nat.pow b n)
      if t then div (finite false 1 1) up else up
  | x, finite t n d =>
    if 2 * n = d then (if t then div (finite false 1 1) x.sqrt else x.sqrt) else undefined
  | _, _ => undefined

/-- The order of two amounts; one that is undefined comes last. -/
def order : Amount → Amount → Ordering
  | finite s a b, finite t c d => compare (signed s a * d) (signed t c * b)
  | infinite s, infinite t => if s = t then .eq else if s then .lt else .gt
  | infinite s, finite _ _ _ => if s then .lt else .gt
  | finite _ _ _, infinite t => if t then .gt else .lt
  | undefined, undefined => .eq
  | undefined, _ => .gt
  | _, undefined => .lt

end Amount

end ReleaseKit
