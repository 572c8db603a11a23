/-
ReleaseKit.Machine.Mode — permissions, as people write them.

Permissions are a number whose digits to the base eight are for the owner, the
group and all others; a fourth digit before them has other marks.

  §1 Letters  — how permissions are shown.
  §2 Changes  — `Mode.read`: clauses such as `u+x`, or a number.
-/

namespace ReleaseKit.Mode

/-! ## §1 Letters -/

/-- The letters of one digit. -/
def digitLetters (digit : Nat) : List Char :=
  (if 4 ≤ digit % 8 then ['r'] else []) ++ (if 2 ≤ digit % 4 then ['w'] else []) ++
    (if digit % 2 = 1 then ['x'] else [])

/-- What a mask allows, in letters. -/
def allowed (mask : Nat) : String :=
  let letters (unit : Nat) : String := String.ofList (digitLetters ((0o777 - mask) / unit))
  "u=" ++ letters 64 ++ ",g=" ++ letters 8 ++ ",o=" ++ letters 1

/-- Permissions as a listing shows them. -/
def shown (mode : Nat) : String :=
  let three (digit : Nat) (special : Bool) (low high : Char) : List Char :=
    [if 4 ≤ digit % 8 then 'r' else '-', if 2 ≤ digit % 4 then 'w' else '-',
      if special then (if digit % 2 = 1 then low else high)
      else if digit % 2 = 1 then 'x' else '-']
  String.ofList (three (mode / 64) (mode / 2048 % 2 = 1) 's' 'S' ++
    three (mode / 8) (mode / 1024 % 2 = 1) 's' 'S' ++ three mode (mode / 512 % 2 = 1) 't' 'T')

/-! ## §2 Changes -/

/-- The bits that letters stand for; some of them depend on what there is. -/
def bitsOf (isDir : Bool) (mode : Nat) (letters : List Char) : Option Nat :=
  letters.foldlM (fun (bits : Nat) c =>
    match c with
    | 'r' => some (bits ||| 4)
    | 'w' => some (bits ||| 2)
    | 'x' => some (bits ||| 1)
    | 'X' => some (if isDir || mode &&& 0o111 != 0 then bits ||| 1 else bits)
    | 's' => some bits
    | 't' => some bits
    | 'u' => some (bits ||| mode / 64 % 8)
    | 'g' => some (bits ||| mode / 8 % 8)
    | 'o' => some (bits ||| mode % 8)
    | _ => none) 0

/-- Permissions changed by operators and letters, at the digits of some places; bits of
`spare` stay as they are. The first number bounds the operators. -/
def changeAt (isDir : Bool) (places : List Nat) (spare : Nat) : Nat → List Char → Nat → Option Nat
  | 0, chars, mode => if chars.isEmpty then some mode else none
  | fuel + 1, chars, mode =>
    match chars with
    | [] => some mode
    | op :: rest =>
      if !(['+', '-', '='].contains op) then none
      else
        let letters := rest.takeWhile fun c => !(['+', '-', '='].contains c)
        match bitsOf isDir mode letters with
        | none => none
        | some bits =>
          let all := places.foldl (fun n place => n ||| bits * place) 0
          let all := all - (all &&& spare)
          let full := places.foldl (fun n place => n ||| 7 * place) 0
          let special :=
            (if letters.contains 's' && places.contains 64 then 0o4000 else 0) |||
            (if letters.contains 's' && places.contains 8 then 0o2000 else 0) |||
            (if letters.contains 't' then 0o1000 else 0)
          let changed :=
            if op = '+' then mode ||| all ||| special
            else if op = '-' then mode - (mode &&& (all ||| special))
            else (mode - (mode &&& full)) ||| all ||| special
          changeAt isDir places spare fuel (rest.drop letters.length) changed

/-- Permissions changed by one clause; if it does not say whose, a mask holds. -/
def change (isDir : Bool) (umask mode : Nat) (clause : String) : Option Nat :=
  let chars := clause.toList
  let who := chars.takeWhile ['u', 'g', 'o', 'a'].contains
  let places : List Nat :=
    if who.isEmpty || who.contains 'a' then [64, 8, 1]
    else [('u', 64), ('g', 8), ('o', 1)].filterMap fun (c, n) =>
      if who.contains c then some n else none
  let rest := chars.drop who.length
  if rest.isEmpty then none
  else changeAt isDir places (if who.isEmpty then umask else 0) rest.length rest mode

/-- Permissions changed as a text says: a number, or clauses with commas between. -/
def read (isDir : Bool) (umask mode : Nat) (text : String) : Option Nat :=
  let chars := text.toList
  if !chars.isEmpty && chars.all fun c => '0' ≤ c && c ≤ '7' then
    let n := chars.foldl (fun n c => n * 8 + (c.toNat - 48)) 0
    if n ≤ 0o7777 then some n else none
  else (text.splitOn ",").foldlM (change isDir umask) mode

end ReleaseKit.Mode
