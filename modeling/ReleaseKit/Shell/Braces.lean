/-
ReleaseKit.Shell.Braces — words that stand for several by their braces.

In the larger shell `a{b,c}d` is two words and `{1..3}` is three. Only what is
neither quoted nor expanded counts; everything else is carried along.
-/
import ReleaseKit.Shell.Script
import ReleaseKit.Number.Notation

namespace ReleaseKit.Shell.Braces

/-- A character that may be a brace, or a part that cannot. -/
inductive Atom where
  | char (c : Char)
  | part (p : Part)

def Atom.is : Atom → Char → Bool
  | char c, d => c == d
  | part _, _ => false

def atoms (parts : List Part) : List Atom :=
  parts.flatMap fun
    | .bare text => text.toList.map Atom.char
    | p => [.part p]

/-- Atoms as parts again. -/
def parts (list : List Atom) : List Part :=
  let (chars, done) := list.foldr (fun a (chars, done) =>
    match a with
    | Atom.char c => (c :: chars, done)
    | Atom.part p => ([], p :: glue chars done)) (([] : List Char), ([] : List Part))
  glue chars done
where
  glue (chars : List Char) (done : List Part) : List Part :=
    if chars.isEmpty then done else .bare (String.ofList chars) :: done

/-- The items between commas up to the brace that closes, and what follows. The
items and their atoms are gathered with the last one first. -/
def items : Nat → List Atom → List Atom → List (List Atom) →
    Option (List (List Atom) × List Atom)
  | _, [], _, _ => none
  | depth, a :: rest, current, done =>
    if a.is '\x7b' then items (depth + 1) rest (a :: current) done
    else if a.is '\x7d' then
      if depth = 0 then some ((current.reverse :: done).reverse, rest)
      else items (depth - 1) rest (a :: current) done
    else if a.is ',' && depth == 0 then items depth rest [] (current.reverse :: done)
    else items depth rest (a :: current) done

/-- A number in a sequence, and how wide it is written. -/
def number? (text : String) : Option (Int × Nat) :=
  text.toInt?.map fun n =>
    let digits := if text.startsWith "-" then (text.drop 1).toString else text
    let padded := digits.startsWith "0" && 1 < digits.length
    (n, if padded then text.length else 0)

/-- The texts of a sequence such as `1..10..2` or `a..e`. -/
def sequence? (text : String) : Option (List String) :=
  match text.splitOn ".." with
  | a :: b :: more =>
    let step? : Option Nat :=
      match more with
      | [] => some 1
      | [s] => s.toInt?.map fun n => if n = 0 then 1 else n.natAbs
      | _ => none
    match step?, number? a, number? b with
    | some step, some (m, w), some (n, w') =>
      let width := max w w'
      let count := (n - m).natAbs / step + 1
      some ((List.range count).map fun i =>
        let value : Int := if m ≤ n then m + (i * step : Nat) else m - (i * step : Nat)
        let digits := toString value.natAbs
        let sign := if value < 0 then "-" else ""
        sign ++ String.ofList (List.replicate (width - sign.length - digits.length) '0') ++ digits)
    | some step, none, none =>
      match a.toList, b.toList with
      | [c], [d] =>
        if c.isAlpha && d.isAlpha then
          let (m, n) := (c.toNat, d.toNat)
          let count := (if m ≤ n then n - m else m - n) / step + 1
          some ((List.range count).map fun i =>
            String.singleton (Char.ofNat (if m ≤ n then m + i * step else m - i * step)))
        else none
      | _, _ => none
    | _, _, _ => none
  | _ => none

/-- The text of atoms that are all characters. -/
def textOf? (list : List Atom) : Option String :=
  (list.mapM fun (a : Atom) =>
    match a with
    | .char c => some c
    | .part _ => none).map String.ofList

/-- The words that a word stands for. -/
def expandAtoms : Nat → List Atom → List (List Atom)
  | 0, list => [list]
  | _ + 1, [] => [[]]
  | fuel + 1, a :: rest =>
    let plain : List (List Atom) := (expandAtoms fuel rest).map (a :: ·)
    if a.is '\x7b' then
      match items 0 rest [] [] with
      | none => plain
      | some ([one], after) =>
        match (textOf? one).bind sequence? with
        | some texts =>
          let tails := expandAtoms fuel after
          texts.flatMap fun t => tails.map (t.toList.map (Atom.char ·) ++ ·)
        | none => plain
      | some (several, after) =>
        let tails := expandAtoms fuel after
        several.flatMap fun item =>
          (expandAtoms fuel item).flatMap fun head => tails.map (head ++ ·)
    else plain

/-- The words that a word stands for by its braces. -/
def expand (word : List Part) : List (List Part) :=
  let list := atoms word
  if list.any (·.is '\x7b') then (expandAtoms (list.length + 1) list).map parts else [word]

end ReleaseKit.Shell.Braces
