/-
ReleaseKit.Shell.Pattern — patterns that texts are compared with.

In a pattern a star stands for any text, a question mark for one character, and
brackets for one of the characters in them. What is quoted stands for itself.

  §1 Items     — `Glob`, classes of characters.
  §2 Reading   — `Pattern.ofMarked`, from characters that may be quoted.
  §3 Matching  — `Pattern.test`, and what is left when a pattern is cut off.
-/

namespace ReleaseKit.Shell

/-! ## §1 Items -/

/-- A character and whether it is quoted. -/
abbrev Marked := Char × Bool

/-- One item of a pattern. -/
inductive Glob where
  | char (c : Char)
  | any
  | many
  /-- a character in one of the ranges, or in none of them -/
  | oneOf (negated : Bool) (ranges : List (Char × Char))
deriving DecidableEq, Repr

abbrev Pattern := List Glob

namespace Glob

/-- Whether the item stands for a character. -/
def accepts : Glob → Char → Bool
  | char c, d => c == d
  | any, _ => true
  | many, _ => true
  | oneOf negated ranges, d => negated != ranges.any fun (low, high) => low ≤ d && d ≤ high

/-- The ranges of a named class of characters. -/
def classRanges (name : String) : List (Char × Char) :=
  let lower := ('a', 'z')
  let upper := ('A', 'Z')
  let digit := ('0', '9')
  let marks := [('!', '/'), (':', '@'), ('[', '\x60'), ('\x7b', '~')]
  match name with
  | "alpha" => [lower, upper]
  | "digit" => [digit]
  | "alnum" => [lower, upper, digit]
  | "upper" => [upper]
  | "lower" => [lower]
  | "space" => [('\t', '\r'), (' ', ' ')]
  | "blank" => [('\t', '\t'), (' ', ' ')]
  | "punct" => marks
  | "print" => [(' ', '~')]
  | "graph" => [('!', '~')]
  | "cntrl" => [('\x00', '\x1f'), ('\x7f', '\x7f')]
  | "xdigit" => [digit, ('a', 'f'), ('A', 'F')]
  | _ => []

end Glob

/-! ## §2 Reading -/

namespace Pattern

/-- The name of a class and what follows it, behind `[:`. -/
def readClass : List Marked → Option (String × List Marked)
  | chars =>
    let name := chars.takeWhile fun (c, _) => c.isAlpha
    match chars.drop name.length with
    | (':', _) :: (']', _) :: rest => some (String.ofList (name.map (·.1)), rest)
    | _ => none

/-- The ranges up to the bracket that closes them; the first character is one
of them, whatever it is. The number bounds the characters. -/
def readRanges : Nat → Bool → List Marked → Option (List (Char × Char) × List Marked)
  | 0, _, _ => none
  | _ + 1, _, [] => none
  | fuel + 1, first, (c, quoted) :: rest =>
    if c = ']' && !quoted && !first then some ([], rest)
    else
      let named :=
        match rest with
        | (':', false) :: after => if c = '[' && !quoted then readClass after else none
        | _ => none
      match named with
      | some (name, after) =>
        (readRanges fuel false after).map fun (ranges, left) =>
          (Glob.classRanges name ++ ranges, left)
      | none =>
        match rest with
        | ('-', false) :: (d, quoted') :: after =>
          if d = ']' && !quoted' then
            (readRanges fuel false rest).map fun (ranges, left) => ((c, c) :: ranges, left)
          else (readRanges fuel false after).map fun (ranges, left) => ((c, d) :: ranges, left)
        | _ => (readRanges fuel false rest).map fun (ranges, left) => ((c, c) :: ranges, left)

/-- Whether ranges are to be negated, and what follows the mark that says so. -/
def readNegation (caret : Bool) : List Marked → Bool × List Marked
  | ('!', false) :: rest => (true, rest)
  | ('^', false) :: rest => if caret then (true, rest) else (false, ('^', false) :: rest)
  | rest => (false, rest)

/-- The pattern that marked characters make. `caret` says that a caret negates
too. The number bounds the characters. -/
def ofMarkedWithin (caret : Bool) : Nat → List Marked → Pattern
  | 0, _ => []
  | _ + 1, [] => []
  | fuel + 1, (c, quoted) :: rest =>
    if quoted then .char c :: ofMarkedWithin caret fuel rest
    else if c = '*' then .many :: ofMarkedWithin caret fuel rest
    else if c = '?' then .any :: ofMarkedWithin caret fuel rest
    else if c = '[' then
      let (negated, inside) := readNegation caret rest
      match readRanges (inside.length + 1) true inside with
      | some (ranges, after) => .oneOf negated ranges :: ofMarkedWithin caret fuel after
      | none => .char c :: ofMarkedWithin caret fuel rest
    else if c = '\\' then
      match rest with
      | (d, _) :: after => .char d :: ofMarkedWithin caret fuel after
      | [] => [.char c]
    else .char c :: ofMarkedWithin caret fuel rest

def ofMarked (caret : Bool) (chars : List Marked) : Pattern :=
  ofMarkedWithin caret (chars.length + 1) chars

/-- The pattern that an unquoted text is. -/
def ofText (text : String) : Pattern := ofMarked true (text.toList.map fun c => (c, false))

/-- The pattern that stands for one text. -/
def literal (chars : List Char) : Pattern := chars.map .char

/-! ## §3 Matching -/

/-- All ends of a text, the longest first. -/
def ends : List Char → List (List Char)
  | [] => [[]]
  | c :: rest => (c :: rest) :: ends rest

/-- Whether a pattern stands for a text. -/
def test : Pattern → List Char → Bool
  | [], chars => chars.isEmpty
  | .many :: rest, chars => (ends chars).any (test rest)
  | _ :: _, [] => false
  | item :: rest, c :: chars => item.accepts c && test rest chars

/-- The text without the shortest, or longest, start that a pattern stands
for. -/
def cutStart (longest : Bool) (pattern : Pattern) (chars : List Char) : List Char :=
  let lengths := List.range (chars.length + 1)
  let found := (if longest then lengths.reverse else lengths).find? fun n =>
    pattern.test (chars.take n)
  chars.drop (found.getD 0)

/-- The text without the shortest, or longest, end that a pattern stands for. -/
def cutEnd (longest : Bool) (pattern : Pattern) (chars : List Char) : List Char :=
  let lengths := List.range (chars.length + 1)
  let found := (if longest then lengths else lengths.reverse).find? fun n =>
    pattern.test (chars.drop n)
  chars.take (found.getD chars.length)

/-- How long the longest start of a text is that a pattern stands for. -/
def longestStart (pattern : Pattern) (chars : List Char) : Option Nat :=
  (List.range (chars.length + 1)).reverse.find? fun n => pattern.test (chars.take n)

/-- A text with what a pattern stands for replaced, once or everywhere. -/
def substitute (pattern : Pattern) (replacement : List Char) (everywhere : Bool) :
    Nat → List Char → List Char
  | 0, chars => chars
  | _ + 1, [] => []
  | fuel + 1, c :: rest =>
    match longestStart pattern (c :: rest) with
    | some (n + 1) =>
      let left := rest.drop n
      replacement ++ (if everywhere then substitute pattern replacement true fuel left else left)
    | _ => c :: substitute pattern replacement everywhere fuel rest

/-- A text with what a pattern stands for at its start, or end, replaced. -/
def substituteAt (atEnd : Bool) (pattern : Pattern) (replacement chars : List Char) : List Char :=
  if atEnd then
    match (List.range (chars.length + 1)).find? fun n => pattern.test (chars.drop n) with
    | some n => chars.take n ++ replacement
    | none => chars
  else
    match longestStart pattern chars with
    | some n => replacement ++ chars.drop n
    | none => chars

@[simp] theorem test_literal (chars other : List Char) :
    test (literal chars) other = decide (other = chars) := by
  induction chars generalizing other with
  | nil => cases other <;> simp [literal, test]
  | cons c rest ih =>
    cases other with
    | nil => simp [literal, test]
    | cons d other =>
      have ih' := ih other
      unfold literal at ih'
      simp only [literal, List.map_cons, test, Glob.accepts, ih', List.cons.injEq,
        Bool.decide_and]
      congr 1
      rw [Bool.eq_iff_iff, beq_iff_eq, decide_eq_true_iff]
      exact eq_comm

end Pattern

end ReleaseKit.Shell
