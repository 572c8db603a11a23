/-
ReleaseKit.Text.Expression — regular expressions.

Expressions are written in the basic or the extended way. Of all places where
an expression fits, the first one counts, and of all lengths there the longest.

  §1 Expressions  — `Regex`.
  §2 Reading      — `Regex.parse`.
  §3 Fitting      — the ends that an expression can come to from a place.
  §4 Searching    — `Regex.search`, `Regex.replace`.
-/
import ReleaseKit.Shell.Pattern

namespace ReleaseKit

/-! ## §1 Expressions -/

/-- A regular expression. -/
inductive Regex where
  | empty
  | char (c : Char)
  | any
  | oneOf (negated : Bool) (ranges : List (Char × Char))
  | seq (a b : Regex)
  | alt (a b : Regex)
  /-- at least so many times, and at most so many if there is a bound -/
  | rep (r : Regex) (least : Nat) (most : Option Nat)
  | group (number : Nat) (r : Regex)
  | start
  | finish
  | wordStart
  | wordEnd
  | wordEdge
  | wordInside
  | back (number : Nat)
deriving Repr

namespace Regex

/-! ## §2 Reading -/

/-- What has been read: the expression, the number of groups, what follows. -/
abbrev Parsed := Except String (Regex × Nat × List Char)

def wordRanges : List (Char × Char) := [('a', 'z'), ('A', 'Z'), ('0', '9'), ('_', '_')]

def blankRanges : List (Char × Char) := [('\t', '\r'), (' ', ' ')]

/-- The ranges of a bracket expression up to the bracket that closes it. -/
def readRanges : Nat → Bool → List Char → Option (List (Char × Char) × List Char)
  | 0, _, _ => none
  | _ + 1, _, [] => none
  | fuel + 1, first, c :: rest =>
    if c = ']' && !first then some ([], rest)
    else if c = '[' && rest.head? = some ':' then
      let name := (rest.drop 1).takeWhile Char.isAlpha
      match rest.drop (1 + name.length) with
      | ':' :: ']' :: after =>
        (readRanges fuel false after).map fun (ranges, left) =>
          (Shell.Glob.classRanges (String.ofList name) ++ ranges, left)
      | _ => none
    else if c = '[' && (rest.head? = some '.' || rest.head? = some '=') then
      match rest.drop 1 with
      | d :: _ :: ']' :: after =>
        (readRanges fuel false after).map fun (ranges, left) => ((d, d) :: ranges, left)
      | _ => none
    else
      match rest with
      | '-' :: d :: after =>
        if d = ']' then (readRanges fuel false rest).map fun (ranges, left) => ((c, c) :: ranges, left)
        else (readRanges fuel false after).map fun (ranges, left) => ((c, d) :: ranges, left)
      | _ => (readRanges fuel false rest).map fun (ranges, left) => ((c, c) :: ranges, left)

/-- A bracket expression behind its first bracket. -/
def readBracket (chars : List Char) : Except String (Regex × List Char) :=
  let (negated, inside) :=
    match chars with
    | '^' :: rest => (true, rest)
    | rest => (false, rest)
  match readRanges (inside.length + 1) true inside with
  | some (ranges, rest) => .ok (.oneOf negated ranges, rest)
  | none => .error "Unmatched [, [^, [:, [., or [="

/-- The bounds between braces, up to what closes them. -/
def readBounds (extended : Bool) (chars : List Char) : Option (Nat × Option Nat × List Char) :=
  let low := chars.takeWhile Char.isDigit
  let rest := chars.drop low.length
  let value (digits : List Char) : Nat := ((String.ofList digits).toNat?).getD 0
  let close (rest : List Char) : Option (List Char) :=
    match extended, rest with
    | true, '\x7d' :: left => some left
    | false, '\\' :: '\x7d' :: left => some left
    | _, _ => none
  match rest with
  | ',' :: rest =>
    let high := rest.takeWhile Char.isDigit
    (close (rest.drop high.length)).map fun left =>
      (value low, if high.isEmpty then none else some (value high), left)
  | _ =>
    if low.isEmpty then none
    else (close rest).map fun left => (value low, some (value low), left)

/-- The operator of repetition that a text starts with. -/
def readRepeat (extended : Bool) (chars : List Char) :
    Except String (Option (Nat × Option Nat × List Char)) :=
  match extended, chars with
  | _, '*' :: rest => .ok (some (0, none, rest))
  | true, '+' :: rest => .ok (some (1, none, rest))
  | true, '?' :: rest => .ok (some (0, some 1, rest))
  | true, '\x7b' :: rest => .ok (readBounds true rest)
  | false, '\\' :: '+' :: rest => .ok (some (1, none, rest))
  | false, '\\' :: '?' :: rest => .ok (some (0, some 1, rest))
  | false, '\\' :: '\x7b' :: rest =>
    match readBounds false rest with
    | some b => .ok (some b)
    | none => .error "Invalid content of \\\x7b\\\x7d"
  | _, _ => .ok none

/-- An expression with the repetitions that follow it. -/
def repeated (extended : Bool) : Nat → Regex → List Char → Except String (Regex × List Char)
  | 0, r, chars => .ok (r, chars)
  | fuel + 1, r, chars =>
    match readRepeat extended chars with
    | .error e => .error e
    | .ok none => .ok (r, chars)
    | .ok (some (least, most, rest)) => repeated extended fuel (.rep r least most) rest

/-- What a letter behind a backslash stands for. -/
def escaped (c : Char) : Regex :=
  match c with
  | 'w' => .oneOf false wordRanges
  | 'W' => .oneOf true wordRanges
  | 's' => .oneOf false blankRanges
  | 'S' => .oneOf true blankRanges
  | '<' => .wordStart
  | '>' => .wordEnd
  | 'b' => .wordEdge
  | 'B' => .wordInside
  | 'n' => .char '\n'
  | 't' => .char '\t'
  | '\x60' => .start
  | '\x27' => .finish
  | c =>
    if '1' ≤ c && c ≤ '9' then .back (c.toNat - 48) else .char c

/-- Whether a text starts with what ends a branch. -/
def endsBranch (extended : Bool) (depth : Nat) : List Char → Bool
  | [] => true
  | '|' :: _ => extended
  | ')' :: _ => extended && 0 < depth
  | '\\' :: '|' :: _ => !extended
  | '\\' :: ')' :: _ => !extended && 0 < depth
  | _ => false

mutual

/-- Branches, with the number of groups so far and how deep they stand. -/
def branches (extended : Bool) : Nat → Nat → Nat → List Char → Parsed
  | 0, _, _, _ => .error "Regular expression too big"
  | fuel + 1, depth, groups, chars =>
    match branch extended fuel depth groups true chars with
    | .error e => .error e
    | .ok (a, groups, rest) =>
      let more : Option (List Char) :=
        match extended, rest with
        | true, '|' :: left => some left
        | false, '\\' :: '|' :: left => some left
        | _, _ => none
      match more with
      | none => .ok (a, groups, rest)
      | some left =>
        match branches extended fuel depth groups left with
        | .error e => .error e
        | .ok (b, groups, rest) => .ok (.alt a b, groups, rest)

/-- A branch; `first` says that nothing of it has been read. -/
def branch (extended : Bool) : Nat → Nat → Nat → Bool → List Char → Parsed
  | 0, _, _, _, _ => .error "Regular expression too big"
  | fuel + 1, depth, groups, first, chars =>
    if endsBranch extended depth chars then .ok (.empty, groups, chars)
    else
      match atom extended fuel depth groups first chars with
      | .error e => .error e
      | .ok (r, groups, rest) =>
        let again : Bool :=
          match r with
          | .start => true
          | _ => false
        let looped :=
          if again && !extended then .ok (r, rest) else repeated extended (rest.length + 1) r rest
        match looped with
        | .error e => .error e
        | .ok (r, rest) =>
          match branch extended fuel depth groups (again && first) rest with
          | .error e => .error e
          | .ok (.empty, groups, rest) => .ok (r, groups, rest)
          | .ok (more, groups, rest) => .ok (.seq r more, groups, rest)

/-- The smallest expression that a text starts with. -/
def atom (extended : Bool) : Nat → Nat → Nat → Bool → List Char → Parsed
  | 0, _, _, _, _ => .error "Regular expression too big"
  | fuel + 1, depth, groups, first, chars =>
    let grouped (rest : List Char) : Parsed :=
      match branches extended fuel (depth + 1) (groups + 1) rest with
      | .error e => .error e
      | .ok (r, count, left) =>
        match extended, left with
        | true, ')' :: left => .ok (.group (groups + 1) r, count, left)
        | false, '\\' :: ')' :: left => .ok (.group (groups + 1) r, count, left)
        | _, _ => .error "Unmatched ( or \\("
    match chars with
    | [] => .ok (.empty, groups, [])
    | '.' :: rest => .ok (.any, groups, rest)
    | '[' :: rest => (readBracket rest).map fun (r, left) => (r, groups, left)
    | '^' :: rest =>
      if extended || first then .ok (.start, groups, rest) else .ok (.char '^', groups, rest)
    | '$' :: rest =>
      if extended || endsBranch extended depth rest then .ok (.finish, groups, rest)
      else .ok (.char '$', groups, rest)
    | '(' :: rest => if extended then grouped rest else .ok (.char '(', groups, rest)
    | '\\' :: c :: rest =>
      if c = '(' && !extended then grouped rest
      else if c = ')' && !extended then .error "Unmatched ) or \\)"
      else if c = '\x7b' && !extended then .error "Invalid preceding regular expression"
      else if '1' ≤ c && c ≤ '9' && groups < c.toNat - 48 then .error "Invalid back reference"
      else .ok (escaped c, groups, rest)
    | ['\\'] => .error "Trailing backslash"
    | c :: rest => .ok (.char c, groups, rest)

end

/-- The expression that a text is, and the number of its groups. -/
def parse (extended : Bool) (chars : List Char) : Except String (Regex × Nat) :=
  match branches extended (4 * chars.length + 8) 0 0 chars with
  | .error e => .error e
  | .ok (r, groups, rest) =>
    match rest with
    | [] => .ok (r, groups)
    | _ => .error "Unmatched ) or \\)"

/-! ## §3 Fitting -/

/-- The text that is searched, and how. -/
structure Subject where
  chars : Array Char
  /-- capital and small letters are the same -/
  folded : Bool := false
  /-- the text does not start here, or does not end here -/
  notStart : Bool := false
  notEnd : Bool := false
  /-- breaks of lines are starts and ends too -/
  lines : Bool := false

/-- How far a fit has come, and what the groups have taken. -/
structure Fit where
  place : Nat
  groups : List (Nat × Nat × Nat)

def isWord (c : Char) : Bool := c.isAlphanum || c == '_'

namespace Subject

def char? (s : Subject) (i : Nat) : Option Char := s.chars[i]?

/-- Whether there is a letter of a word before a place, and at it. -/
def around (s : Subject) (i : Nat) : Bool × Bool :=
  let before := if i = 0 then false else ((s.char? (i - 1)).map isWord).getD false
  (before, ((s.char? i).map isWord).getD false)

def same (s : Subject) (c d : Char) : Bool :=
  c == d || (s.folded && c.toLower == d.toLower)

end Subject

/-- Fits without those that come to a place where an earlier one has come. -/
def distinct : List Nat → List Fit → List Fit
  | _, [] => []
  | seen, f :: rest =>
    if seen.contains f.place then distinct seen rest else f :: distinct (f.place :: seen) rest

/-- The fits of as many repetitions as there can be, the longest first. The first
number bounds them. -/
def repeats (step : Fit → List Fit) : Nat → Nat → Option Nat → Fit → List Fit
  | 0, least, _, f => if least = 0 then [f] else []
  | fuel + 1, least, most, f =>
    let more : List Fit :=
      if most = some 0 then []
      else (step f).flatMap fun g =>
        if g.place = f.place then (if 0 < least then repeats step fuel (least - 1) (most.map (· - 1)) g else [])
        else repeats step fuel (least - 1) (most.map (· - 1)) g
    distinct [] (more ++ (if least = 0 then [f] else []))

/-- The ends that an expression can come to, the preferred one first. -/
def fits (s : Subject) : Regex → Fit → List Fit
  | .empty, f => [f]
  | .char c, f =>
    match s.char? f.place with
    | some d => if s.same c d then [{ f with place := f.place + 1 }] else []
    | none => []
  | .any, f =>
    match s.char? f.place with
    | some _ => [{ f with place := f.place + 1 }]
    | none => []
  | .oneOf negated ranges, f =>
    match s.char? f.place with
    | some d =>
      let inside (c : Char) : Bool := ranges.any fun (low, high) => low ≤ c && c ≤ high
      let found := inside d || (s.folded && (inside d.toLower || inside d.toUpper))
      if found != negated then [{ f with place := f.place + 1 }] else []
    | none => []
  | .seq a b, f => distinct [] ((fits s a f).flatMap (fits s b))
  | .alt a b, f => distinct [] (fits s a f ++ fits s b f)
  | .rep r least most, f => repeats (fits s r) (s.chars.size + least + 2) least most f
  | .group n r, f =>
    (fits s r f).map fun g =>
      { g with groups := (n, f.place, g.place) :: g.groups.filter fun (m, _) => m != n }
  | .start, f =>
    if (f.place = 0 && !s.notStart) || (s.lines && 0 < f.place && s.char? (f.place - 1) == some '\n')
    then [f] else []
  | .finish, f =>
    if (f.place = s.chars.size && !s.notEnd) || (s.lines && s.char? f.place == some '\n') then [f]
    else []
  | .wordStart, f => if s.around f.place == (false, true) then [f] else []
  | .wordEnd, f => if s.around f.place == (true, false) then [f] else []
  | .wordEdge, f =>
    let (a, b) := s.around f.place
    if a != b then [f] else []
  | .wordInside, f =>
    let (a, b) := s.around f.place
    if a == b then [f] else []
  | .back n, f =>
    match f.groups.find? fun (m, _) => m == n with
    | some (_, low, high) =>
      let count := high - low
      let equal := (List.range count).all fun i =>
        match s.char? (low + i), s.char? (f.place + i) with
        | some c, some d => s.same c d
        | _, _ => false
      if equal then [{ f with place := f.place + count }] else []
    | none => []

/-! ## §4 Searching -/

/-- Where an expression was found: from, to, and what its groups have taken. -/
structure Found where
  first : Nat
  last : Nat
  groups : List (Nat × Nat × Nat)

/-- The longest fit from a place. -/
def fitAt (s : Subject) (r : Regex) (place : Nat) : Option Found :=
  let longest := (fits s r ⟨place, []⟩).foldl (fun (best : Option Fit) f =>
    match best with
    | some b => if b.place < f.place then some f else best
    | none => some f) none
  longest.map fun f => ⟨place, f.place, f.groups⟩

/-- The first place from one on where an expression fits; the number bounds the
places. -/
def searchWithin (s : Subject) (r : Regex) : Nat → Nat → Option Found
  | 0, _ => none
  | fuel + 1, place =>
    match fitAt s r place with
    | some found => some found
    | none => if place < s.chars.size then searchWithin s r fuel (place + 1) else none

def search (s : Subject) (r : Regex) (place : Nat) : Option Found :=
  searchWithin s r (s.chars.size + 1 - place) place

/-- Whether an expression fits anywhere in a text. -/
def occurs (r : Regex) (folded : Bool) (text : String) : Bool :=
  (search { chars := text.toList.toArray, folded } r 0).isSome

/-- The characters from one place to another. -/
def Subject.part (s : Subject) (first last : Nat) : List Char :=
  (s.chars.extract first last).toList

/-- What a group has taken. -/
def Found.group (f : Found) (s : Subject) (n : Nat) : List Char :=
  if n = 0 then s.part f.first f.last
  else
    match f.groups.find? fun (m, _) => m == n with
    | some (_, low, high) => s.part low high
    | none => []

/-- A text with what fits replaced, from the so-manieth place on, there only or
everywhere after it; and how often it was. -/
def replaceWithin (s : Subject) (r : Regex) (nth : Nat) (everywhere : Bool)
    (replacement : Found → List Char) : Nat → Nat → Nat → Option Nat → List Char × Nat
  | 0, _, place, _ => (s.part place s.chars.size, 0)
  | fuel + 1, count, place, lastEnd =>
    match search s r place with
    | none => (s.part place s.chars.size, 0)
    | some f =>
      -- an empty fit right behind the last one does not count
      if f.first = f.last && lastEnd = some f.first then
        if f.first < s.chars.size then
          let (more, n) := replaceWithin s r nth everywhere replacement fuel count (f.first + 1) none
          (s.part place (f.first + 1) ++ more, n)
        else (s.part place s.chars.size, 0)
      else
        let hit := count + 1 = nth || (everywhere && nth ≤ count + 1)
        let here := if hit then replacement f else s.part f.first f.last
        let before := s.part place f.first
        if hit && !everywhere then (before ++ here ++ s.part f.last s.chars.size, 1)
        else if f.first = f.last then
          if f.first < s.chars.size then
            let (more, n) := replaceWithin s r nth everywhere replacement fuel (count + 1) (f.first + 1) none
            (before ++ here ++ s.part f.first (f.first + 1) ++ more, n + (if hit then 1 else 0))
          else (before ++ here, if hit then 1 else 0)
        else
          let (more, n) :=
            replaceWithin s r nth everywhere replacement fuel (count + 1) f.last (some f.last)
          (before ++ here ++ more, n + (if hit then 1 else 0))

/-- A text with what fits replaced, and how often it was. -/
def replace (s : Subject) (r : Regex) (nth : Nat) (everywhere : Bool)
    (replacement : Found → List Char) : List Char × Nat :=
  replaceWithin s r nth everywhere replacement (2 * s.chars.size + 4) 0 0 none

end Regex

end ReleaseKit
