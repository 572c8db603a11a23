/-
ReleaseKit.Utility.Matching — looking for lines.

  §1 Patterns  — what a line has to hold: `Needle`.
  §2 Files     — the lines of a file that are shown.
  §3 Programs  — `grep` and its relatives.
-/
import ReleaseKit.Text.Expression
import ReleaseKit.Utility.Finding

namespace ReleaseKit.Utility

/-! ## §1 Patterns -/

/-- What is looked for in a line. -/
inductive Needle where
  | text (chars : List Char)
  | expression (r : Regex)

/-- How a pattern is written. -/
inductive PatternKind where
  | basic
  | extended
  | fixed
deriving DecidableEq, Repr

/-- An expression of the richer kind, with the classes that the others do not have
written out. -/
def plainClasses : List Char → List Char
  | '\\' :: 'd' :: rest => "[0-9]".toList ++ plainClasses rest
  | '\\' :: 'D' :: rest => "[^0-9]".toList ++ plainClasses rest
  | '\\' :: c :: rest => '\\' :: c :: plainClasses rest
  | '(' :: '?' :: ':' :: rest => '(' :: plainClasses rest
  | c :: rest => c :: plainClasses rest
  | [] => []

/-- The needles that a text of patterns describes, one a line. -/
def readNeedles (kind : PatternKind) (text : String) : Except String (List Needle) :=
  ((splitAtChar '\n' text.toList)).mapM fun chars =>
    if kind = .fixed then .ok (.text chars)
    else (Regex.parse (kind == .extended) chars).map fun (r, _) => .expression r

/-- Whether a text stands at a place. -/
def standsAt (s : Regex.Subject) : Nat → List Char → Bool
  | _, [] => true
  | i, c :: rest =>
    match s.char? i with
    | some d => s.same c d && standsAt s (i + 1) rest
    | none => false

/-- The ends to which a needle fits from a place, the longest first. -/
def Needle.endsAt (n : Needle) (s : Regex.Subject) (place : Nat) : List Nat :=
  match n with
  | .text chars => if standsAt s place chars then [place + chars.length] else []
  | .expression r =>
    ((Regex.fits s r ⟨place, []⟩).map (·.place)).mergeSort fun a b => b ≤ a

/-- How a fit has to stand in its line. -/
structure Fitting where
  words : Bool
  whole : Bool

/-- The longest fit of needles from a place. -/
def fitFrom (f : Fitting) (needles : List Needle) (s : Regex.Subject) (place : Nat) : Option Nat :=
  let inWord (i : Nat) : Bool := ((s.char? i).map Regex.isWord).getD false
  let fine (stop : Nat) : Bool :=
    (!f.whole || (place = 0 && stop = s.chars.size)) &&
      (!f.words || f.whole || (!(0 < place && inWord (place - 1)) && !inWord stop))
  needles.foldl (fun best n =>
    match (n.endsAt s place).find? fine, best with
    | some stop, some other => some (max stop other)
    | some stop, none => some stop
    | none, best => best) none

/-- The first fit of needles from a place on; the first number bounds the places. -/
def nextFit (f : Fitting) (needles : List Needle) (s : Regex.Subject) : Nat → Nat → Option (Nat × Nat)
  | 0, _ => none
  | fuel + 1, place =>
    match fitFrom f needles s place with
    | some stop => some (place, stop)
    | none => if place < s.chars.size then nextFit f needles s fuel (place + 1) else none

/-- All fits of needles, none of them empty. -/
def allFits (f : Fitting) (needles : List Needle) (s : Regex.Subject) : Nat → Nat → List (Nat × Nat)
  | 0, _ => []
  | fuel + 1, place =>
    match nextFit f needles s (s.chars.size + 1 - place) place with
    | none => []
    | some (a, b) =>
      if a = b then (if a < s.chars.size then allFits f needles s fuel (a + 1) else [])
      else (a, b) :: allFits f needles s fuel b

/-! ## §2 Files -/

/-- What has been asked for. -/
structure Search where
  needles : List Needle
  fitting : Fitting
  folded : Bool
  o : Options
  before : Nat
  after : Nat
  limit : Option Nat
  /-- whether names are shown -/
  named : Bool

namespace Search

/-- Whether a line is one of those looked for. -/
def selects (s : Search) (line : String) : Bool :=
  let subject : Regex.Subject := { chars := line.toList.toArray, folded := s.folded }
  (nextFit s.fitting s.needles subject (subject.chars.size + 1) 0).isSome != s.o.has 'v'

/-- What stands before a line that is shown. -/
def label (s : Search) (name : String) (number offset : Nat) (mark : String) : String :=
  (if s.named then name ++ mark else "") ++
    (if s.o.has 'n' then toString number ++ mark else "") ++
    (if s.o.has 'b' then toString offset ++ mark else "")

/-- What is shown of a line that is looked for. -/
def selected (s : Search) (name : String) (number offset : Nat) (line : String) : String :=
  if s.o.has 'o' then
    if s.o.has 'v' then ""
    else
      let subject : Regex.Subject := { chars := line.toList.toArray, folded := s.folded }
      String.join ((allFits s.fitting s.needles subject (subject.chars.size + 1) 0).map
        fun (a, b) => s.label name number (offset + a) ":" ++ String.ofList (subject.part a b) ++ "\n")
  else s.label name number offset ":" ++ line ++ "\n"

/-- How far the showing of a file has come. -/
structure Progress where
  count : Nat := 0
  /-- the number of the last line shown -/
  shown : Nat := 0
  /-- how many lines are still shown for the last one found -/
  due : Nat := 0
  /-- the last lines that were not shown, the last of them first -/
  held : List (Nat × Nat × String) := []
  output : Array String := #[]

/-- Takes one line into account. -/
def step (s : Search) (name : String) (p : Progress) (number offset : Nat) (line : String) : Progress :=
  let full := s.limit.any (· ≤ p.count)
  if !full && s.selects line then
    let held := (p.held.take s.before).reverse
    let first := (held.head?.map (·.1)).getD number
    let gap := 0 < s.before + s.after && 0 < p.shown && p.shown + 1 < first
    let earlier := held.map fun (n, place, text) => s.label name n place "-" ++ text ++ "\n"
    { p with
      count := p.count + 1
      shown := number
      due := s.after
      held := []
      output := (p.output ++ (if gap then #["--\n"] else #[])) ++
        (if s.o.has 'o' then #[] else earlier.toArray) |>.push (s.selected name number offset line) }
  else if 0 < p.due then
    { p with
      shown := number
      due := p.due - 1
      held := []
      output := if s.o.has 'o' then p.output
        else p.output.push (s.label name number offset "-" ++ line ++ "\n") }
  else { p with held := ((number, offset, line) :: p.held).take s.before }

/-- Goes through the lines of a text. -/
def scan (s : Search) (name : String) (lines : List String) : Progress :=
  (lines.foldl (fun (state : Progress × Nat × Nat) line =>
    let (p, number, offset) := state
    (s.step name p number offset line, number + 1, offset + line.length + 1)) ({}, 1, 0)).1

/-- Searches one text, and says whether a line was found. -/
def file (call : Call) (s : Search) (name text : String) : Task Bool := do
  let p := s.scan name (linesOf text)
  let found := 0 < p.count
  if s.o.has 'q' then return found
  else if s.o.has 'l' then
    if found then Task.say (name ++ "\n")
    return found
  else if s.o.has 'L' then
    if !found then Task.say (name ++ "\n")
    return !found
  else if s.o.has 'c' then
    Task.say ((if s.named then name ++ ":" else "") ++ toString p.count ++ "\n")
    return found
  else if found && text.toList.contains '\x00' && !s.o.has 'a' then
    call.say (name ++ ": binary file matches")
    return true
  else
    let text := String.join p.output.toList
    if text != "" then Task.say text
    return found

/-- The files of a tree that are to be searched. -/
def filesBelow (keep : String → Bool) (keepDir : String → Bool) : Nat → String → Location →
    Task (List String)
  | 0, _, _ => return []
  | fuel + 1, path, l => do
    let mut found := []
    for (name, e) in (← Task.disk).children l do
      let raw := Raw.ofName name
      let below := if path = "" then raw else Loading.inDirectory path raw
      match e with
      | .dir _ _ =>
        if keepDir raw then
          found := found ++ (← filesBelow keep keepDir fuel below (name :: l))
      | .file _ => if keep raw then found := found ++ [below]
      | _ => pure ()
    return found

end Search

/-! ## §3 Programs -/

/-- Arguments in which a number after a dash is written as an option for context. -/
def contextArguments (args : List String) : List String :=
  args.map fun a =>
    match a.toList with
    | '-' :: c :: cs => if (c :: cs).all Char.isDigit then "-C" ++ String.ofList (c :: cs) else a
    | _ => a

/-- The program that looks for lines, for patterns of a kind. -/
def grepWith (kind : PatternKind) : Utility := fun call =>
  match Options.read "EFGPiyvclLnoqswxrRhHe:f:m:A:B:C:abzTUuZd:D:\x01:\x02:\x03:\x04::" [
      ("extended-regexp", 'E'), ("fixed-strings", 'F'), ("basic-regexp", 'G'), ("perl-regexp", 'P'),
      ("ignore-case", 'i'), ("invert-match", 'v'), ("count", 'c'), ("files-with-matches", 'l'),
      ("files-without-match", 'L'), ("line-number", 'n'), ("only-matching", 'o'), ("quiet", 'q'),
      ("silent", 'q'), ("no-messages", 's'), ("word-regexp", 'w'), ("line-regexp", 'x'),
      ("recursive", 'r'), ("no-filename", 'h'), ("with-filename", 'H'), ("regexp", 'e'), ("file", 'f'),
      ("max-count", 'm'), ("after-context", 'A'), ("before-context", 'B'), ("context", 'C'),
      ("text", 'a'), ("byte-offset", 'b'), ("include", '\x01'), ("exclude", '\x02'),
      ("exclude-dir", '\x03'), ("color", '\x04'), ("colour", '\x04')] true
      (contextArguments call.args) with
  | .error e => do
    call.say e
    Task.complain ("Usage: " ++ call.name ++ " [OPTION]... PATTERNS [FILE]...")
    Task.complain ("Try '" ++ call.name ++ " --help' for more information.")
    return 2
  | .ok o => do
    let kind := ((o.given.reverse.filterMap fun (c, _) =>
      [('E', PatternKind.extended), ('F', .fixed), ('G', .basic), ('P', .extended)].lookup c).head?).getD kind
    let mut texts := o.given.filterMap fun (c, v) => if c == 'e' then some v else none
    for (c, path) in o.given do
      if c == 'f' then
        match ← call.readFile path with
        | .ok text =>
          texts := texts ++ (if text = "" then [] else [String.intercalate "\n" (linesOf text)])
        | .error fault => return ← call.fail (path ++ ": " ++ fault.reason) 2
    let given := o.has 'e' || o.has 'f'
    match given, o.operands with
    | false, [] =>
      Task.complain ("Usage: " ++ call.name ++ " [OPTION]... PATTERNS [FILE]...")
      Task.complain ("Try '" ++ call.name ++ " --help' for more information.")
      return 2
    | _, operands =>
      let patterns := if given then texts else operands.take 1
      let paths := if given then operands else operands.drop 1
      let patterns := if o.has 'P' then patterns.map fun p => String.ofList (plainClasses p.toList)
        else patterns
      match patterns.mapM (readNeedles kind) with
      | .error e => call.fail e 2
      | .ok needles =>
        let number (c : Char) : Option Nat := (o.value? c).bind String.toNat?
        let around := (number 'C').getD 0
        let recursive := o.has 'r' || o.has 'R'
        let globs (c : Char) : List String :=
          o.given.filterMap fun (d, v) => if d == c then some v else none
        let keep (name : String) : Bool :=
          ((globs '\x01').isEmpty || (globs '\x01').any fun g => Quest.fitsPattern false g name) &&
            !(globs '\x02').any fun g => Quest.fitsPattern false g name
        let keepDir (name : String) : Bool :=
          !(globs '\x03').any fun g => Quest.fitsPattern false g name
        let search : Search := {
          needles := needles.flatten
          fitting := ⟨o.has 'w', o.has 'x'⟩
          folded := o.has 'i' || o.has 'y'
          o
          before := (number 'B').getD around
          after := (number 'A').getD around
          limit := number 'm'
          named := (o.has 'H' || recursive || 1 < paths.length) && !o.has 'h' }
        let mut found := false
        let mut failed := false
        let starts := if paths.isEmpty then (if recursive then [""] else ["-"]) else paths
        let mut files := #[]
        for path in starts do
          if recursive && path != "-" then
            match ← Task.entryAt (if path = "" then "." else path) false with
            | some (l, .dir _ _) =>
              files := files ++ (← Search.filesBelow keep keepDir LinkedTree.deepest path l).toArray
            | _ => files := files.push path
          else files := files.push path
        for path in files do
          match ← call.readFile path with
          | .error fault =>
            if !o.has 's' then call.say (path ++ ": " ++ fault.reason)
            failed := true
          | .ok text =>
            let name := if path = "-" then "(standard input)" else path
            if ← search.file call name text then found := true
            if found && o.has 'q' then return 0
        return if failed then 2 else if found then 0 else 1

def grep : Utility := grepWith .basic
def egrep : Utility := grepWith .extended
def fgrep : Utility := grepWith .fixed

end ReleaseKit.Utility
