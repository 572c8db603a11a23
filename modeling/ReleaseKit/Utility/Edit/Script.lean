/-
ReleaseKit.Utility.Edit.Script — the scripts of the stream editor.

A script is a list of commands, each for the lines that its addresses choose.
Blocks are written with braces, and read as jumps.

  §1 Commands   — `Edit.Command`.
  §2 Pieces     — expressions, replacements, labels and names.
  §3 Addresses  — which lines.
  §4 Scripts    — `Edit.readScript`.
-/
import ReleaseKit.Text.Expression
import ReleaseKit.Utility.Columns

namespace ReleaseKit.Utility.Edit

/-! ## §1 Commands -/

/-- An expression to look for; nothing stands for the one that was used last. -/
abbrev Search := Option Regex × Bool × Bool

/-- Which line an address is about. -/
inductive Address where
  | line (n : Nat)
  | last
  /-- from one line on, each so-manieth -/
  | step (first every : Nat)
  | fits (s : Search)
  /-- so many lines behind the first -/
  | plus (n : Nat)
  /-- up to the next line with a number that so many divides -/
  | multiple (n : Nat)

/-- A piece of what a match is replaced with. -/
inductive Piece where
  | text (chars : List Char)
  | group (n : Nat)
  /-- letters from here on are made large or small; `once` is for the next one only -/
  | upper (once : Bool)
  | lower (once : Bool)
  | plain

/-- How a replacement is done. -/
structure Replace where
  search : Search
  pieces : List Piece
  everywhere : Bool
  nth : Nat
  prints : Bool
  file : Option String
  /-- the result is run as a command -/
  runs : Bool

/-- What a command does. -/
inductive Action where
  | open (finish : Nat)
  | close
  | label
  | number
  | append (text : String)
  | insert (text : String)
  | change (text : String)
  | jump (label : String)
  | jumpIf (label : String)
  | jumpUnless (label : String)
  | delete
  | deleteFirst
  | get
  | getMore
  | hold
  | holdMore
  | show1
  | next
  | nextMore
  | print
  | printFirst
  | quit (code : Nat)
  | quitSilently (code : Nat)
  | read (path : String)
  | readLine (path : String)
  | replace (r : Replace)
  | write (path : String)
  | writeFirst (path : String)
  | exchange
  | translate (pairs : List (Char × Char))
  | empty
  | name

/-- A command, and the lines that it is for. -/
structure Command where
  first : Option Address
  second : Option Address
  negated : Bool
  action : Action

/-- A script: its commands, and where its labels stand. -/
structure Script where
  commands : Array Command
  labels : List (String × Nat)

/-! ## §2 Pieces -/

/-- The text of an expression with breaks and tabs in place of what stands for them. -/
def unescapeBreaks (delimiter : Char) : List Char → List Char
  | '\\' :: 'n' :: rest => '\n' :: unescapeBreaks delimiter rest
  | '\\' :: 't' :: rest => '\t' :: unescapeBreaks delimiter rest
  | '\\' :: c :: rest =>
    if c = delimiter && c != '/' then c :: unescapeBreaks delimiter rest
    else if c = '/' then '/' :: unescapeBreaks delimiter rest
    else '\\' :: c :: unescapeBreaks delimiter rest
  | c :: rest => c :: unescapeBreaks delimiter rest
  | [] => []

/-- The text up to a delimiter that no backslash stands before, and what follows. -/
def upTo (delimiter : Char) : List Char → Option (List Char × List Char)
  | [] => none
  | '\\' :: c :: rest => (upTo delimiter rest).map fun (taken, left) => ('\\' :: c :: taken, left)
  | c :: rest =>
    if c = delimiter then some ([], rest)
    else (upTo delimiter rest).map fun (taken, left) => (c :: taken, left)

/-- The length of a bracket expression behind its first bracket, if it is closed. -/
def bracketLength (chars : List Char) : Option Nat :=
  let mark := match chars with
    | '^' :: _ => 1
    | _ => 0
  (Regex.readBracket chars).toOption.bind fun (_, left) =>
    if (chars.drop mark).isEmpty then none else some (chars.length - left.length)

/-- The text of an expression up to a delimiter; in brackets the delimiter does not
count. The first number bounds the steps. -/
def searchUpTo (delimiter : Char) : Nat → List Char → Option (List Char × List Char)
  | 0, _ => none
  | _ + 1, [] => none
  | fuel + 1, '\\' :: c :: rest =>
    (searchUpTo delimiter fuel rest).map fun (taken, left) => ('\\' :: c :: taken, left)
  | fuel + 1, c :: rest =>
    if c = delimiter then some ([], rest)
    else
      let inside := if c = '[' then ((bracketLength rest).map rest.take).getD [] else []
      let closed := if inside.contains '\n' then [] else inside
      (searchUpTo delimiter fuel (rest.drop closed.length)).map fun (taken, left) =>
        (c :: closed ++ taken, left)

/-- An expression as it is written. -/
def readSearch (extended : Bool) (delimiter : Char) (chars : List Char) (folded lines : Bool) :
    Except String Search :=
  if chars.isEmpty then .ok (none, folded, lines)
  else
    (Regex.parse extended (unescapeBreaks delimiter chars)).map fun (r, _) =>
      (some r, folded, lines)

/-- The pieces of a replacement. -/
def readPieces (delimiter : Char) : List Char → List Piece
  | [] => []
  | '&' :: rest => .group 0 :: readPieces delimiter rest
  | '\\' :: c :: rest =>
    let piece : Piece :=
      if c.isDigit then .group (c.toNat - 48)
      else
        match c with
        | 'n' => .text ['\n']
        | 't' => .text ['\t']
        | 'r' => .text ['\r']
        | 'f' => .text ['\x0c']
        | 'v' => .text ['\x0b']
        | 'a' => .text ['\x07']
        | 'U' => .upper false
        | 'L' => .lower false
        | 'u' => .upper true
        | 'l' => .lower true
        | 'E' => .plain
        | c => .text [c]
    piece :: readPieces delimiter rest
  | c :: rest => .text [c] :: readPieces delimiter rest

/-- The flags of a replacement, and what follows them. -/
def readFlags : Nat → Replace × Bool × Bool → List Char →
    Except String (Replace × Bool × Bool × List Char)
  | 0, (r, folded, lines), chars => .ok (r, folded, lines, chars)
  | fuel + 1, (r, folded, lines), chars =>
    match chars with
    | 'g' :: rest => readFlags fuel ({ r with everywhere := true }, folded, lines) rest
    | 'p' :: rest => readFlags fuel ({ r with prints := true }, folded, lines) rest
    | 'i' :: rest => readFlags fuel (r, true, lines) rest
    | 'I' :: rest => readFlags fuel (r, true, lines) rest
    | 'm' :: rest => readFlags fuel (r, folded, true) rest
    | 'M' :: rest => readFlags fuel (r, folded, true) rest
    | 'e' :: rest => readFlags fuel ({ r with runs := true }, folded, lines) rest
    | 'w' :: rest =>
      let line := rest.takeWhile (· != '\n')
      let path := String.ofList (line.dropWhile (· == ' '))
      if path = "" then .error "missing filename in r/R/w/W commands"
      else .ok ({ r with file := some path }, folded, lines, rest.drop line.length)
    | c :: _ =>
      if c.isDigit then
        let digits := chars.takeWhile Char.isDigit
        let n := Amount.ofDigits 10 digits
        if n = 0 then .error "number option to \x60s' command may not be zero"
        else readFlags fuel ({ r with nth := n }, folded, lines) (chars.drop digits.length)
      else if [' ', '\t', '\n', ';', '\x7d', '#', '\r'].contains c then .ok (r, folded, lines, chars)
      else .error "unknown option to \x60s'"
    | [] => .ok (r, folded, lines, [])

/-- The text that a command adds: up to a break without a backslash before it. -/
def readText : List Char → List Char × List Char
  | [] => ([], [])
  | '\\' :: c :: rest =>
    let (text, left) := readText rest
    (c :: text, left)
  | '\n' :: rest => ([], rest)
  | c :: rest =>
    let (text, left) := readText rest
    (c :: text, left)

/-- The text behind `a`, `i` or `c`, in either of the forms in which it is written. -/
def readAdded (chars : List Char) : Except String (String × List Char) :=
  let isBlank (c : Char) : Bool := c == ' ' || c == '\t'
  let rest := chars.dropWhile isBlank
  match rest with
  | [] => .error "expected \\ after \x60a', \x60c' or \x60i'"
  | '\\' :: more =>
    let behind := more.dropWhile isBlank
    let body := match behind with
      | '\n' :: lines => lines
      | _ => behind
    let (text, left) := readText body
    if body.isEmpty && behind.isEmpty then .error "expected \\ after \x60a', \x60c' or \x60i'"
    else .ok (String.ofList text ++ "\n", left)
  | _ =>
    let (text, left) := readText rest
    .ok (String.ofList text ++ "\n", left)

/-- A word up to a blank, a semicolon or a break. -/
def readLabel (chars : List Char) : String × List Char :=
  let rest := chars.dropWhile fun c => c == ' ' || c == '\t'
  let word := rest.takeWhile fun c => !(['\n', ';', ' ', '\t', '\x7d'].contains c)
  (String.ofList word, rest.drop word.length)

/-- A name of a file, up to a break. -/
def readPath (chars : List Char) : Except String (String × List Char) :=
  let rest := chars.dropWhile fun c => c == ' ' || c == '\t'
  let word := rest.takeWhile (· != '\n')
  if word.isEmpty then .error "missing filename in r/R/w/W commands"
  else .ok (String.ofList word, rest.drop word.length)

/-- A number, if one comes next. -/
def readNumber (chars : List Char) : Option Nat × List Char :=
  let rest := chars.dropWhile fun c => c == ' ' || c == '\t'
  let digits := rest.takeWhile Char.isDigit
  if digits.isEmpty then (none, rest) else (some (Amount.ofDigits 10 digits), rest.drop digits.length)

/-- The text of one side of a translation, without its backslashes. -/
def plainSide (delimiter : Char) : List Char → List Char
  | '\\' :: 'n' :: rest => '\n' :: plainSide delimiter rest
  | '\\' :: 't' :: rest => '\t' :: plainSide delimiter rest
  | '\\' :: c :: rest =>
    if c = '\\' || c = delimiter then c :: plainSide delimiter rest
    else '\\' :: c :: plainSide delimiter rest
  | c :: rest => c :: plainSide delimiter rest
  | [] => []

/-! ## §3 Addresses -/

/-- An address, if one comes next. -/
def readAddress (extended : Bool) (second : Bool) (chars : List Char) :
    Except String (Option Address × List Char) :=
  let flags (rest : List Char) : Bool × Bool × List Char :=
    match rest with
    | 'I' :: 'M' :: r => (true, true, r)
    | 'M' :: 'I' :: r => (true, true, r)
    | 'I' :: r => (true, false, r)
    | 'M' :: r => (false, true, r)
    | r => (false, false, r)
  let search (delimiter : Char) (rest : List Char) : Except String (Option Address × List Char) :=
    match searchUpTo delimiter (rest.length + 1) rest with
    | none => .error "unterminated address regex"
    | some (text, left) =>
      let (folded, lines, left) := flags left
      (readSearch extended delimiter text folded lines).map fun s => (some (.fits s), left)
  match chars with
  | '$' :: rest => .ok (some .last, rest)
  | '/' :: rest => search '/' rest
  | '\\' :: c :: rest => search c rest
  | '+' :: rest =>
    if second then
      match readNumber rest with
      | (some n, left) => .ok (some (.plus n), left)
      | (none, _) => .error "expected number"
    else .ok (none, chars)
  | '~' :: rest =>
    if second then
      match readNumber rest with
      | (some n, left) => .ok (some (.multiple n), left)
      | (none, _) => .error "expected number"
    else .ok (none, chars)
  | c :: _ =>
    if c.isDigit then
      match readNumber chars with
      | (some n, '~' :: rest) =>
        let (every, left) := readNumber rest
        .ok (some (.step n (every.getD 0)), left)
      | (some n, left) => .ok (some (.line n), left)
      | (none, left) => .ok (none, left)
    else .ok (none, chars)
  | [] => .ok (none, [])

/-! ## §4 Scripts -/

/-- What a letter without more behind it does. -/
def simpleAction? (letter : Char) : Option Action :=
  match letter with
  | '=' => some .number
  | 'd' => some .delete
  | 'D' => some .deleteFirst
  | 'g' => some .get
  | 'G' => some .getMore
  | 'h' => some .hold
  | 'H' => some .holdMore
  | 'n' => some .next
  | 'N' => some .nextMore
  | 'p' => some .print
  | 'P' => some .printFirst
  | 'x' => some .exchange
  | 'z' => some .empty
  | 'F' => some .name
  | _ => none

/-- The action that a letter begins, and what follows it. -/
def readAction (extended : Bool) (letter : Char) (rest : List Char) :
    Except String (Action × List Char) :=
  match simpleAction? letter with
  | some action => .ok (action, rest)
  | none =>
    match letter with
    | 'a' => (readAdded rest).map fun (text, left) => (.append text, left)
    | 'i' => (readAdded rest).map fun (text, left) => (.insert text, left)
    | 'c' => (readAdded rest).map fun (text, left) => (.change text, left)
    | 'b' => let (word, left) := readLabel rest; .ok (.jump word, left)
    | 't' => let (word, left) := readLabel rest; .ok (.jumpIf word, left)
    | 'T' => let (word, left) := readLabel rest; .ok (.jumpUnless word, left)
    | 'q' => let (n, left) := readNumber rest; .ok (.quit (n.getD 0), left)
    | 'Q' => let (n, left) := readNumber rest; .ok (.quitSilently (n.getD 0), left)
    | 'l' => let (_, left) := readNumber rest; .ok (.show1, left)
    | 'v' => let (_, left) := readLabel rest; .ok (.label, left)
    | 'r' => (readPath rest).map fun (path, left) => (.read path, left)
    | 'R' => (readPath rest).map fun (path, left) => (.readLine path, left)
    | 'w' => (readPath rest).map fun (path, left) => (.write path, left)
    | 'W' => (readPath rest).map fun (path, left) => (.writeFirst path, left)
    | 's' =>
      match rest with
      | [] => .error "unterminated \x60s' command"
      | delimiter :: more =>
        match searchUpTo delimiter (more.length + 1) more with
        | none => .error "unterminated \x60s' command"
        | some (pattern, more) =>
          match upTo delimiter more with
          | none => .error "unterminated \x60s' command"
          | some (replacement, more) =>
            let start : Replace :=
              ⟨(none, false, false), readPieces delimiter replacement, false, 1, false, none, false⟩
            match readFlags (more.length + 1) (start, false, false) more with
            | .error e => .error e
            | .ok (r, folded, lines, left) =>
              match readSearch extended delimiter pattern folded lines with
              | .error e => .error e
              | .ok search => .ok (.replace { r with search }, left)
    | 'y' =>
      match rest with
      | [] => .error "unterminated \x60y' command"
      | delimiter :: more =>
        match upTo delimiter more with
        | none => .error "unterminated \x60y' command"
        | some (old, more) =>
          match upTo delimiter more with
          | none => .error "unterminated \x60y' command"
          | some (new, left) =>
            let (s, t) := (plainSide delimiter old, plainSide delimiter new)
            if s.length != t.length then
              .error "strings for \x60y' command are different lengths"
            else .ok (.translate (s.zip t), left)
    | c => .error ("unknown command: \x60" ++ String.singleton c ++ "'")

/-- Whether a letter needs the whole line, so that nothing ends it. -/
def takesLine (letter : Char) : Bool := ['a', 'i', 'c', 'r', 'R', 'w', 'W'].contains letter

/-- What may stand behind a command. -/
def endCommand (chars : List Char) : Except String (List Char) :=
  let rest := chars.dropWhile fun c => c == ' ' || c == '\t' || c == '\r'
  match rest with
  | [] => .ok []
  | ';' :: r => .ok r
  | '\n' :: r => .ok r
  | '\x7d' :: _ => .ok rest
  | '#' :: _ => .ok rest
  | _ => .error "extra characters after command"

/-- The commands of a text, with the places of the blocks that are open. -/
def readCommands (extended : Bool) :
    Nat → Script → List Nat → List Char → Except String Script
  | 0, s, _, _ => .ok s
  | fuel + 1, s, opened, chars =>
    let rest := chars.dropWhile fun c => c == ' ' || c == '\t' || c == ';' || c == '\n'
    match rest with
    | [] => if opened.isEmpty then .ok s else .error "unmatched \x60\x7b'"
    | '#' :: more => readCommands extended fuel s opened (more.dropWhile (· != '\n'))
    | _ =>
      let isBlank (c : Char) : Bool := c == ' ' || c == '\t'
      match readAddress extended false rest with
      | .error e => .error e
      | .ok (first, rest) =>
        let pair : Except String (Option Address × List Char) :=
          match rest.dropWhile isBlank with
          | ',' :: more =>
            if first.isNone then .error "unexpected \x60,'"
            else
              match readAddress extended true (more.dropWhile isBlank) with
              | .ok (none, _) => .error "unexpected \x60,'"
              | other => other
          | more => .ok (none, more)
        match pair with
        | .error e => .error e
        | .ok (second, rest) =>
          let rest := rest.dropWhile isBlank
          let negated := rest.head? == some '!'
          let rest := rest.dropWhile fun c => c == '!' || isBlank c
          let add (action : Action) : Script :=
            { s with commands := s.commands.push ⟨first, second, negated, action⟩ }
          match rest with
          | [] => .error "missing command"
          | '\x7b' :: more =>
            readCommands extended fuel (add (.open 0)) (s.commands.size :: opened) more
          | '\x7d' :: more =>
            match opened with
            | [] => .error "unexpected \x60\x7d'"
            | place :: others =>
              if first.isSome then .error "\x7d doesn't want any addresses"
              else
                let closed := add .close
                let filled := closed.commands.modify place fun c =>
                  { c with action := .open s.commands.size }
                match endCommand more with
                | .error e => .error e
                | .ok more => readCommands extended fuel { closed with commands := filled } others more
          | ':' :: more =>
            let word := (more.dropWhile isBlank).takeWhile fun c => c != '\n' && c != ';'
            let name := String.ofList (word.reverse.dropWhile isBlank).reverse
            if first.isSome then .error ": doesn't want any addresses"
            else if name = "" then .error "\":\" lacks a label"
            else
              readCommands extended fuel
                { add .label with labels := (name, s.commands.size) :: s.labels }
                opened ((more.dropWhile isBlank).drop word.length)
          | letter :: more =>
            match readAction extended letter more with
            | .error e => .error e
            | .ok (action, left) =>
              if takesLine letter then readCommands extended fuel (add action) opened left
              else
                match endCommand left with
                | .error e => .error e
                | .ok left => readCommands extended fuel (add action) opened left

/-- The label that an action jumps to. -/
def Action.target? : Action → Option String
  | jump l => some l
  | jumpIf l => some l
  | jumpUnless l => some l
  | _ => none

/-- The script that a text is. -/
def readScript (extended : Bool) (text : String) : Except String Script :=
  match readCommands extended (text.length + 1) ⟨#[], []⟩ [] text.toList with
  | .error e => .error e
  | .ok s =>
    let missing := s.commands.toList.findSome? fun c =>
      c.action.target?.bind fun l => if l = "" || (s.labels.lookup l).isSome then none else some l
    match missing with
    | some l => .error ("can't find label for jump to \x60" ++ l ++ "'")
    | none => .ok s

end ReleaseKit.Utility.Edit
