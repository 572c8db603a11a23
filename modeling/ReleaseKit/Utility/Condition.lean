/-
ReleaseKit.Utility.Condition — the conditions that `test` checks.

A condition is made of words: comparisons of texts and of integers, and
questions about files, joined by words for not, and and or. The shells and the
program of the system read a condition alike but for a few words of doubtful
meaning.

  §1 Operators   — which words are operators.
  §2 Questions   — what the operators ask.
  §3 Conditions  — `Condition.holds`.
-/
import ReleaseKit.Utility.Printf

namespace ReleaseKit.Condition

open Printf (Style)

/-! ## §1 Operators -/

def unary : List String :=
  ["-r", "-w", "-x", "-e", "-f", "-d", "-c", "-b", "-p", "-u", "-g", "-k", "-s", "-t", "-z", "-n",
    "-h", "-O", "-G", "-L", "-S"]

def binary : List String :=
  ["=", "!=", "<", ">", "-eq", "-ne", "-ge", "-gt", "-le", "-lt", "-nt", "-ot", "-ef"]

def isUnary (style : Style) (word : String) : Bool :=
  unary.contains word || (style != .posixShell && (word == "-N" || word == "-a" || word == "-v" || word == "-o"))

def isBinary (style : Style) (word : String) : Bool :=
  binary.contains word || (style != .posixShell && word == "==")

/-! ## §2 Questions -/

/-- What a condition may ask about. -/
structure Facts where
  style : Style
  disk : Disk
  cwd : Location
  /-- whether a variable has a value -/
  hasValue : String → Bool

/-- A word as an integer; blanks around it do no harm. -/
def integer (facts : Facts) (word : String) : Except String Int :=
  let isBlank (c : Char) : Bool := c.isWhitespace
  let start := word.toList.dropWhile isBlank
  let (negative, rest) :=
    match start with
    | '-' :: r => (true, r)
    | '+' :: r => (false, r)
    | r => (false, r)
  let digits := rest.takeWhile Char.isDigit
  if digits.isEmpty || (rest.drop digits.length).any fun c => !isBlank c then
    .error (match facts.style with
      | .posixShell => "Illegal number: " ++ word
      | .bash => word ++ ": integer expression expected"
      | .program => "invalid integer " ++ Quotes.always word)
  else
    let n : Int := Amount.ofDigits 10 digits
    let n := if negative then -n else n
    if facts.style = .posixShell && (Printf.half ≤ n || n < -(Printf.half : Int)) then
      .error ("out of range: " ++ word)
    else .ok n

/-- The answer to a question about a file. -/
def askFile (facts : Facts) (letter : Char) (path : String) : Bool :=
  if letter = 'h' || letter = 'L' then
    match facts.disk.find true facts.cwd path with
    | .ok (_, e) => e.isLink
    | .error _ => false
  else
    match facts.disk.entryAt? facts.cwd path with
    | none => false
    | some e =>
      let mode := facts.disk.modeOf e
      match letter with
      | 'd' => e.isDir
      | 'f' =>
        match e with
        | .file _ => true
        | .program _ => true
        | _ => false
      | 'x' => e.isDir || mode &&& 0o111 != 0
      | 's' => facts.disk.sizeOf e != 0
      | 'c' =>
        match e with
        | .device _ => true
        | _ => false
      | 'u' => mode &&& 0o4000 != 0
      | 'g' => mode &&& 0o2000 != 0
      | 'k' => mode &&& 0o1000 != 0
      | c => ['e', 'a', 'r', 'w', 'O', 'G', 'N'].contains c

/-- The answer to a question about one word. -/
def ask (facts : Facts) (op word : String) : Except String Bool :=
  match op with
  | "-z" => .ok word.isEmpty
  | "-n" => .ok !word.isEmpty
  | "-t" => (integer facts word).map fun _ => false
  | "-v" => .ok (facts.hasValue word)
  | "-o" => .ok false
  | _ => .ok (askFile facts ((op.toList[1]?).getD 'e') word)

/-- Which of two files is older, as far as both are there. -/
def times (facts : Facts) (a b : String) : Option Nat × Option Nat :=
  let time (path : String) : Option Nat :=
    (facts.disk.entryAt? facts.cwd path).map facts.disk.timeOf
  (time a, time b)

/-- Whether one file is newer than another; the shells differ on files that are
not there. -/
def newer (facts : Facts) (a b : String) : Bool :=
  match times facts a b with
  | (some s, some t) => t < s
  | (some _, none) => facts.style != .posixShell
  | _ => false

/-- Whether two paths lead to the same thing. -/
def same (facts : Facts) (a b : String) : Bool :=
  match facts.disk.find false facts.cwd a, facts.disk.find false facts.cwd b with
  | .ok (l, e), .ok (m, f) =>
    match e, f with
    | .file id, .file id' => id == id'
    | _, _ => l == m
  | _, _ => false

/-- The answer to a comparison. -/
def compare (facts : Facts) (a op b : String) : Except String Bool :=
  let numbers (f : Int → Int → Bool) : Except String Bool := do
    let m ← integer facts a
    let n ← integer facts b
    pure (f m n)
  match op with
  | "=" => .ok (a == b)
  | "==" => .ok (a == b)
  | "!=" => .ok (a != b)
  | "<" => .ok (a < b)
  | ">" => .ok (b < a)
  | "-eq" => numbers (· == ·)
  | "-ne" => numbers (· != ·)
  | "-lt" => numbers fun m n => m < n
  | "-le" => numbers fun m n => m ≤ n
  | "-gt" => numbers fun m n => n < m
  | "-ge" => numbers fun m n => n ≤ m
  | "-nt" => .ok (newer facts a b)
  | "-ot" => .ok (newer facts b a)
  | _ => .ok (same facts a b)

/-! ## §3 Conditions -/

/-- Whether a word that could be an operator on the next one is a plain word:
it is the last, or a comparison follows. -/
def isOperand (style : Style) : List String → Bool
  | _ :: s :: _ :: _ => isBinary style s
  | [_, _] => false
  | _ => true

/-- What stands at the start of words. -/
inductive Item where
  | finish
  | opening
  | closing
  | not
  | and
  | or
  | ask
  | compare
  | word
deriving DecidableEq

def item (style : Style) (words : List String) : Item :=
  match words with
  | [] => .finish
  | w :: rest =>
    if w = "(" then (if rest.isEmpty then .word else .opening)
    else if w = ")" then .closing
    else if w = "!" then .not
    else if w = "-a" then .and
    else if w = "-o" then .or
    else if isBinary style w then .compare
    else if isUnary style w && !isOperand style words then .ask
    else .word

mutual

/-- The value of conditions joined by or, and what follows them. -/
def disjunction (facts : Facts) : Nat → List String → Except String (Bool × List String)
  | 0, _ => .error "too many arguments"
  | fuel + 1, words => do
    let (a, rest) ← conjunction facts fuel words
    if item facts.style rest = .or then
      let (b, rest) ← disjunction facts fuel (rest.drop 1)
      pure (a || b, rest)
    else pure (a, rest)

/-- The value of conditions joined by and. -/
def conjunction (facts : Facts) : Nat → List String → Except String (Bool × List String)
  | 0, _ => .error "too many arguments"
  | fuel + 1, words => do
    let (a, rest) ← negation facts fuel words
    if item facts.style rest = .and then
      let (b, rest) ← conjunction facts fuel (rest.drop 1)
      pure (a && b, rest)
    else pure (a, rest)

/-- The value of a condition that may be negated. -/
def negation (facts : Facts) : Nat → List String → Except String (Bool × List String)
  | 0, _ => .error "too many arguments"
  | fuel + 1, words =>
    if item facts.style words = .not then
      if words.length = 1 then .ok (true, [])
      else do
        let (a, rest) ← negation facts fuel (words.drop 1)
        pure (!a, rest)
    else primary facts fuel words

/-- The value of a condition without words that join. -/
def primary (facts : Facts) : Nat → List String → Except String (Bool × List String)
  | 0, _ => .error "too many arguments"
  | fuel + 1, words =>
    match item facts.style words, words with
    | .opening, _ :: rest =>
      if item facts.style rest = .closing then .ok (false, rest.drop 1)
      else do
        let (a, rest) ← disjunction facts fuel rest
        if item facts.style rest = .closing then pure (a, rest.drop 1)
        else .error (if facts.style = .posixShell then "closing paren expected"
          else if facts.style = .bash then "\x60)' expected" else "')' expected")
    | .ask, op :: word :: rest => (ask facts op word).map fun a => (a, rest)
    | _, [] =>
      if facts.style = .posixShell then .ok (false, []) else .error "argument expected"
    | _, a :: op :: rest =>
      if isBinary facts.style op then
        match rest with
        | b :: rest => (compare facts a op b).map fun r => (r, rest)
        | [] =>
          .error (match facts.style with
            | .posixShell => op ++ ": argument expected"
            | .bash => "argument expected"
            | .program => "missing argument after " ++ Quotes.always op)
      else .ok (!a.isEmpty, op :: rest)
    | _, [a] => .ok (!a.isEmpty, [])

end

/-- What is said of words that are left over. -/
def leftOver (style : Style) (word : String) : String :=
  match style with
  | .posixShell => word ++ ": unexpected operator"
  | .bash => "too many arguments"
  | .program => "extra argument " ++ Quotes.always word

/-- The value of words of which none may be left over. -/
def whole (facts : Facts) (words : List String) : Except String Bool :=
  match disjunction facts (8 * words.length + 8) words with
  | .error e => .error e
  | .ok (a, []) => .ok a
  | .ok (_, word :: _) => .error (leftOver facts.style word)

/-- The value of at most four words, for which their number decides how they are
read. -/
def short (facts : Facts) : List String → Except String Bool
  | [] => .ok false
  | [a] => .ok (!a.isEmpty)
  | [op, a] =>
    if op = "!" then .ok a.isEmpty
    else if isUnary facts.style op then ask facts op a
    else .error (match facts.style with
      | .program => Quotes.always op ++ ": unary operator expected"
      | _ => op ++ ": unary operator expected")
  | [a, op, b] =>
    if isBinary facts.style op then compare facts a op b
    else if op = "-a" then .ok (!a.isEmpty && !b.isEmpty)
    else if op = "-o" then .ok (!a.isEmpty || !b.isEmpty)
    else if a = "!" then (short facts [op, b]).map (!·)
    else if a = "(" && b = ")" then short facts [op]
    else .error (match facts.style with
      | .program => Quotes.always op ++ ": binary operator expected"
      | _ => op ++ ": binary operator expected")
  | words =>
    match words with
    | "!" :: rest =>
      if rest.length = 3 then (whole facts rest).map (!·) else whole facts words
    | _ => whole facts words

/-- Whether the condition that words make holds. -/
def holds (facts : Facts) (words : List String) : Except String Bool :=
  if facts.style = .posixShell then
    match words with
    | [a, op, b] =>
      if isBinary .posixShell op then compare facts a op b
      else if a = "(" && b = ")" then .ok (!op.isEmpty)
      else whole facts words
    | [a, b, c, d] => if a = "(" && d = ")" then whole facts [b, c] else whole facts words
    | _ => whole facts words
  else short facts words

end ReleaseKit.Condition
