/-
ReleaseKit.Utility.Records.Script — programs that are run for each record of a text.

  §1 Syntax   — `Term`, `Statement`, `Rule`, `Script`.
  §2 Tokens   — `Token`, `tokens`.
-/
import ReleaseKit.Number.Notation

namespace ReleaseKit.Utility.Records

/-! ## §1 Syntax -/

/-- Something that has a value. -/
inductive Term where
  | number (a : Amount)
  | text (s : String)
  /-- an expression, which asks whether it fits the record -/
  | pattern (source : String)
  | name (n : String)
  | field (t : Term)
  | element (array : String) (subscripts : List Term)
  /-- an operator and an assignment -/
  | assign (op : String) (target value : Term)
  | choice (c a b : Term)
  | binary (op : String) (a b : Term)
  | unary (op : String) (a : Term)
  /-- adds to a target, and gives what was there before or after -/
  | step (before : Bool) (amount : Int) (target : Term)
  | within (subscripts : List Term) (array : String)
  | call (function : String) (args : List Term)
  /-- a function of the language -/
  | builtin (function : String) (args : List Term)
  /-- the next record of the input, or of a file -/
  | getline (target : Option Term) (file : Option Term)
  /-- the next record of what a command prints -/
  | getlineOf (command : Term) (target : Option Term)
  | grouped (ts : List Term)
deriving Inhabited

/-- Where something is printed. -/
inductive Outlet where
  | standard
  | file (append : Bool) (path : Term)
  | pipe (command : Term)

/-- Something that is done. -/
inductive Statement where
  | evaluate (t : Term)
  | print (ts : List Term) (o : Outlet)
  | printf (ts : List Term) (o : Outlet)
  | block (ss : List Statement)
  | choose (c : Term) (a : Statement) (b : Option Statement)
  | loop (c : Term) (body : Statement)
  | doLoop (body : Statement) (c : Term)
  | count (start : Option Statement) (c : Option Term) (next : Option Statement) (body : Statement)
  | each (name array : String) (body : Statement)
  | leaveLoop
  | nextTurn
  | nextRecord
  | nextFile
  | exit (t : Option Term)
  | back (t : Option Term)
  | delete (array : String) (subscripts : Option (List Term))
deriving Inhabited

/-- What a rule waits for. -/
inductive Trigger where
  | begin
  | finish
  | always
  | condition (t : Term)
  | range (a b : Term)

/-- A rule: what it waits for, and what is then done; with nothing given, the record is
printed. -/
structure Rule where
  trigger : Trigger
  body : Option Statement

/-- A function of a script. -/
structure Function where
  name : String
  parameters : List String
  body : Statement

structure Script where
  rules : List Rule
  functions : List Function

/-! ## §2 Tokens -/

inductive Token where
  | number (a : Amount)
  | text (s : String)
  | pattern (s : String)
  | name (s : String)
  /-- a name with a parenthesis right behind it -/
  | called (s : String)
  | word (s : String)
  | builtin (s : String)
  | op (s : String)
  | newline
deriving DecidableEq

def keywords : List String :=
  ["BEGIN", "END", "function", "func", "if", "else", "while", "for", "do", "break", "continue",
    "next", "nextfile", "exit", "return", "delete", "in", "getline", "print", "printf"]

def builtins : List String :=
  ["length", "substr", "index", "split", "sub", "gsub", "match", "sprintf", "sqrt", "int", "rand",
    "srand", "tolower", "toupper", "system", "close", "fflush", "sin", "cos", "atan2", "exp", "log"]

/-- Operators, the longer ones first. -/
def operators : List String :=
  ["**=", "&&", "||", "==", "<=", ">=", "!=", "!~", "++", "--", "+=", "-=", "*=", "/=", "%=", "^=",
    ">>", "**", "\x7b", "\x7d", "(", ")", "[", "]", ";", ",", "+", "-", "*", "/", "%", "^", "!", ">",
    "<", "|", "?", ":", "~", "$", "="]

/-- Whether a slash behind a token divides. -/
def endsTerm : Option Token → Bool
  | some (.number _) => true
  | some (.text _) => true
  | some (.pattern _) => true
  | some (.name _) => true
  | some (.builtin _) => true
  | some (.op s) => [")", "]", "$", "++", "--"].contains s
  | _ => false

/-- The character that an escape stands for, behind its backslash, and how many
characters it takes; an unknown one stays as it is. -/
def readEscape (c : Char) (rest : List Char) : List Char × Nat :=
  match [('n', '\n'), ('t', '\t'), ('r', '\r'), ('\\', '\\'), ('\x22', '\x22'), ('/', '/'),
      ('a', '\x07'), ('b', '\x08'), ('f', '\x0c'), ('v', '\x0b')].lookup c with
  | some special => ([special], 0)
  | none =>
    let digits := ((c :: rest).take 3).takeWhile fun d => '0' ≤ d && d ≤ '7'
    if c = '\n' then ([], 0)
    else if digits.isEmpty then (['\\', c], 0)
    else ([Char.ofNat (Amount.ofDigits 8 digits % 256)], digits.length - 1)

/-- The text of a string behind its first quote, and what follows the last. The first
number bounds its characters. -/
def readString : Nat → List Char → Option (List Char × List Char)
  | 0, _ => none
  | _ + 1, [] => none
  | _ + 1, '\x22' :: rest => some ([], rest)
  | fuel + 1, '\\' :: c :: rest =>
    let (chars, count) := readEscape c rest
    (readString fuel (rest.drop count)).map fun (s, left) => (chars ++ s, left)
  | fuel + 1, c :: rest =>
    if c = '\n' then none else (readString fuel rest).map fun (s, left) => (c :: s, left)

/-- The text of an expression behind its first slash, and what follows the last. -/
def readPattern (inside : Bool) : List Char → Option (List Char × List Char)
  | [] => none
  | '\\' :: c :: rest =>
    (readPattern inside rest).map fun (s, left) =>
      (if c = '/' then '/' :: s else '\\' :: c :: s, left)
  | c :: rest =>
    if c = '/' && !inside then some ([], rest)
    else if c = '\n' then none
    else
      let inside := if inside then c != ']' else c = '['
      (readPattern inside rest).map fun (s, left) => (c :: s, left)

def isNameChar (c : Char) : Bool := c.isAlphanum || c == '_'

/-- The tokens of a text. The first number bounds them. -/
def tokensFrom : Nat → Option Token → List Char → Except String (List Token)
  | 0, _, _ => .error "syntax error"
  | fuel + 1, last, chars =>
    let go (t : Token) (rest : List Char) : Except String (List Token) :=
      (tokensFrom fuel (some t) rest).map (t :: ·)
    match chars with
    | [] => .ok []
    | '\n' :: rest => go .newline rest
    | '\\' :: '\n' :: rest => tokensFrom fuel last rest
    | '#' :: rest => tokensFrom fuel last (rest.dropWhile (· != '\n'))
    | '\x22' :: rest =>
      match readString (rest.length + 1) rest with
      | some (s, left) => go (.text (String.ofList s)) left
      | none => .error "runaway string constant"
    | c :: rest =>
      if c = ' ' || c = '\t' || c = '\r' then tokensFrom fuel last rest
      else if c = '/' && !endsTerm last then
        match readPattern false rest with
        | some (s, left) => go (.pattern (String.ofList s)) left
        | none => .error "runaway regular expression"
      else if c.isDigit || (c = '.' && (rest.head?.map Char.isDigit).getD false) then
        match Amount.readPositive chars with
        | some ((num, den), left) => go (.number ((Amount.finite false num den).round 53)) left
        | none => .error "syntax error"
      else if c.isAlpha || c = '_' then
        let word := String.ofList (chars.takeWhile isNameChar)
        let left := chars.drop word.length
        if keywords.contains word then go (.word word) left
        else if builtins.contains word then go (.builtin word) left
        else if left.head? == some '(' then go (.called word) left
        else go (.name word) left
      else
        match operators.find? fun o => o.toList.isPrefixOf chars with
        | some o => go (.op (if o = "**" then "^" else if o = "**=" then "^=" else o))
            (chars.drop o.length)
        | none => .error "unexpected character"

def tokens (text : String) : Except String (List Token) :=
  tokensFrom (text.length + 1) none text.toList

end ReleaseKit.Utility.Records
