/-
ReleaseKit.Json.Reader — the words of a JSON text: blanks, strings, numbers.

A reader takes the characters that are left and gives back a value and what is
then left, or says what is wrong and where. A place is written down as the
characters left at it, plus a number of bytes ahead of them; `Place.of` turns it
into a line and a column.

  §1 Faults    — what can be wrong, and when the place of a fault is known.
  §2 Blanks    — `skipBlank`.
  §3 Strings   — `readStringBody`, from after the opening quote.
  §4 Numbers   — `readNumber`, from after a minus sign if there is one.
  §5 Words     — `readWord`, and `readFound` for a value nobody asked for.
-/
import ReleaseKit.Json.Number
import ReleaseKit.Text.Quoted
import ReleaseKit.Text.Utf8

namespace ReleaseKit.Json

/-! ## §1 Faults -/

/-- A value that was found where one of another type was expected. -/
inductive Found where
  | null
  | bool (value : Bool)
  | number (value : Number)
  | text (value : String)
  | sequence
  | map
deriving DecidableEq, Repr

def Found.describe : Found → String
  | null => "null"
  | bool b => "boolean `" ++ (if b then "true" else "false") ++ "`"
  | number n => n.describe
  | text s => "string " ++ Text.quoted s
  | sequence => "sequence"
  | map => "map"

/-- What is wrong with a text. -/
inductive Problem where
  | endInValue
  | endInList
  | endInObject
  | endInString
  | expectedValue
  | expectedColon
  | expectedListEnd
  | expectedObjectEnd
  | expectedWord
  | keyNotString
  | trailingComma
  | trailingCharacters
  | invalidNumber
  | numberOutOfRange
  | controlCharacter
  | invalidEscape
  | loneSurrogate
  | endOfEscape
  | wrongType (found : Found) (expected : String)
  | wrongLength (length : Nat) (expected : String)
  | unknownField (name : String) (known : List String)
  | duplicateField (name : String)
  | missingField (name : String)
  /-- the value has the right type but is refused for a reason of its own -/
  | refused (reason : String)
deriving DecidableEq, Repr

/-- Names in backquotes, as a message lists them. -/
def listNames : List String → String
  | [] => "there are no fields"
  | [a] => "expected `" ++ a ++ "`"
  | [a, b] => "expected `" ++ a ++ "` or `" ++ b ++ "`"
  | names => "expected one of " ++ String.intercalate ", " (names.map fun n => "`" ++ n ++ "`")

def Problem.message : Problem → String
  | endInValue => "EOF while parsing a value"
  | endInList => "EOF while parsing a list"
  | endInObject => "EOF while parsing an object"
  | endInString => "EOF while parsing a string"
  | expectedValue => "expected value"
  | expectedColon => "expected `:`"
  | expectedListEnd => "expected `,` or `]`"
  | expectedObjectEnd => "expected `,` or `\x7d`"
  | expectedWord => "expected ident"
  | keyNotString => "key must be a string"
  | trailingComma => "trailing comma"
  | trailingCharacters => "trailing characters"
  | invalidNumber => "invalid number"
  | numberOutOfRange => "number out of range"
  | controlCharacter => "control character (\\u0000-\\u001F) found while parsing a string"
  | invalidEscape => "invalid escape"
  | loneSurrogate => "lone leading surrogate in hex escape"
  | endOfEscape => "unexpected end of hex escape"
  | wrongType found expected => "invalid type: " ++ found.describe ++ ", expected " ++ expected
  | wrongLength length expected =>
    "invalid length " ++ toString length ++ ", expected " ++ expected
  | unknownField name known => "unknown field `" ++ name ++ "`, " ++ listNames known
  | duplicateField name => "duplicate field `" ++ name ++ "`"
  | missingField name => "missing field `" ++ name ++ "`"
  | refused reason => reason

/-- A problem, where it is known. A problem `inside` a container is placed where
the container is left; one that is `placed` stands `ahead` bytes after the start
of what is left. -/
inductive Failure where
  | placed (problem : Problem) (rest : List Char) (ahead : Nat)
  | inside (problem : Problem) (rest : List Char)
deriving Repr

/-- What a reader gives back: a value and the characters left after it. -/
abbrev Reading (α : Type) := α × List Char

/-- Takes a value from the start of the characters left. -/
abbrev Reader (α : Type) := List Char → Except Failure (Reading α)

/-- The fault at the start of what is left, all before it being consumed. -/
def failHere {α : Type} (problem : Problem) (rest : List Char) : Except Failure α :=
  .error (.placed problem rest 0)

/-- The fault at the next byte, which has been looked at. -/
def failNext {α : Type} (problem : Problem) (rest : List Char) : Except Failure α :=
  .error (.placed problem rest 1)

/-- A line, from one, and the number of bytes before the place on that line. -/
structure Place where
  line : Nat
  column : Nat
deriving DecidableEq, Repr

/-- The place after the given bytes. -/
def Place.after (bytes : List UInt8) : Place :=
  bytes.foldl (fun p b => if b = 0x0A then ⟨p.line + 1, 0⟩ else ⟨p.line, p.column + 1⟩) ⟨1, 0⟩

/-- The number of bytes of a text. -/
def byteLength (l : List Char) : Nat := l.foldl (fun n c => n + c.utf8Size) 0

/-- The place `ahead` bytes after the start of `rest`, the end of `text`; never
beyond its end. -/
def Place.of (text : String) (rest : List Char) (ahead : Nat) : Place :=
  let bytes := Text.bytesOf text
  .after (bytes.take (bytes.length - byteLength rest + ahead))

/-- A problem with its place. -/
structure Fault where
  problem : Problem
  place : Place
deriving DecidableEq, Repr

def Fault.text (f : Fault) : String :=
  f.problem.message ++ " at line " ++ toString f.place.line ++ " column " ++
    toString f.place.column

/-- The fault that a failure to read `text` amounts to. -/
def Failure.toFault (text : String) : Failure → Fault
  | placed problem rest ahead => ⟨problem, .of text rest ahead⟩
  | inside problem rest => ⟨problem, .of text rest 0⟩

/-! ## §2 Blanks -/

/-- The four characters that may stand between the words of a JSON text. -/
def isBlank (c : Char) : Bool := c == ' ' || c == '\n' || c == '\t' || c == '\r'

def skipBlank (l : List Char) : List Char := l.dropWhile isBlank

/-! ## §3 Strings -/

/-- The value of a hexadecimal digit of either case. -/
def hexValue? (c : Char) : Option Nat :=
  let n := c.toNat
  if 0x30 ≤ n ∧ n ≤ 0x39 then some (n - 0x30)
  else if 0x41 ≤ n ∧ n ≤ 0x46 then some (n - 0x37)
  else if 0x61 ≤ n ∧ n ≤ 0x66 then some (n - 0x57)
  else none

/-- The number that four hexadecimal digits write. -/
def hexValues? (a b c d : Char) : Option Nat := do
  pure ((((← hexValue? a) * 16 + (← hexValue? b)) * 16 + (← hexValue? c)) * 16 + (← hexValue? d))

/-- The four bytes after `\u` as a number. They are taken together: if there are
not so many the text ends, whatever they are. -/
def readHex (l : List Char) : Except Failure Nat :=
  if byteLength (l.take 4) < 4 then failHere .endInString []
  else
    match l with
    | a :: b :: c :: d :: _ =>
      match hexValues? a b c d with
      | some n => .ok n
      | none => .error (.placed .invalidEscape l 4)
    | _ => .error (.placed .invalidEscape l 4)

/-- The character that `\u` starts, and how many characters after the `u` it
takes. A high surrogate asks for a low one in the same form. -/
def readUnicode (l : List Char) : Except Failure (Char × Nat) := do
  let high ← readHex l
  let after := l.drop 4
  if 0xDC00 ≤ high ∧ high ≤ 0xDFFF then failHere .loneSurrogate after
  else if high < 0xD800 ∨ 0xDBFF < high then pure (Char.ofNat high, 4)
  else
    match after with
    | [] => failHere .endInString []
    | '\\' :: after₁ =>
      match after₁ with
      | [] => failHere .endInString []
      | 'u' :: after₂ =>
        let low ← readHex after₂
        if low < 0xDC00 ∨ 0xDFFF < low then failHere .loneSurrogate (after₂.drop 4)
        else pure (Char.ofNat (0x10000 + (high - 0xD800) * 0x400 + (low - 0xDC00)), 10)
      | _ => failNext .endOfEscape after₁
    | _ => failNext .endOfEscape after

/-- The character that a backslash starts, and how many characters after the
backslash it takes. -/
def readEscape : List Char → Except Failure (Char × Nat)
  | [] => failHere .endInString []
  | c :: rest =>
    if c = '\x22' ∨ c = '\\' ∨ c = '/' then pure (c, 1)
    else if c = 'b' then pure ('\x08', 1)
    else if c = 'f' then pure ('\x0c', 1)
    else if c = 'n' then pure ('\n', 1)
    else if c = 'r' then pure ('\r', 1)
    else if c = 't' then pure ('\t', 1)
    else if c = 'u' then (readUnicode rest).map fun (d, n) => (d, n + 1)
    else failNext .invalidEscape (c :: rest)

/-- The rest of a string: `skip` characters belong to an escape that has been
read, and `sofar` is what the string holds, the last character first. -/
def readStringFrom (sofar : List Char) : Nat → List Char → Except Failure (Reading String)
  | _, [] => failHere .endInString []
  | skip + 1, _ :: rest => readStringFrom sofar skip rest
  | 0, c :: rest =>
    if c = '\x22' then .ok (String.ofList sofar.reverse, rest)
    else if c = '\\' then
      match readEscape rest with
      | .ok (d, used) => readStringFrom (d :: sofar) used rest
      | .error failure => .error failure
    else if c.toNat < 0x20 then failNext .controlCharacter (c :: rest)
    else readStringFrom (c :: sofar) 0 rest

/-- A string, from after its opening quote. -/
def readStringBody (l : List Char) : Except Failure (Reading String) := readStringFrom [] 0 l

/-! ## §4 Numbers -/

def digitValue (c : Char) : Nat := c.toNat - 0x30

/-- The digits that a text starts with, and what follows them. -/
def takeDigits (l : List Char) : List Nat × List Char :=
  ((l.takeWhile Char.isDigit).map digitValue, l.dropWhile Char.isDigit)

/-- Ends a floating point number. -/
def finishNumber (minus : Bool) (digits : Nat) (exponent : Int) (rest : List Char) :
    Except Failure (Reading Number) :=
  match Number.ofParts? digits exponent with
  | some x => .ok (.floating minus x, rest)
  | none => failHere .numberOutOfRange rest

/-- The exponent, from after its letter. -/
def readExponent (minus : Bool) (digits : Nat) (before : Int) (l : List Char) :
    Except Failure (Reading Number) :=
  let (down, l) : Bool × List Char :=
    match l with
    | '+' :: rest => (false, rest)
    | '-' :: rest => (true, rest)
    | _ => (false, l)
  match l with
  | [] => failHere .endInValue []
  | c :: _ =>
    if !c.isDigit then failNext .invalidNumber l
    else
      let (ds, rest) := takeDigits l
      let exponent := ds.foldl (fun n d => n * 10 + d) 0
      if Number.greatestExponent < exponent then
        if digits ≠ 0 ∧ !down then
          -- the fault stands where the digits have become too many
          let fits := (List.range ds.length).takeWhile fun n =>
            (ds.take (n + 1)).foldl (fun n d => n * 10 + d) 0 ≤ Number.greatestExponent
          failHere .numberOutOfRange (l.drop (fits.length + 1))
        else .ok (.floating minus Binary64.zero, rest)
      else finishNumber minus digits (if down then before - exponent else before + exponent) rest

/-- What may follow the digits of a floating point number: an exponent. -/
def readExponent? (minus : Bool) (digits : Nat) (before : Int) (l : List Char) :
    Except Failure (Reading Number) :=
  match l with
  | 'e' :: rest => readExponent minus digits before rest
  | 'E' :: rest => readExponent minus digits before rest
  | _ => finishNumber minus digits before l

/-- The places after the point, from after the point. Places that no longer fit
64 bits are passed over. -/
def readPlaces (minus : Bool) (digits : Nat) (before : Nat) (l : List Char) :
    Except Failure (Reading Number) :=
  let (ds, rest) := takeDigits l
  let (all, count, _) := Number.takeDigits digits 0 ds
  if ds.isEmpty then
    match rest with
    | [] => failNext .endInValue []
    | _ => failNext .invalidNumber rest
  else readExponent? minus all ((before : Int) - count) rest

/-- A number, from after a minus sign if there is one. -/
def readNumber (minus : Bool) (l : List Char) : Except Failure (Reading Number) :=
  match l with
  | [] => failHere .endInValue []
  | c :: rest =>
    if !c.isDigit then failNext .invalidNumber l
    else if c = '0' ∧ (rest.head?.any Char.isDigit) then failNext .invalidNumber rest
    else
      let (ds, rest) := takeDigits l
      let (digits, _, left) := Number.takeDigits 0 0 ds
      match rest with
      | '.' :: rest => readPlaces minus digits left.length rest
      | 'e' :: rest => readExponent minus digits left.length rest
      | 'E' :: rest => readExponent minus digits left.length rest
      | _ =>
        if left.isEmpty then .ok (Number.ofInteger minus digits, rest)
        else finishNumber minus digits left.length rest

/-! ## §5 Words -/

/-- The rest of a word that can only be this one. -/
def readWord : List Char → List Char → Except Failure (List Char)
  | [], l => .ok l
  | _ :: _, [] => failHere .endInValue []
  | w :: word, c :: rest =>
    if c = w then readWord word rest else failNext .expectedWord (c :: rest)

/-- A value where one of another type was expected, which is a failure. Scalars
are read to their end before that is said; containers are not entered. -/
def failFound {α : Type} (expected : String) (l : List Char) : Except Failure α := do
  let wrong (found : Found) (rest : List Char) : Except Failure α :=
    failHere (.wrongType found expected) rest
  match l with
  | 'n' :: rest => wrong .null (← readWord ['u', 'l', 'l'] rest)
  | 't' :: rest => wrong (.bool true) (← readWord ['r', 'u', 'e'] rest)
  | 'f' :: rest => wrong (.bool false) (← readWord ['a', 'l', 's', 'e'] rest)
  | '-' :: rest =>
    let (n, rest) ← readNumber true rest
    wrong (.number n) rest
  | '\x22' :: rest =>
    let (s, rest) ← readStringBody rest
    wrong (.text s) rest
  | '[' :: _ => wrong .sequence l
  | '\x7b' :: _ => wrong .map l
  | c :: _ =>
    if c.isDigit then
      let (n, rest) ← readNumber false l
      wrong (.number n) rest
    else failNext .expectedValue l
  | [] => failNext .endInValue []

end ReleaseKit.Json
