/-
ReleaseKit.Machine.Utility — what the small programs of a system have in common.

A program is called with arguments and variables, and can start others. It reads
its options as all of them do, shows names in quotes where they need them, and
tells what went wrong under its own name.

  §1 Calls    — `Call`, `Utility`.
  §2 Options  — `Options.read`.
  §3 Quotes   — `Quotes.always` and `Quotes.needed`.
  §4 Faults   — `Call.fault`, `Call.usage`.
  §5 Input    — `Call.inputs`.
-/
import ReleaseKit.Machine.World

namespace ReleaseKit

/-! ## §1 Calls -/

/-- Runs the program at a path, with words of which the first is its name, and
variables, in place of the process that asks for it. -/
abbrev Launcher := String → List String → List (String × String) → Task (Except Fault Nat)

/-- How a program has been called. -/
structure Call where
  name : String
  args : List String
  vars : List (String × String)
  launch : Launcher

/-- What a program does; the result is its exit code. -/
abbrev Utility := Call → Task Nat

/-! ## §2 Options -/

/-- The options that were given, and the other arguments. -/
structure Options where
  given : List (Char × String)
  operands : List String

namespace Options

def has (o : Options) (letter : Char) : Bool := o.given.any fun (c, _) => c == letter

/-- The value that an option was last given. -/
def value? (o : Options) (letter : Char) : Option String :=
  (o.given.reverse.find? fun (c, _) => c == letter).map (·.2)

/-- Whether an option takes a value. -/
inductive Taking where
  | none
  | value
  | perhaps
deriving DecidableEq, Repr

/-- How a letter is described in a text of letters: one colon after it says that
it takes a value, two that it may. -/
def taking? (short : List Char) (letter : Char) : Option Taking :=
  match short with
  | [] => Option.none
  | c :: rest =>
    if c = letter && c != ':' then
      some (match rest with
        | ':' :: ':' :: _ => .perhaps
        | ':' :: _ => .value
        | _ => .none)
    else taking? rest letter

/-- The letters that options of one word stand for, up to the one that takes a
value, and whether that has to come from the next word. -/
def readShort (short : List Char) :
    List Char → Except String (List (Char × String) × Option Char)
  | [] => .ok ([], .none)
  | c :: rest =>
    match taking? short c with
    | .none => .error ("invalid option -- '" ++ String.singleton c ++ "'")
    | some .none => (readShort short rest).map fun (given, open?) => ((c, "") :: given, open?)
    | some .perhaps => .ok ([(c, String.ofList rest)], .none)
    | some .value => .ok (if rest.isEmpty then ([], some c) else ([(c, String.ofList rest)], .none))

/-- The option that a long name stands for: the name may be cut short. -/
def findLong (long : List (String × Char)) (name : String) : Except String Char :=
  match long.lookup name with
  | some letter => .ok letter
  | .none =>
    match long.filter fun (full, _) => full.startsWith name with
    | [] => .error ("unrecognized option '--" ++ name ++ "'")
    | (full, letter) :: others =>
      if others.all fun (_, other) => other == letter then .ok letter
      else .error ("option '--" ++ name ++ "' is ambiguous; possibilities:" ++
        String.join (((full, letter) :: others).map fun (f, _) => " '--" ++ f ++ "'"))

/-- What a word with two dashes says. -/
def readLong (short : List Char) (long : List (String × Char)) (text : List Char) :
    Except String (List (Char × String) × Option Char) :=
  let name := String.ofList (text.takeWhile (· != '='))
  let value := (text.dropWhile (· != '=')).tail
  let hasValue := text.contains '='
  match findLong long name with
  | .error e => .error e
  | .ok letter =>
    match (taking? short letter).getD .none with
    | .none =>
      if hasValue then .error ("option '--" ++ name ++ "' doesn't allow an argument")
      else .ok ([(letter, "")], .none)
    | .perhaps => .ok ([(letter, String.ofList value)], .none)
    | .value =>
      if hasValue then .ok ([(letter, String.ofList value)], .none) else .ok ([], some letter)

/-- Reads arguments. `permute` says that options may follow other arguments. -/
def read (short : String) (long : List (String × Char)) (permute : Bool) :
    List String → Except String Options
  | [] => .ok ⟨[], []⟩
  | arg :: rest =>
    if arg = "--" then .ok ⟨[], rest⟩
    else
      match arg.toList with
      | '-' :: c :: cs =>
        let found := if c = '-' then readLong short.toList long cs else readShort short.toList (c :: cs)
        match found with
        | .error e => .error e
        | .ok (given, .none) =>
          match read short long permute rest with
          | .error e => .error e
          | .ok o => .ok ⟨given ++ o.given, o.operands⟩
        | .ok (given, some letter) =>
          match rest with
          | [] =>
            .error (if c = '-' then "option '" ++ arg ++ "' requires an argument"
              else "option requires an argument -- '" ++ String.singleton letter ++ "'")
          | value :: rest =>
            match read short long permute rest with
            | .error e => .error e
            | .ok o => .ok ⟨given ++ (letter, value) :: o.given, o.operands⟩
      | _ =>
        if permute then
          match read short long permute rest with
          | .error e => .error e
          | .ok o => .ok ⟨o.given, arg :: o.operands⟩
        else .ok ⟨[], arg :: rest⟩

end Options

/-! ## §3 Quotes -/

namespace Quotes

/-- Whether a character can be shown as it is. -/
def isShown (c : Char) : Bool := 32 ≤ c.toNat && c.toNat < 127

/-- Whether a text has to be quoted to be one word of a shell. -/
def isSpecial (chars : List Char) : Bool :=
  chars.isEmpty || chars == ['\x7b'] || chars == ['\x7d'] ||
    chars.head? == some '#' || chars.head? == some '~' ||
    chars.any fun c => !isShown c ||
      [' ', '!', '\x22', '$', '&', '\x27', '(', ')', '*', ';', '<', '=', '>', '?', '[', '\\', '^',
        '\x60', '|'].contains c

/-- Whether a text with a single quote may stand between double quotes. -/
def isPlain (chars : List Char) : Bool :=
  chars.all fun c => c.isAlphanum ||
    [' ', '\x27', '%', '+', ',', '-', '.', '/', ':', ']', '_', '#', '~'].contains c

/-- A byte that cannot be shown, as it is written between quotes after a dollar
sign. -/
def escape (c : Char) : List Char :=
  match [('\x07', 'a'), ('\x08', 'b'), ('\x0c', 'f'), ('\n', 'n'), ('\r', 'r'), ('\t', 't'),
      ('\x0b', 'v')].lookup c with
  | some letter => ['\\', letter]
  | none => ['\\', digit (c.toNat / 64), digit (c.toNat / 8), digit c.toNat]
where
  digit (n : Nat) : Char := Char.ofNat (48 + n % 8)

/-- The inside of a quoted text; `open?` says that an escaped piece is open. -/
def body (open? : Bool) : List Char → List Char
  | [] => []
  | c :: rest =>
    if isShown c then
      (if open? then ['\x27', '\x27'] else []) ++
        (if c = '\x27' then ['\x27', '\\', '\x27', '\x27'] else [c]) ++ body false rest
    else (if open? then [] else ['\x27', '$', '\x27']) ++ escape c ++ body true rest

/-- A text in quotes. -/
def always (s : String) : String :=
  let chars := s.toList
  if chars.contains '\x27' && isPlain chars then "\"" ++ s ++ "\""
  else String.ofList ('\x27' :: body false chars ++ ['\x27'])

/-- A text in quotes if it needs them. -/
def needed (s : String) : String := if isSpecial s.toList then always s else s

/-- A name in quotes if it needs them; a colon is a reason too. -/
def inMessage (s : String) : String :=
  if s.toList.contains ':' then always s else needed s

/-- A text between single quotes, whatever it is. -/
def plain (s : String) : String := "'" ++ s ++ "'"

end Quotes

/-! ## §4 Faults -/

namespace Call

/-- Says something on standard error, under the name of the program. -/
def say (c : Call) (line : String) : Task Unit := Task.complain (c.name ++ ": " ++ line)

/-- Says what is wrong, and fails. -/
def fail (c : Call) (line : String) (code : Nat := 1) : Task Nat := do
  c.say line
  return code

/-- Says that the call was wrong, and fails. -/
def usage (c : Call) (line : String) (code : Nat := 1) : Task Nat := do
  c.say line
  Task.complain ("Try '" ++ c.name ++ " --help' for more information.")
  return code

/-- Reads options, and goes on if they are right. -/
def withOptions (c : Call) (short : String) (long : List (String × Char)) (code : Nat)
    (go : Options → Task Nat) : Task Nat :=
  match Options.read short long true c.args with
  | .error e => c.usage e code
  | .ok o => go o

/-! ## §5 Input -/

/-- Reads a file as a raw text; a dash is standard input. -/
def readFile (_ : Call) (path : String) : Task (Except Fault String) := do
  if path = "-" then Task.readAll 0
  else
    match ← Task.openPath path .reading with
    | .error fault => return .error fault
    | .ok index =>
      let w ← get
      match w.opened[index]? with
      | none => return .error Task.badDescriptor
      | some file =>
        match Task.bytesFrom w file Task.plenty with
        | .error fault => return .error fault
        | .ok bytes =>
          Task.advance index bytes.size
          return .ok (Raw.ofBytes bytes)

/-- Reads the files that are named, or standard input if none is, and goes
through those that can be read; of the others it says why. The result is false if
one could not be read. -/
def inputsOr (c : Call) (why : String → Fault → String) (paths : List String)
    (go : String → String → Task Unit) : Task Bool := do
  let mut fine := true
  for path in (if paths.isEmpty then ["-"] else paths) do
    match ← c.readFile path with
    | .ok text => go path text
    | .error fault =>
      c.say (why path fault)
      fine := false
  return fine

/-- Reads files, and says of those that it cannot read what they are called. -/
def inputs (c : Call) (paths : List String) (go : String → String → Task Unit) : Task Bool :=
  c.inputsOr (fun path fault => Quotes.inMessage path ++ ": " ++ fault.reason) paths go

end Call

/-- The lines of a text, without the breaks that end them. -/
def linesOf (text : String) : List String :=
  let pieces := splitAtChar '\n' text.toList
  ((if pieces.getLast? == some [] then pieces.dropLast else pieces).map String.ofList)

/-- A text filled up with blanks on the left. -/
def padLeft (width : Nat) (text : String) : String :=
  String.ofList (List.replicate (width - text.length) ' ') ++ text

/-- A text filled up with blanks on the right. -/
def padRight (width : Nat) (text : String) : String :=
  text ++ String.ofList (List.replicate (width - text.length) ' ')

/-- The size that a number with a unit stands for. -/
def size? (text : String) : Option Nat :=
  let chars := text.toList
  let digits := chars.takeWhile Char.isDigit
  let rest := String.ofList (chars.drop digits.length)
  let unit? : Option Nat :=
    if rest = "" then some 1
    else if rest = "b" then some 512
    else
      let letters : List (Char × Nat) := [('k', 1), ('K', 1), ('M', 2), ('m', 2), ('G', 3), ('T', 4)]
      match rest.toList with
      | [c] => (letters.lookup c).map (Nat.pow 1024)
      | [c, 'B'] => (letters.lookup c).map (Nat.pow 1000)
      | [c, 'i', 'B'] => (letters.lookup c).map (Nat.pow 1024)
      | _ => none
  match (String.ofList digits).toNat?, unit? with
  | some n, some unit => some (n * unit)
  | none, some unit => if digits.isEmpty && rest != "" then some unit else none
  | _, none => none

/-- A number to a base. -/
def inBase (base n : Nat) : String := String.ofList (Nat.toDigits base n)

end ReleaseKit
