/-
ReleaseKit.Shell.Source — the text of a script while it is being read.

A script is read piece by piece, since what one of its lines does can change how
the next one is read. A source keeps what has not been read yet, the number of
the line, and the here documents that the current line has announced.

  §1 Tokens   — `Token`.
  §2 Faults   — `SyntaxFault` and how each dialect words it.
  §3 Sources  — `Source`, `Reading`.
-/
import ReleaseKit.Shell.Script

namespace ReleaseKit.Shell

/-! ## §1 Tokens -/

/-- What the text of a script falls into. -/
inductive Token where
  /-- a word, and its text if nothing in it is quoted or expanded -/
  | word (parts : List Part) (plain : Option String)
  | operator (text : String)
  | redirect (fd : Option Nat) (op : String)
  | newline
  | finish

namespace Token

/-- A token as one dialect names it. -/
def name : Token → String
  | word _ plain => if keywords.contains (plain.getD "") then quote (plain.getD "") else "word"
  | operator text => quote text
  | redirect _ _ => "redirection"
  | newline => "newline"
  | finish => "end of file"
where
  quote (text : String) : String := "\"" ++ text ++ "\""
  keywords : List String :=
    ["!", "case", "do", "done", "elif", "else", "esac", "fi", "for", "if", "in", "then", "until",
      "while", "\x7b", "\x7d"]

/-- A token as it is written. -/
def text : Token → String
  | word _ plain => plain.getD "word"
  | operator text => text
  | redirect _ op => op
  | newline => "newline"
  | finish => "end of file"

def isFinish : Token → Bool
  | finish => true
  | _ => false

end Token

/-! ## §2 Faults -/

/-- Why a text is no script. -/
inductive SyntaxFault where
  /-- a token that cannot stand where it is, and what should -/
  | unexpected (found : Token) (expected : Option String)
  | openQuote (mark : Char)
  | openArithmetic
  | openBackquote
  | openBrace
  | badFunctionName
  | badLoopVariable
  | badDescriptor
  | tooDeep

namespace SyntaxFault

/-- What the smaller shell says. -/
def posixMessage : SyntaxFault → String
  | unexpected found expected => found.name ++ " unexpected" ++
      (match expected with
        | some text => " (expecting " ++ text ++ ")"
        | none => "")
  | openQuote _ => "Unterminated quoted string"
  | openArithmetic => "Missing '))'"
  | openBackquote => "EOF in backquote substitution"
  | openBrace => "Missing '\x7d'"
  | badFunctionName => "Bad function name"
  | badLoopVariable => "Bad for loop variable"
  | badDescriptor => "Bad fd number"
  | tooDeep => "Maximum depth exceeded"

/-- What the larger shell says. -/
def bashMessage : SyntaxFault → String
  | unexpected .finish _ => "syntax error: unexpected end of file"
  | unexpected found _ => "syntax error near unexpected token \x60" ++ found.text ++ "'"
  | openQuote mark =>
    "unexpected EOF while looking for matching \x60" ++ String.singleton mark ++ "'"
  | openArithmetic => "unexpected EOF while looking for matching \x60)'"
  | openBackquote => "unexpected EOF while looking for matching \x60\x60'"
  | openBrace => "unexpected EOF while looking for matching \x60\x7d'"
  | badFunctionName => "not a valid identifier"
  | badLoopVariable => "not a valid identifier"
  | badDescriptor => "ambiguous redirect"
  | tooDeep => "syntax error"

end SyntaxFault

/-! ## §3 Sources -/

/-- A here document whose body has yet to be read. -/
structure Awaited where
  number : Nat
  delimiter : String
  /-- take the body as it is -/
  literal : Bool
  /-- without the tabs that its lines start with -/
  stripped : Bool

/-- The text of a script while it is being read. -/
structure Source where
  rest : List Char
  line : Nat
  dialect : Dialect
  aliases : List (String × String) := []
  /-- the aliases whose text is being read, and how much of the source is left
  when it has been -/
  expanding : List (String × Nat) := []
  /-- the bodies of here documents, by number -/
  documents : List (Nat × List Part) := []
  nextDocument : Nat := 0
  awaited : List Awaited := []
  /-- a token that has been looked at -/
  pushed : Option Token := none

/-- Reads something from a source. -/
abbrev Reading := ExceptT SyntaxFault (StateM Source)

namespace Reading

/-- What fails. -/
def fail {α : Type} (fault : SyntaxFault) : Reading α := throw fault

/-- The characters without breaks of lines that a backslash joins, and how many
there were. -/
def skipJoins : List Char → List Char × Nat
  | '\\' :: '\n' :: rest =>
    let (left, n) := skipJoins rest
    (left, n + 1)
  | chars => (chars, 0)

/-- Drops the breaks of joined lines. -/
def joinLines : Reading Unit := modify fun s =>
  let (rest, n) := skipJoins s.rest
  if n = 0 then s else { s with rest, line := s.line + n }

/-- The next character, joined lines being one. -/
def peek : Reading (Option Char) := do
  joinLines
  return (← get).rest.head?

/-- The next characters, joined lines being one. -/
def ahead (count : Nat) : Reading (List Char) := do
  joinLines
  return (← get).rest.take count

/-- Drops so many characters and counts the lines that they end. -/
def drop (count : Nat) : Reading Unit := modify fun s =>
  let (gone, rest) := s.rest.splitAt count
  { s with rest, line := s.line + gone.count '\n' }

/-- Takes the characters that a test accepts. -/
def takeWhile (p : Char → Bool) : Reading (List Char) := do
  let taken := (← get).rest.takeWhile p
  drop taken.length
  return taken

/-- Takes the characters of a word, across joined lines; the number bounds
them. -/
def takeName : Nat → Reading (List Char)
  | 0 => return []
  | fuel + 1 => do
    match ← peek with
    | some c =>
      if c.isAlphanum || c == '_' then
        drop 1
        return c :: (← takeName fuel)
      else return []
    | none => return []

end Reading

end ReleaseKit.Shell
