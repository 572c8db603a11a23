/-
ReleaseKit.Shell.Script — scripts as trees.

A script is made of commands, a command of words, and a word of parts: plain
text, quoted text, and expansions, some of which hold scripts or words again.
The bodies of here documents stand in a table of their own, and a command names
them by number.

  §1 Dialects  — the two kinds of shells.
  §2 Pieces    — directions, scopes and the like.
  §3 Scripts   — `Part`, `Use`, `Command` and what they are made of.
  §4 Names     — what can name a parameter.
-/

namespace ReleaseKit.Shell

/-! ## §1 Dialects -/

/-- Which language a script is written in. -/
inductive Dialect where
  /-- the language that every shell understands -/
  | posix
  /-- with the additions of the larger shell -/
  | bash
deriving DecidableEq, Repr

/-! ## §2 Pieces -/

/-- What is done about a parameter that has no value. -/
inductive Fallback where
  | use
  | assign
  | refuse
  /-- use the word if there is a value -/
  | replace
deriving DecidableEq, Repr

/-- Where a pattern has to stand to be replaced. -/
inductive Scope where
  | first
  | all
  | start
  | finish
deriving DecidableEq, Repr

/-- How a redirection connects a descriptor. -/
inductive Direction where
  | input
  | output
  | clobber
  | append
  | both
  | copyInput
  | copyOutput
  /-- a here document, by number -/
  | document (number : Nat)
  | text
  | outputs
  | appends
deriving DecidableEq, Repr

/-- How the body of a branch goes on. -/
inductive Next where
  | stop
  | fall
  | test
deriving DecidableEq, Repr

/-! ## §3 Scripts -/

mutual

/-- A part of a word. -/
inductive Part where
  | bare (text : String)
  | quoted (text : String)
  | double (parts : List Part)
  | value (name : String) (index : Option (List Part)) (use : Use)
  | command (body : Command)
  | arithmetic (parts : List Part)
  /-- a file that a script reads or writes -/
  | process (reads : Bool) (body : Command)

/-- What is wanted of a parameter. -/
inductive Use where
  | plain
  | length
  | fallback (colon : Bool) (kind : Fallback) (word : List Part)
  | trim (atEnd longest : Bool) (pattern : List Part)
  | slice (offset : List Part) (count : Option (List Part))
  | replace (scope : Scope) (pattern replacement : List Part)
  | recase (upper all : Bool)
  | indirect (use : Use)
  /-- the names that start like this one, or the keys of an array -/
  | names
  | keys
  | transform (letter : Char)
  /-- what no shell understands -/
  | bad (text : String)

/-- A value for a name. -/
inductive Assignment where
  | mk (name : String) (index : Option (List Part)) (append : Bool) (value : List Part)
    (items : Option (List (List Part)))

/-- A redirection of a descriptor. -/
inductive Redirect where
  | mk (fd : Option Nat) (direction : Direction) (target : List Part)

/-- A branch of a choice: its patterns, its body, and how it goes on. -/
inductive Branch where
  | mk (patterns : List (List Part)) (body : Command) (next : Next)

/-- A condition between double brackets. -/
inductive Test where
  | word (w : List Part)
  | unary (op : String) (w : List Part)
  | binary (a : List Part) (op : String) (b : List Part)
  | not (t : Test)
  | and (a b : Test)
  | or (a b : Test)

/-- A command. -/
inductive Command where
  | nothing
  | simple (line : Nat) (assignments : List Assignment) (words : List (List Part))
    (redirects : List Redirect)
  | pipeline (negated : Bool) (stages : List Command)
  | and (a b : Command)
  | or (a b : Command)
  | list (commands : List Command)
  | background (body : Command)
  | subshell (body : Command)
  | redirected (line : Nat) (body : Command) (redirects : List Redirect)
  | choose (condition body otherwise : Command)
  /-- repeats the body while the condition holds, or until it does -/
  | repeated (until_ : Bool) (condition body : Command)
  | each (line : Nat) (name : String) (words : Option (List (List Part))) (body : Command)
  | counted (start condition step : List Part) (body : Command)
  | select (line : Nat) (word : List Part) (branches : List Branch)
  | define (line : Nat) (name : String) (body : Command)
  | test (line : Nat) (condition : Test)
  | arithmetic (line : Nat) (parts : List Part)

end

instance : Inhabited Command := ⟨.nothing⟩

/-! ## §4 Names -/

/-- The name and the characters after it, if a text starts with a name. -/
def splitName (chars : List Char) : String × List Char :=
  match chars with
  | c :: _ =>
    if c.isAlpha || c == '_' then
      let isNameChar (d : Char) : Bool := d.isAlphanum || d == '_'
      (String.ofList (chars.takeWhile isNameChar), chars.dropWhile isNameChar)
    else ("", chars)
  | [] => ("", [])

/-- Whether a text is a name. -/
def isName (text : String) : Bool :=
  match splitName text.toList with
  | (name, rest) => name != "" && rest.isEmpty

/-- A text as a name and a value, split at the first equals sign. -/
def splitDefinition (text : String) : String × Option String :=
  let chars := text.toList
  let name := chars.takeWhile (· != '=')
  match chars.drop name.length with
  | _ :: value => (String.ofList name, some (String.ofList value))
  | [] => (text, none)

end ReleaseKit.Shell
