/-
ReleaseKit.CommandLine — invocations of external programs.

A command line is a program, its arguments and the variables set for it. It is
shown as it would be typed into a shell: variables first, every word quoted
that a shell would split or expand.
-/
import ReleaseKit.Json

namespace ReleaseKit

/-! ## §1 Words -/

namespace Shell

/-- The characters that stand for themselves in an unquoted word. -/
def isPlain (c : Char) : Bool :=
  c.isAlphanum || ['-', '_', '.', '/', '=', ':', '@', ',', '+', '%'].contains c

/-- A character inside single quotes; a single quote has to leave them. -/
def quotedChar (c : Char) : List Char :=
  if c = '\x27' then ['\x27', '\\', '\x27', '\x27'] else [c]

/-- A word as it is typed: bare if that is safe, else in single quotes. -/
def quote (word : String) : String :=
  if word ≠ "" ∧ word.toList.all isPlain then word
  else String.ofList ('\x27' :: word.toList.flatMap quotedChar ++ ['\x27'])

end Shell

/-! ## §2 Command lines -/

/-- A program with its arguments and the variables set for it, in order. -/
structure CommandLine where
  program : String
  args : List String
  env : List (String × String)
deriving DecidableEq, Repr

namespace CommandLine

/-- A program alone. -/
def ofProgram (program : String) : CommandLine := ⟨program, [], []⟩

def arg (c : CommandLine) (value : String) : CommandLine := { c with args := c.args ++ [value] }

def addArgs (c : CommandLine) (values : List String) : CommandLine :=
  { c with args := c.args ++ values }

def setVar (c : CommandLine) (name value : String) : CommandLine :=
  { c with env := c.env ++ [(name, value)] }

/-- The argument after the first one that equals `flag`. -/
def argAfter (flag : String) : List String → Option String
  | [] => none
  | arg :: rest => if arg = flag then rest.head? else argAfter flag rest

def flagValue (c : CommandLine) (flag : String) : Option String := argAfter flag c.args

/-- The value of the first variable of that name. -/
def varValue (c : CommandLine) (name : String) : Option String := c.env.lookup name

/-- The command line as it would be typed. -/
def render (c : CommandLine) : String :=
  String.join (c.env.map fun (name, value) => name ++ "=" ++ Shell.quote value ++ " ") ++
    Shell.quote c.program ++ String.join (c.args.map fun arg => " " ++ Shell.quote arg)

/-- The members that describe a command line; variables only if there are any. -/
def members (c : CommandLine) : List (String × Json) :=
  [("program", .text c.program), ("args", Json.texts c.args)] ++
    if c.env.isEmpty then []
    else [("env", .array (c.env.map fun (name, value) => Json.texts [name, value]))]

def toJson (c : CommandLine) : Json := .object c.members

end CommandLine

end ReleaseKit
