/-
ReleaseKit.Arguments — the arguments of the program.

Options may stand anywhere before a double hyphen; what is no option is the step.
A flag takes no value and an option takes one, in the same argument or as the
next one. Nothing may be given twice.

A value is looked at only when the next known argument starts or the arguments
end, so an argument that nothing is known about is reported before it.

  §1 What is asked for   — `Arguments`, `Request`.
  §2 Usage errors        — `UsageError` and its text.
  §3 Values              — `Given`, `Given.settle`.
  §4 Reading             — `Request.ofArgs`.
-/
import ReleaseKit.Config
import ReleaseKit.Plan
import ReleaseKit.Text.Terminal

namespace ReleaseKit

/-! ## §1 What is asked for -/

/-- The form of what is printed. -/
inductive OutputFormat where
  | text
  | json
deriving DecidableEq, Repr

def OutputFormat.ofName? : String → Option OutputFormat
  | "text" => some text
  | "json" => some json
  | _ => none

namespace Step

/-- Older names of some steps, which are understood as well. -/
def aliases : List (String × Step) :=
  [("push_all", all), ("clean_version_dir", clean), ("apictl", api), ("build_all", build),
    ("push_zip", archive)]

/-- The step that an argument names, exactly. -/
def ofArg? (s : String) : Option Step :=
  match ofName? s with
  | some step => some step
  | none => aliases.lookup s

end Step

/-- What a release is asked to do. -/
structure Arguments where
  step : Step
  manifest : Option LocalPath
  distDir : LocalPath
  dryRun : Bool
  output : OutputFormat
  verbose : Bool
deriving DecidableEq, Repr

/-- What the program is asked to do. -/
inductive Request where
  | version
  | help
  | release (a : Arguments)
deriving DecidableEq, Repr

/-! ## §2 Usage errors -/

/-- What takes a value. -/
inductive Slot where
  | step
  | config
  | distDir
  | output
deriving DecidableEq, Repr

/-- How messages call what takes a value. -/
def Slot.label : Slot → String
  | step => "[STEP]"
  | config => "--config <CONFIG>"
  | distDir => "--dist-dir <DIST_DIR>"
  | output => "--output <OUTPUT>"

/-- What takes no value. -/
inductive Flag where
  | dryRun
  | verbose
  | version
  | help
deriving DecidableEq, Repr

/-- How messages call a flag. -/
def Flag.label : Flag → String
  | dryRun => "--dry-run"
  | verbose => "--verbose"
  | version => "--version"
  | help => "--help"

/-- Why arguments are not understood. -/
inductive UsageError where
  | unexpected (arg : OsText)
  | missingValue (slot : Slot)
  | invalidValue (slot : Slot) (value : OsText)
  | repeatedSlot (slot : Slot)
  | repeatedFlag (flag : Flag)
  | unwantedValue (flag : Flag) (value : OsText)
deriving DecidableEq, Repr

/-- The text of a usage error. Of what was given, it repeats what is shown of it. -/
def UsageError.message : UsageError → String
  | unexpected arg => "unexpected argument '" ++ Text.shown arg.shown ++ "' found"
  | missingValue slot => "a value is required for '" ++ slot.label ++ "' but none was supplied"
  | invalidValue slot value =>
    "invalid value '" ++ Text.shown value.shown ++ "' for '" ++ slot.label ++ "'"
  | repeatedSlot slot => "the argument '" ++ slot.label ++ "' cannot be used multiple times"
  | repeatedFlag flag => "the argument '" ++ flag.label ++ "' cannot be used multiple times"
  | unwantedValue flag value =>
    "unexpected value '" ++ Text.shown value.shown ++ "' for '" ++ flag.label ++
      "' found; no more were expected"

/-! ## §3 Values -/

/-- What has been given so far. -/
structure Given where
  step : Option Step
  config : Option LocalPath
  distDir : Option LocalPath
  output : Option OutputFormat
  dryRun : Bool
  verbose : Bool
  /-- what waits to be looked at, with its value if that has come -/
  pending : Option (Slot × Option OsText)
deriving DecidableEq, Repr

namespace Given

def nothing : Given := ⟨none, none, none, none, false, false, none⟩

/-- Whether something has a value that has been looked at. -/
def has (g : Given) : Slot → Bool
  | .step => g.step.isSome
  | .config => g.config.isSome
  | .distDir => g.distDir.isSome
  | .output => g.output.isSome

/-- The value of an argument. An empty one counts as missing; only paths need not be text. -/
def assign (g : Given) (slot : Slot) (value : OsText) : Except UsageError Given :=
  if g.has slot then .error (.repeatedSlot slot)
  else if value.code = "" then .error (.missingValue slot)
  else
    match slot with
    | .step =>
      match value.text?.bind Step.ofArg? with
      | some step => .ok { g with step := some step }
      | none => .error (.invalidValue slot value)
    | .config => .ok { g with config := some ⟨value⟩ }
    | .distDir => .ok { g with distDir := some ⟨value⟩ }
    | .output =>
      match value.text?.bind OutputFormat.ofName? with
      | some format => .ok { g with output := some format }
      | none => .error (.invalidValue slot value)

/-- Looks at what waits. -/
def settle (g : Given) : Except UsageError Given :=
  match g.pending with
  | none => .ok g
  | some (slot, none) => .error (.missingValue slot)
  | some (slot, some value) => { g with pending := none }.assign slot value

/-- What is asked for when nothing more comes. -/
def finish (g : Given) : Arguments where
  step := g.step.getD .all
  manifest := g.config
  distDir := g.distDir.getD ⟨Config.defaultDistDir⟩
  dryRun := g.dryRun
  output := g.output.getD .text
  verbose := g.verbose

end Given

/-! ## §4 Reading -/

/-- What a known option is. -/
inductive Known where
  | flag (flag : Flag)
  | slot (slot : Slot)

def Known.ofLong? : String → Option Known
  | "config" => some (slot .config)
  | "dist-dir" => some (slot .distDir)
  | "dry-run" => some (flag .dryRun)
  | "output" => some (slot .output)
  | "verbose" => some (flag .verbose)
  | "version" => some (flag .version)
  | "help" => some (flag .help)
  | _ => none

def Known.ofShort? : Char → Option Known
  | 'c' => some (slot .config)
  | 'o' => some (slot .output)
  | 'v' => some (flag .verbose)
  | 'V' => some (flag .version)
  | 'h' => some (flag .help)
  | _ => none

/-- What ends the reading of arguments early. -/
inductive Halt where
  | usage (error : UsageError)
  | request (r : Request)

namespace Given

def settled (g : Given) : Except Halt Given := g.settle.mapError .usage

/-- Takes a flag. -/
def raise (g : Given) (flag : Flag) : Except Halt Given := do
  let g ← g.settled
  match flag with
  | .dryRun =>
    if g.dryRun then .error (.usage (.repeatedFlag flag)) else .ok { g with dryRun := true }
  | .verbose =>
    if g.verbose then .error (.usage (.repeatedFlag flag)) else .ok { g with verbose := true }
  | .version => .error (.request .version)
  | .help => .error (.request .help)

/-- Takes an option with the value in its argument. -/
def attach (g : Given) (slot : Slot) (value : OsText) : Except Halt Given := do
  let g ← g.settled
  (g.assign slot value).mapError .usage

/-- Takes an option whose value is the next argument. -/
def await (g : Given) (slot : Slot) : Except Halt Given := do
  let g ← g.settled
  .ok { g with pending := some (slot, none) }

/-- Takes an argument that starts with two hyphens. -/
def long (g : Given) (body : List Char) : Except Halt Given :=
  let name := body.takeWhile (· != '=')
  let value := (body.drop name.length).tail?.map fun chars => OsText.mk (String.ofList chars)
  match Known.ofLong? (String.ofList name), value with
  | none, _ => .error (.usage (.unexpected ⟨"--" ++ String.ofList name⟩))
  | some (.flag flag), none => g.raise flag
  | some (.flag flag), some value => .error (.usage (.unwantedValue flag value))
  | some (.slot slot), none => g.await slot
  | some (.slot slot), some value => g.attach slot value

/-- Takes the letters behind one hyphen. The rest behind an option's letter is
its value, without an equals sign before it. Where a byte is no letter, the whole rest
is refused. -/
def short (g : Given) : List Char → Except Halt Given
  | [] => .ok g
  | c :: rest =>
    match Known.ofShort? c with
    | none => 
      .error (.usage (.unexpected ⟨String.ofList ('-' :: if c = OsText.mark then c :: rest else [c])⟩))
    | some (.flag flag) =>
      match g.raise flag with
      | .ok g => g.short rest
      | .error halt => .error halt
    | some (.slot slot) =>
      match rest with
      | [] => g.await slot
      | '=' :: value => g.attach slot ⟨String.ofList value⟩
      | value => g.attach slot ⟨String.ofList value⟩

/-- Takes an argument that is no option: the step, unless there is one. -/
def operand (g : Given) (arg : OsText) : Except Halt Given :=
  match g.pending, g.step with
  | some (.step, _), _ => .error (.usage (.unexpected arg))
  | _, some _ => .error (.usage (.unexpected arg))
  | _, none => do
    let g ← g.settled
    .ok { g with pending := some (.step, some arg) }

/-- Takes an argument before the double hyphen. -/
def take (g : Given) (arg : OsText) : Except Halt Given :=
  match arg.code.toList with
  | '-' :: '-' :: body => g.long body
  | '-' :: c :: rest => g.short (c :: rest)
  | _ =>
    match g.pending with
    | some (slot, none) => .ok { g with pending := some (slot, some arg) }
    | _ => g.operand arg

/-- Takes all arguments. -/
def takeAll (g : Given) : List OsText → Except Halt Given
  | [] => .ok g
  | ⟨"--"⟩ :: operands => operands.foldlM operand g
  | arg :: rest =>
    match g.take arg with
    | .ok g => g.takeAll rest
    | .error halt => .error halt

end Given

/-- What arguments ask for. -/
def Request.ofArgs (args : List OsText) : Except UsageError Request :=
  match (do (← Given.nothing.takeAll args).settled) with
  | .ok g => .ok (.release g.finish)
  | .error (.request r) => .ok r
  | .error (.usage error) => .error error

end ReleaseKit
