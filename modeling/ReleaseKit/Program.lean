/-
ReleaseKit.Program — the whole program, from its arguments to its exit code.

A release reads its settings from the environment, its manifest from a file, and
puts a configuration together. A dry run lists the plan of the step; otherwise
the plan is executed. With text output the echo of the actions goes to standard
output, between the banner and the summary. With JSON output it goes to standard
error, among what the commands write there, and standard output has one report
or nothing.

Standard error also has a log. Of what the program logs, the warnings of planning and
the failure of an action are here, as events that some logger puts into lines. What
is logged only where more is asked for, the configuration, every action and what commands print,
is left out, and so are the colours of a terminal.

  §1 Outcomes       — `Complaint`, `LogEvent`, `Outcome`.
  §2 Configuration  — `configure`.
  §3 The runs       — `dryRun`, `release`.
  §4 The program    — `Program.run`.
-/
import ReleaseKit.Arguments
import ReleaseKit.Execution
import ReleaseKit.Manifest.File
import ReleaseKit.Report

namespace ReleaseKit

/-! ## §1 Outcomes -/

/-- An error as the user is told: contexts and texts, the outermost first, and
the exit code it asks for. -/
structure Complaint where
  texts : List String
  code : Int
deriving DecidableEq, Repr

namespace Complaint

/-- A complaint about the configuration. -/
def ofConfig (contexts : List String) (e : ConfigError) : Complaint :=
  ⟨contexts ++ e.message :: e.causes, 1⟩

/-- A complaint about a step that was stopped. -/
def ofRelease (step : Step) (e : ReleaseError) : Complaint :=
  ⟨("Release step '" ++ step.name ++ "' failed") :: e.message :: e.causes, e.exitCode⟩

/-- A complaint about a report that cannot be written. -/
def ofReport (e : Report.Unwritable) : Complaint :=
  ⟨["Failed to serialize report to JSON", e.text], 1⟩

/-- The exit code of the program: one where the code fits into no byte. -/
def exitCode (c : Complaint) : Nat :=
  if 0 ≤ c.code ∧ c.code < 256 then c.code.toNat else 1

end Complaint

/-- Something that the program logs. -/
inductive LogEvent where
  /-- a warning: planning has left out a bundle, whose target the environment does not build -/
  | bundleSkipped (bundle : Bundle) (environment : Environment)
  /-- an error: an action that was started has failed -/
  | actionFailed (stop : Stopped)
deriving DecidableEq, Repr

namespace LogEvent

def level : LogEvent → String
  | bundleSkipped _ _ => "WARN"
  | actionFailed _ => "ERROR"

def message : LogEvent → String
  | bundleSkipped _ _ => Step.skippedMessage
  | actionFailed _ => "release action failed, stopping"

/-- What an event says under which names. -/
def fields : LogEvent → List (String × String)
  | bundleSkipped bundle environment =>
    [("bundle", bundle.name), ("target", bundle.target.pair), ("environment", environment.name)]
  | actionFailed stop =>
    [("index", toString stop.index), ("kind", stop.action.kind), ("error", stop.error.message)]

end LogEvent

/-- Something on standard error. -/
inductive Notice where
  | text (bytes : List UInt8)
  | log (event : LogEvent)
deriving DecidableEq, Repr

/-- The bytes of a notice, with lines that a logger makes of events. -/
def Notice.bytesWith (logger : LogEvent → List UInt8) : Notice → List UInt8
  | text bytes => bytes
  | log event => logger event

/-- What the program leaves: its exit code, what it has written, and the file system and the
state of the runner. -/
structure Outcome (σ : Type) (τ : Type := FileTree) where
  code : Nat
  stdout : List UInt8
  /-- what is on standard error, in order -/
  notices : List Notice
  tree : τ
  state : σ

namespace Outcome

variable {σ τ : Type}

/-- The bytes on standard error, with lines that a logger makes of events. -/
def stderrWith (logger : LogEvent → List UInt8) (o : Outcome σ τ) : List UInt8 :=
  o.notices.flatMap (Notice.bytesWith logger)

/-- The bytes on standard error without the log. -/
def stderr (o : Outcome σ τ) : List UInt8 := o.stderrWith fun _ => []

end Outcome

namespace Program

/-- Texts as lines. -/
def lines (texts : List String) : List UInt8 := Text.bytesOf (String.join (texts.map (· ++ "\n")))

/-- The line that reports a complaint. -/
def complaintLine (c : Complaint) : List UInt8 := lines [Report.errorLine c.texts]

/-- The program after something was wrong before anything was done. -/
def refuse {σ τ : Type} (complaint : Complaint) (before : List Notice) (t : τ) (state : σ) :
    Outcome σ τ :=
  ⟨complaint.exitCode, [], before ++ [.text (complaintLine complaint)], t, state⟩

/-- What planning a step logs. -/
def warnings (step : Step) (c : Config) : List Notice :=
  (step.skipped c).map fun b => .log (.bundleSkipped b c.environment)

/-- What is logged of a run that was stopped. -/
def stopNotice (stop : Stopped) : List Notice :=
  if stop.started then [.log (.actionFailed stop)] else []

/-! ## §2 Configuration -/

variable {σ τ : Type} [FileSystem τ]

/-- The configuration that a release is asked for: the settings come first, then
the manifest, then the checks of both together. -/
def configure (vars : String → Option ByteArray) (t : τ) (cwd : Location)
    (a : Arguments) : Except Complaint Config :=
  match Settings.ofEnvironment vars with
  | .error e => .error (.ofConfig ["Failed to read release settings from the environment"] e)
  | .ok settings =>
    match (match a.manifest with
      | some path => Manifest.load t cwd path
      | none => .ok Manifest.standard) with
    | .error e => .error (.ofConfig [] e)
    | .ok manifest =>
      match Config.assemble settings manifest a.distDir with
      | .error e => .error (.ofConfig ["Invalid release configuration"] e)
      | .ok config => .ok config

/-! ## §3 The runs -/

/-- Lists the plan of a step. Nothing is done. -/
def dryRun (a : Arguments) (c : Config) (t : τ) (state : σ) : Outcome σ τ :=
  let actions := a.step.plan c
  match a.output with
  | .json =>
    match Report.planJson a.step c actions with
    | .ok document => ⟨0, lines [document.indented], warnings a.step c, t, state⟩
    | .error e => refuse (.ofReport e) (warnings a.step c) t state
  | .text =>
    if actions = [] then
      ⟨0, lines [Report.banner c],
        warnings a.step c ++ [.text (lines [Report.idleNotice a.step])], t, state⟩
    else
      ⟨0, lines (Report.banner c :: Report.planLines a.step actions), warnings a.step c, t, state⟩

/-- Executes the plan of a step and reports. -/
def release (run : Runner σ τ) (cwd : Location) (elapsed : Duration) (a : Arguments)
    (c : Config) (t : τ) (state : σ) : Outcome σ τ :=
  let (result, left) := execute run cwd (a.step.plan c) (.start t state none)
  -- where the echo goes: to standard output with text, to standard error with JSON
  let (stdout, told) : List UInt8 × List UInt8 :=
    match a.output with
    | .text => (lines [Report.banner c] ++ left.echoed, left.diagnosed)
    | .json => ([], left.written)
  let notices := warnings a.step c ++ [.text told]
  let failed (before : List Notice) (complaint : Complaint) : Outcome σ τ :=
    ⟨complaint.exitCode, stdout, before ++ [.text (complaintLine complaint)], left.tree, left.state⟩
  match result with
  | .error stop => failed (notices ++ stopNotice stop) (.ofRelease a.step stop.error)
  | .ok summary =>
    match a.output with
    | .text =>
      ⟨0, stdout ++ lines (Report.summaryLines a.step c summary elapsed), notices, left.tree,
        left.state⟩
    | .json =>
      match Report.releaseJson a.step c summary elapsed with
      | .ok document => ⟨0, lines [document.indented], notices, left.tree, left.state⟩
      | .error e => failed notices (.ofReport e)

/-! ## §4 The program -/

def name : String := "datacol-dist"

def version : String := "0.7.0"

/-- How the program is used. -/
def usage : List String :=
  ["Reads the release version from " ++ Settings.versionVar ++
      " and the deployment environment from " ++ Settings.tagVar ++ ".",
    "With no STEP the full release runs.", "", "Usage: " ++ name ++ " [OPTIONS] [STEP]", "",
    "Steps: " ++ String.intercalate ", " (Step.every.map Step.name), "",
    "Options:",
    "  -c, --config <CONFIG>      Release manifest (JSON)",
    "      --dist-dir <DIST_DIR>  Local staging directory [default: " ++
      Config.defaultDistDir ++ "]",
    "      --dry-run              Print the planned actions without running anything",
    "  -o, --output <OUTPUT>      Output format: text or json",
    "  -v, --verbose              Enable verbose output",
    "  -h, --help                 Print help",
    "  -V, --version              Print version"]

/-- Runs the program. The time that a release takes is measured outside and
handed in. -/
def run (runner : Runner σ τ) (cwd : Location) (vars : String → Option ByteArray)
    (elapsed : Duration) (args : List OsText) (t : τ) (state : σ) : Outcome σ τ :=
  match Request.ofArgs args with
  | .error e => ⟨2, [], [.text (lines ["error: " ++ e.message])], t, state⟩
  | .ok .version => ⟨0, lines [name ++ " " ++ version], [], t, state⟩
  | .ok .help => ⟨0, lines usage, [], t, state⟩
  | .ok (.release a) =>
    match configure vars t cwd a with
    | .error complaint => refuse complaint [] t state
    | .ok config =>
      if a.dryRun then dryRun a config t state
      else release runner cwd elapsed a config t state

end Program

end ReleaseKit
