/-
ReleaseKit.Runner — what runs the external commands of a release.

A runner is any function of the command, a state of its own and the files:
it says how the command ended and what it leaves. The runners of this module
start no program. The faithful one builds what the compiler would build and lets
every other command succeed; the rehearsing one records each command, fails where
it is told to, and is faithful otherwise.

  §1 Runners     — `Ran`, `Runner`.
  §2 Faithful    — `buildOutput`, `Runner.faithful`.
  §3 Rehearsing  — `FailRule`, `Runner.rehearsing`.
-/
import ReleaseKit.Error
import ReleaseKit.FileTree.Operations
import ReleaseKit.Text.Search
import ReleaseKit.Toolchain

namespace ReleaseKit

/-! ## §1 Runners -/

/-- How a command went and what it leaves. -/
structure Ran (σ : Type) (τ : Type := FileTree) where
  result : Except ReleaseError Unit
  state : σ
  /-- the file system, a file tree unless another is named -/
  tree : τ
  /-- what the command wrote to standard error -/
  diagnosis : List UInt8

/-- Runs commands. -/
abbrev Runner (σ : Type) (τ : Type := FileTree) := CommandLine → σ → τ → Ran σ τ

/-! ## §2 Faithful -/

/-- What a build for a target leaves in its output file. -/
def buildText (os arch : String) : String := "built for " ++ os ++ " " ++ arch ++ "\n"

/-- Writes a file after making the directories above it; what cannot be done is
left undone. -/
def FileTree.writeBelow (t : FileTree) (cwd : Location) (p : LocalPath) (contents : Contents) :
    FileTree :=
  let ready :=
    match p.parent with
    | some parent => (t.makeDirs cwd parent).2
    | none => t
  match ready.writeFile cwd p contents with
  | .ok written => written
  | .error _ => ready

/-- The tree after a command that succeeds: a compiler with an output file has written
this there. -/
def CommandLine.leave (c : CommandLine) (output : Contents) (cwd : Location) (t : FileTree) :
    FileTree :=
  match c.flagValue "-o" with
  | some path =>
    if c.program = Toolchain.go then t.writeBelow cwd (.ofText path) output else t
  | none => t

/-- What a faithful compiler writes: for which system it has built. -/
def CommandLine.built (c : CommandLine) : Contents :=
  .ofText (buildText ((c.varValue "GOOS").getD "") ((c.varValue "GOARCH").getD ""))

/-- The tree after a command that succeeds, of a faithful compiler. -/
def CommandLine.buildOutput (c : CommandLine) (cwd : Location) (t : FileTree) : FileTree :=
  c.leave c.built cwd t

/-- Every command succeeds and the compiler writes its output; nothing else
happens. -/
def Runner.faithful (σ : Type) (cwd : Location) : Runner σ := fun c state t =>
  ⟨.ok (), state, c.buildOutput cwd t, []⟩

/-! ## §3 Rehearsing -/

/-- How a command that must fail does so. -/
inductive Failing where
  /-- it ends with this code, or by a signal -/
  | exit (code : Option Int)
  /-- it cannot be started -/
  | refused (text : String)
deriving DecidableEq, Repr

/-- Makes the commands fail in whose text the pattern occurs. -/
structure FailRule where
  pattern : String
  failing : Failing
deriving DecidableEq, Repr

def FailRule.applies (rule : FailRule) (line : String) : Bool :=
  Text.occursIn rule.pattern.toList line.toList

/-- The error of a command that fails by a rule. -/
def Failing.error (line : String) : Failing → ReleaseError
  | exit code => .commandFailed line code
  | refused text => .spawn line (.other text)

/-- Records every command in the text it is shown in. The first rule that
applies makes it fail before it does anything. -/
def Runner.rehearsing (rules : List FailRule) (cwd : Location) : Runner (List String) :=
  fun c lines t =>
    let line := c.render
    match rules.find? (·.applies line) with
    | some rule => ⟨.error (rule.failing.error line), lines ++ [line], t, []⟩
    | none => ⟨.ok (), lines ++ [line], c.buildOutput cwd t, []⟩

end ReleaseKit
