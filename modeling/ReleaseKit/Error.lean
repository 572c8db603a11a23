/-
ReleaseKit.Error — everything that can end a release.

An error is a value that says what went wrong; its text is made by `message`,
and `causes` are the texts of what lies behind it, nearest first. The exit code
of a release is that of the command that failed, if one did.
-/
import ReleaseKit.Fault
import ReleaseKit.Json.Reader
import ReleaseKit.LocalPath
import ReleaseKit.Target
import ReleaseKit.Version

namespace ReleaseKit

/-! ## §1 Configuring a release -/

/-- Why a configuration could not be put together. -/
inductive ConfigError where
  | missingVar (name : String)
  | invalidVersion (text : String) (flaw : Version.Flaw)
  | badTarget (flaw : Target.Flaw)
  | emptyMatrix (environment : String)
  | readManifest (path : LocalPath) (cause : Fault)
  | parseManifest (path : LocalPath) (cause : Json.Fault)
deriving DecidableEq, Repr

namespace ConfigError

def message : ConfigError → String
  | missingVar name => "environment variable " ++ name ++ " is not set"
  | invalidVersion text flaw => "invalid version '" ++ text ++ "': " ++ flaw.reason
  | badTarget flaw => flaw.message
  | emptyMatrix environment => "platform matrix for '" ++ environment ++ "' is empty"
  | readManifest path cause =>
    "failed to read release manifest " ++ path.text ++ ": " ++ cause.text
  | parseManifest path cause =>
    "failed to parse release manifest " ++ path.text ++ ": " ++ cause.text

/-- The texts of what lies behind an error, nearest first. -/
def causes : ConfigError → List String
  | readManifest _ cause => [cause.text]
  | parseManifest _ cause => [cause.text]
  | _ => []

end ConfigError

/-! ## §2 Running a release -/

/-- Why an archive could not be written. -/
inductive ArchiveFault where
  /-- the archive's file refused a read or a write -/
  | io (cause : Fault)
  | invalid (reason : String)
  /-- an entry was looked for that the archive does not have -/
  | missing
deriving DecidableEq, Repr

namespace ArchiveFault

def text : ArchiveFault → String
  | io _ => "i/o error"
  | invalid reason => "invalid Zip archive: " ++ reason
  | missing => "specified file not found in archive"

def causes : ArchiveFault → List String
  | io cause => [cause.text]
  | _ => []

end ArchiveFault

/-- Why a release was stopped. -/
inductive ReleaseError where
  | config (cause : ConfigError)
  /-- a command ended without success; without a code if a signal ended it -/
  | commandFailed (command : String) (code : Option Int)
  /-- a command could not be started -/
  | spawn (command : String) (cause : Fault)
  | io (path : LocalPath) (cause : Fault)
  /-- the text of an action could not be written out -/
  | echo (cause : Fault)
  | archive (path : LocalPath) (cause : ArchiveFault)
deriving DecidableEq, Repr

/-- Why a file could not be packed into an archive: one of the two files was refused, or
the archive itself could not be written. -/
inductive PackFault where
  | source (cause : Fault)
  | dest (cause : Fault)
  | archive (cause : ArchiveFault)
deriving DecidableEq, Repr

/-- What the release is told of a file that could not be packed. -/
def PackFault.error (source dest : LocalPath) : PackFault → ReleaseError
  | .source cause => .io source cause
  | .dest cause => .io dest cause
  | archive cause => .archive dest cause

/-- How a command ended, in words. -/
def describeExit : Option Int → String
  | some code => "exit code " ++ toString code
  | none => "terminated by signal"

namespace ReleaseError

def message : ReleaseError → String
  | config cause => cause.message
  | commandFailed command code => "command failed (" ++ describeExit code ++ "): " ++ command
  | spawn command cause => "failed to spawn " ++ command ++ ": " ++ cause.text
  | io path cause => "io error at " ++ path.text ++ ": " ++ cause.text
  | echo cause => "failed to echo action: " ++ cause.text
  | archive path cause => "failed to write archive " ++ path.text ++ ": " ++ cause.text

/-- The texts of what lies behind an error, nearest first. -/
def causes : ReleaseError → List String
  | config cause => cause.causes
  | commandFailed _ _ => []
  | spawn _ cause => [cause.text]
  | io _ cause => [cause.text]
  | echo cause => [cause.text]
  | archive _ cause => cause.text :: cause.causes

/-- The code of the command that failed; one for every other error, and for a
command whose code is zero or missing. -/
def exitCode : ReleaseError → Int
  | commandFailed _ (some code) => if code = 0 then 1 else code
  | _ => 1

end ReleaseError

end ReleaseKit
