/-
ReleaseKit.Settings — what the environment says about a release.

Two variables are needed: the version, and the tag of the environment it is
released to. A variable that is not set, or whose value is no text, is missing;
the version is looked for first.
-/
import ReleaseKit.Error

namespace ReleaseKit

structure Settings where
  version : String
  envTag : String
deriving DecidableEq, Repr

namespace Settings

/-- The variable that holds the version. -/
def versionVar : String := "VERSION"

/-- The variable that holds the environment tag. -/
def tagVar : String := "DATACOL_ENV"

/-- The text of one variable. -/
def readVar (value : String → Option ByteArray) (name : String) : Except ConfigError String :=
  match (value name).bind String.fromUTF8? with
  | some text => .ok text
  | none => .error (.missingVar name)

/-- Reads both variables from an environment. -/
def ofEnvironment (value : String → Option ByteArray) : Except ConfigError Settings := do
  let version ← readVar value versionVar
  let envTag ← readVar value tagVar
  pure ⟨version, envTag⟩

end Settings

end ReleaseKit
