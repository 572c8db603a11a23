/-
ReleaseKit.Report — what a user is told about a release.

A release is announced by a banner. A dry run lists the actions; a finished run
is summed up as lines of a label and a value, or as one JSON document. A document
has the paths of the release in it; it cannot be written if one of them is not text.
-/
import ReleaseKit.Duration
import ReleaseKit.Plan
import ReleaseKit.Summary

namespace ReleaseKit.Report

/-! ## §1 Text -/

/-- `ENV:<tag> bucket:<bucket>/<version>` -/
def banner (c : Config) : String :=
  "ENV:" ++ c.envTag ++ " bucket:" ++ c.bucket ++ "/" ++ c.version.text

/-- The line above the listing of a dry run. -/
def planHeader (step : Step) (actions : List Action) : String :=
  "Dry run - step '" ++ step.name ++ "' would perform " ++ toString actions.length ++
    " action(s)"

/-- The listing of a dry run: its header and a line for every action. -/
def planLines (step : Step) (actions : List Action) : List String :=
  planHeader step actions :: actions.map fun action => "  → " ++ action.render

/-- What is said of a step without actions. -/
def idleNotice (step : Step) : String := "⚠ Step '" ++ step.name ++ "' has nothing to do"

/-- What an archive is called: its file name, or its path if it has none. -/
def archiveLabel (path : LocalPath) : String :=
  match path.fileName with
  | some name => name.shown
  | none => path.text

/-- Whether a step moves the pointer to the latest version. -/
def movesPointer : Step → Bool
  | .all => true
  | .publish => true
  | _ => false

/-- Labels and values that describe a finished run: archives by their names,
and the pointer's new place if the step moved it. -/
def stats (step : Step) (c : Config) (s : Summary) : List (String × String) :=
  [("Environment", c.envTag), ("Actions", toString s.actions),
    ("Commands", toString s.commands)] ++
  s.archives.map (fun a => (archiveLabel a.path, toString a.size ++ " bytes")) ++
  if movesPointer step then [("Latest", c.version.text ++ " -> " ++ c.latestRemote)] else []

/-- The lines that end a finished run. -/
def summaryLines (step : Step) (c : Config) (s : Summary) (elapsed : Duration) : List String :=
  ["", "✓ Step '" ++ step.name ++ "' for " ++ c.version.text ++ " complete in " ++ elapsed.text] ++
    (stats step c s).map fun (label, value) => "  " ++ label ++ ": " ++ value

/-- The line that reports an error: its contexts and texts, outermost first. -/
def errorLine (texts : List String) : String := "✗ " ++ String.intercalate ": " texts

/-! ## §2 JSON -/

/-- Why a document cannot be written. -/
inductive Unwritable where
  /-- a path in it is not text -/
  | path
deriving DecidableEq, Repr

def Unwritable.text : Unwritable → String
  | path => "path contains invalid UTF-8 characters"

/-- A document that has paths in it. -/
def document (paths : List LocalPath) (members : List (String × Json)) : Except Unwritable Json :=
  if paths.all LocalPath.isText then .ok (.object members) else .error .path

/-- The document of a dry run. -/
def planJson (step : Step) (c : Config) (actions : List Action) : Except Unwritable Json :=
  document (actions.flatMap Action.paths)
    [("step", .text step.name), ("version", .text c.version.text),
      ("environment", .text c.environment.name), ("env_tag", .text c.envTag),
      ("bucket", .text c.bucket), ("matrix", Target.listToJson c.matrix),
      ("actions", .array (actions.map Action.toJson))]

/-- The document of a finished run. -/
def releaseJson (step : Step) (c : Config) (s : Summary) (elapsed : Duration) :
    Except Unwritable Json :=
  document (s.archives.map ArchiveRecord.path) <|
    [("step", .text step.name), ("version", .text c.version.text),
      ("environment", .text c.environment.name), ("bucket", .text c.bucket),
      ("elapsed_ms", .nat elapsed.inMilliseconds)] ++ s.members

end ReleaseKit.Report
