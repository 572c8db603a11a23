/-
ReleaseKit.Action — the single things a release does.

A step of a release is planned as a list of actions before anything happens.
Five kinds of action work on local files; the sixth runs an external command.
Each is shown as the shell command it amounts to.
-/
import ReleaseKit.CommandLine
import ReleaseKit.LocalPath
import ReleaseKit.Text.Blank

namespace ReleaseKit

/-- One thing a release does. -/
inductive Action where
  /-- removes a directory with all it holds and makes it anew, empty -/
  | resetDir (path : LocalPath)
  /-- makes a directory, and those above it, where they are missing -/
  | createDir (path : LocalPath)
  | exec (command : CommandLine)
  | copyFile (source dest : LocalPath)
  /-- zips `source` into `dest`, as the only entry, under the name `entry` -/
  | archive (source : LocalPath) (entry : String) (dest : LocalPath)
  | writeFile (path : LocalPath) (contents : String)
deriving DecidableEq, Repr

namespace Action

/-- The short name of the kind of action. -/
def kind : Action → String
  | resetDir _ => "reset_dir"
  | createDir _ => "create_dir"
  | exec _ => "exec"
  | copyFile _ _ => "copy_file"
  | archive _ _ _ => "archive"
  | writeFile _ _ => "write_file"

/-- The external command, if the action runs one. -/
def command? : Action → Option CommandLine
  | exec command => some command
  | _ => none

/-- The local paths that the action works on itself. -/
def paths : Action → List LocalPath
  | resetDir path => [path]
  | createDir path => [path]
  | exec _ => []
  | copyFile source dest => [source, dest]
  | archive source _ dest => [source, dest]
  | writeFile path _ => [path]

/-- A path as a word of a shell. -/
def quotePath (path : LocalPath) : String := Shell.quote path.text

/-- The shell command that an action amounts to. An archive names its entry
where it differs from the name of its source; what a file gets is shown without
the blanks that end it. -/
def render : Action → String
  | resetDir path => "rm -rf " ++ quotePath path ++ " && mkdir -p " ++ quotePath path
  | createDir path => "mkdir -p " ++ quotePath path
  | exec command => command.render
  | copyFile source dest => "cp " ++ quotePath source ++ " " ++ quotePath dest
  | archive source entry dest =>
    "zip " ++ quotePath dest ++ " " ++ quotePath source ++
      if source.fileName = some entry then "" else " (as " ++ Shell.quote entry ++ ")"
  | writeFile path contents =>
    "echo " ++ Shell.quote (Text.trimEnd contents) ++ " > " ++ quotePath path

/-- An action as a report lists it, with the text of each path. -/
def toJson (a : Action) : Json :=
  .object <| ("action", .text a.kind) ::
    match a with
    | resetDir path => [("path", .text path.text)]
    | createDir path => [("path", .text path.text)]
    | exec command => command.members
    | copyFile source dest => [("from", .text source.text), ("to", .text dest.text)]
    | archive source entry dest =>
      [("source", .text source.text), ("entry", .text entry), ("dest", .text dest.text)]
    | writeFile path contents => [("path", .text path.text), ("contents", .text contents)]

end Action

end ReleaseKit
