/-
ReleaseKit.Main — the command line.

The outer layer of the program. It reads what a release needs from the disk into
a file tree (the manifest, what is at the paths that the plan names, the scripts
that its commands are), runs the program on that tree, writes what has changed
back to the disk, and prints. External commands have to be shell scripts: they
are run on the file tree by the host, and no process is started.
-/
import ReleaseKit.FileTree.Listing
import ReleaseKit.Host
import ReleaseKit.Program

namespace ReleaseKit.Main

/-- The paths that an action works on. -/
def pathsOf : Action → List LocalPath
  | .resetDir path => [path]
  | .createDir path => [path]
  | .exec _ => []
  | .copyFile source dest => [source, dest]
  | .archive source _ dest => [source, dest]
  | .writeFile path _ => [path]

/-- What is at a path on the disk. -/
def probe (path : String) : IO (Option Node) := do
  try
    pure (some (.file (.plain (← IO.FS.readBinFile path))))
  catch e =>
    match e with
    | .inappropriateType .. => pure (some .dir)
    | .illegalOperation .. => pure (some .dir)
    | _ => pure none

/-- The tree with what is on the disk at a path, and above it. -/
def fetch (cwd : Location) (t : FileTree) (path : LocalPath) : IO FileTree := do
  let mut t := t
  for above in path.ancestors.reverse do
    if !above.isEmpty then
      match ← probe above.text with
      | some .dir => t := (t.makeDirs cwd above).2
      | some (.file contents) => t := t.writeBelow cwd above contents
      | none => pure ()
  pure t

/-- The machine with the scripts that the commands of a plan are, from the directories
that are searched for programs. -/
def withTools (m : Machine) (dirs : List String) (actions : List Action) : IO Machine := do
  let mut disk := m.disk
  for program in (actions.filterMap fun action => action.command?.map (·.program)).eraseDups do
    for dir in dirs do
      match ← probe (dir ++ "/" ++ program) with
      | some (.file contents) =>
        let l := program :: Installation.locationOf dir
        if (disk.entry? l).isNone then disk := (disk.makeAll l.tail).create l 0o755 contents |>.1
      | _ => pure ()
  pure { m with disk }

/-- A location as an absolute path. -/
def pathOf (l : Location) : String := "/" ++ String.intercalate "/" l.reverse

/-- Writes to the disk what differs between two trees. Directories that the
plan makes anew lose what the first tree does not know of. -/
def writeBack (cwd : Location) (actions : List Action) (before after : FileTree) : IO Unit := do
  for action in actions do
    match action with
    | .resetDir path =>
      match after.find cwd path with
      | .ok (l, .dir) =>
        match ← probe (pathOf l) with
        | some .dir => IO.FS.removeDirAll (pathOf l)
        | _ => pure ()
      | _ => pure ()
    | _ => pure ()
  for (l, node) in before.toList do
    match node, after.node? l with
    | .file _, none =>
      match ← probe (pathOf l) with
      | some _ => IO.FS.removeFile (pathOf l)
      | none => pure ()
    | _, _ => pure ()
  for (l, node) in after.toList.mergeSort fun a b => a.1.length ≤ b.1.length do
    -- what was there all along is still there, unless its directory was emptied
    if before.node? l != some node || Location.below cwd l then
      match node with
      | .dir => IO.FS.createDirAll (pathOf l)
      | .file contents =>
        match ← probe (pathOf l) with
        | some (.file (.plain bytes)) =>
          if bytes != contents.bytes then IO.FS.writeBinFile (pathOf l) contents.bytes
        | _ =>
          IO.FS.createDirAll (pathOf l.tail)
          IO.FS.writeBinFile (pathOf l) contents.bytes

/-- What the program is asked to execute, if it is a release that can be
configured. -/
def plannedActions (vars : String → Option ByteArray) (t : FileTree) (cwd : Location)
    (args : List String) : List Action :=
  match Request.ofArgs (args.map OsText.ofString) with
  | .ok (.release a) =>
    if a.dryRun then []
    else
      match Program.configure vars t cwd a with
      | .ok config => a.step.plan config
      | .error _ => []
  | _ => []

/-- The manifest that the arguments name. -/
def manifestPath (args : List String) : List LocalPath :=
  match Request.ofArgs (args.map OsText.ofString) with
  | .ok (.release a) => a.manifest.toList
  | _ => []

end ReleaseKit.Main

open ReleaseKit ReleaseKit.Main in
/-- Runs the program on the disk. -/
def main (args : List String) : IO UInt32 := do
  let started ← IO.monoMsNow
  let cwd := Installation.locationOf (← IO.currentDir).toString
  let names := [Settings.versionVar, Settings.tagVar, "PATH", "HOME"]
  let found ← names.filterMapM fun name => do
    pure ((← IO.getEnv name).map fun value => (name, value))
  let vars (name : String) : Option ByteArray := (found.lookup name).map String.toUTF8
  let machine := Machine.ofDisk (Installation.disk.makeAll cwd)
  let mut tree : FileTree := machine.seen
  for path in manifestPath args do
    tree ← fetch cwd tree path
  let actions := plannedActions vars tree cwd args
  for action in actions do
    for path in pathsOf action do
      tree ← fetch cwd tree path
  let machine ← withTools (machine.update tree) (((found.lookup "PATH").getD "").splitOn ":") actions
  let host : Host := ⟨found.map fun (name, value) => (Raw.ofText name, Raw.ofText value)⟩
  let elapsed := Duration.ofParts 0 (((← IO.monoMsNow) - started) * 1000000)
  let outcome := Program.run (host.runner cwd) cwd vars elapsed (args.map OsText.ofString) machine.seen machine
  writeBack cwd actions machine.seen outcome.tree
  (← IO.getStdout).write (Zip.ofList outcome.stdout)
  (← IO.getStderr).write (Zip.ofList outcome.stderr)
  pure (UInt32.ofNat outcome.code)
