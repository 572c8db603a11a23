/-
ReleaseKit.Machine.Commands — a machine on which external commands run.

A command is looked up and started; its standard output is gathered and noted if
it is not blank, its standard error is passed on, and how it ends decides whether
the command succeeded. What it does to the disk lasts until the next one. What
launches programs on the machine is handed in.

  §1 Machines      — `Machine`: the disk between two commands.
  §2 Hosts         — `Host`, the variables that a command sees.
  §3 Starting      — `Host.startWith`: what runs, or why nothing does.
  §4 The runner    — `Host.runnerWith`.
-/
import ReleaseKit.Machine.Disk.Snapshot
import ReleaseKit.Machine.Loading
import ReleaseKit.Machine.Utility
import ReleaseKit.Runner

namespace ReleaseKit

/-! ## §1 Machines -/

/-- A machine between two commands: its disk, and what commands have printed. -/
structure Machine where
  disk : Disk
  printed : List String

namespace Machine

/-- A machine with a disk on which nothing has run. -/
def ofDisk (d : Disk) : Machine := ⟨d, []⟩

/-- What a release sees of the disk. -/
def seen (m : Machine) : LinkedTree := m.disk.seen

/-- The machine after the tree that is seen of its disk has become another. -/
def update {τ : Type} [Image τ] (m : Machine) (t : τ) : Machine :=
  { m with disk := Image.onto m.disk m.seen t }

/-- The machine with scripts that can be run in a directory, in place of all that was
there. -/
def install (m : Machine) (dir : Location) (scripts : List (String × ByteArray)) : Machine :=
  let old := m.disk.children dir
  let emptied := old.foldl (fun (d : Disk) (name, _) => d.drop (name :: dir)) m.disk
  let full := scripts.foldl (fun (d : Disk) (name, bytes) =>
    (d.create (name :: dir) 0o755 (.plain bytes)).1) emptied
  { m with disk := full }

end Machine

/-! ## §2 Hosts -/

/-- What commands have in common: the variables that each of them sees. -/
structure Host where
  vars : List (String × String)

namespace Host

/-- A name and a value as they are handed to a program, which splits them at the
first equals sign. A variable without a name is not handed over. -/
def handOver (name value : String) : Option (String × String) :=
  let whole := (Raw.ofText name ++ "=" ++ Raw.ofText value).toList
  let first := whole.takeWhile (· != '=')
  if first.isEmpty then none
  else some (String.ofList first, String.ofList (whole.drop (first.length + 1)))

/-- Variables of which the last of each name counts. -/
def override (vars : List (String × String)) (name value : String) :
    List (String × String) :=
  vars.filter (fun (other, _) => other != name) ++ [(name, value)]

/-- What a command sees: the host's variables and its own, which win. -/
def environment (h : Host) (c : CommandLine) : List (String × String) :=
  c.env.foldl (fun vars (name, value) =>
    match handOver name value with
    | some (name, value) => override vars name value
    | none => vars) h.vars

/-! ## §3 Starting -/

/-- Whether any text of a command holds a NUL, which no program can be given. -/
def holdsNul (c : CommandLine) : Bool :=
  (c.program :: c.args ++ c.env.flatMap fun (name, value) => [name, value]).any fun text =>
    text.toList.contains '\x00'

/-- The path under which a command is run, and the words it is run with. A command that
has a search path of its own is looked for there, and a file of no known format is
then taken for a script; any other is looked for where the host looks. -/
def find (h : Host) (d : Disk) (cwd : Location) (c : CommandLine) :
    Except Fault (String × List String) :=
  let program := Raw.ofText c.program
  let words := program :: c.args.map Raw.ofText
  let attempt (lenient : Bool) (place : String) : Except Fault (String × List String) :=
    match Loading.load d cwd Loading.scriptDepth place words with
    | .ok _ => .ok (place, words)
    | .error fault =>
      if lenient && fault = Loading.formatFault then .ok ("/bin/sh", "/bin/sh" :: place :: words.drop 1)
      else .error fault
  let own? := if program.toList.contains '/' then none else (c.env.reverse.lookup "PATH").map Raw.ofText
  match own? with
  | some path => Loading.search (attempt true) path program
  | none => Loading.search (attempt false) ((h.vars.lookup "PATH").getD Loading.defaultPath) program

/-- The number of the process that starts commands. -/
def hostPid : Nat := 4000

/-- The process that a command is started as: nothing to read, two pipes to write
into. -/
def process (cwd : Location) : Process :=
  ⟨hostPid + 1, hostPid, cwd, 0o022, [(0, 0), (1, 1), (2, 2)], []⟩

/-- The world that a command is started in. -/
def world (cwd : Location) (d : Disk) : World where
  disk := d
  opened := #[⟨.device .null, 0, true, false, false⟩, ⟨.pipe 0, 0, false, true, false⟩,
    ⟨.pipe 1, 0, false, true, false⟩]
  pipes := #[⟨ByteArray.empty, none⟩, ⟨ByteArray.empty, none⟩]
  clock := 0
  deadline := none
  nextPid := hostPid + 2
  waiting := [hostPid]
  sent := []
  self := process cwd

/-- A command that has ended. -/
structure Ended where
  ending : Ending
  output : ByteArray
  errors : ByteArray
  disk : Disk

/-- Starts a command and lets it end. -/
def startWith (launch : Launcher) (h : Host) (cwd : Location) (c : CommandLine) (d : Disk) :
    Except Fault Ended :=
  if holdsNul c then .error .nulInData
  else
    match h.find d cwd c with
    | .error fault => .error fault
    | .ok (path, words) =>
      let (outcome, after) := (launch path words (h.environment c)).run (world cwd d)
      let pipe (n : Nat) : ByteArray := (after.pipes[n]?.map (·.data)).getD ByteArray.empty
      let ended (ending : Ending) : Except Fault Ended := .ok ⟨ending, pipe 0, pipe 1, after.disk⟩
      match outcome with
      | .ok (.ok code) => ended (.exit (code % 256))
      | .ok (.error fault) => .error fault
      | .error (.exit code) => ended (.exit (code % 256))
      | .error ending => ended ending

/-! ## §4 The runner -/

/-- What the ending of a process says about the command. -/
def judge (line : String) : Ending → Except ReleaseError Unit
  | .exit 0 => .ok ()
  | .exit code => .error (.commandFailed line (some code))
  | .killed _ => .error (.commandFailed line none)

/-- What a command printed, unless that is blank. -/
def printed (output : ByteArray) : Option String :=
  let text := Text.trim (Text.ofBytesLossy output.data.toList)
  if text = "" then none else some text

/-- Runs commands on a host. Its state is the machine. -/
def runnerWith (launch : Launcher) (h : Host) (cwd : Location) : Runner Machine LinkedTree :=
  fun c m t =>
    let m := m.update t
    match h.startWith launch cwd c m.disk with
    | .error fault => ⟨.error (.spawn c.render fault), m, t, []⟩
    | .ok ended =>
      ⟨judge c.render ended.ending, ⟨ended.disk, m.printed ++ (printed ended.output).toList⟩,
        ended.disk.seen, ended.errors.data.toList⟩

end Host

end ReleaseKit
