/-
ReleaseKit.Shell.Process — subshells, jobs, signals and programs.

A subshell is a copy of the shell whose changes are lost, but for what it does to
the world. A job is a subshell whose start is put off. A signal that has come is
minded between two commands.

  §1 Running text  — `runText`, line by line.
  §2 Signals       — `mindSignals`, the traps that are set.
  §3 Subshells     — `inChild`, `capture`.
  §4 Jobs          — `startJob`, `awaitJob`.
  §5 Programs      — `runProgram`.
-/
import ReleaseKit.Shell.Reader
import ReleaseKit.Shell.Redirection

namespace ReleaseKit.Shell

/-- Runs a command. -/
abbrev Runner := Command → Work Unit

/-! ## §1 Running text -/

/-- Says why a text is no script, and ends the shell. -/
def refuseScript (label : String) (source : Source) (fault : SyntaxFault) : Work Unit := do
  let s ← get
  match s.dialect with
  | .posix =>
    task (Task.complain (s.name ++ ": " ++ toString source.line ++ ": " ++ label ++
      "Syntax error: " ++ fault.posixMessage))
  | .bash =>
    task (Task.complain (s.name ++ ": " ++ label ++ "line " ++ toString source.line ++ ": " ++
      fault.bashMessage))
  throw (.exit 2)

/-- Runs what is left of a script line by line; the number bounds the lines. -/
def runSource (run : Runner) (label : String) : Nat → Source → Work Unit
  | 0, _ => return ()
  | fuel + 1, source => do
    let s ← get
    let aliases := if s.dialect = .posix || s.options.contains "expand_aliases" then s.aliases else []
    match ({ source with aliases, nextDocument := s.nextDocument, documents := [] } : Source).next with
    | (.error fault, source) => refuseScript label source fault
    | (.ok none, _) => return ()
    | (.ok (some command), source) =>
      modify fun s => { s with
        documents := source.documents ++ s.documents, nextDocument := source.nextDocument }
      run command
      runSource run label fuel source

/-- Runs a script. A label stands in what is said if it cannot be read. -/
def runText (run : Runner) (label : String) (text : String) : Work Unit := do
  runSource run label (text.length + 2) (.ofText (← get).dialect text)

/-! ## §2 Signals -/

/-- The trap of the larger shell for failures. -/
def failureTrap : Signal := 101

/-- Runs what is to be done at a signal; the status stays. -/
def runTrap (run : Runner) (action : String) : Work Unit := do
  let status := (← get).status
  runText run "" action
  setStatus status

/-- Runs what is to be done when the shell ends. -/
def runExitTrap (run : Runner) : Work Unit := do
  let s ← get
  match s.traps.lookup 0 with
  | some action =>
    set { s with traps := s.traps.filter fun (n, _) => n != 0, loops := 0, callers := 0 }
    if action != "" then runTrap run action
  | none => return ()

/-- Does what is to be done at a signal. -/
def mindSignal (run : Runner) (signal : Signal) : Work Unit := do
  let s ← get
  if signal.inescapable then throw (.killed signal)
  else if s.world.self.ignored.contains signal then return ()
  else
    match s.traps.lookup signal with
    | some action => if action != "" then runTrap run action
    | none => if !signal.harmless then throw (.killed signal)

/-- Does what is to be done at the signals that have come. -/
def mindSignals (run : Runner) : Work Unit := do
  if (← get).world.sent.isEmpty then return ()
  for signal in ← task Task.takeSignals do
    mindSignal run signal

/-! ## §3 Subshells -/

/-- How a shell ends that has done something, with its status. -/
def endingOf : Except Leave Unit → Nat → Except Ending Nat
  | .ok (), status => .ok status
  | .error (.exit code), _ => .ok (code % 256)
  | .error (.killed signal), _ => .error (.killed signal)
  | .error (.stop _), status => .ok status
  | .error (.next _), status => .ok status
  | .error (.result code), _ => .ok (code % 256)

/-- A job whose start has been put off, started at last; time passes for it
alone. -/
def startWaiting (job : Job) : Work Job := do
  match job.state with
  | .waiting start =>
    let w := (← get).world
    let ending ← task (Task.childAs job.pid start)
    let after := (← get).world
    let ended : JobState :=
      match w.deadline with
      | some limit => if ending == .killed Signal.term && limit ≤ after.clock then .asleep else .done ending
      | none => .done ending
    return { job with state := ended }
  | _ => return job

/-- Starts all jobs that have been put off. -/
def startAll : Work Unit := do
  let jobs := (← get).jobs
  if jobs.any fun job => job.state matches .waiting _ then
    modify fun s => { s with jobs := [] }
    let started ← jobs.mapM startWaiting
    modify fun s => { s with jobs := started ++ s.jobs }

/-- Does something as a shell that ends after it: jobs are started and the trap
for the end is run. -/
def finishing (run : Runner) (body : Work Unit) : Work Unit := fun s =>
  let (result, s) := body s
  let trapped (status : Nat) (s : State) : Except Leave Unit × State :=
    match (do runExitTrap run; startAll : Work Unit) { s with status } with
    | (.ok (), t) => (.error (.exit t.status), t)
    | (.error leave, t) =>
      match startAll t with
      | (_, t) => (.error leave, t)
  match endingOf result s.status with
  | .ok code => trapped code s
  | .error ending =>
    -- a signal ends the smaller shell at once, the larger one after its trap
    let t := if s.dialect = .bash then (trapped s.status s).2 else (startAll s).2
    match ending with
    | .killed signal => (.error (.killed signal), t)
    | .exit code => (.error (.exit code), t)

/-- What a shell does as a process of its own. -/
def asProcess (run : Runner) (s : State) (body : Work Unit) : Task Nat := fun w =>
  let (result, t) := finishing run body { s with world := w }
  (endingOf result t.status, t.world)

/-- A copy of the shell for a subshell. -/
def State.copy (s : State) : State :=
  { s with traps := s.traps.filter fun (n, action) => n != 0 && action == "", jobs := [], loops := 0 }

/-- Tells of a signal that has ended a child; two of them are not worth telling. -/
def tellDeath (ending : Ending) (command : String) : Work Unit := do
  match ending with
  | .killed signal =>
    let s ← get
    if signal != 2 && signal != Signal.pipe then
      task (Task.complain (if s.dialect = .posix then signal.obituary
        else messageStart s ++ toString s.world.nextPid ++ " " ++ padRight 24 signal.obituary ++
          command))
  | .exit _ => return ()

/-- Does something in a subshell. -/
def inChild (run : Runner) (body : Work Unit) : Work Ending := do
  let s ← get
  let ending ← task (Task.child (asProcess run s.copy body))
  tellDeath ending ""
  mindSignals run
  return ending

/-- A text without the breaks of lines that end it, and without zero bytes. -/
def trimmedOutput (text : String) : String :=
  String.ofList (((text.toList.filter (· != '\x00')).reverse.dropWhile (· == '\n')).reverse)

/-- Opens a pipe, and gives its number and the open file that writes into it. -/
def openPipe (room : Option Nat) : Work (Nat × Nat) := do
  let pipe ← task (Task.addPipe room)
  return (pipe, ← task (Task.addOpen ⟨.pipe pipe, 0, false, true, false⟩))

/-- What has been written into a pipe. -/
def pipeText (pipe : Nat) : Work String := do
  return Raw.ofBytes (((← get).world.pipes[pipe]?.map (·.data)).getD ByteArray.empty)

/-- What a script prints. -/
def capture (run : Runner) (body : Command) : Work String := do
  let (pipe, writer) ← openPipe none
  let body : Work Unit := do
    task (Task.assign 1 writer)
    modify fun s => if s.dialect = .bash then { s with options := s.options.filter (· != "errexit") } else s
    run body
  let ending ← inChild run body
  modify fun s => { s with substituted := some ending.status, status := ending.status }
  return trimmedOutput (← pipeText pipe)

/-! ## §4 Jobs -/

/-- Puts a command off as a job, and gives its number. -/
def startJob (run : Runner) (body : Work Unit) : Work Nat := do
  let pid ← task Task.takePid
  let s : State ← get
  let process := s.world.self
  let start : Task Nat := do
    Task.modifySelf fun p => { process with pid := p.pid, parent := p.parent }
    asProcess run s.copy body
  set { s with jobs := s.jobs ++ [Job.mk pid (.waiting start)], lastJob := some pid }
  return pid

/-- Waits for a job, and gives its status. -/
def awaitJob (job : Job) : Work Nat := do
  let job ← startWaiting job
  modify fun s => { s with jobs := s.jobs.filter fun other => other.pid != job.pid }
  match job.state with
  | .done ending => return ending.status
  | _ => return 0

/-- Lets jobs run for so many milliseconds, which then pass for the shell too. -/
def jobsRunFor (milliseconds : Nat) : Work Unit := do
  let s ← get
  if s.jobs.any fun job => job.state matches .waiting _ then
    let clock := s.world.clock
    let deadline := s.world.deadline
    let jobs := s.jobs
    modify fun s => { s with jobs := [] }
    let mut started : Array Job := #[]
    for job in jobs do
      modify fun s => { s with world := { s.world with
        clock := clock, deadline := some (clock + milliseconds) } }
      started := started.push (← startWaiting job)
    modify fun s => { s with
      jobs := started.toList ++ s.jobs, world := { s.world with clock, deadline } }

/-! ## §5 Programs -/

/-- The status that goes with a program that cannot be run. -/
def refusalStatus (fault : Fault) : Nat :=
  if [Fault.absent, .notDirectory, .tooLong, loopFault].contains fault then 127 else 126

/-- What is said of a program that cannot be run. -/
def refusalText (s : State) (path : String) (fault : Fault) : String :=
  if s.dialect = .bash then
    let isScript := fault == .absent && Loading.isFile s.world.disk s.world.self.cwd path
    let isDir := s.world.disk.isDirAt s.world.self.cwd path
    path ++ ": " ++ (if isScript then "cannot execute: required file not found"
      else if isDir then Fault.isDirectory.reason else fault.reason)
  else path ++ ": " ++ (if fault == .absent || fault == .notDirectory then "not found" else fault.reason)

/-- Runs the program at a path in place of the process: a file of no known format
is taken for a script of the shell's own. -/
def becomeProgram (path : String) (args : List String) : Work Unit := do
  let s ← get
  let vars := s.environment ++ (if s.dialect = .bash then [("_", path)] else [])
  let result ← task (s.launch path args vars)
  match result with
  | .ok code => throw (.exit code)
  | .error fault =>
    let again ←
      if fault == Loading.formatFault then
        let shell := if s.dialect = .bash then "/bin/bash" else "/bin/sh"
        task (s.launch shell (shell :: path :: args.drop 1) vars)
      else pure (.error fault)
    match again with
    | .ok code => throw (.exit code)
    | .error fault =>
      complain (refusalText s path fault)
      throw (.exit (if s.dialect = .bash && Loading.isFile s.world.disk s.world.self.cwd path then 126
        else refusalStatus fault))

/-- Where a program is: the path to run it by, or what is wrong and the status. -/
def locate (name : String) : Work (Except (String × Nat) String) := do
  let s ← get
  if name.toList.contains '/' then return .ok name
  else
    let path := (text? s "PATH").getD Loading.defaultPath
    match Loading.find? s.world.disk s.world.self.cwd path name with
    | some place =>
      if Loading.isRunnable s.world.disk s.world.self.cwd place || s.dialect = .bash then
        return .ok place
      else return .error (name ++ ": Permission denied", 127)
    | none =>
      let blocked := s.dialect = .posix && (path.splitOn ":").any fun dir =>
        s.world.disk.isDirAt s.world.self.cwd (Loading.inDirectory dir name)
      return .error (name ++ (if s.dialect = .bash then ": command not found"
        else if blocked then ": Permission denied" else ": not found"), 127)

/-- How long a call of `sleep` takes, in milliseconds. -/
def sleepTime (args : List String) : Nat :=
  args.foldl (fun n arg =>
    match Amount.read arg.toList with
    | some (.finite false num den, rest) =>
      let factor := ([('s', 1), ('m', 60), ('h', 3600), ('d', 86400)].lookup (rest.headD 's')).getD 1
      n + num * 1000 * factor / den
    | _ => n) 0

/-- Runs a program in a process of its own. -/
def runProgram (run : Runner) (name : String) (args : List String) : Work Unit := do
  match ← locate name with
  | .error (text, status) =>
    complain text
    setStatus status
  | .ok path =>
    if name = "sleep" then jobsRunFor (sleepTime args)
    let s ← get
    let body : Work Unit := becomeProgram path (name :: args)
    let ending ← task (Task.child fun w =>
      let (result, t) := body { s with world := w }
      (endingOf result t.status, t.world))
    setStatus ending.status
    tellDeath ending (String.intercalate " " (name :: args))
    mindSignals run

end ReleaseKit.Shell
