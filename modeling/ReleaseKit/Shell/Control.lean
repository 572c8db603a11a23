/-
ReleaseKit.Shell.Control — builtin commands that run others or change what runs next.

  §1 Scripts  — `eval`, `.`, `command`, `builtin`, `exec`.
  §2 Leaving  — `exit`, `return`, `break`, `continue`.
  §3 Signals  — `trap`, `kill`, `wait`, `jobs`.
  §4 Naming   — `type`.
-/
import ReleaseKit.Shell.Builtin
import ReleaseKit.Shell.Process

namespace ReleaseKit.Shell

/-- What a builtin command does that may run other commands. -/
abbrev Control := Runner → Builtin

/-! ## §1 Scripts -/

/-- Runs a text as a script. Nothing in it counts as success. -/
def runScript (run : Runner) (label text : String) : Work Unit := do
  if text.toList.all Char.isWhitespace then setStatus 0 else runText run label text

def evalControl : Control := fun run _ args =>
  runScript run "eval: " (String.intercalate " " args)

/-- Does something that `return` can end. -/
def catchingReturn (body : Work Unit) : Work Unit := fun s =>
  match body { s with callers := s.callers + 1 } with
  | (.error (.result code), t) => (.ok (), { t with status := code, callers := s.callers })
  | (result, t) => (result, { t with callers := s.callers })

/-- The text of a file that is to be run. -/
def scriptText (path : String) : Work (Except Fault String) := do
  match ← task (Task.openPath path .reading) with
  | .error fault => return .error fault
  | .ok index =>
    let w := (← get).world
    match w.opened[index]? with
    | none => return .error Task.badDescriptor
    | some file => return (Task.bytesFrom w file Task.plenty).map Raw.ofBytes

def dotControl : Control := fun run name args => do
  let s ← get
  match args with
  | [] =>
    if s.dialect = .posix then fatal name "filename argument required" 2
    else wrong name "filename argument required" 2
  | file :: more =>
    let path? : Option String :=
      if file.toList.contains '/' then some file
      else
        let path := (text? s "PATH").getD Loading.defaultPath
        match (path.splitOn ":").find? fun dir =>
            Loading.isFile s.world.disk s.world.self.cwd (Loading.inDirectory dir file) with
        | some dir => some (Loading.inDirectory dir file)
        | none =>
          if s.dialect = .bash && Loading.isFile s.world.disk s.world.self.cwd file then some file else none
    match path? with
    | none =>
      fatal name (file ++ (if s.dialect = .bash then ": No such file or directory" else ": not found"))
    | some path =>
      match ← scriptText path with
      | .error fault =>
        if s.dialect = .posix then
          fatal name ("cannot open " ++ path ++ ": " ++ reasonOf false .posix fault)
        else
          complain (path ++ ": " ++ fault.reason)
          setStatus 1
      | .ok text =>
        if s.dialect = .bash && !more.isEmpty then modify fun s => { s with args := more }
        catchingReturn (runScript run "" text)
        if s.dialect = .bash && !more.isEmpty then modify fun t => { t with args := s.args }

/-- Runs a program in place of the shell. -/
def execControl : Control := fun run name args => do
  let (title, args) :=
    match args with
    | "--" :: rest => (none, rest)
    | "-a" :: t :: rest => (some t, rest)
    | rest => (none, rest)
  match args with
  | [] => setStatus 0
  | program :: rest =>
    startAll
    modify fun s => { s with traps := s.traps.filter fun (n, _) => n != 0 }
    let _ := run
    match ← locate program with
    | .error (text, status) =>
      complain (name ++ ": " ++ text)
      throw (.exit status)
    | .ok path => becomeProgram path (title.getD program :: rest)

/-! ## §2 Leaving -/

/-- The number that a builtin command is given, if it is given one. -/
def statusArgument (name : String) (args : List String) : Work Nat := do
  let s ← get
  match args with
  | [] => return s.status
  | n :: _ =>
    match number? n with
    | some code => return code % 256
    | none =>
      match s.dialect, n.toInt? with
      | .bash, some i => return (i % 256).toNat
      | .bash, none =>
        complain (name ++ ": " ++ n ++ ": numeric argument required")
        throw (.exit 2)
      | .posix, _ =>
        complain (name ++ ": Illegal number: " ++ n)
        throw (.exit 2)

def exitControl : Control := fun _ name args => do
  throw (.exit (← statusArgument name args))

def returnControl : Control := fun _ name args => do
  let s ← get
  if s.dialect = .bash && s.callers = 0 then
    complain (name ++ ": can only \x60return' from a function or sourced script")
    setStatus 2
  else throw (.result (← statusArgument name args))

/-- How many loops a builtin command leaves. -/
def loopArgument (name : String) (args : List String) (leave : Nat → Leave) : Work Unit := do
  let s ← get
  match args with
  | [] => if s.loops = 0 then outside s else throw (leave 1)
  | n :: _ =>
    match number? n with
    | some (count + 1) =>
      if s.loops = 0 then outside s else throw (leave (min (count + 1) s.loops))
    | _ =>
      if s.dialect = .posix then fatal name ("Illegal number: " ++ n)
      else
        complain (name ++ ": " ++ n ++ ": loop count out of range")
        throw (leave s.loops)
where
  outside (s : State) : Work Unit := do
    if s.dialect = .bash then
      complain (name ++ ": only meaningful in a \x60for', \x60while', or \x60until' loop")
    setStatus 0

def breakControl : Control := fun _ name args => do
  setStatus 0
  loopArgument name args .stop

def continueControl : Control := fun _ name args => do
  setStatus 0
  loopArgument name args .next

/-! ## §3 Signals -/

/-- A signal that a trap is set for; zero is the end of the shell. -/
def trapSignal? (dialect : Dialect) (text : String) : Option Signal :=
  match Signal.ofNumber? text with
  | some n => some n
  | none =>
    let upper := text.map Char.toUpper
    if upper = "EXIT" then some 0
    else if dialect = .bash then
      if upper = "ERR" then some failureTrap
      else if upper = "DEBUG" then some 102
      else if upper = "RETURN" then some 103
      else Signal.ofName? upper
    else if text.startsWith "SIG" then none
    else Signal.ofName? upper

/-- The name of a signal in the list of traps. -/
def trapName (dialect : Dialect) (signal : Signal) : String :=
  if signal = 0 then "EXIT"
  else if signal = failureTrap then "ERR"
  else (if dialect = .bash then "SIG" else "") ++ (signal.name?.getD (toString signal))

/-- The list of signals: a column of names, or a table with numbers. -/
def signalList : Dialect → String
  | .posix =>
    String.join ((List.range 65).map fun n =>
      (if n = 16 then "16" else (Signal.name? n).getD (toString n)) ++ "\n")
  | .bash =>
    let cells := Signal.names.zipIdx.map fun ((name, n), i) =>
      padLeft 2 (toString n) ++ ") SIG" ++ name ++ (if i % 5 = 4 then "\n" else "\t")
    String.join cells ++ "\n"

def trapControl : Control := fun _ name args => do
  let s ← get
  let list : Work Unit := do
    let rows := (s.traps.mergeSort fun a b => a.1 ≤ b.1).map fun (n, action) =>
      "trap -- " ++ listedAction s.dialect action ++ " " ++ trapName s.dialect n ++ "\n"
    print name (String.join rows)
  let put (action : Option String) (words : List String) : Work Unit := do
    setStatus 0
    for word in words do
      match trapSignal? s.dialect word with
      | none =>
        if s.dialect = .posix then task (Task.complain ("trap: " ++ word ++ ": bad trap"))
        else complain (name ++ ": " ++ word ++ ": invalid signal specification")
        setStatus 1
      | some signal =>
        modify fun s => { s with traps := (match action with
          | some text => [(signal, text)]
          | none => []) ++ s.traps.filter fun (n, _) => n != signal }
        task (Task.modifySelf fun p => { p with ignored :=
          (if action == some "" then [signal] else []) ++ p.ignored.filter (· != signal) })
  match splitLetters (if s.dialect = .bash then ['l', 'p'] else []) args with
  | .error c =>
    if s.dialect = .bash then wrong name ("-" ++ String.singleton c ++ ": invalid option") 2
    else fatal name ("Illegal option -" ++ String.singleton c)
  | .ok (letters, args) =>
  if letters.contains 'l' then print name (signalList .bash)
  else if letters.contains 'p' then list
  else match args with
  | [] => list
  | [one] =>
    -- a lone signal is given its usual meaning back
    if (trapSignal? s.dialect one).isSome then put none [one]
    else put none [one]
  | action :: words =>
    if action = "-" then put none words
    else if action.toList.all Char.isDigit && action != "" then put none (action :: words)
    else put (some action) words
where
  listedAction (dialect : Dialect) (action : String) : String :=
    if dialect = .bash then bashQuoted action else listed .posix action

/-- Sends a signal to a process, as far as there is one. -/
def sendSignal (run : Runner) (name : String) (signal : Signal) (target : String) : Work Unit := do
  let s ← get
  let job? : Option Job :=
    if target.startsWith "%" then
      let n := ((target.drop 1).toString.toNat?).getD s.jobs.length
      s.jobs[n - 1]?
    else s.jobs.find? fun job => toString job.pid == target
  match job? with
  | some job =>
    let ended : JobState :=
      match job.state with
      | .done e => .done e
      | other => if signal.harmless then other else .done (.killed signal)
    modify fun s => { s with jobs := s.jobs.map fun other =>
      if other.pid == job.pid then { job with state := ended } else other }
    match job.state with
    | .done _ =>
      complain (name ++ ": " ++ (if s.dialect = .bash then "(" ++ target ++ ") - " else "") ++
        "No such process")
      setStatus 1
    | _ => pure ()
  | none =>
    match target.toInt? with
    | none =>
      if s.dialect = .posix then
        complain (name ++ ": Illegal number: " ++ target)
        setStatus 2
      else
        complain (name ++ ": " ++ target ++ ": arguments must be process or job IDs")
        setStatus 1
    | some n =>
      let pid := n.natAbs
      if pid = s.world.self.pid || n = 0 then
        mindSignal run signal
      else if s.world.waiting.contains pid then
        if signal != 0 then
          modify fun s => { s with world := { s.world with sent := s.world.sent ++ [(pid, signal)] } }
      else
        complain (name ++ ": " ++ (if s.dialect = .bash then "(" ++ target ++ ") - " else "") ++
          "No such process")
        setStatus 1

/-- The signal of a name or number, as `kill` takes it. -/
def killSignal? (text : String) : Option Signal :=
  match Signal.ofNumber? text with
  | some n => some n
  | none =>
    let upper := text.map Char.toUpper
    if upper = "EXIT" then some 0 else Signal.ofName? upper

/-- The names of the signals of some numbers, or of the statuses that they leave;
the larger shell also tells the numbers of names. -/
def tellSignals (name : String) (codes : List String) : Work Unit := do
  let s ← get
  setStatus 0
  for code in codes do
    match number? code, s.dialect with
    | some n, .posix =>
      let signal := if 128 < n then n - 128 else n
      if signal = 0 || 64 < signal then
        wrong name ("invalid signal number or exit status: " ++ code)
      else
        print name ((if signal = 16 then "16" else (Signal.name? signal).getD (toString signal)) ++ "\n")
    | none, .posix => wrong name ("Illegal number: " ++ code)
    | some n, .bash =>
      let signal := if 128 < n then n - 128 else n
      match if signal = 0 then some "EXIT" else Signal.name? signal with
      | some text => print name (text ++ "\n")
      | none => wrong name (code ++ ": invalid signal specification")
    | none, .bash =>
      match killSignal? code with
      | some signal => print name (toString signal ++ "\n")
      | none => wrong name (code ++ ": invalid signal specification")

def killControl : Control := fun run name args => do
  let s ← get
  let badSignal (text : String) : Work Unit := do
    if s.dialect = .posix then
      complain (name ++ ": invalid signal number or name: " ++ text)
      setStatus 2
    else
      complain (name ++ ": " ++ text ++ ": invalid signal specification")
      setStatus 1
  let send (signal : Signal) (targets : List String) : Work Unit := do
    setStatus 0
    let targets :=
      match targets with
      | "--" :: rest => rest
      | rest => rest
    if targets.isEmpty then
      if s.dialect = .posix then
        task (Task.complain "kill: Usage: kill [-s sigspec | -signum | -sigspec] [pid | job]... or\nkill -l [exitstatus]")
      else task (Task.complain "kill: usage: kill [-s sigspec | -n signum | -sigspec] pid | jobspec ... or kill -l [sigspec]")
      setStatus 2
    for target in targets do
      sendSignal run name signal target
  match args with
  | [] => send Signal.term []
  | first :: rest =>
    if first = "-l" || (first = "-L" && s.dialect = .bash) then
      match rest with
      | [] => print name (signalList s.dialect)
      | codes => tellSignals name codes
    else if first = "-s" || first = "-n" then
      match rest with
      | sig :: targets =>
        match killSignal? sig with
        | some signal => send signal targets
        | none => badSignal sig
      | [] => send Signal.term []
    else if first = "--" then send Signal.term rest
    else
      match first.toList with
      | '-' :: c :: cs =>
        let text := String.ofList (c :: cs)
        match killSignal? text with
        | some signal => send signal rest
        | none =>
          if c = 's' && !cs.isEmpty then
            match killSignal? (String.ofList cs) with
            | some signal => send signal rest
            | none => badSignal (String.ofList cs)
          else if s.dialect = .posix then
            complain (name ++ ": Illegal option -" ++ String.singleton c)
            setStatus 2
          else badSignal text
      | _ => send Signal.term args

def waitControl : Control := fun run name args => do
  let s ← get
  let args := args.filter fun a => a != "-n" && a != "--"
  if args.isEmpty then
    for job in s.jobs do
      let _ ← awaitJob job
    setStatus 0
  else
    for arg in args do
      let jobs := (← get).jobs
      let job? : Option Job :=
        if arg.startsWith "%" then
          jobs[((arg.drop 1).toString.toNat?).getD jobs.length - 1]?
        else jobs.find? fun job => toString job.pid == arg
      match job? with
      | some job => setStatus (← awaitJob job)
      | none =>
        if s.dialect = .bash then
          complain (name ++ ": pid " ++ arg ++ " is not a child of this shell")
        else if number? arg |>.isNone then complain (name ++ ": Illegal number: " ++ arg)
        setStatus (if (number? arg).isNone then 2 else 127)
  mindSignals run

def jobsControl : Control := fun _ name args => do
  let s ← get
  if args.contains "-p" then print name (String.join (s.jobs.map fun job => toString job.pid ++ "\n"))
  else setStatus 0

def noJobControl : Control := fun _ name _ => do
  if ← isBash then wrong name "no job control" else wrong name "No current job"

/-! ## §4 Naming -/

/-- What a name stands for as a command. -/
inductive Meaning where
  | keyword
  | alias (text : String)
  | function (body : Command)
  | special
  | builtin
  | program (path : String)
  | nothing

/-- The words that the grammar reserves. -/
def reservedWords (dialect : Dialect) : List String :=
  ["!", "case", "do", "done", "elif", "else", "esac", "fi", "for", "if", "in", "then", "until",
    "while", "\x7b", "\x7d"] ++
    if dialect = .bash then ["[[", "]]", "function", "select", "time", "coproc"] else []

/-- The builtin commands that run others. -/
def controlNames : List String :=
  ["eval", ".", "command", "exec", "exit", "return", "break", "continue", "trap", "kill", "wait",
    "jobs", "fg", "bg", "type"]

def isBuiltin (dialect : Dialect) (name : String) : Bool :=
  (simpleBuiltins.lookup name).isSome || controlNames.contains name ||
    (dialect == .bash && ((bashBuiltins.lookup name).isSome || ["source", "builtin"].contains name))

/-- What a name stands for. -/
def meaning (s : State) (name : String) : Meaning :=
  if (reservedWords s.dialect).contains name then .keyword
  else
    match s.aliases.lookup name with
    | some text => .alias text
    | none =>
      match s.functions.lookup name with
      | some body => .function body
      | none =>
        if specialCommands.contains name then .special
        else if isBuiltin s.dialect name then .builtin
        else if name.toList.contains '/' then
          if Loading.isRunnable s.world.disk s.world.self.cwd name then .program name else .nothing
        else
          match Loading.find? s.world.disk s.world.self.cwd
              ((text? s "PATH").getD Loading.defaultPath) name with
          | some path =>
            if Loading.isRunnable s.world.disk s.world.self.cwd path then .program path else .nothing
          | none => .nothing

/-- Describes names as commands. -/
def describe (name : String) (names : List String) : Work Unit := do
  setStatus 0
  for n in names do
    let s ← get
    let bash := s.dialect == .bash
    match meaning s n with
    | .keyword => print name (n ++ " is a shell keyword\n")
    | .alias text =>
      print name (n ++ (if bash then " is aliased to \x60" ++ text ++ "'\n" else " is an alias for " ++ text ++ "\n"))
    | .function _ => print name (n ++ (if bash then " is a function\n" else " is a shell function\n"))
    | .special =>
      print name (n ++ (if bash then " is a shell builtin\n" else " is a special shell builtin\n"))
    | .builtin => print name (n ++ " is a shell builtin\n")
    | .program path => print name (n ++ " is " ++ path ++ "\n")
    | .nothing =>
      if bash then complain (name ++ ": " ++ n ++ ": not found")
      else print name (n ++ ": not found\n")
      setStatus (if bash then 1 else 127)

def typeControl : Control := fun _ name args => do
  let s ← get
  match args with
  | "-t" :: names =>
    if s.dialect = .bash then
      setStatus 0
      for n in names do
        match meaning s n with
        | .keyword => print name "keyword\n"
        | .alias _ => print name "alias\n"
        | .function _ => print name "function\n"
        | .special => print name "builtin\n"
        | .builtin => print name "builtin\n"
        | .program _ => print name "file\n"
        | .nothing => setStatus 1
    else describe name args
  | "-p" :: names =>
    setStatus 0
    for n in names do
      match meaning s n with
      | .program path => print name (path ++ "\n")
      | .nothing => setStatus 1
      | _ => pure ()
  | names => describe name names

/-- Tells briefly what names stand for. -/
def whereAre (name : String) (names : List String) : Work Unit := do
  setStatus 0
  for n in names do
    match meaning (← get) n with
    | .alias text =>
      print name ("alias " ++ n ++ "=" ++ (if ← isBash then bashQuoted text else listed .posix text) ++ "\n")
    | .program path => print name (path ++ "\n")
    | .nothing => setStatus (if ← isBash then 1 else 127)
    | _ => print name (n ++ "\n")

end ReleaseKit.Shell
