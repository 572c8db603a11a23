/-
ReleaseKit.Shell.Evaluation — running commands.

Commands are run one inside the other, to a depth that no script reaches. A
failure ends a script that asked for it unless somebody looks at it: the state
says whether one does.

  §1 Failing      — `checkFailure`.
  §2 Assigning    — giving variables values, for a while or for good.
  §3 Words        — commands that are made of words.
  §4 Pipes        — pipelines.
  §5 Loops        — rounds, and leaving them.
  §6 Conditions   — what stands between double brackets.
  §7 Commands     — `run`.
-/
import ReleaseKit.Shell.Control
import ReleaseKit.Text.Expression

namespace ReleaseKit.Shell

/-! ## §1 Failing -/

/-- Ends the shell if the last command has failed and nobody looks at it. -/
def checkFailure (run : Runner) : Work Unit := do
  let s ← get
  if s.status != 0 && !s.tested then
    match s.traps.lookup failureTrap with
    | some action =>
      set { s with tested := true }
      runTrap run action
      modify fun s => { s with tested := false }
    | none => pure ()
    if s.options.contains "errexit" then throw (.exit s.status)

/-- Does something whose failure is looked at. -/
def testing (body : Work Unit) : Work Unit := fun s =>
  let (result, t) := body { s with tested := true }
  (result, { t with tested := s.tested })

/-- How words hold scripts. -/
def engine (run : Runner) : Engine where
  capture body := do
    let s ← get
    match s.dialect, body with
    | .bash, .simple _ [] [] [.mk none .input target] =>
      -- a file that is only read stands for what it holds
      let path ← textOfWord ⟨fun _ => pure "", fun _ _ => pure ""⟩ target
      match ← scriptText path with
      | .ok text =>
        modify fun s => { s with substituted := some 0 }
        return trimmedOutput text
      | .error fault =>
        complain (path ++ ": " ++ fault.reason)
        modify fun s => { s with substituted := some 1 }
        return ""
    | _, _ => capture run body
  connect reads body := do
    let number := 63 - ((← get).world.self.fds.filter fun (fd, _) => 40 ≤ fd).length
    let (pipe, writer) ← openPipe none
    let path := "/dev/fd/" ++ toString number
    modify fun s => { s with world := { s.world with
      disk := s.world.disk.put [toString number, "fd", "dev"] (.device (.descriptor number)) } }
    if reads then
      let _ ← inChild run do
        task (Task.assign 1 writer)
        run body
      task (Task.assign number (← task (Task.addOpen ⟨.pipe pipe, 0, true, false, false⟩)))
    else
      task (Task.assign number writer)
      let reader ← task (Task.addOpen ⟨.pipe pipe, 0, true, false, false⟩)
      let _ ← startJob run do
        task (Task.assign 0 reader)
        run body
    return path

/-! ## §2 Assigning -/

/-- The items of an array that words list, by number or by name. -/
def arrayItems (e : Engine) (isTable : Bool) (next : Int) (words : List (List Part)) :
    Work (List (Sum Int String × String)) := do
  let mut items : Array (Sum Int String × String) := #[]
  let mut next := next
  for word in words do
    let keyed : Option (List Part × List Part) :=
      match word with
      | .bare text :: rest =>
        match text.toList with
        | '[' :: inside =>
          match splitIndex (.bare (String.ofList inside) :: rest) with
          | some (index, after) => (splitValue .bash after).map fun (_, value) => (index, value)
          | none => none
        | _ => none
      | _ => none
    match keyed with
    | some (index, value) =>
      let key := textOfPieces (← expandParts e true false wordDepth index)
      let text ← textOfValue e value
      if isTable then items := items.push (.inr key, text)
      else
        let n ← arithmetic key
        items := items.push (.inl n, text)
        next := n + 1
    | none =>
      for text in ← fieldsOfWords e [word] do
        items := items.push (.inl next, text)
        next := next + 1
  return items.toList

/-- Gives a name what an assignment says. -/
def assign (e : Engine) (a : Assignment) : Work Unit := do
  match a with
  | .mk name index append value items =>
    let old := (← get).bound? name
    match items with
    | some words =>
      let isTable : Bool :=
        match old.bind (·.value) with
        | some (.table _) => true
        | _ => false
      let start : List (Int × String) :=
        if append then
          match old.bind (·.value) with
          | some (.items list) => list
          | some (.text t) => [(0, t)]
          | _ => []
        else []
      let next : Int := (start.getLast?.map (·.1 + 1)).getD 0
      let list ← arrayItems e isTable next words
      if isTable then
        if !append then
          let v := old.getD {}
          putVariable name { v with value := some (.table []) }
      else setValue name (.items start)
      for (key, text) in list do
        setElement name key text
    | none =>
      let text ← textOfValue e value
      match index with
      | none =>
        let isNumber := (old.map (·.integer)).getD false
        let before ← textOf name
        let text := if append && isNumber then before ++ "+" ++ text
          else if append then before ++ text else text
        setText name (← evaluated isNumber text)
      | some parts =>
        let key := textOfPieces (← expandParts e true false wordDepth parts)
        match old.bind (·.value) with
        | some (.table list) =>
          setElement name (.inr key) (if append then (list.lookup key).getD "" ++ text else text)
        | some (.items list) =>
          let n ← arithmetic key
          setElement name (.inl n) (if append then (list.lookup n).getD "" ++ text else text)
        | _ => setElement name (.inl (← arithmetic key)) text

def Assignment.name : Assignment → String
  | .mk name _ _ _ _ => name

/-- An assignment as a trace shows it. -/
def tracedAssignment (a : Assignment) : Work String := do
  let name := Assignment.name a
  return name ++ "=" ++ (← textOf name)

/-- Does something while names have values of its own, which programs see. -/
def withAssignments (e : Engine) (assignments : List Assignment) (body : Work Unit) :
    Work Unit := fun s =>
  if assignments.isEmpty then body s
  else
    let names := (assignments.map Assignment.name).eraseDups
    let old := names.map fun name => (name, s.bound? name)
    let start : Work Unit := do
      for a in assignments do
        assign e a
        exportName (Assignment.name a)
    let restore : Work Unit := do
      for (name, v) in old do
        match v with
        | some v => putVariable name v
        | none => dropVariable name
    match start s with
    | (.ok (), t) =>
      let (result, t) := body t
      (result, (restore t).2)
    | (.error leave, t) => (.error leave, t)

/-! ## §3 Words -/

/-- Words as a trace shows them. -/
def traced (dialect : Dialect) (words : List String) : String :=
  String.intercalate " " (if dialect = .bash then words.map fun w =>
    if w != "" && w.toList.all fun c => c.isAlphanum || "-_./=:@,+%".toList.contains c then w
    else bashQuoted w
  else words)

/-- Shows a line of a trace, if that is asked for. -/
def trace (line : String) : Work Unit := do
  let s ← get
  if s.options.contains "xtrace" then
    task (Task.complain ((text? s "PS4").getD "+ " ++ line))

/-- Runs a function. -/
def callFunction (run : Runner) (body : Command) (args : List String) : Work Unit := fun s =>
  let inner : State := { s with args, scopes := [] :: s.scopes, loops := 0, optionPlace := 0 }
  let (result, t) := catchingReturn (run body) inner
  let t := (endScope t).2
  (result, { t with args := s.args, loops := s.loops, optionPlace := s.optionPlace })

/-- The builtin command of a name. -/
def builtin? (run : Runner) (dialect : Dialect) (name : String) : Option Builtin :=
  let bash := dialect == .bash
  match simpleBuiltins.lookup name with
  | some b => some b
  | none =>
    match (if bash then bashBuiltins.lookup name else none) with
    | some b => some b
    | none =>
      match name with
      | "eval" => some (evalControl run)
      | "." => some (dotControl run)
      | "source" => if bash then some (dotControl run) else none
      | "exec" => some (execControl run)
      | "exit" => some (exitControl run)
      | "return" => some (returnControl run)
      | "break" => some (breakControl run)
      | "continue" => some (continueControl run)
      | "trap" => some (trapControl run)
      | "kill" => some (killControl run)
      | "wait" => some (waitControl run)
      | "jobs" => some (jobsControl run)
      | "fg" => some (noJobControl run)
      | "bg" => some (noJobControl run)
      | "type" => some (typeControl run)
      | _ => none

/-- Runs a builtin command or a program, but no function. -/
def callPlain (run : Runner) (name : String) (args : List String) : Work Unit := do
  match builtin? run (← get).dialect name with
  | some b => b name args
  | none => runProgram run name args

/-- Runs words without functions, or tells what they stand for. -/
def commandControl (run : Runner) : Builtin := fun name args => do
  match args with
  | "-v" :: names => whereAre name names
  | "-V" :: names => describe name names
  | "-p" :: program :: rest => callPlain run program rest
  | "--" :: program :: rest => callPlain run program rest
  | program :: rest =>
    if program.startsWith "-" && program != "-" then badOption name (program.toList[1]?.getD '-')
    else callPlain run program rest
  | [] => setStatus 0

/-- What a word makes of a name and arguments. -/
inductive Called where
  | special (b : Builtin)
  | function (body : Command)
  | builtin (b : Builtin)
  | program

/-- What is to be run for a name. In the smaller shell a special builtin command
comes before a function. -/
def called (run : Runner) (s : State) (name : String) : Called :=
  let isSpecial := specialCommands.contains name
  let builtin : Option Builtin :=
    if name = "command" then some (commandControl run)
    else if name = "builtin" && s.dialect = .bash then
      some fun _ args => match args with
        | n :: rest => callPlain run n rest
        | [] => setStatus 0
    else builtin? run s.dialect name
  match s.functions.lookup name with
  | some body =>
    match builtin with
    | some b => if isSpecial && s.dialect = .posix then .special b else .function body
    | none => .function body
  | none =>
    match builtin with
    | some b => if isSpecial then .special b else .builtin b
    | none => .program

/-- The builtin commands whose arguments may be assignments. -/
def declaring (dialect : Dialect) (name : String) : Bool :=
  ["export", "readonly", "local"].contains name ||
    (dialect = .bash && ["declare", "typeset"].contains name)

/-- The words of a command: those of a declaration that are assignments are not
split. -/
def expandWords (e : Engine) (words : List (List Part)) : Work (List String) := do
  match words with
  | [] => return []
  | first :: rest =>
    let dialect := (← get).dialect
    match ← fieldsOfWords e [first] with
    | [] => expandFirst e rest
    | name :: more =>
      if declaring dialect name && more.isEmpty then
        let args ← rest.mapM fun word => do
          match assignment? dialect word with
          | some _ => return [← textOfValue e word]
          | none => fieldsOfWords e [word]
        return name :: args.flatten
      else return name :: more ++ (← fieldsOfWords e rest)
where
  expandFirst (e : Engine) (words : List (List Part)) : Work (List String) := fieldsOfWords e words

/-- Runs a command that is made of words. -/
def runSimple (run : Runner) (line : Nat) (assignments : List Assignment)
    (words : List (List Part)) (redirects : List Redirect) : Work Unit := do
  let e := engine run
  modify fun s => { s with line := if line = 0 then s.line else line, substituted := none }
  let fields ← expandWords e words
  let s ← get
  let failed : Work Unit := setStatus (if s.dialect = .bash then 1 else 2)
  match fields with
  | [] =>
    withRedirects e redirects failed do
      for a in assignments do
        assign e a
        trace (← tracedAssignment a)
      modify fun s => { s with status := s.substituted.getD 0 }
  | name :: args =>
    if s.options.contains "xtrace" then
      if s.dialect = .bash then
        for a in assignments do
          match a with
          | .mk n none false value none => trace (n ++ "=" ++ traced .bash [← textOfValue e value])
          | _ => pure ()
        trace (traced .bash fields)
      else
        let shown ← assignments.mapM fun a => do
          match a with
          | .mk n _ _ value _ => return n ++ "=" ++ (← textOfValue e value)
        trace (String.intercalate " " (shown ++ fields))
    match called run s name with
    | .special b =>
      if name = "exec" && args.isEmpty then
        for a in assignments do
          assign e a
        match ← redirectAll e redirects with
        | .ok () => setStatus 0
        | .error text =>
          complain text
          if s.dialect = .posix then throw (.exit 2) else setStatus 1
      else
        let fatalFailure : Work Unit :=
          if s.dialect = .posix then throw (.exit 2) else setStatus 1
        if s.dialect = .posix then
          withRedirects e redirects fatalFailure do
            for a in assignments do
              assign e a
            b name args
        else
          withRedirects e redirects fatalFailure (withAssignments e assignments (b name args))
    | .function body =>
      withRedirects e redirects failed
        (withAssignments e assignments (callFunction run body args))
    | .builtin b =>
      withRedirects e redirects failed (withAssignments e assignments (b name args))
    | .program =>
      withRedirects e redirects failed
        (withAssignments e assignments (runProgram run name args))

/-! ## §4 Pipes -/

/-- Runs the commands of a pipeline one after the other, each in a subshell; the
statuses, the first one first. -/
def runStages (run : Runner) (reader : Option Nat) : List Command → Work (List Nat)
  | [] => return []
  | [last] => do
    let ending ← inChild run do
      match reader with
      | some file => task (Task.assign 0 file)
      | none => pure ()
      run last
    return [ending.status]
  | first :: rest => do
    let (pipe, writer) ← openPipe (some Task.pipeRoom)
    let ending ← inChild run do
      match reader with
      | some file => task (Task.assign 0 file)
      | none => pure ()
      task (Task.assign 1 writer)
      run first
    let next ← task (Task.addOpen ⟨.pipe pipe, 0, true, false, false⟩)
    return ending.status :: (← runStages run (some next) rest)

/-- Runs a pipeline. -/
def runPipeline (run : Runner) (stages : List Command) : Work Unit := do
  match stages with
  | [one] => run one
  | _ =>
    let statuses ← runStages run none stages
    let failed := (statuses.reverse.find? (· != 0)).getD 0
    let last := statuses.getLast?.getD 0
    let status := if ← hasOption "pipefail" then failed else last
    modify fun s => { s with status, statuses }

/-! ## §5 Loops -/

/-- Does one round of a loop; false if it was the last. -/
def oneRound (body : Work Unit) : Work Bool := fun s =>
  match body { s with loops := s.loops + 1 } with
  | (.ok (), t) => (.ok true, { t with loops := s.loops })
  | (.error (.stop (count + 2)), t) => (.error (.stop (count + 1)), { t with loops := s.loops })
  | (.error (.stop _), t) => (.ok false, { t with loops := s.loops })
  | (.error (.next (count + 2)), t) => (.error (.next (count + 1)), { t with loops := s.loops })
  | (.error (.next _), t) => (.ok true, { t with loops := s.loops })
  | (.error leave, t) => (.error leave, { t with loops := s.loops })

/-- How often a loop goes round at most. -/
def roundLimit : Nat := 100000000

/-- Repeats a body, and a step after it, while a condition holds; the status is
the body's last. -/
def repeatWhile (condition : Work Bool) (body step : Work Unit) : Nat → Nat → Work Unit
  | 0, _ => throw (.killed Signal.kill)
  | limit + 1, status => fun s =>
    match condition s with
    | (.error leave, t) => (.error leave, t)
    | (.ok false, t) => (.ok (), { t with status })
    | (.ok true, t) =>
      match oneRound body t with
      | (.error leave, u) => (.error leave, u)
      | (.ok false, u) => (.ok (), u)
      | (.ok true, u) =>
        match step u with
        | (.error leave, v) => (.error leave, v)
        | (.ok (), v) => repeatWhile condition body step limit u.status v

/-- Repeats a body for each of some texts. -/
def repeatEach (name : String) (body : Work Unit) : List String → Work Unit
  | [] => return ()
  | text :: rest => do
    setText name text
    if ← oneRound body then repeatEach name body rest

/-! ## §6 Conditions -/

/-- The regular expression that a word is: what is quoted stands for itself. -/
def expressionOf (e : Engine) (word : List Part) : Work String := do
  let marked := markedOf (← expandParts e false false wordDepth word)
  return String.ofList (marked.flatMap fun (c, quoted) =>
    if quoted && "\\.[]*^$()+?|\x7b\x7d".toList.contains c then ['\\', c] else [c])

/-- Whether a condition between double brackets holds. -/
def holds (run : Runner) : Test → Work Bool
  | .word w => do return (← textOfWord (engine run) w) != ""
  | .not t => do return !(← holds run t)
  | .and a b => do
    if ← holds run a then holds run b else return false
  | .or a b => do
    if ← holds run a then return true else holds run b
  | .unary op w => do
    let s ← get
    let text ← textOfWord (engine run) w
    let facts : Condition.Facts := ⟨.bash, s.world.disk, s.world.self.cwd, fun v => (text? s v).isSome⟩
    if op = "-o" then return s.options.contains text
    else
      match Condition.ask facts op text with
      | .ok b => return b
      | .error _ => return false
  | .binary a op b => do
    let e := engine run
    let left ← textOfWord e a
    match op with
    | "=~" =>
      match Regex.parse true (← expressionOf e b).toList with
      | .error _ =>
        setStatus 2
        return false
      | .ok (r, count) =>
        let subject : Regex.Subject := { chars := left.toList.toArray }
        match Regex.search subject r 0 with
        | some found =>
          setValue "BASH_REMATCH" (.items ((List.range (count + 1)).map fun i =>
            (Int.ofNat i, String.ofList (found.group subject i))))
          return true
        | none =>
          setValue "BASH_REMATCH" (.items [])
          return false
    | "=" => return (← patternOf e b).test left.toList
    | "==" => return (← patternOf e b).test left.toList
    | "!=" => return !(← patternOf e b).test left.toList
    | _ =>
      let right ← textOfWord e b
      if ["-eq", "-ne", "-lt", "-le", "-gt", "-ge"].contains op then
        let m ← arithmetic left
        let n ← arithmetic right
        return match op with
          | "-eq" => m == n
          | "-ne" => m != n
          | "-lt" => m < n
          | "-le" => m ≤ n
          | "-gt" => n < m
          | _ => n ≤ m
      else
        let s ← get
        let facts : Condition.Facts := ⟨.bash, s.world.disk, s.world.self.cwd, fun _ => false⟩
        match Condition.compare facts left op right with
        | .ok r => return r
        | .error _ => return false

/-! ## §7 Commands -/

/-- Whether a text is one of those that a branch is for. -/
def matchesAny (e : Engine) (text : String) : List (List Part) → Work Bool
  | [] => return false
  | pattern :: rest => do
    if (← patternOf e pattern).test text.toList then return true
    else matchesAny e text rest

/-- Runs the branch that a text is for; `falling` says that the next one is run
whatever it is for. -/
def runBranches (run : Runner) (text : String) (falling : Bool) : List Branch → Work Unit
  | [] => if falling then return () else setStatus 0
  | .mk patterns body next :: rest => do
    let here ← if falling then pure true else matchesAny (engine run) text patterns
    if here then
      setStatus 0
      run body
      match next with
      | .stop => return ()
      | .fall => runBranches run text true rest
      | .test =>
        let status := (← get).status
        runBranches run text false rest
        if (← get).status = 0 then setStatus status
    else runBranches run text false rest

/-- The value of an expression between double parentheses; nothing counts as
one. -/
def valueOf (run : Runner) (empty : Int) (parts : List Part) : Work Int := do
  let text := textOfPieces (← expandParts (engine run) true false wordDepth parts)
  if text.toList.all Char.isWhitespace then return empty else arithmetic text

/-- Whether a command has succeeded, somebody looking at its failure. -/
def succeeds (run : Runner) (c : Command) : Work Bool := do
  testing (run c)
  return (← get).status = 0

/-- Runs a command. The number bounds how deep commands stand in each other. -/
def run : Nat → Command → Work Unit
  | 0, _ => throw (.killed Signal.segv)
  | fuel + 1, command => do
    if ← hasOption "noexec" then return ()
    let go := run fuel
    match command with
    | .nothing => return ()
    | .simple line assignments words redirects =>
      runSimple go line assignments words redirects
      if (← get).statuses.length != 1 then modify fun s => { s with statuses := [s.status] }
      checkFailure go
    | .list commands =>
      for c in commands do
        go c
    | .and a b => if ← succeeds go a then go b
    | .or a b => if !(← succeeds go a) then go b
    | .pipeline false stages =>
      runPipeline go stages
      checkFailure go
    | .pipeline true stages =>
      testing (runPipeline go stages)
      modify fun s => { s with status := if s.status = 0 then 1 else 0 }
    | .background body =>
      let _ ← startJob go do
        match ← task (Task.openPath "/dev/null" .reading) with
        | .ok file => task (Task.assign 0 file)
        | .error _ => pure ()
        go body
      setStatus 0
    | .subshell body =>
      let ending ← inChild go (go body)
      setStatus ending.status
      checkFailure go
    | .redirected line body redirects =>
      if line != 0 then modify fun s => { s with line := line }
      let s ← get
      withRedirects (engine go) redirects (do
        setStatus (if s.dialect = .bash then 1 else 2)
        checkFailure go) (go body)
    | .choose condition body otherwise =>
      if ← succeeds go condition then go body
      else
        setStatus 0
        go otherwise
    | .repeated until_ condition body =>
      let holds : Work Bool := do return (← succeeds go condition) != until_
      -- what leaves a loop may also stand in its condition
      let checked : Work Bool := fun s =>
        match holds { s with loops := s.loops + 1 } with
        | (.ok b, t) => (.ok b, { t with loops := s.loops })
        | (.error (.stop 1), t) => (.ok false, { t with loops := s.loops })
        | (.error (.stop (count + 1)), t) => (.error (.stop count), { t with loops := s.loops })
        | (.error leave, t) => (.error leave, { t with loops := s.loops })
      repeatWhile checked (go body) (pure ()) roundLimit 0
    | .each line name words body =>
      if line != 0 then modify fun s => { s with line := line }
      let texts ← match words with
        | some list => fieldsOfWords (engine go) list
        | none => do pure (← get).args
      setStatus 0
      repeatEach name (go body) texts
    | .counted start condition step body =>
      let _ ← valueOf go 0 start
      let holds : Work Bool := do return (← valueOf go 1 condition) != 0
      let move : Work Unit := do
        let _ ← valueOf go 0 step
      repeatWhile holds (go body) move roundLimit 0
    | .select line word branches =>
      if line != 0 then modify fun s => { s with line := line }
      let text ← textOfWord (engine go) word
      runBranches go text false branches
    | .define _ name body =>
      modify fun s => { s with
        functions := (name, body) :: s.functions.filter fun (n, _) => n != name, status := 0 }
    | .test line condition =>
      modify fun s => { s with line := line, status := 0 }
      let held ← holds go condition
      if held then setStatus 0
      else if (← get).status != 2 then setStatus 1
      checkFailure go
    | .arithmetic line parts =>
      modify fun s => { s with line }
      let n ← valueOf go 0 parts
      setStatus (if n = 0 then 1 else 0)
      checkFailure go

end ReleaseKit.Shell
