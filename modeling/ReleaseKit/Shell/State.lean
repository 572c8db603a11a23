/-
ReleaseKit.Shell.State — what a shell keeps while it runs a script.

  §1 Variables   — `Value`, `Variable`.
  §2 Shells      — `State`, `Job`, `Work`.
  §3 Messages    — how a shell says what went wrong.
  §4 Looking up  — variables and special parameters as texts.
  §5 Setting     — giving variables values.
-/
import ReleaseKit.Machine.Utility
import ReleaseKit.Shell.Setting
import ReleaseKit.Shell.Source

namespace ReleaseKit.Shell

/-! ## §1 Variables -/

/-- What a variable holds. -/
inductive Value where
  | text (s : String)
  /-- items by number, in order -/
  | items (list : List (Int × String))
  /-- items by name -/
  | table (list : List (String × String))
deriving DecidableEq, Repr

/-- A variable. One without a value has been declared and not been set. -/
structure Variable where
  value : Option Value := none
  exported : Bool := false
  fixed : Bool := false
  /-- values are arithmetic expressions -/
  integer : Bool := false
  /-- values are changed to capital letters, or to small ones -/
  upper : Bool := false
  lower : Bool := false

/-! ## §2 Shells -/

/-- A command that runs beside a script. It is put off until its end is waited
for or time passes. -/
inductive JobState where
  | waiting (start : Task Nat)
  | asleep
  | done (ending : Ending)

structure Job where
  pid : Nat
  state : JobState

/-- A shell that runs a script. -/
structure State where
  world : World
  dialect : Dialect
  /-- the name that it goes by -/
  name : String
  args : List String
  vars : List (String × Variable)
  functions : List (String × Command) := []
  aliases : List (String × String) := []
  documents : List (Nat × List Part) := []
  nextDocument : Nat := 0
  /-- the names of the options that are on -/
  options : List String := []
  status : Nat := 0
  /-- the statuses of the last pipeline -/
  statuses : List Nat := [0]
  jobs : List Job := []
  lastJob : Option Nat := none
  /-- what is to be done at a signal; zero is the end of the shell -/
  traps : List (Signal × String) := []
  /-- for every function that runs, the variables that it has of its own, as they
  were outside -/
  scopes : List (List (String × Option Variable)) := []
  /-- how many loops are being run -/
  loops : Nat := 0
  /-- how many functions and scripts that `return` can end are being run -/
  callers : Nat := 0
  /-- where in a word `getopts` goes on -/
  optionPlace : Nat := 0
  mainPid : Nat
  line : Nat := 1
  /-- a failure is being asked for, so it ends nothing -/
  tested : Bool := false
  /-- the status of the last command that an expansion has run -/
  substituted : Option Nat := none
  launch : Launcher

/-- How a command leaves what it stands in. -/
inductive Leave where
  | exit (code : Nat)
  | killed (signal : Signal)
  /-- out of so many loops -/
  | stop (count : Nat)
  /-- on to the next round of so many loops -/
  | next (count : Nat)
  /-- out of a function -/
  | result (code : Nat)

/-- What a shell does. -/
abbrev Work := ExceptT Leave (StateM State)

/-- What a process does, done by the shell's own. -/
def task {α : Type} (t : Task α) : Work α := fun s =>
  match t s.world with
  | (.ok a, w) => (.ok a, { s with world := w })
  | (.error (.exit code), w) => (.error (.exit code), { s with world := w })
  | (.error (.killed signal), w) => (.error (.killed signal), { s with world := w })

def setStatus (status : Nat) : Work Unit := modify fun s => { s with status }

def hasOption (name : String) : Work Bool := do return (← get).options.contains name

def isBash : Work Bool := do return (← get).dialect == .bash

/-! ## §3 Messages -/

/-- What messages start with. -/
def messageStart (s : State) : String :=
  match s.dialect with
  | .posix => s.name ++ ": " ++ toString s.line ++ ": "
  | .bash => s.name ++ ": line " ++ toString s.line ++ ": "

/-- Says what went wrong. -/
def complain (text : String) : Work Unit := do
  task (Task.complain (messageStart (← get) ++ text))

/-- Says what went wrong and ends the shell. -/
def refuse {α : Type} (text : String) : Work α := do
  complain text
  throw (.exit (if ← isBash then 1 else 2))

/-- A refusal in the words of the smaller shell. -/
def reasonOf (creating : Bool) (dialect : Dialect) (fault : Fault) : String :=
  if dialect = .posix && fault == .absent then
    if creating then "Directory nonexistent" else "No such file"
  else fault.reason

/-! ## §4 Looking up -/

def State.bound? (s : State) (name : String) : Option Variable := s.vars.lookup name

/-- The items of a value, by number or name. -/
def Value.pairs : Value → List (String × String)
  | text s => [("0", s)]
  | items list => list.map fun (n, s) => (toString n, s)
  | table list => list

/-- A value as one text: of an array, the first item. -/
def Value.scalar : Value → Option String
  | text s => some s
  | items list => list.lookup 0
  | table list => list.lookup "0"

/-- The value of a parameter that a mark or a number names. -/
def specialText? (s : State) (name : String) : Option (Option String) :=
  match name with
  | "#" => some (some (toString s.args.length))
  | "?" => some (some (toString s.status))
  | "$" => some (some (toString s.mainPid))
  | "!" => some (s.lastJob.map toString)
  | "0" => some (some s.name)
  | "-" =>
    let letters := (Setting.letters s.dialect).filter fun (option, _) => s.options.contains option
    some (some (String.ofList (letters.map (·.2))))
  | _ =>
    if name != "" && name.toList.all Char.isDigit then
      some (s.args[(name.toNat?).getD 0 - 1]?)
    else none

/-- The value of a variable that the shell makes up. -/
def dynamicText? (s : State) (name : String) : Option String :=
  if s.dialect = .bash then
    match name with
    | "LINENO" => some (toString s.line)
    | "SECONDS" => some (toString (s.world.clock / 1000))
    | "RANDOM" => some (toString ((s.world.nextPid * 7919 + s.world.opened.size * 104729) % 32768))
    | "BASHPID" => some (toString s.world.self.pid)
    | "SHELLOPTS" =>
      some (String.intercalate ":" ((Setting.names .bash).filter s.options.contains))
    | _ => none
  else none

/-- The text of a parameter, if it has one. -/
def text? (s : State) (name : String) : Option String :=
  match specialText? s name with
  | some value => value
  | none =>
    match (s.bound? name).bind (·.value) with
    | some value => value.scalar
    | none => dynamicText? s name

/-- The text of a parameter; nothing if it has none. -/
def textOf (name : String) : Work String := do return (text? (← get) name).getD ""

/-- The variables that programs see. -/
def State.environment (s : State) : List (String × String) :=
  s.vars.filterMap fun (name, v) =>
    if v.exported then (v.value.bind Value.scalar).map fun text => (name, text) else none

/-! ## §5 Setting -/

/-- Puts a variable in place of the one of its name. -/
def putVariable (name : String) (v : Variable) : Work Unit := modify fun s =>
  { s with vars :=
      if s.vars.any fun (other, _) => other == name then
        s.vars.map fun (other, w) => if other == name then (other, v) else (other, w)
      else s.vars ++ [(name, v)] }

def dropVariable (name : String) : Work Unit := modify fun s =>
  { s with vars := s.vars.filter fun (other, _) => other != name }

/-- What is said of a variable that may not be changed. -/
def fixedMessage (dialect : Dialect) (name : String) : String :=
  name ++ (if dialect = .posix then ": is read only" else ": readonly variable")

/-- Gives a variable a value. -/
def setValue (name : String) (value : Value) : Work Unit := do
  let s ← get
  let v := (s.bound? name).getD {}
  if v.fixed then refuse (fixedMessage s.dialect name)
  let value :=
    match value with
    | .text t =>
      Value.text (if v.upper then String.ofList (t.toList.map Char.toUpper)
        else if v.lower then String.ofList (t.toList.map Char.toLower) else t)
    | other => other
  -- an array that is given one text takes it as its first item
  let value :=
    match value, v.value with
    | .text t, some (.items list) => .items ((0, t) :: list.filter fun (n, _) => n != 0)
    | .text t, some (.table list) => .table (("0", t) :: list.filter fun (n, _) => n != "0")
    | value, _ => value
  let exported := v.exported || s.options.contains "allexport"
  putVariable name { v with value := some value, exported }
  if name = "OPTIND" then modify fun s => { s with optionPlace := 0 }

/-- Gives a variable a text. -/
def setText (name text : String) : Work Unit := setValue name (.text text)

/-- Marks a variable as one that programs see. -/
def exportName (name : String) : Work Unit := do
  let v := ((← get).bound? name).getD {}
  putVariable name { v with exported := true }

/-- A list of items with one of them set, in order. -/
def setItem (index : Int) (text : String) (list : List (Int × String)) : List (Int × String) :=
  (list.filter fun (n, _) => n < index) ++ (index, text) :: list.filter fun (n, _) => index < n

/-- Gives an item of an array a text. -/
def setElement (name : String) (key : Sum Int String) (text : String) : Work Unit := do
  let old := ((← get).bound? name).bind (·.value)
  let items :=
    match old with
    | some (.items list) => list
    | some (.text t) => [(0, t)]
    | _ => []
  match old, key with
  | some (.table list), .inr key =>
    let changed :=
      if list.any fun (k, _) => k == key then
        list.map fun (k, t) => if k == key then (k, text) else (k, t)
      else list ++ [(key, text)]
    setValue name (.table changed)
  | some (.table list), .inl n =>
    setValue name (.table (list.filter (fun (k, _) => k != toString n) ++ [(toString n, text)]))
  | _, .inl n =>
    let last := (items.getLast?.map (·.1)).getD (-1)
    setValue name (.items (setItem (if n < 0 then last + 1 + n else n) text items))
  | _, .inr _ => setValue name (.items (setItem 0 text items))

/-- Removes a variable. -/
def unset (name : String) : Work Bool := do
  let s ← get
  match s.bound? name with
  | some v =>
    if v.fixed then return false
    else
      dropVariable name
      return true
  | none => return true

/-- Gives the function that runs a variable of its own. -/
def makeLocal (name : String) : Work Unit := do
  let s ← get
  match s.scopes with
  | [] => return ()
  | scope :: outer =>
    if scope.any fun (other, _) => other == name then return ()
    else set { s with scopes := ((name, s.bound? name) :: scope) :: outer }

/-- Gives variables back what they were outside the function that has run. -/
def endScope : Work Unit := do
  let s ← get
  match s.scopes with
  | [] => return ()
  | scope :: outer =>
    set { s with scopes := outer }
    for (name, old) in scope do
      match old with
      | some v => putVariable name v
      | none => dropVariable name

end ReleaseKit.Shell
