/-
ReleaseKit.Utility.Edit — the stream editor.

The editor takes one line after the other into its pattern space, does to it what
the script says, and writes what is left.

  §1 Editors    — what is remembered from line to line.
  §2 Addresses  — whether a command is for the present line.
  §3 Matches    — replacing.
  §4 Actions    — one command.
  §5 Cycles     — line by line, file by file.
  §6 Program    — `sed`.
-/
import ReleaseKit.Utility.Edit.Script
import ReleaseKit.Utility.Finding

namespace ReleaseKit.Utility.Edit

/-! ## §1 Editors -/

/-- A line that waits to be edited. -/
structure Input where
  text : String
  /-- whether a break ends it -/
  broken : Bool
  /-- whether it is the last one that a dollar sign means -/
  last : Bool
  file : String

/-- What waits to be written at the end of a cycle. -/
inductive Queued where
  | text (s : String)
  | file (path : String)
  | line (path : String)

/-- How the editor was called. -/
structure Setting where
  script : Script
  quiet : Bool
  call : Call
  /-- what separates lines -/
  stop : String

/-- The editor between two commands. -/
structure Editor where
  space : String
  broken : Bool
  hold : String
  number : Nat
  last : Bool
  file : String
  inputs : List Input
  /-- where the ranges of commands end: a line, or not known yet -/
  ranges : List (Nat × Option Nat)
  replaced : Bool
  search : Option Regex
  queue : List Queued
  /-- where what is written goes: nothing is standard output -/
  output : Option Nat
  /-- whether the last thing written has no break -/
  open? : Bool
  /-- open files to write into, and files that lines are read of -/
  files : List (String × Nat)
  readers : List (String × List String)
  code : Nat

/-- What comes after a command. -/
inductive Step where
  | go (place : Nat)
  /-- the next line -/
  | next
  /-- the next line, with nothing written of this one -/
  | skip
  /-- the script once more, without a new line -/
  | again
  | stop
  | stopSilently

/-- What the editor does. -/
abbrev Editing := StateT Editor Task

/-- Writes to where the output goes. -/
def put (text : String) : Editing Unit := do
  match (← get).output with
  | none => Task.say text
  | some index =>
    Task.assign 97 index
    let _ ← Task.write 97 text
    Task.close 97

/-- Writes a line, and the break that the line before may lack. -/
def putLine (s : Setting) (text : String) (broken : Bool) : Editing Unit := do
  let before := if (← get).open? then s.stop else ""
  put (before ++ text ++ (if broken then s.stop else ""))
  modify fun e => { e with open? := !broken }

/-- Writes a line to a file. -/
def putFile (s : Setting) (path text : String) (broken : Bool) : Editing Unit := do
  if path = "/dev/stdout" then putLine s text broken
  else if path = "/dev/stderr" then Task.complain text
  else
    match (← get).files.lookup path with
    | some index =>
      Task.assign 97 index
      let _ ← Task.write 97 (text ++ (if broken then s.stop else ""))
      Task.close 97
    | none => return ()

/-! ## §2 Addresses -/

/-- The expression of a search; the one used last if there is none. -/
def searchOf (search : Search) : Editing (Option Regex) := do
  match search.1 with
  | some r =>
    modify fun e => { e with search := some r }
    return some r
  | none => return (← get).search

/-- Whether a search fits the pattern space. -/
def fitsSpace (search : Search) : Editing Bool := do
  match ← searchOf search with
  | none => return false
  | some r =>
    let subject : Regex.Subject :=
      { chars := (← get).space.toList.toArray, folded := search.2.1, lines := search.2.2 }
    return (Regex.search subject r 0).isSome

/-- Whether an address is about the present line. -/
def isAt (a : Address) : Editing Bool := do
  let e ← get
  match a with
  | .line n => return e.number == n
  | .last => return e.last
  | .step first every =>
    return if every = 0 then e.number == first
      else first ≤ e.number && (e.number - first) % every = 0
  | .fits search => fitsSpace search
  | .plus _ => return false
  | .multiple n => return n = 0 || e.number % n = 0

/-- Begins a range at the present line, and keeps in mind where it ends. -/
def beginRange (place : Nat) (second : Address) : Editing Unit := do
  let e ← get
  let finish? : Option (Option Nat) :=
    match second with
    | .line n => if n ≤ e.number then none else some (some n)
    | .plus n => if n = 0 then none else some (some (e.number + n))
    | .multiple n =>
      if n = 0 || e.number % n = 0 then none else some (some ((e.number / n + 1) * n))
    | .last => if e.last then none else some none
    | _ => some none
  match finish? with
  | some finish => set { e with ranges := (place, finish) :: e.ranges }
  | none => return ()

/-- Whether a command is for the present line. -/
def chosen (place : Nat) (c : Command) : Editing Bool := do
  match c.first, c.second with
  | none, _ => return true
  | some a, none => isAt a
  | some a, some b =>
    let e ← get
    let leave : Editing Unit := modify fun e => { e with ranges := e.ranges.filter (·.1 != place) }
    let opensBefore := match a with
      | .line 0 => e.number == 1 && (e.ranges.lookup place).isNone
      | _ => false
    if opensBefore then
      -- the second address may be about the very first line
      if !(← isAt b) then modify fun e => { e with ranges := (place, none) :: e.ranges }
      return true
    else
      match e.ranges.lookup place with
      | some (some n) =>
        if n ≤ e.number then leave
        return e.number ≤ n || (← isAt a)
      | some none =>
        if ← isAt b then leave
        return true
      | none =>
        if ← isAt a then
          beginRange place b
          return true
        else return false

/-! ## §3 Matches -/

/-- How letters are made large or small. -/
structure Letters where
  /-- for all letters -/
  all : Option Bool
  /-- for the next letter -/
  one : Option Bool

/-- Characters with letters as they are to be. -/
def applyLetters (l : Letters) : List Char → List Char × Letters
  | [] => ([], l)
  | c :: rest =>
    let turn (upper? : Option Bool) : Char :=
      match upper? with
      | some true => c.toUpper
      | some false => c.toLower
      | none => c
    let here := turn (l.one.orElse fun _ => l.all)
    let (more, after) := applyLetters { l with one := none } rest
    (here :: more, after)

/-- What a match is replaced with. -/
def replacement (s : Regex.Subject) (f : Regex.Found) : Letters → List Piece → List Char
  | _, [] => []
  | l, piece :: rest =>
    match piece with
    | .text chars =>
      let (shown, l) := applyLetters l chars
      shown ++ replacement s f l rest
    | .group n =>
      let (shown, l) := applyLetters l (f.group s n)
      shown ++ replacement s f l rest
    | .upper once =>
      replacement s f (if once then { l with one := some true } else ⟨some true, none⟩) rest
    | .lower once =>
      replacement s f (if once then { l with one := some false } else ⟨some false, none⟩) rest
    | .plain => replacement s f ⟨none, none⟩ rest

/-- Replaces what fits in the pattern space. -/
def replaceIn (s : Setting) (r : Replace) : Editing Unit := do
  match ← searchOf r.search with
  | none => return ()
  | some regex =>
    let subject : Regex.Subject :=
      { chars := (← get).space.toList.toArray, folded := r.search.2.1, lines := r.search.2.2 }
    let (chars, count) := Regex.replace subject regex r.nth r.everywhere fun f =>
      replacement subject f ⟨none, none⟩ r.pieces
    if count = 0 then return ()
    else
      modify fun e => { e with space := String.ofList chars, replaced := true }
      if r.runs then
        let text ← shellOutput s.call (← get).space
        modify fun e => { e with
          space := if text.endsWith "\n" then (text.dropEnd 1).toString else text }
      if r.prints then putLine s (← get).space (← get).broken
      match r.file with
      | some path => putFile s path (← get).space (← get).broken
      | none => return ()

/-! ## §4 Actions -/

/-- Takes in the next line; false at the end. -/
def advance : Editing Bool := do
  let e ← get
  match e.inputs with
  | [] => return false
  | i :: rest =>
    set { e with
      space := i.text, broken := i.broken, last := i.last, file := i.file, inputs := rest
      number := e.number + 1 }
    return true

/-- Writes what was kept for the end of the cycle. -/
def flush (s : Setting) : Editing Unit := do
  let queue := (← get).queue
  modify fun e => { e with queue := [] }
  for item in queue do
    match item with
    | .text text =>
      let before := if (← get).open? then s.stop else ""
      put (before ++ text)
      modify fun e => { e with open? := false }
    | .file path =>
      match ← s.call.readFile (if path = "/dev/stdin" then "-" else path) with
      | .ok text =>
        if text != "" then
          let before := if (← get).open? then s.stop else ""
          put (before ++ text)
          modify fun e => { e with open? := false }
      | .error _ => pure ()
    | .line path =>
      match (← get).readers.lookup path with
      | some (line :: more) =>
        modify fun e => { e with readers := (path, more) :: e.readers.filter (·.1 != path) }
        putLine s line true
      | some [] => pure ()
      | none =>
        match ← s.call.readFile path with
        | .ok text =>
          match linesOf text with
          | line :: more =>
            modify fun e => { e with readers := (path, more) :: e.readers }
            putLine s line true
          | [] => pure ()
        | .error _ => pure ()

/-- The pattern space with everything in it to be seen, in pieces that fit a line. -/
def visibleSpace (text : String) : String :=
  let shown (c : Char) : List Char :=
    match [('\\', "\\\\"), ('\x07', "\\a"), ('\x08', "\\b"), ('\x0c', "\\f"), ('\n', "\\n"),
        ('\r', "\\r"), ('\t', "\\t"), ('\x0b', "\\v")].lookup c with
    | some escape => escape.toList
    | none =>
      if 32 ≤ c.toNat && c.toNat < 127 then [c]
      else
        let digits := Nat.toDigits 8 c.toNat
        '\\' :: List.replicate (3 - digits.length) '0' ++ digits
  let (lines, last) := (text.toList.map shown).foldl (fun (state : List String × List Char) piece =>
    let (lines, current) := state
    if 69 < current.length + piece.length then
      (String.ofList (current ++ ['\\']) :: lines, piece)
    else (lines, current ++ piece)) ([], [])
  String.intercalate "\n" (lines.reverse ++ [String.ofList last ++ "$"])

/-- Where a jump leads. -/
def jumpTo (s : Setting) (label : String) : Step :=
  if label = "" then .next
  else
    match s.script.labels.lookup label with
    | some place => .go place
    | none => .next

/-- What a chosen command at a place does. -/
def act (s : Setting) (place : Nat) (c : Command) : Editing Step := do
  let e ← get
  let go := Step.go (place + 1)
  let firstLine := String.ofList (e.space.toList.takeWhile (· != '\n'))
  match c.action with
  | .open _ => return go
  | .close => return go
  | .label => return go
  | .number =>
    putLine s (toString e.number) true
    return go
  | .append text =>
    set { e with queue := e.queue ++ [Queued.text text] }
    return go
  | .insert text =>
    put ((if e.open? then s.stop else "") ++ text)
    modify fun e => { e with open? := false }
    return go
  | .change text =>
    let inside := c.second.isSome && !c.negated && (e.ranges.lookup place).isSome
    if !inside then
      put ((if e.open? then s.stop else "") ++ text)
      modify fun e => { e with open? := false }
    return .skip
  | .jump l => return jumpTo s l
  | .jumpIf l =>
    if e.replaced then
      set { e with replaced := false }
      return jumpTo s l
    else return go
  | .jumpUnless l =>
    if e.replaced then
      set { e with replaced := false }
      return go
    else return jumpTo s l
  | .delete => return .skip
  | .deleteFirst =>
    if e.space.toList.contains '\n' then
      set { e with space := (e.space.drop (firstLine.length + 1)).toString }
      return .again
    else return .skip
  | .get =>
    set { e with space := e.hold }
    return go
  | .getMore =>
    set { e with space := e.space ++ "\n" ++ e.hold }
    return go
  | .hold =>
    set { e with hold := e.space }
    return go
  | .holdMore =>
    set { e with hold := e.hold ++ "\n" ++ e.space }
    return go
  | .exchange =>
    set { e with space := e.hold, hold := e.space }
    return go
  | .show1 =>
    putLine s (visibleSpace e.space) true
    return go
  | .next =>
    if e.inputs.isEmpty then return .stop
    else
      if !s.quiet then putLine s e.space e.broken
      flush s
      let _ ← advance
      return go
  | .nextMore =>
    if e.inputs.isEmpty then return .stop
    else
      flush s
      let _ ← advance
      modify fun f => { f with space := e.space ++ "\n" ++ f.space }
      return go
  | .print =>
    putLine s e.space e.broken
    return go
  | .printFirst =>
    putLine s firstLine true
    return go
  | .quit code =>
    set { e with code }
    return .stop
  | .quitSilently code =>
    set { e with code }
    return .stopSilently
  | .read path =>
    set { e with queue := e.queue ++ [Queued.file path] }
    return go
  | .readLine path =>
    set { e with queue := e.queue ++ [Queued.line path] }
    return go
  | .replace r =>
    replaceIn s r
    return go
  | .write path =>
    putFile s path e.space e.broken
    return go
  | .writeFirst path =>
    putFile s path firstLine true
    return go
  | .translate pairs =>
    set { e with space := e.space.map fun c => (pairs.lookup c).getD c }
    return go
  | .empty =>
    set { e with space := "" }
    return go
  | .name =>
    putLine s (if e.file = "" then "-" else e.file) true
    return go

/-! ## §5 Cycles -/

/-- Runs the commands from a place on, at most so many, and then comes to the next
line. The result says whether to go on. -/
def runFrom (s : Setting) : Nat → Nat → Editing Bool
  | 0, _ => return false
  | fuel + 1, place => do
    let finish (silent : Bool) : Editing Unit := do
      if !silent && !s.quiet then putLine s (← get).space (← get).broken
      flush s
    let follow (step : Step) : Editing Bool := do
      match step with
      | .go place => runFrom s fuel place
      | .next =>
        finish false
        if ← advance then
          modify fun e => { e with replaced := false }
          runFrom s fuel 0
        else return true
      | .skip =>
        finish true
        if ← advance then
          modify fun e => { e with replaced := false }
          runFrom s fuel 0
        else return true
      | .again =>
        finish true
        runFrom s fuel 0
      | .stop =>
        finish false
        return false
      | .stopSilently => return false
    match s.script.commands[place]? with
    | none => follow .next
    | some c =>
      let isChosen ← chosen place c
      if isChosen != c.negated then follow (← act s place c)
      else
        match c.action with
        | .open last => follow (.go (last + 1))
        | _ => follow (.go (place + 1))

/-- How many commands may be run in all. -/
def commandLimit : Nat := 2000000

/-- The lines of a file as inputs. -/
def inputsOf (stop : Char) (file text : String) : List Input :=
  let pieces := (splitAtChar stop text.toList).map String.ofList
  let whole := pieces.getLast? == some ""
  let lines := if whole then pieces.dropLast else pieces
  (lines.zipIdx 1).map fun (line, n) => ⟨line, whole || n < lines.length, false, file⟩

/-- Inputs of which the last one is marked. -/
def markLast : List Input → List Input
  | [] => []
  | [i] => [{ i with last := true }]
  | i :: rest => i :: markLast rest

/-- Edits inputs to their end; the result says whether to go on with others. -/
def editAll (s : Setting) (inputs : List Input) : Editing Bool := do
  modify fun e => { e with inputs }
  if ← advance then
    modify fun e => { e with replaced := false }
    runFrom s commandLimit 0
  else return true

/-! ## §6 Program -/

/-- The files that a script writes into. -/
def Script.outputs (s : Script) : List String :=
  (s.commands.toList.filterMap fun c =>
    match c.action with
    | .write path => some path
    | .writeFirst path => some path
    | .replace r => r.file
    | _ => none).eraseDups

/-- Edits the files one by one, each in its place. -/
def editInPlace (s : Setting) (stop : Char) (suffix : String) : List String → Editing Unit
  | [] => return ()
  | path :: rest => do
    match ← s.call.readFile path with
    | .error fault =>
      s.call.say (if fault == .isDirectory then "couldn't edit " ++ path ++ ": not a regular file"
        else "can't read " ++ path ++ ": " ++ fault.reason)
      modify fun e => { e with code := if fault == .isDirectory then 4 else 2 }
      editInPlace s stop suffix rest
    | .ok text =>
      if suffix != "" then
        let backup := if suffix.toList.contains '*' then fillIn "*" (lastPiece path) suffix
          else path ++ suffix
        let _ ← writeFile backup text
      match ← Task.openPath path .writing with
      | .error fault => s.call.say ("couldn't open file " ++ path ++ ": " ++ fault.reason)
      | .ok index =>
        modify fun e => { e with output := some index, number := 0, open? := false, ranges := [] }
        let goes ← editAll s (markLast (inputsOf stop path text))
        if !goes then
          -- what was not edited stays
          let e ← get
          for i in e.inputs do
            putLine s i.text i.broken
        modify fun e => { e with output := none }
        if goes then editInPlace s stop suffix rest

end Edit

open Edit in
def sed : Utility := fun call =>
  match Options.read "ne:f:Eri::suzl:b" [("quiet", 'n'), ("silent", 'n'), ("expression", 'e'),
      ("file", 'f'), ("regexp-extended", 'E'), ("in-place", 'i'), ("separate", 's'),
      ("null-data", 'z'), ("unbuffered", 'u'), ("posix", '\x01'), ("sandbox", '\x01'),
      ("debug", '\x01')] true call.args with
  | .error e => do
    call.say e
    return 1
  | .ok o => do
    let mut parts := #[]
    for (c, value) in o.given do
      if c == 'e' then parts := parts.push value
      else if c == 'f' then
        match ← call.readFile value with
        | .ok text => parts := parts.push (if text.endsWith "\n" then (text.dropEnd 1).toString else text)
        | .error fault => return ← call.fail ("couldn't open file " ++ value ++ ": " ++ fault.reason)
    let given := !parts.isEmpty
    match given, o.operands with
    | false, [] =>
      Task.complain ("Usage: " ++ call.name ++ " [OPTION]... \x7bscript-only-if-no-other-script\x7d [input-file]...")
      return 1
    | _, operands =>
      let text := if given then String.intercalate "\n" parts.toList else operands.headD ""
      let paths := if given then operands else operands.drop 1
      let quiet := o.has 'n' || text.startsWith "#n\n" || text = "#n"
      match readScript (o.has 'E' || o.has 'r') text with
      | .error e => call.fail ("-e expression #1, char " ++ toString text.length ++ ": " ++ e)
      | .ok script =>
        let setting : Setting :=
          { script, quiet, call, stop := if o.has 'z' then "\x00" else "\n" }
        let stop : Char := if o.has 'z' then '\x00' else '\n'
        let mut files := []
        for path in script.outputs do
          if path != "/dev/stdout" && path != "/dev/stderr" then
            match ← Task.openPath path .writing with
            | .ok index => files := (path, index) :: files
            | .error fault =>
              return ← call.fail ("couldn't open file " ++ path ++ ": " ++ fault.reason) 4
        let editor : Editor := {
          space := "", broken := true, hold := "", number := 0, last := false, file := "", inputs := []
          ranges := [], replaced := false, search := none, queue := [], output := none, open? := false
          files, readers := [], code := 0 }
        if o.has 'i' then
          let ((), e) ← (editInPlace setting stop ((o.value? 'i').getD "") paths).run editor
          return e.code
        else
          let mut inputs := #[]
          let mut code := 0
          for path in (if paths.isEmpty then ["-"] else paths) do
            match ← call.readFile path with
            | .ok text =>
              let lines := inputsOf stop (if path = "-" then "" else path) text
              inputs := inputs ++ (if o.has 's' then markLast lines else lines).toArray
            | .error fault =>
              call.say (if fault == .isDirectory then "couldn't read " ++ path ++ ": Is a directory"
                else "can't read " ++ path ++ ": " ++ fault.reason)
              code := 2
          let (_, e) ← (editAll setting (markLast inputs.toList)).run editor
          return if e.code = 0 then code else e.code

end ReleaseKit.Utility
