/-
ReleaseKit.Shell.Builtin — the commands that a shell runs itself.

Here are those that run no other commands. Each is given its name and its
arguments, and leaves a status.

  §1 Outcomes     — printing, and failing as a shell does.
  §2 Printing     — `echo`, `printf`, `test`.
  §3 Directories  — `cd`, `pwd`, `umask`.
  §4 Variables    — `export`, `readonly`, `unset`, `local`, `declare`, `shift`, `let`.
  §5 Options      — `set`, `shopt`, `getopts`.
  §6 Reading      — `read`, `mapfile`.
  §7 Others       — `alias`, `unalias`, `times`, `ulimit`, `hash`.
-/
import ReleaseKit.Machine.Loading
import ReleaseKit.Machine.Mode
import ReleaseKit.Shell.Expansion
import ReleaseKit.Utility.Condition

namespace ReleaseKit.Shell

/-- What a builtin command does with its name and arguments. -/
abbrev Builtin := String → List String → Work Unit

/-! ## §1 Outcomes -/

/-- Ends a builtin command with a status. -/
def done (status : Nat) : Work Unit := setStatus status

/-- Writes to standard output and leaves a status. -/
def print (name text : String) (status : Nat := 0) : Work Unit := do
  match ← task (Task.write 1 text) with
  | .ok () => setStatus status
  | .error fault =>
    if ← isBash then complain (name ++ ": write error: " ++ fault.reason)
    else complain (name ++ ": " ++ name ++ ": I/O error")
    setStatus 1

/-- A wrong call of a builtin command: two in the smaller shell. -/
def wrong (name text : String) (bashStatus : Nat := 1) : Work Unit := do
  complain (name ++ ": " ++ text)
  setStatus (if ← isBash then bashStatus else 2)

/-- A wrong call of a special builtin command, which ends the smaller shell. -/
def fatal (name text : String) (bashStatus : Nat := 1) : Work Unit := do
  complain (name ++ ": " ++ text)
  if ← isBash then setStatus bashStatus else throw (.exit 2)

/-- A number in the arguments of a builtin command. -/
def number? (text : String) : Option Nat :=
  if text != "" && text.toList.all Char.isDigit then text.toNat? else none

/-- A text between single quotes, as a shell lists values. -/
def listed (dialect : Dialect) (text : String) : String :=
  if dialect = .posix then
    -- quotes in it stand between double quotes
    String.ofList ('\x27' :: piece text.toList false ++ ['\x27'])
  else if text != "" && text.toList.all fun c => c.isAlphanum || "-_./=:@,+%".toList.contains c then text
  else bashQuoted text
where
  piece : List Char → Bool → List Char
    | [], open_ => if open_ then ['\x22', '\x27'] else []
    | c :: rest, open_ =>
      if c = '\x27' then (if open_ then [] else ['\x27', '\x22']) ++ '\x27' :: piece rest true
      else (if open_ then ['\x22', '\x27'] else []) ++ c :: piece rest false

/-- A text between double quotes, as the larger shell lists declarations. -/
def doubleListed (text : String) : String :=
  if text.toList.any fun c => c.toNat < 32 then bashQuoted text
  else "\"" ++ String.ofList (text.toList.flatMap fun c =>
    if ['\x22', '$', '\x60', '\\'].contains c then ['\\', c] else [c]) ++ "\""

/-! ## §2 Printing -/

/-- The style in which a shell writes formats. -/
def styleOf : Dialect → Printf.Style
  | .posix => .posixShell
  | .bash => .bash

/-- What the larger shell is told by the options of `echo`: no line break, escapes,
and the words that are left. -/
def bashEcho (bare escapes : Bool) : List String → Bool × Bool × List String
  | [] => (bare, escapes, [])
  | word :: rest =>
    match word.toList with
    | '-' :: letters =>
      if !letters.isEmpty && letters.all ['n', 'e', 'E'].contains then
        let last := (letters.filter (· != 'n')).getLast?
        bashEcho (bare || letters.contains 'n')
          (match last with
            | some c => c == 'e'
            | none => escapes) rest
      else (bare, escapes, word :: rest)
    | _ => (bare, escapes, word :: rest)

/-- A text in which only those octal escapes are left that start with a zero. -/
def keepDigits : List Char → List Char
  | '\\' :: c :: rest =>
    if '1' ≤ c && c ≤ '7' then '\\' :: '\\' :: c :: keepDigits rest
    else '\\' :: c :: keepDigits rest
  | c :: rest => c :: keepDigits rest
  | [] => []

def echoCommand : Builtin := fun name args => do
  if ← isBash then
    let (bare, escapes, words) := bashEcho false (← hasOption "xpg_echo") args
    let words := if escapes then words.map fun w => String.ofList (keepDigits w.toList) else words
    print name (Printf.echo .bash escapes bare words)
  else
    match args with
    | "-n" :: rest => print name (Printf.echo .posixShell true true rest)
    | _ => print name (Printf.echo .posixShell true false args)

/-- A word as the larger shell quotes it with backslashes. -/
def backslashed (text : String) : String :=
  if text = "" then "''"
  else if text.toList.any fun c => !Quotes.isShown c then bashQuoted text
  else String.ofList (text.toList.flatMap fun c =>
    if c.isAlphanum || "%+-./:=@_".toList.contains c then [c] else ['\\', c])

def printfCommand : Builtin := fun name args => do
  let s ← get
  let style := styleOf s.dialect
  let go (target : Option String) (args : List String) : Work Unit := do
    match args with
    | [] =>
      if s.dialect = .posix then wrong name "usage: printf format [arg ...]"
      else
        task (Task.complain "printf: usage: printf [-v var] format [arguments]")
        setStatus 2
    | format :: args =>
      let (written, _) := Printf.write style backslashed format args
      let text := String.ofList written.output
      match target with
      | some var =>
        setText var text
        setStatus written.code
      | none =>
        print name text written.code
      for line in written.complaints do
        complain (name ++ ": " ++ line)
  match args with
  | "--" :: rest => go none rest
  | "-v" :: var :: rest =>
    if s.dialect = .bash then go (some var) rest else wrong name "Illegal option -v"
  | first :: _ =>
    match first.toList with
    | '-' :: c :: _ =>
      if s.dialect = .posix then wrong name ("Illegal option -" ++ String.singleton c)
      else
        complain (name ++ ": " ++ String.ofList ['-', c] ++ ": invalid option")
        task (Task.complain "printf: usage: printf [-v var] format [arguments]")
        setStatus 2
    | _ => go none args
  | [] => go none []

def testCommand : Builtin := fun name args => do
  let s ← get
  let facts : Condition.Facts :=
    { style := styleOf s.dialect
      disk := s.world.disk
      cwd := s.world.self.cwd
      hasValue := fun v => (text? s v).isSome }
  let check (words : List String) : Work Unit := do
    match Condition.holds facts words with
    | .ok true => done 0
    | .ok false => done 1
    | .error text =>
      complain (name ++ ": " ++ text)
      done 2
  if name = "[" then
    if args.getLast? = some "]" then check args.dropLast
    else
      complain (name ++ (if s.dialect = .posix then ": missing ]" else ": missing \x60]'"))
      done 2
  else check args

/-! ## §3 Directories -/

/-- A path from the root without pieces that say nothing; two dots take away the
piece before them. -/
def tidyPath (path : String) : String :=
  let pieces := path.splitOn "/"
  let kept := pieces.foldl (fun (acc : List String) piece =>
    if piece = "" || piece = "." then acc
    else if piece = ".." then acc.drop 1
    else piece :: acc) []
  "/" ++ String.intercalate "/" kept.reverse

/-- The path of the working directory, as the shell came to it. -/
def workingPath (s : State) : String :=
  let physical := Disk.pathOf s.world.self.cwd
  match text? s "PWD" with
  | some path =>
    if path.startsWith "/" &&
        (s.world.disk.resolve false [] path).toOption == some s.world.self.cwd then path
    else physical
  | none => physical

/-- The options of a builtin command that has only letters, and the arguments
behind them. -/
def splitLetters (allowed : List Char) : List String → Except Char (List Char × List String)
  | [] => .ok ([], [])
  | arg :: rest =>
    match arg.toList with
    | ['-', '-'] => .ok ([], rest)
    | '-' :: c :: cs =>
      match (c :: cs).find? fun d => !allowed.contains d with
      | some d => .error d
      | none => (splitLetters allowed rest).map fun (letters, left) => (c :: cs ++ letters, left)
    | _ => .ok ([], arg :: rest)

/-- What is said of an option that does not exist. -/
def badOption (name : String) (c : Char) : Work Unit := do
  if ← isBash then wrong name ("-" ++ String.singleton c ++ ": invalid option") 2
  else wrong name ("Illegal option -" ++ String.singleton c)

/-- Goes to a directory. -/
def enter (path : String) (physical : Bool) : Work (Except Fault Unit) := do
  let s ← get
  let here := workingPath s
  let target := if path.startsWith "/" then path else here ++ "/" ++ path
  match s.world.disk.find false s.world.self.cwd (if path = "" then "." else path) with
  | .error fault => return .error fault
  | .ok (l, .dir _ _) =>
    setText "OLDPWD" here
    setText "PWD" (if physical then Disk.pathOf l else tidyPath target)
    task (Task.modifySelf fun p => { p with cwd := l })
    return .ok ()
  | .ok _ => return .error .notDirectory

def cdCommand : Builtin := fun name args => do
  let s ← get
  match splitLetters ['L', 'P', 'e', '@'] args with
  | .error c => badOption name c
  | .ok (letters, rest) =>
    let physical := letters.getLast? == some 'P'
    let go (path : String) (shown : Bool) : Work Unit := do
      let candidates : List (String × Bool) :=
        match text? s "CDPATH" with
        | some dirs =>
          if path.startsWith "/" || path.startsWith "./" || path.startsWith "../" || path = "." || path = ".." then []
          else (dirs.splitOn ":").map fun dir =>
            if dir = "" then (path, false)
            else ((if dir.endsWith "/" then dir else dir ++ "/") ++ path, true)
        | none => []
      let found := candidates.find? fun (p, _) => s.world.disk.isDirAt s.world.self.cwd p
      let (path', shown) :=
        match found with
        | some (p, far) => (p, shown || far)
        | none => (path, shown)
      match ← enter path' physical with
      | .ok () =>
        if shown then print name (workingPath (← get) ++ "\n") else done 0
      | .error fault =>
        if s.dialect = .posix then wrong name ("can't cd to " ++ path)
        else wrong name (path ++ ": " ++ fault.reason)
    match rest with
    | [] =>
      match text? s "HOME" with
      | some home => go home false
      | none => if s.dialect = .posix then done 0 else wrong name "HOME not set"
    | path :: more =>
      if s.dialect = .bash && !more.isEmpty then wrong name "too many arguments"
      else if path = "-" then
        match text? s "OLDPWD" with
        | some old => go old true
        | none => if s.dialect = .posix then go "" true else wrong name "OLDPWD not set"
      else go path false

def pwdCommand : Builtin := fun name args => do
  match splitLetters ['L', 'P'] args with
  | .error c => badOption name c
  | .ok (letters, _) =>
    let s ← get
    let path :=
      if letters.getLast? == some 'P' then Disk.pathOf s.world.self.cwd else workingPath s
    print name (path ++ "\n")

def umaskCommand : Builtin := fun name args => do
  match splitLetters ['S', 'p'] args with
  | .error c => badOption name c
  | .ok (letters, rest) =>
    let mask := (← get).world.self.umask
    match rest with
    | [] =>
      let digits := inBase 8 mask
      print name ((if letters.contains 'S' then Mode.allowed mask
        else String.ofList (List.replicate (4 - digits.length) '0') ++ digits) ++ "\n")
    | text :: _ =>
      if text.toList.all Printf.isOctal then
        task (Task.modifySelf fun p => { p with umask := Amount.ofDigits 8 text.toList % 512 })
        done 0
      else
        let mode := (text.splitOn ",").foldlM (Mode.change true 0) (0o777 - mask)
        match mode with
        | some m =>
          task (Task.modifySelf fun p => { p with umask := 0o777 - m % 512 })
          done 0
        | none => wrong name ("Illegal mode: " ++ text)

/-! ## §4 Variables -/

/-- How the larger shell declares a variable again. -/
def declaration (name : String) (v : Variable) : String :=
  let letters :=
    (match v.value with
      | some (.items _) => "a"
      | some (.table _) => "A"
      | _ => "") ++ (if v.integer then "i" else "") ++ (if v.lower then "l" else "") ++
    (if v.fixed then "r" else "") ++ (if v.upper then "u" else "") ++ (if v.exported then "x" else "")
  let flags := if letters = "" then "--" else "-" ++ letters
  let value :=
    match v.value with
    | none => ""
    | some (.text t) => "=" ++ doubleListed t
    | some (.items list) =>
      "=(" ++ String.intercalate " " (list.map fun (n, t) =>
        "[" ++ toString n ++ "]=" ++ doubleListed t) ++ ")"
    | some (.table list) =>
      "=(" ++ String.join (list.map fun (k, t) => "[" ++ k ++ "]=" ++ doubleListed t ++ " ") ++ ")"
  "declare " ++ flags ++ " " ++ name ++ value ++ "\n"

/-- The variables that a test accepts, in the order of names. -/
def variablesWhere (s : State) (p : Variable → Bool) : List (String × Variable) :=
  (s.vars.filter fun (_, v) => p v).mergeSort fun a b => a.1 ≤ b.1

/-- Lists variables as commands that would make them. -/
def listVariables (name word : String) (p : Variable → Bool) : Work Unit := do
  let s ← get
  let lines := (variablesWhere s p).map fun (n, v) =>
    if s.dialect = .bash then declaration n v
    else word ++ " " ++ n ++ (match v.value.bind Value.scalar with
      | some t => "=" ++ listed .posix t
      | none => "") ++ "\n"
  print name (String.join lines)

/-- A word of the form `name=value`. -/
def splitAssignment (word : String) : String × Option String := splitDefinition word

/-- Gives a variable, or an item of it, what a word says. -/
def assignWord (name value : String) : Work Unit := do
  match splitName name.toList with
  | (base, '[' :: inside) =>
    let key := String.ofList (inside.takeWhile (· != ']'))
    match ((← get).bound? base).bind (·.value) with
    | some (.table _) => setElement base (.inr key) value
    | _ => setElement base (.inl (← arithmetic key)) value
  | _ => setText name value

/-- What is said of a word that is no name. -/
def notName (dialect : Dialect) (word : String) : String :=
  if dialect = .posix then word ++ ": bad variable name" else "\x60" ++ word ++ "': not a valid identifier"

/-- Declares names, some with values, and changes each variable. -/
def declareNames (name : String) (words : List String) (change : Variable → Variable) :
    Work Unit := do
  done 0
  for word in words do
    let s ← get
    let (n, value) := splitAssignment word
    let (base, append) :=
      if s.dialect = .bash && n.endsWith "+" && value.isSome then (n.dropEnd 1 |>.toString, true) else (n, false)
    if !isName base then
      fatal name (notName s.dialect (if s.dialect = .posix then base else word))
    else
      match value with
      | some t => setText base (if append then (text? s base).getD "" ++ t else t)
      | none => pure ()
      let v := ((← get).bound? base).getD {}
      putVariable base (change v)

def exportCommand : Builtin := fun name args => do
  match splitLetters ['p', 'n', 'f'] args with
  | .error c => fatal name ("Illegal option -" ++ String.singleton c) 2
  | .ok (letters, words) =>
    if words.isEmpty then listVariables name "export" (·.exported)
    else declareNames name words fun v => { v with exported := !letters.contains 'n' }

def readonlyCommand : Builtin := fun name args => do
  match splitLetters ['p', 'a', 'f', 'A'] args with
  | .error c => fatal name ("Illegal option -" ++ String.singleton c) 2
  | .ok (_, words) =>
    if words.isEmpty then listVariables name "readonly" (·.fixed)
    else declareNames name words fun v => { v with fixed := true }

def unsetCommand : Builtin := fun name args => do
  match splitLetters ['f', 'v', 'n'] args with
  | .error c => fatal name ("Illegal option -" ++ String.singleton c) 2
  | .ok (letters, words) =>
    done 0
    for word in words do
      let s ← get
      let dropFunction : Work Unit := modify fun s => { s with
        functions := s.functions.filter fun (other, _) => other != word }
      if letters.contains 'f' then dropFunction
      else
        match splitName word.toList with
        | (base, '[' :: inside) =>
          let key := String.ofList (inside.takeWhile (· != ']'))
          match (s.bound? base).bind (·.value) with
          | some (.table list) =>
            let v := (s.bound? base).getD {}
            putVariable base { v with value := some (.table (list.filter fun (k, _) => k != key)) }
          | some (.items list) =>
            let v := (s.bound? base).getD {}
            let n ← arithmetic key
            putVariable base { v with value := some (.items (list.filter fun (k, _) => k != n)) }
          | _ => pure ()
        | _ =>
          if !isName word && s.dialect = .posix then fatal name (word ++ ": bad variable name")
          else if (s.bound? word).isSome then
            if !(← unset word) then
              fatal name (if s.dialect = .posix then word ++ ": is read only"
                else word ++ ": cannot unset: readonly variable")
          else if s.dialect = .bash && !letters.contains 'v' then dropFunction

def localCommand : Builtin := fun name args => do
  let s ← get
  if s.scopes.isEmpty then
    if s.dialect = .posix then
      complain (name ++ ": not in a function")
      throw (.exit 2)
    else wrong name "can only be used in a function"
  else
    let words := args.filter fun a => !(s.dialect = .bash && a.startsWith "-")
    done 0
    for word in words do
      let (n, value) := splitAssignment word
      if !isName n then fatal name (notName s.dialect n)
      else
        makeLocal n
        match value with
        | some t =>
          if s.dialect = .bash then putVariable n {}
          setText n t
        | none => if s.dialect = .bash then putVariable n {}

/-- A text, or the value of the expression that it is. -/
def evaluated (isExpression : Bool) (text : String) : Work String := do
  if isExpression then
    let n ← arithmetic text
    return toString n
  else return text

/-- Declares variables of the larger shell, with the letters of their kinds. -/
def declareCommand : Builtin := fun name args => do
  let s ← get
  let flags := args.takeWhile fun a => (a.startsWith "-" || a.startsWith "+") && 1 < a.length
  let on := (flags.filter (·.startsWith "-")).flatMap fun a => a.toList.drop 1
  let off := (flags.filter (·.startsWith "+")).flatMap fun a => a.toList.drop 1
  let words := args.drop flags.length
  if on.contains 'f' || on.contains 'F' then
    done (if words.all fun w => s.functions.any fun (n, _) => n == w then 0 else 1)
  else if on.contains 'p' then
    if words.isEmpty then listVariables name "declare" fun _ => true
    else
      done 0
      for word in words do
        match (← get).bound? word with
        | some v => print name (declaration word v)
        | none =>
          complain (name ++ ": " ++ word ++ ": not found")
          done 1
  else if words.isEmpty then listVariables name "declare" fun _ => true
  else
    let isGlobal := on.contains 'g'
    done 0
    for word in words do
      let (n, value) := splitAssignment word
      let (base, _) := splitName n.toList
      if !isName base then fatal name (notName s.dialect word)
      else
        if !s.scopes.isEmpty && !isGlobal then
          makeLocal base
        let v := ((← get).bound? base).getD {}
        let start : Option Value :=
          if on.contains 'A' then
            some (match v.value with
              | some (.table list) => .table list
              | _ => .table [])
          else if on.contains 'a' then
            some (match v.value with
              | some (.items list) => .items list
              | some (.text t) => .items [(0, t)]
              | _ => .items [])
          else v.value
        putVariable base { v with
          value := start
          integer := (v.integer || on.contains 'i') && !off.contains 'i'
          upper := (v.upper || on.contains 'u') && !off.contains 'u'
          lower := (v.lower || on.contains 'l') && !off.contains 'l'
          exported := (v.exported || on.contains 'x') && !off.contains 'x' }
        match value with
        | some t =>
          let append := n.endsWith "+"
          let n := if append then (n.dropEnd 1).toString else n
          let old ← textOf n
          let t := if append then old ++ t else t
          let t ← (if on.contains 'i' then do pure (toString (← arithmetic t)) else pure t)
          assignWord n t
        | none => pure ()
        if on.contains 'r' then
          let v := ((← get).bound? base).getD {}
          putVariable base { v with fixed := true }

def shiftCommand : Builtin := fun name args => do
  let s ← get
  let count :=
    match args with
    | [] => some 1
    | n :: _ => number? n
  match count with
  | none => fatal name ("Illegal number: " ++ args.headD "")
  | some n =>
    if s.args.length < n then
      if s.dialect = .posix then fatal name "can't shift that many" else done 1
    else
      set { s with args := s.args.drop n, status := 0 }

def letCommand : Builtin := fun name args => do
  if args.isEmpty then wrong name "expression expected"
  else
    let mut last : Int := 0
    for arg in args do
      last ← arithmetic arg
    done (if last = 0 then 1 else 0)

/-! ## §5 Options -/

/-- Turns an option on or off. -/
def switch (name : String) (on : Bool) : Work Unit := modify fun s =>
  let others := s.options.filter (· != name)
  { s with options := if on then name :: others else others }

/-- Turns the options on or off that letters name. The result is false if one
does not exist. -/
def switchLetters (on : Bool) : List Char → Work (Option Char)
  | [] => return none
  | c :: rest => do
    match Setting.ofLetter? (← get).dialect c with
    | some name =>
      switch name on
      switchLetters on rest
    | none => return some c

/-- Reads the options of a shell, or of `set`. What is left over is given back,
and whether anything that ends the options was there. -/
def readOptions (name : String) : List String → Work (Option (List String × Bool))
  | [] => return some ([], false)
  | arg :: rest => do
    let s ← get
    match arg.toList with
    | ['-', '-'] => return some (rest, true)
    | ['-'] =>
      switch "xtrace" false
      switch "verbose" false
      return some (rest, !rest.isEmpty)
    | sign :: letters =>
      if (sign = '-' || sign = '+') && !letters.isEmpty then
        let plain := letters.filter (· != 'o')
        match ← switchLetters (sign == '-') plain with
        | some c =>
          fatal name (if s.dialect = .posix then
              "Illegal option " ++ String.ofList [sign, c]
            else String.ofList [sign, c] ++ ": invalid option") 2
          return none
        | none =>
          if letters.contains 'o' then
            match rest with
            | option :: rest =>
              if (Setting.names s.dialect).contains option then
                switch option (sign == '-')
                readOptions name rest
              else
                fatal name (if s.dialect = .posix then
                    "Illegal option " ++ String.ofList [sign] ++ "o " ++ option
                  else option ++ ": invalid option name") 2
                return none
            | [] =>
              print name (Setting.listing s.dialect (sign == '+') s.options)
              return some ([], false)
          else readOptions name rest
      else return some (arg :: rest, true)
    | [] => return some (arg :: rest, true)

def setCommand : Builtin := fun name args => do
  if args.isEmpty then
    let s ← get
    let rows := (variablesWhere s fun v => v.value.isSome).map fun (n, v) =>
      n ++ "=" ++ (match s.dialect, v.value with
        | .posix, some value => listed .posix (value.scalar.getD "")
        | .bash, some (.text t) => if t = "" then "" else listed .bash t
        | .bash, some _ => (declaration n v |>.splitOn "=" |>.drop 1 |> String.intercalate "=" |>.dropEnd 1 |>.toString)
        | _, none => "") ++ "\n"
    print name (String.join rows)
  else
    done 0
    match ← readOptions name args with
    | none => pure ()
    | some (rest, ended) =>
      if ended then modify fun s => { s with args := rest }

def shoptCommand : Builtin := fun name args => do
  let flags := args.takeWhile (·.startsWith "-")
  let on := flags.any fun f => f.toList.contains 's'
  let off := flags.any fun f => f.toList.contains 'u'
  let quiet := flags.any fun f => f.toList.contains 'q'
  let words := args.drop flags.length
  done 0
  for word in words do
    if on then switch word true
    else if off then switch word false
    else
      let isOn ← hasOption word
      if !quiet then print name (padRight 16 word ++ (if isOn then "\ton" else "\toff") ++ "\n")
      done (if isOn then 0 else 1)

/-- The next option of words, by the letters that there are. -/
def getoptsCommand : Builtin := fun name args => do
  match args with
  | letters :: var :: more =>
    let s ← get
    let words := if more.isEmpty then s.args else more
    let quiet := letters.startsWith ":"
    let index := ((text? s "OPTIND").bind number?).getD 1
    let place := s.optionPlace
    let finish (index : Nat) : Work Unit := do
      setText "OPTIND" (toString index)
      let _ ← unset "OPTARG"
      setText var "?"
      done 1
    let give (c : String) (value : Option String) (index place : Nat) : Work Unit := do
      setText "OPTIND" (toString index)
      modify fun s => { s with optionPlace := place }
      match value with
      | some v => setText "OPTARG" v
      | none => if s.dialect = .posix then setText "OPTARG" "" else do let _ ← unset "OPTARG"
      setText var c
      done 0
    let grumble (text bashText : String) (c : Char) : Work Unit := do
      if s.dialect = .posix then task (Task.complain (text.replace "%" (String.singleton c)))
      else task (Task.complain (s.name ++ ": " ++ bashText ++ " -- " ++ String.singleton c))
    match words[index - 1]? with
    | none => finish index
    | some word =>
      let chars := word.toList
      if place = 0 && (chars.length < 2 || chars.head? != some '-') then finish index
      else if place = 0 && word = "--" then finish (index + 1)
      else
        let at_ := if place = 0 then 1 else place
        match chars[at_]? with
        | none => finish (index + 1)
        | some c =>
          let isLast := at_ + 1 = chars.length
          let (nextIndex, nextPlace) := if isLast then (index + 1, 0) else (index, at_ + 1)
          let taking := if c = ':' then none else Options.taking? letters.toList c
          match taking with
          | none =>
            if quiet then give "?" (some (String.singleton c)) nextIndex nextPlace
            else
              grumble "Illegal option -%" "illegal option" c
              give "?" none nextIndex nextPlace
          | some .none => give (String.singleton c) none nextIndex nextPlace
          | some _ =>
            if !isLast then
              give (String.singleton c) (some (String.ofList (chars.drop (at_ + 1)))) (index + 1) 0
            else
              match words[index]? with
              | some value => give (String.singleton c) (some value) (index + 2) 0
              | none =>
                if quiet then give ":" (some (String.singleton c)) (index + 1) 0
                else
                  grumble "No arg for -% option" "option requires an argument" c
                  give "?" none (index + 1) 0
  | _ => wrong name "Usage: getopts optstring var [arg...]" 2

/-! ## §6 Reading -/

/-- A line whose backslashes quote: what has been quoted is marked. -/
def quotedLine : List Char → List Marked
  | '\\' :: c :: rest => (c, true) :: quotedLine rest
  | ['\\'] => []
  | c :: rest => (c, false) :: quotedLine rest
  | [] => []

/-- Whether a line goes on in the next one: it ends with a backslash that nothing
quotes. -/
def isContinued (line : List Char) : Bool :=
  (line.reverse.takeWhile (· == '\\')).length % 2 = 1

/-- Reads a line, and those that it goes on in; whether its end was there. -/
def readLogical (fd : Nat) (stop : UInt8) (raw : Bool) : Nat → Work (Option (List Char × Bool))
  | 0 => return none
  | fuel + 1 => do
    match ← task (Task.readLine fd stop) with
    | .error _ => return none
    | .ok none => return none
    | .ok (some (line, ended)) =>
      let chars := line.toList.filter (· != '\x00')
      if !raw && ended && isContinued chars && stop == 10 then
        match ← readLogical fd stop raw fuel with
        | some (more, ended) => return some (chars.dropLast ++ more, ended)
        | none => return some (chars.dropLast, false)
      else return some (chars, ended)

def isBlankChar (c : Char) : Bool := c == ' ' || c == '\t' || c == '\n'

/-- Splits a line for so many variables; the last one takes what is left. -/
def splitLine (ifs : List Char) : Nat → List Marked → List String
  | 0, _ => []
  | count + 1, chars =>
    let isSep (m : Marked) : Bool := !m.2 && ifs.contains m.1
    let isSpace (m : Marked) : Bool := isSep m && isBlankChar m.1
    let start := chars.dropWhile isSpace
    let field := start.takeWhile fun m => !isSep m
    let after := start.drop field.length
    let left := after.dropWhile isSpace
    let left :=
      match left with
      | m :: rest => if isSep m && !isSpace m then rest.dropWhile isSpace else left
      | [] => []
    if count = 0 then
      -- one separator at the very end does not belong to the text
      if left.isEmpty then [plainOf field]
      else
        let kept := (start.reverse.dropWhile isSpace).reverse
        [plainOf kept]
    else plainOf field :: splitLine ifs count left

/-- Reads at most so many characters. -/
def readSome (fd count : Nat) : Work (Option (List Char × Bool)) := do
  match ← task (Task.readUpTo fd count) with
  | .error _ => return none
  | .ok bytes =>
    if bytes.size = 0 then return none
    else return some ((Raw.ofBytes bytes).toList, bytes.size = count)

def readInput : Builtin := fun name args => do
  let s ← get
  let short := if s.dialect = .bash then "ra:d:n:N:p:st:u:ei:" else "rp:"
  match Options.read short [] false args with
  | .error e =>
    wrong name (if s.dialect = .posix then
      "Illegal option -" ++ String.ofList ((e.toList.reverse.drop 1).take 1) else e) 2
  | .ok o =>
    if s.dialect = .posix && o.operands.isEmpty then wrong name "arg count"
    else
      let raw := o.has 'r'
      let fd := ((o.value? 'u').bind number?).getD 0
      let stop : UInt8 :=
        match o.value? 'd' with
        | some d => (d.toList.head?.map Raw.byte).getD 0
        | none => 10
      let count := ((o.value? 'n').orElse fun _ => o.value? 'N').bind number?
      let got ← match count with
        | some n => readSome fd n
        | none => readLogical fd stop raw 100000
      let (line, ended) := got.getD ([], false)
      let line := if count.isSome && !o.has 'N' then line.takeWhile (· != '\n') else line
      let marked := if raw then line.map fun c => (c, false) else quotedLine line
      let ifs ← separators
      match o.value? 'a' with
      | some array =>
        let pieces := marked.map fun (c, quoted) => Piece.char c quoted (!quoted)
        let items := (splitFields ifs pieces).map plainOf
        setValue array (.items (items.zipIdx.map fun (t, i) => ((i : Int), t)))
      | none =>
        if o.operands.isEmpty then setText "REPLY" (plainOf marked)
        else
          let values :=
            if o.has 'N' then plainOf marked :: o.operands.tail.map fun _ => ""
            else splitLine ifs o.operands.length marked
          for (var, value) in o.operands.zip values do
            if isName var then setText var value
            else assignWord var value
      done (if got.isSome && ended then 0 else 1)

def mapfileCommand : Builtin := fun name args => do
  match Options.read "td:n:O:s:u:" [] false args with
  | .error e => wrong name e 2
  | .ok o =>
    match ← task (Task.readAll 0) with
    | .error _ => done 1
    | .ok text =>
      let lines := linesOf text
      let isEnded := text.endsWith "\n"
      let lines := if o.has 't' then lines else lines.zipIdx.map fun (line, i) =>
        if i + 1 < lines.length || isEnded then line ++ "\n" else line
      let lines := lines.drop (((o.value? 's').bind number?).getD 0)
      let lines :=
        match (o.value? 'n').bind number? with
        | some (n + 1) => lines.take (n + 1)
        | _ => lines
      setValue (o.operands.headD "MAPFILE")
        (.items (lines.zipIdx.map fun (t, i) => ((i : Int), t)))
      done 0

/-! ## §7 Others -/

def aliasCommand : Builtin := fun name args => do
  let s ← get
  let shown (n text : String) : String :=
    (if s.dialect = .bash then "alias " else "") ++ n ++ "=" ++
      (if s.dialect = .bash then bashQuoted text else listed .posix text) ++ "\n"
  if args.isEmpty then
    print name (String.join ((s.aliases.mergeSort fun a b => a.1 ≤ b.1).map fun (n, t) => shown n t))
  else
    done 0
    for arg in args do
      match splitAssignment arg with
      | (n, some text) =>
        modify fun s => { s with aliases := (n, text) :: s.aliases.filter fun (m, _) => m != n }
      | (n, none) =>
        match (← get).aliases.lookup n with
        | some text => print name (shown n text)
        | none =>
          if s.dialect = .bash then complain ("alias: " ++ n ++ ": not found")
          else task (Task.complain ("alias: " ++ n ++ " not found"))
          done 1

def unaliasCommand : Builtin := fun _ args => do
  done 0
  for arg in args do
    let s ← get
    if arg = "-a" then set { s with aliases := [] }
    else if s.aliases.any fun (n, _) => n == arg then
      set { s with aliases := s.aliases.filter fun (n, _) => n != arg }
    else
      if s.dialect = .bash then complain ("unalias: " ++ arg ++ ": not found")
      else task (Task.complain ("unalias: " ++ arg ++ " not found"))
      done 1

def timesCommand : Builtin := fun name _ => do
  let zero := if ← isBash then "0m0.000s 0m0.000s\n" else "0m0.000000s 0m0.000000s\n"
  print name (zero ++ zero)

def ulimitCommand : Builtin := fun name args => do
  if args.any fun a => !a.startsWith "-" then done 0
  else print name (if args.contains "-n" then "1048576\n" else "unlimited\n")

def hashCommand : Builtin := fun name args => do
  let s ← get
  if s.dialect = .bash && args.isEmpty then print name "hash: hash table empty\n" else done 0
  for arg in args do
    if !arg.startsWith "-" then
      let path := (text? s "PATH").getD Loading.defaultPath
      let known := arg.toList.contains '/' ||
        (Loading.find? s.world.disk s.world.self.cwd path arg).isSome
      if !known then
        complain (name ++ ": " ++ arg ++ ": not found")
        done 1

/-- The builtin commands that run no others. -/
def simpleBuiltins : List (String × Builtin) :=
  [(":", fun _ _ => done 0), ("true", fun _ _ => done 0), ("false", fun _ _ => done 1),
    ("echo", echoCommand), ("printf", printfCommand), ("test", testCommand), ("[", testCommand),
    ("cd", cdCommand), ("chdir", cdCommand), ("pwd", pwdCommand), ("umask", umaskCommand),
    ("export", exportCommand), ("readonly", readonlyCommand), ("unset", unsetCommand),
    ("local", localCommand), ("shift", shiftCommand), ("set", setCommand),
    ("getopts", getoptsCommand), ("read", readInput), ("alias", aliasCommand),
    ("unalias", unaliasCommand), ("times", timesCommand), ("ulimit", ulimitCommand),
    ("hash", hashCommand)]

/-- Those that only the larger shell has. -/
def bashBuiltins : List (String × Builtin) :=
  [("declare", declareCommand), ("typeset", declareCommand), ("let", letCommand),
    ("shopt", shoptCommand), ("mapfile", mapfileCommand), ("readarray", mapfileCommand)]

end ReleaseKit.Shell
