/-
ReleaseKit.Utility.Basic — programs that print, ask, wait and start others.

  §1 Printing   — `echo`, `printf`, `yes`, `seq`.
  §2 Asking     — `test`, `true`, `false`, who and where one is.
  §3 Names      — `basename`, `dirname`.
  §4 Variables  — `env`, `printenv`.
  §5 Starting   — `sleep`, `timeout`, `nice`, `xargs`, `which`.
-/
import ReleaseKit.Machine.Loading
import ReleaseKit.Utility.Condition

namespace ReleaseKit.Utility

/-! ## §1 Printing -/

/-- The options of `echo`, and the words behind them. -/
def echoOptions (bare escapes : Bool) : List String → Bool × Bool × List String
  | [] => (bare, escapes, [])
  | word :: rest =>
    match word.toList with
    | '-' :: letters =>
      if !letters.isEmpty && letters.all ['n', 'e', 'E'].contains then
        echoOptions (bare || letters.contains 'n')
          (match (letters.filter (· != 'n')).getLast? with
            | some c => c == 'e'
            | none => escapes) rest
      else (bare, escapes, word :: rest)
    | _ => (bare, escapes, word :: rest)

/-- Writes a text, and fails if that cannot be done. -/
def emit (call : Call) (text : String) (code : Nat := 0) : Task Nat := do
  match ← Task.write 1 text with
  | .ok () => return code
  | .error fault => call.fail ("write error: " ++ fault.reason)

def echo : Utility := fun call => do
  let (bare, escapes, words) := echoOptions false false call.args
  emit call (Printf.echo .program escapes bare words)

def printf : Utility := fun call => do
  let args :=
    match call.args with
    | "--" :: rest => rest
    | rest => rest
  match args with
  | [] => call.usage "missing operand"
  | format :: args =>
    let (written, left) := Printf.write .program Quotes.needed format args
    let code ← emit call (String.ofList written.output) written.code
    for line in written.complaints do
      call.say line
    if !written.stopped && !left.isEmpty then
      call.say ("warning: ignoring excess arguments, starting with " ++ Quotes.always (left.headD ""))
    return code

/-- Writes a text again and again, at most so often. -/
def repeatOutput (text : ByteArray) : Nat → Task Unit
  | 0 => return ()
  | count + 1 => do
    match ← Task.writeBytes 1 text with
    | .ok () => repeatOutput text count
    | .error _ => return ()

def yes : Utility := fun call => do
  let line := (if call.args.isEmpty then "y" else String.intercalate " " call.args) ++ "\n"
  let block := String.join (List.replicate (8192 / line.length + 1) line)
  repeatOutput (Raw.bytes block) 200
  return 0

/-- A number in the arguments of `seq`: its value, and how many digits it has behind
the point. -/
def seqNumber? (text : String) : Option (Bool × Nat × Nat × Nat) :=
  match Amount.read text.toList with
  | some (.finite negative num den, []) =>
    let fraction := ((text.toList.dropWhile (· != '.')).drop 1).takeWhile Char.isDigit
    some (negative, num, den, fraction.length)
  | _ => none

/-- The options of `seq`; a negative number is none. -/
def seqOptions : Nat → List String → Except String (List (Char × String) × List String)
  | 0, args => .ok ([], args)
  | _ + 1, [] => .ok ([], [])
  | fuel + 1, arg :: rest =>
    match arg.toList with
    | '-' :: c :: cs =>
      if c.isDigit || c == '.' then .ok ([], arg :: rest)
      else if arg = "--" then .ok ([], rest)
      else
        match Options.read "s:wf:" [("separator", 's'), ("equal-width", 'w'), ("format", 'f')] false
            (if (c == 's' || c == 'f') && cs.isEmpty || (c == '-' && !cs.contains '=') then
              arg :: rest.take 1 else [arg]) with
        | .error e => .error e
        | .ok o =>
          let taken := (if (c == 's' || c == 'f') && cs.isEmpty || (c == '-' && !cs.contains '=') then
            (rest.take 1).length else 0) - o.operands.length
          match seqOptions fuel (rest.drop taken) with
          | .error e => .error e
          | .ok (given, left) => .ok (o.given ++ given, left)
    | _ => .ok ([], arg :: rest)

/-- The numbers from one to another, as fractions over one denominator. -/
def seqValues (first step last : Int) : List Int :=
  if step = 0 then []
  else
    let count := if 0 < step then (last - first) / step else (first - last) / (-step)
    if count < 0 then [] else (List.range (count.toNat + 1)).map fun (i : Nat) => first + step * Int.ofNat i

def seq : Utility := fun call => do
  match seqOptions (call.args.length + 1) call.args with
  | .error e => call.usage e
  | .ok (given, operands) =>
    let o : Options := ⟨given, operands⟩
    match operands.find? fun text => (seqNumber? text).isNone with
    | some bad =>
      call.usage ("invalid floating point argument: " ++ Quotes.always bad)
    | none =>
      let numbers := operands.filterMap seqNumber?
      let one : Bool × Nat × Nat × Nat := (false, 1, 1, 0)
      let parts : Option _ :=
        match numbers with
        | [last] => some (one, one, last)
        | [first, last] => some (first, one, last)
        | [first, step, last] => some (first, step, last)
        | _ => none
      match parts with
      | none =>
        if operands.isEmpty then call.usage "missing operand"
        else call.usage ("extra operand " ++ Quotes.always (operands[3]?.getD ""))
      | some (first, step, last) =>
        let den := first.2.2.1 * step.2.2.1 * last.2.2.1
        let scaled (n : Bool × Nat × Nat × Nat) : Int :=
          let m : Int := n.2.1 * (den / n.2.2.1)
          if n.1 then -m else m
        if step.2.1 = 0 then
          call.usage ("invalid Zero increment value: " ++ Quotes.always (operands[1]?.getD "0"))
        else
          let places := max first.2.2.2 step.2.2.2
          let text (n : Int) : String :=
            match o.value? 'f' with
            | some format =>
              let amount := (if n < 0 then "-" else "") ++
                String.ofList (Amount.fixedDigits 20 n.natAbs den)
              String.ofList (Printf.write .program id format [amount]).1.output
            | none =>
              (if n < 0 then "-" else "") ++ String.ofList (Amount.fixedDigits places n.natAbs den)
          let values := seqValues (scaled first) (scaled step) (scaled last)
          let width := (([scaled first, scaled last].map fun n => (text n).length).max?).getD 0
          let padded (s : String) : String :=
            if o.has 'w' && s.length < width then
              let zeros := String.ofList (List.replicate (width - s.length) '0')
              if s.startsWith "-" then "-" ++ zeros ++ (s.drop 1).toString else zeros ++ s
            else s
          if values.isEmpty then return 0
          else
            let separator := (o.value? 's').getD "\n"
            emit call (String.intercalate separator (values.map fun n => padded (text n)) ++ "\n")

/-! ## §2 Asking -/

def succeed : Utility := fun _ => return 0

def failing : Utility := fun _ => return 1

def test : Utility := fun call => do
  let w ← get
  let facts : Condition.Facts := ⟨.program, w.disk, w.self.cwd, fun _ => false⟩
  let check (words : List String) : Task Nat := do
    match Condition.holds facts words with
    | .ok true => return 0
    | .ok false => return 1
    | .error text => call.fail text 2
  if call.name.endsWith "[" then
    if call.args.getLast? = some "]" then check call.args.dropLast
    else call.fail "missing ']'" 2
  else check call.args

def whoami : Utility := fun call => emit call "root\n"

def identity : Utility := fun call => do
  match Options.read "ugnGr" [("user", 'u'), ("group", 'g'), ("name", 'n'), ("groups", 'G'),
      ("real", 'r')] true call.args with
  | .error e => call.usage e
  | .ok o =>
    match o.operands.find? (· != "root") with
    | some other => call.fail (Quotes.always other ++ ": no such user")
    | none =>
      if o.has 'u' || o.has 'g' || o.has 'G' then emit call (if o.has 'n' then "root\n" else "0\n")
      else emit call "uid=0(root) gid=0(root) groups=0(root)\n"

def uname : Utility := fun call => do
  match Options.read "asnrvmpio" [("all", 'a'), ("kernel-name", 's'), ("machine", 'm')] true call.args with
  | .error e => call.usage e
  | .ok o =>
    let pieces := [('s', "Linux"), ('n', "localhost"), ('m', "x86_64"), ('o', "GNU/Linux")].filter
      fun (c, _) => o.has c || o.has 'a' || (o.given.isEmpty && c == 's')
    emit call (String.intercalate " " (pieces.map (·.2)) ++ "\n")

def terminalName : Utility := fun call => emit call "not a tty\n" 1

def physicalPath : Utility := fun call => do
  let w ← get
  emit call (Disk.pathOf w.self.cwd ++ "\n")

/-! ## §3 Names -/

/-- A path without the slashes it ends with. -/
def withoutSlashes (path : String) : String :=
  String.ofList (path.toList.reverse.dropWhile (· == '/')).reverse

/-- The last piece of a path. -/
def lastPiece (path : String) : String :=
  let bare := withoutSlashes path
  if bare = "" then (if path = "" then "" else "/")
  else (bare.splitOn "/").getLast?.getD ""

/-- A name without an ending, if it has one and is more than that. -/
def withoutSuffix (suffix name : String) : String :=
  if name != suffix && suffix != "" && name.endsWith suffix then
    (name.dropEnd suffix.length).toString
  else name

/-- Everything of a path before its last piece. -/
def directoryPart (path : String) : String :=
  let bare := withoutSlashes path
  if bare = "" then (if path = "" then "." else "/")
  else
    let pieces := bare.splitOn "/"
    if pieces.length = 1 then "."
    else
      let dir := withoutSlashes (String.intercalate "/" pieces.dropLast)
      if dir = "" then "/" else dir

def basename : Utility := fun call => do
  match Options.read "as:z" [("multiple", 'a'), ("suffix", 's'), ("zero", 'z')] false call.args with
  | .error e => call.usage e
  | .ok o =>
    let stop := if o.has 'z' then "\x00" else "\n"
    match o.operands with
    | [] => call.usage "missing operand"
    | path :: rest =>
      if o.has 'a' || o.has 's' then
        let suffix := (o.value? 's').getD ""
        emit call (String.join (o.operands.map fun p => withoutSuffix suffix (lastPiece p) ++ stop))
      else
        match rest with
        | [] => emit call (lastPiece path ++ stop)
        | [suffix] => emit call (withoutSuffix suffix (lastPiece path) ++ stop)
        | _ :: extra :: _ => call.usage ("extra operand " ++ Quotes.always extra)

def dirname : Utility := fun call => do
  match Options.read "z" [("zero", 'z')] true call.args with
  | .error e => call.usage e
  | .ok o =>
    if o.operands.isEmpty then call.usage "missing operand"
    else
      let stop := if o.has 'z' then "\x00" else "\n"
      emit call (String.join (o.operands.map fun p => directoryPart p ++ stop))

/-! ## §4 Variables -/

/-- Runs a program that is looked for in the search path that its variables hold; a
file of no known format is taken for a script. -/
def execute (call : Call) (words : List String) (vars : List (String × String)) :
    Task (Except Fault Nat) := do
  let w ← get
  let path := (vars.lookup "PATH").getD Loading.defaultPath
  let attempt (place : String) : Except Fault (String × Bool) :=
    match Loading.load w.disk w.self.cwd Loading.scriptDepth place [place] with
    | .ok _ => .ok (place, false)
    | .error fault => if fault = Loading.formatFault then .ok (place, true) else .error fault
  match Loading.search attempt path (words.headD "") with
  | .error fault => return .error fault
  | .ok (place, false) => call.launch place words vars
  | .ok (place, true) => call.launch "/bin/sh" ("/bin/sh" :: place :: words.drop 1) vars

/-- Runs a command of the shell in place of this program. -/
def shellCode (call : Call) (command : String) : Task Nat := do
  match ← call.launch "/bin/sh" ["sh", "-c", command] call.vars with
  | .ok code => return code
  | .error _ => return 127

/-- What a command of the shell prints. -/
def shellOutput (call : Call) (command : String) : Task String := do
  let number ← Task.addPipe none
  let writer ← Task.addOpen ⟨.pipe number, 0, false, true, false⟩
  let _ ← Task.child do
    Task.assign 1 writer
    shellCode call command
  let w ← get
  return Raw.ofBytes ((w.pipes[number]?.map (·.data)).getD ByteArray.empty)

/-- Runs a program in place of this one, or tells why it cannot be run. -/
def become (call : Call) (words : List String) (vars : List (String × String)) : Task Nat := do
  match ← execute call words vars with
  | .ok code => return code
  | .error fault =>
    call.fail (Quotes.always (words.headD "") ++ ": " ++ fault.reason)
      (if fault == .absent then 127 else 126)

/-- The words of a text that is split as a shell would; `quote?` is the quote that is
open, and `word?` the word so far, last character first. -/
def wordsFrom (quote? : Option Char) (word? : Option (List Char)) : List Char → List String
  | [] => word?.toList.map fun w => String.ofList w.reverse
  | ['\\'] => [String.ofList ('\\' :: word?.getD []).reverse]
  | '\\' :: d :: rest =>
    if quote?.isSome then
      wordsFrom quote? (some (d :: '\\' :: word?.getD [])) rest
    else wordsFrom none (some (d :: word?.getD [])) rest
  | c :: rest =>
    match quote? with
    | some q =>
      if c = q then wordsFrom none (some (word?.getD [])) rest
      else wordsFrom quote? (some (c :: word?.getD [])) rest
    | none =>
      if c = ' ' || c = '\t' || c = '\n' then
        (word?.toList.map fun w => String.ofList w.reverse) ++ wordsFrom none none rest
      else if c = '\x27' || c = '\x22' then wordsFrom (some c) (some (word?.getD [])) rest
      else wordsFrom none (some (c :: word?.getD [])) rest

/-- The words of a text that is split as a shell would. -/
def splitWords (text : String) : List String := wordsFrom none none text.toList

/-- The options of `env`: which variables there are, and what is left. -/
def envArguments (call : Call) : Nat → List String → List (String × String) → String → Bool →
    Task (Except Nat (List String × List (String × String) × String × Bool))
  | 0, args, vars, stop, _ => return .ok (args, vars, stop, false)
  | fuel + 1, args, vars, stop, changed => do
    match args with
    | "-i" :: rest => envArguments call fuel rest [] stop changed
    | "-" :: rest => envArguments call fuel rest [] stop changed
    | "--ignore-environment" :: rest => envArguments call fuel rest [] stop changed
    | "-0" :: rest => envArguments call fuel rest vars "\x00" changed
    | "--" :: rest => return .ok (rest, vars, stop, changed)
    | "-u" :: name :: rest =>
      envArguments call fuel rest (vars.filter fun (n, _) => n != name) stop changed
    | "-C" :: dir :: rest =>
      let w ← get
      match w.disk.find false w.self.cwd dir with
      | .ok (l, .dir _ _) =>
        Task.modifySelf fun p => { p with cwd := l }
        envArguments call fuel rest vars stop true
      | _ =>
        return .error (← call.fail ("cannot change directory to " ++ Quotes.always dir ++
          ": No such file or directory") 125)
    | "-S" :: text :: rest => envArguments call fuel (splitWords text ++ rest) vars stop changed
    | first :: rest =>
      if first.startsWith "--unset=" then
        envArguments call fuel rest
          (vars.filter fun (n, _) => n != (first.drop 8).toString) stop changed
      else if first.startsWith "-S" then
        envArguments call fuel (splitWords (first.drop 2).toString ++ rest) vars stop changed
      else if first.startsWith "-u" then
        envArguments call fuel rest (vars.filter fun (n, _) => n != (first.drop 2).toString) stop changed
      else if first.startsWith "--" then
        return .error (← call.usage ("unrecognized option '" ++ first ++ "'") 125)
      else if first.startsWith "-" then
        return .error (← call.usage
          ("invalid option -- '" ++ String.ofList (first.toList.drop 1 |>.take 1) ++ "'") 125)
      else return .ok (args, vars, stop, changed)
    | [] => return .ok ([], vars, stop, changed)

/-- Variables of which one is given a value. -/
def define (vars : List (String × String)) (name value : String) : List (String × String) :=
  if vars.any fun (n, _) => n == name then
    vars.map fun (n, v) => if n == name then (n, value) else (n, v)
  else vars ++ [(name, value)]

/-- The definitions that words start with, and the other words. -/
def takeDefinitions (vars : List (String × String)) :
    List String → List (String × String) × List String
  | [] => (vars, [])
  | word :: rest =>
    let name := word.toList.takeWhile (· != '=')
    if name.length = word.length || name.isEmpty then (vars, word :: rest)
    else
      takeDefinitions
        (define vars (String.ofList name) (String.ofList (word.toList.drop (name.length + 1)))) rest

def env : Utility := fun call => do
  match ← envArguments call (call.args.length * 4 + 8) call.args call.vars "\n" false with
  | .error code => return code
  | .ok (args, vars, stop, _) =>
    let (vars, words) := takeDefinitions vars args
    match words with
    | [] => emit call (String.join (vars.map fun (n, v) => n ++ "=" ++ v ++ stop))
    | words => become call words vars

def printenv : Utility := fun call => do
  match Options.read "0" [("null", '0')] true call.args with
  | .error e => call.usage e 2
  | .ok o =>
    let stop := if o.has '0' then "\x00" else "\n"
    if o.operands.isEmpty then
      emit call (String.join (call.vars.map fun (n, v) => n ++ "=" ++ v ++ stop))
    else
      let values := o.operands.map fun name => call.vars.lookup name
      emit call (String.join (values.filterMap fun v => v.map (· ++ stop)))
        (if values.all Option.isSome then 0 else 1)

/-! ## §5 Starting -/

/-- A length of time in milliseconds. -/
def duration? (text : String) : Option Nat :=
  match Amount.read text.toList with
  | some (.finite false num den, rest) =>
    match rest with
    | [] => some (num * 1000 / den)
    | [c] => ([('s', 1), ('m', 60), ('h', 3600), ('d', 86400)].lookup c).map fun f =>
      num * 1000 * f / den
    | _ => none
  | some (.infinite false, []) => some 1000000000000
  | _ => none

def sleep : Utility := fun call => do
  match Options.read "" [] true call.args with
  | .error e => call.usage e
  | .ok o =>
    if o.operands.isEmpty then call.usage "missing operand"
    else
      let times := o.operands.map fun text => (text, duration? text)
      let wrong := times.filter fun (_, t) => t.isNone
      if wrong.isEmpty then
        Task.sleepFor ((times.filterMap (·.2)).foldl (· + ·) 0)
        return 0
      else
        for (text, _) in wrong do
          call.say ("invalid time interval " ++ Quotes.always text)
        Task.complain ("Try '" ++ call.name ++ " --help' for more information.")
        return 1

def timeout : Utility := fun call => do
  match Options.read "k:s:v" [("kill-after", 'k'), ("signal", 's'), ("preserve-status", '\x01'),
      ("foreground", '\x02'), ("verbose", 'v')] false call.args with
  | .error e => call.usage e 125
  | .ok o =>
    match o.operands with
    | time :: words =>
      match duration? time, words with
      | _, [] =>
        Task.complain ("Try '" ++ call.name ++ " --help' for more information.")
        return 125
      | none, _ => call.usage ("invalid time interval " ++ Quotes.always time) 125
      | some limit, words =>
        let signal := ((o.value? 's').bind fun s =>
          (Signal.ofNumber? s).orElse fun _ => Signal.ofName? (s.map Char.toUpper)).getD Signal.term
        let w ← get
        let stop := w.clock + limit
        if limit != 0 then
          set { w with deadline := some (match w.deadline with
            | some other => min other stop
            | none => stop) }
        let ending ← Task.child (become call words call.vars)
        set { (← get) with deadline := w.deadline }
        let late := limit != 0 && ending == .killed Signal.term && stop ≤ (← get).clock
        if late then
          if signal = Signal.kill then throw (.killed Signal.kill)
          else return (if o.has '\x01' then 128 + signal else 124)
        else
          match ending with
          | .exit code => return code
          | .killed s => return 128 + s
    | [] =>
      Task.complain ("Try '" ++ call.name ++ " --help' for more information.")
      return 125

/-- Runs the rest of its arguments as a program. -/
def runRest (short : String) : Utility := fun call => do
  match Options.read short [("adjustment", 'n')] false call.args with
  | .error e => call.usage e 125
  | .ok o =>
    if o.operands.isEmpty then call.usage "missing operand" 125
    else become call o.operands call.vars

def nice : Utility := fun call => do
  if call.args.isEmpty then emit call "0\n" else runRest "n:" call

/-- The arguments that a text holds for `xargs`: blanks end them, quotes and
backslashes keep blanks. -/
def splitArguments (quote? : Option Char) (word? : Option (List Char)) :
    List Char → Except Char (List String)
  | [] =>
    match quote? with
    | some q => .error q
    | none => .ok (word?.toList.map fun w => String.ofList w.reverse)
  | c :: rest =>
    match quote? with
    | some '\\' => splitArguments none (some (c :: word?.getD [])) rest
    | some q =>
      if c = q then splitArguments none (some (word?.getD [])) rest
      else if c = '\n' then .error q
      else splitArguments quote? (some (c :: word?.getD [])) rest
    | none =>
      if c = ' ' || c = '\t' || c = '\n' then
        (splitArguments none none rest).map fun more =>
          (word?.toList.map fun w => String.ofList w.reverse) ++ more
      else if c = '\x27' || c = '\x22' || c = '\\' then
        splitArguments (some c) (some (word?.getD [])) rest
      else splitArguments none (some (c :: word?.getD [])) rest

/-- A list in pieces of a length. -/
def chunks {α : Type} (size : Nat) : Nat → List α → List (List α)
  | 0, _ => []
  | fuel + 1, list =>
    if list.isEmpty then [] else list.take size :: chunks size fuel (list.drop size)

/-- Runs commands one after the other, until one of them asks to stop. -/
def runBatches (call : Call) (shown : Bool) : List (List String) → Nat → Task Nat
  | [], code => return code
  | words :: rest, code => do
    if shown then Task.complain (String.intercalate " " words)
    let ending ← Task.child do
      match ← execute call words call.vars with
      | .ok code => return code
      | .error fault =>
        call.say ((words.headD "") ++ ": " ++ fault.reason)
        return (if fault == .absent then 127 else 126)
    match ending with
    | .exit 0 => runBatches call shown rest code
    | .exit 255 =>
      call.fail (words.headD "" ++ ": exited with status 255; aborting") 124
    | .exit 127 => return 127
    | .exit 126 => return 126
    | .exit _ => runBatches call shown rest 123
    | .killed signal =>
      call.fail (words.headD "" ++ ": terminated by signal " ++ toString signal) 125

/-- A text with every place of a mark taken by another. -/
def fillIn (mark text word : String) : String := String.intercalate text (word.splitOn mark)

def xargs : Utility := fun call => do
  match Options.read "0n:I:d:rtL:P:a:i::s:x" [("null", '0'), ("max-args", 'n'), ("replace", 'i'),
      ("delimiter", 'd'), ("no-run-if-empty", 'r'), ("verbose", 't'), ("max-lines", 'L'),
      ("max-procs", 'P'), ("arg-file", 'a')] false call.args with
  | .error e => call.usage e
  | .ok o =>
    match ← (match o.value? 'a' with
      | some path => call.readFile path
      | none => Task.readAll 0) with
    | .error fault => call.fail (fault.reason)
    | .ok text =>
      let command := if o.operands.isEmpty then ["echo"] else o.operands
      let mark := (o.value? 'I').orElse fun _ => (o.value? 'i').map fun m =>
        if m = "" then "\x7b\x7d" else m
      let separator? : Option String :=
        if o.has '0' then some "\x00"
        else (o.value? 'd').map fun d => String.ofList (Printf.unescape .program d.toList).1
      let items : Except Char (List String) :=
        match separator? with
        | some sep =>
          let pieces := text.splitOn sep
          .ok (if pieces.getLast? == some "" then pieces.dropLast else pieces)
        | none =>
          if mark.isSome then
            .ok (((linesOf text).map fun line => String.ofList (line.toList.dropWhile (· == ' '))).filter (· != ""))
          else splitArguments none none text.toList
      match items with
      | .error quote =>
        call.fail ("unmatched " ++ (if quote = '\x27' then "single" else "double") ++
          " quote; by default quotes are special to xargs unless you use the -0 option")
      | .ok items =>
        match mark with
        | some mark =>
          runBatches call (o.has 't') (items.map fun item => command.map (fillIn mark item)) 0
        | none =>
          if items.isEmpty then
            if o.has 'r' then return 0 else runBatches call (o.has 't') [command] 0
          else
            let lines :=
              match (o.value? 'L').bind String.toNat? with
              | some (n + 1) =>
                (chunks (n + 1) (text.length + 1) ((linesOf text).filter (· != ""))).map fun group =>
                  group.flatMap splitWords
              | _ => []
            let groups :=
              if !lines.isEmpty then lines
              else
                match (o.value? 'n').bind String.toNat? with
                | some (n + 1) => chunks (n + 1) (items.length + 1) items
                | _ => [items]
            runBatches call (o.has 't') (groups.map (command ++ ·)) 0

def which : Utility := fun call => do
  let w ← get
  let (all, names) :=
    match call.args with
    | "-a" :: rest => (true, rest)
    | rest => (false, rest)
  let path := (call.vars.lookup "PATH").getD Loading.defaultPath
  let mut missing := false
  let mut shown := ""
  for name in names do
    let places :=
      if name.toList.contains '/' then [name]
      else (path.splitOn ":").map fun dir => Loading.inDirectory (if dir = "" then "." else dir) name
    let found := places.filter (Loading.isRunnable w.disk w.self.cwd)
    if found.isEmpty then missing := true
    for place in (if all then found else found.take 1) do
      shown := shown ++ place ++ "\n"
  emit call shown (if missing || names.isEmpty then 1 else 0)

end ReleaseKit.Utility
