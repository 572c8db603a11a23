/-
ReleaseKit.Utility.Records — the program that runs a script for each record.

  §1 Values      — numbers, texts, and texts that look like numbers.
  §2 States      — variables, arrays, the record and its fields.
  §3 Variables   — reading and changing them.
  §4 Input       — records, from files, commands and standard input.
  §5 Output      — printing.
  §6 Functions   — those of the language.
  §7 Evaluation  — terms and statements.
  §8 Program     — `awk`.
-/
import ReleaseKit.Utility.Edit
import ReleaseKit.Utility.Records.Reader
import Std.Data.HashMap

namespace ReleaseKit.Utility.Records

/-! ## §1 Values -/

/-- What a variable holds. -/
inductive Value where
  | unset
  | number (a : Amount)
  | text (s : String)
  /-- a text of the input that looks like a number -/
  | digits (s : String) (a : Amount)
deriving Inhabited

/-- The number that a text starts with. -/
def numberOf (s : String) : Amount :=
  match Amount.read s.toList with
  | some (a, _) => a.round 53 |> fun r =>
    match r with
    | .finite negative num den => Amount.ofFraction (Amount.signed negative num) den
    | other => other
  | none => .finite false 0 1

/-- A text of the input: a number if all of it looks like one. -/
def inputValue (s : String) : Value :=
  let isBlank (c : Char) : Bool := c == ' ' || c == '\t' || c == '\n'
  let start := s.toList.dropWhile isBlank
  match start with
  | [] => .text s
  | c :: _ =>
    if c.isDigit || c == '-' || c == '+' || c == '.' then
      match Amount.read start with
      | some (.finite _ _ _, rest) => if rest.all isBlank then .digits s (numberOf s) else .text s
      | _ => .text s
    else .text s

/-- A number in a format for numbers; a whole one in all its digits. -/
def showNumber (format : String) (a : Amount) : String :=
  match a with
  | .finite negative num 1 =>
    if num < 18446744073709551616 then toString (Amount.signed negative num)
    else String.ofList (Printf.write .program id format [(if negative then "-" else "") ++ toString num]).1.output
  | .finite negative num den =>
    if format = "%.6g" then
      (if negative then "-" else "") ++ String.ofList (Amount.generalDigits false 6 num den)
    else
      String.ofList (Printf.write .program id format
        [(if negative then "-" else "") ++ String.ofList (Amount.fixedDigits 30 num den)]).1.output
  | .infinite negative => if negative then "-inf" else "inf"
  | .undefined => "nan"

namespace Value

def toNumber : Value → Amount
  | unset => .finite false 0 1
  | number a => a
  | text s => numberOf s
  | digits _ a => a

def toText (format : String) : Value → String
  | unset => ""
  | number a => showNumber format a
  | text s => s
  | digits s _ => s

/-- Whether a value counts as true. -/
def holds : Value → Bool
  | unset => false
  | number a => a != .finite false 0 1 && a != .finite true 0 1
  | text s => s != ""
  | digits _ a => a != .finite false 0 1 && a != .finite true 0 1

def isText : Value → Bool
  | text _ => true
  | _ => false

def ofInt (n : Int) : Value := number (Amount.ofInt n)

def ofBool (b : Bool) : Value := ofInt (if b then 1 else 0)

/-- The order of two values: as numbers if neither is just a text. -/
def order (format : String) (a b : Value) : Ordering :=
  if a.isText || b.isText then compareChars (a.toText format).toList (b.toText format).toList
  else a.toNumber.order b.toNumber

end Value

/-! ## §2 States -/

/-- An array: its elements, and when each was made. -/
structure Table where
  elements : Std.HashMap String (Value × Nat)
  next : Nat

/-- What a name stands for. -/
inductive Slot where
  | value (v : Value)
  | array (id : Nat)
deriving Inhabited

/-- A text that is read record by record. -/
structure Source where
  rest : List Char

/-- Where something is printed into. -/
inductive Sink where
  | file (index : Nat)
  | pipe (text : String)

/-- How the running of a script is left. -/
inductive Leave where
  | loop
  | turn
  | record
  | file
  | exit
  | back (v : Value)
  | fault (text : String)

structure State where
  call : Call
  functions : Std.HashMap String Function
  globals : Std.HashMap String Slot
  /-- the variables of the function that runs -/
  locals : Option (List (String × Slot))
  tables : Array Table
  record : String
  fields : Array Value
  /-- the arguments that have not been read yet -/
  pending : List String
  /-- whether any argument was a file -/
  usedFile : Bool
  input : Option Source
  finished : Bool
  sources : List (String × Source)
  sinks : List (String × Sink)
  ranges : List Nat
  depth : Nat
  code : Nat
  /-- whether a fault has ended the script -/
  failed : Bool
  expressions : Std.HashMap String Regex

/-- What a script does. -/
abbrev Act := ExceptT Leave (StateT State Task)

def fault {α : Type} (text : String) : Act α := throw (.fault text)

/-! ## §3 Variables -/

/-- The value of a variable that is not an array. -/
def slotValue : Option Slot → Value
  | some (.value v) => v
  | _ => .unset

def slot (name : String) : Act (Option Slot) := do
  let s ← get
  match s.locals.bind (·.lookup name) with
  | some found => return some found
  | none => return s.globals[name]?

def setSlot (name : String) (v : Slot) : Act Unit := modify fun s =>
  match s.locals with
  | some vars =>
    if vars.any (·.1 == name) then
      { s with locals := some (vars.map fun (n, old) => if n == name then (n, v) else (n, old)) }
    else { s with globals := s.globals.insert name v }
  | none => { s with globals := s.globals.insert name v }

/-- The text of a variable of the language. -/
def special (name fallback : String) : Act String := do
  match (← get).globals[name]? with
  | some (.value v) => return v.toText "%.6g"
  | _ => return fallback

def numberFormat : Act String := special "CONVFMT" "%.6g"

def textOf (v : Value) : Act String := do
  match v with
  | .text s => return s
  | .digits s _ => return s
  | .unset => return ""
  | v => return v.toText (← numberFormat)

/-- An expression, which is read once. -/
def expression (source : String) : Act Regex := do
  match (← get).expressions[source]? with
  | some r => return r
  | none =>
    match Regex.parse true source.toList with
    | .ok (r, _) =>
      modify fun s => { s with expressions := s.expressions.insert source r }
      return r
    | .error e => fault ("regular expression compile failed (" ++ e ++ ")")

/-- The pieces of a text between what an expression fits. -/
def splitAtFits (r : Regex) (chars : List Char) : List (List Char) :=
  let s : Regex.Subject := { chars := chars.toArray }
  let rec go : Nat → Nat → Nat → List (List Char)
    | 0, start, _ => [s.part start s.chars.size]
    | fuel + 1, start, place =>
      match Regex.search s r place with
      | none => [s.part start s.chars.size]
      | some f =>
        if f.first = f.last then
          if f.first < s.chars.size then go fuel start (f.first + 1) else [s.part start s.chars.size]
        else s.part start f.first :: go fuel f.last f.last
  go (chars.length + 1) 0 0

/-- The words of a text. -/
def wordsOf (chars : List Char) : List (List Char) :=
  let isBlank (c : Char) : Bool := c == ' ' || c == '\t' || c == '\n'
  (chars.splitBy fun a b => isBlank a == isBlank b).filter fun w => !(w.head?.map isBlank).getD true

/-- The fields of a text, as a separator says. -/
def splitFields (separator : String) (text : String) : Act (List String) := do
  let chars := text.toList
  if chars.isEmpty then return []
  else if separator = " " then return (wordsOf chars).map String.ofList
  else
    match separator.toList with
    | [] => return chars.map String.singleton
    | [c] => return (splitAtChar c chars).map String.ofList
    | _ =>
      let r ← expression separator
      return (splitAtFits r chars).map String.ofList

/-- Makes a text the record. -/
def setRecord (text : String) : Act Unit := do
  let paragraph := (← special "RS" "\n") = ""
  let separator ← special "FS" " "
  let separator := if paragraph && separator != " " then separator ++ "|\n" else separator
  let fields ← splitFields separator text
  modify fun s => { s with record := text, fields := (fields.map inputValue).toArray }

/-- Makes the record anew of its fields. -/
def rebuild : Act Unit := do
  let separator ← special "OFS" " "
  let format ← numberFormat
  modify fun s => { s with
    record := String.intercalate separator (s.fields.toList.map (Value.toText format)) }

/-- Gives the record so many fields. -/
def setCount (n : Nat) : Act Unit := do
  modify fun s => { s with
    fields := s.fields.extract 0 n ++ Array.replicate (n - s.fields.size) Value.unset }
  rebuild

def getField (n : Int) : Act Value := do
  let s ← get
  if n < 0 then fault "negative field index"
  else if n = 0 then return inputValue s.record
  else return (s.fields[n.toNat - 1]?).getD .unset

def setField (n : Int) (v : Value) : Act Unit := do
  if n < 0 then fault "negative field index"
  else if n = 0 then setRecord (← textOf v)
  else
    let i := n.toNat
    if (← get).fields.size < i then setCount i
    modify fun s => { s with fields := s.fields.setIfInBounds (i - 1) v }
    rebuild

def getName (name : String) : Act Value := do
  if name = "NF" && ((← get).locals.bind (·.lookup "NF")).isNone then
    return .ofInt (← get).fields.size
  else return slotValue (← slot name)

def setName (name : String) (v : Value) : Act Unit := do
  if name = "NF" then setCount v.toNumber.toInt.toNat else setSlot name (.value v)

/-- The number of the array that a name stands for, which is made if there is none. -/
def arrayOf (name : String) : Act Nat := do
  match ← slot name with
  | some (.array id) => return id
  | _ =>
    let s ← get
    set { s with tables := s.tables.push ⟨∅, 0⟩ }
    setSlot name (.array s.tables.size)
    return s.tables.size

def tableOf (id : Nat) : Act Table := do return ((← get).tables[id]?).getD ⟨∅, 0⟩

def setElement (id : Nat) (key : String) (v : Value) : Act Unit := modify fun s =>
  { s with tables := s.tables.modify id fun t =>
    match t.elements[key]? with
    | some (_, made) => { t with elements := t.elements.insert key (v, made) }
    | none => ⟨t.elements.insert key (v, t.next), t.next + 1⟩ }

/-- The value of an element, which is there from then on. -/
def getElement (id : Nat) (key : String) : Act Value := do
  match (← tableOf id).elements[key]? with
  | some (v, _) => return v
  | none =>
    setElement id key .unset
    return .unset

/-- A number that scatters keys. -/
def scatter (key : String) : Nat :=
  key.toList.foldl (fun h c => (h ^^^ c.toNat) * 16777619 % 4294967296) 2166136261

/-- The keys of an array in the order in which a loop takes them. -/
def keysOf (t : Table) : List String :=
  let entries := t.elements.toList.map fun (key, _, made) => (scatter key % 64, made, key)
  (entries.mergeSort fun a b => a.1 < b.1 || (a.1 == b.1 && b.2.1 ≤ a.2.1)).map (·.2.2)

/-! ## §4 Input -/

/-- The next record of a text as a separator says, and what is left. -/
def nextRecordOf (separator : String) (chars : List Char) : Act (Option (String × List Char)) := do
  if chars.isEmpty then return none
  else
    match separator.toList with
    | [] =>
      -- paragraphs, with empty lines between them
      let start := chars.dropWhile (· == '\n')
      if start.isEmpty then return none
      else
        let s : Regex.Subject := { chars := start.toArray }
        match Regex.search s (.seq (.char '\n') (.rep (.char '\n') 1 none)) 0 with
        | some f => return some (String.ofList (s.part 0 f.first), start.drop f.last)
        | none =>
          let all := if start.getLast? == some '\n' then start.dropLast else start
          return some (String.ofList all, [])
    | [c] =>
      let line := chars.takeWhile (· != c)
      return some (String.ofList line, chars.drop (line.length + 1))
    | _ =>
      let r ← expression separator
      let s : Regex.Subject := { chars := chars.toArray }
      match Regex.search s r 0 with
      | some f => return some (String.ofList (s.part 0 f.first), chars.drop (max f.last 1))
      | none =>
        let all := if chars.getLast? == some '\n' then chars.dropLast else chars
        return some (String.ofList all, [])

/-- Assigns what an argument such as `name=value` says. -/
def assignArgument (word : String) : Act Bool := do
  let name := word.toList.takeWhile isNameChar
  match name, word.toList.drop name.length with
  | c :: _, '=' :: value =>
    if c.isDigit then return false
    else
      let text := match readString (value.length + 2) (value ++ ['\x22']) with
        | some (s, _) => String.ofList s
        | none => String.ofList value
      setName (String.ofList name) (inputValue text)
      return true
  | _, _ => return false

/-- Opens the next file of the input; false at the end. The number bounds how many
arguments are looked at. -/
def openNext : Nat → Act Bool
  | 0 => return false
  | fuel + 1 => do
    let s ← get
    match s.pending with
    | [] =>
      if s.usedFile || s.finished then
        set { s with finished := true }
        return false
      else
        match ← s.call.readFile "-" with
        | .ok text =>
          modify fun s => { s with input := some ⟨text.toList⟩, usedFile := true, finished := true }
          return true
        | .error _ => return false
    | word :: rest =>
      set { s with pending := rest }
      if word = "" then openNext fuel
      else if ← assignArgument word then openNext fuel
      else
        match ← s.call.readFile word with
        | .ok text =>
          modify fun s => { s with input := some ⟨text.toList⟩, usedFile := true }
          setName "FILENAME" (.text word)
          setName "FNR" (.ofInt 0)
          return true
        | .error f =>
          s.call.say ("cannot open " ++ word ++ " (" ++ f.reason ++ ")")
          modify fun s => { s with code := 2, usedFile := true }
          openNext fuel

/-- Counts a record. -/
def countRecord (inFile : Bool) : Act Unit := do
  let bump (name : String) : Act Unit := do
    setName name (.number ((← getName name).toNumber.add (.finite false 1 1)))
  bump "NR"
  if inFile then bump "FNR"

/-- The next record of the input. The number bounds how many files are empty. -/
def nextInput : Nat → Act (Option String)
  | 0 => return none
  | fuel + 1 => do
    match (← get).input with
    | some source =>
      match ← nextRecordOf (← special "RS" "\n") source.rest with
      | some (text, rest) =>
        modify fun s => { s with input := some ⟨rest⟩ }
        return some text
      | none =>
        modify fun s => { s with input := none }
        nextInput fuel
    | none => if ← openNext ((← get).pending.length + 1) then nextInput fuel else return none

/-- The next record of a source that is kept under a name. -/
def nextOf (name : String) (start : Task (Option String)) : Act (Except Unit (Option String)) := do
  let source? ← match (← get).sources.lookup name with
    | some source => pure (some source)
    | none => do
      let text ← (liftM start : Act (Option String))
      pure (text.map fun t => ⟨t.toList⟩)
  match source? with
  | none => return .error ()
  | some source =>
    match ← nextRecordOf (← special "RS" "\n") source.rest with
    | some (text, rest) =>
      modify fun s => { s with sources := (name, ⟨rest⟩) :: s.sources.filter (·.1 != name) }
      return .ok (some text)
    | none =>
      modify fun s => { s with sources := (name, ⟨[]⟩) :: s.sources.filter (·.1 != name) }
      return .ok none

/-! ## §5 Output -/

/-- Runs a command of the shell that reads a text. -/
def feedShell (call : Call) (command text : String) : Task Ending := do
  let number ← Task.addPipe none
  modify fun w => { w with pipes := w.pipes.modify number fun p => { p with data := Raw.bytes text } }
  let reader ← Task.addOpen ⟨.pipe number, 0, true, false, false⟩
  Task.child do
    Task.assign 0 reader
    shellCode call command

/-- Prints to standard output, or into what has been opened under a name. -/
def printTo (o : Option (String × Bool × Bool)) (text : String) : Act Unit := do
  match o with
  | none => Task.say text
  | some (name, isPipe, appends) =>
    if !isPipe && (name = "/dev/stdout" || name = "-") then Task.say text
    else if !isPipe && name = "/dev/stderr" then
      let _ ← (liftM (Task.write 2 text) : Act (Except Fault Unit))
    else
      let s ← get
      match s.sinks.lookup name with
      | some (.pipe before) =>
        set { s with sinks := s.sinks.map fun (n, sink) =>
          if n == name then (n, .pipe (before ++ text)) else (n, sink) }
      | some (.file index) =>
        Task.assign 96 index
        let _ ← (liftM (Task.write 96 text) : Act (Except Fault Unit))
        Task.close 96
      | none =>
        if isPipe then set { s with sinks := s.sinks ++ [(name, Sink.pipe text)] }
        else
          match ← (liftM (Task.openPath name (if appends then .appending else .writing)) :
              Act (Except Fault Nat)) with
          | .ok index =>
            set { (← get) with sinks := s.sinks ++ [(name, Sink.file index)] }
            Task.assign 96 index
            let _ ← (liftM (Task.write 96 text) : Act (Except Fault Unit))
            Task.close 96
          | .error f => fault ("cannot open \"" ++ name ++ "\" for output (" ++ f.reason ++ ")")

/-- Closes what has been opened under a name. -/
def closeName (name : String) : Act Int := do
  let s ← get
  let known := (s.sinks.lookup name).isSome || (s.sources.lookup name).isSome
  let sink? := s.sinks.lookup name
  set { s with
    sinks := s.sinks.filter (·.1 != name), sources := s.sources.filter (·.1 != name) }
  match sink? with
  | some (.pipe text) =>
    let ending ← (liftM (feedShell s.call name text) : Act Ending)
    return ending.status
  | _ => return if known then 0 else -1

/-- What a format writes of values. -/
def formatValues : Nat → List Char → List Value → Act (List Char)
  | 0, _, _ => return []
  | _ + 1, [], _ => return []
  | fuel + 1, '%' :: '%' :: rest, args => do return '%' :: (← formatValues fuel rest args)
  | fuel + 1, '%' :: rest, args => do
    let texts ← args.mapM textOf
    let (conversion?, shown, _, after, left) := Printf.readConversion .program {} rest texts
    let used := args.length - left.length
    let args := args.drop used
    match conversion? with
    | none => return '%' :: (← formatValues fuel rest args)
    | some c =>
      if !(['d', 'i', 'o', 'x', 'X', 'u', 'c', 's', 'e', 'E', 'f', 'F', 'g', 'G'].contains c.letter) then
        return '%' :: shown ++ (← formatValues fuel after args)
      else
        match args with
        | [] => fault "not enough arguments passed to printf"
        | v :: args =>
          let text := (← textOf v).toList
          let number := v.toNumber
          let written : List Char :=
            match c.letter with
            | 's' =>
              c.fillText (match c.precision with
                | some n => text.take n
                | none => text)
            | 'c' =>
              c.fillText (match v with
                | .number a => [Printf.byteOf (a.toInt % 256).toNat]
                | .unset => ['\x00']
                | _ => text.take 1)
            | 'd' => c.integer number.toInt
            | 'i' => c.integer number.toInt
            | letter =>
              if ['o', 'x', 'X', 'u'].contains letter then
                let n := number.toInt
                c.integer (if n < 0 then n + Printf.whole else n)
              else c.real number
          return written ++ (← formatValues fuel after args)
  | fuel + 1, c :: rest, args => do return c :: (← formatValues fuel rest args)

/-! ## §6 Functions -/

/-- The text that a fit is replaced with. -/
def fillMatch (found : List Char) : List Char → List Char
  | '\\' :: '&' :: rest => '&' :: fillMatch found rest
  | '\\' :: '\\' :: rest => '\\' :: fillMatch found rest
  | '&' :: rest => found ++ fillMatch found rest
  | c :: rest => c :: fillMatch found rest
  | [] => []

/-- Part of a text, from one place on. -/
def partOf (text : List Char) (first : Int) (count : Option Int) : List Char :=
  let start := if first < 1 then 1 else first
  let stop : Int := match count with
    | some n => first + n
    | none => text.length + 1
  if stop ≤ start then [] else (text.drop (start - 1).toNat).take (stop - start).toNat

/-- What one of the plain functions gives. -/
def plainFunction (name : String) (args : List Value) : Act Value := do
  let texts ← args.mapM textOf
  let text := texts.headD ""
  let number := (args.headD Value.unset).toNumber
  match name with
  | "length" =>
    let whole := (← get).record
    return .ofInt (if args.isEmpty then whole.length else text.length)
  | "substr" =>
    let first := ((args[1]?).getD Value.unset).toNumber.toInt
    return .text (String.ofList (partOf text.toList first ((args[2]?).map fun v => v.toNumber.toInt)))
  | "index" =>
    let needle := ((texts[1]?).getD "").toList
    if needle.isEmpty then return .ofInt 0
    else
      let place := (List.range (text.length + 1)).find? fun i => needle.isPrefixOf (text.toList.drop i)
      return .ofInt (match place with
        | some i => i + 1
        | none => 0)
  | "tolower" => return .text (text.map Char.toLower)
  | "toupper" => return .text (text.map Char.toUpper)
  | "int" => return .number number.truncate
  | "sqrt" => return .number number.sqrt
  | "sprintf" =>
    let chars ← formatValues (text.length + 1) text.toList (args.drop 1)
    return .text (String.ofList chars)
  | "system" =>
    let ending ← (liftM (Task.child (shellCode (← get).call text)) : Act Ending)
    return .ofInt (match ending with
      | .exit code => code
      | .killed signal => 256 + signal)
  | "close" => return .ofInt (← closeName text)
  | "fflush" => return .ofInt 0
  | "rand" => return .number (.finite false 1 2)
  | "srand" => return .ofInt 0
  | _ => return .number .undefined

/-! ## §7 Evaluation -/

/-- How deep functions may call each other. -/
def callDepth : Nat := 400

/-- The text of an expression that a term is, if it is written as one. -/
def patternOf? : Term → Option String
  | .pattern s => some s
  | .grouped [.pattern s] => some s
  | _ => none

/-- Computes with two values. -/
def compute (op : String) (a b : Value) : Act Value := do
  let (x, y) := (a.toNumber, b.toNumber)
  match op with
  | "+" => return .number (x.add y)
  | "-" => return .number (x.sub y)
  | "*" => return .number (x.mul y)
  | "/" => return .number (x.div y)
  | "%" => return .number (x.rem y)
  | "^" => return .number (x.pow y)
  | _ => return b

mutual

def eval : Nat → Term → Act Value
  | 0, _ => fault "script too long"
  | fuel + 1, t => do
    match t with
    | .number a => return .number a
    | .text s => return .text s
    | .pattern s =>
      let r ← expression s
      return .ofBool (Regex.occurs r false (← get).record)
    | .name n => getName n
    | .field t => getField (← eval fuel t).toNumber.toInt
    | .element array ts => getElement (← arrayOf array) (← key fuel ts)
    | .assign op target value =>
      let v ← eval fuel value
      let result ← if op = "" then pure v else do compute op (← eval fuel target) v
      let result : Value := match result with
        | .unset => .unset
        | other => other
      store fuel target result
      return result
    | .choice c a b => if (← eval fuel c).holds then eval fuel a else eval fuel b
    | .binary "&&" a b =>
      if (← eval fuel a).holds then return .ofBool (← eval fuel b).holds else return .ofBool false
    | .binary "||" a b =>
      if (← eval fuel a).holds then return .ofBool true else return .ofBool (← eval fuel b).holds
    | .binary op a b =>
      if op = "~" || op = "!~" then
        let text ← textOf (← eval fuel a)
        let source ← match patternOf? b with
          | some s => pure s
          | none => do textOf (← eval fuel b)
        let r ← expression source
        return .ofBool (Regex.occurs r false text == (op == "~"))
      else
        let x ← eval fuel a
        let y ← eval fuel b
        if op = " " then return .text ((← textOf x) ++ (← textOf y))
        else
          let o := Value.order (← numberFormat) x y
          match op with
          | "<" => return .ofBool (o == .lt)
          | "<=" => return .ofBool (o != .gt)
          | "==" => return .ofBool (o == .eq)
          | "!=" => return .ofBool (o != .eq)
          | ">=" => return .ofBool (o != .lt)
          | ">" => return .ofBool (o == .gt)
          | op => compute op x y
    | .unary op a =>
      let v ← eval fuel a
      match op with
      | "!" => return .ofBool !v.holds
      | "-" => return .number v.toNumber.neg
      | _ => return .number v.toNumber
    | .step before amount target =>
      let old := (← eval fuel target).toNumber
      let new := old.add (Amount.ofInt amount)
      store fuel target (.number new)
      return .number (if before then new else old)
    | .within ts array =>
      let k ← key fuel ts
      return .ofBool ((← tableOf (← arrayOf array)).elements.contains k)
    | .grouped ts =>
      match ts with
      | [t] =>
        match ← eval fuel t with
        | v => return v
      | ts => return .text (← key fuel ts)
    | .call name args => invoke fuel name args
    | .builtin name args => builtin fuel name args
    | .getline target file =>
      match file with
      | none =>
        match ← nextInput 10000 with
        | none => return .ofInt 0
        | some text =>
          countRecord true
          match target with
          | none => setRecord text
          | some t => store fuel t (inputValue text)
          return .ofInt 1
      | some file =>
        let path ← textOf (← eval fuel file)
        let call := (← get).call
        let start : Task (Option String) := do
          match ← call.readFile path with
          | .ok text => return some text
          | .error _ => return none
        match ← nextOf path start with
        | .error () => return .ofInt (-1)
        | .ok none => return .ofInt 0
        | .ok (some text) =>
          match target with
          | none => setRecord text
          | some t => store fuel t (inputValue text)
          return .ofInt 1
    | .getlineOf command target =>
      let line ← textOf (← eval fuel command)
      let call := (← get).call
      let start : Task (Option String) := do
        return some (← shellOutput call line)
      match ← nextOf line start with
      | .error () => return .ofInt (-1)
      | .ok none => return .ofInt 0
      | .ok (some text) =>
        match target with
        | none =>
          countRecord false
          setRecord text
        | some t =>
          countRecord false
          store fuel t (inputValue text)
        return .ofInt 1

/-- The key that subscripts make. -/
def key : Nat → List Term → Act String
  | 0, _ => fault "script too long"
  | fuel + 1, ts => do
    match ts with
    | [t] => textOf (← eval fuel t)
    | ts =>
      let texts ← keyTexts fuel ts
      return String.intercalate (← special "SUBSEP" "\x1c") texts

def keyTexts : Nat → List Term → Act (List String)
  | 0, _ => fault "script too long"
  | fuel + 1, ts => do
    match ts with
    | [] => return []
    | t :: rest => return (← textOf (← eval fuel t)) :: (← keyTexts fuel rest)

/-- Assigns a value. -/
def store : Nat → Term → Value → Act Unit
  | 0, _, _ => fault "script too long"
  | fuel + 1, target, v => do
    match target with
    | .name n => setName n v
    | .field t => setField (← eval fuel t).toNumber.toInt v
    | .element array ts => do
      let k ← key fuel ts
      setElement (← arrayOf array) k v
    | .grouped [t] => store fuel t v
    | _ => fault "assignment to something that is no variable"

def evalAll : Nat → List Term → Act (List Value)
  | 0, _ => fault "script too long"
  | fuel + 1, ts => do
    match ts with
    | [] => return []
    | t :: rest => return (← eval fuel t) :: (← evalAll fuel rest)

/-- What the arguments of a function become: a name without a value may be used as an
array there. -/
def passArgs : Nat → List Term → Act (List Slot)
  | 0, _ => fault "script too long"
  | fuel + 1, ts => do
    match ts with
    | [] => return []
    | t :: rest =>
      let here ← match t with
        | .name n => do
          match ← slot n with
          | some (.array id) => pure (Slot.array id)
          | some (.value v) =>
            match v with
            | .unset => do pure (Slot.array (← arrayOf n))
            | v => pure (Slot.value v)
          | none =>
            if n = "NF" then do pure (Slot.value (← getName n)) else do pure (Slot.array (← arrayOf n))
        | t => do pure (Slot.value (← eval fuel t))
      return here :: (← passArgs fuel rest)

/-- Calls a function of the script. -/
def invoke : Nat → String → List Term → Act Value
  | 0, _, _ => fault "script too long"
  | fuel + 1, name, args => do
    match (← get).functions[name]? with
    | none => fault ("function " ++ name ++ " never defined")
    | some f =>
      let slots ← passArgs fuel args
      if f.parameters.length < slots.length then fault ("too many arguments in call to " ++ name)
      let outer ← get
      if callDepth ≤ outer.depth then fault "function call nesting too deep"
      let full := slots ++ List.replicate (f.parameters.length - slots.length) (Slot.value .unset)
      set { outer with locals := some (f.parameters.zip full), depth := outer.depth + 1 }
      let result ← (try
          exec fuel f.body
          pure Value.unset
        catch e =>
          match e with
          | .back v => pure v
          | e => throw e)
      modify fun s => { s with locals := outer.locals, depth := outer.depth }
      return result

/-- Calls a function of the language. -/
def builtin : Nat → String → List Term → Act Value
  | 0, _, _ => fault "script too long"
  | fuel + 1, name, args => do
    match name, args with
    | "length", [.name n] =>
      match ← slot n with
      | some (.array id) => return .ofInt (← tableOf id).elements.size
      | _ => return .ofInt (← textOf (← getName n)).length
    | "split", text :: .name array :: rest =>
      let s ← textOf (← eval fuel text)
      let separator ← match rest with
        | [] => special "FS" " "
        | t :: _ =>
          match patternOf? t with
          | some p => pure (if p.length = 1 then "[" ++ p ++ "]" else p)
          | none => do textOf (← eval fuel t)
      let pieces ← match rest with
        | .pattern p :: _ => do
          if s = "" then pure []
          else pure ((splitAtFits (← expression p) s.toList).map String.ofList)
        | _ => splitFields separator s
      let id ← arrayOf array
      modify fun st => { st with tables := st.tables.modify id fun _ => ⟨∅, 0⟩ }
      for (piece, i) in pieces.zipIdx 1 do
        setElement id (toString i) (inputValue piece)
      return .ofInt pieces.length
    | "match", text :: pattern :: _ =>
      let s ← textOf (← eval fuel text)
      let source ← match patternOf? pattern with
        | some p => pure p
        | none => do textOf (← eval fuel pattern)
      let r ← expression source
      let found := Regex.search { chars := s.toList.toArray } r 0
      let (start, count) : Int × Int := match found with
        | some f => (f.first + 1, f.last - f.first)
        | none => (0, -1)
      setName "RSTART" (.ofInt start)
      setName "RLENGTH" (.ofInt count)
      return .ofInt start
    | name, args =>
      if name = "sub" || name = "gsub" then
        match args with
        | pattern :: replacement :: rest =>
          let source ← match patternOf? pattern with
            | some p => pure p
            | none => do textOf (← eval fuel pattern)
          let r ← expression source
          let filler := (← textOf (← eval fuel replacement)).toList
          let target := rest.headD (.field (.number (.finite false 0 1)))
          let s ← textOf (← eval fuel target)
          let subject : Regex.Subject := { chars := s.toList.toArray }
          let (chars, count) := Regex.replace subject r 1 (name == "gsub") fun f =>
            fillMatch (f.group subject 0) filler
          if 0 < count then store fuel target (.text (String.ofList chars))
          return .ofInt count
        | _ => fault ("not enough arguments to " ++ name)
      else plainFunction name (← evalAll fuel args)

/-- Where a print goes: a name, whether that is a command, whether it is added to. -/
def outlet : Nat → Outlet → Act (Option (String × Bool × Bool))
  | 0, _ => fault "script too long"
  | fuel + 1, o => do
    match o with
    | .standard => return none
    | .file append path => return some (← textOf (← eval fuel path), false, append)
    | .pipe command => return some (← textOf (← eval fuel command), true, false)

def exec : Nat → Statement → Act Unit
  | 0, _ => fault "script too long"
  | fuel + 1, s => do
    match s with
    | .evaluate t =>
      let _ ← eval fuel t
    | .print ts o =>
      let stop ← special "ORS" "\n"
      let format ← special "OFMT" "%.6g"
      let text ←
        if ts.isEmpty then do pure (← get).record
        else do
          let values ← evalAll fuel ts
          pure (String.intercalate (← special "OFS" " ") (values.map (Value.toText format)))
      let place ← outlet fuel o
      printTo place (text ++ stop)
    | .printf ts o =>
      match ← evalAll fuel ts with
      | [] => fault "no format"
      | format :: values =>
        let text ← textOf format
        let chars ← formatValues (text.length + 1) text.toList values
        let place ← outlet fuel o
        printTo place (String.ofList chars)
    | .block ss => execAll fuel ss
    | .choose c a b =>
      if (← eval fuel c).holds then exec fuel a
      else
        match b with
        | some b => exec fuel b
        | none => return ()
    | .loop c body => whileLoop fuel c none body
    | .doLoop body c =>
      if ← oneTurn fuel body then whileLoop fuel c none body
    | .count start c next body =>
      match start with
      | some s => exec fuel s
      | none => pure ()
      whileLoop fuel (c.getD (.number (.finite false 1 1))) next body
    | .each name array body =>
      let keys := keysOf (← tableOf (← arrayOf array))
      eachLoop fuel name (← arrayOf array) keys body
    | .leaveLoop => throw .loop
    | .nextTurn => throw .turn
    | .nextRecord => throw .record
    | .nextFile => throw .file
    | .exit t =>
      match t with
      | some t =>
        let v ← eval fuel t
        modify fun s => { s with code := (v.toNumber.toInt % 256).toNat }
      | none => pure ()
      throw .exit
    | .back t =>
      match t with
      | some t => throw (.back (← eval fuel t))
      | none => throw (.back .unset)
    | .delete array subscripts =>
      let id ← arrayOf array
      match subscripts with
      | none => modify fun s => { s with tables := s.tables.modify id fun _ => ⟨∅, 0⟩ }
      | some ts =>
        let k ← key fuel ts
        modify fun s => { s with tables := s.tables.modify id fun t =>
          { t with elements := t.elements.erase k } }

def execAll : Nat → List Statement → Act Unit
  | 0, _ => fault "script too long"
  | fuel + 1, ss => do
    match ss with
    | [] => return ()
    | s :: rest =>
      exec fuel s
      execAll fuel rest

/-- One turn of a loop; false if the loop is left. -/
def oneTurn : Nat → Statement → Act Bool
  | 0, _ => fault "script too long"
  | fuel + 1, body => do
    try
      exec fuel body
      return true
    catch e =>
      match e with
      | .loop => return false
      | .turn => return true
      | e => throw e

def whileLoop : Nat → Term → Option Statement → Statement → Act Unit
  | 0, _, _, _ => fault "script too long"
  | fuel + 1, c, next, body => do
    if (← eval fuel c).holds then
      if ← oneTurn fuel body then
        match next with
        | some s => exec fuel s
        | none => pure ()
        whileLoop fuel c next body

def eachLoop : Nat → String → Nat → List String → Statement → Act Unit
  | 0, _, _, _, _ => fault "script too long"
  | fuel + 1, name, id, keys, body => do
    match keys with
    | [] => return ()
    | k :: rest =>
      if (← tableOf id).elements.contains k then
        setName name (inputValue k)
        if ← oneTurn fuel body then eachLoop fuel name id rest body
      else eachLoop fuel name id rest body

end

/-! ## §8 Program -/

/-- How long a script may run. -/
def turnLimit : Nat := 20000000

/-- Runs what a rule does. -/
def runBody (body : Option Statement) : Act Unit := do
  match body with
  | some s => exec turnLimit s
  | none => exec turnLimit (.print [] .standard)

/-- Runs the rules that are for the present record. -/
def runRules : List (Rule × Nat) → Act Unit
  | [] => return ()
  | (rule, n) :: rest => do
    match rule.trigger with
    | .always => runBody rule.body
    | .condition t => if (← eval turnLimit t).holds then runBody rule.body
    | .range a b =>
      let inside := (← get).ranges.contains n
      if inside || (← eval turnLimit a).holds then
        let ends := (← eval turnLimit b).holds
        modify fun s => { s with
          ranges := if ends then s.ranges.filter (· != n) else if inside then s.ranges else n :: s.ranges }
        runBody rule.body
    | _ => pure ()
    runRules rest

/-- Runs rules for each record of the input, at most so many. -/
def runRecords (rules : List (Rule × Nat)) : Nat → Act Unit
  | 0 => return ()
  | fuel + 1 => do
    match ← nextInput 10000 with
    | none => return ()
    | some text =>
      countRecord true
      setRecord text
      try
        runRules rules
      catch e =>
        match e with
        | .record => pure ()
        | .file => modify fun s => { s with input := none }
        | e => throw e
      runRecords rules fuel

/-- Does something that may end the script; false if it does. -/
def guarded (act : Act Unit) : StateT State Task Bool := do
  match ← act.run with
  | .ok () => return true
  | .error .exit => return false
  | .error (.fault text) =>
    let s ← get
    s.call.say ("run time error: " ++ text)
    set { s with code := 2, failed := true }
    return false
  | .error _ => return true

/-- Runs a whole script. -/
def runScript (script : Script) : StateT State Task Unit := do
  let ofKind (kind : Trigger → Bool) : List (Rule × Nat) :=
    script.rules.zipIdx.filter fun (r, _) => kind r.trigger
  let isBegin (t : Trigger) : Bool := match t with
    | .begin => true
    | _ => false
  let isFinish (t : Trigger) : Bool := match t with
    | .finish => true
    | _ => false
  let begins := ofKind isBegin
  let ends := ofKind isFinish
  let mains := ofKind fun t => !isBegin t && !isFinish t
  let each (rules : List (Rule × Nat)) : Act Unit := do
    for (r, _) in rules do
      runBody r.body
  let goes ← guarded (each begins)
  if (← get).failed then return ()
  else
    if goes && !(mains.isEmpty && ends.isEmpty) then
      let _ ← guarded (runRecords mains 10000000)
    if !(← get).failed then
      let _ ← guarded (each ends)
    let s ← get
    for (name, sink) in s.sinks do
      match sink with
      | .pipe text => let _ ← (liftM (feedShell s.call name text) : StateT State Task Ending)
      | .file _ => pure ()

/-- The variables that a script starts with. -/
def startGlobals (args : List String) (vars : List (String × String)) :
    Std.HashMap String Slot × Array Table :=
  let table (pairs : List (String × Value)) : Table :=
    ⟨(pairs.zipIdx.foldl (fun (m : Std.HashMap String (Value × Nat)) ((k, v), i) => m.insert k (v, i)) ∅),
      pairs.length⟩
  let argv := table (args.zipIdx.map fun (a, i) => (toString i, inputValue a))
  let environ := table (vars.map fun (n, v) => (n, inputValue v))
  let texts : List (String × Value) :=
    [("FS", .text " "), ("OFS", .text " "), ("ORS", .text "\n"), ("RS", .text "\n"),
      ("SUBSEP", .text "\x1c"), ("CONVFMT", .text "%.6g"), ("OFMT", .text "%.6g"),
      ("NR", .ofInt 0), ("FNR", .ofInt 0), ("RSTART", .ofInt 0), ("RLENGTH", .ofInt (-1)),
      ("FILENAME", .text ""), ("ARGC", .ofInt args.length)]
  let globals := texts.foldl (fun (m : Std.HashMap String Slot) (n, v) => m.insert n (.value v)) ∅
  ((globals.insert "ARGV" (.array 0)).insert "ENVIRON" (.array 1), #[argv, environ])

end Records

open Records in
def awk : Utility := fun call =>
  match Options.read "F:v:f:W:" [] false call.args with
  | .error e => call.usage e 2
  | .ok o => do
    let mut parts := #[]
    for (c, value) in o.given do
      if c == 'f' then
        match ← call.readFile value with
        | .ok text => parts := parts.push text
        | .error fault => return ← call.fail ("cannot open " ++ value ++ " (" ++ fault.reason ++ ")") 2
    let given := !parts.isEmpty
    match given, o.operands with
    | false, [] =>
      Task.complain ("Usage: " ++ call.name ++ " [Options] [Program] [file ...]")
      return 2
    | _, operands =>
      let text := if given then String.intercalate "\n" parts.toList else operands.headD ""
      let words := if given then operands else operands.drop 1
      match readScript text with
      | .error e => call.fail ("line 1: " ++ e) 2
      | .ok script =>
        let (globals, tables) := startGlobals (call.name :: words) call.vars
        let functions := script.functions.foldl
          (fun (m : Std.HashMap String Function) f => m.insert f.name f) ∅
        let start : State := {
          call, functions, globals, locals := none, tables, record := "", fields := #[]
          pending := words, usedFile := false, input := none, finished := false, sources := []
          sinks := [], ranges := [], depth := 0, code := 0, failed := false, expressions := ∅ }
        let prepare : Act Unit := do
          match o.value? 'F' with
          | some separator =>
            let text := if separator = "t" then "\t" else
              match readString (separator.length + 2) (separator.toList ++ ['\x22']) with
              | some (s, _) => String.ofList s
              | none => separator
            setName "FS" (.text text)
          | none => pure ()
          for (c, value) in o.given do
            if c == 'v' then
              let _ ← assignArgument value
        let ((), s) ← (do
          let _ ← guarded prepare
          runScript script : StateT State Task Unit).run start
        return s.code

end ReleaseKit.Utility
