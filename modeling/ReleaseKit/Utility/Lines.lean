/-
ReleaseKit.Utility.Lines — programs that read files and write their lines.

  §1 Whole files  — `cat`, `tac`, `rev`, `tee`.
  §2 Parts        — `head`, `tail`.
  §3 Counting     — `wc`, `nl`.
  §4 Widths       — `fold`, `expand`.
-/
import ReleaseKit.Utility.Basic

namespace ReleaseKit.Utility

/-! ## §1 Whole files -/

/-- How `cat` shows what it reads. -/
structure CatStyle where
  numbers : Bool
  filledOnly : Bool
  ends : Bool
  squeeze : Bool
  tabs : Bool
  controls : Bool

/-- A character that cannot be shown, as `cat` shows it. -/
def visible (style : CatStyle) (c : Char) : List Char :=
  let low (n : Nat) : List Char :=
    if n < 32 then ['^', Char.ofNat (n + 64)] else if n = 127 then ['^', '?'] else [Char.ofNat n]
  if c = '\t' then (if style.tabs then ['^', 'I'] else [c])
  else if !style.controls || c = '\n' then [c]
  else if c.toNat < 128 then low c.toNat
  else 'M' :: '-' :: low (c.toNat - 128)

/-- The text as `cat` shows it, from a line number on; `breaks` counts the breaks that
have just been shown. The result has both as they are in the end. -/
def catText (style : CatStyle) : Nat → Nat → List Char → List Char × Nat × Nat
  | number, breaks, [] => ([], number, breaks)
  | number, breaks, c :: rest =>
    if c = '\n' then
      if style.squeeze && 2 ≤ breaks then catText style number breaks rest
      else
        let label :=
          if 0 < breaks && style.numbers && !style.filledOnly then
            (padLeft 6 (toString number) ++ "\t").toList
          else []
        let next := if label.isEmpty then number else number + 1
        let (more, n, b) := catText style next (breaks + 1) rest
        (label ++ (if style.ends then ['$', '\n'] else ['\n']) ++ more, n, b)
    else
      let label :=
        if 0 < breaks && style.numbers then (padLeft 6 (toString number) ++ "\t").toList else []
      let next := if label.isEmpty then number else number + 1
      let (more, n, b) := catText style next 0 rest
      (label ++ visible style c ++ more, n, b)

/-- The file that a descriptor stands for, if it is one. -/
def fileNumber? (fd : Nat) : Task (Option (Nat × Bool)) := do
  match ← Task.fileOf? fd with
  | none => return none
  | some index =>
    let w ← get
    match w.opened[index]? with
    | some file =>
      match file.channel with
      | .file id => return some (id, file.appends)
      | _ => return none
    | none => return none

/-- Whether reading a path would read what is being written. -/
def readsItself (path : String) : Task Bool := do
  match ← fileNumber? 1 with
  | none => return false
  | some (id, _) =>
    let w ← get
    if path = "-" then
      match ← fileNumber? 0 with
      | some (other, _) => return id == other && 0 < (w.disk.bytesOf id).size
      | none => return false
    else
      return w.disk.entryAt? w.self.cwd path == some (.file id) && 0 < (w.disk.bytesOf id).size

def cat : Utility := fun call => call.withOptions "nbEsTvAetu" [("number", 'n'),
    ("number-nonblank", 'b'), ("show-ends", 'E'), ("squeeze-blank", 's'), ("show-tabs", 'T'),
    ("show-nonprinting", 'v'), ("show-all", 'A')] 1 fun o => do
  let style : CatStyle := {
    numbers := o.has 'n' || o.has 'b'
    filledOnly := o.has 'b'
    ends := o.has 'E' || o.has 'A' || o.has 'e'
    squeeze := o.has 's'
    tabs := o.has 'T' || o.has 'A' || o.has 't'
    controls := o.has 'v' || o.has 'A' || o.has 'e' || o.has 't' }
  let isPlain := o.given.all fun (c, _) => c == 'u'
  let mut number := 1
  let mut breaks := 1
  let mut code := 0
  for path in (if o.operands.isEmpty then ["-"] else o.operands) do
    if ← readsItself path then
      call.say (Quotes.inMessage path ++ ": input file is output file")
      code := 1
    else
      match ← call.readFile path with
      | .error fault =>
        call.say (Quotes.inMessage path ++ ": " ++ fault.reason)
        code := 1
      | .ok text =>
        if isPlain then
          if text != "" then code ← emit call text code
        else
          let (shown, n, b) := catText style number breaks text.toList
          number := n
          breaks := b
          code ← emit call (String.ofList shown) code
  return code

/-- The lines of a text with the breaks that end them. -/
def brokenLines (text : String) : List String :=
  let lines := linesOf text
  if text.endsWith "\n" || text = "" then lines.map (· ++ "\n")
  else (lines.dropLast.map (· ++ "\n")) ++ lines.getLast?.toList

def tac : Utility := fun call => call.withOptions "" [] 1 fun o => do
  let fine ← call.inputsOr (fun path fault =>
      "failed to open " ++ Quotes.always path ++ " for reading: " ++ fault.reason) o.operands
    fun _ text => Task.say (String.join (brokenLines text).reverse)
  return if fine then 0 else 1

def rev : Utility := fun call => call.withOptions "" [] 1 fun o => do
  let fine ← call.inputsOr (fun path fault => "cannot open " ++ path ++ ": " ++ fault.reason)
    o.operands fun _ text => Task.say (String.join ((brokenLines text).map fun line =>
      if line.endsWith "\n" then String.ofList (line.toList.dropLast.reverse ++ ['\n'])
      else String.ofList line.toList.reverse))
  return if fine then 0 else 1

def tee : Utility := fun call => call.withOptions "aip" [("append", 'a')] 1 fun o => do
  let mut outs := #[]
  let mut code := 0
  for path in o.operands do
    match ← Task.openPath path (if o.has 'a' then .appending else .writing) with
    | .ok index => outs := outs.push index
    | .error fault =>
      call.say (Quotes.inMessage path ++ ": " ++ fault.reason)
      code := 1
  match ← Task.readAll 0 with
  | .error fault => call.fail ("read error: " ++ fault.reason)
  | .ok text =>
    if text != "" then code ← emit call text code
    for index in outs do
      Task.assign 99 index
      match ← Task.write 99 text with
      | .ok () => pure ()
      | .error fault =>
        call.say (fault.reason)
        code := 1
    Task.close 99
    return code

/-! ## §2 Parts -/

/-- How much of its input a program wants. -/
structure Portion where
  /-- bytes instead of lines -/
  bytes : Bool
  /-- `head` leaves so much away at the end; `tail` starts at this place -/
  signed : Bool
  count : Nat

/-- The last numeric option of an older form, as in `-5`, taken apart from the
other arguments. -/
def oldCount (args : List String) : List String :=
  match args with
  | first :: rest =>
    match first.toList with
    | '-' :: c :: cs =>
      if c.isDigit then
        let digits := (c :: cs).takeWhile Char.isDigit
        match (c :: cs).drop digits.length with
        | [] => ["-n", String.ofList digits] ++ rest
        | ['c'] => ["-c", String.ofList digits] ++ rest
        | letters => ["-n", String.ofList digits, "-" ++ String.ofList letters] ++ rest
      else args
    | _ => args
  | [] => []

/-- The amount that the options of `head` or `tail` ask for. -/
def portion? (sign : Char) (o : Options) : Except String Portion :=
  match o.given.reverse.find? fun (c, _) => c == 'n' || c == 'c' with
  | none => .ok ⟨false, false, 10⟩
  | some (letter, value) =>
    let signed := value.toList.head? == some sign
    let number := match value.toList with
      | '-' :: rest => String.ofList rest
      | '+' :: rest => String.ofList rest
      | _ => value
    match size? number with
    | some n => .ok ⟨letter == 'c', signed, n⟩
    | none => .error ("invalid number of " ++ (if letter == 'c' then "bytes" else "lines") ++ ": " ++
        Quotes.always value)

/-- The first part of a text. -/
def firstPart (p : Portion) (text : String) : String :=
  if p.bytes then
    let chars := text.toList
    String.ofList (chars.take (if p.signed then chars.length - p.count else p.count))
  else
    let lines := brokenLines text
    String.join (lines.take (if p.signed then lines.length - p.count else p.count))

/-- The last part of a text. -/
def lastPart (p : Portion) (text : String) : String :=
  if p.bytes then
    let chars := text.toList
    String.ofList (chars.drop (if p.signed then p.count - 1 else chars.length - p.count))
  else
    let lines := brokenLines text
    String.join (lines.drop (if p.signed then p.count - 1 else lines.length - p.count))

/-- The title of a file among several. -/
def title (first : Bool) (path : String) : String :=
  (if first then "" else "\n") ++ "==> " ++ (if path = "-" then "standard input" else path) ++ " <==\n"

/-- Gives back to standard input what was read of a file beyond what was wanted; of
a pipe, what comes in whole blocks stays read. -/
def giveBack (offset wanted : Nat) (exact : Bool) : Task Unit := do
  match ← Task.fileOf? 0 with
  | none => return ()
  | some index =>
    modify fun w => { w with opened := w.opened.modify index fun file =>
      match file.channel with
      | .file _ => { file with offset := offset + wanted }
      | _ =>
        if exact then { file with offset := offset + wanted }
        else { file with offset := min file.offset (offset + (wanted / 8192 + 1) * 8192) } }

/-- The offset of standard input. -/
def inputOffset : Task Nat := do
  match ← Task.fileOf? 0 with
  | none => return 0
  | some index => return (((← get).opened[index]?).map (·.offset)).getD 0

def head : Utility := fun call =>
  match Options.read "n:c:qvz" [("lines", 'n'), ("bytes", 'c'), ("quiet", 'q'), ("silent", 'q'),
      ("verbose", 'v')] true (oldCount call.args) with
  | .error e => call.usage e
  | .ok o =>
    match portion? '-' o with
    | .error e => call.fail e
    | .ok p => do
      let titled := (1 < o.operands.length || o.has 'v') && !o.has 'q'
      let mut first := true
      let mut code := 0
      for path in (if o.operands.isEmpty then ["-"] else o.operands) do
        let offset ← inputOffset
        match ← call.readFile path with
        | .error fault =>
          let what := if fault == .isDirectory then "error reading " ++ Quotes.always path
            else "cannot open " ++ Quotes.always path ++ " for reading"
          if fault == .isDirectory && titled then
            Task.say (title first path)
            first := false
          call.say (what ++ ": " ++ fault.reason)
          code := 1
        | .ok text =>
          let part := firstPart p text
          if path = "-" then giveBack offset part.length p.bytes
          code ← emit call ((if titled then title first path else "") ++ part) code
          first := false
      return code

def tail : Utility := fun call =>
  match Options.read "n:c:qvfFs:z" [("lines", 'n'), ("bytes", 'c'), ("quiet", 'q'),
      ("silent", 'q'), ("verbose", 'v')] true
      (match call.args with
        | first :: rest =>
          match first.toList with
          | '+' :: c :: cs => if c.isDigit then ("-n" ++ first) :: rest
              else String.ofList ('+' :: c :: cs) :: rest
          | _ => oldCount call.args
        | [] => []) with
  | .error e => call.usage e
  | .ok o =>
    match portion? '+' o with
    | .error e => call.fail e
    | .ok p => do
      let titled := (1 < o.operands.length || o.has 'v') && !o.has 'q'
      let mut first := true
      let mut code := 0
      for path in (if o.operands.isEmpty then ["-"] else o.operands) do
        match ← call.readFile path with
        | .error fault =>
          if fault == .isDirectory && titled then
            Task.say (title first path)
            first := false
          call.say ((if fault == .isDirectory then "error reading " ++ Quotes.always path
            else "cannot open " ++ Quotes.always path ++ " for reading") ++ ": " ++ fault.reason)
          code := 1
        | .ok text =>
          code ← emit call ((if titled then title first path else "") ++ lastPart p text) code
          first := false
      return code

/-! ## §3 Counting -/

/-- The counts of a text: lines, words, characters, bytes, the longest line. -/
structure Counts where
  lines : Nat := 0
  words : Nat := 0
  bytes : Nat := 0
  longest : Nat := 0

/-- Whether a character separates words. -/
def isGap (c : Char) : Bool := c == ' ' || ('\t' ≤ c && c ≤ '\r')

/-- Counts of characters; `inWord` says that a word has begun, and `column` how wide
the line is so far. -/
def countText : Counts → Bool → Nat → List Char → Counts
  | n, inWord, column, [] =>
    { n with words := n.words + (if inWord then 1 else 0), longest := max n.longest column }
  | n, inWord, column, c :: rest =>
    let ended := { n with
      bytes := n.bytes + 1, words := n.words + (if inWord && isGap c then 1 else 0) }
    if c = '\n' then
      countText { ended with lines := n.lines + 1, longest := max n.longest column } false 0 rest
    else if c = '\t' then countText ended false (column + 8 - column % 8) rest
    else if isGap c then countText ended false (if c = ' ' then column + 1 else column) rest
    else
      countText ended (inWord || (32 < c.toNat && c.toNat < 127))
        (if 32 < c.toNat && c.toNat < 127 then column + 1 else column) rest

namespace Counts

/-- What the options ask for, in the order in which it is shown. -/
def asked (n : Counts) (o : Options) : List Nat :=
  let all := !(o.has 'l' || o.has 'w' || o.has 'c' || o.has 'm' || o.has 'L')
  (if o.has 'l' || all then [n.lines] else []) ++ (if o.has 'w' || all then [n.words] else []) ++
    (if o.has 'm' then [n.bytes] else []) ++ (if o.has 'c' || all then [n.bytes] else []) ++
    (if o.has 'L' then [n.longest] else [])

/-- The counts of two texts together. -/
def add (a b : Counts) : Counts :=
  ⟨a.lines + b.lines, a.words + b.words, a.bytes + b.bytes, max a.longest b.longest⟩

end Counts

/-- The size of a file that is to be counted; nothing if it is no file. -/
def countedSize? (path : String) : Task (Option (Option Nat)) := do
  let w ← get
  if path = "-" then
    match ← fileNumber? 0 with
    | some (id, _) => return some (some (w.disk.bytesOf id).size)
    | none => return some none
  else
    match w.disk.entryAt? w.self.cwd path with
    | some (.file id) => return some (some (w.disk.bytesOf id).size)
    | some _ => return some none
    | none => return none

/-- How wide the columns of `wc` are. -/
def countWidth (o : Options) (paths : List String) : Task Nat := do
  let mut sizes := #[]
  for path in paths do
    sizes := sizes.push (← countedSize? path)
  let asked := (Counts.asked {} o).length
  if paths.length = 1 && asked = 1 then return 1
  else if sizes[0]? == some none then return 1
  else
    let total := sizes.foldl (fun n s => n + (s.join.getD 0)) 0
    let least := if sizes.any (· == some none) then 7 else 1
    return max least (toString total).length

def wc : Utility := fun call => call.withOptions "lwcmL" [("lines", 'l'), ("words", 'w'),
    ("bytes", 'c'), ("chars", 'm'), ("max-line-length", 'L')] 1 fun o => do
  let paths := if o.operands.isEmpty then ["-"] else o.operands
  let width ← countWidth o paths
  let row (n : Counts) (name : String) : String :=
    String.intercalate " " ((n.asked o).map fun k => padLeft width (toString k)) ++
      (if name = "" then "" else " " ++ name) ++ "\n"
  let mut total : Counts := {}
  let mut code := 0
  for path in paths do
    match ← call.readFile path with
    | .error fault =>
      call.say (Quotes.inMessage path ++ ": " ++ fault.reason)
      if fault == .isDirectory then Task.say (row {} path)
      code := 1
    | .ok text =>
      let n := countText {} false 0 text.toList
      total := total.add n
      code ← emit call (row n (if o.operands.isEmpty then "" else path)) code
  if 1 < paths.length then Task.say (row total "total")
  return code

def nl : Utility := fun call => call.withOptions "b:w:s:v:n:i:f:h:pl:d:" [("body-numbering", 'b'),
    ("number-width", 'w'), ("number-separator", 's'), ("starting-line-number", 'v'),
    ("number-format", 'n'), ("line-increment", 'i')] 1 fun o => do
  let width := ((o.value? 'w').bind String.toNat?).getD 6
  let separator := (o.value? 's').getD "\t"
  let step := ((o.value? 'i').bind String.toNat?).getD 1
  let style := (o.value? 'b').getD "t"
  let number (n : Nat) : String :=
    match (o.value? 'n').getD "rn" with
    | "ln" => padRight width (toString n)
    | "rz" => String.ofList (List.replicate (width - (toString n).length) '0') ++ toString n
    | _ => padLeft width (toString n)
  let mut next := ((o.value? 'v').bind String.toNat?).getD 1
  let mut code := 0
  for path in (if o.operands.isEmpty then ["-"] else o.operands) do
    match ← call.readFile path with
    | .error fault =>
      call.say (Quotes.inMessage path ++ ": " ++ fault.reason)
      code := 1
    | .ok text =>
      let mut shown := #[]
      for line in linesOf text do
        if style = "a" || (style = "t" && line != "") then
          shown := shown.push (number next ++ separator ++ line ++ "\n")
          next := next + step
        else
          shown := shown.push
            (String.ofList (List.replicate (width + separator.length) ' ') ++ line ++ "\n")
      code ← emit call (String.join shown.toList) code
  return code

/-! ## §4 Widths -/

/-- A line in pieces of a width, cut behind a blank where there is one if `atBlanks`.
The first number bounds the pieces. -/
def foldLine (width : Nat) (atBlanks : Bool) : Nat → List Char → List (List Char)
  | 0, chars => [chars]
  | fuel + 1, chars =>
    if chars.length ≤ width then [chars]
    else
      let piece := chars.take width
      let kept := (piece.reverse.dropWhile fun c => c != ' ' && c != '\t').length
      let cut := if atBlanks && 0 < kept then kept else width
      chars.take cut :: foldLine width atBlanks fuel (chars.drop cut)

def fold : Utility := fun call => call.withOptions "w:sb" [("width", 'w'), ("spaces", 's'),
    ("bytes", 'b')] 1 fun o => do
  match ((o.value? 'w').getD "80").toNat? with
  | none => call.fail ("invalid number of columns: " ++ Quotes.always ((o.value? 'w').getD ""))
  | some 0 => call.fail "invalid number of columns: '0'"
  | some width =>
    let fine ← call.inputs o.operands fun _ text =>
      Task.say (String.join ((brokenLines text).map fun line =>
        let chars := if line.endsWith "\n" then line.toList.dropLast else line.toList
        let pieces := foldLine width (o.has 's') chars.length chars
        String.intercalate "\n" (pieces.map String.ofList) ++
          (if line.endsWith "\n" then "\n" else "")))
    return if fine then 0 else 1

/-- A text with blanks in place of tabs, from a column on. -/
def expandTabs (stop : Nat) : Nat → List Char → List Char
  | _, [] => []
  | column, c :: rest =>
    if c = '\t' then
      let count := stop - column % stop
      List.replicate count ' ' ++ expandTabs stop (column + count) rest
    else c :: expandTabs stop (if c = '\n' then 0 else column + 1) rest

def expand : Utility := fun call => call.withOptions "t:i" [("tabs", 't'), ("initial", 'i')] 1
    fun o => do
  match ((o.value? 't').getD "8").toNat? with
  | some (stop + 1) =>
    let fine ← call.inputs o.operands fun _ text =>
      Task.say (String.ofList (expandTabs (stop + 1) 0 text.toList))
    return if fine then 0 else 1
  | _ => call.fail "tab size cannot be 0"

end ReleaseKit.Utility
