/-
ReleaseKit.Utility.Columns — programs that take lines and characters apart.

  §1 Columns     — `cut`, `paste`.
  §2 Characters  — `tr`.
  §3 Pieces      — `split`, `shuf`.
-/
import ReleaseKit.Shell.Pattern
import ReleaseKit.Utility.Order

namespace ReleaseKit.Utility

/-! ## §1 Columns -/

/-- Places in a line, as a list of ranges. -/
def readPlaces (text : String) : Option (List (Nat × Option Nat)) :=
  let pieces := (text.splitOn ",").flatMap (·.splitOn " ")
  pieces.mapM fun piece =>
    match piece.splitOn "-" with
    | [n] => (n.toNat?).bind fun k => if k = 0 then none else some (k, some k)
    | [low, high] =>
      let low? := if low = "" then some 1 else low.toNat?
      match low?, high with
      | some k, "" => if k = 0 || low = "" then none else some (k, none)
      | some k, high =>
        (high.toNat?).bind fun h => if k = 0 || h < k then none else some (k, some h)
      | none, _ => none
    | _ => none

/-- Whether a place is among ranges. -/
def isPlaced (places : List (Nat × Option Nat)) (n : Nat) : Bool :=
  places.any fun (low, high) => low ≤ n && (high.all fun h => n ≤ h)

/-- What `cut` leaves of a line; nothing if the line is left out. -/
def cutLine (o : Options) (places : List (Nat × Option Nat)) (line : String) : Option String :=
  let kept (n : Nat) : Bool := isPlaced places n != o.has '\x01'
  if o.has 'f' then
    let delimiter := ((o.value? 'd').getD "\t").toList.headD '\x00'
    let fields := splitAtChar delimiter line.toList
    if fields.length = 1 then (if o.has 's' then none else some line)
    else
      let chosen := (fields.zipIdx 1).filterMap fun (field, n) =>
        if kept n then some (String.ofList field) else none
      some (String.intercalate ((o.value? '\x02').getD (String.singleton delimiter)) chosen)
  else
    let chars := line.toList.zipIdx 1
    match o.value? '\x02' with
    | none => some (String.ofList (chars.filterMap fun (c, n) => if kept n then some c else none))
    | some glue =>
      let groups := (chars.filter fun (_, n) => kept n).splitBy fun a b => a.2 + 1 == b.2
      some (String.intercalate glue (groups.map fun g => String.ofList (g.map (·.1))))

def cut : Utility := fun call => call.withOptions "b:c:f:d:szn\x01\x02:" [("bytes", 'b'),
    ("characters", 'c'), ("fields", 'f'), ("delimiter", 'd'), ("only-delimited", 's'),
    ("complement", '\x01'), ("output-delimiter", '\x02'), ("zero-terminated", 'z')] 1 fun o => do
  let lists := o.given.filter fun (c, _) => ['b', 'c', 'f'].contains c
  match lists with
  | [] => call.usage "you must specify a list of bytes, characters, or fields"
  | [(kind, text)] =>
    if o.has 'd' && ((o.value? 'd').getD "").length != 1 && (o.value? 'd') != some "" then
      call.usage "the delimiter must be a single character"
    else if kind != 'f' && o.has 'd' then
      call.usage "an input delimiter may be specified only when operating on fields"
    else if kind != 'f' && o.has 's' then
      call.usage "suppressing non-delimited lines makes sense\n\tonly when operating on fields"
    else
      match readPlaces text with
      | none =>
        call.usage (if kind = 'f' then "invalid field range"
          else "invalid byte or character range")
      | some places =>
        let fine ← call.inputs o.operands fun _ text =>
          Task.say (String.join ((linesOf text).filterMap fun line =>
            (cutLine o places line).map (· ++ "\n")))
        return if fine then 0 else 1
  | _ => call.usage "only one type of list may be specified"

/-- The next line of each source, those that share an input taking turns; nothing for a
source that has come to its end. -/
def nextRow : List String → List (String × List String) →
    List (Option String) × List (String × List String)
  | [], inputs => ([], inputs)
  | path :: rest, inputs =>
    match inputs.lookup path with
    | some (line :: lines) =>
      let (row, left) := nextRow rest (inputs.map fun (p, l) => if p == path then (p, lines) else (p, l))
      (some line :: row, left)
    | _ =>
      let (row, left) := nextRow rest inputs
      (none :: row, left)

/-- The rows that sources make, at most so many. -/
def allRows : Nat → List String → List (String × List String) → List (List (Option String))
  | 0, _, _ => []
  | fuel + 1, paths, inputs =>
    let (row, left) := nextRow paths inputs
    if row.all Option.isNone then [] else row :: allRows fuel paths left

/-- Words with marks between them, the marks taken again and again in turn. -/
def interleave (marks : Array String) : Nat → List String → String
  | _, [] => ""
  | _, [word] => word
  | n, word :: rest =>
    word ++ (marks[n % marks.size]?).getD "" ++ interleave marks (n + 1) rest

/-- The marks that a list of characters describes. -/
def readMarks : List Char → List String
  | '\\' :: '0' :: rest => "" :: readMarks rest
  | '\\' :: 'n' :: rest => "\n" :: readMarks rest
  | '\\' :: 't' :: rest => "\t" :: readMarks rest
  | '\\' :: c :: rest => String.singleton c :: readMarks rest
  | c :: rest => String.singleton c :: readMarks rest
  | [] => []

def paste : Utility := fun call => call.withOptions "d:sz" [("delimiters", 'd'), ("serial", 's')] 1
    fun o => do
  let paths := if o.operands.isEmpty then ["-"] else o.operands
  let marks := (match o.value? 'd' with
    | some text => readMarks text.toList
    | none => ["\t"]).toArray
  let mut inputs := #[]
  let mut code := 0
  for path in paths.eraseDups do
    match ← call.readFile path with
    | .ok text => inputs := inputs.push (path, linesOf text)
    | .error fault =>
      call.say (Quotes.inMessage path ++ ": " ++ fault.reason)
      code := 1
      if !o.has 's' then return 1
  let total := inputs.foldl (fun n (_, lines) => n + lines.length) 0
  let rows : List (List String) :=
    if o.has 's' then
      (paths.zipIdx.filter fun (p, i) => p != "-" || paths.findIdx? (· == p) == some i).filterMap
        fun (path, _) => inputs.toList.lookup path
    else
      (allRows (total + 1) paths inputs.toList).map fun row => row.map (·.getD "")
  emit call (String.join (rows.map fun row => interleave marks 0 row ++ "\n")) code

/-! ## §2 Characters -/

/-- A character that may have been written with a backslash, and what follows. -/
def readSetChar (chars : List Char) : Option (Char × List Char) :=
  match chars with
  | '\\' :: c :: rest =>
    match [('a', '\x07'), ('b', '\x08'), ('f', '\x0c'), ('n', '\n'), ('r', '\r'), ('t', '\t'),
        ('v', '\x0b')].lookup c with
    | some special => some (special, rest)
    | none =>
      let digits := ((c :: rest).take 3).takeWhile fun d => '0' ≤ d && d ≤ '7'
      if digits.isEmpty then some (c, rest)
      else
        let value := Amount.ofDigits 8 digits
        if 255 < value then
          some (Char.ofNat (Amount.ofDigits 8 (digits.take 2)), (c :: rest).drop 2)
        else some (Char.ofNat value, (c :: rest).drop digits.length)
  | c :: rest => some (c, rest)
  | [] => none

/-- A set of characters for `tr`, with the place of a repeat that fills up. -/
structure CharSet where
  chars : List Char
  filler? : Option (Nat × Char)
  classes : Bool

/-- A repetition inside brackets behind its character: how often, and what follows. -/
def readCount (chars : List Char) : Option (Nat × List Char) :=
  match chars with
  | '*' :: rest =>
    let digits := rest.takeWhile Char.isDigit
    match rest.drop digits.length with
    | ']' :: after =>
      some (if digits.head? == some '0' then Amount.ofDigits 8 digits else Amount.ofDigits 10 digits,
        after)
    | _ => none
  | _ => none

/-- The characters that a set is written as. -/
def readSet : Nat → List Char → Except String CharSet
  | 0, _ => .ok ⟨[], none, false⟩
  | fuel + 1, chars =>
    let follow (first : List Char) (isClass : Bool) (rest : List Char) : Except String CharSet :=
      (readSet fuel rest).map fun s =>
        ⟨first ++ s.chars, s.filler?.map fun (n, c) => (n + first.length, c), isClass || s.classes⟩
    let plain : Except String CharSet :=
      match readSetChar chars with
      | none => .ok ⟨[], none, false⟩
      | some (c, '-' :: rest) =>
        match readSetChar rest with
        | none => follow [c] false ('-' :: rest)
        | some (d, after) =>
          if d < c then
            .error ("range-endpoints of " ++ Quotes.plain (String.ofList
              (chars.take (chars.length - after.length))) ++ " are in reverse collating sequence order")
          else
            follow ((List.range (d.toNat - c.toNat + 1)).map fun i => Char.ofNat (c.toNat + i)) false after
      | some (c, rest) => follow [c] false rest
    match chars with
    | [] => .ok ⟨[], none, false⟩
    | '[' :: ':' :: rest =>
      let name := rest.takeWhile Char.isAlpha
      match rest.drop name.length with
      | ':' :: ']' :: after =>
        let ranges := Shell.Glob.classRanges (String.ofList name)
        if ranges.isEmpty then .error ("invalid character class " ++ Quotes.plain (String.ofList name))
        else
          let members := (List.range 256).filterMap fun n =>
            let c := Char.ofNat n
            if ranges.any fun (low, high) => low ≤ c && c ≤ high then some c else none
          follow members true after
      | _ => plain
    | '[' :: '=' :: c :: '=' :: ']' :: after => follow [c] false after
    | '[' :: rest =>
      match readSetChar rest with
      | some (c, after) =>
        match readCount after with
        | some (0, after) =>
          (readSet fuel after).map fun s => ⟨s.chars, some (0, c), s.classes⟩
        | some (n, after) => follow (List.replicate n c) false after
        | none => plain
      | none => plain
    | _ => plain

/-- The second set of a translation, made as long as the first. -/
def CharSet.stretch (s : CharSet) (size : Nat) (last : Char) : List Char :=
  let missing := size - s.chars.length
  match s.filler? with
  | some (n, c) => s.chars.take n ++ List.replicate missing c ++ s.chars.drop n
  | none => s.chars ++ List.replicate missing last

/-- Characters of which runs of some are taken for one. -/
def squeeze (set : List Char) : Option Char → List Char → List Char
  | _, [] => []
  | last, c :: rest =>
    if last = some c && set.contains c then squeeze set last rest
    else c :: squeeze set (some c) rest

def tr : Utility := fun call =>
  match Options.read "cCdst" [("complement", 'c'), ("delete", 'd'), ("squeeze-repeats", 's'),
      ("truncate-set1", 't')] false call.args with
  | .error e => call.usage e
  | .ok o => do
    let count := o.operands.length
    let needsTwo := !(o.has 'd' || o.has 's') || (o.has 'd' && o.has 's')
    let most := if o.has 'd' && !o.has 's' then 1 else 2
    if count = 0 then call.usage "missing operand"
    else if count < 2 && needsTwo then
      call.say ("missing operand after " ++ Quotes.always (o.operands.headD ""))
      call.say (if o.has 'd' then "Two strings must be given when both deleting and squeezing repeats."
        else "Two strings must be given when translating.")
      return 1
    else if most < count then
      call.usage ("extra operand " ++ Quotes.always ((o.operands[most]?).getD ""))
    else
      let read (text : String) : Except String CharSet := readSet (text.length + 1) text.toList
      match read (o.operands.headD ""), read ((o.operands[1]?).getD "") with
      | .error e, _ => call.fail e
      | _, .error e => call.fail e
      | .ok first, .ok second =>
        let negated := o.has 'c' || o.has 'C'
        let members :=
          if negated then ((List.range 256).map Char.ofNat).filter fun c => !first.chars.contains c
          else first.chars
        let translates := count = 2 && !o.has 'd'
        if translates && second.chars.isEmpty && second.filler?.isNone && !o.has 't' then
          call.fail "when not truncating set1, string2 must be non-empty"
        else
          match ← Task.readAll 0 with
          | .error fault => call.fail ("read error: " ++ fault.reason)
          | .ok text =>
            let target := second.stretch members.length (second.chars.getLastD 'x')
            let table : Array Char := (List.range 256).foldl (fun (a : Array Char) n =>
              a.push (Char.ofNat n)) #[]
            let pairs := members.zip (if o.has 't' then second.chars else target)
            let table := if translates then pairs.foldl (fun (a : Array Char) (c, d) =>
              a.setIfInBounds c.toNat d) table else table
            let kept := if o.has 'd' then text.toList.filter fun c => !members.contains c
              else text.toList.map fun c => (table[c.toNat]?).getD c
            let squeezed :=
              if o.has 's' then
                squeeze (if count = 2 then second.chars ++ (second.filler?.map (·.2)).toList
                  else members) none kept
              else kept
            if squeezed.isEmpty then return 0 else emit call (String.ofList squeezed)

/-! ## §3 Pieces -/

/-- The name of a piece: letters or digits that count up. -/
def pieceName (digits : Bool) (width n : Nat) : String :=
  let base := if digits then 10 else 26
  String.ofList ((List.range width).reverse.map fun i =>
    let k := n / Nat.pow base i % base
    Char.ofNat ((if digits then 48 else 97) + k))

/-- Writes a file. -/
def writeFile (path text : String) : Task (Except Fault Unit) := do
  match ← Task.openPath path .writing with
  | .error fault => return .error fault
  | .ok index =>
    Task.assign 99 index
    let result ← Task.write 99 text
    Task.close 99
    return result

def split : Utility := fun call => call.withOptions "l:b:a:dn:C:" [("lines", 'l'), ("bytes", 'b'),
    ("suffix-length", 'a'), ("numeric-suffixes", 'd'), ("number", 'n')] 1 fun o => do
  match ← call.readFile (o.operands.headD "-") with
  | .error fault =>
    call.fail ("cannot open " ++ Quotes.always (o.operands.headD "-") ++ " for reading: " ++
      fault.reason)
  | .ok text =>
    let stem := (o.operands[1]?).getD "x"
    let width := ((o.value? 'a').bind String.toNat?).getD 2
    let pieces : List String :=
      match (o.value? 'n').bind String.toNat?, (o.value? 'b').bind size? with
      | some (k + 1), _ =>
        let each := (text.length + k) / (k + 1)
        (List.range (k + 1)).map fun i =>
          String.ofList ((text.toList.drop (i * each)).take each)
      | _, some (n + 1) => (chunks (n + 1) (text.length + 1) text.toList).map String.ofList
      | _, _ =>
        let n := max 1 (((o.value? 'l').bind size?).getD 1000)
        (chunks n (text.length + 1) (brokenLines text)).map String.join
    for (piece, i) in pieces.zipIdx do
      match ← writeFile (stem ++ pieceName (o.has 'd') width i) piece with
      | .ok () => pure ()
      | .error fault => return ← call.fail (stem ++ pieceName (o.has 'd') width i ++ ": " ++ fault.reason)
    return 0

/-- Lines in the order in which they come, which is as good as any. -/
def shuf : Utility := fun call => call.withOptions "n:ei:o:rz" [("head-count", 'n'), ("echo", 'e'),
    ("input-range", 'i')] 1 fun o => do
  let limit := (o.value? 'n').bind String.toNat?
  let chosen (lines : List String) : List String :=
    match limit with
    | some n => lines.take n
    | none => lines
  match o.value? 'i' with
  | some range =>
    match range.splitOn "-" with
    | [low, high] =>
      match low.toNat?, high.toNat? with
      | some a, some b =>
        emit call (String.join ((chosen ((List.range (b + 1 - a)).map fun i =>
          toString (a + i))).map (· ++ "\n")))
      | _, _ => call.fail ("invalid input range: " ++ Quotes.always range)
    | _ => call.fail ("invalid input range: " ++ Quotes.always range)
  | none =>
    if o.has 'e' then emit call (String.join ((chosen o.operands).map (· ++ "\n")))
    else
      match ← call.readFile (o.operands.headD "-") with
      | .error fault => call.fail (Quotes.inMessage (o.operands.headD "-") ++ ": " ++ fault.reason)
      | .ok text => emit call (String.join ((chosen (linesOf text)).map (· ++ "\n")))

end ReleaseKit.Utility
