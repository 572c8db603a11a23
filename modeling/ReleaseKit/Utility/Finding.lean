/-
ReleaseKit.Utility.Finding — looking for files in trees.

What is looked for is an expression over the files of a tree; its parts ask or
do something, and are joined by words for not, and and or.

  §1 Expressions  — `Quest`.
  §2 Reading      — `Quest.read`.
  §3 Meeting      — `Quest.meet`: one file.
  §4 Walking      — `find`.
-/
import ReleaseKit.Shell.Pattern
import ReleaseKit.Text.Expression
import ReleaseKit.Utility.Listing

namespace ReleaseKit.Utility

/-! ## §1 Expressions -/

/-- A number to compare with. -/
inductive Measure where
  | exactly (n : Nat)
  | more (n : Nat)
  | less (n : Nat)

def Measure.holds : Measure → Nat → Bool
  | exactly n, k => k == n
  | more n, k => n < k
  | less n, k => k < n

/-- What `find` asks and does. -/
inductive Quest where
  | always (answer : Bool)
  | not (q : Quest)
  | and (a b : Quest)
  | or (a b : Quest)
  | comma (a b : Quest)
  | called (folded : Bool) (pattern : String)
  | placed (folded : Bool) (pattern : String)
  | regex (r : Regex)
  | ofKind (letters : List Char)
  | empty
  | size (unit : Nat) (m : Measure)
  | newer (path : String)
  | age (unit : Nat) (m : Measure)
  | allows (kind : Char) (bits : Nat)
  | links (m : Measure)
  | owner (name : String)
  | samefile (path : String)
  | access (letter : Char)
  | print (stop : String)
  | format (text : String)
  | list
  | delete
  | prune
  | quit
  | start (inDir : Bool) (words : List String)
  | collect (number : Nat) (inDir : Bool) (words : List String)

namespace Quest

/-- Whether an expression does something, so that nothing is printed of itself. -/
def acts : Quest → Bool
  | not q => q.acts
  | and a b => a.acts || b.acts
  | or a b => a.acts || b.acts
  | comma a b => a.acts || b.acts
  | print _ => true
  | format _ => true
  | list => true
  | delete => true
  | quit => true
  | start _ _ => true
  | collect _ _ _ => true
  | _ => false

/-- The commands that are run on all files together. -/
def collectors : Quest → List (Nat × List String)
  | not q => q.collectors
  | and a b => a.collectors ++ b.collectors
  | or a b => a.collectors ++ b.collectors
  | comma a b => a.collectors ++ b.collectors
  | collect n _ words => [(n, words)]
  | _ => []

/-- Whether an expression deletes, so that what a directory holds comes before it. -/
def deletes : Quest → Bool
  | not q => q.deletes
  | and a b => a.deletes || b.deletes
  | or a b => a.deletes || b.deletes
  | comma a b => a.deletes || b.deletes
  | delete => true
  | _ => false

/-! ## §2 Reading -/

/-- How deep the walk goes. -/
structure Depths where
  least : Nat := 0
  most : Nat := 100000
  childrenFirst : Bool := false

/-- A number with a sign. -/
def readMeasure (text : String) : Option (Measure × List Char) :=
  let (sign, rest) :=
    match text.toList with
    | '+' :: r => ('+', r)
    | '-' :: r => ('-', r)
    | r => (' ', r)
  let digits := rest.takeWhile Char.isDigit
  match (String.ofList digits).toNat? with
  | none => none
  | some n =>
    some (if sign = '+' then .more n else if sign = '-' then .less n else .exactly n,
      rest.drop digits.length)

/-- A size with its unit. -/
def readSize (text : String) : Option Quest :=
  match readMeasure text with
  | some (m, []) => some (.size 512 m)
  | some (m, [c]) =>
    ([('c', 1), ('w', 2), ('b', 512), ('k', 1024), ('M', 1048576), ('G', 1073741824)].lookup c).map
      fun unit => .size unit m
  | _ => none

/-- Permissions to look for. -/
def readPermissions (text : String) : Option Quest :=
  let (kind, rest) :=
    match text.toList with
    | '-' :: r => ('-', r)
    | '/' :: r => ('/', r)
    | r => ('=', r)
  (Mode.read false 0 0 (String.ofList rest)).map (.allows kind)

/-- The words of a command up to the one that ends it, whether it takes all files
together, and what follows. -/
def readCommand : List String → List String → Option (List String × Bool × List String)
  | acc, ";" :: rest => some (acc.reverse, false, rest)
  | acc, "\x7b\x7d" :: "+" :: rest => some (acc.reverse, true, rest)
  | acc, word :: rest => readCommand (word :: acc) rest
  | _, [] => none

/-- What has been read of an expression: how deep to go, the quest, what follows. -/
abbrev Reading := Except String (Depths × Quest × List String)

/-- A question of one word. -/
def plainQuest? (word : String) : Option Quest :=
  [("-true", always true), ("-false", always false), ("-empty", empty), ("-print", print "\n"),
    ("-print0", print "\x00"), ("-ls", list), ("-delete", delete), ("-prune", prune),
    ("-quit", quit), ("-readable", access 'r'), ("-writable", access 'w'),
    ("-executable", access 'x'), ("-nouser", always false), ("-nogroup", always false),
    ("-depth", always true), ("-d", always true), ("-xdev", always true), ("-mount", always true),
    ("-follow", always true), ("-daystart", always true), ("-noleaf", always true)].lookup word

/-- A question with a value. -/
def valueQuest? (word value : String) : Option (Except String Quest) :=
  let measured (f : Measure → Quest) : Except String Quest :=
    match readMeasure value with
    | some (m, []) => .ok (f m)
    | _ => .error ("non-numeric argument to " ++ word ++ ": " ++ Quotes.plain value)
  match word with
  | "-name" => some (.ok (.called false value))
  | "-iname" => some (.ok (.called true value))
  | "-path" => some (.ok (.placed false value))
  | "-wholename" => some (.ok (.placed false value))
  | "-ipath" => some (.ok (.placed true value))
  | "-regex" =>
    some (match Regex.parse false value.toList with
      | .ok (r, _) => .ok (.regex r)
      | .error e => .error e)
  | "-type" =>
    let letters := value.toList.filter (· != ',')
    some (if letters.isEmpty || !letters.all ['b', 'c', 'd', 'p', 'f', 'l', 's'].contains then
        .error ("Unknown argument to -type: " ++ value)
      else .ok (.ofKind letters))
  | "-size" =>
    some (match readSize value with
      | some q => .ok q
      | none => .error ("Invalid argument " ++ Quotes.plain value ++ " to -size"))
  | "-newer" => some (.ok (.newer value))
  | "-anewer" => some (.ok (.newer value))
  | "-mtime" => some (measured (.age 86400000))
  | "-mmin" => some (measured (.age 60000))
  | "-perm" =>
    some (match readPermissions value with
      | some q => .ok q
      | none => .error ("invalid mode " ++ Quotes.plain value))
  | "-links" => some (measured .links)
  | "-user" => some (.ok (.owner value))
  | "-group" => some (.ok (.owner value))
  | "-uid" => some (.ok (.owner value))
  | "-gid" => some (.ok (.owner value))
  | "-samefile" => some (.ok (.samefile value))
  | "-printf" => some (.ok (.format value))
  | _ => none

mutual

/-- An expression of lists joined by commas. -/
def readList : Nat → Depths → List String → Reading
  | 0, _, _ => .error "expression too deep"
  | fuel + 1, depths, words =>
    match readOr fuel depths words with
    | .error e => .error e
    | .ok (depths, a, "," :: rest) =>
      (readList fuel depths rest).map fun (depths, b, left) => (depths, .comma a b, left)
    | .ok other => .ok other

/-- An expression of parts of which one has to hold. -/
def readOr : Nat → Depths → List String → Reading
  | 0, _, _ => .error "expression too deep"
  | fuel + 1, depths, words =>
    match readAnd fuel depths words with
    | .error e => .error e
    | .ok (depths, a, word :: rest) =>
      if word = "-o" || word = "-or" then
        (readOr fuel depths rest).map fun (depths, b, left) => (depths, .or a b, left)
      else .ok (depths, a, word :: rest)
    | .ok other => .ok other

/-- An expression of parts that all have to hold. -/
def readAnd : Nat → Depths → List String → Reading
  | 0, _, _ => .error "expression too deep"
  | fuel + 1, depths, words =>
    match readOne fuel depths words with
    | .error e => .error e
    | .ok (depths, a, []) => .ok (depths, a, [])
    | .ok (depths, a, word :: rest) =>
      if ["-o", "-or", ",", ")"].contains word then .ok (depths, a, word :: rest)
      else
        let rest := if word = "-a" || word = "-and" then rest else word :: rest
        (readAnd fuel depths rest).map fun (depths, b, left) => (depths, .and a b, left)

/-- One part of an expression. -/
def readOne : Nat → Depths → List String → Reading
  | 0, _, _ => .error "expression too deep"
  | _ + 1, _, [] => .error "expected an expression"
  | fuel + 1, depths, word :: rest =>
    if word = "!" || word = "-not" then
      (readOne fuel depths rest).map fun (depths, q, left) => (depths, .not q, left)
    else if word = "(" then
      match readList fuel depths rest with
      | .ok (depths, q, ")" :: left) => .ok (depths, q, left)
      | .ok _ => .error "invalid expression; I was expecting to find a ')' somewhere but did not see one."
      | .error e => .error e
    else if word = "-exec" || word = "-execdir" || word = "-ok" then
      match readCommand [] rest with
      | some (words, false, left) =>
        .ok (depths, .start (word == "-execdir") words, left)
      | some (words, true, left) =>
        .ok (depths, .collect left.length (word == "-execdir") words, left)
      | none => .error ("missing argument to " ++ Quotes.plain word)
    else
      match plainQuest? word with
      | some q =>
        .ok ({ depths with
          childrenFirst := depths.childrenFirst || word == "-depth" || word == "-d" }, q, rest)
      | none =>
        match rest with
        | value :: left =>
          if word = "-maxdepth" || word = "-mindepth" then
            match value.toNat? with
            | some n =>
              .ok (if word = "-maxdepth" then { depths with most := n } else { depths with least := n },
                .always true, left)
            | none =>
              .error ("Expected a positive decimal integer argument to " ++ word ++ ", but got " ++
                Quotes.plain value)
          else
            match valueQuest? word value with
            | some (.ok q) => .ok (depths, q, left)
            | some (.error e) => .error e
            | none => .error ("unknown predicate " ++ Quotes.plain word)
        | [] =>
          if (valueQuest? word "").isSome || word = "-maxdepth" || word = "-mindepth" then
            .error ("missing argument to " ++ Quotes.plain word)
          else .error ("unknown predicate " ++ Quotes.plain word)

end

/-- The expression that words make. -/
def read (words : List String) : Except String (Depths × Quest) :=
  if words.isEmpty then .ok ({}, .print "\n")
  else
    match readList (words.length * 5 + 8) {} words with
    | .error e => .error e
    | .ok (depths, q, []) =>
      let depths := if q.deletes then { depths with childrenFirst := true } else depths
      .ok (depths, if q.acts then q else .and q (.print "\n"))
    | .ok (_, _, word :: _) =>
      .error (if word = ")" then "invalid expression; you have too many ')'"
        else "paths must precede expression: " ++ Quotes.always word)

/-! ## §3 Meeting -/

/-- A file that the walk has come to. -/
structure Met where
  path : String
  start : String
  depth : Nat
  location : Location
  entry : Entry

/-- What the walk has found out. -/
structure Walk where
  /-- do not go into what was met -/
  pruned : Bool := false
  stopped : Bool := false
  code : Nat := 0
  /-- what is gathered for the commands that take all files together -/
  gathered : List (Nat × String) := []

/-- The description of a file in a format with escapes. -/
def Met.describe (m : Met) (d : Disk) : Nat → List Char → String
  | 0, _ => ""
  | _ + 1, [] => ""
  | fuel + 1, '\\' :: rest =>
    let (c, left) : Char × List Char :=
      match rest with
      | '0' :: r => ('\x00', r)
      | 'n' :: r => ('\n', r)
      | 't' :: r => ('\t', r)
      | 'c' :: _ => ('\x00', [])
      | c :: r => (c, r)
      | [] => ('\\', [])
    (if rest.head? == some 'c' then "" else String.singleton c) ++ m.describe d fuel left
  | fuel + 1, '%' :: rest =>
    let flags := rest.takeWhile fun c => c == '-' || c.isDigit
    match rest.drop flags.length with
    | [] => "%"
    | c :: left =>
      let inside := if m.depth = 0 then "" else (m.path.drop (m.start.length +
        (if m.start.endsWith "/" then 0 else 1))).toString
      let (text, left) : String × List Char :=
        match c with
        | 'p' => (m.path, left)
        | 'f' => (lastPiece m.path, left)
        | 'h' => (directoryPart m.path, left)
        | 'P' => (inside, left)
        | 'H' => (m.start, left)
        | 'd' => (toString m.depth, left)
        | 'm' => (inBase 8 (d.modeOf m.entry), left)
        | 'M' => (entryMode d m.entry, left)
        | 'y' => (match kindLetter m.entry with
          | '-' => "f"
          | c => String.singleton c, left)
        | 'l' => (match m.entry with
          | .link target => target
          | _ => "", left)
        | 'u' => ("root", left)
        | 'g' => ("root", left)
        | 'U' => ("0", left)
        | 'G' => ("0", left)
        | 'T' => (Utility.describe d m.path m.location m.entry 'Y', left.drop 1)
        | '%' => ("%", left)
        | c => (Utility.describe d m.path m.location m.entry
            (match c with
              | 'n' => 'h'
              | c => c), left)
      let width := ((String.ofList (flags.filter Char.isDigit)).toNat?).getD 0
      (if flags.contains '-' then padRight width text else padLeft width text) ++
        m.describe d fuel left
  | fuel + 1, c :: rest => String.singleton c ++ m.describe d fuel rest

/-- Whether a text has the form of a pattern. -/
def fitsPattern (folded : Bool) (pattern text : String) : Bool :=
  let fold (s : String) : String := if folded then s.map Char.toLower else s
  (Shell.Pattern.ofText (fold pattern)).test (fold text).toList

/-- Runs a command, and gives its exit code. -/
def runCommand (call : Call) (dir? : Option String) (words : List String) : Task Nat := do
  let cwd := (← get).self.cwd
  let ending ← Task.child do
    match dir? with
    | some dir =>
      match ← Task.entryAt dir false with
      | some (l, _) => Task.modifySelf fun p => { p with cwd := l }
      | none => pure ()
    | none => Task.modifySelf fun p => { p with cwd }
    match ← execute call words call.vars with
    | .ok code => return code
    | .error fault => call.fail (Quotes.plain (words.headD "") ++ ": " ++ fault.reason)
  return ending.status

/-- Whether a directory or a file is empty. -/
def isEmptyEntry (d : Disk) (l : Location) (e : Entry) : Bool :=
  match e with
  | .dir _ _ => (d.children l).isEmpty
  | .file id => (d.bytesOf id).size = 0
  | _ => false

/-- Asks an expression about a file, and does what it says. -/
def meet (call : Call) (m : Met) : Quest → Walk → Task (Bool × Walk)
  | .always answer, w => return (answer, w)
  | .not q, w => do
    let (answer, w) ← meet call m q w
    return (!answer, w)
  | .and a b, w => do
    let (answer, w) ← meet call m a w
    if answer && !w.stopped then meet call m b w else return (answer, w)
  | .or a b, w => do
    let (answer, w) ← meet call m a w
    if answer || w.stopped then return (answer, w) else meet call m b w
  | .comma a b, w => do
    let (_, w) ← meet call m a w
    if w.stopped then return (true, w) else meet call m b w
  | .called folded pattern, w => return (fitsPattern folded pattern (lastPiece m.path), w)
  | .placed folded pattern, w => return (fitsPattern folded pattern m.path, w)
  | .regex r, w => do
    let found := Regex.fitAt { chars := m.path.toList.toArray } (.seq r .finish) 0
    return (found.isSome, w)
  | .ofKind letters, w =>
    return (letters.contains (match kindLetter m.entry with
      | '-' => 'f'
      | c => c), w)
  | .empty, w => return (isEmptyEntry (← Task.disk) m.location m.entry, w)
  | .size unit measure, w => do
    let size := (← Task.disk).sizeOf m.entry
    return (measure.holds ((size + unit - 1) / unit), w)
  | .newer path, w => do
    let d ← Task.disk
    match ← Task.entryAt path false with
    | some (_, e) => return (d.timeOf e < d.timeOf m.entry, w)
    | none => return (false, w)
  | .age unit measure, w => do
    let d ← Task.disk
    return (measure.holds ((d.clock - d.timeOf m.entry) / unit), w)
  | .allows kind bits, w => do
    let mode := (← Task.disk).modeOf m.entry
    let answer :=
      if kind = '-' then mode &&& bits = bits
      else if kind = '/' then bits = 0 || mode &&& bits != 0
      else mode = bits
    return (answer, w)
  | .links measure, w => return (measure.holds (nameCount (← Task.disk) m.location m.entry), w)
  | .owner name, w => return (name == "root" || name == "0", w)
  | .samefile path, w => do
    match ← Task.entryAt path false with
    | some (l, e) =>
      return (l == m.location || (match e, m.entry with
        | .file i, .file j => i == j
        | _, _ => false), w)
    | none => return (false, w)
  | .access letter, w => do
    let mode := (← Task.disk).modeOf m.entry
    return (letter != 'x' || m.entry.isDir || mode &&& 0o111 != 0, w)
  | .print stop, w => do
    Task.say (m.path ++ stop)
    return (true, w)
  | .format text, w => do
    Task.say (m.describe (← Task.disk) (text.length + 1) text.toList)
    return (true, w)
  | .list, w => do
    let text := padLeft 9 (toString (entryNumber m.location m.entry)) ++ " " ++
      entryMode (← Task.disk) m.entry ++ " " ++ m.path ++ "\n"
    Task.say text
    return (true, w)
  | .delete, w => do
    if m.path = "." then return (true, w)
    else
      let result ← Task.change fun d cwd =>
        if m.entry.isDir then d.removeDir cwd m.path else d.unlink cwd m.path
      match result with
      | .ok () => return (true, w)
      | .error fault =>
        call.say ("cannot delete " ++ Quotes.always m.path ++ ": " ++ fault.reason)
        return (false, { w with code := 1 })
  | .prune, w => return (true, { w with pruned := true })
  | .quit, w => return (true, { w with stopped := true })
  | .start inDir words, w => do
    let name := if inDir then "./" ++ lastPiece m.path else m.path
    let dir? := if inDir then some (directoryPart m.path) else none
    let code ← runCommand call dir? (words.map (fillIn "\x7b\x7d" name))
    return (code = 0, w)
  | .collect number inDir _, w => do
    let name := if inDir then "./" ++ lastPiece m.path else m.path
    return (true, { w with gathered := (number, name) :: w.gathered })

/-! ## §4 Walking -/

/-- Walks through what a location holds. The first number bounds the depth. -/
def walk (call : Call) (depths : Depths) (q : Quest) (follows : Bool) :
    Nat → Met → Walk → Task Walk
  | 0, _, w => return w
  | fuel + 1, m, w => do
    if w.stopped then return w
    else
      let visit (w : Walk) : Task Walk := do
        if m.depth < depths.least then return w
        else return (← meet call m q w).2
      let w ← if depths.childrenFirst then pure w else visit { w with pruned := false }
      let enters := m.entry.isDir && m.depth < depths.most && !w.pruned && !w.stopped
      let mut w := { w with pruned := false }
      if enters then
        for (name, e) in (← Task.disk).children m.location do
          let path := Loading.inDirectory m.path (Raw.ofName name)
          let target ← if follows then Task.entryAt path false else pure none
          let (l, e) := target.getD (name :: m.location, e)
          w ← walk call depths q follows fuel ⟨path, m.start, m.depth + 1, l, e⟩ w
      if depths.childrenFirst && !w.stopped then visit w else return w

/-- Whether an argument of `find` is part of the expression. -/
def isExpressionWord (word : String) : Bool :=
  (word.startsWith "-" && word != "-") || word = "(" || word = ")" || word = "!" || word = ","

end Quest

def find : Utility := fun call => do
  let options := call.args.takeWhile fun a => ["-H", "-L", "-P"].contains a
  let args := call.args.drop options.length
  let paths := args.takeWhile fun a => !Quest.isExpressionWord a
  match Quest.read (args.drop paths.length) with
  | .error e => call.fail e
  | .ok (depths, q) =>
    let follows := options.getLast? == some "-L"
    let mut walk : Quest.Walk := {}
    for path in (if paths.isEmpty then ["."] else paths) do
      let w ← get
      match w.disk.find (!follows && options.getLast? != some "-H") w.self.cwd path with
      | .error fault =>
        call.say (Quotes.always path ++ ": " ++ fault.reason)
        walk := { walk with code := 1 }
      | .ok (l, e) =>
        walk ← Quest.walk call depths q follows LinkedTree.deepest ⟨path, path, 0, l, e⟩ walk
    let mut code := walk.code
    for (number, words) in q.collectors do
      let names := (walk.gathered.filterMap fun (n, name) => if n == number then some name else none)
      if !names.isEmpty then
        let status ← Quest.runCommand call none (words ++ names.reverse)
        if status != 0 then code := 1
    return code

end ReleaseKit.Utility
