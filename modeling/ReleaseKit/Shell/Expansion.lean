/-
ReleaseKit.Shell.Expansion — what words stand for.

A word is expanded into pieces: characters that remember whether they are quoted
and whether they came from an expansion, gaps between arguments, and marks of
empty quotes. The pieces are then split into fields, and a field that is a
pattern gives way to the paths that it stands for.

  §1 Pieces      — `Piece`, splitting into fields.
  §2 Paths       — the paths that a pattern stands for.
  §3 Parameters  — what a parameter holds, and what is wanted of it.
  §4 Words       — `expandParts`, `fieldsOf`, `textOfWord`, `patternOf`.
-/
import ReleaseKit.Shell.Arithmetic
import ReleaseKit.Shell.Braces
import ReleaseKit.Shell.Pattern
import ReleaseKit.Shell.State

namespace ReleaseKit.Shell

/-! ## §1 Pieces -/

/-- A piece of an expanded word. -/
inductive Piece where
  | char (c : Char) (quoted splits : Bool)
  /-- what stands before it and behind it are different fields -/
  | gap
  /-- there is a field here even if nothing else is -/
  | mark

/-- The pieces of a text. -/
def piecesOf (quoted splits : Bool) (text : String) : List Piece :=
  text.toList.map fun c => .char c quoted splits

/-- The pieces of an expansion: what is not quoted is split. -/
def expanded (quoted : Bool) (text : String) : List Piece := piecesOf quoted (!quoted) text

/-- Pieces as text, gaps as blanks. -/
def textOfPieces (pieces : List Piece) : String :=
  String.ofList (pieces.filterMap fun
    | .char c _ _ => some c
    | .gap => some ' '
    | .mark => none)

/-- The characters of pieces that are taken as one. -/
def markedOf (pieces : List Piece) : List Marked :=
  pieces.filterMap fun
    | .char c quoted _ => some (c, quoted)
    | .gap => some (' ', true)
    | .mark => none

/-- Fields as they are gathered. -/
structure Fields where
  /-- the last one first -/
  done : List (List Marked) := []
  /-- what has been gathered of a field, the last character first -/
  current : Option (List Marked) := none
  /-- the last field was ended by a blank -/
  blank : Bool := false

namespace Fields

def finish (f : Fields) : Fields :=
  match f.current with
  | some chars => { f with done := chars.reverse :: f.done, current := none }
  | none => f

/-- Takes a piece in; `ifs` is what separates fields. -/
def step (ifs : List Char) (f : Fields) : Piece → Fields
  | .mark => { f with current := some (f.current.getD []) }
  | .gap => { f.finish with blank := false }
  | .char c quoted splits =>
    if splits && ifs.contains c then
      if [' ', '\t', '\n'].contains c then
        if f.current.isSome then { f.finish with blank := true } else f
      else if f.current.isSome then { f.finish with blank := false }
      else if f.blank then { f with blank := false }
      else { f with done := [] :: f.done }
    else { f with current := some ((c, quoted) :: f.current.getD []), blank := false }

end Fields

/-- The fields that pieces make. -/
def splitFields (ifs : List Char) (pieces : List Piece) : List (List Marked) :=
  (pieces.foldl (Fields.step ifs) {}).finish.done.reverse

/-! ## §2 Paths -/

def plainOf (chars : List Marked) : String := String.ofList (chars.map (·.1))

/-- Whether characters make a pattern. -/
def isPattern (chars : List Marked) : Bool :=
  chars.any fun (c, quoted) => !quoted && (c == '*' || c == '?' || c == '[')

/-- Characters split at slashes. -/
def splitPath : List Marked → List (List Marked)
  | [] => [[]]
  | (c, quoted) :: rest =>
    if c = '/' then [] :: splitPath rest
    else
      match splitPath rest with
      | [] => [[(c, quoted)]]
      | first :: others => ((c, quoted) :: first) :: others

/-- The paths that start with a path and go on as patterns say. Where a caret
negates, a pattern never stands for the directory itself or the one above. -/
def matchPath (caret : Bool) (d : Disk) (cwd : Location) (start : String) :
    List (List Marked) → List String
  | [] => []
  | [piece] =>
    if isPattern piece then (candidates piece).map (start ++ ·)
    else
      let path := start ++ plainOf piece
      if piece.isEmpty then (if d.isDirAt cwd start then [start] else [])
      else if (d.find true cwd path).toOption.isSome then [path] else []
  | piece :: rest =>
    if isPattern piece then
      (candidates piece).flatMap fun name => matchPath caret d cwd (start ++ name ++ "/") rest
    else matchPath caret d cwd (start ++ plainOf piece ++ "/") rest
where
  /-- the names in the directory that a pattern stands for -/
  candidates (piece : List Marked) : List String :=
    let pattern := Pattern.ofMarked caret piece
    let hidden := piece.head?.map (·.1) == some '.'
    match d.find false cwd (if start = "" then "." else start) with
    | .ok (l, .dir _ _) =>
      let names := (d.children l).map fun (name, _) => Raw.ofName name
      ((if hidden && !caret then [".", ".."] else []) ++ names).filter fun name =>
        (hidden || !name.startsWith ".") && pattern.test name.toList
    | _ => []

/-- The texts that a field stands for: the paths that it is a pattern of, or
itself. -/
def pathsOf (field : List Marked) : Work (List String) := do
  let s ← get
  if isPattern field && !s.options.contains "noglob" then
    let found := matchPath (s.dialect == .bash) s.world.disk s.world.self.cwd "" (splitPath field)
    if found.isEmpty then return (if s.options.contains "nullglob" then [] else [plainOf field])
    else return found
  else return [plainOf field]

/-! ## §3 Parameters -/

/-- How scripts inside words are run. -/
structure Engine where
  /-- what a script prints -/
  capture : Command → Work String
  /-- a file that holds what a script prints, or takes what it reads -/
  connect : Bool → Command → Work String

/-- What a parameter holds. -/
inductive Held where
  | one (value : Option String)
  /-- several texts; `joined` says that quotes make one of them -/
  | many (items : List String) (joined : Bool)

/-- What separates fields, and what joins them. -/
def separators : Work (List Char) := do
  let s ← get
  match (s.bound? "IFS").bind (·.value) with
  | some v => return (v.scalar.getD "").toList
  | none => return [' ', '\t', '\n']

/-- Pieces of several texts. -/
def manyPieces (quoted joined : Bool) (items : List String) : Work (List Piece) := do
  if quoted && joined then
    let glue := (← separators).take 1
    return expanded true (String.intercalate (String.ofList glue) items)
  else
    let one (text : String) : List Piece :=
      (if quoted then [.mark] else []) ++ expanded quoted text
    return (items.map one).intersperse [.gap] |>.flatten

/-- The home of a user. -/
def homeOf (user : String) : Work (Option String) := do
  let s ← get
  if user = "" then
    match text? s "HOME" with
    | some home => return some home
    | none => return if s.dialect = .bash then some "/root" else none
  else if user = "root" then return some "/root"
  else if user = "+" && s.dialect = .bash then return text? s "PWD"
  else if user = "-" && s.dialect = .bash then return text? s "OLDPWD"
  else return none

/-- The pieces of a text that may start with a tilde; `last` says that the text
is not followed by anything that could belong to the name of a user. -/
def tildePieces (splits last : Bool) (text : String) : Work (List Piece) := do
  match text.toList with
  | '~' :: rest =>
    let user := rest.takeWhile (· != '/')
    if user.length = rest.length && !last then return piecesOf false splits text
    else
      match ← homeOf (String.ofList user) with
      | some home =>
        return .mark :: piecesOf true false home ++
          piecesOf false splits (String.ofList (rest.drop user.length))
      | none => return piecesOf false splits text
  | _ => return piecesOf false splits text

/-- The pieces of a text of an assignment, where a tilde may follow a colon. -/
def tildesPieces (start last : Bool) (text : String) : Work (List Piece) := do
  let texts := text.splitOn ":"
  let mut pieces : List Piece := []
  let mut index := 0
  for t in texts do
    let isLast := index + 1 = texts.length
    let here ←
      if start || 0 < index then tildePieces false (last || !isLast) t
      else pure (piecesOf false false t)
    pieces := pieces ++ (if index = 0 then [] else piecesOf false false ":") ++ here
    index := index + 1
  return pieces

/-- A text with its letters changed. -/
def recase (upper all : Bool) (text : String) : String :=
  let change (c : Char) : Char := if upper then c.toUpper else c.toLower
  if all then String.ofList (text.toList.map change)
  else
    match text.toList with
    | c :: rest => String.ofList (change c :: rest)
    | [] => text

/-- A text in quotes as the larger shell writes it. -/
def bashQuoted (text : String) : String :=
  if text.toList.any fun c => !Quotes.isShown c then
    "$'" ++ String.ofList (text.toList.flatMap fun c =>
      if c = '\x27' then ['\\', '\x27'] else if c = '\\' then ['\\', '\\']
      else if Quotes.isShown c then [c] else Quotes.escape c) ++ "'"
  else "'" ++ String.ofList (text.toList.flatMap fun c =>
    if c = '\x27' then ['\x27', '\\', '\x27', '\x27'] else [c]) ++ "'"

/-- The items of a list from an offset on. -/
def sliceOf {α : Type} (offset : Int) (count : Option Int) (list : List α) : List α :=
  let start := if offset < 0 then (list.length : Int) + offset else offset
  if start < 0 then []
  else
    let rest := list.drop start.toNat
    match count with
    | none => rest
    | some n => if n < 0 then rest.take (rest.length - n.natAbs) else rest.take n.toNat

/-! ## §4 Words -/

/-- The value of an arithmetic expression. -/
def arithmetic (expression : String) : Work Int := do
  let s ← get
  let text (name : String) (index : Option Int) : String :=
    match index with
    | none => (text? s name).getD ""
    | some n =>
      match (s.bound? name).bind (·.value) with
      | some (.items list) => (list.lookup n).getD ""
      | some (.text t) => if n = 0 then t else ""
      | some (.table list) => (list.lookup (toString n)).getD ""
      | none => ""
  let (result, given) := Arithmetic.evaluate s.dialect text expression.toList
  for (name, index, n) in given do
    match index with
    | none => setText name (toString n)
    | some i => setElement name (.inl i) (toString n)
  match result with
  | .ok n => return n
  | .error fault => refuse (fault.message s.dialect expression)

/-- Refuses a parameter that has no value, if that is asked for. -/
def needSet (name : String) : Work Unit := do
  let s ← get
  if s.options.contains "nounset" then
    if s.dialect = .posix then refuse (name ++ ": parameter not set")
    else
      complain (name ++ ": unbound variable")
      throw (.exit 127)

/-- What is said of a parameter that has to have a value. -/
def absentMessage (dialect : Dialect) (colon : Bool) (word : String) : String :=
  if word != "" then word
  else if !colon then "parameter not set"
  else if dialect = .posix then "parameter not set or null"
  else "parameter null or not set"

mutual

/-- The pieces of parts. `quoted` says that they stand between double quotes,
`splits` that bare text comes from an expansion. -/
def expandParts (e : Engine) (quoted splits : Bool) : Nat → List Part → Work (List Piece)
  | 0, _ => throw (.killed Signal.segv)
  | fuel + 1, parts => do
    let mut pieces : Array (List Piece) := #[]
    let mut first := true
    let mut left := parts.length
    for part in parts do
      left := left - 1
      match part with
      | .bare text =>
        if first && !quoted then pieces := pieces.push (← tildePieces splits (left == 0) text)
        else pieces := pieces.push (piecesOf quoted splits text)
      | part => pieces := pieces.push (← expandPart e quoted fuel part)
      first := false
    return pieces.toList.flatten

/-- The pieces of a part. -/
def expandPart (e : Engine) (quoted : Bool) : Nat → Part → Work (List Piece)
  | 0, _ => throw (.killed Signal.segv)
  | fuel + 1, part => do
    match part with
    | .bare text => return piecesOf quoted false text
    | .quoted text => return .mark :: piecesOf true false text
    | .double parts =>
      let pieces ← expandParts e true false fuel parts
      let bare :=
        match parts with
        | [.value "@" none _] => true
        | [.value _ (some [.bare "@"]) _] => true
        | _ => false
      return if bare && pieces.isEmpty then [] else .mark :: pieces
    | .command body =>
      let text ← e.capture body
      return expanded quoted text
    | .process reads body => return piecesOf true false (← e.connect reads body)
    | .arithmetic parts =>
      let text := textOfPieces (← expandParts e true false fuel parts)
      return expanded quoted (toString (← arithmetic text))
    | .value name index use => expandUse e quoted fuel name (← heldBy e fuel name index) index use

/-- What a parameter, or an item of it, holds. -/
def heldBy (e : Engine) : Nat → String → Option (List Part) → Work Held
  | 0, _, _ => throw (.killed Signal.segv)
  | fuel + 1, name, index => do
    let s ← get
    if name = "@" then return .many s.args false
    else if name = "*" then return .many s.args true
    else
      match index with
      | none => return .one (text? s name)
      | some parts =>
        let value :=
          if name = "PIPESTATUS" then
            some (.items (s.statuses.zipIdx.map fun (n, i) => ((i : Int), toString n)))
          else (s.bound? name).bind (·.value)
        let items : List String := ((value.map Value.pairs).getD []).map (·.2)
        match parts with
        | [.bare "@"] => return .many items false
        | [.bare "*"] => return .many items true
        | _ =>
          let key := textOfPieces (← expandParts e true false fuel parts)
          match value with
          | some (.table list) => return .one (list.lookup key)
          | some (.items list) =>
            let n ← arithmetic key
            let last := (list.getLast?.map (·.1)).getD (-1)
            return .one (list.lookup (if n < 0 then last + 1 + n else n))
          | some (.text t) =>
            let n ← arithmetic key
            return .one (if n = 0 || n = -1 then some t else none)
          | none => return .one none

/-- What is wanted of a parameter. -/
def expandUse (e : Engine) (quoted : Bool) :
    Nat → String → Held → Option (List Part) → Use → Work (List Piece)
  | 0, _, _, _, _ => throw (.killed Signal.segv)
  | fuel + 1, name, held, index, use => do
    let s ← get
    -- a change to each of the texts that are held
    let each (change : String → Work String) : Work (List Piece) := do
      match held with
      | .one none =>
        needSet name
        return expanded quoted (← change "")
      | .one (some text) => return expanded quoted (← change text)
      | .many items joined => manyPieces quoted joined (← items.mapM change)
    let pattern (parts : List Part) : Work Pattern := do
      let pieces ← expandParts e false false fuel parts
      return Pattern.ofMarked (s.dialect == .bash) (markedOf pieces)
    match use with
    | .plain => each pure
    | .length =>
      match held with
      | .one none =>
        needSet name
        return expanded quoted "0"
      | .one (some text) => return expanded quoted (toString text.length)
      | .many items _ =>
        return expanded quoted (toString (if s.dialect = .posix then
          (String.intercalate " " items).length else items.length))
    | .fallback colon kind word =>
      let missing : Bool :=
        match held with
        | .one none => true
        | .one (some text) => colon && text == ""
        | .many items _ =>
          (items.isEmpty && (colon || s.dialect == .bash)) || (colon && items == [""])
      let use : Work (List Piece) := expandParts e quoted (!quoted) fuel word
      match kind with
      | .replace => if missing then return [] else use
      | .use => if missing then use else each pure
      | .assign =>
        if missing then
          let text := textOfPieces (← expandParts e quoted false fuel word)
          match index with
          | none => setText name text
          | some parts =>
            let key := textOfPieces (← expandParts e true false fuel parts)
            setElement name (.inl (← arithmetic key)) text
          return expanded quoted text
        else each pure
      | .refuse =>
        if missing then
          let text := textOfPieces (← expandParts e quoted false fuel word)
          complain (name ++ ": " ++ absentMessage s.dialect colon text)
          throw (.exit (if s.dialect = .posix then 2 else 127))
        else each pure
    | .trim atEnd longest word =>
      let p ← pattern word
      each fun text => pure (String.ofList (if atEnd then p.cutEnd longest text.toList
        else p.cutStart longest text.toList))
    | .slice offset count =>
      let number (parts : List Part) : Work Int := do
        arithmetic (textOfPieces (← expandParts e true false fuel parts))
      let start ← number offset
      let count ← match count with
        | none => pure none
        | some parts => do pure (some (← number parts))
      match held with
      | .many items joined =>
        let items :=
          if index.isNone && start = 0 then s.name :: items
          else if index.isNone then "" :: items else items
        manyPieces quoted joined (sliceOf start count items)
      | _ => each fun text => pure (String.ofList (sliceOf start count text.toList))
    | .replace scope word replacement =>
      let p ← pattern word
      let new := (textOfPieces (← expandParts e true false fuel replacement)).toList
      each fun text =>
        let chars := text.toList
        pure (String.ofList (match scope with
          | .first => p.substitute new false (chars.length + 1) chars
          | .all => p.substitute new true (chars.length + 1) chars
          | .start => Pattern.substituteAt false p new chars
          | .finish => Pattern.substituteAt true p new chars))
    | .recase upper all => each fun text => pure (recase upper all text)
    | .indirect inner =>
      let target :=
        match held with
        | .one value => value.getD ""
        | .many items _ => items.headD ""
      expandUse e quoted fuel target (← heldBy e fuel target none) none inner
    | .names =>
      let names := (s.vars.filter fun (other, v) => v.value.isSome && other.startsWith name).map (·.1)
      manyPieces quoted false (names.mergeSort fun a b => a ≤ b)
    | .keys =>
      let value := (s.bound? name).bind (·.value)
      manyPieces quoted false (((value.map Value.pairs).getD []).map (·.1))
    | .transform letter =>
      each fun text => pure (match letter with
        | 'Q' => bashQuoted text
        | 'U' => recase true true text
        | 'u' => recase true false text
        | 'L' => recase false true text
        | _ => text)
    | .bad text =>
      refuse (if s.dialect = .posix then "Bad substitution"
        else "$\x7b" ++ text ++ "\x7d: bad substitution")

end

/-- How deep words may nest. -/
def wordDepth : Nat := 400

/-- The text of a word that is not split. -/
def textOfWord (e : Engine) (word : List Part) : Work String := do
  return textOfPieces (← expandParts e false false wordDepth word)

/-- The text of a word that is the value of a variable. -/
def textOfValue (e : Engine) (word : List Part) : Work String := do
  let mut pieces : Array (List Piece) := #[]
  let mut first := true
  let mut left := word.length
  for part in word do
    left := left - 1
    match part with
    | .bare text => pieces := pieces.push (← tildesPieces first (left == 0) text)
    | part => pieces := pieces.push (← expandPart e false wordDepth part)
    first := false
  return textOfPieces pieces.toList.flatten

/-- The text of the body of a here document. -/
def textOfDocument (e : Engine) (body : List Part) : Work String := do
  return textOfPieces (← expandParts e true false wordDepth body)

/-- The pattern that a word is. -/
def patternOf (e : Engine) (word : List Part) : Work Pattern := do
  let pieces ← expandParts e false false wordDepth word
  return Pattern.ofMarked (← isBash) (markedOf pieces)

/-- The fields that a word stands for. -/
def fieldsOf (e : Engine) (word : List Part) : Work (List String) := do
  let pieces ← expandParts e false false wordDepth word
  let fields := splitFields (← separators) pieces
  return (← fields.mapM pathsOf).flatten

/-- The fields that words stand for. -/
def fieldsOfWords (e : Engine) (words : List (List Part)) : Work (List String) := do
  let words := if ← hasOption "braceexpand" then words.flatMap Braces.expand else words
  return (← words.mapM (fieldsOf e)).flatten

end ReleaseKit.Shell
