/-
ReleaseKit.Utility.Listing — programs that tell what is there.

  §1 Descriptions  — the marks of an entry, `stat`.
  §2 Directories   — `ls`.
-/
import ReleaseKit.Machine.Mode
import ReleaseKit.Utility.Files

namespace ReleaseKit.Utility

/-! ## §1 Descriptions -/

/-- The letter of a kind of entry. -/
def kindLetter : Entry → Char
  | .dir _ _ => 'd'
  | .file _ => '-'
  | .link _ => 'l'
  | .program _ => '-'
  | .device _ => 'c'

/-- The name of a kind of entry. -/
def kindName (d : Disk) : Entry → String
  | .dir _ _ => "directory"
  | .file id => if (d.bytesOf id).size = 0 then "regular empty file" else "regular file"
  | .link _ => "symbolic link"
  | .program _ => "regular file"
  | .device _ => "character special file"

/-- The permissions of an entry in letters, its kind first. -/
def entryMode (d : Disk) (e : Entry) : String :=
  String.singleton (kindLetter e) ++ Mode.shown (d.modeOf e)

/-- How many names an entry has. -/
def nameCount (d : Disk) (l : Location) (e : Entry) : Nat :=
  match e with
  | .file _ => (d.entries.toList.filter fun (_, f) => f == e).length
  | .dir _ _ => 2 + ((d.children l).filter fun (_, f) => f.isDir).length
  | _ => 1

/-- A number that stands for an entry. -/
def entryNumber (l : Location) (e : Entry) : Nat :=
  match e with
  | .file id => 1000 + id
  | _ => 500000 + (Disk.pathOf l).length * 1000 + (hash (Disk.pathOf l)).toNat % 1000

/-- How many blocks an entry takes. -/
def blockCount (d : Disk) (e : Entry) : Nat :=
  match e with
  | .link _ => 0
  | e => (d.sizeOf e + 4095) / 4096 * 8

/-- What a letter behind a percent sign stands for in a description. -/
def describe (d : Disk) (path : String) (l : Location) (e : Entry) (c : Char) : String :=
  let seconds := d.timeOf e / 1000
  match c with
  | 'n' => path
  | 'N' =>
    match e with
    | .link target => Quotes.always path ++ " -> " ++ Quotes.always target
    | _ => Quotes.always path
  | 's' => toString (d.sizeOf e)
  | 'a' => inBase 8 (d.modeOf e)
  | 'A' => entryMode d e
  | 'f' =>
    let kind := match e with
      | .dir _ _ => 0o040000
      | .link _ => 0o120000
      | .device _ => 0o020000
      | _ => 0o100000
    inBase 16 (kind + d.modeOf e)
  | 'F' => kindName d e
  | 'h' => toString (nameCount d l e)
  | 'i' => toString (entryNumber l e)
  | 'b' => toString (blockCount d e)
  | 'B' => "512"
  | 'o' => "4096"
  | 'd' => "64"
  | 'u' => "0"
  | 'g' => "0"
  | 'U' => "root"
  | 'G' => "root"
  | 'y' => Moment.format seconds "%F %T.000000000 +0000".toList
  | 'z' => Moment.format seconds "%F %T.000000000 +0000".toList
  | 'x' => Moment.format seconds "%F %T.000000000 +0000".toList
  | 'w' => "-"
  | 'W' => "0"
  | '%' => "%"
  | c => if ['X', 'Y', 'Z'].contains c then toString seconds else "?"

/-- A description as a format says: letters behind percent signs with a width
between. -/
def fillFormat (piece : Char → String) : Nat → List Char → String
  | 0, _ => ""
  | _ + 1, [] => ""
  | fuel + 1, '%' :: rest =>
    let flags := rest.takeWhile fun c => ['-', '0', '+', ' ', '#'].contains c
    let rest := rest.drop flags.length
    let width := rest.takeWhile Char.isDigit
    match rest.drop width.length with
    | [] => "%"
    | c :: more =>
      let text := if c = '%' then "%" else piece c
      let wide := ((String.ofList width).toNat?).getD 0
      let padded :=
        if flags.contains '-' then padRight wide text
        else if flags.contains '0' then
          String.ofList (List.replicate (wide - text.length) '0') ++ text
        else padLeft wide text
      padded ++ fillFormat piece fuel more
  | fuel + 1, c :: rest => String.singleton c ++ fillFormat piece fuel rest

def stat : Utility := fun call => call.withOptions "c:Lft\x01:" [("format", 'c'), ("printf", '\x01'),
    ("dereference", 'L'), ("file-system", 'f'), ("terse", 't')] 1 fun o => do
  if o.operands.isEmpty then call.usage "missing operand"
  else
    let mut code := 0
    for path in o.operands do
      let w ← get
      match w.disk.find (!o.has 'L') w.self.cwd path with
      | .error fault =>
        call.say ("cannot statx " ++ Quotes.always path ++ ": " ++ fault.reason)
        code := 1
      | .ok (l, e) =>
        let piece := describe w.disk path l e
        let text :=
          match o.value? '\x01', o.value? 'c' with
          | some format, _ =>
            let chars := (Printf.unescape .program format.toList).1
            fillFormat piece (chars.length + 1) chars
          | none, some format => fillFormat piece (format.length + 1) format.toList ++ "\n"
          | none, none =>
            let format := "  File: %n\n  Size: %-10s\tBlocks: %-10b IO Block: %-6o %F\n" ++
              "Device: 0,%d\tInode: %-10i  Links: %h\n" ++
              "Access: (0%a/%A)  Uid: (    0/    root)   Gid: (    0/    root)\n" ++
              "Access: %x\nModify: %y\nChange: %z\n Birth: %w\n"
            fillFormat piece (format.length + 1) format.toList
        Task.say text
    return code

/-! ## §2 Directories -/

/-- A size with a unit. -/
def humanSize (n : Nat) : String :=
  let rec go : Nat → Nat → List Char → String
    | 0, n, _ => toString n
    | _ + 1, n, [] => toString n
    | fuel + 1, n, unit :: units =>
      -- n counts tenths of the unit, rounded up
      if n < 100 then toString (n / 10) ++ "." ++ toString (n % 10) ++ String.singleton unit
      else if n < 10230 then toString ((n + 9) / 10) ++ String.singleton unit
      else go fuel ((n + 1023) / 1024) units
  if n < 1024 then toString n else go 8 ((n * 10 + 1023) / 1024) ['K', 'M', 'G', 'T', 'P']

/-- What is shown behind a name to tell its kind. -/
def kindMark (o : Options) (d : Disk) (e : Entry) : String :=
  let all := o.has 'F'
  match e with
  | .dir _ _ => if all || o.has 'p' then "/" else ""
  | .link _ => if all && !o.has 'l' then "@" else ""
  | .device _ => ""
  | e => if all && d.modeOf e &&& 0o111 != 0 then "*" else ""

/-- Something that is listed. -/
structure Listed where
  name : String
  location : Location
  entry : Entry

/-- The order in which things are listed. -/
def inOrder (o : Options) (d : Disk) (items : List Listed) : List Listed :=
  let byName (a b : Listed) : Bool := compareChars a.name.toList b.name.toList != .gt
  let extension (s : Listed) : String :=
    match (s.name.splitOn ".").reverse with
    | last :: _ :: _ => last
    | _ => ""
  let sorted :=
    if o.has 'U' || o.has 'f' then items
    else
      let named := items.mergeSort byName
      if o.has 'S' then named.mergeSort fun a b => d.sizeOf b.entry ≤ d.sizeOf a.entry
      else if o.has 't' then named.mergeSort fun a b => d.timeOf b.entry ≤ d.timeOf a.entry
      else if o.has 'X' then named.mergeSort fun a b => extension a ≤ extension b
      else if o.has 'v' then
        named.mergeSort fun a b =>
          let pieces (s : Listed) := versionPieces (s.name.length + 1) s.name.toList
          compareVersions (pieces a) (pieces b) != .gt
      else named
  if o.has 'r' then sorted.reverse else sorted

/-- The lines that show things. -/
def listLines (o : Options) (d : Disk) (now : Int) (items : List Listed) : String :=
  let name (s : Listed) : String :=
    let shown := if o.has 'Q' then "\"" ++ s.name ++ "\"" else s.name
    (if o.has 'i' then toString (entryNumber s.location s.entry) ++ " " else "") ++ shown ++
      kindMark o d s.entry
  if o.has 'l' || o.has 'n' || o.has 'g' || o.has 'o' then
    let size (s : Listed) : String :=
      if o.has 'h' then humanSize (d.sizeOf s.entry) else toString (d.sizeOf s.entry)
    let widest (texts : List String) : Nat := texts.foldl (fun n t => max n t.length) 0
    let counts := items.map fun s => toString (nameCount d s.location s.entry)
    let (countWidth, sizeWidth) := (widest counts, widest (items.map size))
    let owner := if o.has 'n' then "0" else "root"
    String.join (items.map fun s =>
      let seconds : Int := (d.timeOf s.entry / 1000 : Nat)
      let recent := now - 15778476 < seconds && seconds ≤ now + 1
      let time := Moment.format seconds (if recent then "%b %e %H:%M" else "%b %e  %Y").toList
      let target := match s.entry with
        | .link target => " -> " ++ target
        | _ => ""
      entryMode d s.entry ++ " " ++
        padLeft countWidth (toString (nameCount d s.location s.entry)) ++ " " ++
        (if o.has 'g' then "" else owner ++ " ") ++ (if o.has 'o' || o.has 'G' then "" else owner ++ " ") ++
        padLeft sizeWidth (size s) ++ " " ++ time ++ " " ++ name s ++ target ++ "\n")
  else if o.has 'm' then
    if items.isEmpty then "" else String.intercalate ", " (items.map name) ++ "\n"
  else String.join (items.map fun s => name s ++ "\n")

/-- What a directory holds, as far as it is shown. -/
def shownChildren (o : Options) (d : Disk) (l : Location) : List Listed :=
  let all := (d.children l).map fun (name, e) => (⟨Raw.ofName name, name :: l, e⟩ : Listed)
  let dots : List Listed :=
    if (o.has 'a' || o.has 'f') && !o.has 'A' then
      [⟨".", l, (d.entry? l).getD (.dir 0 0)⟩, ⟨"..", l.tail, (d.entry? l.tail).getD (.dir 0 0)⟩]
    else []
  dots ++ all.filter fun s =>
    (o.has 'a' || o.has 'A' || o.has 'f' || !s.name.startsWith ".") &&
      !(o.has 'B' && s.name.endsWith "~")

/-- Lists a directory, and with `R` all those in it. -/
def listDir (o : Options) (d : Disk) (now : Int) (titled : Bool) : Nat → Bool → String → Location → String
  | 0, _, _, _ => ""
  | fuel + 1, first, path, l =>
    let items := inOrder o d (shownChildren o d l)
    let total := (items.map fun s => blockCount d s.entry).foldl (· + ·) 0 / 2
    let isLong := o.has 'l' || o.has 'n' || o.has 'g' || o.has 'o' || o.has 's'
    let here := (if first then "" else "\n") ++ (if titled then path ++ ":\n" else "") ++
      (if isLong then "total " ++ (if o.has 'h' then humanSize (total * 1024) else toString total) ++
        "\n" else "") ++ listLines o d now items
    if o.has 'R' then
      items.foldl (fun text s =>
        if s.entry.isDir && s.name != "." && s.name != ".." then
          text ++ listDir o d now titled fuel false (Loading.inDirectory path s.name) s.location
        else text) here
    else here

def ls : Utility := fun call => call.withOptions "aAbBcCdfFgGhHiIklLmnNopqQrRsStuUvw:xXZ1\x01::\x02"
    [("all", 'a'), ("almost-all", 'A'), ("directory", 'd'), ("recursive", 'R'), ("reverse", 'r'),
    ("classify", 'F'), ("human-readable", 'h'), ("inode", 'i'), ("size", 's'), ("color", '\x01'),
    ("group-directories-first", '\x02'), ("quote-name", 'Q'), ("numeric-uid-gid", 'n'),
    ("ignore-backups", 'B'), ("dereference", 'L'), ("no-group", 'G')] 2 fun o => do
  let now ← Moment.now
  let d ← Task.disk
  let cwd := (← get).self.cwd
  let keepsLinks := (o.has 'l' || o.has 'd' || o.has 'F') && !(o.has 'L' || o.has 'H')
  let mut files := #[]
  let mut dirs := #[]
  let mut code := 0
  for path in (if o.operands.isEmpty then ["."] else o.operands) do
    let found : Except Fault (Location × Entry) :=
      match d.find keepsLinks cwd path with
      | .ok pair => .ok pair
      | .error fault => (d.find true cwd path).mapError fun _ => fault
    match found with
    | .error fault =>
      call.say ("cannot access " ++ Quotes.always path ++ ": " ++ fault.reason)
      code := 2
    | .ok (l, e) =>
      if e.isDir && !o.has 'd' then dirs := dirs.push (⟨path, l, e⟩ : Listed)
      else files := files.push (⟨path, l, e⟩ : Listed)
  let sortedFiles := inOrder o d files.toList
  let sortedDirs := inOrder o d dirs.toList
  let fileText := listLines o d now sortedFiles
  let titled := 1 < o.operands.length || o.has 'R'
  let dirText := (sortedDirs.zipIdx).foldl (fun text (s, i) =>
    text ++ listDir o d now titled LinkedTree.deepest (i = 0 && sortedFiles.isEmpty) s.name s.location) ""
  if fileText ++ dirText = "" then return code else emit call (fileText ++ dirText) code

end ReleaseKit.Utility
