/-
ReleaseKit.Utility.Comparing — programs that compare files.

  §1 Bytes    — `cmp`.
  §2 Changes  — what has to change in one list to make it another: `Diff.changes`.
  §3 Showing  — changes as `diff` shows them.
  §4 Trees    — `diff`.
-/
import ReleaseKit.Utility.Files

namespace ReleaseKit.Utility

/-! ## §1 Bytes -/

/-- The places where two texts differ, counted from one, with the characters there. -/
def differences : Nat → List Char → List Char → List (Nat × Char × Char)
  | n, a :: s, b :: t => if a = b then differences (n + 1) s t else (n, a, b) :: differences (n + 1) s t
  | _, _, _ => []

def cmp : Utility := fun call => call.withOptions "slbn:i:" [("silent", 's'), ("quiet", 's'),
    ("verbose", 'l'), ("print-bytes", 'b'), ("bytes", 'n'), ("ignore-initial", 'i')] 2 fun o => do
  match o.operands with
  | [] => call.usage "missing operand after 'cmp'" 2
  | first :: rest =>
    let second := rest.headD "-"
    match ← call.readFile first, ← call.readFile second with
    | .error fault, _ => call.fail (first ++ ": " ++ fault.reason) 2
    | _, .error fault => call.fail (second ++ ": " ++ fault.reason) 2
    | .ok s, .ok t =>
      let skip := ((o.value? 'i').bind size?).getD 0
      let limit (chars : List Char) : List Char :=
        match (o.value? 'n').bind size? with
        | some n => (chars.drop skip).take n
        | none => chars.drop skip
      let (a, b) := (limit s.toList, limit t.toList)
      let found := differences 1 a b
      let shorter := if a.length < b.length then first else second
      let common := min a.length b.length
      let eof : Task Nat := do
        if a.length = b.length then return 0
        else
          if !o.has 's' then
            let part := (if a.length < b.length then a else b)
            let lines := (part.filter (· == '\n')).length
            let place :=
              if common = 0 then " which is empty"
              else if o.has 'l' then " after byte " ++ toString common
              else if part.getLast? == some '\n' then
                " after byte " ++ toString common ++ ", line " ++ toString lines
              else " after byte " ++ toString common ++ ", in line " ++ toString (lines + 1)
            call.say ("EOF on " ++ shorter ++ place)
          return 1
      match found with
      | [] => eof
      | (n, c, d) :: _ =>
        if o.has 's' then return 1
        else if o.has 'l' then
          let width := (toString (max a.length b.length)).length
          let octal (c : Char) : String := padLeft 3 (inBase 8 c.toNat)
          Task.say (String.join (found.map fun (n, c, d) =>
            padLeft width (toString n) ++ " " ++ octal c ++ " " ++ octal d ++ "\n"))
          let _ ← eof
          return 1
        else
          let line := ((a.take (n - 1)).filter (· == '\n')).length + 1
          let octal (c : Char) : String := padLeft 3 (inBase 8 c.toNat)
          let bytes := if o.has 'b' then
            " is " ++ octal c ++ " " ++ String.singleton c ++ " " ++ octal d ++ " " ++
              String.singleton d else ""
          emit call (first ++ " " ++ second ++ " differ: " ++
            (if o.has 'b' then "byte " else "char ") ++ toString n ++
            ", line " ++ toString line ++ bytes ++ "\n") 1

namespace Diff

/-! ## §2 Changes -/

/-- A line of two files, as `diff` compares and shows it. -/
structure Line where
  key : String
  text : String

/-- The lengths of the longest common parts of all ends of two lists: a row for each end
of the first list, the whole list first. -/
def table (a b : Array String) : Array (Array Nat) :=
  let empty := Array.replicate (b.size + 1) 0
  let rows := a.toList.reverse.foldl (fun (rows : List (Array Nat)) x =>
    let below := rows.headD empty
    let row := (List.range b.size).reverse.foldl (fun (row : List Nat) j =>
      let right := row.headD 0
      let here :=
        if (b[j]?).getD "" = x then (below[j + 1]?).getD 0 + 1
        else max ((below[j]?).getD 0) right
      here :: row) [0]
    row.toArray :: rows) [empty]
  rows.toArray

/-- Which elements of two lists are not common to both, on the way that the table
shows. -/
def marks (a b : Array String) (t : Array (Array Nat)) : Nat → Nat → Nat → List Bool × List Bool
  | 0, _, _ => ([], [])
  | fuel + 1, i, j =>
    let best (i j : Nat) : Nat := (((t[i]?).getD #[])[j]?).getD 0
    match a[i]?, b[j]? with
    | none, none => ([], [])
    | some _, none =>
      let (s, u) := marks a b t fuel (i + 1) j
      (true :: s, u)
    | none, some _ =>
      let (s, u) := marks a b t fuel i (j + 1)
      (s, true :: u)
    | some x, some y =>
      if x = y then
        let (s, u) := marks a b t fuel (i + 1) (j + 1)
        (false :: s, false :: u)
      else if best i (j + 1) ≤ best (i + 1) j then
        let (s, u) := marks a b t fuel (i + 1) j
        (true :: s, u)
      else
        let (s, u) := marks a b t fuel i (j + 1)
        (s, true :: u)

/-- Marks with each run of marked elements moved down as far as it goes: if the first
of a run is as the one behind it, the run can stand one place further on. -/
def slide (keys : Array String) : Nat → Nat → Array Bool → Array Bool
  | 0, _, m => m
  | fuel + 1, i, m =>
    if m.size ≤ i then m
    else if !(m[i]?).getD false then slide keys fuel (i + 1) m
    else
      let count := ((m.toList.drop i).takeWhile (· == true)).length
      let next := i + count
      if next < m.size && keys[i]? == keys[next]? then
        slide keys fuel (i + 1) ((m.setIfInBounds i false).setIfInBounds next true)
      else slide keys fuel (next + 1) m

/-- A change: the lines from one place to another of the first list give way to lines
of the second. Places are counted from zero, and the second is behind the last. -/
structure Change where
  from1 : Nat
  to1 : Nat
  from2 : Nat
  to2 : Nat

/-- The changes that marks say. -/
def gather : Nat → Nat → Nat → List Bool → List Bool → List Change
  | 0, _, _, _, _ => []
  | fuel + 1, i, j, a, b =>
    let gone := (a.takeWhile (· == true)).length
    let new := (b.takeWhile (· == true)).length
    let rest := gather fuel (i + gone + 1) (j + new + 1) (a.drop (gone + 1)) (b.drop (new + 1))
    if a.isEmpty && b.isEmpty then []
    else if gone = 0 && new = 0 then rest
    else ⟨i, i + gone, j, j + new⟩ :: rest

/-- What has to change in one list to make it another. -/
def changes (a b : List String) : List Change :=
  let start := ((a.zip b).takeWhile fun (x, y) => x == y).length
  let (s, t) := (a.drop start, b.drop start)
  let stop := ((s.reverse.zip t.reverse).takeWhile fun (x, y) => x == y).length
  let (s, t) := ((s.take (s.length - stop)).toArray, (t.take (t.length - stop)).toArray)
  let (m, n) := marks s t (table s t) (s.size + t.size + 1) 0 0
  let around (middle : List Bool) : Array Bool :=
    (List.replicate start false ++ middle ++ List.replicate stop false).toArray
  let (p, q) := (around m, around n)
  let p := slide a.toArray (4 * p.size + 4) 0 p
  let q := slide b.toArray (4 * q.size + 4) 0 q
  gather (p.size + q.size + 1) 0 0 p.toList q.toList

/-! ## §3 Showing -/

/-- A line with a mark, and a note if no break ends it. -/
def marked (mark : String) (line : String) : String :=
  if line.endsWith "\n" then mark ++ line else mark ++ line ++ "\n\\ No newline at end of file\n"

/-- A range of lines, as it is shown. -/
def range (first last : Nat) : String :=
  if last ≤ first + 1 then toString last else toString (first + 1) ++ "," ++ toString last

/-- Changes one by one. -/
def plain (a b : Array String) (found : List Change) : String :=
  String.join (found.map fun c =>
    let gone := (a.extract c.from1 c.to1).toList
    let new := (b.extract c.from2 c.to2).toList
    let kind := if gone.isEmpty then "a" else if new.isEmpty then "d" else "c"
    let first := if gone.isEmpty then toString c.from1 else range c.from1 c.to1
    let second := if new.isEmpty then toString c.from2 else range c.from2 c.to2
    first ++ kind ++ second ++ "\n" ++ String.join (gone.map (marked "< ")) ++
      (if kind = "c" then "---\n" else "") ++ String.join (new.map (marked "> ")))

/-- Changes in groups that stand so close together that they share lines around. -/
def groups (around : Nat) : List Change → List (List Change)
  | [] => []
  | c :: rest =>
    match groups around rest with
    | (d :: group) :: more =>
      if d.from1 ≤ c.to1 + 2 * around then (c :: d :: group) :: more else [c] :: (d :: group) :: more
    | other => [c] :: other

/-- A range of lines in the unified form. -/
def unifiedRange (first last : Nat) : String :=
  if last = first then toString first ++ ",0"
  else if last = first + 1 then toString last
  else toString (first + 1) ++ "," ++ toString (last - first)

/-- The lines of a group of changes, from a place in the first list on. -/
def unifiedLines (a b : Array String) (stop : Nat) : Nat → List Change → String
  | place, [] => String.join ((a.extract place stop).toList.map (marked " "))
  | place, c :: rest =>
    String.join ((a.extract place c.from1).toList.map (marked " ")) ++
      String.join ((a.extract c.from1 c.to1).toList.map (marked "-")) ++
      String.join ((b.extract c.from2 c.to2).toList.map (marked "+")) ++
      unifiedLines a b stop c.to1 rest

/-- Changes with the lines around them. -/
def unified (around : Nat) (a b : Array String) (found : List Change) : String :=
  String.join ((groups around found).map fun group =>
    match group.head?, group.getLast? with
    | some c, some d =>
      let first := c.from1 - around
      let second := c.from2 - min around c.from1
      let last := min a.size (d.to1 + around)
      let last2 := d.to2 + (last - d.to1)
      "@@ -" ++ unifiedRange first last ++ " +" ++ unifiedRange second last2 ++ " @@\n" ++
        unifiedLines a b last first group
    | _, _ => "")

/-! ## §4 Trees -/

/-- What of a line is compared. -/
def key (o : Options) (line : String) : String :=
  let chars := line.toList
  let chars := if o.has 'w' then chars.filter fun c => !isGap c else chars
  let chars :=
    if o.has 'b' && !o.has 'w' then
      let words := (chars.splitBy fun a b => isGap a == isGap b).map fun w =>
        if (w.head?.map isGap).getD false then [' '] else w
      (if words.getLast? == some [' '] then words.dropLast else words).flatten
    else chars
  String.ofList (if o.has 'i' then chars.map Char.toLower else chars)

/-- Compares two files; the first text is shown before their changes. -/
def files (call : Call) (o : Options) (title first second : String) : Task Nat := do
  let read (path : String) : Task (Except Fault String) := do
    match ← call.readFile path with
    | .error .absent => return (if o.has 'N' then .ok "" else .error .absent)
    | other => return other
  match ← read first, ← read second with
  | .error fault, _ => call.fail (first ++ ": " ++ fault.reason) 2
  | _, .error fault => call.fail (second ++ ": " ++ fault.reason) 2
  | .ok s, .ok t =>
    if s = t then
      if o.has 's' then Task.say ("Files " ++ first ++ " and " ++ second ++ " are identical\n")
      return 0
    else if (s.toList.contains '\x00' || t.toList.contains '\x00') && !o.has 'a' then
      emit call ("Binary files " ++ first ++ " and " ++ second ++ " differ\n") 2
    else
      let (a, b) := (brokenLines s, brokenLines t)
      let found := changes (a.map (key o)) (b.map (key o))
      let found :=
        if o.has 'B' then
          found.filter fun c => !((a.drop c.from1).take (c.to1 - c.from1) ++
            (b.drop c.from2).take (c.to2 - c.from2)).all fun line => line == "\n"
        else found
      if found.isEmpty then return 0
      else if o.has 'q' then
        emit call ("Files " ++ first ++ " and " ++ second ++ " differ\n") 1
      else if o.has 'u' || o.has 'U' then
        let labels := o.given.filterMap fun (c, v) => if c == '\x01' then some v else none
        let around := ((o.value? 'U').bind String.toNat?).getD 3
        let now ← Moment.now
        let label (i : Nat) (path : String) : String :=
          (labels[i]?).getD
            (path ++ "\t" ++ Moment.format now "%F %T.000000000 +0000".toList)
        emit call (title ++ "--- " ++ label 0 first ++ "\n+++ " ++ label 1 second ++ "\n" ++
          unified around a.toArray b.toArray found) 1
      else emit call (title ++ plain a.toArray b.toArray found) 1

/-- The names in a directory. -/
def namesIn (path : String) : Task (List String) := do
  match ← Task.entryAt path false with
  | some (l, _) => return ((← Task.disk).children l).map fun (name, _) => Raw.ofName name
  | none => return []

/-- Compares two directories. -/
def trees (call : Call) (o : Options) (command : String) : Nat → String → String → Task Nat
  | 0, _, _ => return 2
  | fuel + 1, first, second => do
    let names := ((← namesIn first) ++ (← namesIn second)).eraseDups.mergeSort fun a b =>
      compareChars a.toList b.toList != .gt
    let mut code := 0
    for name in names do
      let a := Loading.inDirectory first name
      let b := Loading.inDirectory second name
      let isThere1 := (← Task.entryAt a false).isSome
      let isThere2 := (← Task.entryAt b false).isSome
      let one ←
        if isThere1 && isThere2 || o.has 'N' then do
          let dir1 ← Task.isDirAt a
          let dir2 ← Task.isDirAt b
          if dir1 && dir2 then
            if o.has 'r' then trees call o command fuel a b
            else emit call ("Common subdirectories: " ++ a ++ " and " ++ b ++ "\n")
          else if dir1 then
            emit call ("File " ++ a ++ " is a directory while file " ++ b ++ " is a regular file\n") 1
          else if dir2 then
            emit call ("File " ++ a ++ " is a regular file while file " ++ b ++ " is a directory\n") 1
          else files call o (command ++ " " ++ a ++ " " ++ b ++ "\n") a b
        else if isThere1 then emit call ("Only in " ++ first ++ ": " ++ name ++ "\n") 1
        else emit call ("Only in " ++ second ++ ": " ++ name ++ "\n") 1
      code := max code one
    return code

end Diff

def diff : Utility := fun call => call.withOptions "qsruNabBiwU:c\x01:" [("brief", 'q'),
    ("report-identical-files", 's'), ("recursive", 'r'), ("new-file", 'N'), ("text", 'a'),
    ("ignore-space-change", 'b'), ("ignore-blank-lines", 'B'), ("ignore-case", 'i'),
    ("ignore-all-space", 'w'), ("unified", 'u'), ("label", '\x01')] 2 fun o => do
  match o.operands with
  | [first, second] =>
    let dir1 ← Task.isDirAt first
    let dir2 ← Task.isDirAt second
    if dir1 && dir2 then
      let flags := call.args.filter fun a => a.startsWith "-"
      Diff.trees call o (String.intercalate " " (call.name :: flags)) LinkedTree.deepest first second
    else if dir1 && second != "-" then
      Diff.files call o "" (Loading.inDirectory first (lastPiece second)) second
    else if dir2 && first != "-" then
      Diff.files call o "" first (Loading.inDirectory second (lastPiece first))
    else Diff.files call o "" first second
  | [] => call.usage "missing operand after 'diff'" 2
  | [one] => call.usage ("missing operand after " ++ Quotes.always one) 2
  | _ :: _ :: extra :: _ => call.usage ("extra operand " ++ Quotes.always extra) 2

end ReleaseKit.Utility
