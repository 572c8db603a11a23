/-
ReleaseKit.Machine.Disk.Change — what programs do to a disk.

Each change follows its paths, and is refused as a whole if the system refuses
any part of it.

  §1 Files         — making, filling and truncating them.
  §2 Names         — making and removing names, links and directories.
  §3 Moving        — `Disk.rename`.
  §4 Permissions   — `Disk.chmod` and `Disk.stamp`.
-/
import ReleaseKit.Machine.Disk

namespace ReleaseKit.Disk

/-! ## §1 Files -/

/-- The disk after something has happened on it at its time. -/
def tick (d : Disk) : Disk := { d with clock := d.clock + 1 }

/-- The disk with an entry at a location. -/
def put (d : Disk) (l : Location) (e : Entry) : Disk :=
  { d with entries := d.entries.insert l e }

/-- The disk without what a location holds. -/
def drop (d : Disk) (l : Location) : Disk := { d with entries := d.entries.erase l }

/-- A new file at a location, and its number. -/
def create (d : Disk) (l : Location) (mode : Nat) (contents : Contents) : Disk × Nat :=
  let stored : Stored := ⟨contents, mode, d.clock⟩
  ({ d.put l (.file d.next) with
      files := d.files.insert d.next stored
      next := d.next + 1
      clock := d.clock + 1 }, d.next)

/-- A file with new contents. -/
def fill (d : Disk) (id : Nat) (contents : Contents) : Disk :=
  match d.file? id with
  | some f => { d with
      files := d.files.insert id { f with contents, time := d.clock }, clock := d.clock + 1 }
  | none => d

/-- Bytes with others in place of those from an offset on, zeros between. -/
def splice (old : ByteArray) (offset : Nat) (bytes : ByteArray) : ByteArray :=
  if offset = old.size then old ++ bytes
  else if old.size < offset then
    old ++ ⟨(List.replicate (offset - old.size) 0).toArray⟩ ++ bytes
  else old.extract 0 offset ++ bytes ++ old.extract (offset + bytes.size) old.size

/-- A file with bytes written into it at an offset. -/
def write (d : Disk) (id : Nat) (offset : Nat) (bytes : ByteArray) : Disk :=
  d.fill id (.plain (splice (d.bytesOf id) offset bytes))

/-! ## §2 Names -/

/-- A path without the slashes it ends with, unless it is nothing but slashes. -/
def bare (path : String) : String :=
  let kept := (path.toList.reverse.dropWhile (· == '/')).reverse
  if kept.isEmpty then path else String.ofList kept

/-- Makes a directory. -/
def makeDir (d : Disk) (cwd : Location) (path : String) (mode : Nat) : Except Fault Disk :=
  match d.resolve true cwd (bare path) with
  | .error fault => .error fault
  | .ok l =>
    match d.entry? l with
    | some _ => .error .occupied
    | none => .ok (d.put l (.dir mode d.clock)).tick

/-- The disk with a directory at a location, and those above it, where there is
nothing. -/
def makeAll (d : Disk) : Location → Disk
  | [] => d
  | name :: here =>
    let d := d.makeAll here
    if (d.entry? (name :: here)).isNone then (d.put (name :: here) (.dir 0o755 d.clock)).tick else d

/-- Removes a name that is not a directory's. -/
def unlink (d : Disk) (cwd : Location) (path : String) : Except Fault Disk :=
  match d.find true cwd path with
  | .error fault => .error fault
  | .ok (_, .dir _ _) => .error .isDirectory
  | .ok (l, _) => .ok (d.drop l)

/-- Removes an empty directory. -/
def removeDir (d : Disk) (cwd : Location) (path : String) : Except Fault Disk :=
  let last := ((bare path).splitOn "/").getLast?.getD ""
  if last = "." then .error .invalid
  else
    match d.find true cwd path with
    | .error fault => .error fault
    | .ok (l, .dir _ _) =>
      if l = [] then .error .busy
      else if last = ".." || !(d.children l).isEmpty then .error .notEmpty
      else .ok (d.drop l)
    | .ok _ => .error .notDirectory

/-- Makes a link to a path. -/
def symlink (d : Disk) (cwd : Location) (target path : String) : Except Fault Disk :=
  if target = "" then .error .absent
  else
    match d.resolve true cwd path with
    | .error fault => .error fault
    | .ok l =>
      match d.entry? l with
      | some _ => .error .occupied
      | none => .ok (d.put l (.link target)).tick

/-- Gives a file one more name. -/
def hardLink (d : Disk) (cwd : Location) (source path : String) : Except Fault Disk :=
  match d.find true cwd source with
  | .error fault => .error fault
  | .ok (_, .dir _ _) => .error (.other "Operation not permitted (os error 1)")
  | .ok (_, e) =>
    match d.resolve true cwd path with
    | .error fault => .error fault
    | .ok l =>
      match d.entry? l with
      | some _ => .error .occupied
      | none => .ok (d.put l e).tick

/-! ## §3 Moving -/

/-- The disk in which everything at and below one location stands at another. -/
def moveAll (d : Disk) (source dest : Location) : Disk :=
  let moved := d.entries.toList.filterMap fun (l, e) =>
    if Location.within source l then some (l, e) else none
  let cleared := moved.foldl (fun (d : Disk) (l, _) => d.drop l) d
  moved.foldl (fun (d : Disk) (l, e) =>
    d.put (l.take (l.length - source.length) ++ dest) e) cleared

/-- Gives what a path leads to another path. What is there gives way, but a
directory only to a directory, and only if it is empty. -/
def rename (d : Disk) (cwd : Location) (source dest : String) : Except Fault Disk :=
  match d.find true cwd source with
  | .error fault => .error fault
  | .ok (l, e) =>
    match d.resolve true cwd (if e.isDir then bare dest else dest) with
    | .error fault => .error fault
    | .ok m =>
      if l = m then .ok d
      else if l = [] || m = [] then .error .busy
      else if Location.below l m then .error .invalid
      else
        match e, d.entry? m with
        | .dir _ _, none => .ok (d.moveAll l m).tick
        | .dir _ _, some (.dir _ _) =>
          if Location.below m l || !(d.children m).isEmpty then .error .notEmpty
          else .ok (d.moveAll l m).tick
        | .dir _ _, some _ => .error .notDirectory
        | _, some (.dir _ _) => .error .isDirectory
        | _, there => if there = some e then .ok d else .ok (d.moveAll l m).tick

/-! ## §4 Permissions -/

/-- Gives an entry permissions. -/
def chmod (d : Disk) (l : Location) (mode : Nat) : Disk :=
  match d.entry? l with
  | some (.dir _ time) => d.put l (.dir mode time)
  | some (.file id) =>
    match d.file? id with
    | some f => { d with files := d.files.insert id { f with mode } }
    | none => d
  | _ => d

/-- Sets the time at which an entry was last changed. -/
def stamp (d : Disk) (l : Location) (time : Nat) : Disk :=
  match d.entry? l with
  | some (.dir mode _) => d.put l (.dir mode time)
  | some (.file id) =>
    match d.file? id with
    | some f => { d with files := d.files.insert id { f with time } }
    | none => d
  | _ => d

end ReleaseKit.Disk
