/-
ReleaseKit.Machine.Disk — the disk of a machine that runs programs.

A release needs no more of a disk than its files, directories and links, a
`LinkedTree`. The programs that it starts see more: a file has permissions and may
have several names, and some names stand for programs and devices. A disk says what
each location holds, and keeps the files apart from their names.

  §1 Entries           — what a location can hold.
  §2 Disks             — `Disk`, what is where, what stands in a directory.
  §3 Following a path  — `Disk.resolve`, links included.
-/
import ReleaseKit.FileTree.Zip
import ReleaseKit.LinkedTree
import ReleaseKit.Text.Raw

namespace ReleaseKit

/-! ## §1 Entries -/

/-- A file that is no file on the disk. -/
inductive Device where
  /-- takes everything, gives nothing -/
  | null
  /-- gives bytes that are zero -/
  | zero
  /-- gives bytes that are zero and has no room -/
  | full
  /-- the terminal, which no program of a release has -/
  | terminal
  /-- whatever the process has open under this number -/
  | descriptor (number : Nat)
deriving DecidableEq, Repr

/-- A file without its names. -/
structure Stored where
  contents : Contents
  /-- who may read, write and run it -/
  mode : Nat
  /-- when it was last changed -/
  time : Nat

/-- What a location can hold. -/
inductive Entry where
  | dir (mode : Nat) (time : Nat)
  /-- a file, known by its number -/
  | file (id : Nat)
  /-- a link to a path -/
  | link (target : String)
  /-- a program of the system -/
  | program (name : String)
  | device (kind : Device)
deriving DecidableEq, Repr

namespace Entry

def isDir : Entry → Bool
  | dir _ _ => true
  | _ => false

def isLink : Entry → Bool
  | link _ => true
  | _ => false

end Entry

/-! ## §2 Disks -/

/-- What a machine has stored. -/
structure Disk where
  entries : Std.ExtTreeMap Location Entry Location.order
  files : Std.ExtTreeMap Nat Stored
  /-- the number of the next new file -/
  next : Nat
  /-- the time of the next change -/
  clock : Nat

/-- The permissions of a new directory and of a new file, before the mask of its
maker takes some away. -/
def freshDirMode : Nat := 0o777

def freshFileMode : Nat := 0o666

namespace Disk

/-- What a location holds. The root is a directory. -/
def entry? (d : Disk) (l : Location) : Option Entry :=
  if l = [] then some (.dir 0o755 0) else d.entries[l]?

/-- The file of a number. -/
def file? (d : Disk) (id : Nat) : Option Stored := d.files[id]?

/-- What stands in a directory, in the order of names. -/
def children (d : Disk) (l : Location) : List (String × Entry) :=
  (d.entries.toList.filterMap fun (m, e) =>
    match m with
    | name :: here => if here = l then some (name, e) else none
    | [] => none).mergeSort fun a b => Raw.ofName a.1 ≤ Raw.ofName b.1

/-- The bytes of a file. -/
def bytesOf (d : Disk) (id : Nat) : ByteArray :=
  match d.file? id with
  | some f => f.contents.bytes
  | none => ByteArray.empty

/-! ## §3 Following a path -/

def needDir (d : Disk) (l : Location) : Except Fault Unit :=
  match d.entry? l with
  | some (.dir _ _) => .ok ()
  | some _ => .error .notDirectory
  | none => .error .absent

/-- The location that pieces lead to. At a link, `again` goes on with the pieces
of its target in its place; a link that is the last piece stays if `keepLast`. -/
def stepsWith (d : Disk) (again : Location → List String → Except Fault Location)
    (keepLast : Bool) : Location → List String → Except Fault Location
  | here, [] => .ok here
  | here, piece :: rest =>
    match d.needDir here with
    | .error fault => .error fault
    | .ok () =>
      match FileTree.stepTo here piece with
      | .error fault => .error fault
      | .ok there =>
        match d.entry? there with
        | some (.link target) =>
          if keepLast && rest.isEmpty then .ok there
          else
            let path : LocalPath := ⟨Raw.os target⟩
            match path.check with
            | .error fault => .error fault
            | .ok () => again (FileTree.start here path) (path.pieces ++ rest)
        | _ => stepsWith d again keepLast there rest

/-- The location that pieces lead to, over at most so many links. -/
def follow (d : Disk) (keepLast : Bool) : Nat → Location → List String → Except Fault Location
  | 0, _, _ => .error loopFault
  | budget + 1, here, pieces => d.stepsWith (d.follow keepLast budget) keepLast here pieces

/-- The location that a path leads to; there need not be anything. With
`keepLast`, a link that the path ends with is not followed. -/
def resolve (d : Disk) (keepLast : Bool) (cwd : Location) (path : String) :
    Except Fault Location :=
  let p : LocalPath := ⟨Raw.os path⟩
  match p.check with
  | .error fault => .error fault
  | .ok () => d.follow keepLast linkLimit (FileTree.start cwd p) p.pieces

/-- The location that a path leads to, and what it holds. -/
def find (d : Disk) (keepLast : Bool) (cwd : Location) (path : String) :
    Except Fault (Location × Entry) :=
  match d.resolve keepLast cwd path with
  | .error fault => .error fault
  | .ok l =>
    match d.entry? l with
    | some e => .ok (l, e)
    | none => .error .absent

/-- What a path leads to, if it leads to anything. -/
def entryAt? (d : Disk) (cwd : Location) (path : String) : Option Entry :=
  (d.find false cwd path).toOption.map (·.2)

/-- Whether a path leads to a directory. -/
def isDirAt (d : Disk) (cwd : Location) (path : String) : Bool :=
  match d.entryAt? cwd path with
  | some e => e.isDir
  | none => false

/-- The permissions of an entry. -/
def modeOf (d : Disk) : Entry → Nat
  | .dir mode _ => mode
  | .file id => ((d.file? id).map (·.mode)).getD 0
  | .link _ => 0o777
  | .program _ => 0o755
  | .device _ => 0o666

/-- When an entry was last changed. -/
def timeOf (d : Disk) : Entry → Nat
  | .dir _ time => time
  | .file id => ((d.file? id).map (·.time)).getD 0
  | _ => 0

/-- The number of bytes of an entry. -/
def sizeOf (d : Disk) : Entry → Nat
  | .dir _ _ => 4096
  | .file id => (d.bytesOf id).size
  | .link target => target.length
  | .program _ => 4096
  | .device _ => 0

/-- A location as a path from the root. -/
def pathOf (l : Location) : String := "/" ++ String.intercalate "/" (l.reverse.map Raw.ofName)

end Disk

end ReleaseKit
