/-
ReleaseKit.FileTree.Resolve — what a path leads to.

A path is followed piece by piece from the root or from the working directory.
Every piece is looked for in a directory: an empty piece and a dot stay there,
two dots go to the directory it stands in, a name goes to what it names. So a
path that ends with a slash leads to a directory or nowhere.

  §1 Following a path     — `resolve`.
  §2 The place of a path  — `place`: the directory that the last piece is looked
                            for in, where something new would be made.
-/
import ReleaseKit.Fault
import ReleaseKit.FileTree.Basic
import ReleaseKit.LocalPath

namespace ReleaseKit

/-- The greatest number of bytes of a name. -/
def longestName : Nat := 255

/-- The greatest number of bytes of a path. -/
def longestPath : Nat := 4095

/-- What no path may be, whatever the tree. -/
def LocalPath.check (p : LocalPath) : Except Fault Unit :=
  if p.pieces.any fun piece => (OsText.mk piece).holdsNul then .error .nulInPath
  else if p.code = "" then .error .absent
  else if longestPath < p.os.size then .error .tooLong
  else .ok ()

namespace FileTree

/-! ## §1 Following a path -/

/-- Fails if there is no directory at a location. -/
def needDir (t : FileTree) (l : Location) : Except Fault Unit :=
  match t.node? l with
  | some .dir => .ok ()
  | some (.file _) => .error .notDirectory
  | none => .error .absent

/-- The location that a piece leads to from a directory. -/
def stepTo (here : Location) (piece : String) : Except Fault Location :=
  if piece = "" ∨ piece = "." then .ok here
  else if piece = ".." then .ok here.tail
  else if longestName < (OsText.mk piece).size then .error .tooLong
  else .ok (piece :: here)

/-- The location that pieces lead to. What the last one leads to need not be
there. -/
def walk (t : FileTree) (here : Location) : List String → Except Fault Location
  | [] => .ok here
  | piece :: rest =>
    match t.needDir here with
    | .error fault => .error fault
    | .ok () =>
      match stepTo here piece with
      | .error fault => .error fault
      | .ok there => walk t there rest

/-- Where a path is followed from. -/
def start (cwd : Location) (p : LocalPath) : Location := if p.rooted then [] else cwd

/-- The location that a path leads to; there need not be anything. -/
def resolve (t : FileTree) (cwd : Location) (p : LocalPath) : Except Fault Location :=
  match p.check with
  | .error fault => .error fault
  | .ok () => t.walk (start cwd p) p.pieces

/-- The location that a path leads to, and what is there. -/
def find (t : FileTree) (cwd : Location) (p : LocalPath) : Except Fault (Location × Node) :=
  match t.resolve cwd p with
  | .error fault => .error fault
  | .ok l =>
    match t.node? l with
    | some node => .ok (l, node)
    | none => .error .absent

/-- Whether a path leads to a directory. -/
def isDir (t : FileTree) (cwd : Location) (p : LocalPath) : Bool :=
  match t.find cwd p with
  | .ok (_, .dir) => true
  | _ => false

/-! ## §2 The place of a path -/

/-- Where the last piece of a path is looked for. -/
structure Place where
  /-- the directory that it is looked for in -/
  dir : Location
  /-- the last piece, or nothing if the path is the root -/
  last : Option String
  /-- whether slashes follow it -/
  slash : Bool

/-- The place of a path: everything before its last piece is followed. -/
def place (t : FileTree) (cwd : Location) (p : LocalPath) : Except Fault Place :=
  match p.check with
  | .error fault => .error fault
  | .ok () =>
    match p.pieces.reverse.dropWhile (· == "") with
    | [] => .ok ⟨[], none, true⟩
    | last :: before =>
      match t.walk (start cwd p) before.reverse with
      | .error fault => .error fault
      | .ok dir =>
        match t.needDir dir with
        | .error fault => .error fault
        | .ok () => .ok ⟨dir, some last, p.pieces.getLast? == some ""⟩

/-- Whether a piece names something, rather than stay or go up. -/
def isName (piece : String) : Bool := piece != "." && piece != ".."

end FileTree

end ReleaseKit
