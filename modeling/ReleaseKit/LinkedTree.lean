/-
ReleaseKit.LinkedTree — files and directories with symbolic links among them.

A link stands for a path. Where a path leads over a link, it goes on with what the link says;
written out without its links it is a path of the files and directories alone. An operation
does to these what it does on a `FileTree`, at the path written out: it goes through a link
that the path ends with, or, where it makes or removes a name, works on the link itself. A path
that is too long once it is written out is refused as one that is too long.

  §1 Trees          — `LinkedTree`, `link?`.
  §2 Writing out    — `firstLink?`, `expand`.
  §3 Directories    — `makeDir`, `makeDirs`, `removeDir`.
  §4 Files          — `read`, `writeFile`, `copyFile`, `pack`; the file system.
  §5 What is shown  — `shown`: every link as what it leads to.
-/
import ReleaseKit.FileTree.Operations

namespace ReleaseKit

/-! ## §1 Trees -/

/-- The files and directories of a disk, and its links. -/
structure LinkedTree where
  tree : FileTree
  /-- where there are links, and what they say -/
  links : List (Location × LocalPath)

/-- How many links a path may lead over. -/
def linkLimit : Nat := 40

/-- The refusal of a path that leads over too many links. -/
def loopFault : Fault := .other "Too many levels of symbolic links (os error 40)"

namespace LinkedTree

/-- A tree without links. -/
def ofTree (t : FileTree) : LinkedTree := ⟨t, []⟩

/-- What the link at a location says. A file or directory is in nobody's place. -/
def link? (t : LinkedTree) (l : Location) : Option LocalPath :=
  if t.tree.node? l = none then t.links.lookup l else none

/-- The tree with other files and directories. -/
def withTree (t : LinkedTree) (tree : FileTree) : LinkedTree := { t with tree }

/-- The tree without the links that `doomed` says. -/
def dropLinks (t : LinkedTree) (doomed : Location → Bool) : LinkedTree :=
  { t with links := t.links.filter fun (l, _) => !doomed l }

/-- The tree without what is at a location and in it. -/
def remove (t : LinkedTree) (l : Location) : LinkedTree :=
  (t.withTree (t.tree.remove l)).dropLinks (Location.within l)

/-! ## §2 Writing out -/

/-- The first link that pieces lead over: the directory that it stands in, what it says, and the
pieces after it. With `keepLast`, a link that they end with does not count. -/
def firstLink? (t : LinkedTree) (keepLast : Bool) :
    Location → List String → Option (Location × LocalPath × List String)
  | _, [] => none
  | here, piece :: rest =>
    if t.tree.isDirAt here then
      match FileTree.stepTo here piece with
      | .error _ => none
      | .ok there =>
        match t.link? there with
        | none => firstLink? t keepLast there rest
        | some target =>
          if keepLast && rest.all (· == "") then none else some (here, target, rest)
    else none

/-- A path with its links written out, of which there may be so many. -/
def expand (t : LinkedTree) (keepLast : Bool) : Nat → Location → LocalPath → Except Fault LocalPath
  | 0, cwd, p =>
    if (t.firstLink? keepLast (FileTree.start cwd p) p.pieces).isSome then .error loopFault else .ok p
  | budget + 1, cwd, p =>
    match t.firstLink? keepLast (FileTree.start cwd p) p.pieces with
    | none => .ok p
    | some (here, target, rest) =>
      match p.check with
      | .error fault => .error fault
      | .ok () =>
        let before := if target.rooted then [] else here.reverse
        expand t keepLast budget [] (.ofPieces true (before ++ target.pieces ++ rest))

/-- A path with all its links written out. -/
def through (t : LinkedTree) (cwd : Location) (p : LocalPath) : Except Fault LocalPath :=
  t.expand false linkLimit cwd p

/-- A path with its links written out, up to one that it ends with. -/
def upTo (t : LinkedTree) (cwd : Location) (p : LocalPath) : Except Fault LocalPath :=
  t.expand true linkLimit cwd p

/-- The link that a path ends with, and whether slashes follow it. -/
def endLink? (t : LinkedTree) (cwd : Location) (p : LocalPath) : Option (Location × Bool) :=
  match t.tree.place cwd p with
  | .ok ⟨dir, some last, slash⟩ =>
    if (t.link? (last :: dir)).isSome then some (last :: dir, slash) else none
  | _ => none

/-! ## §3 Directories -/

/-- What an operation that may fail halfway leaves: how it went, and the tree. -/
abbrev Outcome := Except Fault Unit × LinkedTree

/-- The tree with a new directory, in a directory that is there. A link is in its way. -/
def makeDir (t : LinkedTree) (cwd : Location) (p : LocalPath) : Except Fault LinkedTree :=
  match t.upTo cwd p with
  | .error fault => .error fault
  | .ok q =>
    if (t.endLink? cwd q).isSome then .error .occupied
    else (t.tree.makeDir cwd q).map t.withTree

/-- Whether a path leads to a directory. -/
def isDir (t : LinkedTree) (cwd : Location) (p : LocalPath) : Bool :=
  match t.through cwd p with
  | .error _ => false
  | .ok q => t.tree.isDir cwd q

/-- Makes a directory, and those above it, where they are missing. -/
def makeDirs (t : LinkedTree) (cwd : Location) (p : LocalPath) : Outcome :=
  FileSystem.makeDirsWith (·.makeDir cwd) (·.isDir cwd) p.ancestors t

/-- What is left of the links when a directory has been emptied. -/
def dropBelow (t : LinkedTree) (cwd : Location) (p : LocalPath) : LinkedTree :=
  match t.tree.find cwd p with
  | .ok (l, .dir) => t.dropLinks (Location.below l)
  | _ => t

/-- Removes a directory with all that is in it. Of a link only the link is removed. With slashes
after it a link is taken for the directory that it leads to; this is emptied, but
stays. -/
def removeDir (t : LinkedTree) (cwd : Location) (p : LocalPath) : Outcome :=
  match t.upTo cwd p with
  | .error fault => (.error fault, t)
  | .ok q =>
    match t.endLink? cwd q with
    | none =>
      let (result, left) := t.tree.removeDir cwd q
      (result, (t.dropBelow cwd q).withTree left)
    | some (l, false) => (.ok (), t.dropLinks (· == l))
    | some (_, true) =>
      match t.through cwd q with
      | .error fault => (.error fault, t)
      | .ok whole =>
        match t.tree.find cwd whole with
        | .error fault => (.error fault, t)
        | .ok (_, .file _) => (.error .notDirectory, t)
        | .ok (l, .dir) =>
          (.error .notDirectory, (t.dropLinks (Location.below l)).withTree (t.tree.clear l))

/-! ## §4 Files -/

/-- What the file that a path leads to holds. -/
def read (t : LinkedTree) (cwd : Location) (p : LocalPath) : Except Fault Contents :=
  match t.through cwd p with
  | .error fault => .error fault
  | .ok q => t.tree.read cwd q

/-- The tree after an operation that changes nothing if it fails. -/
def settled (t : LinkedTree) : Except Fault FileTree → Outcome
  | .ok left => (.ok (), t.withTree left)
  | .error fault => (.error fault, t)

/-- Writes a file from its start. -/
def writeFile (t : LinkedTree) (cwd : Location) (p : LocalPath) (contents : Contents) : Outcome :=
  match t.through cwd p with
  | .error fault => (.error fault, t)
  | .ok q => t.settled (t.tree.writeFile cwd q contents)

/-- Copies a file. The source is opened before links are followed to the destination. -/
def copyFile (t : LinkedTree) (cwd : Location) (source dest : LocalPath) : Outcome :=
  match t.through cwd source with
  | .error fault => (.error fault, t)
  | .ok source' =>
    match t.through cwd dest with
    | .ok dest' => t.settled (t.tree.copyFile cwd source' dest')
    | .error fault =>
      match t.tree.find cwd source' with
      | .error first => (.error first, t)
      | .ok (_, .dir) => (.error .notRegular, t)
      | .ok (_, .file _) => (.error fault, t)

/-- Writes the archive of one source and gives its size. -/
def pack (t : LinkedTree) (cwd : Location) (source : LocalPath) (entry : String)
    (dest : LocalPath) : Except PackFault Nat × LinkedTree :=
  match t.through cwd source with
  | .error fault => (.error (.source fault), t)
  | .ok source' =>
    match t.through cwd dest with
    | .ok dest' =>
      let (result, left) := t.tree.writeArchive cwd source' entry dest'
      (result, t.withTree left)
    | .error fault =>
      match t.tree.find cwd source' with
      | .error first => (.error (.source first), t)
      | .ok _ => (.error (.dest fault), t)

instance : FileSystem LinkedTree where
  read := read
  makeDirs := makeDirs
  removeDir := removeDir
  writeFile := writeFile
  copyFile := copyFile
  pack := pack

/-- The text of a file; its bytes must be UTF-8. -/
abbrev readText (t : LinkedTree) (cwd : Location) (p : LocalPath) : Except Fault String :=
  FileSystem.readText t cwd p

/-! ## §5 What is shown -/

/-- The names of what stands in a directory. -/
def namesIn (t : LinkedTree) (l : Location) : List String :=
  (t.tree.toList.map (·.1) ++ t.links.map (·.1)).filterMap fun
    | name :: here => if here = l then some name else none
    | [] => none

/-- How far down a tree is looked at: a bound on links that lead back to where they are. -/
def deepest : Nat := 256

/-- A tree in which a location has what another one has in this tree. -/
def showAt (t : LinkedTree) (depth : Nat) (seen : FileTree) (there here : Location) : FileTree :=
  match depth with
  | 0 => seen
  | depth + 1 =>
    match t.tree.node? here with
    | some (.file contents) => seen.put there (.file contents)
    | some .dir =>
      (t.namesIn here).foldl
        (fun seen name => t.showAt depth seen (name :: there) (name :: here)) (seen.put there .dir)
    | none =>
      match t.link? here with
      | none => seen
      | some target =>
        match (t.through here.tail target).bind (t.tree.resolve here.tail) with
        | .error _ => seen
        | .ok l => if Location.within l here then seen else t.showAt depth seen there l

/-- The files and directories, every link as what it leads to. -/
def shown (t : LinkedTree) : FileTree :=
  t.links.foldl (fun seen (l, _) => t.showAt deepest seen l l) t.tree

instance : Coe LinkedTree FileTree := ⟨shown⟩

end LinkedTree

end ReleaseKit
