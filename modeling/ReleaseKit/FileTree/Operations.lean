/-
ReleaseKit.FileTree.Operations — what the file system does for a release.

Each operation follows its paths, changes the tree and may fail; what it has
changed before it failed stays. The order in which an operation looks at its
paths decides which of two faults is reported and what is left behind.

  §1 Reading        — `read`.
  §2 Directories    — `makeDir`, `makeDirs`, `removeDir`.
  §3 Files          — `openNew`, `writeFile`, `copyFile`, `writeArchive`.
  §4 The system     — a file tree as a file system.
-/
import ReleaseKit.FileSystem
import ReleaseKit.FileTree.Resolve

namespace ReleaseKit.FileTree

/-- What an operation that may fail halfway leaves: how it went, and the tree. -/
abbrev Outcome := Except Fault Unit × FileTree

/-! ## §1 Reading -/

/-- What the file that a path leads to holds. -/
def read (t : FileTree) (cwd : Location) (p : LocalPath) : Except Fault Contents :=
  match t.find cwd p with
  | .error fault => .error fault
  | .ok (_, .dir) => .error .isDirectory
  | .ok (_, .file contents) => .ok contents

/-! ## §2 Directories -/

/-- The tree with a new directory, in a directory that is there. -/
def makeDir (t : FileTree) (cwd : Location) (p : LocalPath) : Except Fault FileTree :=
  match t.place cwd p with
  | .error fault => .error fault
  | .ok ⟨_, none, _⟩ => .error .occupied
  | .ok ⟨dir, some last, _⟩ =>
    if !isName last then .error .occupied
    else if longestName < (OsText.mk last).size then .error .tooLong
    else
      match t.node? (last :: dir) with
      | some _ => .error .occupied
      | none => .ok (t.put (last :: dir) .dir)

/-- Makes the first of the paths, each of which is the parent of the one before it. -/
def makeDirsOf (cwd : Location) : List LocalPath → FileTree → Outcome :=
  FileSystem.makeDirsWith (·.makeDir cwd) (·.isDir cwd)

theorem makeDirsOf_cons (cwd : Location) (p : LocalPath) (above : List LocalPath) (t : FileTree) :
    makeDirsOf cwd (p :: above) t =
      if p.isEmpty then (.ok (), t)
      else
        match t.makeDir cwd p with
        | .ok made => (.ok (), made)
        | .error .absent =>
          match makeDirsOf cwd above t with
          | (.error fault, left) => (.error fault, left)
          | (.ok (), left) =>
            match left.makeDir cwd p with
            | .ok made => (.ok (), made)
            | .error fault => (if left.isDir cwd p then .ok () else .error fault, left)
        | .error fault => (if t.isDir cwd p then .ok () else .error fault, t) := by
  rw [makeDirsOf, FileSystem.makeDirsWith]
  congr 1
  rcases t.makeDir cwd p with fault | made
  · cases fault with
    | absent =>
      dsimp only [makeDirsOf]
      generalize FileSystem.makeDirsWith _ _ above t = rest
      rcases rest with ⟨fault | -, left⟩
      · rfl
      · dsimp only
        cases left.makeDir cwd p <;> rfl
    | _ => rfl
  · rfl

/-- Makes a directory, and those above it, where they are missing. -/
def makeDirs (t : FileTree) (cwd : Location) (p : LocalPath) : Outcome :=
  makeDirsOf cwd p.ancestors t

/-- Removes the last piece of a path, a directory that is empty. A path that has
come to lead nowhere is as good as removed. -/
def removeEmptyDir (t : FileTree) (cwd : Location) (p : LocalPath) : Outcome :=
  match t.place cwd p with
  | .error .absent => (.ok (), t)
  | .error fault => (.error fault, t)
  | .ok ⟨_, none, _⟩ => (.error .busy, t)
  | .ok ⟨dir, some last, _⟩ =>
    if last = "." then (.error .invalid, t)
    else if last = ".." then (.error .notEmpty, t)
    else (.ok (), t.remove (last :: dir))

/-- Removes a directory with all that is in it. -/
def removeDir (t : FileTree) (cwd : Location) (p : LocalPath) : Outcome :=
  match t.find cwd p with
  | .error fault => (.error fault, t)
  | .ok (_, .file _) => (.error .notDirectory, t)
  | .ok (l, .dir) => (t.clear l).removeEmptyDir cwd p

/-! ## §3 Files -/

/-- The location of a file that is to be written from its start, whether it is
there or not. -/
def openNew (t : FileTree) (cwd : Location) (p : LocalPath) : Except Fault Location :=
  match t.place cwd p with
  | .error fault => .error fault
  | .ok ⟨_, none, _⟩ => .error .isDirectory
  | .ok ⟨dir, some last, slash⟩ =>
    if !isName last || slash then .error .isDirectory
    else if longestName < (OsText.mk last).size then .error .tooLong
    else if t.node? (last :: dir) = some .dir then .error .isDirectory
    else .ok (last :: dir)

/-- Writes a file from its start. -/
def writeFile (t : FileTree) (cwd : Location) (p : LocalPath) (contents : Contents) :
    Except Fault FileTree :=
  match t.openNew cwd p with
  | .error fault => .error fault
  | .ok l => .ok (t.put l (.file contents))

/-- Copies a file. The source is opened before the destination is emptied, so a
file copied onto itself ends up empty. -/
def copyFile (t : FileTree) (cwd : Location) (source dest : LocalPath) : Except Fault FileTree :=
  match t.find cwd source with
  | .error fault => .error fault
  | .ok (_, .dir) => .error .notRegular
  | .ok (l, .file contents) =>
    match t.openNew cwd dest with
    | .error fault => .error fault
    | .ok m => .ok (t.put m (.file (if m = l then .empty else contents)))

/-- Writes the archive of one source and gives its size. The source is opened
before the destination is emptied. A directory opens but cannot be read: then the
destination is left with an empty entry. A file that is archived into itself is
read when only the start of the archive is in it. -/
def writeArchive (t : FileTree) (cwd : Location) (source : LocalPath) (entry : String)
    (dest : LocalPath) : Except PackFault Nat × FileTree :=
  match t.find cwd source with
  | .error fault => (.error (.source fault), t)
  | .ok (l, node) =>
    match t.openNew cwd dest with
    | .error fault => (.error (.dest fault), t)
    | .ok m =>
      match node with
      | .dir => (.error (.dest .isDirectory), t.put m (.file (.archive entry .empty)))
      | .file contents =>
        let archive := Contents.archive entry (if m = l then .begun entry else contents)
        (.ok archive.size, t.put m (.file archive))

/-! ## §4 The system -/

/-- The tree after an operation that changes nothing if it fails. -/
def settled (t : FileTree) : Except Fault FileTree → Outcome
  | .ok left => (.ok (), left)
  | .error fault => (.error fault, t)

instance : FileSystem FileTree where
  read := read
  makeDirs := makeDirs
  removeDir := removeDir
  writeFile t cwd p contents := t.settled (t.writeFile cwd p contents)
  copyFile t cwd source dest := t.settled (t.copyFile cwd source dest)
  pack := writeArchive

section Equations

variable (t : FileTree) (cwd : Location)

theorem read_eq (p : LocalPath) : FileSystem.read t cwd p = t.read cwd p := rfl

theorem makeDirs_eq (p : LocalPath) : FileSystem.makeDirs t cwd p = t.makeDirs cwd p := rfl

theorem removeDir_eq (p : LocalPath) : FileSystem.removeDir t cwd p = t.removeDir cwd p := rfl

theorem writeFile_eq (p : LocalPath) (contents : Contents) :
    FileSystem.writeFile t cwd p contents = t.settled (t.writeFile cwd p contents) := rfl

theorem copyFile_eq (source dest : LocalPath) :
    FileSystem.copyFile t cwd source dest = t.settled (t.copyFile cwd source dest) := rfl

theorem pack_eq (source : LocalPath) (entry : String) (dest : LocalPath) :
    FileSystem.pack t cwd source entry dest = t.writeArchive cwd source entry dest := rfl

end Equations

/-- The text of a file; its bytes must be UTF-8. -/
abbrev readText (t : FileTree) (cwd : Location) (p : LocalPath) : Except Fault String :=
  FileSystem.readText t cwd p

theorem fileSystem_readText (t : FileTree) (cwd : Location) (p : LocalPath) :
    FileSystem.readText t cwd p = t.readText cwd p := rfl

theorem readText_eq (t : FileTree) (cwd : Location) (p : LocalPath) :
    t.readText cwd p =
      match t.read cwd p with
      | .error fault => .error fault
      | .ok contents =>
        match String.fromUTF8? contents.bytes with
        | some text => .ok text
        | none => .error .notText := rfl

/-- Makes a directory anew, empty. -/
abbrev resetDir (t : FileTree) (cwd : Location) (p : LocalPath) : Outcome :=
  FileSystem.resetDir t cwd p

theorem resetDir_eq (t : FileTree) (cwd : Location) (p : LocalPath) :
    t.resetDir cwd p =
      match t.removeDir cwd p with
      | (.ok (), left) => left.makeDirs cwd p
      | (.error .absent, left) => left.makeDirs cwd p
      | (.error fault, left) => (.error fault, left) := by
  simp only [resetDir, FileSystem.resetDir, removeDir_eq, makeDirs_eq]
  rcases t.removeDir cwd p with ⟨fault | -, left⟩
  · cases fault <;> rfl
  · rfl

/-- Writes a file after making the directories above it. -/
abbrev writeWithDirs (t : FileTree) (cwd : Location) (p : LocalPath) (contents : Contents) :
    Except ReleaseError Unit × FileTree :=
  FileSystem.writeWithDirs t cwd p contents

theorem fileSystem_writeWithDirs (t : FileTree) (cwd : Location) (p : LocalPath)
    (contents : Contents) :
    FileSystem.writeWithDirs t cwd p contents = t.writeWithDirs cwd p contents := rfl

/-- Writes the file alone. -/
def writeAlone (cwd : Location) (p : LocalPath) (contents : Contents) (t : FileTree) :
    Except ReleaseError Unit × FileTree :=
  match t.writeFile cwd p contents with
  | .error fault => (.error (.io p fault), t)
  | .ok left => (.ok (), left)

theorem writeWithDirs_eq (t : FileTree) (cwd : Location) (p : LocalPath) (contents : Contents) :
    t.writeWithDirs cwd p contents =
      match p.parent with
      | none => t.writeAlone cwd p contents
      | some parent =>
        if parent.isEmpty then t.writeAlone cwd p contents
        else
          match t.makeDirs cwd parent with
          | (.error fault, left) => (.error (.io parent fault), left)
          | (.ok (), left) => left.writeAlone cwd p contents := by
  have halone : ∀ left : FileTree, FileSystem.writeWithDirs.write cwd p contents left =
      writeAlone cwd p contents left := by
    intro left
    simp only [FileSystem.writeWithDirs.write, writeAlone, writeFile_eq]
    cases left.writeFile cwd p contents <;> rfl
  simp only [writeWithDirs, FileSystem.writeWithDirs, halone, makeDirs_eq]
  cases p.parent with
  | none => rfl
  | some parent =>
    dsimp only
    rcases t.makeDirs cwd parent with ⟨fault | -, left⟩ <;> rfl

end ReleaseKit.FileTree
