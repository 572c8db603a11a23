/-
ReleaseKit.FileSystem — what a release asks of a file system.

A release reads its manifest and works on its local files through six operations.
What they come to is up to the file system, which may be any type with these
operations: each of them may fail, and one that changes something leaves a file
system also where it fails halfway. A directory is made anew, and a file is written
with the directories above it, by two of the operations one after the other.

An operation is one step: nobody else changes the files while it is under way. That a copy takes
over the permissions of its source, and that the entry of an archive is executable, is not seen
by a release again and is left out.

  §1 Operations  — `FileSystem`.
  §2 Composed    — `makeDirsWith`, `readText`, `resetDir`, `writeWithDirs`.
-/
import ReleaseKit.Error
import ReleaseKit.FileTree.Basic
import ReleaseKit.FileTree.Zip

namespace ReleaseKit

/-! ## §1 Operations -/

/-- The operations of a file system, for paths that are followed from a working
directory. -/
class FileSystem (τ : Type) where
  /-- what the file that a path leads to holds -/
  read : τ → Location → LocalPath → Except Fault Contents
  /-- makes a directory, and those above it, where they are missing -/
  makeDirs : τ → Location → LocalPath → Except Fault Unit × τ
  /-- removes a directory with all that is in it -/
  removeDir : τ → Location → LocalPath → Except Fault Unit × τ
  /-- writes a file from its start -/
  writeFile : τ → Location → LocalPath → Contents → Except Fault Unit × τ
  copyFile : τ → Location → LocalPath → LocalPath → Except Fault Unit × τ
  /-- packs a file into an archive as the only entry, under a name, and gives the size of
  the archive -/
  pack : τ → Location → LocalPath → String → LocalPath → Except PackFault Nat × τ

namespace FileSystem

/-! ## §2 Composed -/

/-- Makes the first of the paths, each of which is the parent of the one before
it: where a parent is missing it is made first. How one directory is made, in one that is
there, and what a directory is are up to the file system. -/
def makeDirsWith {τ : Type} (makeDir : τ → LocalPath → Except Fault τ)
    (isDir : τ → LocalPath → Bool) : List LocalPath → τ → Except Fault Unit × τ
  | [], t => (.error (.other "failed to create whole tree"), t)
  | p :: above, t =>
    if p.isEmpty then (.ok (), t)
    else
      match makeDir t p with
      | .ok made => (.ok (), made)
      | .error .absent =>
        match makeDirsWith makeDir isDir above t with
        | (.error fault, left) => (.error fault, left)
        | (.ok (), left) =>
          match makeDir left p with
          | .ok made => (.ok (), made)
          | .error fault => (if isDir left p then .ok () else .error fault, left)
      | .error fault => (if isDir t p then .ok () else .error fault, t)

variable {τ : Type} [FileSystem τ]

/-- The text of a file; its bytes must be UTF-8. -/
def readText (t : τ) (cwd : Location) (path : LocalPath) : Except Fault String :=
  match read t cwd path with
  | .error fault => .error fault
  | .ok contents =>
    match String.fromUTF8? contents.bytes with
    | some text => .ok text
    | none => .error .notText

/-- Makes a directory anew, empty; that it is missing at first does no harm. -/
def resetDir (t : τ) (cwd : Location) (p : LocalPath) : Except Fault Unit × τ :=
  match removeDir t cwd p with
  | (.ok (), left) => makeDirs left cwd p
  | (.error .absent, left) => makeDirs left cwd p
  | (.error fault, left) => (.error fault, left)

/-- Writes a file after making the directories above it. -/
def writeWithDirs (t : τ) (cwd : Location) (path : LocalPath) (contents : Contents) :
    Except ReleaseError Unit × τ :=
  match path.parent with
  | none => write t
  | some parent =>
    if parent.isEmpty then write t
    else
      match makeDirs t cwd parent with
      | (.error fault, left) => (.error (.io parent fault), left)
      | (.ok (), left) => write left
where
  write (t : τ) : Except ReleaseError Unit × τ :=
    match writeFile t cwd path contents with
    | (.error fault, left) => (.error (.io path fault), left)
    | (.ok (), left) => (.ok (), left)

end FileSystem

end ReleaseKit
