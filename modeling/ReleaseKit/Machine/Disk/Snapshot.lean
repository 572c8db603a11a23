/-
ReleaseKit.Machine.Disk.Snapshot — a disk as a tree and back.

A release sees of a disk its files, directories and links. Between two commands the release
changes them itself. A disk is then brought up to date: what has changed since it was last
seen is taken over, and everything else stays as it is, with its links, its
permissions and its other names. A disk can also be given the files and directories that it is
to show, wherever its links lead.

  §1 Seeing       — `Disk.seen`.
  §2 Taking over  — `Disk.update`, `Image`.
-/
import ReleaseKit.Machine.Disk.Change

namespace ReleaseKit

namespace Disk

/-! ## §1 Seeing -/

/-- The files, directories and links of a disk. -/
def seen (d : Disk) : LinkedTree :=
  let entries := d.entries.toList.mergeSort fun a b => a.1.length ≤ b.1.length
  let tree := entries.foldl (fun (t : FileTree) (l, e) =>
    match e with
    | .dir _ _ => t.put l .dir
    | .file id =>
      match d.file? id with
      | some f => t.put l (.file f.contents)
      | none => t
    | _ => t) .empty
  ⟨tree, entries.filterMap fun (l, e) =>
    match e with
    | .link target => some (l, ⟨Raw.os target⟩)
    | _ => none⟩

/-! ## §2 Taking over -/

/-- The time of the first change, in milliseconds. -/
def firstTime : Nat := 1767225600000

/-- The disk with nothing on it. -/
def blank : Disk := ⟨∅, ∅, 0, firstTime⟩

/-- A node of a tree in its place on the disk. -/
def take (d : Disk) (l : Location) : Node → Disk
  | .dir => d.put l (.dir 0o755 d.clock)
  | .file contents =>
    match d.entry? l with
    | some (.file id) => d.fill id contents
    | _ => (d.create l 0o644 contents).1

/-- The disk, which was last seen as one tree, brought up to date with another. -/
def update (d : Disk) (before after : FileTree) : Disk :=
  let gone := before.toList.filter fun entry => after.node? entry.1 = none
  let kept := gone.foldl (fun d entry => d.drop entry.1) d
  let changed := after.toList.filter fun entry =>
    entry.1 != [] && before.node? entry.1 != some entry.2
  (changed.mergeSort fun a b => a.1.length ≤ b.1.length).foldl
    (fun d entry => d.take entry.1 entry.2) kept

end Disk

/-- What a disk, which was last seen as a tree with links, can be made to look like. -/
class Image (τ : Type) where
  onto : Disk → LinkedTree → τ → Disk

/-- The links that have gone make room first. -/
instance : Image LinkedTree where
  onto d before after :=
    let gone := before.links.filter fun link => (after.links.lookup link.1).isNone
    (gone.foldl (fun d link => d.drop link.1) d).update before.tree after.tree

instance : Image FileTree where
  onto d before after := d.update before.shown after

end ReleaseKit
