/-
ReleaseKit.Summary — what a finished run did.

A summary counts the actions and the external commands and lists the archives
with their sizes. Two summaries add up: counts are added, archives are listed
one after another.
-/
import ReleaseKit.Json
import ReleaseKit.LocalPath

namespace ReleaseKit

/-- An archive that was written, with its size in bytes. -/
structure ArchiveRecord where
  path : LocalPath
  size : Nat
deriving DecidableEq, Repr

/-- What a run did. -/
structure Summary where
  actions : Nat
  commands : Nat
  archives : List ArchiveRecord
deriving DecidableEq, Repr

namespace Summary

/-- Nothing was done. -/
def empty : Summary := ⟨0, 0, []⟩

/-- What two runs did one after the other. -/
instance : Append Summary where
  append a b := ⟨a.actions + b.actions, a.commands + b.commands, a.archives ++ b.archives⟩

theorem append_def (a b : Summary) :
    a ++ b = ⟨a.actions + b.actions, a.commands + b.commands, a.archives ++ b.archives⟩ := rfl

@[simp] theorem empty_append (a : Summary) : empty ++ a = a := by
  simp [append_def, empty]

@[simp] theorem append_empty (a : Summary) : a ++ empty = a := by
  simp [append_def, empty]

theorem append_assoc (a b c : Summary) : a ++ b ++ c = a ++ (b ++ c) := by
  simp [append_def, Nat.add_assoc]

end Summary

def ArchiveRecord.toJson (r : ArchiveRecord) : Json :=
  .object [("path", .text r.path.text), ("size", .nat r.size)]

/-- The members that describe a summary. -/
def Summary.members (s : Summary) : List (String × Json) :=
  [("actions", .nat s.actions), ("commands", .nat s.commands),
    ("archives", .array (s.archives.map ArchiveRecord.toJson))]

end ReleaseKit
