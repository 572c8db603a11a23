/-
ReleaseKit.FileTree.Listing — what stands in a directory.
-/
import ReleaseKit.FileTree.Basic

namespace ReleaseKit

/-- The names that lead from one location to another in it, the outermost
first. -/
def Location.relative (outer inner : Location) : List String :=
  (inner.take (inner.length - outer.length)).reverse

theorem Location.relative_append (outer names : Location) :
    relative outer (names ++ outer) = names.reverse := by
  simp [relative]

/-- Everything that stands in a directory at any depth, with the names that lead
there from it. -/
def FileTree.listing (t : FileTree) (l : Location) : List (List String × Node) :=
  t.toList.filterMap fun (m, node) =>
    if Location.below l m then some (Location.relative l m, node) else none

end ReleaseKit
