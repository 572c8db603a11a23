/-
ReleaseKit.Environment — the two deployment environments.

The tag `prod` selects the production environment; every other tag, whatever
its case, is a development release.
-/
import ReleaseKit.Target

namespace ReleaseKit

/-- Where a release goes. -/
inductive Environment where
  | prod
  | dev
deriving DecidableEq, Repr

namespace Environment

def ofTag (tag : String) : Environment := if tag = "prod" then prod else dev

def name : Environment → String
  | prod => "prod"
  | dev => "dev"

/-- The targets built for an environment unless a manifest says otherwise, in
build order. -/
def defaultMatrix : Environment → List Target
  | prod =>
    [⟨.darwin, .i386⟩, ⟨.darwin, .amd64⟩, ⟨.linux, .arm⟩, ⟨.linux, .i386⟩, ⟨.linux, .amd64⟩,
      ⟨.windows, .i386⟩, ⟨.windows, .amd64⟩]
  | dev => [⟨.darwin, .amd64⟩, ⟨.linux, .amd64⟩]

@[simp] theorem ofTag_prod : ofTag "prod" = prod := rfl

theorem ofTag_of_ne {tag : String} (h : tag ≠ "prod") : ofTag tag = dev := by
  simp [ofTag, h]

end Environment

end ReleaseKit
