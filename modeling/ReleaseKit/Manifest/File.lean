/-
ReleaseKit.Manifest.File — reading a manifest from its file.
-/
import ReleaseKit.FileSystem
import ReleaseKit.Manifest.Reader

namespace ReleaseKit

/-- The manifest in a file. -/
def Manifest.load {τ : Type} [FileSystem τ] (t : τ) (cwd : Location) (path : LocalPath) :
    Except ConfigError Manifest :=
  match FileSystem.readText t cwd path with
  | .error fault => .error (.readManifest path fault)
  | .ok text =>
    match Manifest.ofText text with
    | .error fault => .error (.parseManifest path fault)
    | .ok manifest => .ok manifest

end ReleaseKit
