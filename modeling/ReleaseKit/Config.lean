/-
ReleaseKit.Config — the configuration of one release.

A configuration is put together once from the settings, the manifest and the
staging directory, and is checked then: the version can name a directory, and
the selected environment has a target to build. Both are part of the type.
Every local path and remote address of a release is derived from it here.

  §1 Configurations  — `Config`, `Config.assemble`.
  §2 Local paths     — below `<dist>/<version>`, and the pointer beside it.
  §3 Remote names    — below the bucket of the environment.
-/
import ReleaseKit.Manifest
import ReleaseKit.Settings

namespace ReleaseKit

/-! ## §1 Configurations -/

/-- A checked configuration. -/
structure Config where
  version : Version
  /-- the environment tag as it was given -/
  envTag : String
  manifest : Manifest
  distDir : LocalPath
  matrix_ne_nil : (manifest.profile (.ofTag envTag)).matrix ≠ []

namespace Config

def environment (c : Config) : Environment := .ofTag c.envTag

/-- The profile of the selected environment. -/
def profile (c : Config) : Profile := c.manifest.profile c.environment

/-- The targets built, in order. -/
def matrix (c : Config) : List Target := c.profile.matrix

/-- A text without the slashes that end it. -/
def dropTrailingSlashes (s : String) : String :=
  String.ofList (s.toList.reverse.dropWhile (· == '/')).reverse

/-- Where the selected environment publishes to, without a slash at the end. -/
def bucket (c : Config) : String := dropTrailingSlashes c.profile.bucket

/-- The staging directory unless another is given. -/
def defaultDistDir : String := "dist"

/-- Puts a configuration together: the version is checked first, the matrix of
the selected environment second. -/
def assemble (settings : Settings) (manifest : Manifest) (distDir : LocalPath) :
    Except ConfigError Config :=
  match Version.ofText settings.version with
  | .error flaw => .error (.invalidVersion settings.version flaw)
  | .ok version =>
    if h : (manifest.profile (.ofTag settings.envTag)).matrix ≠ [] then
      .ok ⟨version, settings.envTag, manifest, distDir, h⟩
    else .error (.emptyMatrix (Environment.ofTag settings.envTag).name)

/-- What a configuration is put together of: nothing else is kept, and all that is checked
is part of it. -/
theorem assemble_eq_ok {settings : Settings} {manifest : Manifest} {distDir : LocalPath}
    {c : Config} : assemble settings manifest distDir = .ok c ↔
      c.version.text = settings.version ∧ c.envTag = settings.envTag ∧ c.manifest = manifest ∧
        c.distDir = distDir := by
  unfold assemble
  constructor
  · intro h
    split at h
    · cases h
    · rename_i version hversion
      split at h
      · obtain rfl := Except.ok.inj h
        exact ⟨Version.ofText_eq_ok.mp hversion, rfl, rfl, rfl⟩
      · cases h
  · obtain ⟨version, envTag, m, dist, hmatrix⟩ := c
    rintro ⟨hversion, rfl, rfl, rfl⟩
    rw [Version.ofText_eq_ok.mpr hversion]
    exact dif_pos hmatrix

/-! ## §2 Local paths -/

/-- `<dist>/<version>` -/
def versionDir (c : Config) : LocalPath := c.distDir.join c.version.text

/-- The binary of the client for one target. -/
def binaryPath (c : Config) (t : Target) : LocalPath :=
  c.versionDir.join (t.binaryName c.manifest.cliName)

def apiBinaryPath (c : Config) : LocalPath := c.versionDir.join c.manifest.apiName

def apiArchivePath (c : Config) : LocalPath := c.versionDir.join (c.manifest.apiName ++ ".zip")

/-- The copy of a client binary under the name it has inside the bundles. -/
def canonicalPath (c : Config) : LocalPath := c.versionDir.join c.manifest.canonicalName

def bundlePath (c : Config) (b : Bundle) : LocalPath := c.versionDir.join (b.name ++ ".zip")

/-- The file name of the pointer to the version published last. -/
def latestName : String := "latest.txt"

/-- `<dist>/latest.txt` -/
def latestPath (c : Config) : LocalPath := c.distDir.join latestName

/-- What the pointer says. -/
def latestContents (c : Config) : String := c.version.text ++ "\n"

/-! ## §3 Remote names -/

/-- `<bucket>/binaries` -/
def binariesRemote (c : Config) : String := c.bucket ++ "/binaries"

/-- `<bucket>/binaries/<version>` -/
def versionRemote (c : Config) : String := c.binariesRemote ++ "/" ++ c.version.text

/-- `<bucket>/binaries/<version>/<api>.zip` -/
def apiArchiveRemote (c : Config) : String :=
  c.versionRemote ++ "/" ++ c.manifest.apiName ++ ".zip"

/-- `<bucket>/<bundle>.zip` -/
def bundleRemote (c : Config) (b : Bundle) : String := c.bucket ++ "/" ++ b.name ++ ".zip"

/-- `<bucket>/binaries/latest.txt` -/
def latestRemote (c : Config) : String := c.binariesRemote ++ "/" ++ latestName

end Config

end ReleaseKit
