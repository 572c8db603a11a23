/-
ReleaseKit.Manifest — what a release builds and where it goes.

A manifest names the binaries, their sources and flags, and for each of the two
environments the bucket it publishes to and the targets it builds. What a
manifest file leaves out keeps the value of `Manifest.standard`. The fields are
listed once, as the values of `Manifest.Field`, `Profile.Field` and
`Bundle.Field`; the writer and the reader both go by these lists.
-/
import ReleaseKit.Environment
import ReleaseKit.Json

namespace ReleaseKit

/-! ## §1 Records -/

/-- The bucket of an environment and the targets built for it, in order. -/
structure Profile where
  bucket : String
  matrix : List Target
deriving DecidableEq, Repr

/-- A distributable archive: the binary of one target under the archive's name. -/
structure Bundle where
  name : String
  target : Target
deriving DecidableEq, Repr

/-- What a release builds and where it goes. -/
structure Manifest where
  /-- what the names of the client binaries start with -/
  cliName : String
  /-- the name of the client binary inside the bundles -/
  canonicalName : String
  apiName : String
  cliSources : List String
  apiSources : List String
  ldflags : String
  /-- whether a full release builds and publishes the API binary -/
  includeApi : Bool
  apiTarget : Target
  prod : Profile
  dev : Profile
  bundles : List Bundle
deriving DecidableEq, Repr

namespace Manifest

/-- The sources of the standard client. -/
def standardSources : List String :=
  ["main", "build", "stack", "apps", "deploy", "kubectl", "env", "logs", "helper", "run", "infra",
    "upgrade", "login"].map fun name => "cmd/" ++ name ++ ".go"

/-- The release as it is made without a manifest file. -/
def standard : Manifest where
  cliName := "datacol"
  canonicalName := "datacol"
  apiName := "apictl"
  cliSources := standardSources
  apiSources := ["./api"]
  ldflags := "-s -w"
  includeApi := true
  apiTarget := ⟨.linux, .amd64⟩
  prod := ⟨"gs://datacol-distros", Environment.prod.defaultMatrix⟩
  dev := ⟨"gs://datacol-dev", Environment.dev.defaultMatrix⟩
  bundles := [⟨"osx", ⟨.darwin, .amd64⟩⟩, ⟨"linux", ⟨.linux, .amd64⟩⟩]

/-- The profile of an environment. -/
def profile (m : Manifest) : Environment → Profile
  | .prod => m.prod
  | .dev => m.dev

end Manifest

/-! ## §2 Fields -/

inductive Profile.Field where
  | bucket
  | matrix
deriving DecidableEq, Repr

namespace Profile.Field

def all : List Profile.Field := [bucket, matrix]

def label : Profile.Field → String
  | bucket => "bucket"
  | matrix => "matrix"

end Profile.Field

inductive Bundle.Field where
  | name
  | target
deriving DecidableEq, Repr

namespace Bundle.Field

def all : List Bundle.Field := [name, target]

def label : Bundle.Field → String
  | name => "name"
  | target => "target"

end Bundle.Field

/-- The fields of a manifest, in their order. -/
inductive Manifest.Field where
  | cliName
  | canonicalName
  | apiName
  | cliSources
  | apiSources
  | ldflags
  | includeApi
  | apiTarget
  | prod
  | dev
  | bundles
deriving DecidableEq, Repr

namespace Manifest.Field

def all : List Manifest.Field :=
  [cliName, canonicalName, apiName, cliSources, apiSources, ldflags, includeApi, apiTarget, prod,
    dev, bundles]

/-- The name of a field in a manifest file. -/
def label : Manifest.Field → String
  | cliName => "cli_name"
  | canonicalName => "canonical_name"
  | apiName => "api_name"
  | cliSources => "cli_sources"
  | apiSources => "api_sources"
  | ldflags => "ldflags"
  | includeApi => "include_api"
  | apiTarget => "api_target"
  | prod => "prod"
  | dev => "dev"
  | bundles => "bundles"

end Manifest.Field

/-! ## §3 The written form -/

def Target.toJson (t : Target) : Json := .text t.pair

/-- A list of targets as an array. -/
def Target.listToJson (l : List Target) : Json := .array (l.map Target.toJson)

/-- The value of one field of a profile. -/
def Profile.fieldJson (p : Profile) : Profile.Field → Json
  | .bucket => .text p.bucket
  | .matrix => Target.listToJson p.matrix

def Profile.toJson (p : Profile) : Json :=
  .object (Profile.Field.all.map fun field => (field.label, p.fieldJson field))

/-- The value of one field of a bundle. -/
def Bundle.fieldJson (b : Bundle) : Bundle.Field → Json
  | .name => .text b.name
  | .target => b.target.toJson

def Bundle.toJson (b : Bundle) : Json :=
  .object (Bundle.Field.all.map fun field => (field.label, b.fieldJson field))

namespace Manifest

/-- The value of one field. -/
def fieldJson (m : Manifest) : Field → Json
  | .cliName => .text m.cliName
  | .canonicalName => .text m.canonicalName
  | .apiName => .text m.apiName
  | .cliSources => Json.texts m.cliSources
  | .apiSources => Json.texts m.apiSources
  | .ldflags => .text m.ldflags
  | .includeApi => .bool m.includeApi
  | .apiTarget => m.apiTarget.toJson
  | .prod => m.prod.toJson
  | .dev => m.dev.toJson
  | .bundles => .array (m.bundles.map Bundle.toJson)

/-- The manifest as an object of all its fields, in their order. -/
def toJson (m : Manifest) : Json :=
  .object (Field.all.map fun field => (field.label, m.fieldJson field))

/-- The compact text of a manifest. -/
def text (m : Manifest) : String := m.toJson.compact

end Manifest

end ReleaseKit
