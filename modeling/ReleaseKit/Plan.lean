/-
ReleaseKit.Plan — the steps of a release and what each of them does.

A step is planned from the configuration alone: nothing is looked up and nothing
is run. The plan of a full release is the plans of the five single steps one
after another, the API step only if the manifest includes it. Packing goes through
the bundles once: a bundle whose target is built adds its actions to the plan, any other
is noted as left out (`Config.packBundles`), and `Step.skipped` lists these.
-/
import ReleaseKit.Action
import ReleaseKit.Config
import ReleaseKit.Toolchain

namespace ReleaseKit

/-! ## §1 Steps -/

/-- A named part of a release. -/
inductive Step where
  /-- everything, in order -/
  | all
  /-- makes the version directory anew -/
  | clean
  /-- builds, archives and uploads the API binary -/
  | api
  /-- builds the client for every target of the matrix -/
  | build
  /-- packs and uploads the bundles -/
  | archive
  /-- uploads the version directory and moves the pointer -/
  | publish
deriving DecidableEq, Repr

namespace Step

def every : List Step := [all, clean, api, build, archive, publish]

def name : Step → String
  | all => "all"
  | clean => "clean"
  | api => "api"
  | build => "build"
  | archive => "archive"
  | publish => "publish"

def ofName? (s : String) : Option Step := every.find? fun step => step.name == s

end Step

/-! ## §2 Plans of the single steps -/

namespace Config

def planClean (c : Config) : List Action := [.resetDir c.versionDir]

def planApi (c : Config) : List Action :=
  [.createDir c.versionDir,
    .exec (Toolchain.goBuild c.manifest.apiTarget c.manifest.ldflags c.apiBinaryPath
      c.manifest.apiSources),
    .archive c.apiBinaryPath c.manifest.apiName c.apiArchivePath,
    .exec (Toolchain.upload c.apiArchivePath c.apiArchiveRemote),
    .exec (Toolchain.grantPublicRead c.apiArchiveRemote)]

/-- Builds the client for one target. -/
def buildAction (c : Config) (t : Target) : Action :=
  .exec (Toolchain.goBuild t c.manifest.ldflags (c.binaryPath t) c.manifest.cliSources)

def planBuild (c : Config) : List Action :=
  .createDir c.versionDir :: c.matrix.map c.buildAction

/-- Whether a bundle's target is among those built. -/
def builds (c : Config) (b : Bundle) : Bool := c.matrix.contains b.target

/-- Packs one bundle, uploads it and opens it to all readers. -/
def bundleActions (c : Config) (b : Bundle) : List Action :=
  [.copyFile (c.binaryPath b.target) c.canonicalPath,
    .archive c.canonicalPath c.manifest.canonicalName (c.bundlePath b),
    .exec (Toolchain.upload (c.bundlePath b) (c.bundleRemote b)),
    .exec (Toolchain.grantPublicRead (c.bundleRemote b))]

/-- Goes through bundles: the actions that pack those that can be packed, and the bundles
that are left out because their target is not built. -/
def packBundles (c : Config) : List Bundle → List Action × List Bundle
  | [] => ([], [])
  | b :: rest =>
    let (actions, skipped) := c.packBundles rest
    if c.builds b then (c.bundleActions b ++ actions, skipped) else (actions, b :: skipped)

theorem packBundles_eq (c : Config) (bundles : List Bundle) :
    c.packBundles bundles =
      ((bundles.filter c.builds).flatMap c.bundleActions, bundles.filter fun b => !c.builds b) := by
  induction bundles with
  | nil => rfl
  | cons b rest ih =>
    rw [packBundles, ih]
    cases hb : c.builds b <;> simp [hb]

def planArchive (c : Config) : List Action := (c.packBundles c.manifest.bundles).1

theorem planArchive_eq (c : Config) :
    c.planArchive = (c.manifest.bundles.filter c.builds).flatMap c.bundleActions :=
  congrArg Prod.fst (c.packBundles_eq c.manifest.bundles)

def planPublish (c : Config) : List Action :=
  [.exec (Toolchain.uploadDir c.versionDir c.binariesRemote),
    .writeFile c.latestPath c.latestContents,
    .exec (Toolchain.upload c.latestPath c.latestRemote),
    .exec (Toolchain.grantPublicReadBelow c.binariesRemote)]

/-- The bundles that packing leaves out. -/
def unbuiltBundles (c : Config) : List Bundle := (c.packBundles c.manifest.bundles).2

theorem unbuiltBundles_eq (c : Config) :
    c.unbuiltBundles = c.manifest.bundles.filter fun b => !c.builds b :=
  congrArg Prod.snd (c.packBundles_eq c.manifest.bundles)

end Config

/-! ## §3 Plans -/

namespace Step

/-- The single steps that a step consists of. -/
def parts (c : Config) : Step → List Step
  | all => [clean] ++ (if c.manifest.includeApi then [api] else []) ++ [build, archive, publish]
  | step => [step]

/-- The actions of a step, in order. -/
def plan (c : Config) : Step → List Action
  | all =>
    c.planClean ++ (if c.manifest.includeApi then c.planApi else []) ++ c.planBuild ++
      c.planArchive ++ c.planPublish
  | clean => c.planClean
  | api => c.planApi
  | build => c.planBuild
  | archive => c.planArchive
  | publish => c.planPublish

/-- The bundles that planning the step warns about. -/
def skipped (c : Config) : Step → List Bundle
  | all => c.unbuiltBundles
  | archive => c.unbuiltBundles
  | _ => []

/-- The warning for a bundle that is left out. -/
def skippedMessage : String := "bundle target is not in the platform matrix, skipping"

/-- The plan of a step is that of its parts, one after another. -/
theorem plan_eq_flatMap_parts (c : Config) (step : Step) :
    step.plan c = (step.parts c).flatMap (plan c) := by
  cases step <;> try simp [plan, parts]
  cases c.manifest.includeApi <;> simp [plan]

end Step

end ReleaseKit
