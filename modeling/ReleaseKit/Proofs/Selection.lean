/-
ReleaseKit.Proofs.Selection — a release reads the profile of its environment, and no other.

A manifest has a profile for each of the two environments. What is planned and what is named
comes from no more of a configuration than `Config.Agree` lists: the version, the staging
directory, the matrix, the bucket up to the slashes that end it, and what of the manifest
belongs to no environment. So configurations that agree in this have the same names
(`Config.Agree.sameNames`) and the same plans (`Config.Agree.plan_eq`), and it is the
selection alone that has to be looked at: of the tag only whether it is that of production
is read, and of the profiles only the one that it selects (`selected_profile_matters`).

  §1 Buckets    — slashes at the end of a bucket make no difference.
  §2 Reading    — `Config.Agree`: what names and plans are made from.
  §3 Selecting  — `Manifest.SelectsAlike`, and the theorem.
-/
import ReleaseKit.Proofs.Staging

namespace ReleaseKit

/-! ## §1 Buckets -/

/-- A text of slashes. -/
def slashes (count : Nat) : String := String.ofList (List.replicate count '/')

namespace Config

/-- Slashes that are added at the end are dropped again. -/
theorem dropTrailingSlashes_append_slashes (stem : String) (count : Nat) :
    dropTrailingSlashes (stem ++ slashes count) = dropTrailingSlashes stem := by
  have hslash : ∀ c ∈ List.replicate count '/', (c == '/') = true := by
    intro c hc
    rw [List.eq_of_mem_replicate hc, beq_self_eq_true]
  simp [dropTrailingSlashes, slashes, List.dropWhile_append_of_pos hslash]

theorem getLast?_dropTrailingSlashes (s : String) :
    (dropTrailingSlashes s).toList.getLast? ≠ some '/' := by
  rw [dropTrailingSlashes, String.toList_ofList, List.getLast?_reverse]
  intro hhead
  have hnot := List.head?_dropWhile_not (· == '/') s.toList.reverse
  rw [hhead] at hnot
  exact absurd hnot (by decide)

end Config

/-! ## §2 Reading -/

/-- Manifests that are the same but for their profiles and their bundles. -/
structure Manifest.Agree (m m' : Manifest) : Prop where
  cliName : m'.cliName = m.cliName
  canonicalName : m'.canonicalName = m.canonicalName
  apiName : m'.apiName = m.apiName
  cliSources : m'.cliSources = m.cliSources
  apiSources : m'.apiSources = m.apiSources
  ldflags : m'.ldflags = m.ldflags
  includeApi : m'.includeApi = m.includeApi
  apiTarget : m'.apiTarget = m.apiTarget

namespace Config

/-- Configurations that agree in all that names and plans are made from, but for the list
of the bundles. -/
structure Agree (c c' : Config) : Prop where
  version : c'.version = c.version
  distDir : c'.distDir = c.distDir
  bucket : c'.bucket = c.bucket
  matrix : c'.matrix = c.matrix
  manifest : c.manifest.Agree c'.manifest

/-- Configurations that give everything the same name, on the local disk and in the store. -/
structure SameNames (c c' : Config) : Prop where
  bucket : c'.bucket = c.bucket
  versionDir : c'.versionDir = c.versionDir
  binaryPath : ∀ target, c'.binaryPath target = c.binaryPath target
  apiBinaryPath : c'.apiBinaryPath = c.apiBinaryPath
  apiArchivePath : c'.apiArchivePath = c.apiArchivePath
  canonicalPath : c'.canonicalPath = c.canonicalPath
  bundlePath : ∀ b, c'.bundlePath b = c.bundlePath b
  latestPath : c'.latestPath = c.latestPath
  latestContents : c'.latestContents = c.latestContents
  binariesRemote : c'.binariesRemote = c.binariesRemote
  versionRemote : c'.versionRemote = c.versionRemote
  apiArchiveRemote : c'.apiArchiveRemote = c.apiArchiveRemote
  bundleRemote : ∀ b, c'.bundleRemote b = c.bundleRemote b
  latestRemote : c'.latestRemote = c.latestRemote

namespace Agree

variable {c c' : Config}

/-- What agrees has the same names. -/
theorem sameNames (h : c.Agree c') : c.SameNames c' := by
  have hdir : c'.versionDir = c.versionDir := by
    rw [Config.versionDir, h.version, h.distDir, Config.versionDir]
  have hbinaries : c'.binariesRemote = c.binariesRemote := by
    rw [Config.binariesRemote, h.bucket, Config.binariesRemote]
  have hversion : c'.versionRemote = c.versionRemote := by
    rw [Config.versionRemote, hbinaries, h.version, Config.versionRemote]
  exact {
    bucket := h.bucket
    versionDir := hdir
    binaryPath := fun target => by
      rw [Config.binaryPath, hdir, h.manifest.cliName, Config.binaryPath]
    apiBinaryPath := by rw [Config.apiBinaryPath, hdir, h.manifest.apiName, Config.apiBinaryPath]
    apiArchivePath := by
      rw [Config.apiArchivePath, hdir, h.manifest.apiName, Config.apiArchivePath]
    canonicalPath := by
      rw [Config.canonicalPath, hdir, h.manifest.canonicalName, Config.canonicalPath]
    bundlePath := fun b => by rw [Config.bundlePath, hdir, Config.bundlePath]
    latestPath := by rw [Config.latestPath, h.distDir, Config.latestPath]
    latestContents := by rw [Config.latestContents, h.version, Config.latestContents]
    binariesRemote := hbinaries
    versionRemote := hversion
    apiArchiveRemote := by
      rw [Config.apiArchiveRemote, hversion, h.manifest.apiName, Config.apiArchiveRemote]
    bundleRemote := fun b => by rw [Config.bundleRemote, h.bucket, Config.bundleRemote]
    latestRemote := by rw [Config.latestRemote, hbinaries, Config.latestRemote] }

/-- What agrees builds the same bundles of a list. -/
theorem builds_eq (h : c.Agree c') : c'.builds = c.builds := by
  funext b
  rw [builds, h.matrix, builds]

/-- What agrees packs a bundle in the same way. -/
theorem bundleActions_eq (h : c.Agree c') : c'.bundleActions = c.bundleActions := by
  funext b
  have hnames := h.sameNames
  rw [bundleActions, hnames.binaryPath, hnames.canonicalPath, h.manifest.canonicalName,
    hnames.bundlePath, hnames.bundleRemote, bundleActions]

theorem planApi_eq (h : c.Agree c') : c'.planApi = c.planApi := by
  have hnames := h.sameNames
  rw [planApi, hnames.versionDir, h.manifest.apiTarget, h.manifest.ldflags, hnames.apiBinaryPath,
    h.manifest.apiSources, h.manifest.apiName, hnames.apiArchivePath, hnames.apiArchiveRemote,
    planApi]

theorem planBuild_eq (h : c.Agree c') : c'.planBuild = c.planBuild := by
  have hbuild : c'.buildAction = c.buildAction := by
    funext target
    rw [buildAction, h.manifest.ldflags, h.sameNames.binaryPath, h.manifest.cliSources, buildAction]
  rw [planBuild, h.sameNames.versionDir, h.matrix, hbuild, planBuild]

theorem planPublish_eq (h : c.Agree c') : c'.planPublish = c.planPublish := by
  have hnames := h.sameNames
  rw [planPublish, hnames.versionDir, hnames.binariesRemote, hnames.latestPath,
    hnames.latestContents, hnames.latestRemote, planPublish]

/-- **What agrees plans the same**, if it builds the same bundles: those that are left out
have no part in a plan. -/
theorem plan_eq (h : c.Agree c') (hbundles : c'.builtBundles = c.builtBundles) (step : Step) :
    step.plan c' = step.plan c := by
  have hclean : c'.planClean = c.planClean := by
    rw [planClean, h.sameNames.versionDir, planClean]
  have harchive : c'.planArchive = c.planArchive := by
    rw [planArchive_eq, ← builtBundles, hbundles, h.bundleActions_eq, planArchive_eq, builtBundles]
  cases step with
  | clean => exact hclean
  | api => exact h.planApi_eq
  | build => exact h.planBuild_eq
  | archive => exact harchive
  | publish => exact h.planPublish_eq
  | all =>
    rw [Step.plan, hclean, h.manifest.includeApi, h.planApi_eq, h.planBuild_eq, harchive,
      h.planPublish_eq, Step.plan]

end Agree

end Config

/-! ## §3 Selecting -/

/-- The environment that is not selected. -/
def Environment.other : Environment → Environment
  | prod => dev
  | dev => prod

theorem Environment.ofTag_congr {tag tag' : String} (h : tag' = "prod" ↔ tag = "prod") :
    ofTag tag' = ofTag tag := by
  simp only [ofTag, h]

/-- The manifest with another profile for an environment. -/
def Manifest.withProfile (m : Manifest) (p : Profile) : Environment → Manifest
  | .prod => { m with prod := p }
  | .dev => { m with dev := p }

/-- Manifests that differ only in the whole profile of the environment that is not selected
and in how many slashes end the bucket of the one that is. -/
def Manifest.SelectsAlike (environment : Environment) (m m' : Manifest) : Prop :=
  ∃ unused stem count count', (m.profile environment).bucket = stem ++ slashes count ∧
    m' = (m.withProfile unused environment.other).withProfile
      ⟨stem ++ slashes count', (m.profile environment).matrix⟩ environment

namespace Manifest.SelectsAlike

variable {environment : Environment} {m m' : Manifest}

theorem agree (h : m.SelectsAlike environment m') : m.Agree m' ∧ m'.bundles = m.bundles := by
  obtain ⟨unused, stem, count, count', -, rfl⟩ := h
  cases environment <;> exact ⟨⟨rfl, rfl, rfl, rfl, rfl, rfl, rfl, rfl⟩, rfl⟩

theorem profile (h : m.SelectsAlike environment m') :
    (m'.profile environment).matrix = (m.profile environment).matrix ∧
      Config.dropTrailingSlashes (m'.profile environment).bucket =
        Config.dropTrailingSlashes (m.profile environment).bucket := by
  obtain ⟨unused, stem, count, count', hbucket, rfl⟩ := h
  rw [hbucket, Config.dropTrailingSlashes_append_slashes]
  cases environment <;> exact ⟨rfl, Config.dropTrailingSlashes_append_slashes stem count'⟩

end Manifest.SelectsAlike

namespace Config

variable {c c' : Config}

/-- What selects alike agrees. -/
theorem agree_of_selectsAlike (hversion : c'.version = c.version) (hdist : c'.distDir = c.distDir)
    (henvironment : c'.environment = c.environment)
    (h : c.manifest.SelectsAlike c.environment c'.manifest) : c.Agree c' := by
  obtain ⟨hmatrix, hbucket⟩ := h.profile
  refine ⟨hversion, hdist, ?_, ?_, h.agree.1⟩
  · rw [bucket, profile, henvironment, hbucket, bucket, profile]
  · rw [matrix, profile, henvironment, hmatrix, matrix, profile]

end Config

/-- **Only the selected profile matters.** Take two configurations of one version and one
staging directory whose tags select the same environment and whose manifests differ only in
the profile that is not selected and in how many slashes end the selected bucket. Every step
has the same plan and leaves out the same bundles, with the same environment to warn about
them; everything has the same path and the same address, and no slash ends the bucket that
the addresses begin with. -/
theorem selected_profile_matters (c c' : Config) (hversion : c'.version = c.version)
    (hdist : c'.distDir = c.distDir) (htag : c'.envTag = "prod" ↔ c.envTag = "prod")
    (hmanifest : c.manifest.SelectsAlike c.environment c'.manifest) :
    (∀ step : Step, step.plan c' = step.plan c ∧ step.skipped c' = step.skipped c) ∧
    c'.environment = c.environment ∧ c.SameNames c' ∧
    c.bucket.toList.getLast? ≠ some '/' ∧ c'.bucket.toList.getLast? ≠ some '/' := by
  have henvironment : c'.environment = c.environment := Environment.ofTag_congr htag
  have hagree := Config.agree_of_selectsAlike hversion hdist henvironment hmanifest
  have hbundles : c'.manifest.bundles = c.manifest.bundles := hmanifest.agree.2
  have hbuilt : c'.builtBundles = c.builtBundles := by
    rw [Config.builtBundles, hbundles, hagree.builds_eq, Config.builtBundles]
  have hunbuilt : c'.unbuiltBundles = c.unbuiltBundles := by
    rw [Config.unbuiltBundles_eq, hbundles, hagree.builds_eq, Config.unbuiltBundles_eq]
  refine ⟨fun step => ⟨hagree.plan_eq hbuilt step, ?_⟩, henvironment, hagree.sameNames,
    Config.getLast?_dropTrailingSlashes _, Config.getLast?_dropTrailingSlashes _⟩
  cases step with
  | all | archive => exact hunbuilt
  | clean | api | build | publish => rfl

/-- A release to `production`, which is not the tag of the production environment, reads
nothing of the profile of that environment, not even that it builds nothing. -/
theorem unselected_profile_is_not_read :
    let c : Config := ⟨⟨"1.0", by decide⟩, "dev", .standard, ⟨"dist"⟩, by decide⟩
    let manifest : Manifest := { Manifest.standard with
      prod := ⟨"gs://elsewhere", []⟩
      dev := ⟨"gs://datacol-dev//", Environment.dev.defaultMatrix⟩ }
    let c' : Config := ⟨⟨"1.0", by decide⟩, "production", manifest, ⟨"dist"⟩, by decide⟩
    c.manifest.SelectsAlike c.environment c'.manifest ∧ c'.profile.bucket ≠ c.profile.bucket ∧
      Step.plan c' .all = Step.plan c .all ∧ c'.bucket = "gs://datacol-dev" := by
  intro c manifest c'
  have halike : c.manifest.SelectsAlike c.environment c'.manifest :=
    ⟨⟨"gs://elsewhere", []⟩, "gs://datacol-dev", 0, 2, by decide, by decide⟩
  obtain ⟨hplans, -, hnames, -, -⟩ := selected_profile_matters c c' rfl rfl (by decide) halike
  have hbucket : c.bucket = "gs://datacol-dev" := by decide
  exact ⟨halike, by decide, (hplans .all).1, hnames.bucket.trans hbucket⟩

end ReleaseKit
