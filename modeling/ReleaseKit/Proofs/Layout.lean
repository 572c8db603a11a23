/-
ReleaseKit.Proofs.Layout — where the paths of a release lead.

A release keeps to one directory, `<dist>/<version>`, and to the pointer beside
it. Every name that it joins to the directory must be plain: then the path leads
to that name in the directory and nowhere else. The names that the manifest gives
as they are have to be plain; the names that are made from others are plain as
soon as these hold no slash, since they get a dash or an ending.

  §1 Plain names   — `PlainName`, `Manifest.PlainNames`.
  §2 Places        — the directory of the version, its files, the pointer.
  §3 Plans         — `Action.StaysIn`: no action but one writes elsewhere.
-/
import ReleaseKit.Plan
import ReleaseKit.Proofs.Footprint
import ReleaseKit.Proofs.Shown

namespace ReleaseKit

open Location

/-! ## §1 Plain names -/

/-- A name that leads from a directory to something in it. -/
structure PlainName (name : String) : Prop where
  ne_empty : name ≠ ""
  ne_here : name ≠ "."
  ne_up : name ≠ ".."
  slash_free : '/' ∉ name.toList

namespace PlainName

variable {name : String}

theorem iff (name : String) :
    PlainName name ↔ name ≠ "" ∧ name ≠ "." ∧ name ≠ ".." ∧ '/' ∉ name.toList :=
  ⟨fun h => ⟨h.1, h.2, h.3, h.4⟩, fun h => ⟨h.1, h.2.1, h.2.2.1, h.2.2.2⟩⟩

instance (name : String) : Decidable (PlainName name) := decidable_of_iff' _ (iff name)

/-- Only the shortest names mean something else. -/
theorem of_length (h : '/' ∉ name.toList) (hlen : 2 < name.length) : PlainName name := by
  refine ⟨?_, ?_, ?_, h⟩
  · rintro rfl
    exact absurd hlen (by decide)
  · rintro rfl
    exact absurd hlen (by decide)
  · rintro rfl
    exact absurd hlen (by decide)

theorem isStep (h : PlainName name) :
    LocalPath.isStep (OsText.ofString name).code = true := by
  simp [LocalPath.isStep, h.ne_empty, h.ne_here]

theorem code_slash_free (h : PlainName name) : '/' ∉ (OsText.ofString name).code.toList := by
  simpa using h.slash_free

theorem code_ne_up (h : PlainName name) : (OsText.ofString name).code ≠ ".." := by
  simpa using h.ne_up

/-- The name of an archive is plain. -/
theorem zip (h : '/' ∉ name.toList) : PlainName (name ++ ".zip") := by
  refine of_length ?_ ?_
  · simp [String.toList_append, h]
  · have hzip : ".zip".length = 4 := by decide
    rw [String.length_append, hzip]
    omega

/-- The name of a client binary is plain. -/
theorem binary (h : '/' ∉ name.toList) (target : Target) : PlainName (target.binaryName name) := by
  have hpair : '/' ∉ target.pair.toList ∧ 2 ≤ target.pair.length := by
    obtain ⟨os, arch⟩ := target
    cases os <;> cases arch <;> decide
  have hexe : '/' ∉ target.os.exeSuffix.toList := by
    cases target.os <;> decide
  have hdash : '/' ∉ "-".toList ∧ "-".length = 1 := by decide
  refine of_length ?_ ?_
  · simp only [Target.binaryName, String.toList_append, List.mem_append]
    rintro (((hs | hs) | hs) | hs)
    · exact h hs
    · exact hdash.1 hs
    · exact hpair.1 hs
    · exact hexe hs
  · simp only [Target.binaryName, String.length_append]
    omega

end PlainName

/-- A version is a plain name. -/
theorem Version.plainName (v : Version) : PlainName v.text := by
  obtain ⟨hne, -, hslash, -, hhere, hup⟩ := (Version.flaw?_eq_none_iff v.text).mp v.flaw?_eq_none
  exact ⟨hne, hhere, hup, hslash⟩

/-- The names of a manifest can be joined to a directory: the two that are taken as
they are are plain, the others hold no slash. -/
structure Manifest.PlainNames (m : Manifest) : Prop where
  api : PlainName m.apiName
  canonical : PlainName m.canonicalName
  cli : '/' ∉ m.cliName.toList
  bundle : ∀ b ∈ m.bundles, '/' ∉ b.name.toList

theorem Manifest.plainNames_iff (m : Manifest) : m.PlainNames ↔
    PlainName m.apiName ∧ PlainName m.canonicalName ∧ '/' ∉ m.cliName.toList ∧
      ∀ b ∈ m.bundles, '/' ∉ b.name.toList :=
  ⟨fun h => ⟨h.1, h.2, h.3, h.4⟩, fun h => ⟨h.1, h.2.1, h.2.2.1, h.2.2.2⟩⟩

instance (m : Manifest) : Decidable m.PlainNames := decidable_of_iff' _ m.plainNames_iff

/-- The release of a version by the standard manifest, staged where releases are
staged unless another directory is given. -/
def Config.standard (version : Version) : Config where
  version
  envTag := "prod"
  manifest := .standard
  distDir := ⟨Config.defaultDistDir⟩
  matrix_ne_nil := by decide

theorem Manifest.standard_plainNames : Manifest.standard.PlainNames := by decide

/-- A staging directory whose name is not text. -/
def LocalPath.byteNamed : LocalPath := ⟨.ofBytes [0x78, 0xff]⟩

/-- The same release for development, staged in a directory whose name is not text. -/
def Config.byteNamed (version : Version) : Config where
  version
  envTag := "dev"
  manifest := .standard
  distDir := .byteNamed
  matrix_ne_nil := by decide

theorem LocalPath.byteNamed_descends : byteNamed.Descends := by
  unfold Descends
  decide +kernel

/-! ## §2 Places -/

/-- A plain name leads to what it names. -/
theorem LocalPath.location_join_plain {name : String} (h : PlainName name) (dir : LocalPath)
    (cwd : Location) : (dir.join name).location cwd = OsText.encode name :: dir.location cwd := by
  rw [location_join h.code_slash_free]
  exact follow_name (by simpa using h.ne_empty) (by simpa using h.ne_here) h.code_ne_up

theorem plainName_latestName : PlainName Config.latestName := by decide

theorem LocalPath.location_join_latestName (dir : LocalPath) (cwd : Location) :
    (dir.join Config.latestName).location cwd = Config.latestName :: dir.location cwd := by
  rw [location_join_plain plainName_latestName, OsText.encode_of_not_mem (by decide)]

namespace Config

variable {c : Config} {cwd : Location}

theorem location_versionDir (c : Config) (cwd : Location) :
    c.versionDir.location cwd = OsText.encode c.version.text :: c.distDir.location cwd :=
  LocalPath.location_join_plain c.version.plainName c.distDir cwd

theorem location_latestPath (c : Config) (cwd : Location) :
    c.latestPath.location cwd = latestName :: c.distDir.location cwd :=
  LocalPath.location_join_latestName c.distDir cwd

/-- The name of the pointer is its own code. -/
theorem encode_eq_latestName {name : String} : OsText.encode name = latestName ↔ name = latestName :=
  OsText.encode_eq_iff (by decide)

theorem isText_versionDir (h : c.distDir.isText = true) : c.versionDir.isText = true :=
  LocalPath.isText_join_of_isText h c.version.text

/-- What shows of the directory of the version is the version in what shows of the staging
directory. -/
theorem asShown_versionDir (c : Config) :
    c.versionDir.asShown = c.distDir.asShown.join c.version.text :=
  LocalPath.asShown_join c.version.plainName.slash_free c.distDir

theorem standard_descends (version : Version) : (standard version).distDir.Descends := by
  rw [LocalPath.descends_iff]
  show ".." ∉ (LocalPath.ofText defaultDistDir).pieces
  decide

theorem descends_versionDir (h : c.distDir.Descends) : c.versionDir.Descends :=
  LocalPath.descends_join c.version.plainName.code_slash_free c.version.plainName.code_ne_up h

theorem descends_latestPath (h : c.distDir.Descends) : c.latestPath.Descends :=
  LocalPath.descends_join plainName_latestName.code_slash_free plainName_latestName.code_ne_up h

end Config

namespace Location

variable {here l : Location} {a b : String}

/-- Nothing stands in two things of one directory. -/
theorem eq_of_within (ha : within (a :: here) l = true) (hb : within (b :: here) l = true) :
    a = b := by
  rw [within_iff] at ha hb
  have hsuffix := List.suffix_of_suffix_length_le ha hb (by simp)
  exact (List.cons.inj (hsuffix.eq_of_length rfl)).1

/-- Of two things in one directory neither stands in the other. -/
theorem eq_of_within_sibling (h : within (a :: here) (b :: here) = true) : a = b :=
  eq_of_within h (within_self _)

end Location

/-! ## §3 Plans -/

@[simp] theorem Toolchain.flagValue_goBuild (target : Target) (ldflags : String)
    (output : LocalPath) (sources : List String) :
    (goBuild target ldflags output sources).flagValue "-o" = some output.text := by
  have hflags : ∀ rest, CommandLine.argAfter "-o"
      ((if ldflags = "" then [] else ["-ldflags=" ++ ldflags]) ++ rest) =
        CommandLine.argAfter "-o" rest := by
    intro rest
    split
    · rfl
    · have hne : "-ldflags=" ++ ldflags ≠ "-o" := by
        intro h
        have hlen := congrArg String.length h
        rw [String.length_append] at hlen
        have h₁ : "-ldflags=".length = 9 := by decide
        have h₂ : "-o".length = 2 := by decide
        omega
      simp [CommandLine.argAfter, hne]
  have hbuild : "build" ≠ "-o" := by decide
  simp [goBuild, CommandLine.flagValue, CommandLine.argAfter, hbuild, hflags]

@[simp] theorem Toolchain.output?_goBuild (target : Target) (ldflags : String) (output : LocalPath)
    (sources : List String) : (goBuild target ldflags output sources).output? =
      some output.asShown := by
  unfold CommandLine.output?
  rw [flagValue_goBuild]
  rfl

/-- Only a compiler writes a file. -/
theorem CommandLine.output?_of_ne_go {c : CommandLine} (h : c.program ≠ Toolchain.go) :
    c.output? = none := if_neg h

theorem Action.untouched_of_ne_go {command : CommandLine} (h : command.program ≠ Toolchain.go)
    (cwd l : Location) : ¬ (exec command).Reaches cwd l ∧ ¬ (exec command).Passes cwd l := by
  have hnone := CommandLine.output?_of_ne_go h
  exact ⟨fun ⟨output, hout, _⟩ => by simp [hnone] at hout,
    fun ⟨output, hout, _⟩ => by simp [hnone] at hout⟩

/-- An action that writes nothing but a directory and files right in it; a command, in what
shows of the directory. -/
def Action.StaysIn (dir : LocalPath) : Action → Prop
  | resetDir path => path = dir
  | createDir path => path = dir
  | exec command => ∀ output, command.output? = some output →
      ∃ name, PlainName name ∧ output = dir.asShown.join name
  | copyFile _ dest => ∃ name, PlainName name ∧ dest = dir.join name
  | archive _ _ dest => ∃ name, PlainName name ∧ dest = dir.join name
  | writeFile _ _ => False

namespace Config

variable {c : Config}

theorem staysIn_goBuild {dir : LocalPath} {name : String} (h : PlainName name) (target : Target)
    (ldflags : String) (sources : List String) :
    (Action.exec (Toolchain.goBuild target ldflags (dir.join name) sources)).StaysIn dir := by
  intro output hout
  rw [Toolchain.output?_goBuild, LocalPath.asShown_join h.slash_free] at hout
  exact ⟨name, h, (Option.some.inj hout).symm⟩

theorem staysIn_of_ne_go {command : CommandLine} (h : command.program ≠ Toolchain.go)
    (dir : LocalPath) : (Action.exec command).StaysIn dir := by
  intro output hout
  rw [CommandLine.output?_of_ne_go h] at hout
  cases hout

theorem gsutil_ne_go : Toolchain.gsutil ≠ Toolchain.go := by decide

theorem staysIn_of_mem_planApi (h : c.manifest.PlainNames) {a : Action} (ha : a ∈ c.planApi) :
    a.StaysIn c.versionDir := by
  simp only [planApi, List.mem_cons, List.not_mem_nil, or_false] at ha
  rcases ha with rfl | rfl | rfl | rfl | rfl
  · exact rfl
  · exact staysIn_goBuild h.api _ _ _
  · exact ⟨_, .zip h.api.slash_free, rfl⟩
  · exact staysIn_of_ne_go gsutil_ne_go _
  · exact staysIn_of_ne_go gsutil_ne_go _

theorem staysIn_of_mem_planBuild (h : c.manifest.PlainNames) {a : Action} (ha : a ∈ c.planBuild) :
    a.StaysIn c.versionDir := by
  simp only [planBuild, List.mem_cons, List.mem_map] at ha
  rcases ha with rfl | ⟨target, -, rfl⟩
  · exact rfl
  · exact staysIn_goBuild (.binary h.cli target) _ _ _

theorem staysIn_of_mem_planArchive (h : c.manifest.PlainNames) {a : Action}
    (ha : a ∈ c.planArchive) : a.StaysIn c.versionDir := by
  obtain ⟨b, hb, ha⟩ := List.mem_flatMap.mp (c.planArchive_eq ▸ ha)
  have hslash := h.bundle b (List.mem_filter.mp hb).1
  simp only [bundleActions, List.mem_cons, List.not_mem_nil, or_false] at ha
  rcases ha with rfl | rfl | rfl | rfl
  · exact ⟨_, h.canonical, rfl⟩
  · exact ⟨_, .zip hslash, rfl⟩
  · exact staysIn_of_ne_go gsutil_ne_go _
  · exact staysIn_of_ne_go gsutil_ne_go _

theorem staysIn_of_mem_planPublish {a : Action} (ha : a ∈ c.planPublish) :
    a.StaysIn c.versionDir ∨ a = .writeFile c.latestPath c.latestContents := by
  simp only [planPublish, List.mem_cons, List.not_mem_nil, or_false] at ha
  rcases ha with rfl | rfl | rfl | rfl
  · exact .inl (staysIn_of_ne_go gsutil_ne_go _)
  · exact .inr rfl
  · exact .inl (staysIn_of_ne_go gsutil_ne_go _)
  · exact .inl (staysIn_of_ne_go gsutil_ne_go _)

/-- Every action of a plan stays in the directory of the version, but for the one
that writes the pointer. -/
theorem staysIn_of_mem_plan (h : c.manifest.PlainNames) {step : Step} {a : Action}
    (ha : a ∈ step.plan c) :
    a.StaysIn c.versionDir ∨ a = .writeFile c.latestPath c.latestContents := by
  have hclean : ∀ a ∈ c.planClean, a.StaysIn c.versionDir := by simp [planClean, Action.StaysIn]
  cases step with
  | clean => exact .inl (hclean a ha)
  | api => exact .inl (staysIn_of_mem_planApi h ha)
  | build => exact .inl (staysIn_of_mem_planBuild h ha)
  | archive => exact .inl (staysIn_of_mem_planArchive h ha)
  | publish => exact staysIn_of_mem_planPublish ha
  | all =>
    simp only [Step.plan, List.mem_append] at ha
    rcases ha with (((ha | ha) | ha) | ha) | ha
    · exact .inl (hclean a ha)
    · split at ha
      · exact .inl (staysIn_of_mem_planApi h ha)
      · simp at ha
    · exact .inl (staysIn_of_mem_planBuild h ha)
    · exact .inl (staysIn_of_mem_planArchive h ha)
    · exact staysIn_of_mem_planPublish ha

end Config

namespace Action

variable {dir : LocalPath} {cwd : Location} {a : Action} {l : Location}

/-- What an action reaches that stays in a directory is in the directory, or a file of a
command in what shows of it. -/
theorem reaches_cases (h : a.StaysIn dir) (hl : a.Reaches cwd l) :
    within (dir.location cwd) l = true ∨
      ∃ name, PlainName name ∧ within ((dir.asShown.join name).location cwd) l = true := by
  have hfile : ∀ {name : String}, PlainName name → l = (dir.join name).location cwd →
      within (dir.location cwd) l = true := by
    intro name hname hplace
    rw [hplace, LocalPath.location_join_plain hname]
    exact within_iff.mpr (List.suffix_cons _ _)
  cases a with
  | resetDir path => exact .inl (h ▸ hl)
  | createDir path => exact hl.elim
  | exec command =>
    obtain ⟨output, hout, hl⟩ := hl
    obtain ⟨name, hname, rfl⟩ := h output hout
    exact .inr ⟨name, hname, hl⟩
  | copyFile source dest =>
    obtain ⟨name, hname, rfl⟩ := h
    exact .inl (hfile hname hl)
  | archive source entry dest =>
    obtain ⟨name, hname, rfl⟩ := h
    exact .inl (hfile hname hl)
  | writeFile path contents => exact h.elim

/-- Of a directory that is text all shows. -/
theorem within_of_reaches (htext : dir.isText = true) (h : a.StaysIn dir)
    (hl : a.Reaches cwd l) : within (dir.location cwd) l = true := by
  rcases reaches_cases h hl with hl | ⟨name, hname, hl⟩
  · exact hl
  · rw [LocalPath.asShown_eq_iff.mpr htext, LocalPath.location_join_plain hname] at hl
    exact within_trans (within_cons (within_self _)) hl

/-- What an action passes that stays in a directory is on the way to the directory, or to
what shows of it. -/
theorem passes_cases (hdir : dir.Descends) (h : a.StaysIn dir) (hl : a.Passes cwd l) :
    within l (dir.location cwd) = true ∨ within l (dir.asShown.location cwd) = true := by
  cases a with
  | resetDir path => exact .inl (LocalPath.within_of_onWay hdir (h ▸ hl))
  | createDir path => exact .inl (LocalPath.within_of_onWay hdir (h ▸ hl))
  | exec command =>
    obtain ⟨output, hout, parent, hparent, hl⟩ := hl
    obtain ⟨name, hname, rfl⟩ := h output hout
    have hshown := LocalPath.descends_asShown hdir
    have hjoin := LocalPath.descends_join hname.code_slash_free hname.code_ne_up hshown
    have hway := LocalPath.within_of_onWay (LocalPath.descends_parent hparent hjoin) hl
    rw [LocalPath.location_parent_join hname.code_slash_free hname.isStep hname.code_ne_up hshown
      hparent] at hway
    exact .inr hway
  | copyFile source dest => exact hl.elim
  | archive source entry dest => exact hl.elim
  | writeFile path contents => exact h.elim

theorem within_of_passes (hdir : dir.Descends) (htext : dir.isText = true) (h : a.StaysIn dir)
    (hl : a.Passes cwd l) : within l (dir.location cwd) = true := by
  have hcases := passes_cases hdir h hl
  rwa [LocalPath.asShown_eq_iff.mpr htext, or_self] at hcases

/-- Writing the pointer makes at most the directories on the way to the staging
directory. -/
theorem within_of_passes_latest {c : Config} (hdist : c.distDir.Descends)
    (hl : (writeFile c.latestPath c.latestContents).Passes cwd l) :
    within l (c.distDir.location cwd) = true := by
  obtain ⟨parent, hparent, hl⟩ := hl
  have hway := LocalPath.within_of_onWay
    (LocalPath.descends_parent hparent (Config.descends_latestPath hdist)) hl
  rwa [LocalPath.location_parent_join plainName_latestName.code_slash_free plainName_latestName.isStep
    plainName_latestName.code_ne_up hdist hparent] at hway

end Action

end ReleaseKit
