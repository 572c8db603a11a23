/-
ReleaseKit.Proofs.Supply — a full release reads only what it has made.

What an action reads and what another leaves are written into a plan as paths, by parts of
the plan that know nothing of each other: the binaries come from the matrix, their copies
from the bundles, the output of a build stands among the arguments of a command. Here the
paths are taken from the finished actions and compared. A list of actions is supplied
(`Supplied`) if all that its actions read is there at its start or is made by an action
before; a full release is supplied with nothing there. For each bundle, moreover, what is
copied has been built for the bundle's own target.

A command is given the text of a path, so it reads and writes what shows of it. All this is about
paths that are text; of others the artifacts of commands are not those of the actions.

  §1 Artifacts  — what an action reads and what it makes.
  §2 Lists      — `Supplied`, and lists put together.
  §3 Plans      — what each part of a release needs to be there.
  §4 Bundles    — which copy is made for which bundle, and from which build.
  §5 Together   — `inputs_produced`.
-/
import ReleaseKit.Proofs.Matrix

namespace ReleaseKit

/-! ## §1 Artifacts -/

/-- Something on the local disk that actions hand on: a file, or a directory with all that
it holds. -/
inductive Artifact where
  | file (path : LocalPath)
  | dir (path : LocalPath)
deriving DecidableEq, Repr

namespace CommandLine

/-- What a command copies to the store. -/
def uploaded? (c : CommandLine) : Option Artifact :=
  if c.program = Toolchain.gsutil then
    match c.args with
    | ["cp", source, _] => some (.file ⟨source⟩)
    | ["cp", "-r", source, _] => some (.dir ⟨source⟩)
    | _ => none
  else none

end CommandLine

namespace Toolchain

variable (target : Target) (ldflags url : String) (path : LocalPath) (sources : List String)

@[simp] theorem uploaded?_goBuild : (goBuild target ldflags path sources).uploaded? = none :=
  if_neg (by decide : go ≠ gsutil)

@[simp] theorem uploaded?_upload : (upload path url).uploaded? = some (.file path.asShown) := rfl

@[simp] theorem uploaded?_uploadDir :
    (uploadDir path url).uploaded? = some (.dir path.asShown) := rfl

@[simp] theorem uploaded?_grantPublicRead : (grantPublicRead url).uploaded? = none := rfl

@[simp] theorem uploaded?_grantPublicReadBelow : (grantPublicReadBelow url).uploaded? = none := rfl

end Toolchain

namespace Action

/-- What an action reads of what is on the disk. -/
def input? : Action → Option Artifact
  | exec command => command.uploaded?
  | copyFile source _ => some (.file source)
  | archive source _ _ => some (.file source)
  | resetDir _ | createDir _ | writeFile _ _ => none

/-- What an action makes anew. A directory that is only made sure of is not: it keeps what
it holds. -/
def product? : Action → Option Artifact
  | resetDir path => some (.dir path)
  | createDir _ => none
  | exec command => command.output?.map .file
  | copyFile _ dest => some (.file dest)
  | archive _ _ dest => some (.file dest)
  | writeFile path _ => some (.file path)

/-- From where to where an action copies a file. -/
def copy? : Action → Option (LocalPath × LocalPath)
  | copyFile source dest => some (source, dest)
  | _ => none

end Action

/-- What actions make, in order. -/
def madeBy (actions : List Action) : List Artifact := actions.filterMap Action.product?

/-- What actions copy, in order. -/
def copies (actions : List Action) : List (LocalPath × LocalPath) :=
  actions.filterMap Action.copy?

/-! ## §2 Lists -/

/-- Whether all that actions read is there at the start or is made by an action before. -/
def Supplied : List Artifact → List Action → Prop
  | _, [] => True
  | there, a :: rest =>
    (∀ item ∈ a.input?, item ∈ there) ∧ Supplied (there ++ a.product?.toList) rest

instance decidableSupplied :
    (there : List Artifact) → (actions : List Action) → Decidable (Supplied there actions)
  | _, [] => isTrue trivial
  | there, a :: rest =>
    haveI := decidableSupplied (there ++ a.product?.toList) rest
    inferInstanceAs (Decidable (_ ∧ _))

namespace Supplied

variable {there more : List Artifact} {actions first rest : List Action}

theorem mono (h : Supplied there actions) (hle : there ⊆ more) : Supplied more actions := by
  induction actions generalizing there more with
  | nil => trivial
  | cons a rest ih =>
    obtain ⟨hinput, hrest⟩ := h
    exact ⟨fun item hitem => hle (hinput item hitem),
      ih hrest (fun item hitem => List.mem_append.mpr
        ((List.mem_append.mp hitem).imp_left fun hthere => hle hthere))⟩

theorem append (h : Supplied there first) (h' : Supplied (there ++ madeBy first) rest) :
    Supplied there (first ++ rest) := by
  induction first generalizing there with
  | nil => simpa [madeBy] using h'
  | cons a first ih =>
    obtain ⟨hinput, hfirst⟩ := h
    refine ⟨hinput, ih hfirst ?_⟩
    have hmade : madeBy (a :: first) = a.product?.toList ++ madeBy first := by
      cases ha : a.product? <;> simp [madeBy, ha]
    rwa [hmade, ← List.append_assoc] at h'

/-- Actions that read nothing need nothing. -/
theorem of_no_input (h : ∀ a ∈ actions, a.input? = none) : Supplied there actions := by
  induction actions generalizing there with
  | nil => trivial
  | cons a rest ih =>
    refine ⟨fun item hitem => ?_, ih fun b hb => h b (by simp [hb])⟩
    rw [h a (by simp)] at hitem
    cases hitem

/-- Lists that need the same can follow one another. -/
theorem flatMap {α : Type} {items : List α} {f : α → List Action}
    (h : ∀ i ∈ items, Supplied there (f i)) : Supplied there (items.flatMap f) := by
  induction items with
  | nil => trivial
  | cons i items ih =>
    refine .append (h i (by simp)) ?_
    exact (ih fun j hj => h j (by simp [hj])).mono (List.subset_append_left _ _)

/-- What an action reads is there at the start, or an earlier action of the list makes
it. -/
theorem exists_earlier (h : Supplied there actions) {i : Nat} {a : Action} {item : Artifact}
    (ha : actions[i]? = some a) (hitem : a.input? = some item) :
    item ∈ there ∨ ∃ j < i, ∃ b, actions[j]? = some b ∧ b.product? = some item := by
  induction actions generalizing there i with
  | nil => simp at ha
  | cons b rest ih =>
    obtain ⟨hinput, hrest⟩ := h
    cases i with
    | zero =>
      obtain rfl : b = a := by simpa using ha
      exact .inl (hinput item hitem)
    | succ i =>
      rcases ih hrest (by simpa using ha) with hthere | ⟨j, hj, made⟩
      · rcases List.mem_append.mp hthere with hthere | hmade
        · exact .inl hthere
        · exact .inr ⟨0, by omega, b, rfl, by simpa using hmade⟩
      · exact .inr ⟨j + 1, by omega, by simpa using made⟩

end Supplied

/-! ## §3 Plans -/

namespace Config

variable {c : Config} {there : List Artifact}

/-- If the staging directory is text, all of a file of the version shows. -/
theorem asShown_file (htext : c.distDir.isText = true) (name : String) :
    (c.versionDir.join name).asShown = c.versionDir.join name :=
  LocalPath.asShown_eq_iff.mpr (LocalPath.isText_join_of_isText (isText_versionDir htext) name)

theorem supplied_planApi (htext : c.distDir.isText = true) : Supplied there c.planApi := by
  simp [planApi, Supplied, Action.input?, Action.product?, apiBinaryPath, apiArchivePath,
    asShown_file htext]

theorem supplied_planBuild (c : Config) : Supplied there c.planBuild := by
  refine .of_no_input ?_
  simp [planBuild, buildAction, Action.input?]

theorem supplied_bundleActions (htext : c.distDir.isText = true) {b : Bundle}
    (h : .file (c.binaryPath b.target) ∈ there) : Supplied there (c.bundleActions b) := by
  simp [bundleActions, Supplied, Action.input?, Action.product?, h, bundlePath, asShown_file htext]

/-- All that the bundles need is the binaries of the matrix, since others are left out. -/
theorem supplied_planArchive (htext : c.distDir.isText = true)
    (h : ∀ target ∈ c.matrix, .file (c.binaryPath target) ∈ there) :
    Supplied there c.planArchive := by
  rw [planArchive_eq]
  exact .flatMap fun _ hb => supplied_bundleActions htext (h _ (target_mem_matrix hb))

theorem supplied_planPublish (htext : c.distDir.isText = true) (h : .dir c.versionDir ∈ there) :
    Supplied there c.planPublish := by
  have hdir : c.versionDir.asShown = c.versionDir :=
    LocalPath.asShown_eq_iff.mpr (isText_versionDir htext)
  have hlatest : c.latestPath.asShown = c.latestPath :=
    LocalPath.asShown_eq_iff.mpr (LocalPath.isText_join_of_isText htext latestName)
  simp [planPublish, Supplied, Action.input?, Action.product?, h, hdir, hlatest]

theorem binary_mem_madeBy (htext : c.distDir.isText = true) {target : Target}
    (h : target ∈ c.matrix) : .file (c.binaryPath target) ∈ madeBy c.planBuild := by
  refine List.mem_filterMap.mpr ⟨c.buildAction target, ?_, ?_⟩
  · exact List.mem_cons_of_mem _ (List.mem_map_of_mem h)
  · simp [buildAction, Action.product?, binaryPath, asShown_file htext]

/-- What a full release does before it packs bundles. -/
def beforeBundles (c : Config) : List Action :=
  c.planClean ++ (if c.manifest.includeApi then c.planApi else []) ++ c.planBuild

theorem plan_all_eq_beforeBundles (c : Config) :
    Step.plan c .all = c.beforeBundles ++ (c.planArchive ++ c.planPublish) := by
  simp [Step.plan, beforeBundles]

/-- A full release is supplied by itself. -/
theorem supplied_all (htext : c.distDir.isText = true) : Supplied [] (Step.plan c .all) := by
  have hclean : Supplied [] c.planClean := .of_no_input (by simp [planClean, Action.input?])
  have hapi : ∀ there, Supplied there (if c.manifest.includeApi then c.planApi else []) := by
    intro there
    split
    · exact supplied_planApi htext
    · trivial
  refine (((hclean.append (hapi _)).append c.supplied_planBuild).append
    (supplied_planArchive htext fun target htarget => ?_)).append (supplied_planPublish htext ?_)
  · refine List.mem_append_right _ ?_
    rw [madeBy, List.filterMap_append]
    exact List.mem_append_right _ (binary_mem_madeBy htext htarget)
  · simp [madeBy, planClean, Action.product?]

end Config

/-! ## §4 Bundles -/

/-- What is selected from a place of a list stands behind all that is selected before it. -/
theorem getElem?_filterMap_take {α β : Type} {f : α → Option β} {l : List α} {i : Nat} {a : α}
    {b : β} (ha : l[i]? = some a) (hb : f a = some b) :
    (l.filterMap f)[((l.take i).filterMap f).length]? = some b := by
  obtain ⟨hi, rfl⟩ := List.getElem?_eq_some_iff.mp ha
  calc (l.filterMap f)[((l.take i).filterMap f).length]?
      = ((l.take i ++ l[i] :: l.drop (i + 1)).filterMap f)[((l.take i).filterMap f).length]? := by
        rw [List.getElem_cons_drop, List.take_append_drop]
    _ = some b := by
        rw [List.filterMap_append, List.getElem?_append_right (Nat.le_refl _),
          List.filterMap_cons_some hb, Nat.sub_self]
        rfl

namespace Config

variable {c : Config}

theorem copies_beforeBundles (c : Config) : copies c.beforeBundles = [] := by
  have hnone : ∀ a ∈ c.beforeBundles, a.copy? = none := by
    intro a ha
    simp only [beforeBundles, List.mem_append] at ha
    rcases ha with (ha | ha) | ha
    · obtain rfl := List.mem_singleton.mp ha
      rfl
    · split at ha
      · simp only [planApi, List.mem_cons, List.not_mem_nil, or_false] at ha
        rcases ha with rfl | rfl | rfl | rfl | rfl <;> rfl
      · cases ha
    · simp only [planBuild, List.mem_cons, List.mem_map] at ha
      rcases ha with rfl | ⟨target, -, rfl⟩ <;> rfl
  exact List.filterMap_eq_nil_iff.mpr hnone

/-- One copy is made for each bundle that is built, in their order: of the binary of its
target. -/
theorem copies_all (c : Config) : copies (Step.plan c .all) =
    c.builtBundles.map fun b => (c.binaryPath b.target, c.canonicalPath) := by
  have hbundle : ∀ b, copies (c.bundleActions b) = [(c.binaryPath b.target, c.canonicalPath)] :=
    fun _ => rfl
  have hpublish : copies c.planPublish = [] := rfl
  have harchive : copies c.planArchive =
      c.builtBundles.map fun b => (c.binaryPath b.target, c.canonicalPath) := by
    unfold copies at hbundle ⊢
    rw [planArchive_eq, List.filterMap_flatMap, List.map_eq_flatMap]
    simp only [hbundle, builtBundles]
  have hfront := c.copies_beforeBundles
  unfold copies at hfront hpublish harchive ⊢
  rw [plan_all_eq_beforeBundles, List.filterMap_append, List.filterMap_append, hfront, hpublish,
    harchive, List.nil_append, List.append_nil]

/-- The clients are built before anything is copied. -/
theorem exists_build {i : Nat} {source dest : LocalPath} {target : Target}
    (hcopy : (Step.plan c .all)[i]? = some (.copyFile source dest)) (htarget : target ∈ c.matrix) :
    ∃ j < i, (Step.plan c .all)[j]? = some (.exec (c.buildCommand target)) := by
  have hmem : c.buildAction target ∈ c.beforeBundles :=
    List.mem_append_right _ (List.mem_cons_of_mem _ (List.mem_map_of_mem htarget))
  obtain ⟨j, hj, hbuild⟩ := List.mem_iff_getElem.mp hmem
  rw [plan_all_eq_beforeBundles] at hcopy ⊢
  refine ⟨j, ?_, ?_⟩
  · by_contra hle
    -- then the copy would be made before bundles are packed
    rw [List.getElem?_append_left (by omega)] at hcopy
    have hnone := List.filterMap_eq_nil_iff.mp c.copies_beforeBundles _
      (List.mem_of_getElem? hcopy)
    cases hnone
  · rw [List.getElem?_append_left hj, List.getElem?_eq_getElem hj, hbuild]
    rfl

end Config

/-! ## §5 Together -/

/-- **A full release reads only what it has made**, if the staging directory is text.
What an action of the plan copies, packs or uploads is, path for path, what an earlier
action of the plan makes: the output of a build, a copy, an archive, the pointer, or the
directory made anew. The copies are those of the bundles built, in their order; and before
the copy for a bundle its binary is built for the target of that bundle. -/
theorem inputs_produced (c : Config) (htext : c.distDir.isText = true) :
    (∀ (i : Nat) (a : Action) (item : Artifact),
      (Step.plan c .all)[i]? = some a → a.input? = some item →
        ∃ j < i, ∃ b, (Step.plan c .all)[j]? = some b ∧ b.product? = some item) ∧
    copies (Step.plan c .all) =
      c.builtBundles.map (fun b => (c.binaryPath b.target, c.canonicalPath)) ∧
    ∀ (i : Nat) (source dest : LocalPath),
      (Step.plan c .all)[i]? = some (.copyFile source dest) →
        ∃ b, c.builtBundles[(copies ((Step.plan c .all).take i)).length]? = some b ∧
          ∃ j < i, ∃ command, (Step.plan c .all)[j]? = some (.exec command) ∧
            command.Compiles b.target source := by
  refine ⟨fun i a item ha hitem => ?_, c.copies_all, fun i source dest hcopy => ?_⟩
  · have hearlier := (Config.supplied_all htext).exists_earlier ha hitem
    simpa using hearlier
  · have hplace : (copies (Step.plan c .all))[(copies ((Step.plan c .all).take i)).length]? =
        some (source, dest) :=
      getElem?_filterMap_take hcopy rfl
    rw [c.copies_all, List.getElem?_map] at hplace
    obtain ⟨b, hb, hpaths⟩ := Option.map_eq_some_iff.mp hplace
    obtain ⟨rfl, -⟩ := Prod.mk.inj hpaths
    obtain ⟨j, hj, hbuild⟩ :=
      Config.exists_build hcopy (Config.target_mem_matrix (List.mem_of_getElem? hb))
    exact ⟨b, hb, j, hj, _, hbuild, Toolchain.compiles_goBuild b.target _ _ _⟩

/-- The second bundle of the standard manifest is packed from a copy of the binary that has been
built for its target. -/
theorem second_bundle_has_own_binary :
    let c := Config.standard ⟨"1.0", by decide⟩
    let linux : Target := ⟨.linux, .amd64⟩
    c.distDir.isText = true ∧
      (Step.plan c .all)[18]? = some (.copyFile (c.binaryPath linux) c.canonicalPath) ∧
      c.builtBundles[1]? = some ⟨"linux", linux⟩ ∧
      ∃ j < 18, ∃ command, (Step.plan c .all)[j]? = some (.exec command) ∧
        command.Compiles linux (c.binaryPath linux) := by
  intro c linux
  have htext : c.distDir.isText = true := by decide
  have hcopy : (Step.plan c .all)[18]? = some (.copyFile (c.binaryPath linux) c.canonicalPath) := by
    decide +kernel
  have hplace : (copies ((Step.plan c .all).take 18)).length = 1 := by decide +kernel
  have hbundle : c.builtBundles[1]? = some ⟨"linux", linux⟩ := by decide
  obtain ⟨-, -, hbuilt⟩ := inputs_produced c htext
  obtain ⟨b, hb, hbuild⟩ := hbuilt 18 _ _ hcopy
  rw [hplace, hbundle] at hb
  obtain rfl := Option.some.inj hb
  exact ⟨htext, hcopy, hbundle, hbuild⟩

/-- On its own the packing of bundles reads what an earlier step has left. -/
example : Supplied [] (Step.plan (.standard ⟨"1.0", by decide⟩) .all) ∧
    ¬ Supplied [] (Step.plan (.standard ⟨"1.0", by decide⟩) .archive) := by
  decide

end ReleaseKit
