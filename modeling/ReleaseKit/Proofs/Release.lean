/-
ReleaseKit.Proofs.Release — a full release stages its products and nothing else.

Each part of a full release sets some of the files in the directory of the version
and keeps the others. What a part sets is known as a function of what was held
before (`withApi`, `withBinaries`, `withBundles`); that the parts do it is a matter of
the stage, what they come to together a matter of names alone. Bundles share one
file, the copy of a binary under the canonical name: each packs it before the next
one overwrites it, and the last one leaves it.

  §1 Entries   — `Sets`: which files a change sets, and to what.
  §2 Products  — `Config.products`, and the parts of a release set them.
  §3 Parts     — each part of the plan does what is said of it.
  §4 Release   — `full_release_stages_products`.
-/
import ReleaseKit.Proofs.Confinement
import ReleaseKit.Proofs.Staging

namespace ReleaseKit

open Location

/-! ## §1 Entries -/

/-- After a change these entries are held, and all other names hold what they held
before. -/
structure Sets (before after : String → Option Contents) (entries : List (String × Contents)) :
    Prop where
  sets : ∀ e ∈ entries, after e.1 = some e.2
  keeps : ∀ name, name ∉ entries.map Prod.fst → after name = before name

namespace Sets

variable {before between after : String → Option Contents}
  {entries first rest : List (String × Contents)} {name : String} {contents : Contents}

theorem nil : Sets before before [] := ⟨by simp, fun _ _ => rfl⟩

theorem of_mem_iff (h : Sets before after entries) (hmem : ∀ e, e ∈ rest ↔ e ∈ entries) :
    Sets before after rest := by
  refine ⟨fun e he => h.sets e ((hmem e).mp he), fun name hname => h.keeps name fun hin => ?_⟩
  obtain ⟨e, he, rfl⟩ := List.mem_map.mp hin
  exact hname (List.mem_map.mpr ⟨e, (hmem e).mpr he, rfl⟩)

/-- A change after an update sets what was updated too, unless it sets that name to
something else. -/
theorem of_update (h : Sets (Function.update before name (some contents)) after entries)
    (hagree : ∀ e ∈ entries, e.1 = name → e.2 = contents) :
    Sets before after ((name, contents) :: entries) := by
  refine ⟨fun e he => ?_, fun other hother => ?_⟩
  · rcases List.mem_cons.mp he with rfl | he
    · by_cases hin : name ∈ entries.map Prod.fst
      · obtain ⟨e, he, hname⟩ := List.mem_map.mp hin
        rw [← hname, h.sets e he, hagree e he hname]
      · rw [h.keeps name hin, Function.update_self]
    · exact h.sets e he
  · simp only [List.map_cons, List.mem_cons, not_or] at hother
    rw [h.keeps other hother.2, Function.update_of_ne hother.1]

/-- What is set again need not be told. -/
theorem of_update_of_mem (h : Sets (Function.update before name (some contents)) after entries)
    (hmem : name ∈ entries.map Prod.fst) : Sets before after entries := by
  refine ⟨h.sets, fun other hother => ?_⟩
  have hne : other ≠ name := fun e => hother (e ▸ hmem)
  rw [h.keeps other hother, Function.update_of_ne hne]

/-- Changes that set different names set all of them. -/
theorem append (h : Sets before between first) (h' : Sets between after rest)
    (hapart : ∀ e ∈ first, e.1 ∉ rest.map Prod.fst) : Sets before after (first ++ rest) := by
  refine ⟨fun e he => ?_, fun name hname => ?_⟩
  · rcases List.mem_append.mp he with he | he
    · rw [h'.keeps e.1 (hapart e he), h.sets e he]
    · exact h'.sets e he
  · rw [List.map_append, List.mem_append, not_or] at hname
    rw [h'.keeps name hname.2, h.keeps name hname.1]

/-- Where nothing was held, exactly the entries are held. -/
theorem eq_some_iff (h : Sets (fun _ => none) after entries) :
    after name = some contents ↔ (name, contents) ∈ entries := by
  refine ⟨fun heq => ?_, fun hmem => h.sets _ hmem⟩
  by_cases hin : name ∈ entries.map Prod.fst
  · obtain ⟨e, he, rfl⟩ := List.mem_map.mp hin
    rw [h.sets e he] at heq
    obtain rfl := Option.some.inj heq
    exact he
  · rw [h.keeps name hin] at heq
    cases heq

end Sets

/-! ## §2 Products -/

/-- Binaries for different targets have different names. -/
theorem Target.binaryName_injective (tool : String) :
    Function.Injective fun target : Target => target.binaryName tool :=
  fun _ _ h => (binaryName_eq_iff.mp h).2

/-- The file name of the archive of a bundle. -/
def Bundle.archiveName (b : Bundle) : String := b.name ++ ".zip"

namespace Config

/-- The API binary, and its archive. -/
def apiEntries (c : Config) : List (String × Contents) :=
  if c.manifest.includeApi then
    [(c.manifest.apiName, c.manifest.apiTarget.built),
      (c.manifest.apiName ++ ".zip", .archive c.manifest.apiName c.manifest.apiTarget.built)]
  else []

/-- The client binaries. -/
def binaryEntries (c : Config) (targets : List Target) : List (String × Contents) :=
  targets.map fun target => (c.binaryName target, target.built)

/-- The archives of bundles: each holds, under the canonical name, the binary of the
bundle's own target. -/
def archiveEntries (c : Config) (bundles : List Bundle) : List (String × Contents) :=
  bundles.map fun b => (b.archiveName, .archive c.manifest.canonicalName b.target.built)

/-- What is left under the canonical name: the binary of the last bundle. -/
def canonicalEntries (c : Config) (bundles : List Bundle) : List (String × Contents) :=
  bundles.getLast?.toList.map fun b => (c.manifest.canonicalName, b.target.built)

/-- The files that a full release stages for a version, and what they hold. -/
def products (c : Config) : List (String × Contents) :=
  c.apiEntries ++ c.binaryEntries c.matrix ++
    (c.canonicalEntries c.builtBundles ++ c.archiveEntries c.builtBundles)

/-- What is held after the API has been built and packed. -/
def withApi (c : Config) (held : String → Option Contents) : String → Option Contents :=
  if c.manifest.includeApi then
    Function.update (Function.update held c.manifest.apiName (some c.manifest.apiTarget.built))
      (c.manifest.apiName ++ ".zip")
      (some (.archive c.manifest.apiName c.manifest.apiTarget.built))
  else held

/-- What is held after clients have been built. -/
def withBinaries (c : Config) (held : String → Option Contents) (targets : List Target) :
    String → Option Contents :=
  targets.foldl (fun held target =>
    Function.update held (c.binaryName target) (some target.built)) held

/-- What is held after a bundle has been packed. -/
def withBundle (c : Config) (held : String → Option Contents) (b : Bundle) :
    String → Option Contents :=
  Function.update (Function.update held c.manifest.canonicalName (some b.target.built))
    b.archiveName (some (.archive c.manifest.canonicalName b.target.built))

def withBundles (c : Config) (held : String → Option Contents) (bundles : List Bundle) :
    String → Option Contents :=
  bundles.foldl c.withBundle held

variable {c : Config} {held : String → Option Contents}

theorem zip_ne (name : String) : name ++ ".zip" ≠ name := by
  intro h
  have hlen := congrArg String.length h
  have hzip : ".zip".length = 4 := by decide
  rw [String.length_append, hzip] at hlen
  omega

theorem sets_withApi (c : Config) (held : String → Option Contents) :
    Sets held (c.withApi held) c.apiEntries := by
  unfold withApi apiEntries
  split
  · refine (Sets.nil.of_update (by simp)).of_update fun e he hname => ?_
    rw [List.mem_singleton.mp he] at hname
    exact absurd hname (zip_ne _)
  · exact .nil

theorem sets_withBinaries (c : Config) (held : String → Option Contents) (targets : List Target) :
    Sets held (c.withBinaries held targets) (c.binaryEntries targets) := by
  induction targets generalizing held with
  | nil => exact .nil
  | cons target rest ih =>
    refine (ih _).of_update fun e he hname => ?_
    obtain ⟨other, -, rfl⟩ := List.mem_map.mp he
    rw [Target.binaryName_injective _ hname]

theorem mem_canonicalEntries {bundles : List Bundle} {e : String × Contents}
    (h : e ∈ c.canonicalEntries bundles) : e.1 = c.manifest.canonicalName := by
  obtain ⟨b, -, rfl⟩ := List.mem_map.mp h
  rfl

/-- Bundles packed one after another leave all their archives, and the binary of the
last of them under the canonical name. -/
theorem sets_withBundles {bundles : List Bundle} (held : String → Option Contents)
    (hdistinct : (bundles.map Bundle.archiveName).Nodup)
    (hcanonical : ∀ b ∈ bundles, b.archiveName ≠ c.manifest.canonicalName) :
    Sets held (c.withBundles held bundles)
      (c.canonicalEntries bundles ++ c.archiveEntries bundles) := by
  induction bundles generalizing held with
  | nil => exact .nil
  | cons b rest ih =>
    rw [List.map_cons, List.nodup_cons] at hdistinct
    have hb := hcanonical b (by simp)
    have hrest := ih (c.withBundle held b) hdistinct.2 fun b' hb' => hcanonical b' (by simp [hb'])
    have harchive := hrest.of_update fun e he hname => by
      rcases List.mem_append.mp he with he | he
      · exact absurd (hname.symm.trans (mem_canonicalEntries he)) hb
      · obtain ⟨b', hb', rfl⟩ := List.mem_map.mp he
        exact absurd (hname ▸ List.mem_map_of_mem hb') hdistinct.1
    cases rest with
    | nil =>
      refine harchive.of_update fun e he hname => ?_
      rw [show e = _ from List.mem_singleton.mp he] at hname
      exact absurd hname hb
    | cons b' more =>
      -- a later bundle overwrites the canonical file
      have hagain : c.manifest.canonicalName ∈ ((b.archiveName,
          Contents.archive c.manifest.canonicalName b.target.built) ::
            (c.canonicalEntries (b' :: more) ++ c.archiveEntries (b' :: more))).map Prod.fst := by
        have hlast := List.getLast?_eq_some_getLast (List.cons_ne_nil b' more)
        simp [canonicalEntries, hlast]
      refine (harchive.of_update_of_mem hagain).of_mem_iff fun e => ?_
      simp only [canonicalEntries, archiveEntries, List.getLast?_cons_cons, List.map_cons,
        List.mem_append, List.mem_cons]
      exact or_left_comm

/-! ## §3 Parts -/

theorem binaryName_mem_fileNames {target : Target} (h : target ∈ c.matrix) :
    c.binaryName target ∈ c.fileNames := by
  have hmem : c.binaryName target ∈ c.matrix.dedup.map c.binaryName :=
    List.mem_map_of_mem (List.mem_dedup.mpr h)
  simp only [fileNames, List.mem_append]
  exact .inl (.inl (.inl hmem))

theorem canonicalName_mem_fileNames (c : Config) : c.manifest.canonicalName ∈ c.fileNames := by
  simp [fileNames]

theorem archiveName_mem_fileNames {b : Bundle} (h : b ∈ c.builtBundles) :
    b.archiveName ∈ c.fileNames := by
  have hmem : b.archiveName ∈ c.builtBundles.map fun b => b.name ++ ".zip" :=
    List.mem_map_of_mem h
  simp only [fileNames, List.mem_append]
  exact .inr hmem

theorem apiNames_mem_fileNames (h : c.manifest.includeApi = true) :
    c.manifest.apiName ∈ c.fileNames ∧ c.manifest.apiName ++ ".zip" ∈ c.fileNames := by
  simp [fileNames, h]

theorem target_mem_matrix {b : Bundle} (h : b ∈ c.builtBundles) : b.target ∈ c.matrix := by
  have hbuilds := (List.mem_filter.mp h).2
  simpa [builds] using hbuilds

/-- What it means for the bundles that all names are different. -/
structure Apart (c : Config) : Prop where
  binary_canonical : ∀ target ∈ c.matrix, c.binaryName target ≠ c.manifest.canonicalName
  binary_archive : ∀ target ∈ c.matrix, ∀ b ∈ c.builtBundles, c.binaryName target ≠ b.archiveName
  archive_canonical : ∀ b ∈ c.builtBundles, b.archiveName ≠ c.manifest.canonicalName
  archives : (c.builtBundles.map Bundle.archiveName).Nodup
  api_binary : ∀ e ∈ c.apiEntries, ∀ target ∈ c.matrix, e.1 ≠ c.binaryName target
  api_canonical : ∀ e ∈ c.apiEntries, e.1 ≠ c.manifest.canonicalName
  api_archive : ∀ e ∈ c.apiEntries, ∀ b ∈ c.builtBundles, e.1 ≠ b.archiveName

theorem Releasable.namesApart (hc : c.Releasable) : c.Apart := by
  have hdistinct := hc.distinct
  unfold fileNames at hdistinct
  obtain ⟨hrest, harchives, happ⟩ := List.nodup_append.mp hdistinct
  obtain ⟨hclient, -, hapi⟩ := List.nodup_append.mp hrest
  obtain ⟨-, -, hcanonical⟩ := List.nodup_append.mp hclient
  have hbinary : ∀ {target}, target ∈ c.matrix →
      c.binaryName target ∈ c.matrix.dedup.map c.binaryName := fun h =>
    List.mem_map_of_mem (List.mem_dedup.mpr h)
  have harchive : ∀ {b}, b ∈ c.builtBundles →
      b.archiveName ∈ c.builtBundles.map fun b => b.name ++ ".zip" := fun h =>
    List.mem_map_of_mem h
  have hentry : ∀ e ∈ c.apiEntries, e.1 ∈ (if c.manifest.includeApi then
      [c.manifest.apiName, c.manifest.apiName ++ ".zip"] else []) := by
    intro e he
    unfold apiEntries at he
    split at he
    · rename_i hinclude
      simp only [List.mem_cons, List.not_mem_nil, or_false] at he
      rcases he with rfl | rfl <;> simp [hinclude]
    · simp at he
  constructor
  · exact fun target ht => hcanonical _ (hbinary ht) _ (by simp)
  · exact fun target ht b hb => happ _ (by simp [hbinary ht]) _ (harchive hb)
  · exact fun b hb => (happ _ (by simp) _ (harchive hb)).symm
  · exact harchives
  · exact fun e he target ht => (hapi _ (by simp [hbinary ht]) _ (hentry e he)).symm
  · exact fun e he => (hapi _ (by simp) _ (hentry e he)).symm
  · exact fun e he b hb => happ _ (List.mem_append_right _ (hentry e he)) _ (harchive hb)

/-- What is held after all parts of a full release, on a stage that was empty. -/
def heldAtEnd (c : Config) : String → Option Contents :=
  c.withBundles (c.withBinaries (c.withApi fun _ => none) c.matrix) c.builtBundles

/-- All parts together set the products. -/
theorem Releasable.sets_products (hc : c.Releasable) :
    Sets (fun _ => none) c.heldAtEnd c.products := by
  have hn := hc.namesApart
  have hapi := sets_withApi c fun _ => none
  have hbinaries := sets_withBinaries c (c.withApi fun _ => none) c.matrix
  have hbundles := sets_withBundles (c.withBinaries (c.withApi fun _ => none) c.matrix) hn.archives
    hn.archive_canonical
  refine (hapi.append hbinaries fun e he hin => ?_).append hbundles fun e he hin => ?_
  · simp only [binaryEntries, List.map_map, List.mem_map, Function.comp_apply] at hin
    obtain ⟨target, ht, heq⟩ := hin
    exact hn.api_binary e he target ht heq.symm
  · rw [List.map_append, List.mem_append] at hin
    rcases hin with hin | hin
    · obtain ⟨e', he', heq⟩ := List.mem_map.mp hin
      rw [mem_canonicalEntries he'] at heq
      rcases List.mem_append.mp he with he | he
      · exact hn.api_canonical e he heq.symm
      · obtain ⟨target, ht, rfl⟩ := List.mem_map.mp he
        exact hn.binary_canonical target ht heq.symm
    · simp only [archiveEntries, List.map_map, List.mem_map, Function.comp_apply] at hin
      obtain ⟨b, hb, heq⟩ := hin
      rcases List.mem_append.mp he with he | he
      · exact hn.api_archive e he b hb heq.symm
      · obtain ⟨target, ht, rfl⟩ := List.mem_map.mp he
        exact hn.binary_archive target ht b hb heq.symm

section Parts

variable {σ : Type} {run : Runner σ} {cwd : Location} (hc : c.Releasable)
  (hrun : run.BuildsAll cwd)
include hc hrun

theorem accomplishes_planApi (hinclude : c.manifest.includeApi = true) :
    Accomplishes run cwd c.planApi (c.Staged cwd held) (c.Staged cwd (c.withApi held)) := by
  obtain ⟨hbinary, harchive⟩ := apiNames_mem_fileNames hinclude
  rw [withApi, if_pos hinclude]
  refine (accomplishes_createDir hc).cons ?_
  refine (accomplishes_build hc hrun hbinary c.manifest.apiTarget c.manifest.apiSources).cons ?_
  refine (accomplishes_archive hc hbinary harchive (zip_ne _) (Function.update_self ..) _).cons ?_
  exact (hrun.accomplishes_of_ne_go gsutil_ne_go _).cons
    (hrun.accomplishes_of_ne_go gsutil_ne_go _)

theorem accomplishes_buildActions {targets : List Target}
    (h : ∀ target ∈ targets, target ∈ c.matrix) (held : String → Option Contents) :
    Accomplishes run cwd (targets.map c.buildAction) (c.Staged cwd held)
      (c.Staged cwd (c.withBinaries held targets)) := by
  induction targets generalizing held with
  | nil => exact .nil
  | cons target rest ih =>
    have hname := binaryName_mem_fileNames (h target (by simp))
    exact (accomplishes_build hc hrun hname target c.manifest.cliSources).cons
      (ih (fun other hother => h other (by simp [hother])) _)

theorem accomplishes_planBuild :
    Accomplishes run cwd c.planBuild (c.Staged cwd held)
      (c.Staged cwd (c.withBinaries held c.matrix)) :=
  (accomplishes_createDir hc).cons (accomplishes_buildActions hc hrun (fun _ h => h) held)

/-- A bundle is packed from the binary of its target, by way of the canonical
file. -/
theorem accomplishes_bundleActions {b : Bundle} (hb : b ∈ c.builtBundles)
    (hheld : held (c.binaryName b.target) = some b.target.built) :
    Accomplishes run cwd (c.bundleActions b) (c.Staged cwd held)
      (c.Staged cwd (c.withBundle held b)) := by
  have hn := hc.namesApart
  have htarget := target_mem_matrix hb
  refine (accomplishes_copy hc (binaryName_mem_fileNames htarget) (canonicalName_mem_fileNames c)
    (hn.binary_canonical _ htarget).symm hheld).cons ?_
  refine (accomplishes_archive hc (canonicalName_mem_fileNames c) (archiveName_mem_fileNames hb)
    (hn.archive_canonical b hb) (Function.update_self ..) _).cons ?_
  exact (hrun.accomplishes_of_ne_go gsutil_ne_go _).cons
    (hrun.accomplishes_of_ne_go gsutil_ne_go _)

/-- Packing bundles keeps the binaries, so that the next can be packed. -/
theorem accomplishes_bundles {bundles : List Bundle} (h : ∀ b ∈ bundles, b ∈ c.builtBundles)
    (hheld : ∀ b ∈ bundles, held (c.binaryName b.target) = some b.target.built) :
    Accomplishes run cwd (bundles.flatMap c.bundleActions) (c.Staged cwd held)
      (c.Staged cwd (c.withBundles held bundles)) := by
  induction bundles generalizing held with
  | nil => exact .nil
  | cons b rest ih =>
    have hn := hc.namesApart
    have hb := h b (by simp)
    refine (accomplishes_bundleActions hc hrun hb (hheld b (by simp))).append
      (ih (fun b' hb' => h b' (by simp [hb'])) fun b' hb' => ?_)
    have htarget := target_mem_matrix (h b' (by simp [hb']))
    rw [withBundle, Function.update_of_ne (hn.binary_archive _ htarget b hb),
      Function.update_of_ne (hn.binary_canonical _ htarget)]
    exact hheld b' (by simp [hb'])

theorem accomplishes_planArchive (held : String → Option Contents) :
    Accomplishes run cwd c.planArchive (c.Staged cwd (c.withBinaries held c.matrix))
      (c.Staged cwd (c.withBundles (c.withBinaries held c.matrix) c.builtBundles)) := by
  rw [planArchive_eq]
  refine accomplishes_bundles hc hrun (fun _ h => h) fun b hb => ?_
  exact (sets_withBinaries c held c.matrix).sets _ (List.mem_map_of_mem (target_mem_matrix hb))

theorem accomplishes_planPublish :
    Accomplishes run cwd c.planPublish (c.Staged cwd held)
      (fun t => c.Staged cwd held t ∧
        t.node? (c.latestPath.location cwd) = some (.file (.ofText c.latestContents))) := by
  refine (hrun.accomplishes_of_ne_go gsutil_ne_go _).cons ?_
  refine (accomplishes_pointer hc).cons ?_
  exact (hrun.accomplishes_of_ne_go gsutil_ne_go _).cons
    (hrun.accomplishes_of_ne_go gsutil_ne_go _)

/-- A full release succeeds and leaves the stage with all products, and the
pointer. -/
theorem accomplishes_all :
    Accomplishes run cwd (Step.plan c .all) (c.Startable cwd)
      (fun t => c.Staged cwd c.heldAtEnd t ∧
        t.node? (c.latestPath.location cwd) = some (.file (.ofText c.latestContents))) := by
  have hapi : Accomplishes run cwd (if c.manifest.includeApi then c.planApi else [])
      (c.Staged cwd fun _ => none) (c.Staged cwd (c.withApi fun _ => none)) := by
    split
    · rename_i hinclude
      exact accomplishes_planApi hc hrun hinclude
    · rename_i hinclude
      rw [withApi, if_neg hinclude]
      exact .nil
  exact ((((accomplishes_clean hc).append hapi).append (accomplishes_planBuild hc hrun)).append
    (accomplishes_planArchive hc hrun _)).append (accomplishes_planPublish hc hrun)

end Parts

end Config

/-! ## §4 Release -/

theorem Runner.Builds.onlyBuilds {σ : Type} {run : Runner σ} {output : CommandLine → Contents}
    {cwd : Location} (h : run.Builds output cwd) : run.OnlyBuilds cwd := by
  intro command state t
  rw [(h command state t).2]
  exact command.leave_sameBut (output command) cwd t

theorem Runner.BuildsAll.onlyBuilds {σ : Type} {run : Runner σ} {cwd : Location}
    (h : run.BuildsAll cwd) : run.OnlyBuilds cwd := Runner.Builds.onlyBuilds h

theorem Runner.faithful_buildsAll (σ : Type) (cwd : Location) :
    (Runner.faithful σ cwd).BuildsAll cwd := fun _ _ _ => ⟨rfl, rfl⟩

namespace Config

variable {c : Config} {cwd : Location} {held : String → Option Contents} {t : FileTree}

/-- Nothing is in the files of the stage. -/
theorem Staged.nothing_deeper (h : c.Staged cwd held t) {l : Location}
    (hin : within (c.versionDir.location cwd) l = true) (hdir : l ≠ c.versionDir.location cwd)
    (hfile : ∀ name, l ≠ name :: c.versionDir.location cwd) : t.node? l = none := by
  obtain ⟨names, rfl⟩ := within_iff.mp hin
  -- the last of the names is that of a file, or of nothing
  rcases List.eq_nil_or_concat names with rfl | ⟨inner, name, rfl⟩
  · exact absurd rfl hdir
  · rw [List.concat_eq_append, List.append_assoc, List.singleton_append] at hfile ⊢
    cases inner with
    | nil => exact absurd rfl (hfile name)
    | cons last inner =>
      by_contra hnode
      have habove := FileTree.dir_above (FileTree.node?_parent hnode) (List.suffix_append inner _)
      exact h.free name habove

end Config

/-- **A full release stages its products and nothing else.** It succeeds; then the
directory of the version holds each product under its name, no other file and no
directory; the pointer says the version; and elsewhere nothing has changed but for
directories that were missing on the way. -/
theorem full_release_stages_products {σ : Type} (run : Runner σ) (cwd : Location) (c : Config)
    (hc : c.Releasable) (hrun : run.BuildsAll cwd) (tree : FileTree) (htree : c.Startable cwd tree)
    (state : σ) :
    ∃ done left,
      execute run cwd (Step.plan c .all) (.start tree state none) = (.ok done, left) ∧
      left.tree.node? (c.versionDir.location cwd) = some .dir ∧
      (∀ name node, left.tree.node? (name :: c.versionDir.location cwd) = some node ↔
        ∃ contents, node = .file contents ∧ (name, contents) ∈ c.products) ∧
      (∀ l, within (c.versionDir.location cwd) l = true → l ≠ c.versionDir.location cwd →
        (∀ name, l ≠ name :: c.versionDir.location cwd) → left.tree.node? l = none) ∧
      left.tree.node? (c.latestPath.location cwd) =
        some (.file (.ofText (c.version.text ++ "\n"))) ∧
      ∀ l, within (c.versionDir.location cwd) l = false → l ≠ c.latestPath.location cwd →
        left.tree.node? l = tree.node? l ∨
          (below l (c.versionDir.location cwd) = true ∧ tree.node? l = none ∧
            left.tree.node? l = some .dir) := by
  obtain ⟨hsucceed, hstaged, hpointer⟩ :=
    Config.accomplishes_all hc hrun (tree, state) htree
  obtain ⟨done, left, hexecute, hworld⟩ :=
    execute_of_allSucceed (s := .start tree state none) hsucceed rfl
  have htreeLeft : left.tree = (effects run cwd (Step.plan c .all) (tree, state)).1 :=
    congrArg Prod.fst hworld
  rw [← htreeLeft] at hstaged hpointer
  refine ⟨done, left, hexecute, hstaged.dir, fun name node => ?_, fun l => hstaged.nothing_deeper,
    hpointer, fun l hout hne => ?_⟩
  · have hentry : ∀ contents, c.heldAtEnd name = some contents ↔ (name, contents) ∈ c.products :=
      fun contents => hc.sets_products.eq_some_iff
    rw [hstaged.holds]
    simp only [Option.map_eq_some_iff, hentry]
    exact ⟨fun ⟨contents, hmem, heq⟩ => ⟨contents, heq.symm, hmem⟩,
      fun ⟨contents, heq, hmem⟩ => ⟨contents, hmem, heq.symm⟩⟩
  · have hout := execute_plan_outside hc.names hc.descends hc.text hrun.onlyBuilds .all
      (.start tree state none) hout hne
    rwa [hexecute] at hout

theorem Config.standard_releasable :
    (Config.standard ⟨"1.0", by decide⟩).Releasable where
  version_ne := by decide
  names := Manifest.standard_plainNames
  descends := standard_descends _
  text := rfl
  fits := by decide +kernel
  distinct := by decide

theorem FileTree.node?_empty {l : Location} (h : l ≠ []) : FileTree.empty.node? l = none := by
  unfold node? empty
  rw [Location.getElem?_insert, if_neg (Ne.symm h), Std.ExtTreeMap.getElem?_empty]

/-- In the empty tree nothing is in the way of any release. -/
theorem Config.startable_empty (c : Config) : c.Startable [] .empty where
  start := by
    unfold FileTree.start
    split <;> exact FileTree.node?_nil _
  way := by
    intro m hm
    by_cases h : m = []
    · exact .inr (h ▸ FileTree.node?_nil _)
    · exact .inl (FileTree.node?_empty h)
  version := .inl (FileTree.node?_empty (by simp [location_versionDir]))
  pointer := .inl (FileTree.node?_empty (by simp [location_latestPath]))

/-- A full release by the standard manifest packs each bundle from its own binary. -/
theorem standard_release_stages_bundles :
    ∃ done left,
      execute (Runner.faithful Unit []) [] (Step.plan (.standard ⟨"1.0", by decide⟩) .all)
        (.start .empty () none) = (.ok done, left) ∧
      left.tree.node? ["osx.zip", "1.0", "dist"] =
        some (.file (.archive "datacol" (.ofText "built for darwin amd64\n"))) ∧
      left.tree.node? ["linux.zip", "1.0", "dist"] =
        some (.file (.archive "datacol" (.ofText "built for linux amd64\n"))) ∧
      left.tree.node? ["latest.txt", "dist"] = some (.file (.ofText "1.0\n")) := by
  obtain ⟨done, left, hrun, -, hfiles, -, hlatest, -⟩ :=
    full_release_stages_products (Runner.faithful Unit []) [] (.standard ⟨"1.0", by decide⟩)
      Config.standard_releasable (Runner.faithful_buildsAll Unit []) .empty
      (Config.startable_empty _) ()
  have hplaces : (Config.standard ⟨"1.0", by decide⟩).versionDir.location [] = ["1.0", "dist"] ∧
      (Config.standard ⟨"1.0", by decide⟩).latestPath.location [] = ["latest.txt", "dist"] := by
    decide +kernel
  rw [hplaces.1] at hfiles
  rw [hplaces.2] at hlatest
  refine ⟨done, left, hrun, ?_, ?_, hlatest⟩
  · exact (hfiles "osx.zip" _).mpr ⟨_, rfl, by decide⟩
  · exact (hfiles "linux.zip" _).mpr ⟨_, rfl, by decide⟩

/-- In a staging directory whose name is not text a full release stops at its first archive: the
compiler has been told the name that is shown, and has written its output there. -/
theorem byte_named_release_stops :
    let c := Config.byteNamed ⟨"1.0", by decide⟩
    let run := Runner.faithful Unit []
    (c.version.text ≠ Config.latestName ∧ c.manifest.PlainNames ∧ c.distDir.Descends ∧
      (∀ p ∈ c.localPaths, p.Fits) ∧ c.fileNames.Nodup ∧ c.distDir.isText = false) ∧
    run.BuildsAll [] ∧ c.Startable [] .empty ∧
    (execute run [] (Step.plan c .all) (.start FileTree.empty () none)).1 =
      .error ⟨3, .archive c.apiBinaryPath c.manifest.apiName c.apiArchivePath, true,
        .io c.apiBinaryPath .absent⟩ := by
  intro c run
  exact ⟨⟨by decide, Manifest.standard_plainNames, LocalPath.byteNamed_descends, by decide +kernel,
      by decide, by decide +kernel⟩,
    Runner.faithful_buildsAll Unit [], Config.startable_empty c, by decide +kernel⟩

end ReleaseKit
