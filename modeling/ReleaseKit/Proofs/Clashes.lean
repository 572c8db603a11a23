/-
ReleaseKit.Proofs.Clashes — names of a manifest that fall on one another.

The files of a version are named by templates that do not know of each other: a client
binary by the tool and its target, the copy in the bundles by the canonical name, an
archive by its bundle or by the API. Nothing keeps these names apart. Two kinds of
clashes go unnoticed. A canonical name that is a binary's empties the binary, since a
file copied onto itself is; one that is an archive's is packed into itself
(`Config.accomplishes_packing`). And of two archives with one name only the last is left. The
API binary alone is safe: its archive has its name and four characters more.

  §1 Places    — a name and that name with an ending.
  §2 Inputs    — `Action.Spoils`: actions that write over what they read.
  §3 Archives  — `Config.stems`: what the archives are named by.
-/
import ReleaseKit.Proofs.PublicRead
import ReleaseKit.Proofs.Retrying

namespace ReleaseKit

open Location

/-! ## §1 Places -/

namespace LocalPath

/-- Text without a separator goes to the end of the last piece. -/
theorem splitAtChar_append_right {sep : Char} {ending : List Char} (h : sep ∉ ending)
    (l : List Char) : ∃ stem last, splitAtChar sep l = stem ++ [last] ∧
      splitAtChar sep (l ++ ending) = stem ++ [last ++ ending] := by
  induction l with
  | nil => exact ⟨[], [], rfl, by simp [splitAtChar_of_not_mem h]⟩
  | cons c rest ih =>
    obtain ⟨stem, last, hrest, hends⟩ := ih
    by_cases hc : c = sep
    · refine ⟨[] :: stem, last, ?_, ?_⟩
      · simp [splitAtChar, hc, hrest]
      · simp [splitAtChar, hc, hends]
    · cases stem with
      | nil =>
        refine ⟨[], c :: last, ?_, ?_⟩
        · simp [splitAtChar, hc, hrest]
        · simp [splitAtChar, hc, hends]
      | cons piece stem =>
        refine ⟨(c :: piece) :: stem, last, ?_, ?_⟩
        · simp [splitAtChar, hc, hrest]
        · simp [splitAtChar, hc, hends]

/-- An ending goes to the last piece of a path. -/
theorem pieces_append {ending : String} (h : '/' ∉ ending.toList) (p : LocalPath) :
    ∃ stem last, p.pieces = stem ++ [last] ∧
      (ofCode (p.code ++ ending)).pieces = stem ++ [last ++ ending] ∧
      (ofCode (p.code ++ ending)).rooted = p.rooted := by
  have hhead : ending.toList.head? ≠ some '/' := fun he => h (List.mem_of_mem_head? he)
  have hcut : ∃ stem last, cut p.code.toList = stem ++ [last] ∧
      cut (p.code.toList ++ ending.toList) = stem ++ [last ++ ending.toList] := by
    unfold cut
    cases hl : p.code.toList with
    | nil => simpa [hhead] using splitAtChar_append_right h []
    | cons c rest =>
      by_cases hc : c = '/'
      · simpa [hc] using splitAtChar_append_right h rest
      · simpa [hc] using splitAtChar_append_right h (c :: rest)
  obtain ⟨stem, last, hp, hends⟩ := hcut
  refine ⟨stem.map String.ofList, String.ofList last, by simp [pieces_eq, hp], ?_, ?_⟩
  · simp [pieces_eq, hends, String.ofList_append]
  · cases hl : p.code.toList <;> simp [rooted, hl, hhead]

theorem code_join_append {ending : String} (h : '/' ∉ ending.toList) (left : LocalPath)
    (right : String) :
    left.join (right ++ ending) = ofCode ((left.join right).code ++ OsText.encode ending) := by
  have hhead : (right ++ ending).toList.head? = some '/' ↔ right.toList.head? = some '/' := by
    have hending : ending.toList.head? ≠ some '/' := fun he => h (List.mem_of_mem_head? he)
    cases hr : right.toList <;> simp [hr, hending]
  unfold join
  simp only [OsText.code_ofString, OsText.head?_encode, hhead]
  split
  · rw [OsText.ofString, OsText.encode_append]
    rfl
  · split <;> simp [OsText.encode_append, String.append_assoc]

/-- An ending makes a name of the last piece of a path, if it is too long for a piece that
stays or goes up. Up to that piece the path leads where it leads without the ending. -/
theorem location_join_ending (left : LocalPath) (name : String) (cwd : Location) :
    ∃ here last, (left.join name).location cwd = follow here last ∧
      ∀ ending : String, '/' ∉ ending.toList → 2 < ending.length →
        (left.join (name ++ ending)).location cwd = (last ++ OsText.encode ending) :: here := by
  obtain ⟨stem, last, hp, -, -⟩ :=
    pieces_append (by decide : '/' ∉ "".toList) (left.join name)
  refine ⟨stem.foldl follow (FileTree.start cwd (left.join name)), last, ?_, ?_⟩
  · rw [location_eq, hp, List.foldl_append]
    rfl
  · intro ending hslash hlong
    obtain ⟨stem', last', hp', hends, hrooted⟩ :=
      pieces_append (mt OsText.mem_encode.mp hslash) (left.join name)
    obtain ⟨rfl, hlast'⟩ := List.append_inj' (hp'.symm.trans hp) rfl
    obtain rfl := (List.cons.inj hlast').1
    have hlength : 2 < (last' ++ OsText.encode ending).length := by
      have hencode := OsText.length_le_length_encode ending
      rw [String.length_append]
      omega
    have hne : ∀ short : String, short.length ≤ 2 → last' ++ OsText.encode ending ≠ short := by
      rintro short hshort rfl
      omega
    have hstart : FileTree.start cwd (ofCode ((left.join name).code ++ OsText.encode ending)) =
        FileTree.start cwd (left.join name) := by
      simp [FileTree.start, hrooted]
    rw [code_join_append hslash, location_eq, hends, hstart, List.foldl_append]
    exact follow_name (hne "" (by decide)) (hne "." (by decide)) (hne ".." (by decide))

/-- A name with an ending to it leads to another place than the name alone, whatever
the name says. -/
theorem location_zip_ne (left : LocalPath) (name : String) (cwd : Location) :
    (left.join (name ++ ".zip")).location cwd ≠ (left.join name).location cwd := by
  obtain ⟨here, last, hplain, hends⟩ := left.location_join_ending name cwd
  rw [hends ".zip" (by decide) (by decide), hplain]
  intro heq
  -- a piece that is no name leads no deeper, and a name leads to itself
  unfold follow at heq
  split at heq
  · exact absurd (congrArg List.length heq) (by simp)
  · split at heq
    · have hlen := congrArg List.length heq
      rw [List.length_cons, List.length_tail] at hlen
      omega
    · exact Config.zip_ne last (List.cons.inj heq).1

end LocalPath

namespace Config

variable {c : Config} {cwd : Location}

theorem location_binaryPath (hnames : c.manifest.PlainNames) (target : Target) :
    (c.binaryPath target).location cwd = c.fileAt cwd (c.binaryName target) :=
  LocalPath.location_join_plain (.binary hnames.cli target) _ cwd

theorem location_canonicalPath (hnames : c.manifest.PlainNames) :
    c.canonicalPath.location cwd = c.fileAt cwd c.manifest.canonicalName :=
  LocalPath.location_join_plain hnames.canonical _ cwd

theorem location_bundlePath (hnames : c.manifest.PlainNames) {b : Bundle}
    (hb : b ∈ c.manifest.bundles) :
    (c.bundlePath b).location cwd = c.fileAt cwd b.archiveName :=
  LocalPath.location_join_plain (.zip (hnames.bundle b hb)) _ cwd

end Config

/-! ## §2 Inputs -/

/-- Whether an action writes over the file that it reads. -/
def Action.Spoils (cwd : Location) : Action → Prop
  | copyFile source dest => source.location cwd = dest.location cwd
  | archive source _ dest => source.location cwd = dest.location cwd
  | _ => False

instance (cwd : Location) : DecidablePred (Action.Spoils cwd)
  | .copyFile source dest => inferInstanceAs (Decidable (source.location cwd = dest.location cwd))
  | .archive source _ dest =>
    inferInstanceAs (Decidable (source.location cwd = dest.location cwd))
  | .resetDir _ | .createDir _ | .exec _ | .writeFile _ _ => inferInstanceAs (Decidable False)

namespace Config

variable {c : Config} {cwd : Location} {b : Bundle}

/-- Packing a bundle spoils an input if the canonical name leads to the binary or to the
archive. -/
theorem spoils_bundleActions (c : Config) (cwd : Location) (b : Bundle) :
    (∃ a ∈ c.bundleActions b, a.Spoils cwd) ↔
      (c.binaryPath b.target).location cwd = c.canonicalPath.location cwd ∨
        c.canonicalPath.location cwd = (c.bundlePath b).location cwd := by
  simp [bundleActions, Action.Spoils]

/-- Only packing bundles can spoil an input. The API binary never is where its archive
is. -/
theorem not_spoils_elsewhere (c : Config) (cwd : Location) :
    ∀ a ∈ c.planClean ++ c.planApi ++ c.planBuild ++ c.planPublish, ¬ a.Spoils cwd := by
  have hapi := LocalPath.location_zip_ne c.versionDir c.manifest.apiName cwd
  simp [planClean, planApi, planBuild, buildAction, planPublish, Action.Spoils, apiBinaryPath,
    apiArchivePath, hapi.symm, or_imp, forall_and]

theorem spoils_planArchive (c : Config) (cwd : Location) :
    (∃ a ∈ c.planArchive, a.Spoils cwd) ↔ ∃ b ∈ c.builtBundles,
      (c.binaryPath b.target).location cwd = c.canonicalPath.location cwd ∨
        c.canonicalPath.location cwd = (c.bundlePath b).location cwd := by
  simp only [← spoils_bundleActions]
  constructor
  · rintro ⟨a, ha, hspoils⟩
    rw [planArchive_eq] at ha
    obtain ⟨b, hb, ha⟩ := List.mem_flatMap.mp ha
    exact ⟨b, hb, a, ha, hspoils⟩
  · rintro ⟨b, hb, a, ha, hspoils⟩
    rw [planArchive_eq]
    exact ⟨a, List.mem_flatMap.mpr ⟨b, hb, ha⟩, hspoils⟩

/-- A plan spoils an input only if it packs bundles, and by packing them. -/
theorem spoils_plan (c : Config) (cwd : Location) (step : Step) :
    (∃ a ∈ step.plan c, a.Spoils cwd) ↔
      (step = .all ∨ step = .archive) ∧ ∃ a ∈ c.planArchive, a.Spoils cwd := by
  have helsewhere := c.not_spoils_elsewhere cwd
  simp only [List.mem_append] at helsewhere
  cases step with
  | archive => simp [Step.plan]
  | all =>
    simp only [true_or, true_and, Step.plan, List.mem_append]
    constructor
    · rintro ⟨a, (((hclean | hapi) | hbuild) | harchive) | hpublish, hspoils⟩
      · exact absurd hspoils (helsewhere a (by simp [hclean]))
      · split at hapi
        · exact absurd hspoils (helsewhere a (by simp [hapi]))
        · cases hapi
      · exact absurd hspoils (helsewhere a (by simp [hbuild]))
      · exact ⟨a, harchive, hspoils⟩
      · exact absurd hspoils (helsewhere a (by simp [hpublish]))
    · rintro ⟨a, harchive, hspoils⟩
      exact ⟨a, .inl (.inr harchive), hspoils⟩
  | clean | api | build | publish =>
    refine iff_of_false ?_ (by simp)
    rintro ⟨a, ha, hspoils⟩
    simp only [Step.plan] at ha
    exact helsewhere a (by simp [ha]) hspoils

/-- The two actions that pack a bundle, before it is uploaded. -/
def packing (c : Config) (b : Bundle) : List Action :=
  [.copyFile (c.binaryPath b.target) c.canonicalPath,
    .archive c.canonicalPath c.manifest.canonicalName (c.bundlePath b)]

theorem bundleActions_eq (c : Config) (b : Bundle) : c.bundleActions b =
    c.packing b ++ [.exec (Toolchain.upload (c.bundlePath b) (c.bundleRemote b)),
      .exec (Toolchain.grantPublicRead (c.bundleRemote b))] := rfl

/-- A tree in which a bundle can be packed: its binary is there, and what is written is
not in the place of a directory, on paths that the system takes. -/
structure Packable (c : Config) (cwd : Location) (b : Bundle) (binary : Contents)
    (t : FileTree) : Prop where
  fits : (c.binaryPath b.target).Fits ∧ c.canonicalPath.Fits ∧ (c.bundlePath b).Fits
  dir : t.node? (c.versionDir.location cwd) = some .dir
  source : t.node? (c.fileAt cwd (c.binaryName b.target)) = some (.file binary)
  copy : t.node? (c.fileAt cwd c.manifest.canonicalName) ≠ some .dir
  archive : t.node? (c.fileAt cwd b.archiveName) ≠ some .dir

/-- What is left under the canonical name of a binary that is copied there. -/
def copied (c : Config) (b : Bundle) (binary : Contents) : Contents :=
  if c.binaryName b.target = c.manifest.canonicalName then .empty else binary

/-- What the entry of a bundle's archive holds. -/
def packed (c : Config) (b : Bundle) (binary : Contents) : Contents :=
  if c.manifest.canonicalName = b.archiveName then .begun c.manifest.canonicalName
  else c.copied b binary

/-- A tree in which a binary has been copied, and its bundle can be packed. -/
structure Copied (c : Config) (cwd : Location) (b : Bundle) (binary : Contents)
    (t : FileTree) : Prop where
  fits : c.canonicalPath.Fits ∧ (c.bundlePath b).Fits
  dir : t.node? (c.versionDir.location cwd) = some .dir
  source : t.node? (c.fileAt cwd c.manifest.canonicalName) =
    some (.file (c.copied b binary))
  archive : t.node? (c.fileAt cwd b.archiveName) ≠ some .dir

section Packing

variable {σ : Type} {run : Runner σ} {binary : Contents}
  (hnames : c.manifest.PlainNames) (hdist : c.distDir.Descends) (hb : b ∈ c.manifest.bundles)
include hnames hdist hb

omit hb in
theorem accomplishes_copying :
    Accomplishes run cwd [.copyFile (c.binaryPath b.target) c.canonicalPath]
      (c.Packable cwd b binary) (c.Copied cwd b binary) := by
  refine .of_carries CommandLine.built rfl fun t hready => ?_
  have hcli : PlainName (c.binaryName b.target) := .binary hnames.cli b.target
  have hadmits : t.Admits (c.fileAt cwd c.manifest.canonicalName)
      (.file (c.copied b binary)) := ⟨by simp, hready.dir, .inr hready.copy⟩
  have hput := FileTree.node?_put hadmits
  refine ⟨t.put (c.fileAt cwd c.manifest.canonicalName)
    (.file (c.copied b binary)), ?_, hready.fits.2, ?_, ?_, ?_⟩
  · refine (carries_copy_iff hdist hcli hnames.canonical).mpr ⟨hready.fits.1, hready.fits.2.1,
      hready.dir, hready.copy, binary, hready.source, ?_⟩
    simp [copied, eq_comm]
  · rw [hput, if_neg (by simp), hready.dir]
  · rw [hput, if_pos rfl]
  · rw [hput]
    split
    · simp
    · exact hready.archive

theorem accomplishes_archiving :
    Accomplishes run cwd [.archive c.canonicalPath c.manifest.canonicalName (c.bundlePath b)]
      (c.Copied cwd b binary) (fun t =>
        t.node? (c.fileAt cwd b.archiveName) =
          some (.file (.archive c.manifest.canonicalName (c.packed b binary)))) := by
  refine .of_carries CommandLine.built rfl fun t hready => ?_
  have hzip : PlainName b.archiveName := .zip (hnames.bundle b hb)
  have hadmits : t.Admits (c.fileAt cwd b.archiveName)
      (.file (.archive c.manifest.canonicalName (c.packed b binary))) :=
    ⟨by simp, hready.dir, .inr hready.archive⟩
  refine ⟨t.put (c.fileAt cwd b.archiveName)
    (.file (.archive c.manifest.canonicalName (c.packed b binary))), ?_, ?_⟩
  · refine (carries_pack_iff hdist hnames.canonical hzip).mpr ⟨hready.fits.1, hready.fits.2,
      hready.dir, hready.archive, c.copied b binary, hready.source, ?_⟩
    simp [packed, eq_comm]
  · rw [FileTree.node?_put hadmits, if_pos rfl]

/-- **What a bundle comes to when it is packed.** No clash of names stops it. -/
theorem accomplishes_packing :
    Accomplishes run cwd (c.packing b) (c.Packable cwd b binary) (fun t =>
      t.node? (c.fileAt cwd b.archiveName) =
        some (.file (.archive c.manifest.canonicalName (c.packed b binary)))) :=
  (accomplishes_copying hnames hdist).cons (accomplishes_archiving hnames hdist hb)

end Packing

/-- The release of a version by a manifest, where and as releases are made by the
standard one. -/
def ofManifest (version : Version) (manifest : Manifest) (h : manifest.prod.matrix ≠ []) :
    Config where
  version
  envTag := "prod"
  manifest
  distDir := ⟨defaultDistDir⟩
  matrix_ne_nil := h

end Config

/-- **Which inputs a release spoils.** An action of a plan writes over the file it reads
exactly if the plan packs a bundle whose binary, or whose archive, is where the canonical
name leads; among plain names that is the binary or the archive of that very name. This
stops no release: a bundle that can be packed at all is packed, and its archive holds the
binary, or nothing if that was copied onto itself, or the start of an archive if it was
packed into itself. -/
theorem spoiled_inputs {σ : Type} (run : Runner σ) (cwd : Location) (c : Config) (step : Step) :
    ((∃ a ∈ step.plan c, a.Spoils cwd) ↔
      (step = .all ∨ step = .archive) ∧ ∃ b ∈ c.builtBundles,
        (c.binaryPath b.target).location cwd = c.canonicalPath.location cwd ∨
          c.canonicalPath.location cwd = (c.bundlePath b).location cwd) ∧
    (c.manifest.PlainNames → ∀ b ∈ c.builtBundles,
      ((c.binaryPath b.target).location cwd = c.canonicalPath.location cwd ↔
        c.binaryName b.target = c.manifest.canonicalName) ∧
      (c.canonicalPath.location cwd = (c.bundlePath b).location cwd ↔
        c.manifest.canonicalName = b.archiveName)) ∧
    (c.manifest.PlainNames → c.distDir.Descends → ∀ b ∈ c.builtBundles, ∀ binary,
      Accomplishes run cwd (c.packing b) (c.Packable cwd b binary) fun t =>
        t.node? ((c.bundlePath b).location cwd) =
          some (.file (.archive c.manifest.canonicalName
            (if c.manifest.canonicalName = b.archiveName then .begun c.manifest.canonicalName
              else if c.binaryName b.target = c.manifest.canonicalName then .empty
              else binary)))) := by
  refine ⟨?_, fun hnames b hb => ?_, fun hnames hdist b hb binary => ?_⟩
  · rw [Config.spoils_plan, Config.spoils_planArchive]
  · have hmem : b ∈ c.manifest.bundles := (List.mem_filter.mp hb).1
    simp [Config.location_binaryPath hnames, Config.location_canonicalPath hnames,
      Config.location_bundlePath hnames hmem]
  · have hmem : b ∈ c.manifest.bundles := (List.mem_filter.mp hb).1
    rw [Config.location_bundlePath hnames hmem]
    exact Config.accomplishes_packing hnames hdist hmem

/-- A binary has the canonical name: it is emptied, and the bundle is published with
nothing in it. -/
theorem canonical_name_empties_binary :
    let c := Config.ofManifest ⟨"1.0", by decide⟩
      { Manifest.standard with canonicalName := "datacol-linux-amd64" } (by decide)
    let linux : Bundle := ⟨"linux", ⟨.linux, .amd64⟩⟩
    let built := effects (Runner.faithful Unit []) []
      (c.planClean ++ [c.buildAction linux.target]) (.empty, ())
    (∃ a ∈ Step.plan c .all, a.Spoils []) ∧
      c.Packable [] linux (.ofText "built for linux amd64\n") built.1 ∧
      (effects (Runner.faithful Unit []) [] (c.packing linux) built).1.node?
        ["linux.zip", "1.0", "dist"] = some (.file (.archive "datacol-linux-amd64" .empty)) ∧
      (execute (Runner.faithful Unit []) [] (Step.plan c .all) (.start .empty () none)).1.isOk ∧
      (execute (Runner.faithful Unit []) [] (Step.plan c .all)
        (.start .empty () none)).2.tree.node? ["linux.zip", "1.0", "dist"] =
          some (.file (.archive "datacol-linux-amd64" .empty)) := by
  intro c linux built
  have hnames : c.manifest.PlainNames := by decide
  have hlinux : linux ∈ c.builtBundles := by decide
  obtain ⟨hspoils, hplaces, hpacked⟩ := spoiled_inputs (Runner.faithful Unit []) [] c .all
  have hready : c.Packable [] linux (.ofText "built for linux amd64\n") built.1 :=
    ⟨by decide +kernel, by decide +kernel, by decide +kernel, by decide +kernel, by decide +kernel⟩
  have hclash : (c.binaryPath linux.target).location [] = c.canonicalPath.location [] :=
    (hplaces hnames linux hlinux).1.mpr (by decide)
  have hdist : c.distDir.Descends := Config.standard_descends ⟨"1.0", by decide⟩
  have harchive : (c.bundlePath linux).location [] = ["linux.zip", "1.0", "dist"] := by
    decide +kernel
  have hleft := (hpacked hnames hdist linux hlinux _ built hready).2
  rw [harchive, if_neg (by decide), if_pos (by decide)] at hleft
  exact ⟨hspoils.mpr ⟨.inl rfl, linux, hlinux, .inl hclash⟩, hready, hleft, by decide +kernel⟩

/-! ## §3 Archives -/

/-- The addresses that actions upload single files to, in order. -/
def fileUrls (actions : List Action) : List String :=
  ((uploads actions).filter fun upload => !upload.recursive).map Upload.dest

namespace Config

/-- What the archives of a full release are named by, in order. -/
def stems (c : Config) : List String :=
  (if c.manifest.includeApi then [c.manifest.apiName] else []) ++ c.builtBundles.map Bundle.name

/-- The same with what is before the names in the store. -/
def remoteStems (c : Config) : List String :=
  (if c.manifest.includeApi then ["binaries/" ++ c.version.text ++ "/" ++ c.manifest.apiName]
    else []) ++ c.builtBundles.map Bundle.name

variable {c : Config} {cwd : Location} {b : Bundle}

theorem archiveDests_planArchive (c : Config) :
    archiveDests c.planArchive = c.builtBundles.map c.bundlePath := by
  have hbundle : ∀ b, (c.bundleActions b).filterMap Action.archiveDest? = [c.bundlePath b] :=
    fun _ => rfl
  rw [archiveDests, planArchive_eq, List.filterMap_flatMap, List.map_eq_flatMap]
  simp only [hbundle, builtBundles]

theorem archiveDests_all (c : Config) : archiveDests (Step.plan c .all) =
    c.stems.map fun stem : String => c.versionDir.join (stem ++ ".zip") := by
  have hclean : c.planClean.filterMap Action.archiveDest? = [] := rfl
  have hbuild : c.planBuild.filterMap Action.archiveDest? = [] := by
    simp [planBuild, buildAction, Action.archiveDest?, List.filterMap_cons]
  have harchive := c.archiveDests_planArchive
  have hpublish : c.planPublish.filterMap Action.archiveDest? = [] := rfl
  have hapi : (if c.manifest.includeApi then c.planApi else []).filterMap Action.archiveDest? =
      (if c.manifest.includeApi then [c.manifest.apiName] else []).map fun stem : String =>
        c.versionDir.join (stem ++ ".zip") := by
    split <;> rfl
  rw [archiveDests] at harchive ⊢
  simp only [Step.plan, List.filterMap_append, hclean, hapi, hbuild, harchive, hpublish,
    List.nil_append, List.append_nil, stems, List.map_append, List.map_map]
  rfl

theorem apiArchiveRemote_eq (c : Config) : c.apiArchiveRemote =
    c.bucket ++ "/" ++ ("binaries/" ++ c.version.text ++ "/" ++ c.manifest.apiName) ++ ".zip" := by
  rw [← String.toList_inj]
  simp [apiArchiveRemote, versionRemote, binariesRemote, String.toList_append]

theorem fileUrls_all (c : Config) : fileUrls (Step.plan c .all) =
    (c.remoteStems.map fun stem => c.bucket ++ "/" ++ stem ++ ".zip") ++ [c.latestRemote] := by
  rw [fileUrls, uploads_all]
  cases h : c.manifest.includeApi <;>
    simp [remoteStems, h, apiArchiveRemote_eq, bundleRemote, List.filter_map, Function.comp_def]

theorem nodup_fileUrls_all (c : Config) :
    (fileUrls (Step.plan c .all)).Nodup ↔ c.remoteStems.Nodup := by
  have hpointer : ∀ stem, c.bucket ++ "/" ++ stem ++ ".zip" ≠ c.latestRemote := fun stem =>
    c.latestRemote_ne_zip (c.bucket ++ "/" ++ stem)
  have hinjective : Function.Injective fun stem => c.bucket ++ "/" ++ stem ++ ".zip" :=
    fun stem stem' h => (String.append_right_inj _).mp ((String.append_left_inj _).mp h)
  rw [fileUrls_all, ← List.concat_eq_append, List.nodup_concat, List.nodup_map_iff hinjective]
  simp [hpointer]

theorem slash_not_mem_stem (hnames : c.manifest.PlainNames) {stem : String} (h : stem ∈ c.stems) :
    '/' ∉ stem.toList := by
  rcases List.mem_append.mp h with h | h
  · split at h
    · rw [List.mem_singleton.mp h]
      exact hnames.api.slash_free
    · cases h
  · obtain ⟨b, hb, rfl⟩ := List.mem_map.mp h
    exact hnames.bundle b (List.mem_filter.mp hb).1

theorem nodup_places_all (hnames : c.manifest.PlainNames) :
    ((archiveDests (Step.plan c .all)).map (LocalPath.location cwd)).Nodup ↔ c.stems.Nodup := by
  have hplaces : (archiveDests (Step.plan c .all)).map (LocalPath.location cwd) =
      c.stems.map fun stem => c.fileAt cwd (stem ++ ".zip") := by
    rw [archiveDests_all, List.map_map]
    refine List.map_congr_left fun stem hstem => ?_
    exact LocalPath.location_join_plain (.zip (slash_not_mem_stem hnames hstem)) _ cwd
  rw [hplaces, List.nodup_map_iff]
  exact fun stem stem' h => (String.append_left_inj _).mp (OsText.encode_inj.mp (List.cons.inj h).1)

section Runs

variable {σ : Type} {run : Runner σ} {world : FileTree × σ}

/-- What none of the actions touches, they leave. -/
theorem node?_of_effects (hrun : run.OnlyBuilds cwd) {actions : List Action} {l : Location}
    (h : ∀ a ∈ actions, ¬ a.Reaches cwd l ∧ ¬ a.Passes cwd l) (world : FileTree × σ) :
    (effects run cwd actions world).1.node? l = world.1.node? l := by
  induction actions generalizing world with
  | nil => rfl
  | cons a rest ih =>
    obtain ⟨hreach, hpass⟩ := h a (by simp)
    rw [effects_cons, ih fun b hb => h b (by simp [hb])]
    exact Action.effect_keeps_node hrun hreach hpass world

variable (hnames : c.manifest.PlainNames) (hdist : c.distDir.Descends)
include hnames hdist

/-- A bundle that has been packed could be packed. -/
theorem packable_of_allSucceed (hb : b ∈ c.manifest.bundles)
    (h : AllSucceed run cwd (c.packing b) world) :
    ∃ binary, c.Packable cwd b binary world.1 := by
  have hcli : PlainName (c.binaryName b.target) := .binary hnames.cli b.target
  have hzip : PlainName b.archiveName := .zip (hnames.bundle b hb)
  obtain ⟨copied, hcopied⟩ := h 0 _ rfl
  obtain ⟨packed, hpacked⟩ := h 1 _ rfl
  have hcopy : (Action.copyFile (c.binaryPath b.target) c.canonicalPath).Carries CommandLine.built cwd world.1
      (effects run cwd ((c.packing b).take 1) world).1 :=
    (Action.carries_iff_of_no_command rfl world).mpr ⟨⟨copied, hcopied⟩, rfl⟩
  have hpack : ∃ t, (Action.archive c.canonicalPath c.manifest.canonicalName
      (c.bundlePath b)).Carries CommandLine.built cwd (effects run cwd ((c.packing b).take 1) world).1 t :=
    ⟨_, (Action.carries_iff_of_no_command rfl _).mpr ⟨⟨packed, hpacked⟩, rfl⟩⟩
  obtain ⟨hfits, hfits', hdir, hfree, binary, hnode, hmiddle⟩ :=
    (carries_copy_iff hdist hcli hnames.canonical).mp hcopy
  obtain ⟨t, hpack⟩ := hpack
  obtain ⟨-, hfitsZip, -, hfreeZip, -⟩ := (carries_pack_iff hdist hnames.canonical hzip).mp hpack
  refine ⟨binary, ⟨hfits, hfits', hfitsZip⟩, hdir, hnode, hfree, ?_⟩
  by_cases heq : b.archiveName = c.manifest.canonicalName
  · rw [heq]
    exact hfree
  · -- the copy has not been in its way
    have hne : c.fileAt cwd b.archiveName ≠
        c.fileAt cwd c.manifest.canonicalName := fun h => heq (OsText.encode_inj.mp (List.cons.inj h).1)
    rwa [hmiddle, FileTree.node?_put_of_ne hne] at hfreeZip

/-- After a bundle has been packed nothing touches its archive, if no other bundle has
its name and the canonical copy is not in its place. -/
theorem not_touches_archive {rest : List Bundle} (hrest : ∀ other ∈ rest,
      other ∈ c.manifest.bundles ∧ other.name ≠ b.name)
    (hcanonical : c.manifest.canonicalName ≠ b.archiveName) {a : Action}
    (ha : a ∈ rest.flatMap c.bundleActions ++ c.planPublish) :
    ¬ a.Reaches cwd (c.fileAt cwd b.archiveName) ∧
      ¬ a.Passes cwd (c.fileAt cwd b.archiveName) := by
  have hcommand : ∀ {command : CommandLine}, command.program ≠ Toolchain.go →
      ¬ (Action.exec command).Reaches cwd (c.fileAt cwd b.archiveName) ∧
        ¬ (Action.exec command).Passes cwd (c.fileAt cwd b.archiveName) :=
    fun h => Action.untouched_of_ne_go h cwd _
  rcases List.mem_append.mp ha with ha | ha
  · obtain ⟨other, hother, ha⟩ := List.mem_flatMap.mp ha
    obtain ⟨hmem, hname⟩ := hrest other hother
    simp only [bundleActions, List.mem_cons, List.not_mem_nil, or_false] at ha
    rcases ha with rfl | rfl | rfl | rfl
    · refine ⟨fun hl => ?_, id⟩
      rw [Action.Reaches, location_canonicalPath hnames] at hl
      exact hcanonical (OsText.encode_inj.mp (List.cons.inj hl).1).symm
    · refine ⟨fun hl => ?_, id⟩
      rw [Action.Reaches, location_bundlePath hnames hmem] at hl
      exact hname ((String.append_left_inj _).mp (OsText.encode_inj.mp (List.cons.inj hl).1)).symm
    · exact hcommand gsutil_ne_go
    · exact hcommand gsutil_ne_go
  · simp only [planPublish, List.mem_cons, List.not_mem_nil, or_false] at ha
    rcases ha with rfl | rfl | rfl | rfl
    · exact hcommand gsutil_ne_go
    · refine ⟨fun hl => latestPath_ne_file c cwd _ hl.symm, fun hl => ?_⟩
      have habove := within_iff.mp (Action.within_of_passes_latest hdist hl)
      rw [fileAt, location_versionDir] at habove
      have hlen := habove.length_le
      simp only [List.length_cons] at hlen
      omega
    · exact hcommand gsutil_ne_go
    · exact hcommand gsutil_ne_go

/-- **What is left of the archives of one name**: that of the last bundle that has it. -/
theorem archive_at_end (hrun : run.OnlyBuilds cwd) {first rest : List Bundle}
    (hbundles : c.builtBundles = first ++ b :: rest)
    (hlast : ∀ other ∈ rest, other.name ≠ b.name)
    (hcanonical : c.manifest.canonicalName ≠ b.archiveName)
    (h : AllSucceed run cwd (Step.plan c .all) world) :
    ∃ before binary, before ++ c.packing b <+: Step.plan c .all ∧
      (effects run cwd before world).1.node? ((c.binaryPath b.target).location cwd) =
        some (.file binary) ∧
      (effects run cwd (Step.plan c .all) world).1.node? ((c.bundlePath b).location cwd) =
        some (.file (.archive c.manifest.canonicalName (c.copied b binary))) := by
  have hmem : ∀ other ∈ first ++ b :: rest, other ∈ c.manifest.bundles := fun other hother =>
    (List.mem_filter.mp (hbundles ▸ hother : other ∈ c.builtBundles)).1
  have harchive : c.planArchive =
      first.flatMap c.bundleActions ++ (c.bundleActions b ++ rest.flatMap c.bundleActions) := by
    rw [planArchive_eq, ← builtBundles, hbundles]
    simp
  obtain ⟨before, hplan⟩ : ∃ before, Step.plan c .all = before ++ (c.packing b ++
      ([.exec (Toolchain.upload (c.bundlePath b) (c.bundleRemote b)),
        .exec (Toolchain.grantPublicRead (c.bundleRemote b))] ++
        (rest.flatMap c.bundleActions ++ c.planPublish))) :=
    ⟨c.planClean ++ (if c.manifest.includeApi then c.planApi else []) ++ c.planBuild ++
      first.flatMap c.bundleActions, by simp [Step.plan, harchive, bundleActions_eq]⟩
  have hpacking : AllSucceed run cwd (c.packing b) (effects run cwd before world) := by
    rw [hplan] at h
    exact h.remaining.beginning (List.prefix_append _ _)
  have hb := hmem b (by simp)
  obtain ⟨binary, hready⟩ := packable_of_allSucceed hnames hdist hb hpacking
  have hpacked : (effects run cwd (c.packing b) (effects run cwd before world)).1.node?
      (c.fileAt cwd b.archiveName) =
        some (.file (.archive c.manifest.canonicalName (c.copied b binary))) := by
    rw [(accomplishes_packing hnames hdist hb _ hready).2, packed, if_neg hcanonical]
  refine ⟨before, binary, ⟨_, by rw [hplan, List.append_assoc]⟩, ?_, ?_⟩
  · rw [location_binaryPath hnames]
    exact hready.source
  · rw [location_bundlePath hnames hb, hplan, effects_append, effects_append, ← hpacked]
    refine node?_of_effects hrun (fun a ha => ?_) _
    rcases List.mem_append.mp ha with ha | ha
    · simp only [List.mem_cons, List.not_mem_nil, or_false] at ha
      rcases ha with rfl | rfl <;> exact Action.untouched_of_ne_go gsutil_ne_go cwd _
    · exact not_touches_archive hnames hdist
        (fun other hother => ⟨hmem other (by simp [hother]), hlast other hother⟩) hcanonical ha

end Runs

end Config

/-- **Which archives of a release overwrite one another.** The archives of a full release
go to different paths only if the names they are made from are different, and if these
are plain that is all it takes, for the paths as for the places they lead to. The single
files go to different addresses exactly if the names there are different; the pointer has
an address of its own. Nothing stops a release with such a clash: when it has succeeded
there is, in the place of an archive of which there were several, what the last bundle of
its name was packed from. -/
theorem archives_apart {σ : Type} (run : Runner σ) (cwd : Location) (c : Config) :
    ((archiveDests (Step.plan c .all)).Nodup → c.stems.Nodup) ∧
    (c.manifest.PlainNames →
      ((archiveDests (Step.plan c .all)).Nodup ↔ c.stems.Nodup) ∧
        (((archiveDests (Step.plan c .all)).map (LocalPath.location cwd)).Nodup ↔
          c.stems.Nodup)) ∧
    ((fileUrls (Step.plan c .all)).Nodup ↔ c.remoteStems.Nodup) ∧
    (c.manifest.PlainNames → c.distDir.Descends → run.OnlyBuilds cwd →
      ∀ first b rest, c.builtBundles = first ++ b :: rest →
        (∀ other ∈ rest, other.name ≠ b.name) → c.manifest.canonicalName ≠ b.archiveName →
        ∀ world, AllSucceed run cwd (Step.plan c .all) world →
          ∃ before binary, before ++ c.packing b <+: Step.plan c .all ∧
            (effects run cwd before world).1.node? ((c.binaryPath b.target).location cwd) =
              some (.file binary) ∧
            (effects run cwd (Step.plan c .all) world).1.node? ((c.bundlePath b).location cwd) =
              some (.file (.archive c.manifest.canonicalName
                (if c.binaryName b.target = c.manifest.canonicalName then .empty else binary)))) := by
  have hstems : (archiveDests (Step.plan c .all)).Nodup → c.stems.Nodup := by
    intro h
    rw [c.archiveDests_all] at h
    exact h.of_map _
  refine ⟨hstems, fun hnames => ?_, c.nodup_fileUrls_all, fun hnames hdist hrun first b rest
    hbundles hlast hcanonical world h => ?_⟩
  · have hplaces : ((archiveDests (Step.plan c .all)).map (LocalPath.location cwd)).Nodup ↔
        c.stems.Nodup := c.nodup_places_all hnames
    exact ⟨⟨hstems, fun h => (hplaces.mpr h).of_map _⟩, hplaces⟩
  · exact Config.archive_at_end hnames hdist hrun hbundles hlast hcanonical h

/-- Three bundles, one with the name of the API and two with one name: an archive replaces
that of the API, and another takes the place of the first in the store. -/
theorem bundle_replaces_api_archive :
    let c := Config.ofManifest ⟨"1.0", by decide⟩ { Manifest.standard with
      bundles := [⟨"apictl", ⟨.darwin, .amd64⟩⟩, ⟨"cli", ⟨.darwin, .amd64⟩⟩,
        ⟨"cli", ⟨.linux, .amd64⟩⟩] } (by decide)
    let apictl : Bundle := ⟨"apictl", ⟨.darwin, .amd64⟩⟩
    ¬ (archiveDests (Step.plan c .all)).Nodup ∧ ¬ (fileUrls (Step.plan c .all)).Nodup ∧
      (execute (Runner.faithful Unit []) [] (Step.plan c .all) (.start .empty () none)).1.isOk ∧
      (execute (Runner.faithful Unit []) [] (Step.plan c .all)
        (.start .empty () none)).2.tree.node? ["apictl.zip", "1.0", "dist"] =
          some (.file (.archive "datacol" (.ofText "built for darwin amd64\n"))) ∧
      ∃ before binary, before ++ c.packing apictl <+: Step.plan c .all ∧
        (effects (Runner.faithful Unit []) [] before (.empty, ())).1.node?
          ["datacol-darwin-amd64", "1.0", "dist"] = some (.file binary) ∧
        (effects (Runner.faithful Unit []) [] (Step.plan c .all) (.empty, ())).1.node?
          ["apictl.zip", "1.0", "dist"] = some (.file (.archive "datacol" binary)) := by
  intro c apictl
  obtain ⟨hpaths, hplain, hurls, hlast⟩ := archives_apart (Runner.faithful Unit []) [] c
  have hnames : c.manifest.PlainNames := by decide
  have hdist : c.distDir.Descends := Config.standard_descends ⟨"1.0", by decide⟩
  obtain ⟨hruns, hreplaced⟩ : (execute (Runner.faithful Unit []) [] (Step.plan c .all)
      (.start .empty () none)).1.isOk ∧
      (execute (Runner.faithful Unit []) [] (Step.plan c .all)
        (.start .empty () none)).2.tree.node? ["apictl.zip", "1.0", "dist"] =
          some (.file (.archive "datacol" (.ofText "built for darwin amd64\n"))) := by
    decide +kernel
  have hbundles : c.builtBundles =
      [] ++ apictl :: [⟨"cli", ⟨.darwin, .amd64⟩⟩, ⟨"cli", ⟨.linux, .amd64⟩⟩] := by
    decide
  have hbinary : (c.binaryPath apictl.target).location [] =
      ["datacol-darwin-amd64", "1.0", "dist"] := by
    decide +kernel
  have harchive : (c.bundlePath apictl).location [] = ["apictl.zip", "1.0", "dist"] := by
    decide +kernel
  have hothers : ∀ other ∈ [⟨"cli", ⟨.darwin, .amd64⟩⟩, ⟨"cli", ⟨.linux, .amd64⟩⟩],
      Bundle.name other ≠ apictl.name := by
    decide
  have hsucceed : AllSucceed (Runner.faithful Unit []) [] (Step.plan c .all) (.empty, ()) :=
    allSucceed_of_isOk (s := .start FileTree.empty () none) hruns
  obtain ⟨before, binary, hbefore, hread, hleft⟩ := hlast hnames hdist
    (Runner.faithful_buildsAll Unit []).onlyBuilds [] apictl _ hbundles hothers (by decide)
    (.empty, ()) hsucceed
  rw [hbinary] at hread
  rw [harchive, if_neg (by decide)] at hleft
  exact ⟨fun h => absurd ((hplain hnames).1.mp h) (by decide),
    fun h => absurd (hurls.mp h) (by decide), hruns, hreplaced,
    before, binary, hbefore, hread, hleft⟩

end ReleaseKit
