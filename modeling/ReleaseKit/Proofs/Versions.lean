/-
ReleaseKit.Proofs.Versions — every version but one can be released.

A version is one component of a path, and its checks see to it that it can be one. That
it stands beside another name, that of the pointer, is not checked: a version with this
name takes its place, and the release gets as far as the pointer, with everything
uploaded, and fails there. All other versions are released. What carries the proof is
that while a version is staged every action finds what it needs: the directory is there,
only files are in it, and what is read has been written (`Config.Stocked`). What the
files hold does not matter, so the runner may build what it likes.

  §1 Paths     — joined names fit where they are short.
  §2 Runners   — `Runner.Produces`.
  §3 Stock     — `Config.Stocked`, kept by actions (`Works.accomplishes`) and by lists.
  §4 Versions  — `versions_released`.
-/
import ReleaseKit.Proofs.Clashes

namespace ReleaseKit

open Location

/-! ## §1 Paths -/

namespace LocalPath

variable {left : LocalPath} {right : String}

theorem size_join_le (hleft : left.isText = true) (right : String) :
    (left.join right).os.size ≤ left.os.size + 1 + right.utf8ByteSize := by
  have hslash : "/".utf8ByteSize = 1 := by decide
  obtain ⟨text, htext⟩ := OsText.isText_iff.mp hleft
  obtain rfl : left = ofText text := congrArg LocalPath.mk htext
  have hleftSize : (ofText text).os.size = text.utf8ByteSize := OsText.size_ofString text
  rw [hleftSize]
  unfold join
  split
  · rw [OsText.size_ofString]
    omega
  · split
    · have hcode : (ofCode ((ofText text).code ++ (OsText.ofString right).code)).os =
          OsText.ofString (text ++ right) := congrArg OsText.mk (OsText.encode_append text right).symm
      rw [hcode, OsText.size_ofString, String.utf8ByteSize_append]
      omega
    · have hcode : (ofCode ((ofText text).code ++ "/" ++ (OsText.ofString right).code)).os =
          OsText.ofString (text ++ "/" ++ right) := by
        have hencode : OsText.encode (text ++ "/" ++ right) =
            OsText.encode text ++ "/" ++ OsText.encode right := by
          rw [OsText.encode_append, OsText.encode_append,
            OsText.encode_of_not_mem (by decide : OsText.mark ∉ "/".toList)]
        exact congrArg OsText.mk hencode.symm
      rw [hcode, OsText.size_ofString, String.utf8ByteSize_append, String.utf8ByteSize_append, hslash]

/-- A name that fits joins to a path that fits, if there is room for it. -/
theorem fits_join (htext : left.isText = true) (hleft : left.Fits) (hslash : '/' ∉ right.toList)
    (hnul : '\x00' ∉ right.toList) (hshort : right.utf8ByteSize ≤ longestName)
    (hroom : left.os.size + 1 + right.utf8ByteSize ≤ longestPath) : (left.join right).Fits := by
  have hname : (OsText.ofString right).holdsNul = false ∧
      (OsText.ofString right).size ≤ longestName := by
    refine ⟨?_, (OsText.size_ofString right).trans_le hshort⟩
    rw [Bool.eq_false_iff, Ne, OsText.holdsNul_ofString]
    exact hnul
  have hcode : '/' ∉ (OsText.ofString right).code.toList := mt OsText.mem_encode.mp hslash
  obtain ⟨stem, hp, hl, -⟩ := pieces_join left hcode
  have hpieces : ∀ piece ∈ (left.join right).pieces,
      piece ∈ left.pieces ∨ piece = (OsText.ofString right).code := by
    intro piece hpiece
    rw [hp, List.mem_append, List.mem_singleton] at hpiece
    refine hpiece.imp_left fun hpiece => ?_
    rcases hl with hl | hl <;> simp [hl, hpiece]
  refine ⟨fun piece hpiece => ?_, (size_join_le htext right).trans hroom, fun piece hpiece => ?_⟩
  · rcases hpieces piece hpiece with hpiece | rfl
    · exact hleft.nul_free piece hpiece
    · exact hname.1
  · rcases hpieces piece hpiece with hpiece | rfl
    · exact hleft.names_short piece hpiece
    · exact hname.2

end LocalPath

/-! ## §2 Runners -/

/-- A runner whose commands all succeed: a compiler writes something where it was told to,
and nothing else happens. -/
def Runner.Produces {σ : Type} (run : Runner σ) (cwd : Location) : Prop :=
  ∀ command state t, (run command state t).result = .ok () ∧
    match command.output? with
    | none => (run command state t).tree = t
    | some output => ∃ contents, (run command state t).tree = t.writeBelow cwd output contents

section Runners

variable {σ : Type} {run : Runner σ} {cwd : Location}

/-- A command succeeds and leaves what the runner left. -/
theorem Runner.Produces.effect_exec (hrun : run.Produces cwd) (command : CommandLine)
    (world : FileTree × σ) :
    (∃ done, ((Action.exec command).effect run cwd world).1 = .ok done) ∧
      ((Action.exec command).effect run cwd world).2.1 = (run command world.2 world.1).tree := by
  have hok := (hrun command world.2 world.1).1
  unfold Action.effect Action.apply
  dsimp only [Session.start]
  rw [hok]
  exact ⟨⟨_, rfl⟩, rfl⟩

theorem Runner.Produces.onlyBuilds (hrun : run.Produces cwd) : run.OnlyBuilds cwd := by
  intro command state t
  obtain ⟨-, htree⟩ := hrun command state t
  cases hout : command.output? with
  | none =>
    rw [hout] at htree
    rw [htree]
    exact .refl t
  | some output =>
    rw [hout] at htree
    obtain ⟨contents, htree⟩ := htree
    rw [htree]
    refine (FileTree.writeBelow_sameBut cwd output contents t).mono ?_ ?_
    · rintro l rfl
      exact ⟨output, hout, within_self _⟩
    · rintro l ⟨parent, hparent, hl⟩
      exact ⟨output, hout, parent, hparent, hl⟩

/-- What builds what it is asked to writes something. -/
theorem Runner.Builds.produces {output : CommandLine → Contents} (hrun : run.Builds output cwd) :
    run.Produces cwd := by
  intro command state t
  obtain ⟨hok, htree⟩ := hrun command state t
  refine ⟨hok, ?_⟩
  rw [htree]
  unfold CommandLine.output? CommandLine.leave
  cases command.flagValue "-o" with
  | none => split <;> simp_all
  | some text =>
    by_cases hgo : command.program = Toolchain.go
    · simp only [hgo, if_true, Option.map_some]
      exact ⟨_, rfl⟩
    · simp [hgo]

end Runners

/-! ## §3 Stock -/

/-- An action whose paths the system takes. -/
def Action.Fits : Action → Prop
  | resetDir path => path.Fits
  | createDir path => path.Fits
  | exec command => ∀ output, command.output? = some output → output.Fits
  | copyFile source dest => source.Fits ∧ dest.Fits
  | archive source _ dest => source.Fits ∧ dest.Fits
  | writeFile path _ => path.Fits

namespace Config

variable {c : Config} {cwd : Location} {known known' : String → Prop} {t : FileTree}
  {name : String}

/-- The directory of the version is there, with files only in it, among them the known
ones; and no directory is in the place of the pointer unless it is that one. -/
structure Stocked (c : Config) (cwd : Location) (known : String → Prop) (t : FileTree) :
    Prop where
  dir : t.node? (c.versionDir.location cwd) = some .dir
  free : ∀ name, t.node? (name :: c.versionDir.location cwd) ≠ some .dir
  known : ∀ name, known name →
    ∃ contents, t.node? (c.fileAt cwd name) = some (.file contents)
  pointer : c.version.text ≠ latestName → t.node? (c.latestPath.location cwd) ≠ some .dir

theorem Stocked.mono (h : c.Stocked cwd known t) (hle : ∀ name, known' name → known name) :
    c.Stocked cwd known' t :=
  ⟨h.dir, h.free, fun name hname => h.known name (hle name hname), h.pointer⟩

/-- A file put in the directory is known. -/
theorem Stocked.put (h : c.Stocked cwd known t) (name : String) (contents : Contents) :
    c.Stocked cwd (fun other => known other ∨ some name = some other)
      (t.put (c.fileAt cwd name) (.file contents)) := by
  have hadmits : t.Admits (c.fileAt cwd name) (.file contents) :=
    ⟨by simp, h.dir, .inr (h.free _)⟩
  have hput := FileTree.node?_put hadmits
  refine ⟨?_, fun other => ?_, fun other hother => ?_, fun hversion => ?_⟩
  · rw [hput, if_neg (by simp), h.dir]
  · rw [hput]
    split
    · simp
    · exact h.free other
  · rw [hput]
    split
    · exact ⟨contents, rfl⟩
    · rename_i hne
      refine h.known other (hother.resolve_right fun heq => hne ?_)
      rw [Option.some.inj heq]
  · rw [hput, if_neg (latestPath_ne_file c cwd _)]
    exact h.pointer hversion

section Actions

variable {σ : Type} {run : Runner σ} {a : Action} {actions : List Action}
  {source dest : Option String}

/-- A file that is made from a known one is known. -/
theorem accomplishes_derive {alone : Contents} {made : Contents → Contents} {other : String}
    (ha : a.command? = none)
    (hcarries : ∀ {t t'}, a.Carries CommandLine.built cwd t t' ↔ c.Derives cwd other name alone made t t')
    (hfits : (c.versionDir.join other).Fits ∧ (c.versionDir.join name).Fits)
    (hknown : known other) :
    Accomplishes run cwd [a] (c.Stocked cwd known)
      (c.Stocked cwd fun other => known other ∨ some name = some other) := by
  refine .of_carries CommandLine.built ha fun t hstock => ?_
  obtain ⟨contents, hnode⟩ := hstock.known other hknown
  exact ⟨_, hcarries.mpr ⟨hfits.1, hfits.2, hstock.dir, hstock.free _, contents, hnode, rfl⟩,
    hstock.put name _⟩

/-- The pointer is written beside the stock. -/
theorem accomplishes_point (hdist : c.distDir.Descends) (hfits : c.latestPath.Fits)
    (hversion : c.version.text ≠ latestName) :
    Accomplishes run cwd [c.pointerAction] (c.Stocked cwd known) (c.Stocked cwd known) := by
  refine .of_carries CommandLine.built rfl fun t hstock => ?_
  have hdistDir : t.node? (c.distDir.location cwd) = some .dir := by
    refine FileTree.dir_above hstock.dir ?_
    rw [location_versionDir]
    exact List.suffix_cons _ _
  have hfree := hstock.pointer hversion
  rw [location_latestPath] at hfree
  have hwrite := FileTree.writeWithDirs_of_dir (endsIn_latestPath c cwd)
    ⟨descends_latestPath hdist, hfits⟩ hdistDir hfree (.ofText c.latestContents)
  have hadmits : t.Admits (latestName :: c.distDir.location cwd)
      (.file (.ofText c.latestContents)) := ⟨by simp, hdistDir, .inr hfree⟩
  have hput := FileTree.node?_put hadmits
  rw [← location_latestPath c cwd] at hput hwrite
  have hne : c.versionDir.location cwd ≠ c.latestPath.location cwd := fun h =>
    (versionDir_apart hversion cwd).2 (h ▸ List.suffix_rfl)
  refine ⟨_, hwrite, ?_, fun name => ?_, fun name hname => ?_, fun _ => ?_⟩
  · rw [hput, if_neg hne, hstock.dir]
  · rw [hput, if_neg (latestPath_ne_file c cwd name).symm]
    exact hstock.free name
  · rw [hput, if_neg (latestPath_ne_file c cwd _).symm]
    exact hstock.known name hname
  · simp [hput]

/-- **An action that works on a stocked directory succeeds**, and what it writes is known
from then on. -/
theorem Works.accomplishes (h : c.Works a source dest) (hdist : c.distDir.Descends)
    (htext : c.distDir.isText = true) (hrun : run.Produces cwd) (hfits : a.Fits)
    (hspoils : ¬ a.Spoils cwd)
    (hpoint : a = c.pointerAction → c.version.text ≠ latestName)
    (hknown : ∀ name, source = some name → known name ∨ dest = some name) :
    Accomplishes run cwd [a] (c.Stocked cwd known)
      (c.Stocked cwd fun name => known name ∨ dest = some name) := by
  cases h with
  | make =>
    refine .of_carries CommandLine.built rfl fun t hstock => ⟨t, ?_, hstock.mono (by simp)⟩
    exact FileTree.makeDirs_of_dir ⟨descends_versionDir hdist, hfits⟩
      (endsIn_versionDir c cwd).trimmed hstock.dir
  | @command command hprogram =>
    refine .single fun world hstock => ?_
    obtain ⟨hok, htree⟩ := hrun.effect_exec command world
    have hsame := (hrun command world.2 world.1).2
    rw [CommandLine.output?_of_ne_go hprogram] at hsame
    rw [htree, hsame]
    exact ⟨hok, hstock.mono (by simp)⟩
  | @build target sources name hname =>
    refine .single fun world hstock => ?_
    obtain ⟨hok, htree⟩ := hrun.effect_exec (Toolchain.goBuild target c.manifest.ldflags
      (c.versionDir.join name) sources) world
    have hout := Toolchain.output?_goBuild target c.manifest.ldflags (c.versionDir.join name)
      sources
    rw [LocalPath.asShown_join hname.slash_free,
      LocalPath.asShown_eq_iff.mpr (isText_versionDir htext)] at hout
    have hmade := (hrun (Toolchain.goBuild target c.manifest.ldflags (c.versionDir.join name)
      sources) world.2 world.1).2
    rw [hout] at hmade
    obtain ⟨contents, hmade⟩ := hmade
    have hwrite := FileTree.writeBelow_of_dir (endsIn_file c cwd hname)
      ⟨descends_file hdist hname, hfits _ hout⟩ hstock.dir (hstock.free _) contents
    rw [if_pos htext, htree, hmade, hwrite]
    exact ⟨hok, hstock.put name contents⟩
  | @copy other name hother hname =>
    refine accomplishes_derive rfl (carries_copy_iff hdist hother hname) hfits ?_
    refine (hknown other rfl).resolve_right fun heq => hspoils ?_
    obtain rfl := Option.some.inj heq
    exact rfl
  | @pack entry other name hother hname =>
    refine accomplishes_derive rfl (carries_pack_iff hdist hother hname) hfits ?_
    refine (hknown other rfl).resolve_right fun heq => hspoils ?_
    obtain rfl := Option.some.inj heq
    exact rfl
  | point =>
    intro world hstock
    obtain ⟨hsucceed, hleft⟩ := accomplishes_point hdist hfits (hpoint rfl) world hstock
    exact ⟨hsucceed, hleft.mono (by simp)⟩

/-- **A prepared list succeeds on a stocked directory.** The induction is on the list, and
what is known grows with it. -/
theorem Prepared.accomplishes (h : c.Prepared known actions) (hdist : c.distDir.Descends)
    (htext : c.distDir.isText = true) (hrun : run.Produces cwd) (hfits : ∀ a ∈ actions, a.Fits)
    (hspoils : ∀ a ∈ actions, ¬ a.Spoils cwd)
    (hpoint : c.pointerAction ∈ actions → c.version.text ≠ latestName) :
    Accomplishes run cwd actions (c.Stocked cwd known) (c.Stocked cwd fun _ => False) := by
  induction h with
  | nil => exact fun world hstock => ⟨.nil, hstock.mono fun _ => False.elim⟩
  | @cons known a rest source dest hworks hsource _ ih =>
    refine .cons (hworks.accomplishes hdist htext hrun (hfits a (by simp)) (hspoils a (by simp))
      (fun heq => hpoint (by simp [heq])) hsource) ?_
    exact ih (fun b hb => hfits b (by simp [hb])) (fun b hb => hspoils b (by simp [hb]))
      fun hmem => hpoint (by simp [hmem])

end Actions

/-! ## §4 Versions -/

theorem fits_of_ne_go {command : CommandLine} (h : command.program ≠ Toolchain.go) :
    (Action.exec command).Fits := by
  intro output hout
  rw [CommandLine.output?_of_ne_go h] at hout
  cases hout

theorem fits_goBuild {path : LocalPath} (htext : path.isText = true) (h : path.Fits)
    (target : Target) (ldflags : String) (sources : List String) : (Action.exec (Toolchain.goBuild target ldflags path sources)).Fits := by
  intro output hout
  rw [Toolchain.output?_goBuild, LocalPath.asShown_eq_iff.mpr htext] at hout
  exact Option.some.inj hout ▸ h

/-- Where the local paths of a release fit, so do those of its actions. -/
theorem fits_of_mem_all (htext : c.distDir.isText = true) (h : ∀ p ∈ c.localPaths, p.Fits)
    {a : Action} (ha : a ∈ Step.plan c .all) : a.Fits := by
  have hdir : c.versionDir.Fits := h _ (by simp [localPaths])
  have hlatest : c.latestPath.Fits := h _ (by simp [localPaths])
  have hfileText : ∀ name : String, (c.versionDir.join name).isText = true := fun name =>
    LocalPath.isText_join_of_isText (isText_versionDir htext) name
  have hfile : ∀ {name : String}, name ∈ c.fileNames → (c.versionDir.join name).Fits := fun hname =>
    h _ (List.mem_cons_of_mem _ (List.mem_cons_of_mem _ (List.mem_map_of_mem hname)))
  simp only [Step.plan, List.mem_append] at ha
  rcases ha with (((ha | ha) | ha) | ha) | ha
  · rw [List.mem_singleton.mp ha]
    exact hdir
  · split at ha
    · rename_i hinclude
      obtain ⟨hbinary, hzip⟩ := apiNames_mem_fileNames hinclude
      simp only [planApi, List.mem_cons, List.not_mem_nil, or_false] at ha
      rcases ha with rfl | rfl | rfl | rfl | rfl
      · exact hdir
      · exact fits_goBuild (hfileText _) (hfile hbinary) _ _ _
      · exact ⟨hfile hbinary, hfile hzip⟩
      · exact fits_of_ne_go gsutil_ne_go
      · exact fits_of_ne_go gsutil_ne_go
    · cases ha
  · simp only [planBuild, List.mem_cons, List.mem_map] at ha
    rcases ha with rfl | ⟨target, htarget, rfl⟩
    · exact hdir
    · exact fits_goBuild (hfileText _) (hfile (binaryName_mem_fileNames htarget)) _ _ _
  · rw [planArchive_eq] at ha
    obtain ⟨b, hb, ha⟩ := List.mem_flatMap.mp ha
    have hcanonical : c.canonicalPath.Fits := hfile (canonicalName_mem_fileNames c)
    simp only [bundleActions, List.mem_cons, List.not_mem_nil, or_false] at ha
    rcases ha with rfl | rfl | rfl | rfl
    · exact ⟨hfile (binaryName_mem_fileNames (target_mem_matrix hb)), hcanonical⟩
    · exact ⟨hcanonical, hfile (archiveName_mem_fileNames hb)⟩
    · exact fits_of_ne_go gsutil_ne_go
    · exact fits_of_ne_go gsutil_ne_go
  · simp only [planPublish, List.mem_cons, List.not_mem_nil, or_false] at ha
    rcases ha with rfl | rfl | rfl | rfl
    · exact fits_of_ne_go gsutil_ne_go
    · exact hlatest
    · exact fits_of_ne_go gsutil_ne_go
    · exact fits_of_ne_go gsutil_ne_go

section Release

variable {σ : Type} {run : Runner σ} (hnames : c.manifest.PlainNames) (hdist : c.distDir.Descends)
  (htext : c.distDir.isText = true) (hfits : ∀ p ∈ c.localPaths, p.Fits)

include hdist hfits in
/-- Cleaning sets an empty stock. -/
theorem accomplishes_reset :
    Accomplishes run cwd c.planClean (c.Startable cwd) (c.Stocked cwd fun _ => False) := by
  have husable : c.versionDir.Usable :=
    ⟨descends_versionDir hdist, hfits _ (by simp [localPaths])⟩
  refine .of_carries CommandLine.built rfl fun t hstart => ?_
  obtain ⟨left, hreset, hleft⟩ := resetDir_of_startable husable hstart
  refine ⟨left, hreset, ?_, fun name => ?_, fun _ => False.elim, fun hversion => ?_⟩
  · rw [hleft, if_pos List.suffix_rfl]
  · rw [hleft, if_neg (fun h => absurd h.length_le (by simp)), if_pos (List.suffix_cons _ _)]
    simp
  · obtain ⟨habove, hbelow⟩ := versionDir_apart hversion cwd
    rw [hleft, if_neg habove, if_neg hbelow]
    rcases hstart.pointer with h | ⟨contents, h⟩ <;> simp [h]

variable (hspoils : ∀ a ∈ Step.plan c .all, ¬ a.Spoils cwd) (hrun : run.Produces cwd)
include hnames hdist htext hfits hspoils hrun

/-- The beginning of a full release succeeds, as long as it does not write a pointer that
has the name of the version. -/
theorem accomplishes_beginning {before : List Action}
    (hbefore : c.planClean ++ before <+: Step.plan c .all)
    (hpoint : c.pointerAction ∈ before → c.version.text ≠ latestName) :
    Accomplishes run cwd (c.planClean ++ before) (c.Startable cwd)
      (c.Stocked cwd fun _ => False) := by
  obtain ⟨rest, hplan, hprepared⟩ := prepared_all (fun _ => False) hnames
    fun hbytes => absurd (htext.symm.trans hbytes) (by decide)
  have hmem : ∀ a ∈ before, a ∈ Step.plan c .all := fun a ha => hbefore.subset (by simp [ha])
  obtain ⟨after, hafter⟩ := hbefore
  have hrest : rest = before ++ after := by
    have hcons : .resetDir c.versionDir :: (before ++ after) = .resetDir c.versionDir :: rest :=
      hafter.trans hplan
    exact (List.cons.inj hcons).2.symm
  rw [hrest] at hprepared
  exact (accomplishes_reset hdist hfits).append
    (hprepared.beginning.accomplishes hdist htext hrun
      (fun a ha => fits_of_mem_all htext hfits (hmem a ha)) (fun a ha => hspoils a (hmem a ha))
      hpoint)

/-- A version that has not the name of the pointer is released. -/
theorem release_succeeds (hversion : c.version.text ≠ latestName) {t : FileTree}
    (hstart : c.Startable cwd t) (state : σ) :
    ∃ done left, execute run cwd (Step.plan c .all) (.start t state none) = (.ok done, left) ∧
      left.tree.node? (c.versionDir.location cwd) = some .dir ∧
      left.tree.node? (c.latestPath.location cwd) =
        some (.file (.ofText (c.version.text ++ "\n"))) := by
  obtain ⟨rest, hplan, -⟩ := prepared_all (fun _ => True) hnames fun _ _ => trivial
  have hclean : Step.plan c .all = c.planClean ++ rest := hplan
  have hwhole : c.planClean ++ rest <+: Step.plan c .all := ⟨[], by rw [hclean, List.append_nil]⟩
  obtain ⟨hsucceed, hstock⟩ := accomplishes_beginning hnames hdist htext hfits hspoils hrun hwhole
    (fun _ => hversion) (t, state) hstart
  rw [← hclean] at hsucceed hstock
  obtain ⟨done, left, hexecute, hworld⟩ :=
    execute_of_allSucceed (s := .start t state none) hsucceed rfl
  have htree : left.tree = (effects run cwd (Step.plan c .all) (t, state)).1 :=
    congrArg Prod.fst hworld
  have hpointer := execute_node?_latest hnames hversion hdist hrun.onlyBuilds .all
    (.start t state none)
  have hmem : c.pointerAction ∈ Step.plan c .all := by
    simp [plan_all_eq, beforePointer]
  rw [hexecute, doneOf, if_pos hmem] at hpointer
  exact ⟨done, left, hexecute, htree ▸ hstock.dir, hpointer⟩

/-- A version that has the name of the pointer is uploaded, and then the pointer cannot
be written. -/
theorem release_stops_at_pointer (hversion : c.version.text = latestName) {t : FileTree}
    (hstart : c.Startable cwd t) (state : σ) :
    ∃ stop left, execute run cwd (Step.plan c .all) (.start t state none) = (.error stop, left) ∧
      doneOf (Step.plan c .all) (.error stop) = c.preparation ++ [c.uploadAll] ∧
      stop.action = c.pointerAction ∧ stop.error = .io c.latestPath .isDirectory ∧
      left.tree.node? (c.latestPath.location cwd) = some .dir := by
  have hplan : Step.plan c .all =
      (c.preparation ++ [c.uploadAll]) ++ c.pointerAction :: c.afterPointer := by
    simp [plan_all_eq, beforePointer]
  obtain ⟨before, hbefore⟩ : ∃ before, c.preparation ++ [c.uploadAll] = c.planClean ++ before :=
    ⟨(if c.manifest.includeApi then c.planApi else []) ++ c.planBuild ++ c.planArchive ++
      [c.uploadAll], by simp [preparation]⟩
  have hpoint : c.pointerAction ∉ before := by
    have hne : c.pointerAction ≠ c.uploadAll := by simp [pointerAction, uploadAll]
    have hnot : c.pointerAction ∉ c.preparation ++ [c.uploadAll] := by
      simp [c.pointerAction_not_mem_preparation, hne]
    exact fun h => hnot (hbefore ▸ List.mem_append_right _ h)
  obtain ⟨hsucceed, hstock⟩ := accomplishes_beginning hnames hdist htext hfits hspoils hrun
    ⟨_, by rw [← hbefore, hplan]⟩ (fun h => absurd h hpoint) (t, state) hstart
  rw [← hbefore] at hsucceed hstock
  generalize hworld : effects run cwd (c.preparation ++ [c.uploadAll]) (t, state) = world at hstock
  -- the directory of the version is in the place of the pointer
  have htaken : world.1.node? (latestName :: c.distDir.location cwd) = some .dir := by
    rw [← encode_eq_latestName.mpr hversion, ← location_versionDir]
    exact hstock.dir
  have hdistDir := FileTree.dir_above htaken (List.suffix_cons _ _)
  have hwrite := FileTree.writeWithDirs_of_taken (endsIn_latestPath c cwd)
    ⟨descends_latestPath hdist, hfits _ (by simp [localPaths])⟩ hdistDir htaken
    (.ofText c.latestContents)
  have hfail : (c.pointerAction.effect run cwd world).1 = .error (.io c.latestPath .isDirectory) ∧
      (c.pointerAction.effect run cwd world).2.1 = world.1 := by
    unfold pointerAction Action.effect Action.apply
    dsimp only [Session.start]
    rw [← FileTree.writeWithDirs, hwrite]
    exact ⟨rfl, rfl⟩
  have hstop : ∃ left, execute run cwd ((c.preparation ++ [c.uploadAll]) ++
      c.pointerAction :: c.afterPointer) (.start t state none) =
        (.error ⟨(c.preparation ++ [c.uploadAll]).length, c.pointerAction, true,
          .io c.latestPath .isDirectory⟩, left) ∧
      (left.tree, left.state) =
        effects run cwd ((c.preparation ++ [c.uploadAll]) ++ [c.pointerAction]) (t, state) :=
    execute_of_failing hsucceed (hworld ▸ hfail.1) rfl
  obtain ⟨left, hexecute, hleft⟩ := hstop
  rw [effects_append, hworld] at hleft
  have htree : left.tree = world.1 := (congrArg Prod.fst hleft).trans hfail.2
  rw [hplan]
  refine ⟨_, left, hexecute, List.take_left, rfl, rfl, ?_⟩
  rw [htree, location_latestPath]
  exact htaken

end Release

section Standard

variable (hmanifest : c.manifest = .standard) (hdist : c.distDir = ⟨defaultDistDir⟩)

include hmanifest in
theorem standard_names_fit (h : name ∈ c.fileNames) :
    '/' ∉ name.toList ∧ '\x00' ∉ name.toList ∧ name.utf8ByteSize ≤ longestName := by
  have hzips : ∀ b ∈ Manifest.standard.bundles, '/' ∉ (b.name ++ ".zip").toList ∧
      '\x00' ∉ (b.name ++ ".zip").toList ∧ (b.name ++ ".zip").utf8ByteSize ≤ longestName := by
    decide
  simp only [fileNames, List.mem_append, List.mem_map, List.mem_singleton, hmanifest] at h
  rcases h with ((⟨target, -, rfl⟩ | rfl) | h) | ⟨b, hb, rfl⟩
  · obtain ⟨os, arch⟩ := target
    rw [binaryName, hmanifest]
    cases os <;> cases arch <;> decide
  · decide
  · rw [if_pos (by decide)] at h
    revert name
    decide
  · have hmem := (List.mem_filter.mp hb).1
    rw [hmanifest] at hmem
    exact hzips b hmem

include hmanifest hdist in
theorem standard_paths_fit (hnul : '\x00' ∉ c.version.text.toList)
    (hsize : c.version.text.utf8ByteSize ≤ longestName) : ∀ p ∈ c.localPaths, p.Fits := by
  have hslash := c.version.plainName.slash_free
  have hdistFits : c.distDir.Fits := by
    rw [hdist]
    decide
  have hdistSize : c.distDir.os.size = 4 := by
    rw [hdist]
    decide
  have htext : c.distDir.isText = true := by
    rw [hdist]
    exact LocalPath.isText_ofText _
  have hname : longestName = 255 := rfl
  have hpath : longestPath = 4095 := rfl
  have hdir : c.versionDir.Fits := LocalPath.fits_join htext hdistFits hslash hnul hsize (by omega)
  have hdirSize : c.versionDir.os.size ≤ 260 := by
    have := LocalPath.size_join_le htext c.version.text
    rw [versionDir]
    omega
  intro p hp
  simp only [localPaths, List.mem_cons, List.mem_map] at hp
  rcases hp with rfl | rfl | ⟨name, hmem, rfl⟩
  · exact hdir
  · exact LocalPath.fits_join htext hdistFits (by decide) (by decide) (by decide) (by rw [hdistSize]; decide)
  · obtain ⟨hslash, hnul, hshort⟩ := standard_names_fit hmanifest hmem
    exact LocalPath.fits_join (isText_versionDir htext) hdir hslash hnul hshort (by omega)

include hmanifest in
theorem standard_spoils_nothing (cwd : Location) : ∀ a ∈ Step.plan c .all, ¬ a.Spoils cwd := by
  have hnames : c.manifest.PlainNames := hmanifest ▸ Manifest.standard_plainNames
  have hbinary : ∀ target : Target, target.binaryName "datacol" ≠ "datacol" := by
    rintro ⟨os, arch⟩
    cases os <;> cases arch <;> decide
  have hzips : ∀ b ∈ Manifest.standard.bundles, "datacol" ≠ b.archiveName := by decide
  intro a ha hspoils
  obtain ⟨-, hpacked⟩ := (spoils_plan c cwd .all).mp ⟨a, ha, hspoils⟩
  obtain ⟨b, hb, hclash⟩ := (spoils_planArchive c cwd).mp hpacked
  have hmem := (List.mem_filter.mp hb).1
  rw [location_binaryPath hnames, location_canonicalPath hnames, location_bundlePath hnames hmem]
    at hclash
  rw [hmanifest] at hmem
  rcases hclash with heq | heq
  · have hname := OsText.encode_inj.mp (List.cons.inj heq).1
    rw [binaryName, hmanifest] at hname
    exact hbinary b.target hname
  · have hname := OsText.encode_inj.mp (List.cons.inj heq).1
    rw [hmanifest] at hname
    exact hzips b hmem hname

include hdist in
theorem location_distDir_standard :
    FileTree.start cwd c.distDir = cwd ∧ c.distDir.location cwd = "dist" :: cwd := by
  have hpieces : (LocalPath.mk defaultDistDir).rooted = false ∧
      (LocalPath.mk defaultDistDir).pieces = ["dist"] := by
    decide
  have hplain : PlainName "dist" := by decide
  have hstart : FileTree.start cwd c.distDir = cwd := by
    rw [hdist, FileTree.start, hpieces.1]
    rfl
  refine ⟨hstart, ?_⟩
  rw [LocalPath.location, hstart, hdist, hpieces.2]
  exact follow_name hplain.ne_empty hplain.ne_here hplain.ne_up

include hdist in
/-- In an empty working directory nothing is in the way. -/
theorem startable_of_empty_dir {t : FileTree} (hcwd : t.node? cwd = some .dir)
    (hempty : ∀ name, t.node? (name :: cwd) = none) : c.Startable cwd t := by
  obtain ⟨hstart, hloc⟩ : FileTree.start cwd c.distDir = cwd ∧
      c.distDir.location cwd = "dist" :: cwd := location_distDir_standard hdist
  have hnone : ∀ name, t.node? (name :: "dist" :: cwd) = none := fun name =>
    FileTree.nothing_below (hempty "dist") (List.suffix_cons _ _)
  refine ⟨by rw [hstart, hcwd], fun m hm => ?_, .inl ?_, .inl ?_⟩
  · rw [hloc, List.suffix_cons_iff] at hm
    rcases hm with rfl | hm
    · exact .inl (hempty _)
    · exact .inr (FileTree.dir_above hcwd hm)
  · rw [location_versionDir, hloc]
    exact hnone _
  · rw [location_latestPath, hloc]
    exact hnone _

end Standard

/-- A configuration is put together of what it is made from. -/
theorem assemble_ok {settings : Settings} {manifest : Manifest} {distDir : LocalPath}
    (h : assemble settings manifest distDir = .ok c) :
    c.version.text = settings.version ∧ c.manifest = manifest ∧ c.distDir = distDir := by
  obtain ⟨hversion, -, hmanifest, hdist⟩ := assemble_eq_ok.mp h
  exact ⟨hversion, hmanifest, hdist⟩

end Config

/-- **Every version but one can be released.** With the standard manifest, in an empty
working directory, with a runner whose commands all succeed, the full release of any
version that is accepted, holds no zero byte and is short enough for a name succeeds, in
every environment; its directory is there then, and the pointer says it. The one
exception is the name of the pointer: that release does everything up to the pointer,
uploads included, and fails there, since its directory is in the way. -/
theorem versions_released {σ : Type} (run : Runner σ) (cwd : Location) (hrun : run.Produces cwd)
    (settings : Settings) (c : Config)
    (hc : Config.assemble settings .standard ⟨Config.defaultDistDir⟩ = .ok c)
    (hnul : '\x00' ∉ settings.version.toList) (hsize : settings.version.utf8ByteSize ≤ 255)
    (t : FileTree) (hcwd : t.node? cwd = some .dir) (hempty : ∀ name, t.node? (name :: cwd) = none)
    (state : σ) :
    (settings.version ≠ "latest.txt" →
      ∃ done left, execute run cwd (Step.plan c .all) (.start t state none) = (.ok done, left) ∧
        left.tree.node? (settings.version :: "dist" :: cwd) = some .dir ∧
        left.tree.node? ("latest.txt" :: "dist" :: cwd) =
          some (.file (.ofText (settings.version ++ "\n")))) ∧
    (settings.version = "latest.txt" →
      ∃ stop left, execute run cwd (Step.plan c .all) (.start t state none) = (.error stop, left) ∧
        doneOf (Step.plan c .all) (.error stop) = c.preparation ++ [c.uploadAll] ∧
        stop.action = c.pointerAction ∧ stop.error = .io c.latestPath .isDirectory ∧
        left.tree.node? ("latest.txt" :: "dist" :: cwd) = some .dir) := by
  obtain ⟨hversion, hmanifest, hdist⟩ := Config.assemble_ok hc
  have hnames : c.manifest.PlainNames := hmanifest ▸ Manifest.standard_plainNames
  have hdescends : c.distDir.Descends := hdist ▸ Config.standard_descends ⟨"1.0", by decide⟩
  have hfits := Config.standard_paths_fit hmanifest hdist (hversion ▸ hnul) (hversion ▸ hsize)
  have hspoils := Config.standard_spoils_nothing hmanifest cwd
  have hstart := Config.startable_of_empty_dir hdist hcwd hempty
  have htext : c.distDir.isText = true := hdist ▸ LocalPath.isText_ofText _
  have hname : OsText.encode c.version.text = c.version.text :=
    OsText.encode_of_not_mem (hversion ▸ hnul)
  obtain ⟨-, hloc⟩ : FileTree.start cwd c.distDir = cwd ∧ c.distDir.location cwd = "dist" :: cwd :=
    Config.location_distDir_standard hdist
  rw [← hversion]
  refine ⟨fun hne => ?_, fun heq => ?_⟩
  · have := Config.release_succeeds hnames hdescends htext hfits hspoils hrun hne hstart state
    rwa [Config.location_versionDir, hname, Config.location_latestPath, hloc] at this
  · have := Config.release_stops_at_pointer hnames hdescends htext hfits hspoils hrun heq hstart state
    rwa [Config.location_latestPath, hloc] at this

/-- The name of the pointer is accepted as a version. Its release uploads everything and
then fails, where that of another version succeeds. -/
theorem pointer_name_is_no_version :
    (∃ c stop left, Config.assemble ⟨"latest.txt", "dev"⟩ .standard ⟨"dist"⟩ = .ok c ∧
      execute (Runner.faithful Unit []) [] (Step.plan c .all) (.start .empty () none) =
        (.error stop, left) ∧
      c.uploadAll ∈ doneOf (Step.plan c .all) (.error stop) ∧
      stop.error = .io ⟨"dist/latest.txt"⟩ .isDirectory) ∧
    ∃ c done left, Config.assemble ⟨"latest", "dev"⟩ .standard ⟨"dist"⟩ = .ok c ∧
      execute (Runner.faithful Unit []) [] (Step.plan c .all) (.start .empty () none) =
        (.ok done, left) ∧
      left.tree.node? ["latest.txt", "dist"] = some (.file (.ofText "latest\n")) := by
  have hrun : (Runner.faithful Unit []).Produces [] := (Runner.faithful_buildsAll Unit []).produces
  have hroot : FileTree.empty.node? [] = some .dir := FileTree.node?_nil _
  have hempty : ∀ name, FileTree.empty.node? [name] = none := fun name =>
    FileTree.node?_empty (by simp)
  constructor
  · have hc : Config.assemble ⟨"latest.txt", "dev"⟩ .standard ⟨"dist"⟩ =
        .ok ⟨⟨"latest.txt", by decide⟩, "dev", .standard, ⟨"dist"⟩, by decide⟩ := rfl
    obtain ⟨-, hstops⟩ := versions_released (Runner.faithful Unit []) [] hrun _ _ hc (by decide)
      (by decide) .empty hroot hempty ()
    obtain ⟨stop, left, hexecute, hdone, -, herror, -⟩ := hstops rfl
    exact ⟨_, stop, left, hc, hexecute, hdone ▸ by simp, herror⟩
  · have hc : Config.assemble ⟨"latest", "dev"⟩ .standard ⟨"dist"⟩ =
        .ok ⟨⟨"latest", by decide⟩, "dev", .standard, ⟨"dist"⟩, by decide⟩ := rfl
    obtain ⟨hreleased, -⟩ := versions_released (Runner.faithful Unit []) [] hrun _ _ hc (by decide)
      (by decide) .empty hroot hempty ()
    obtain ⟨done, left, hexecute, -, hlatest⟩ := hreleased (by decide)
    exact ⟨_, done, left, hc, hexecute, hlatest⟩

end ReleaseKit
