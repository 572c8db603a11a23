/-
ReleaseKit.Proofs.Working — the actions that work in the directory of a version.

A release that is interrupted leaves a tree that the release would have passed through.
When it is retried, its files are written again one after another, and until then they
hold what they held when it was interrupted: a file of the retry is either what the
undisturbed release has at this point, or it has not been written in either
(`Serves`, `Prepared.again`). This comes out even at the end because no action of a
plan reads a file that a later one writes, unless it has been written before as well
(`Prepared`).

A compiler is told what shows of the directory. If that is another directory, no action reads
what it writes there; but it makes that directory, with those above it, as far as this can be
done, and from then on that is settled (`Ready`, `opened_of_build`).

  §1 Trees      — `Config.Serves`, `Config.Ready`.
  §2 Actions    — `Config.Works`: actions on two trees at one point.
  §3 Plans      — `Config.Prepared`: what is read has been written.
-/
import ReleaseKit.Proofs.Leading
import ReleaseKit.Proofs.Settling

namespace ReleaseKit

open Location

/-! ## §1 Trees -/

/-- An action that runs the compiler. -/
def Action.RunsCompiler (a : Action) : Prop :=
  ∃ command, a = .exec command ∧ command.program = Toolchain.go

namespace Config

/-- The place of a file of the version. -/
abbrev fileAt (c : Config) (cwd : Location) (name : String) : Location :=
  OsText.encode name :: c.versionDir.location cwd

/-- The path that a compiler takes the path of a file of the version for. -/
abbrev shownFile (c : Config) (name : String) : LocalPath := (c.versionDir.join name).asShown

/-- A tree serves in place of another at some point of a release: it covers that tree,
and the known files of the version are the same. That a name is too long for the
system is no difference. -/
structure Serves (c : Config) (cwd : Location) (known : String → Prop) (s t : FileTree) : Prop
    extends FileTree.Covers s t where
  alike : ∀ name, known name → (c.versionDir.join name).Fits →
    s.node? (c.fileAt cwd name) = t.node? (c.fileAt cwd name)

/-- A tree on which actions can go on: the directory of the version is there, and the
directories above what a compiler writes are settled, if the actions run one. -/
structure Ready (c : Config) (cwd : Location) (actions : List Action) (t : FileTree) : Prop where
  dir : t.node? (c.versionDir.location cwd) = some .dir
  settled : (∃ a ∈ actions, a.RunsCompiler) → ∀ name q, PlainName name →
    (c.shownFile name).parent = some q → t.Settled cwd q

/-- The actions that work in the directory of the version, with the names of the file
that they read and of the file that they write there. A compiler writes there if the path is
text. -/
inductive Works (c : Config) : Action → Option String → Option String → Prop where
  | make : Works c (.createDir c.versionDir) none none
  | command {command : CommandLine} : command.program ≠ Toolchain.go →
      Works c (.exec command) none none
  | build (target : Target) (sources : List String) {name : String} : PlainName name →
      Works c (.exec (Toolchain.goBuild target c.manifest.ldflags (c.versionDir.join name) sources))
        none (if c.distDir.isText then some name else none)
  | copy {other name : String} : PlainName other → PlainName name →
      Works c (.copyFile (c.versionDir.join other) (c.versionDir.join name)) (some other)
        (some name)
  | pack (entry : String) {other name : String} : PlainName other → PlainName name →
      Works c (.archive (c.versionDir.join other) entry (c.versionDir.join name)) (some other)
        (some name)
  | point : Works c c.pointerAction none none

variable {c : Config} {output : CommandLine → Contents} {cwd : Location} {known : String → Prop}
  {s s' t t' : FileTree} {a : Action} {actions rest : List Action} {source dest : Option String}
  {name other : String} {target : Target} {sources : List String}

theorem descends_file (hdist : c.distDir.Descends) (hname : PlainName name) :
    (c.versionDir.join name).Descends :=
  LocalPath.descends_join hname.code_slash_free hname.code_ne_up (descends_versionDir hdist)

theorem Ready.covers (h : c.Ready cwd actions t) (hs : s.Covers t) : c.Ready cwd actions s :=
  ⟨(hs.dirs _).mpr h.dir, fun hgo name q hname hq => (h.settled hgo name q hname hq).covers hs⟩

theorem Ready.mono (h : c.Ready cwd actions t) (hrest : rest ⊆ actions) : c.Ready cwd rest t :=
  ⟨h.dir, fun ⟨a, ha, hgo⟩ => h.settled ⟨a, hrest ha, hgo⟩⟩

theorem endsIn_shownFile (c : Config) (cwd : Location) (hname : PlainName name) :
    (c.shownFile name).EndsIn cwd (c.versionDir.asShown.location cwd) (OsText.encode name) := by
  rw [shownFile, LocalPath.asShown_join hname.slash_free]
  exact LocalPath.endsIn_join _ hname.code_slash_free hname.isStep

theorem descends_shownFile (hdist : c.distDir.Descends) (hname : PlainName name) :
    (c.shownFile name).Descends :=
  LocalPath.descends_asShown (descends_file hdist hname)

/-- What a compiler writes has one parent, whatever it is called. -/
theorem exists_parent_shownFile (c : Config) :
    ∃ q, ∀ name, PlainName name → (c.shownFile name).parent = some q := by
  refine ⟨.ofPieces c.versionDir.asShown.rooted c.versionDir.asShown.pieces, fun name hname => ?_⟩
  have hversion := c.version.plainName
  obtain ⟨stem, hpieces, -⟩ := LocalPath.pieces_join c.distDir.asShown hversion.code_slash_free
  rw [shownFile, LocalPath.asShown_join hname.slash_free]
  rw [← asShown_versionDir] at hpieces
  exact LocalPath.parent_join hpieces hversion.isStep hname.code_slash_free hname.isStep

/-- If its path is text, a directory that is there is ready. -/
theorem ready_of_isText (htext : c.distDir.isText = true) (hdist : c.distDir.Descends)
    (hdir : t.node? (c.versionDir.location cwd) = some .dir) : c.Ready cwd actions t := by
  refine ⟨hdir, fun _ name q hname hq s hs => ?_⟩
  have hdescends := descends_shownFile hdist hname
  obtain ⟨q', hq', hloc, -, -⟩ :=
    LocalPath.parent_of_endsIn (endsIn_shownFile c cwd hname) hdescends
  obtain rfl := Option.some.inj (hq.symm.trans hq')
  rw [LocalPath.asShown_eq_iff.mpr (isText_versionDir htext)] at hloc
  exact FileTree.makeDirs_tree_of_dir (LocalPath.descends_parent hq hdescends)
    (hloc ▸ (hs.dirs _).mpr hdir)

/-- The build of a binary of the version. -/
abbrev buildOf (c : Config) (target : Target) (name : String) (sources : List String) : Action :=
  .exec (Toolchain.goBuild target c.manifest.ldflags (c.versionDir.join name) sources)

/-- What a build does: it writes the binary to the path that it takes the path for. -/
theorem carries_build_iff : (c.buildOf target name sources).Carries output cwd t t' ↔
    t' = t.writeBelow cwd (c.shownFile name) (output
      (Toolchain.goBuild target c.manifest.ldflags (c.versionDir.join name) sources)) := by
  rw [Action.Carries, Toolchain.leave_goBuild]

section Opening

variable (hdist : c.distDir.Descends) (hname : PlainName name)
include hdist hname

/-- A build leaves the directory of the version a directory. -/
theorem dir_of_build (hdir : t.node? (c.versionDir.location cwd) = some .dir)
    (ha : (c.buildOf target name sources).Carries output cwd t t') :
    t'.node? (c.versionDir.location cwd) = some .dir := by
  rw [carries_build_iff.mp ha]
  rcases FileTree.writeBelow_sameBut cwd (c.shownFile name) _ t (c.versionDir.location cwd) with
    hplace | hsame | ⟨-, hnone, -⟩
  · -- what is written lies deeper
    have hlength := congrArg List.length hplace
    rw [(endsIn_shownFile c cwd hname).location (descends_shownFile hdist hname),
      List.length_cons, LocalPath.length_location_asShown] at hlength
    omega
  · rw [hsame, hdir]
  · rw [hdir] at hnone
    cases hnone

/-- If the path of the version is not text, a build leaves all that is in its directory. -/
theorem node?_of_build (htext : c.distDir.isText = false) {l : Location}
    (hl : c.versionDir.location cwd <:+ l)
    (ha : (c.buildOf target name sources).Carries output cwd t t') : t'.node? l = t.node? l := by
  have hdescends := descends_shownFile hdist hname
  have hends := endsIn_shownFile c cwd hname
  -- the directory is not that which shows, and neither is in the other
  have hnot : ¬ c.versionDir.location cwd <:+ c.versionDir.asShown.location cwd := by
    intro hin
    have heq := hin.eq_of_length (LocalPath.length_location_asShown cwd c.versionDir).symm
    rw [asShown_versionDir, LocalPath.location_join_plain c.version.plainName,
      location_versionDir] at heq
    exact LocalPath.location_asShown_ne hdist htext cwd (List.cons.inj heq).2.symm
  rw [carries_build_iff.mp ha]
  refine (FileTree.writeBelow_sameBut cwd (c.shownFile name) _ t).node?_eq ?_ ?_
  · rintro rfl
    rw [hends.location hdescends, List.suffix_cons_iff] at hl
    rcases hl with heq | hin
    · have hlength := congrArg List.length heq
      rw [List.length_cons, LocalPath.length_location_asShown] at hlength
      omega
    · exact hnot hin
  · rintro ⟨q, hq, hway⟩
    obtain ⟨q', hq', hloc, -, -⟩ := LocalPath.parent_of_endsIn hends hdescends
    obtain rfl := Option.some.inj (hq.symm.trans hq')
    have habove := LocalPath.within_of_onWay (LocalPath.descends_parent hq hdescends) hway
    rw [hloc] at habove
    exact hnot (hl.trans (within_iff.mp habove))

/-- **After a build all is ready**, and the directory and the binary can be made again, which
changes nothing. -/
theorem opened_of_build (hfits : c.versionDir.Fits)
    (hdir : t.node? (c.versionDir.location cwd) = some .dir)
    (ha : (c.buildOf target name sources).Carries output cwd t t') (actions : List Action) :
    c.Ready cwd actions t' ∧
      Leads output cwd [.createDir c.versionDir, c.buildOf target name sources] t' t' := by
  have hdir' := dir_of_build hdist hname hdir ha
  have hdescends := descends_shownFile hdist hname
  have hends := endsIn_shownFile c cwd hname
  have hstart : t.node? (FileTree.start cwd (c.shownFile name)) = some .dir := by
    refine FileTree.dir_above hdir ?_
    rw [FileTree.start, shownFile, (LocalPath.pieces_asShown _).1, ← FileTree.start,
      LocalPath.start_join cwd _ hname.code_slash_free, LocalPath.location_eq]
    exact FileTree.suffix_foldl_follow (LocalPath.descends_iff.mp (descends_versionDir hdist)) _
  obtain ⟨q, hq⟩ := exists_parent_shownFile c
  have hthere : t'.makeDirs cwd c.versionDir = (.ok (), t') :=
    FileTree.makeDirs_of_dir ⟨descends_versionDir hdist, hfits⟩ (endsIn_versionDir c cwd).trimmed hdir'
  have htree := carries_build_iff.mp ha
  refine ⟨⟨hdir', fun _ other q' hother hq' => ?_⟩, .cons hthere (.cons ?_ (.nil _))⟩
  · obtain rfl := Option.some.inj ((hq other hother).symm.trans hq')
    rw [htree]
    exact FileTree.settled_writeBelow hends hdescends (hq name hname) hstart _
  · rw [carries_build_iff, htree]
    exact (FileTree.writeBelow_again hends hdescends (hq name hname) hstart _).symm

end Opening

/-! ## §2 Actions -/

/-- A file of the version is written with what is made from another, which gives
`alone` if the two are one file. -/
def Derives (c : Config) (cwd : Location) (other name : String) (alone : Contents)
    (made : Contents → Contents) (t t' : FileTree) : Prop :=
  (c.versionDir.join other).Fits ∧ (c.versionDir.join name).Fits ∧
    t.node? (c.versionDir.location cwd) = some .dir ∧
    t.node? (c.fileAt cwd name) ≠ some .dir ∧
    ∃ contents, t.node? (c.fileAt cwd other) = some (.file contents) ∧
      t' = t.put (c.fileAt cwd name) (.file (made
        (if c.fileAt cwd name = c.fileAt cwd other then alone
          else contents)))

theorem carries_copy_iff (hdist : c.distDir.Descends) (hother : PlainName other)
    (hname : PlainName name) :
    (Action.copyFile (c.versionDir.join other) (c.versionDir.join name)).Carries output cwd t t' ↔
      c.Derives cwd other name .empty id t t' :=
  FileTree.copyFile_iff (endsIn_file c cwd hname) (descends_file hdist hname) (endsIn_file c cwd hother)
    (descends_file hdist hother)

theorem carries_pack_iff {entry : String} (hdist : c.distDir.Descends) (hother : PlainName other)
    (hname : PlainName name) :
    (Action.archive (c.versionDir.join other) entry (c.versionDir.join name)).Carries output cwd t t' ↔
      c.Derives cwd other name (.begun entry) (.archive entry) t t' :=
  FileTree.writeArchive_iff (endsIn_file c cwd hname) (descends_file hdist hname) (endsIn_file c cwd hother)
    (descends_file hdist hother)

/-- A file that is read where it is known, or into itself, gives the same in both
trees. -/
theorem Serves.read {alone contents : Contents}
    (hs : c.Serves cwd known s t) (hfits : (c.versionDir.join other).Fits)
    (hknown : known other ∨ some name = some other)
    (hnode : t.node? (c.fileAt cwd other) = some (.file contents)) :
    ∃ found, s.node? (c.fileAt cwd other) = some (.file found) ∧
      (if c.fileAt cwd name = c.fileAt cwd other then alone
        else found) =
      if c.fileAt cwd name = c.fileAt cwd other then alone
        else contents := by
  rcases hknown with hknown | heq
  · exact ⟨contents, (hs.alike other hknown hfits).trans hnode, rfl⟩
  · obtain rfl := Option.some.inj heq
    obtain ⟨found, hfound⟩ := hs.files _ _ hnode
    exact ⟨found, hfound, by rw [if_pos rfl, if_pos rfl]⟩

/-- Two trees have gone on in the same way: they have got the same file, if any, and the
file of the version that was to be written is the same in both. -/
def Alike (c : Config) (cwd : Location) (dest : Option String) (s t s' t' : FileTree) : Prop :=
  FileTree.ChangeAlike s t s' t' ∧
    ∀ name, dest = some name → (c.versionDir.join name).Fits →
      s'.node? (c.fileAt cwd name) = t'.node? (c.fileAt cwd name)

theorem Alike.of_none (h : FileTree.ChangeAlike s t s' t') : c.Alike cwd none s t s' t' :=
  ⟨h, fun name hname => (Option.some_ne_none name hname.symm).elim⟩

section Actions

variable (hs : c.Serves cwd known s t)
include hs

theorem Serves.free {l : Location} (hfree : t.node? l ≠ some .dir) : s.node? l ≠ some .dir :=
  fun hl => hfree ((hs.dirs _).mp hl)

/-- Where both trees get the same file, it is what they have from then on. -/
theorem Serves.alike_put (hdir : t.node? (c.versionDir.location cwd) = some .dir)
    (hfree : t.node? (c.fileAt cwd name) ≠ some .dir) (contents : Contents) :
    c.Alike cwd (some name) s t (s.put (c.fileAt cwd name) (.file contents))
      (t.put (c.fileAt cwd name) (.file contents)) := by
  have hadmits : t.Admits (c.fileAt cwd name) (.file contents) :=
    ⟨by simp, hdir, .inr hfree⟩
  refine ⟨.put hadmits, ?_⟩
  rintro other ⟨⟩ -
  rw [FileTree.node?_put hadmits, FileTree.node?_put (hs.admits hadmits), if_pos rfl, if_pos rfl]

/-- A build writes its binary in both trees or in neither. -/
theorem Serves.again_build (hdist : c.distDir.Descends) (hready : c.Ready cwd actions t)
    (hgo : ∃ a ∈ actions, a.RunsCompiler) (hname : PlainName name)
    (ha : (Action.exec (Toolchain.goBuild target c.manifest.ldflags (c.versionDir.join name)
      sources)).Carries output cwd t t') :
    ∃ s', (Action.exec (Toolchain.goBuild target c.manifest.ldflags (c.versionDir.join name)
      sources)).Carries output cwd s s' ∧
        c.Alike cwd (if c.distDir.isText then some name else none) s t s' t' := by
  obtain ⟨q, hq⟩ := exists_parent_shownFile c
  generalize hcontents : output
    (Toolchain.goBuild target c.manifest.ldflags (c.versionDir.join name) sources) = contents
  obtain ⟨hchange, hnode⟩ := hs.again_writeBelow (endsIn_shownFile c cwd hname)
    (descends_shownFile hdist hname) (hq name hname)
    (hready.settled hgo name q hname (hq name hname)) contents
  rw [Action.Carries, hcontents, Toolchain.leave_goBuild] at ha
  have hcarries : (Action.exec (Toolchain.goBuild target c.manifest.ldflags
      (c.versionDir.join name) sources)).Carries output cwd s
        (s.writeBelow cwd (c.shownFile name) contents) := by
    rw [Action.Carries, hcontents, Toolchain.leave_goBuild]
  rw [ha]
  refine ⟨_, hcarries, hchange, fun other hother hfits => ?_⟩
  split at hother
  · next htext =>
    obtain rfl := Option.some.inj hother
    have hversion := LocalPath.asShown_eq_iff.mpr (isText_versionDir htext)
    have hfile : c.shownFile name = c.versionDir.join name := by
      rw [shownFile, LocalPath.asShown_join hname.slash_free, hversion]
    rw [hversion] at hnode
    exact hnode (hfile ▸ hfits) hready.dir
  · cases hother

/-- A file that is made from a known one, or from itself, is the same in both trees. -/
theorem Serves.again_derive {alone : Contents} {made : Contents → Contents}
    (hdir : t.node? (c.versionDir.location cwd) = some .dir)
    (hknown : known other ∨ some name = some other)
    (hderives : c.Derives cwd other name alone made t t') :
    ∃ s', c.Derives cwd other name alone made s s' ∧ c.Alike cwd (some name) s t s' t' := by
  obtain ⟨hfits, hfits', -, hfree, contents, hnode, rfl⟩ := hderives
  obtain ⟨found, hfound, hsame⟩ := hs.read hfits hknown hnode
  refine ⟨_, ⟨hfits, hfits', (hs.dirs _).mpr hdir, hs.free hfree, found, hfound, rfl⟩, ?_⟩
  rw [hsame]
  exact hs.alike_put hdir hfree _

/-- The pointer is written beside the directory of the version, in both trees. -/
theorem Serves.again_point (hdist : c.distDir.Descends)
    (hdir : t.node? (c.versionDir.location cwd) = some .dir)
    (ha : c.pointerAction.Carries output cwd t t') :
    ∃ s', c.pointerAction.Carries output cwd s s' ∧ c.Alike cwd none s t s' t' := by
  have hends := endsIn_latestPath c cwd
  have hdescends := descends_latestPath hdist
  have hdistDir : t.node? (c.distDir.location cwd) = some .dir := by
    refine FileTree.dir_above hdir ?_
    rw [location_versionDir]
    exact List.suffix_cons _ _
  have hfits := FileTree.fits_of_writeWithDirs ha
  have hfree := FileTree.free_of_writeWithDirs hends hdescends hdistDir ha
  have hwrite := FileTree.writeWithDirs_of_dir hends ⟨hdescends, hfits⟩ hdistDir hfree
    (.ofText c.latestContents)
  obtain rfl := (Prod.mk.inj (hwrite.symm.trans ha)).2
  exact ⟨_, FileTree.writeWithDirs_of_dir hends ⟨hdescends, hfits⟩ ((hs.dirs _).mpr hdistDir)
    (hs.free hfree) _, .of_none (.put ⟨by simp, hdistDir, .inr hfree⟩)⟩

end Actions

/-- **An action goes the same way in a tree that serves in place of another**, and what
it writes is known from then on. -/
theorem Works.again (h : c.Works a source dest) (hdist : c.distDir.Descends)
    (hs : c.Serves cwd known s t) (hready : c.Ready cwd (a :: rest) t)
    (hknown : ∀ name, source = some name → known name ∨ dest = some name)
    (ha : a.Carries output cwd t t') :
    ∃ s', a.Carries output cwd s s' ∧ c.Alike cwd dest s t s' t' := by
  have hdir := hready.dir
  cases h with
  | make =>
    have hends := endsIn_versionDir c cwd
    have hdescends := descends_versionDir hdist
    obtain ⟨hfits, -⟩ := FileTree.makeDirs_ok hends.code_ne ha
    have htree : t' = t := by
      have hmake : t.makeDirs cwd c.versionDir = (.ok (), t') := ha
      rw [← FileTree.makeDirs_tree_of_dir hdescends hdir, hmake]
    exact ⟨s, FileTree.makeDirs_of_dir ⟨hdescends, hfits⟩ hends.trimmed ((hs.dirs _).mpr hdir),
      .of_none (.inl ⟨rfl, htree⟩)⟩
  | command hprogram =>
    have htree : t' = t := ha.trans (CommandLine.leave_of_ne_go hprogram _ cwd t)
    exact ⟨s, (CommandLine.leave_of_ne_go hprogram _ cwd s).symm,
      .of_none (.inl ⟨rfl, htree⟩)⟩
  | build target sources hname =>
    exact hs.again_build hdist hready ⟨_, List.mem_cons_self, _, rfl, rfl⟩ hname ha
  | copy hother hname =>
    obtain ⟨s', hagain, halike⟩ :=
      hs.again_derive hdir (hknown _ rfl) ((carries_copy_iff hdist hother hname).mp ha)
    exact ⟨s', (carries_copy_iff hdist hother hname).mpr hagain, halike⟩
  | pack entry hother hname =>
    obtain ⟨s', hagain, halike⟩ :=
      hs.again_derive hdir (hknown _ rfl) ((carries_pack_iff hdist hother hname).mp ha)
    exact ⟨s', (carries_pack_iff hdist hother hname).mpr hagain, halike⟩
  | point => exact hs.again_point hdist hdir ha

/-! ## §3 Plans -/

/-- Lists of actions that read no file of the version but known ones, those that have
been written before, and into themselves. -/
inductive Prepared (c : Config) : (String → Prop) → List Action → Prop where
  | nil {known : String → Prop} : Prepared c known []
  | cons {known : String → Prop} {a : Action} {rest : List Action} {source dest : Option String} :
    c.Works a source dest → (∀ name, source = some name → known name ∨ dest = some name) →
    Prepared c (fun name => known name ∨ dest = some name) rest → Prepared c known (a :: rest)

namespace Prepared

variable {known' : String → Prop} {first before after : List Action}

theorem mono (h : c.Prepared known actions) (hle : ∀ name, known name → known' name) :
    c.Prepared known' actions := by
  induction h generalizing known' with
  | nil => exact .nil
  | cons hworks hsource _ ih =>
    exact .cons hworks (fun name hname => (hsource name hname).imp_left (hle name))
      (ih fun name hname => hname.imp_left (hle name))

/-- An action that reads no file of the version can come at any point. -/
theorem blind {a : Action} {dest : Option String} (hworks : c.Works a none dest)
    (h : c.Prepared (fun name => known name ∨ dest = some name) rest) :
    c.Prepared known (a :: rest) :=
  .cons hworks (fun name hname => (Option.some_ne_none name hname.symm).elim) h

/-- What is known before a list is known after it. -/
theorem append (h : c.Prepared known first) (h' : c.Prepared known rest) :
    c.Prepared known (first ++ rest) := by
  induction h with
  | nil => exact h'
  | cons hworks hsource _ ih => exact .cons hworks hsource (ih (h'.mono fun _ => .inl))

theorem beginning (h : c.Prepared known (before ++ after)) : c.Prepared known before := by
  induction before generalizing known with
  | nil => exact .nil
  | cons a before ih =>
    obtain _ | ⟨hworks, hsource, hrest⟩ := h
    exact .cons hworks hsource (ih hrest)

/-- In the directory of the version no directory is made or lost, and no file is
lost. -/
theorem covers (h : c.Prepared known actions) (hdist : c.distDir.Descends)
    (hready : c.Ready cwd actions t) (hrun : Leads output cwd actions t t') :
    t'.Covers t := by
  induction h generalizing t with
  | nil =>
    obtain ⟨⟩ := hrun
    exact .refl _
  | cons hworks _ _ ih =>
    obtain _ | ⟨ha, hrest⟩ := hrun
    have hself : c.Serves cwd (fun _ => True) t t := ⟨.refl t, fun _ _ _ => rfl⟩
    obtain ⟨_, -, hchange, -⟩ := hworks.again hdist hself hready (fun _ _ => .inl trivial) ha
    have hstart := hchange.covers_start
    have hlater := (hready.mono (List.subset_cons_self _ _)).covers hstart
    exact (ih hlater hrest).trans hstart

/-- **A prepared list goes the same way in a tree that serves in place of another.**
In the end each location is as in the first run, unless neither run has written it at
any point. The induction is on the list, and what is known grows with it. -/
theorem again (h : c.Prepared known actions) (hdist : c.distDir.Descends)
    (hs : c.Serves cwd known s t) (hready : c.Ready cwd actions t)
    (hrun : Leads output cwd actions t t') :
    ∃ s', Leads output cwd actions s s' ∧ ∀ l, s'.node? l = t'.node? l ∨
      (s'.node? l = s.node? l ∧ ∀ before after middle, actions = before ++ after →
        Leads output cwd before t middle → middle.node? l = t.node? l) := by
  induction h generalizing s t with
  | nil =>
    obtain ⟨⟩ := hrun
    refine ⟨s, .nil s, fun l => .inr ⟨rfl, fun before after middle hsplit hbefore => ?_⟩⟩
    obtain ⟨rfl, -⟩ := List.append_eq_nil_iff.mp hsplit.symm
    obtain ⟨⟩ := hbefore
    rfl
  | @cons known a rest source dest hworks hsource _ ih =>
    obtain _ | @⟨_, _, _, next, _, ha, hrest⟩ := id hrun
    obtain ⟨later, hlater, hchange, hdest⟩ := hworks.again hdist hs hready hsource ha
    have hcovers := hs.toCovers
    have hserves : c.Serves cwd (fun name => known name ∨ dest = some name) later next := by
      refine ⟨hchange.covers hcovers, fun name hname hfits => ?_⟩
      rcases hname with hname | hname
      · exact hchange.node?_eq hcovers (hs.alike name hname hfits)
      · exact hdest name hname hfits
    obtain ⟨s', hagain, hnode⟩ :=
      ih hserves ((hready.mono (List.subset_cons_self _ _)).covers hchange.covers_start) hrest
    refine ⟨s', .cons hlater hagain, fun l => ?_⟩
    rcases hnode l with heq | ⟨hlast, hnever⟩
    · exact .inl heq
    · rcases hchange.node?_cases hcovers l with heq | ⟨hsame, hfirst⟩
      · -- written by this action, and never again
        exact .inl (by rw [hlast, heq, hnever rest [] t' (by simp) hrest])
      · refine .inr ⟨hlast.trans hsame, fun before after middle hsplit hbefore => ?_⟩
        cases before with
        | nil =>
          obtain ⟨⟩ := hbefore
          rfl
        | cons b before =>
          obtain ⟨rfl, hremains⟩ := List.cons.inj hsplit
          obtain _ | ⟨hb, hbefore⟩ := hbefore
          obtain rfl := hb.unique ha
          rw [hnever before after middle hremains hbefore, hfirst]

/-- A list that is taken up again in the middle, where every location is as at its
start or as it was left, leads to the same end. -/
theorem retry {middle : FileTree} (h : c.Prepared known (before ++ after))
    (hdist : c.distDir.Descends) (hready : c.Ready cwd (before ++ after) t)
    (hbefore : Leads output cwd before t middle) (hafter : Leads output cwd after middle t')
    (hs : c.Serves cwd known s t)
    (hnode : ∀ l, s.node? l = t.node? l ∨ s.node? l = middle.node? l) :
    Leads output cwd (before ++ after) s t' := by
  have hrun := hbefore.append hafter
  obtain ⟨s', hagain, hends⟩ := h.again hdist hs hready hrun
  have hsame : s' = t' := by
    apply FileTree.ext
    intro l
    rcases hends l with heq | ⟨hlast, hnever⟩
    · exact heq
    · rw [hlast, hnever (before ++ after) [] t' (by simp) hrun]
      rcases hnode l with heq | heq
      · exact heq
      · rw [heq, hnever before after middle rfl hbefore]
  exact hsame ▸ hagain

end Prepared

end Config

end ReleaseKit
