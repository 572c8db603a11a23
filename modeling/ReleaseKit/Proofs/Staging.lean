/-
ReleaseKit.Proofs.Staging — the directory of a version while it is released.

While a version is released its directory holds files and nothing else, and no
directory is in the place of the pointer. `Config.Staged` says this together with
what each file holds; every action of a plan keeps it and changes what one file
holds. The runner is one whose commands all succeed.

  §1 Releases     — `Config.Releasable`, `Config.Startable`, `Runner.Builds`.
  §2 The stage    — `Config.Staged`, and a file put on it.
  §3 Actions      — what each kind of action accomplishes on the stage.
-/
import Mathlib.Logic.Function.Basic
import Mathlib.Data.List.Dedup
import ReleaseKit.Proofs.Layout
import ReleaseKit.Proofs.Making
import ReleaseKit.Proofs.Success

namespace ReleaseKit

open Location

/-! ## §1 Releases -/

/-- What a binary for a target holds. -/
def Target.built (target : Target) : Contents := .ofText (buildText target.os.name target.arch.name)

namespace Config

/-- The file name of the client binary for a target. -/
def binaryName (c : Config) (target : Target) : String := target.binaryName c.manifest.cliName

/-- The bundles whose targets are built, in order. -/
def builtBundles (c : Config) : List Bundle := c.manifest.bundles.filter c.builds

/-- The names of the files that a full release stages for a version. -/
def fileNames (c : Config) : List String :=
  c.matrix.dedup.map c.binaryName ++ [c.manifest.canonicalName] ++
    (if c.manifest.includeApi then [c.manifest.apiName, c.manifest.apiName ++ ".zip"] else []) ++
    c.builtBundles.map fun b => b.name ++ ".zip"

/-- The local paths of a full release. -/
def localPaths (c : Config) : List LocalPath :=
  c.versionDir :: c.latestPath :: c.fileNames.map fun name : String => c.versionDir.join name

/-- A configuration whose files keep apart: plain names, all of them different, on
paths that the system takes, that are text and that do not go up. -/
structure Releasable (c : Config) : Prop where
  version_ne : c.version.text ≠ latestName
  names : c.manifest.PlainNames
  descends : c.distDir.Descends
  text : c.distDir.isText = true
  fits : ∀ p ∈ c.localPaths, p.Fits
  distinct : c.fileNames.Nodup

/-- A tree in which a full release finds nothing in its way: no file on the way to
the staging directory or in the place of the version's, and no directory in the place
of the pointer. Where the way starts, at the root or in the working directory, is a
directory. -/
structure Startable (c : Config) (cwd : Location) (t : FileTree) : Prop where
  start : t.node? (FileTree.start cwd c.distDir) = some .dir
  way : t.Passable (c.distDir.location cwd)
  version : t.node? (c.versionDir.location cwd) = none ∨
    t.node? (c.versionDir.location cwd) = some .dir
  pointer : t.node? (c.latestPath.location cwd) = none ∨
    ∃ contents, t.node? (c.latestPath.location cwd) = some (.file contents)

variable {c : Config} {cwd : Location} {name : String}

theorem plainName_of_mem_fileNames (h : c.manifest.PlainNames) (hname : name ∈ c.fileNames) :
    PlainName name := by
  simp only [fileNames, List.mem_append, List.mem_map, List.mem_singleton] at hname
  rcases hname with ((⟨target, -, rfl⟩ | rfl) | hname) | ⟨b, hb, rfl⟩
  · exact .binary h.cli target
  · exact h.canonical
  · split at hname
    · simp only [List.mem_cons, List.not_mem_nil, or_false] at hname
      rcases hname with rfl | rfl
      · exact h.api
      · exact .zip h.api.slash_free
    · simp at hname
  · exact .zip (h.bundle b (List.mem_filter.mp hb).1)

theorem Releasable.usable_file (hc : c.Releasable) (hname : name ∈ c.fileNames) :
    (c.versionDir.join name).Usable := by
  have hplain := plainName_of_mem_fileNames hc.names hname
  refine ⟨LocalPath.descends_join hplain.code_slash_free hplain.code_ne_up
    (descends_versionDir hc.descends), hc.fits _ ?_⟩
  simp only [localPaths, List.mem_cons, List.mem_map]
  exact .inr (.inr ⟨name, hname, rfl⟩)

/-- The names of files have no NUL in them. -/
theorem Releasable.encode_file (hc : c.Releasable) (hname : name ∈ c.fileNames) :
    OsText.encode name = name := by
  have hplain := plainName_of_mem_fileNames hc.names hname
  obtain ⟨stem, hpieces, -⟩ := LocalPath.pieces_join c.versionDir hplain.code_slash_free
  have hnul := (hc.usable_file hname).fits.nul_free (OsText.ofString name).code (by simp [hpieces])
  refine OsText.encode_of_not_mem fun hmem => ?_
  rw [show OsText.mk (OsText.ofString name).code = OsText.ofString name from rfl,
    OsText.holdsNul_ofString.mpr hmem] at hnul
  cases hnul

theorem endsIn_file (c : Config) (cwd : Location) (hname : PlainName name) :
    (c.versionDir.join name).EndsIn cwd (c.versionDir.location cwd) (OsText.encode name) :=
  LocalPath.endsIn_join _ hname.code_slash_free hname.isStep

theorem Releasable.endsIn_file (hc : c.Releasable) (hname : name ∈ c.fileNames) :
    (c.versionDir.join name).EndsIn cwd (c.versionDir.location cwd) name := by
  have hends := Config.endsIn_file c cwd (plainName_of_mem_fileNames hc.names hname)
  rwa [hc.encode_file hname] at hends

theorem Releasable.usable_versionDir (hc : c.Releasable) : c.versionDir.Usable :=
  ⟨descends_versionDir hc.descends, hc.fits _ (by simp [localPaths])⟩

theorem Releasable.usable_latestPath (hc : c.Releasable) : c.latestPath.Usable :=
  ⟨descends_latestPath hc.descends, hc.fits _ (by simp [localPaths])⟩

theorem endsIn_versionDir (c : Config) (cwd : Location) :
    c.versionDir.EndsIn cwd (c.distDir.location cwd) (OsText.encode c.version.text) :=
  LocalPath.endsIn_join _ c.version.plainName.code_slash_free c.version.plainName.isStep

theorem endsIn_latestPath (c : Config) (cwd : Location) :
    c.latestPath.EndsIn cwd (c.distDir.location cwd) latestName := by
  have hends : c.latestPath.EndsIn cwd (c.distDir.location cwd) (OsText.ofString latestName).code :=
    LocalPath.endsIn_join c.distDir plainName_latestName.code_slash_free plainName_latestName.isStep
  rwa [OsText.code_ofString, encode_eq_latestName.mpr rfl] at hends

end Config

/-- A runner whose commands all succeed: a compiler writes an output that goes by its
command alone, and nothing else happens. -/
def Runner.Builds {σ : Type} (run : Runner σ) (output : CommandLine → Contents) (cwd : Location) :
    Prop :=
  ∀ command state t, (run command state t).result = .ok () ∧
    (run command state t).tree = command.leave (output command) cwd t

/-- A runner whose commands all succeed: a compiler writes what it was asked to
build, and nothing else happens. -/
def Runner.BuildsAll {σ : Type} (run : Runner σ) (cwd : Location) : Prop :=
  run.Builds CommandLine.built cwd

/-! ## §2 The stage -/

namespace Config

variable {c : Config} {cwd : Location} {held : String → Option Contents} {t : FileTree}
  {name : String}

/-- The directory of the version is there and holds these files and nothing else, and
no directory is in the place of the pointer. -/
structure Staged (c : Config) (cwd : Location) (held : String → Option Contents)
    (t : FileTree) : Prop where
  dir : t.node? (c.versionDir.location cwd) = some .dir
  holds : ∀ name, t.node? (name :: c.versionDir.location cwd) = (held name).map .file
  pointer : t.node? (c.latestPath.location cwd) ≠ some .dir

theorem Staged.free (h : c.Staged cwd held t) (name : String) :
    t.node? (name :: c.versionDir.location cwd) ≠ some .dir := by
  rw [h.holds]
  cases held name <;> simp

theorem latestPath_ne_file (c : Config) (cwd : Location) (name : String) :
    c.latestPath.location cwd ≠ name :: c.versionDir.location cwd := by
  rw [location_latestPath, location_versionDir]
  intro h
  have hlen := congrArg List.length h
  simp at hlen

/-- A file put in the directory is held, and nothing else changes. -/
theorem Staged.put (h : c.Staged cwd held t) (name : String) (contents : Contents) :
    c.Staged cwd (Function.update held name (some contents))
      (t.put (name :: c.versionDir.location cwd) (.file contents)) := by
  have hadmits : t.Admits (name :: c.versionDir.location cwd) (.file contents) :=
    ⟨by simp, h.dir, .inr (h.free name)⟩
  have hput := FileTree.node?_put hadmits
  refine ⟨?_, fun other => ?_, ?_⟩
  · rw [hput, if_neg (by simp), h.dir]
  · rw [hput, Function.update_apply, h.holds]
    by_cases hname : other = name
    · simp [hname]
    · simp [hname]
  · rw [hput, if_neg (latestPath_ne_file c cwd name)]
    exact h.pointer

end Config

/-! ## §3 Actions -/

/-- A command that is no build does nothing to the tree. -/
theorem CommandLine.leave_of_ne_go {command : CommandLine} (h : command.program ≠ Toolchain.go)
    (output : Contents) (cwd : Location) (t : FileTree) : command.leave output cwd t = t := by
  unfold CommandLine.leave
  split <;> simp [h]

/-- What a build does to the tree. -/
theorem Toolchain.leave_goBuild (target : Target) (ldflags : String) (path : LocalPath)
    (sources : List String) (output : Contents) (cwd : Location) (t : FileTree) :
    (goBuild target ldflags path sources).leave output cwd t =
      t.writeBelow cwd path.asShown output := by
  have hprogram : (goBuild target ldflags path sources).program = go := rfl
  simp only [CommandLine.leave, flagValue_goBuild, hprogram, if_true]
  rfl

/-- What a faithful compiler writes when it builds for a target. -/
theorem Toolchain.built_goBuild (target : Target) (ldflags : String) (output : LocalPath)
    (sources : List String) : (goBuild target ldflags output sources).built = target.built := by
  have hos : (goBuild target ldflags output sources).varValue "GOOS" = some target.os.name := by
    simp [goBuild, CommandLine.varValue]
  have harch : (goBuild target ldflags output sources).varValue "GOARCH" =
      some target.arch.name := by
    simp [goBuild, CommandLine.varValue, List.lookup_cons]
  rw [CommandLine.built, hos, harch]
  rfl

/-- The runner whose commands all succeed and whose compiler writes this output. -/
def Runner.leaving (output : CommandLine → Contents) (cwd : Location) : Runner Unit :=
  fun command state t => ⟨.ok (), state, command.leave (output command) cwd t, []⟩

theorem Runner.leaving_builds (output : CommandLine → Contents) (cwd : Location) :
    (leaving output cwd).Builds output cwd := fun _ _ _ => ⟨rfl, rfl⟩

namespace Runner.Builds

variable {σ : Type} {run : Runner σ} {output : CommandLine → Contents} {cwd : Location}

/-- A command succeeds and leaves what it writes. -/
theorem effect_exec (hrun : run.Builds output cwd) (command : CommandLine) (world : FileTree × σ) :
    (∃ done, ((Action.exec command).effect run cwd world).1 = .ok done) ∧
      ((Action.exec command).effect run cwd world).2.1 =
        command.leave (output command) cwd world.1 := by
  obtain ⟨hok, htree⟩ := hrun command world.2 world.1
  unfold Action.effect Action.apply
  dsimp only [Session.start]
  rw [hok]
  exact ⟨⟨_, rfl⟩, htree⟩

/-- What holds of a tree holds after a command that is no build. -/
theorem accomplishes_of_ne_go (hrun : run.Builds output cwd) {command : CommandLine}
    (h : command.program ≠ Toolchain.go) (needed : FileTree → Prop) :
    Accomplishes run cwd [.exec command] needed needed := by
  refine .single fun world hneeded => ?_
  obtain ⟨hok, htree⟩ := hrun.effect_exec command world
  rw [htree, CommandLine.leave_of_ne_go h]
  exact ⟨hok, hneeded⟩

end Runner.Builds

namespace Config

variable {σ : Type} {run : Runner σ} {c : Config} {cwd : Location}
  {held : String → Option Contents} {name other : String}

/-- A build leaves its binary. -/
theorem accomplishes_build (hc : c.Releasable) (hrun : run.BuildsAll cwd)
    (hname : name ∈ c.fileNames) (target : Target) (sources : List String) :
    Accomplishes run cwd
      [.exec (Toolchain.goBuild target c.manifest.ldflags (c.versionDir.join name) sources)]
      (c.Staged cwd held) (c.Staged cwd (Function.update held name (some target.built))) := by
  refine .single fun world hstaged => ?_
  obtain ⟨hok, htree⟩ := Runner.Builds.effect_exec hrun
    (Toolchain.goBuild target c.manifest.ldflags (c.versionDir.join name) sources) world
  have hslash := (plainName_of_mem_fileNames hc.names hname).slash_free
  rw [htree, Toolchain.leave_goBuild, Toolchain.built_goBuild, LocalPath.asShown_join hslash,
    LocalPath.asShown_eq_iff.mpr (isText_versionDir hc.text),
    FileTree.writeBelow_of_dir (hc.endsIn_file hname) (hc.usable_file hname) hstaged.dir
      (hstaged.free name)]
  exact ⟨hok, hstaged.put name _⟩

/-- A copy holds what the file holds. -/
theorem accomplishes_copy (hc : c.Releasable) {contents : Contents} (hother : other ∈ c.fileNames)
    (hname : name ∈ c.fileNames) (hne : name ≠ other) (hheld : held other = some contents) :
    Accomplishes run cwd [.copyFile (c.versionDir.join other) (c.versionDir.join name)]
      (c.Staged cwd held) (c.Staged cwd (Function.update held name (some contents))) := by
  refine .single fun world hstaged => ?_
  have hnode := hstaged.holds other
  rw [hheld] at hnode
  have hcopy := FileTree.copyFile_of_dir (hc.endsIn_file hname)
    (hc.usable_file hname) hstaged.dir (hstaged.free name)
    (hc.endsIn_file hother) (hc.usable_file hother) hnode
    (fun h => hne (List.cons.inj h).1)
  unfold Action.effect Action.apply
  dsimp only [Session.start]
  rw [FileTree.copyFile_eq, hcopy]
  exact ⟨⟨_, rfl⟩, hstaged.put name contents⟩

/-- An archive holds what the file holds, under the name of the entry. -/
theorem accomplishes_archive (hc : c.Releasable) {contents : Contents}
    (hother : other ∈ c.fileNames) (hname : name ∈ c.fileNames) (hne : name ≠ other)
    (hheld : held other = some contents) (entry : String) :
    Accomplishes run cwd [.archive (c.versionDir.join other) entry (c.versionDir.join name)]
      (c.Staged cwd held)
      (c.Staged cwd (Function.update held name (some (.archive entry contents)))) := by
  refine .single fun world hstaged => ?_
  have hnode := hstaged.holds other
  rw [hheld] at hnode
  have harchive := FileTree.writeArchive_of_dir
    (hc.endsIn_file hname)
    (hc.usable_file hname) hstaged.dir (hstaged.free name)
    (hc.endsIn_file hother) (hc.usable_file hother) hnode
    (fun h => hne (List.cons.inj h).1) entry
  unfold Action.effect Action.apply
  dsimp only [Session.start]
  rw [FileTree.pack_eq, harchive]
  exact ⟨⟨_, rfl⟩, hstaged.put name _⟩

/-- The directory need not be made again. -/
theorem accomplishes_createDir (hc : c.Releasable) :
    Accomplishes run cwd [.createDir c.versionDir] (c.Staged cwd held) (c.Staged cwd held) := by
  refine .single fun world hstaged => ?_
  have hmake := FileTree.makeDirs_of_dir hc.usable_versionDir (endsIn_versionDir c cwd).trimmed
    hstaged.dir
  unfold Action.effect Action.apply
  dsimp only [Session.start]
  rw [FileTree.makeDirs_eq, hmake]
  exact ⟨⟨_, rfl⟩, hstaged⟩

/-- The directory of the version and the pointer are two things in one directory, unless
the version has the name of the pointer. -/
theorem versionDir_apart (h : c.version.text ≠ latestName) (cwd : Location) :
    ¬ c.latestPath.location cwd <:+ c.versionDir.location cwd ∧
      ¬ c.versionDir.location cwd <:+ c.latestPath.location cwd := by
  rw [location_latestPath, location_versionDir, ← within_iff, ← within_iff]
  exact ⟨fun hin => h (encode_eq_latestName.mp (eq_of_within_sibling hin).symm),
    fun hin => h (encode_eq_latestName.mp (eq_of_within_sibling hin))⟩

/-- Where nothing is in the way the directory of the version can be made anew: it is
there, empty, and all else is as it was but for the way there. -/
theorem resetDir_of_startable (husable : c.versionDir.Usable) {t : FileTree}
    (hstart : c.Startable cwd t) :
    ∃ left, t.resetDir cwd c.versionDir = (.ok (), left) ∧
      ∀ l, left.node? l = if l <:+ c.versionDir.location cwd then some .dir
        else if c.versionDir.location cwd <:+ l then none else t.node? l := by
  have hfrom : t.node? (FileTree.start cwd c.versionDir) = some .dir := by
    rw [versionDir, LocalPath.start_join cwd _ c.version.plainName.code_slash_free]
    exact hstart.start
  have hpass : t.Passable (c.versionDir.location cwd) := by
    intro m hm
    rw [location_versionDir, List.suffix_cons_iff, ← location_versionDir c cwd] at hm
    rcases hm with rfl | hm
    · exact hstart.version
    · exact hstart.way m hm
  rw [location_versionDir] at hpass ⊢
  exact FileTree.resetDir_of_passable (endsIn_versionDir c cwd) husable hfrom hpass

/-- Cleaning sets an empty stage. -/
theorem accomplishes_clean (hc : c.Releasable) :
    Accomplishes run cwd c.planClean (c.Startable cwd) (c.Staged cwd fun _ => none) := by
  refine .single fun world hstart => ?_
  obtain ⟨left, hreset, hleft⟩ := resetDir_of_startable hc.usable_versionDir hstart
  have hstaged : c.Staged cwd (fun _ => none) left := by
    refine ⟨?_, fun name => ?_, ?_⟩
    · rw [hleft, if_pos List.suffix_rfl]
    · rw [hleft, if_neg (fun h => absurd h.length_le (by simp)), if_pos (List.suffix_cons _ _)]
      rfl
    · obtain ⟨habove, hbelow⟩ := versionDir_apart hc.version_ne cwd
      rw [hleft, if_neg habove, if_neg hbelow]
      rcases hstart.pointer with h | ⟨contents, h⟩ <;> simp [h]
  unfold Action.effect Action.apply
  dsimp only [Session.start]
  rw [show FileSystem.resetDir world.1 cwd c.versionDir = _ from hreset]
  exact ⟨⟨_, rfl⟩, hstaged⟩

/-- The pointer is written beside the stage. -/
theorem accomplishes_pointer (hc : c.Releasable) :
    Accomplishes run cwd [.writeFile c.latestPath c.latestContents] (c.Staged cwd held)
      (fun t => c.Staged cwd held t ∧
        t.node? (c.latestPath.location cwd) = some (.file (.ofText c.latestContents))) := by
  refine .single fun world hstaged => ?_
  have hdist : world.1.node? (c.distDir.location cwd) = some .dir := by
    refine FileTree.dir_above hstaged.dir ?_
    rw [location_versionDir]
    exact List.suffix_cons _ _
  have hfree := hstaged.pointer
  rw [location_latestPath] at hfree
  have hwrite := FileTree.writeWithDirs_of_dir (endsIn_latestPath c cwd) hc.usable_latestPath hdist
    hfree (.ofText c.latestContents)
  have hadmits : world.1.Admits (latestName :: c.distDir.location cwd)
      (.file (.ofText c.latestContents)) := ⟨by simp, hdist, .inr hfree⟩
  have hput := FileTree.node?_put hadmits
  rw [← location_latestPath c cwd] at hput hwrite
  have hne : c.versionDir.location cwd ≠ c.latestPath.location cwd := by
    intro h
    obtain ⟨-, hbelow⟩ := versionDir_apart hc.version_ne cwd
    rw [h] at hbelow
    exact hbelow List.suffix_rfl
  unfold Action.effect Action.apply
  dsimp only [Session.start]
  rw [FileTree.fileSystem_writeWithDirs, hwrite]
  refine ⟨⟨_, rfl⟩, ⟨?_, fun name => ?_, ?_⟩, ?_⟩
  · rw [hput, if_neg hne, hstaged.dir]
  · rw [hput, if_neg (latestPath_ne_file c cwd name).symm, hstaged.holds]
  · simp [hput]
  · simp [hput]

end Config

end ReleaseKit
