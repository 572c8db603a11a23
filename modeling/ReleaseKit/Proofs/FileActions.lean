/-
ReleaseKit.Proofs.FileActions — what each file action changes, and what it makes.

The footprint of a run says where its actions may leave something else than was there
(`Proofs.Footprint`). For a single action more can be said, also where it fails halfway: a
file takes the place of nothing but a file, directories are made where nothing was and only
above what is asked for, and an action that succeeds has made what it says
(`file_action_footprints`). All that is asked of a path is that it does not go up, for only
then are its parents above it. The empty path is no directory and can be made anew all the
same (`reset_of_empty_path`).

  §1 Paths   — what is above the location of a path.
  §2 Files   — `FileTree.WrittenAt`: copies, archives and files with their directories.
  §3 Actions — the same of each action, and `file_action_footprints`.
-/
import ReleaseKit.Proofs.Repeating

namespace ReleaseKit

open Location

/-! ## §1 Paths -/

namespace LocalPath

variable {cwd l : Location} {p q : LocalPath}

/-- In a path from the root no dot counts. -/
theorem isStep_of_dropSilent_rooted {pieces before : List String} {piece : String}
    (h : dropSilent true pieces = piece :: before) : isStep piece = true := by
  induction pieces with
  | nil => cases h
  | cons first rest ih =>
    unfold dropSilent at h
    split at h
    · exact ih h
    · rename_i hkeep
      obtain ⟨rfl, rfl⟩ := List.cons.inj h
      simpa [isStep] using hkeep

/-- A parent that is not empty is above the path. -/
theorem below_location_parent (h : p.parent = some q) (hne : q.code ≠ "") (hp : p.Descends) :
    below (q.location cwd) (p.location cwd) = true := by
  rw [below_iff]
  refine ⟨within_iff.mp (within_location_parent h hp), fun heq => ?_⟩
  obtain ⟨last, before, -, -, hsig, hq, -, -, -⟩ := parent_split h
  obtain ⟨hroot, -, last', hlast', hnames⟩ := parent_ok h
  obtain rfl : last = last' := by simpa [hsig] using hlast'
  have hstart : FileTree.start cwd q = FileTree.start cwd p := by simp [FileTree.start, hroot]
  have hstep : isStep last = true := by
    cases hrooted : p.rooted with
    | true =>
      rw [significant, hrooted] at hsig
      exact isStep_of_dropSilent_rooted hsig
    | false =>
      rcases dropSilent_cons hsig with hstep | ⟨-, rfl⟩
      · exact hstep
      · -- the path is a dot, and its parent is empty
        rw [hrooted] at hq
        exact absurd (congrArg LocalPath.code hq) hne
  rw [location_of_descends hp, location_of_descends (descends_parent h hp), hstart, hnames,
    List.filter_cons_of_pos hstep] at heq
  have hlength := congrArg List.length heq
  simp at hlength

/-- What is made for a parent that is not empty is above the path. -/
theorem below_of_onWay_parent (h : p.parent = some q) (hne : q.code ≠ "") (hp : p.Descends)
    (hl : q.OnWay cwd l) : below l (p.location cwd) = true := by
  have habove := within_iff.mp (within_of_onWay (descends_parent h hp) hl)
  have hbelow : below (q.location cwd) (p.location cwd) = true := below_location_parent h hne hp
  obtain ⟨hparent, hdeeper⟩ := below_iff.mp hbelow
  rw [below_iff]
  refine ⟨habove.trans hparent, fun heq => hdeeper ?_⟩
  rw [← heq] at habove
  exact habove.eq_of_length_le hparent.length_le

end LocalPath

/-! ## §2 Files -/

namespace FileTree

variable {t t' : FileTree} {free way : Location → Prop} {cwd l : Location}
  {p source dest : LocalPath}

/-- A file has been written at a location where no directory was. -/
def WrittenAt (before after : FileTree) (l : Location) : Prop :=
  before.node? l ≠ some .dir ∧ ∃ contents, after.node? l = some (.file contents)

/-- A file that has been opened is written where its path leads, and nowhere else. -/
theorem written_of_openNew (hopen : t.openNew cwd p = .ok l) (way : Location → Prop)
    (contents : Contents) :
    SameBut (fun m => m = p.location cwd ∧ t.WrittenAt (t.put l (.file contents)) m) way t
        (t.put l (.file contents)) ∧
      (t.put l (.file contents)).node? (p.location cwd) = some (.file contents) := by
  obtain ⟨rfl, hadmits⟩ := openNew_ok hopen
  have hnode : (t.put (p.location cwd) (.file contents)).node? (p.location cwd) =
      some (.file contents) := by
    rw [node?_put (hadmits contents), if_pos rfl]
  have hfree : t.node? (p.location cwd) ≠ some .dir :=
    (hadmits contents).2.2.resolve_left nofun
  exact ⟨sameBut_put ⟨rfl, hfree, contents, hnode⟩, hnode⟩

/-- A copy that succeeds has read a file and written its destination. -/
theorem copyFile_ok (h : t.copyFile cwd source dest = .ok t') :
    ∃ contents m, t.node? (source.location cwd) = some (.file contents) ∧
      t.openNew cwd dest = .ok m ∧
      t' = t.put m (.file (if m = source.location cwd then .empty else contents)) := by
  unfold copyFile at h
  split at h
  · cases h
  · cases h
  · rename_i l contents hfind
    obtain ⟨rfl, hnode⟩ := find_ok hfind
    split at h
    · cases h
    · rename_i m hopen
      exact ⟨contents, m, hnode, hopen, (Except.ok.inj h).symm⟩

/-- A copy writes its destination; between two files it writes what it has read. -/
theorem copyFile_written (h : t.copyFile cwd source dest = .ok t') :
    SameBut (fun m => m = dest.location cwd ∧ t.WrittenAt t' m) way t t' ∧
      (source.location cwd ≠ dest.location cwd → ∃ contents,
        t.node? (source.location cwd) = some (.file contents) ∧
        t'.node? (dest.location cwd) = some (.file contents)) := by
  obtain ⟨contents, m, hnode, hopen, rfl⟩ := copyFile_ok h
  obtain ⟨hsame, hwritten⟩ := written_of_openNew hopen way
    (if m = source.location cwd then .empty else contents)
  refine ⟨hsame, fun hne => ⟨contents, hnode, ?_⟩⟩
  obtain ⟨rfl, -⟩ := openNew_ok hopen
  rwa [if_neg hne.symm] at hwritten ⊢

/-- An archive writes its destination, also where its source cannot be read; between two
files it writes what it has read under the name of the entry. -/
theorem writeArchive_written (cwd : Location) (source : LocalPath) (entry : String)
    (dest : LocalPath) (t : FileTree) (way : Location → Prop) :
    let out := t.writeArchive cwd source entry dest
    SameBut (fun m => m = dest.location cwd ∧ t.WrittenAt out.2 m) way t out.2 ∧
      (∀ size, out.1 = .ok size → source.location cwd ≠ dest.location cwd → ∃ contents,
        t.node? (source.location cwd) = some (.file contents) ∧
        out.2.node? (dest.location cwd) = some (.file (.archive entry contents))) := by
  unfold writeArchive
  split
  · exact ⟨.refl t, nofun⟩
  · rename_i l node hfind
    obtain ⟨rfl, hnode⟩ := find_ok hfind
    split
    · exact ⟨.refl t, nofun⟩
    · rename_i m hopen
      cases node with
      | dir => exact ⟨(written_of_openNew hopen way _).1, nofun⟩
      | file contents =>
        obtain ⟨hsame, hwritten⟩ := written_of_openNew hopen way
          (.archive entry (if m = source.location cwd then .begun entry else contents))
        refine ⟨hsame, fun size _ hne => ⟨contents, hnode, ?_⟩⟩
        obtain ⟨rfl, -⟩ := openNew_ok hopen
        dsimp only
        rwa [if_neg hne.symm] at hwritten ⊢

/-- Writing a file makes directories above it, and writes the file if it succeeds. -/
theorem writeWithDirs_written (hp : p.Descends) (cwd : Location) (contents : Contents)
    (t : FileTree) :
    let out := t.writeWithDirs cwd p contents
    SameBut (fun m => m = p.location cwd ∧ t.WrittenAt out.2 m)
      (fun m => below m (p.location cwd) = true) t out.2 := by
  have hwrite : ∀ left : FileTree,
      SameBut (fun _ => False) (fun m => below m (p.location cwd) = true) t left →
      SameBut (fun m => m = p.location cwd ∧
          t.WrittenAt (writeAlone cwd p contents left).2 m)
        (fun m => below m (p.location cwd) = true) t
        (writeAlone cwd p contents left).2 := by
    intro left hleft
    unfold writeAlone writeFile
    cases hopen : left.openNew cwd p with
    | error fault => exact hleft.mono (fun _ h => h.elim) fun _ h => h
    | ok m =>
      obtain ⟨rfl, hadmits⟩ := openNew_ok hopen
      have hnode := (written_of_openNew hopen (fun _ => False) contents).2
      intro l
      by_cases hl : l = p.location cwd
      · refine .inl ⟨hl, fun hdir => ?_, contents, hl ▸ hnode⟩
        exact (hadmits contents).2.2.elim nofun fun hfree => hfree (hl ▸ hleft.keeps_dir hdir)
      · dsimp only
        rw [node?_put_of_ne hl]
        exact .inr ((hleft l).resolve_left id)
  rw [writeWithDirs_eq]
  cases hparent : p.parent with
  | none => exact hwrite t (.refl t)
  | some parent =>
    dsimp only
    split
    · exact hwrite t (.refl t)
    · rename_i hempty
      have hne : parent.code ≠ "" := by simpa [LocalPath.isEmpty] using hempty
      have hmade : SameBut (fun _ => False) (fun m => below m (p.location cwd) = true) t
          (t.makeDirs cwd parent).2 :=
        (makeDirs_sameBut cwd parent t).mono (fun _ h => h) fun _ hl =>
          LocalPath.below_of_onWay_parent hparent hne hp hl
      rcases hmake : t.makeDirs cwd parent with ⟨fault | done, left⟩
      · rw [hmake] at hmade
        exact hmade.mono (fun _ h => h.elim) fun _ h => h
      · rw [hmake] at hmade
        exact hwrite left hmade

/-- What is made for a path that does not go up is in its place or above it. -/
theorem SameBut.above (h : SameBut free (p.OnWay cwd) t t') (hp : p.Descends)
    (hfree : free (p.location cwd)) :
    SameBut free (fun l => below l (p.location cwd) = true) t t' := by
  intro l
  by_cases hl : l = p.location cwd
  · exact .inl (hl ▸ hfree)
  · refine (h l).imp_right (Or.imp_right fun ⟨hway, hmade⟩ => ⟨?_, hmade⟩)
    have hin := within_iff.mp (LocalPath.within_of_onWay hp hway)
    exact below_iff.mpr ⟨hin, Ne.symm hl⟩

end FileTree

/-! ## §3 Actions -/

namespace Action

/-- An operation on files has succeeded if its action has. -/
theorem settle_ok {σ : Type} {s : Session σ} {path : LocalPath} {out : FileTree.Outcome}
    {done : Summary} (h : (settle s path out).1 = .ok done) : out.1 = .ok () := by
  rcases out with ⟨_ | _, tree⟩
  · cases h
  · rfl

section Apply

variable {σ : Type} (run : Runner σ) (cwd : Location) (s : Session σ)

/-- The tree that an action leaves. -/
def leaves (a : Action) : FileTree := (a.apply run cwd s).2.tree

def Succeeds (a : Action) : Prop := ∃ done, (a.apply run cwd s).1 = .ok done

variable {path : LocalPath}

theorem resetDir_footprint (hp : path.Descends) :
    FileTree.SameBut (fun l => within (path.location cwd) l = true)
      (fun l => below l (path.location cwd) = true) s.tree ((resetDir path).leaves run cwd s) := by
  have hreset : FileTree.SameBut (fun l => within (path.location cwd) l = true)
      (path.OnWay cwd) s.tree ((resetDir path).leaves run cwd s) := by
    simp only [leaves, apply, settle_session]
    exact FileTree.resetDir_sameBut cwd path s.tree
  exact hreset.above hp (within_self _)

theorem resetDir_done (hp : path.Descends) (h : (resetDir path).Succeeds run cwd s)
    (hne : path.code ≠ "") :
    ((resetDir path).leaves run cwd s).EmptyDirAt (path.location cwd) := by
  obtain ⟨done, hdone⟩ := h
  have hok : (s.tree.resetDir cwd path).1 = .ok () := settle_ok hdone
  simp only [leaves, apply, settle_session]
  exact (FileTree.emptyDirAt_of_resetDir hp hne hok).2

theorem createDir_footprint (hp : path.Descends) :
    FileTree.SameBut (fun _ => False) (fun l => within l (path.location cwd) = true) s.tree
      ((createDir path).leaves run cwd s) := by
  simp only [leaves, apply, settle_session]
  exact (FileTree.makeDirs_sameBut cwd path s.tree).mono (fun _ h => h)
    fun _ hl => LocalPath.within_of_onWay hp hl

theorem copyFile_footprint (source dest : LocalPath) :
    let left := (copyFile source dest).leaves run cwd s
    FileTree.SameBut (fun l => l = dest.location cwd ∧ s.tree.WrittenAt left l) (fun _ => False)
        s.tree left ∧
      ((copyFile source dest).Succeeds run cwd s → source.location cwd ≠ dest.location cwd →
        ∃ contents, s.tree.node? (source.location cwd) = some (.file contents) ∧
          left.node? (dest.location cwd) = some (.file contents)) := by
  simp only [leaves, Succeeds, apply_copyFile]
  cases hcopy : s.tree.copyFile cwd source dest with
  | error fault =>
    refine ⟨.refl s.tree, ?_⟩
    rintro ⟨done, hdone⟩
    cases hdone
  | ok tree =>
    obtain ⟨hsame, hwritten⟩ := FileTree.copyFile_written hcopy
    exact ⟨hsame, fun _ => hwritten⟩

theorem archive_footprint (source : LocalPath) (entry : String) (dest : LocalPath) :
    let left := (archive source entry dest).leaves run cwd s
    FileTree.SameBut (fun l => l = dest.location cwd ∧ s.tree.WrittenAt left l) (fun _ => False)
        s.tree left ∧
      ((archive source entry dest).Succeeds run cwd s →
        source.location cwd ≠ dest.location cwd →
        ∃ contents, s.tree.node? (source.location cwd) = some (.file contents) ∧
          left.node? (dest.location cwd) = some (.file (.archive entry contents))) := by
  obtain ⟨hsame, hwritten⟩ :=
    FileTree.writeArchive_written cwd source entry dest s.tree fun _ => False
  simp only [leaves, Succeeds, apply, FileTree.pack_eq]
  rcases hpack : s.tree.writeArchive cwd source entry dest with ⟨fault | size, tree⟩
  · rw [hpack] at hsame
    refine ⟨hsame, ?_⟩
    rintro ⟨done, hdone⟩
    cases hdone
  · rw [hpack] at hsame hwritten
    exact ⟨hsame, fun _ => hwritten size rfl⟩

theorem writeFile_footprint (text : String) (hp : path.Descends) :
    let left := (writeFile path text).leaves run cwd s
    FileTree.SameBut (fun l => l = path.location cwd ∧ s.tree.WrittenAt left l)
        (fun l => below l (path.location cwd) = true) s.tree left ∧
      ((writeFile path text).Succeeds run cwd s →
        left.node? (path.location cwd) = some (.file (.ofText text))) := by
  have hsame := FileTree.writeWithDirs_written hp cwd (.ofText text) s.tree
  simp only [leaves, Succeeds, apply, FileTree.fileSystem_writeWithDirs]
  rcases hwrite : s.tree.writeWithDirs cwd path (.ofText text) with ⟨fault | done, tree⟩
  · rw [hwrite] at hsame
    refine ⟨hsame, ?_⟩
    rintro ⟨done, hdone⟩
    cases hdone
  · rw [hwrite] at hsame
    have hnode := FileTree.node?_of_writeWithDirs (congrArg Prod.fst hwrite)
    rw [hwrite] at hnode
    exact ⟨hsame, fun _ => hnode⟩

end Apply

end Action

/-- **The footprint of each file action**, whether it succeeds or fails.

A directory that is made anew changes in itself and in what is in it, and may have made missing
directories above it; if that succeeds and the path is not empty, there is a directory with
nothing in it. Making a directory makes directories where nothing was, in its place and above
it, and changes nothing else. A copy and an archive change their destination only, and only
from nothing or from a file to a file; writing a file does the same and may have made missing
directories above it.

If they succeed, the destination holds what has been read: a copy the contents of its source,
an archive one entry with its name and the contents of its source, if source and destination
are not in one place; and a file that is written holds what it is to hold. -/
theorem file_action_footprints {σ : Type} (run : Runner σ) (cwd : Location) (s : Session σ) :
    let left := Action.leaves run cwd s
    let succeeds := Action.Succeeds run cwd s
    (∀ path : LocalPath, path.Descends →
      FileTree.SameBut (fun l => within (path.location cwd) l = true)
        (fun l => below l (path.location cwd) = true) s.tree (left (.resetDir path)) ∧
      (succeeds (.resetDir path) → path.code ≠ "" →
        (left (.resetDir path)).EmptyDirAt (path.location cwd))) ∧
    (∀ path : LocalPath, path.Descends →
      FileTree.SameBut (fun _ => False) (fun l => within l (path.location cwd) = true) s.tree
        (left (.createDir path))) ∧
    (∀ source dest : LocalPath,
      FileTree.SameBut
        (fun l => l = dest.location cwd ∧ s.tree.WrittenAt (left (.copyFile source dest)) l)
        (fun _ => False) s.tree (left (.copyFile source dest)) ∧
      (succeeds (.copyFile source dest) → source.location cwd ≠ dest.location cwd →
        ∃ contents, s.tree.node? (source.location cwd) = some (.file contents) ∧
          (left (.copyFile source dest)).node? (dest.location cwd) = some (.file contents))) ∧
    (∀ (source : LocalPath) (entry : String) (dest : LocalPath),
      FileTree.SameBut
        (fun l => l = dest.location cwd ∧ s.tree.WrittenAt (left (.archive source entry dest)) l)
        (fun _ => False) s.tree (left (.archive source entry dest)) ∧
      (succeeds (.archive source entry dest) → source.location cwd ≠ dest.location cwd →
        ∃ contents, s.tree.node? (source.location cwd) = some (.file contents) ∧
          (left (.archive source entry dest)).node? (dest.location cwd) =
            some (.file (.archive entry contents)))) ∧
    ∀ (path : LocalPath) (text : String), path.Descends →
      FileTree.SameBut
        (fun l => l = path.location cwd ∧ s.tree.WrittenAt (left (.writeFile path text)) l)
        (fun l => below l (path.location cwd) = true) s.tree (left (.writeFile path text)) ∧
      (succeeds (.writeFile path text) →
        (left (.writeFile path text)).node? (path.location cwd) =
          some (.file (.ofText text))) := by
  intro left succeeds
  refine ⟨fun path hp => ⟨?_, fun hdone hne => ?_⟩, fun path hp => ?_, fun source dest => ?_,
    fun source entry dest => ?_, fun path text hp => ?_⟩
  · exact Action.resetDir_footprint run cwd s hp
  · exact Action.resetDir_done run cwd s hp hdone hne
  · exact Action.createDir_footprint run cwd s hp
  · exact Action.copyFile_footprint run cwd s source dest
  · exact Action.archive_footprint run cwd s source entry dest
  · exact Action.writeFile_footprint run cwd s text hp

/-- The directory of a version is made anew: the file in it is gone, and the pointer beside it
is still there. -/
theorem stale_version_directory_emptied :
    let tree := (((FileTree.empty.put ["dist"] .dir).put ["1.0", "dist"] .dir).put
      ["stale", "1.0", "dist"] (.file (.ofText "left over"))).put
        ["latest.txt", "dist"] (.file (.ofText "1.0\n"))
    let s : Session Unit := .start tree () none
    let reset := (Action.resetDir ⟨"dist/1.0"⟩).apply (Runner.faithful Unit []) [] s
    (LocalPath.mk "dist/1.0").Descends ∧ (∃ done, reset.1 = .ok done) ∧
      tree.node? ["stale", "1.0", "dist"] = some (.file (.ofText "left over")) ∧
      reset.2.tree.EmptyDirAt ["1.0", "dist"] ∧
      reset.2.tree.node? ["latest.txt", "dist"] = some (.file (.ofText "1.0\n")) := by
  intro tree s reset
  have hdescends : (LocalPath.mk "dist/1.0").Descends := LocalPath.descends_iff.mpr (by decide)
  have hplace : (LocalPath.mk "dist/1.0").location [] = ["1.0", "dist"] := by
    decide +kernel
  have hdone : reset.1 = .ok (Action.record 0 []) := by decide +kernel
  obtain ⟨hreset, -⟩ := file_action_footprints (Runner.faithful Unit []) [] s
  obtain ⟨hsame, hempty⟩ := hreset ⟨"dist/1.0"⟩ hdescends
  have hpointer : reset.2.tree.node? ["latest.txt", "dist"] = tree.node? ["latest.txt", "dist"] :=
    hsame.node?_eq (by rw [hplace]; decide) (by rw [hplace]; decide)
  refine ⟨hdescends, ⟨_, hdone⟩, by decide +kernel, ?_, hpointer.trans (by decide +kernel)⟩
  exact hplace ▸ hempty ⟨_, hdone⟩ (by decide)

/-- The empty path has no component and leads to no directory. It is made anew nevertheless,
and what is in the working directory stays. -/
theorem reset_of_empty_path :
    let tree := FileTree.empty.put ["a"] (.file (.ofText "x"))
    let s : Session Unit := .start tree () none
    let reset := (Action.resetDir ⟨""⟩).apply (Runner.faithful Unit []) [] s
    (LocalPath.mk "").components = [] ∧ (∃ done, reset.1 = .ok done) ∧
      reset.2.tree.isDir [] ⟨""⟩ = false ∧
      ¬ reset.2.tree.EmptyDirAt ((LocalPath.mk "").location []) := by
  intro tree s reset
  have hnode : reset.2.tree.node? ["a"] = some (.file (.ofText "x")) := by decide +kernel
  refine ⟨by decide, ⟨Action.record 0 [], by decide +kernel⟩, by decide +kernel, fun hempty => ?_⟩
  have hnone := hempty.2 ["a"] (by decide +kernel)
  rw [hnode] at hnone
  cases hnone

end ReleaseKit
