/-
ReleaseKit.Proofs.Footprint — what an operation on files can change.

An operation leaves its mark at the location of its path, may make the
directories on the way there, and leaves every other location as it was, whether
it succeeds or fails halfway. Footprints compose (`SameBut.trans`), so what a
whole run can touch follows from what its actions can touch.

  §1 Footprints   — `FileTree.SameBut`.
  §2 Operations   — the footprint of each operation on a tree.
  §3 Actions      — `Action.Reaches`, `Action.Passes` and `apply_sameBut`.
-/
import ReleaseKit.Execution
import ReleaseKit.Proofs.Location

namespace ReleaseKit

open Location

/-! ## §1 Footprints -/

namespace FileTree

/-- `b` is `a` but for whatever is at the free locations, and for directories
that have been made on the way where nothing was. -/
def SameBut (free way : Location → Prop) (a b : FileTree) : Prop :=
  ∀ l, free l ∨ b.node? l = a.node? l ∨ (way l ∧ a.node? l = none ∧ b.node? l = some .dir)

variable {free way : Location → Prop} {a b c : FileTree}

theorem SameBut.refl (a : FileTree) : SameBut free way a a := fun _ => .inr (.inl rfl)

theorem SameBut.trans (hab : SameBut free way a b) (hbc : SameBut free way b c) :
    SameBut free way a c := by
  intro l
  rcases hab l with h | h | ⟨hw, hn, hd⟩
  · exact .inl h
  · rw [← h]
    exact hbc l
  · rcases hbc l with h' | h' | ⟨-, hn', -⟩
    · exact .inl h'
    · exact .inr (.inr ⟨hw, hn, h'.trans hd⟩)
    · rw [hd] at hn'
      cases hn'

theorem SameBut.mono {free' way' : Location → Prop} (h : SameBut free way a b)
    (hfree : ∀ l, free l → free' l) (hway : ∀ l, way l → way' l) : SameBut free' way' a b :=
  fun l => (h l).imp (hfree l) (Or.imp_right fun ⟨hw, hd⟩ => ⟨hway l hw, hd⟩)

/-- Where only directories have been made, a directory has stayed one. -/
theorem SameBut.keeps_dir {l : Location} (h : SameBut (fun _ => False) way a b)
    (hdir : a.node? l = some .dir) : b.node? l = some .dir := by
  rcases h l with h | h | ⟨-, hnone, -⟩
  · exact h.elim
  · rw [h, hdir]
  · rw [hdir] at hnone
    cases hnone

/-- No directory is made where there are directories on the way. -/
theorem SameBut.eq_of_dirs (h : SameBut (fun _ => False) way a b)
    (hway : ∀ l, way l → a.node? l = some .dir) : b = a := by
  apply ext
  intro l
  rcases h l with h | h | ⟨hl, hnone, -⟩
  · exact h.elim
  · exact h
  · rw [hway l hl] at hnone
    cases hnone

/-- Where nothing is free and no directory is made, nothing changes. -/
theorem SameBut.node?_eq {l : Location} (h : SameBut free way a b) (hfree : ¬ free l)
    (hway : ¬ way l) : b.node? l = a.node? l := by
  rcases h l with h | h | h
  · exact absurd h hfree
  · exact h
  · exact absurd h.1 hway

theorem sameBut_put {l : Location} {node : Node} (hl : free l) :
    SameBut free way a (a.put l node) := by
  intro m
  by_cases hm : m = l
  · exact .inl (hm ▸ hl)
  · exact .inr (.inl (node?_put_of_ne hm))

/-! ## §2 Operations -/

variable {t t' : FileTree} {cwd : Location} {p : LocalPath}

theorem makeDir_sameBut (hway : way (p.location cwd)) (h : t.makeDir cwd p = .ok t') :
    SameBut free way t t' := by
  obtain ⟨rfl, hnone, hadm⟩ := makeDir_ok h
  intro l
  rw [node?_put hadm]
  by_cases hl : l = p.location cwd
  · exact .inr (.inr ⟨hl ▸ hway, hl ▸ hnone, if_pos hl⟩)
  · exact .inr (.inl (if_neg hl))

theorem makeDirsOf_sameBut {paths : List LocalPath} (h : ∀ p ∈ paths, way (p.location cwd))
    (t : FileTree) : SameBut free way t (makeDirsOf cwd paths t).2 := by
  induction paths generalizing t with
  | nil => exact .refl t
  | cons p above ih =>
    have hp := h p (by simp)
    have hrest := ih (fun q hq => h q (by simp [hq])) t
    have htree : ∀ {r : FileTree}, LastTried cwd p above t r → SameBut free way t r := by
      rintro r (⟨rfl, -⟩ | ⟨-, hdone⟩)
      · exact .refl r
      · rwa [hdone] at hrest
    rcases hmakes : makeDirsOf cwd (p :: above) t with ⟨result, left⟩
    cases makesDirs_of_eq hmakes with
    | nothing => exact .refl t
    | stuck _ hfail => rwa [hfail] at hrest
    | made htried hmake => exact (htree htried).trans (makeDir_sameBut hp hmake)
    | found htried => exact htree htried
    | refused htried => exact htree htried

/-- Making a directory makes directories, on the way to it and where nothing
was. -/
theorem makeDirs_sameBut (cwd : Location) (p : LocalPath) (t : FileTree) :
    SameBut free (p.OnWay cwd) t (t.makeDirs cwd p).2 :=
  makeDirsOf_sameBut (fun q hq => ⟨q, hq, rfl⟩) t

theorem clear_sameBut (l : Location) (t : FileTree) :
    SameBut (fun m => within l m = true) way t (t.clear l) := by
  intro m
  by_cases hm : within l m = true
  · exact .inl hm
  · refine .inr (.inl ?_)
    have hb : below l m = false := by simp [below, hm]
    simp [hb]

theorem remove_sameBut (l : Location) (t : FileTree) :
    SameBut (fun m => within l m = true) way t (t.remove l) := by
  intro m
  by_cases hl : l = []
  · subst hl
    exact .inl (by simp [within])
  · by_cases hm : within l m = true
    · exact .inl hm
    · exact .inr (.inl (by rw [node?_remove hl, if_neg hm]))

theorem removeEmptyDir_sameBut (t : FileTree) :
    SameBut (fun m => within (p.location cwd) m = true) way t (t.removeEmptyDir cwd p).2 := by
  unfold removeEmptyDir
  split
  · exact .refl t
  · exact .refl t
  · exact .refl t
  · rename_i dir last slash hplace
    split
    · exact .refl t
    · split
      · exact .refl t
      · rename_i h₁ h₂
        obtain ⟨hl, -⟩ := place_ok_name hplace (by simp [isName, h₁, h₂])
        rw [hl]
        exact remove_sameBut _ t

/-- Removing a directory removes what is in it and it. -/
theorem removeDir_sameBut (cwd : Location) (p : LocalPath) (t : FileTree) :
    SameBut (fun m => within (p.location cwd) m = true) way t (t.removeDir cwd p).2 := by
  unfold removeDir
  split
  · exact .refl t
  · exact .refl t
  · rename_i l hfind
    obtain ⟨rfl, -⟩ := find_ok hfind
    exact (clear_sameBut _ t).trans (removeEmptyDir_sameBut _)

/-- Making a directory anew changes it, what is in it, and makes the directories
on the way to it. -/
theorem resetDir_sameBut (cwd : Location) (p : LocalPath) (t : FileTree) :
    SameBut (fun m => within (p.location cwd) m = true) (p.OnWay cwd) t (t.resetDir cwd p).2 := by
  have hremove : SameBut (fun m => within (p.location cwd) m = true) (p.OnWay cwd) t
      (t.removeDir cwd p).2 := removeDir_sameBut cwd p t
  have hmake : ∀ left : FileTree, SameBut (fun m => within (p.location cwd) m = true)
      (p.OnWay cwd) left (left.makeDirs cwd p).2 := makeDirs_sameBut cwd p
  rw [resetDir_eq]
  split
  · rename_i left hdone
    rw [hdone] at hremove
    exact hremove.trans (hmake left)
  · rename_i left hdone
    rw [hdone] at hremove
    exact hremove.trans (hmake left)
  · rename_i fault left _ hfail
    rw [hfail] at hremove
    exact hremove

theorem writeFile_sameBut {contents : Contents} (h : t.writeFile cwd p contents = .ok t') :
    SameBut (fun l => l = p.location cwd) way t t' := by
  unfold writeFile at h
  split at h
  · cases h
  · rename_i l hopen
    cases h
    exact sameBut_put (openNew_ok hopen).1

/-- A copy changes its destination. -/
theorem copyFile_sameBut {source dest : LocalPath} (h : t.copyFile cwd source dest = .ok t') :
    SameBut (fun l => l = dest.location cwd) way t t' := by
  unfold copyFile at h
  split at h
  · cases h
  · cases h
  · split at h
    · cases h
    · rename_i l contents _ m hopen
      cases h
      exact sameBut_put (openNew_ok hopen).1

/-- An archive changes its destination, also where its source cannot be read. -/
theorem writeArchive_sameBut (cwd : Location) (source : LocalPath) (entry : String)
    (dest : LocalPath) (t : FileTree) :
    SameBut (fun l => l = dest.location cwd) way t (t.writeArchive cwd source entry dest).2 := by
  unfold writeArchive
  split
  · exact .refl t
  · split
    · exact .refl t
    · rename_i m hopen
      split
      · exact sameBut_put (openNew_ok hopen).1
      · exact sameBut_put (openNew_ok hopen).1

/-- Writing a file makes the directories on the way to its parent, and changes the
file if it succeeds. -/
theorem writeWithDirs_sameBut (cwd : Location) (p : LocalPath) (contents : Contents)
    (t : FileTree) :
    SameBut (fun l => l = p.location cwd ∧ (t.writeWithDirs cwd p contents).1 = .ok ())
      (fun l => ∃ q, p.parent = some q ∧ q.OnWay cwd l) t
      (t.writeWithDirs cwd p contents).2 := by
  have hwrite : ∀ left : FileTree,
      SameBut (fun l => l = p.location cwd ∧ (writeAlone cwd p contents left).1 = .ok ())
        (fun l => ∃ q, p.parent = some q ∧ q.OnWay cwd l) left
        (writeAlone cwd p contents left).2 := by
    intro left
    unfold writeAlone
    split
    · exact .refl left
    · rename_i written hw
      exact (writeFile_sameBut hw).mono (fun _ hl => ⟨hl, rfl⟩) fun _ h => h
  rw [writeWithDirs_eq]
  split
  · exact hwrite t
  · rename_i parent hparent
    split
    · exact hwrite t
    · have hdirs : SameBut (fun _ => False) (fun l => ∃ q, p.parent = some q ∧ q.OnWay cwd l) t
          (t.makeDirs cwd parent).2 :=
        (makeDirs_sameBut cwd parent t).mono (fun _ h => h) fun l hl => ⟨parent, hparent, hl⟩
      split
      · rename_i fault left hfail
        rw [hfail] at hdirs
        exact hdirs.mono (fun _ h => h.elim) fun _ h => h
      · rename_i left hdone
        rw [hdone] at hdirs
        exact (hdirs.mono (fun _ h => h.elim) fun _ h => h).trans (hwrite left)

/-- Writing a file as far as it can be done leaves its mark in the same places. -/
theorem writeBelow_sameBut (cwd : Location) (p : LocalPath) (contents : Contents) (t : FileTree) :
    SameBut (fun l => l = p.location cwd) (fun l => ∃ q, p.parent = some q ∧ q.OnWay cwd l) t
      (t.writeBelow cwd p contents) := by
  unfold writeBelow
  rcases hparent : p.parent with _ | parent
  · dsimp only
    split
    · rename_i hw
      exact writeFile_sameBut hw
    · exact .refl t
  · have hready : SameBut (fun l => l = p.location cwd)
        (fun l => ∃ q, some parent = some q ∧ q.OnWay cwd l) t (t.makeDirs cwd parent).2 :=
      (makeDirs_sameBut cwd parent t).mono (fun _ h => h) fun l hl => ⟨parent, rfl, hl⟩
    dsimp only
    split
    · rename_i hw
      exact hready.trans (writeFile_sameBut hw)
    · exact hready

end FileTree

/-! ## §3 Actions -/

/-- What a command writes: the file that a compiler is told to write. -/
def CommandLine.output? (c : CommandLine) : Option LocalPath :=
  if c.program = Toolchain.go then (c.flagValue "-o").map LocalPath.ofText else none

namespace Action

/-- The locations at which an action may leave something else than was there. Of a
command it is assumed that it keeps to its output. -/
def Reaches (cwd : Location) : Action → Location → Prop
  | resetDir path, l => within (path.location cwd) l
  | createDir _, _ => False
  | exec c, l => ∃ output, c.output? = some output ∧ within (output.location cwd) l
  | copyFile _ dest, l => l = dest.location cwd
  | archive _ _ dest, l => l = dest.location cwd
  | writeFile path _, l => l = path.location cwd

/-- The locations at which an action may make a directory where nothing is. -/
def Passes (cwd : Location) : Action → Location → Prop
  | resetDir path, l => path.OnWay cwd l
  | createDir path, l => path.OnWay cwd l
  | exec c, l => ∃ output, c.output? = some output ∧
      ∃ parent, output.parent = some parent ∧ parent.OnWay cwd l
  | copyFile _ _, _ => False
  | archive _ _ _, _ => False
  | writeFile path _, l => ∃ parent, path.parent = some parent ∧ parent.OnWay cwd l

end Action

/-- A runner whose commands change nothing but what a compiler is told to write,
and make the missing directories on the way there. -/
def Runner.OnlyBuilds {σ : Type} (run : Runner σ) (cwd : Location) : Prop :=
  ∀ c state t, FileTree.SameBut ((Action.exec c).Reaches cwd) ((Action.exec c).Passes cwd) t
    (run c state t).tree

/-- What a command writes is all that it changes, and the way there. -/
theorem CommandLine.leave_sameBut (c : CommandLine) (output : Contents) (cwd : Location)
    (t : FileTree) :
    FileTree.SameBut ((Action.exec c).Reaches cwd) ((Action.exec c).Passes cwd) t
      (c.leave output cwd t) := by
  unfold CommandLine.leave
  cases hflag : c.flagValue "-o" with
  | none => exact .refl t
  | some text =>
    dsimp only
    split
    · rename_i hgo
      have hout : c.output? = some (.ofText text) := by simp [CommandLine.output?, hgo, hflag]
      refine (FileTree.writeBelow_sameBut cwd (.ofText text) _ t).mono ?_ ?_
      · rintro l rfl
        exact ⟨.ofText text, hout, within_self _⟩
      · rintro l ⟨parent, hparent, hl⟩
        exact ⟨.ofText text, hout, parent, hparent, hl⟩
    · exact .refl t

theorem Runner.faithful_onlyBuilds (σ : Type) (cwd : Location) :
    (Runner.faithful σ cwd).OnlyBuilds cwd := fun c _ t => c.leave_sameBut c.built cwd t

namespace Action

/-- **The footprint of an action**: what it reaches may change, what it passes may
become a directory, and everything else stays, however the action ends. -/
theorem apply_sameBut {σ : Type} {run : Runner σ} {cwd : Location} (a : Action)
    (hrun : ∀ c state t, a = exec c →
      FileTree.SameBut (a.Reaches cwd) (a.Passes cwd) t (run c state t).tree) (s : Session σ) :
    FileTree.SameBut (a.Reaches cwd) (a.Passes cwd) s.tree (a.apply run cwd s).2.tree := by
  cases a with
  | resetDir path =>
    simp only [apply, settle_session]
    exact FileTree.resetDir_sameBut cwd path s.tree
  | createDir path =>
    simp only [apply, settle_session]
    exact FileTree.makeDirs_sameBut cwd path s.tree
  | exec c =>
    have htree := hrun c s.state s.tree rfl
    simp only [apply]
    split <;> exact htree
  | copyFile source dest =>
    simp only [apply_copyFile]
    split
    · rename_i tree hcopy
      exact FileTree.copyFile_sameBut hcopy
    · exact .refl _
  | archive source entry dest =>
    have hout : FileTree.SameBut (Reaches cwd (archive source entry dest))
        (Passes cwd (archive source entry dest)) s.tree
        (s.tree.writeArchive cwd source entry dest).2 :=
      FileTree.writeArchive_sameBut cwd source entry dest s.tree
    simp only [apply, FileTree.pack_eq]
    split <;> (rename_i hwrite; rw [hwrite] at hout; exact hout)
  | writeFile path contents =>
    have hout : FileTree.SameBut (Reaches cwd (writeFile path contents))
        (Passes cwd (writeFile path contents)) s.tree
        (s.tree.writeWithDirs cwd path (.ofText contents)).2 :=
      (FileTree.writeWithDirs_sameBut cwd path (.ofText contents) s.tree).mono
        (fun _ h => h.1) fun _ h => h
    simp only [apply, FileTree.fileSystem_writeWithDirs]
    split <;> (rename_i hwrite; rw [hwrite] at hout; exact hout)

end Action

end ReleaseKit
