/-
ReleaseKit.Proofs.Transfers — what a copy or an archive leaves that fails.

Both open what they read before they empty what they write, so a source that is not there
costs nothing, and neither does a destination that cannot be written. They differ where the
source is a directory. A copy looks at what it has opened and refuses it. An archive does
not look: a directory can be opened, and that it cannot be read shows only when the
destination has been emptied. So a copy that fails has changed nothing, and an archive that
fails has changed nothing but in this one case, in which an archive with an empty entry
takes the place of what the destination held, or appears where there was nothing
(`failed_transfer`).

  §1 Trees    — a source that is a directory, opened and packed.
  §2 Actions  — `Action.IsTransfer`, `Action.Blanks` and what a failure leaves.
-/
import ReleaseKit.Proofs.Layout

namespace ReleaseKit

/-! ## §1 Trees -/

namespace FileTree

variable {t left : FileTree} {cwd l : Location} {source dest : LocalPath} {entry : String}
  {e : ReleaseError}

theorem isDir_iff : t.isDir cwd source = true ↔ ∃ l, t.find cwd source = .ok (l, .dir) := by
  unfold isDir
  split
  · rename_i l hfind
    exact iff_of_true rfl ⟨l, hfind⟩
  · rename_i hno
    exact iff_of_false Bool.false_ne_true fun ⟨l, hfind⟩ => hno l hfind

/-- An archive of a directory empties its destination before it fails. -/
theorem writeArchive_of_isDir (hdir : t.isDir cwd source = true)
    (hopen : t.openNew cwd dest = .ok l) :
    t.writeArchive cwd source entry dest =
      (.error (.dest .isDirectory), t.put l (.file (.archive entry .empty))) := by
  obtain ⟨here, hfind⟩ := isDir_iff.mp hdir
  simp only [writeArchive, hfind, hopen]

/-- Only an archive of a directory fails after its destination has been opened. -/
theorem writeArchive_failed {fault : PackFault}
    (h : t.writeArchive cwd source entry dest = (.error fault, left)) :
    left = t ∨ t.isDir cwd source = true ∧ ∃ l, t.openNew cwd dest = .ok l := by
  unfold writeArchive at h
  split at h
  · exact .inl (Prod.mk.inj h).2.symm
  · rename_i here node hfind
    split at h
    · exact .inl (Prod.mk.inj h).2.symm
    · rename_i l hopen
      cases node with
      | dir => exact .inr ⟨isDir_iff.mpr ⟨here, hfind⟩, l, hopen⟩
      | file contents => cases h

end FileTree

/-! ## §2 Actions -/

namespace Action

/-- An action that makes a file from another. -/
def IsTransfer : Action → Prop
  | copyFile _ _ => True
  | archive _ _ _ => True
  | _ => False

/-- An action that empties its destination and can then not read its source: an archive of
a directory, if the destination can be written. -/
def Blanks (cwd : Location) (t : FileTree) : Action → Prop
  | archive source _ dest => t.isDir cwd source = true ∧ ∃ l, t.openNew cwd dest = .ok l
  | _ => False

variable {σ : Type} {run : Runner σ} {cwd : Location} {s left : Session σ} {a : Action}
  {source dest : LocalPath} {entry : String} {e : ReleaseError}

/-- A transfer that fails otherwise leaves everything as it was. -/
theorem apply_failed (htransfer : a.IsTransfer) (h : a.apply run cwd s = (.error e, left))
    (hblanks : ¬ a.Blanks cwd s.tree) : left = s := by
  cases a with
  | copyFile source dest =>
    simp only [apply_copyFile] at h
    split at h
    · cases h
    · exact (Prod.mk.inj h).2.symm
  | archive source entry dest =>
    simp only [apply, FileTree.pack_eq] at h
    split at h
    · cases h
    · rename_i error tree hwrite
      obtain rfl : tree = s.tree := (FileTree.writeArchive_failed hwrite).resolve_right hblanks
      exact (Prod.mk.inj h).2.symm
  | resetDir _ | createDir _ | exec _ | writeFile _ _ => exact htransfer.elim

/-- An archive of a directory fails, and leaves an empty entry at its destination. -/
theorem apply_of_blanks (h : (archive source entry dest).Blanks cwd s.tree) :
    (archive source entry dest).apply run cwd s =
      (.error (.io dest .isDirectory),
        { s with tree := s.tree.put (dest.location cwd) (.file (.archive entry .empty)) }) := by
  obtain ⟨hdir, l, hopen⟩ := h
  obtain ⟨rfl, -⟩ := FileTree.openNew_ok hopen
  simp only [apply, FileTree.pack_eq, FileTree.writeArchive_of_isDir hdir hopen, PackFault.error]

end Action

/-- **A copy or an archive that fails changes nothing, but for an archive of a directory.**
Such a failure leaves the whole session as it was, so no file has changed and none has
appeared, unless it is an archive whose source is a directory and whose destination can be
written. Then the archive always fails, at its destination, and the destination holds an
archive with one empty entry, whatever it held before; everything else is as it was. -/
theorem failed_transfer {σ : Type} (run : Runner σ) (cwd : Location) (s : Session σ) :
    (∀ a e left, Action.IsTransfer a → a.apply run cwd s = (.error e, left) →
      ¬ a.Blanks cwd s.tree → left = s) ∧
    ∀ source entry dest, (Action.archive source entry dest).Blanks cwd s.tree →
      ∃ tree, (Action.archive source entry dest).apply run cwd s =
          (.error (.io dest .isDirectory), { s with tree }) ∧
        tree.node? (dest.location cwd) = some (.file (.archive entry .empty)) ∧
        ∀ l, l ≠ dest.location cwd → tree.node? l = s.tree.node? l := by
  refine ⟨fun a e left htransfer h hblanks => Action.apply_failed htransfer h hblanks,
    fun source entry dest hblanks => ⟨_, Action.apply_of_blanks hblanks, ?_, fun l hl => ?_⟩⟩
  · obtain ⟨-, l, hopen⟩ := hblanks
    obtain ⟨-, hadmits⟩ := FileTree.openNew_ok hopen
    rw [FileTree.node?_put (hadmits _), if_pos rfl]
  · exact FileTree.node?_put_of_ne hl

/-- Where a directory has the name of the API binary, the API step loses the archive that was
made before: the plan packs the directory, which fails and leaves an archive with an empty
entry. To copy the directory there fails as well, and loses nothing. -/
theorem packed_directory_replaces_archive :
    let c := Config.standard ⟨"1.0", by decide⟩
    let tree := (((FileTree.empty.put ["dist"] .dir).put ["1.0", "dist"] .dir).put
      ["apictl", "1.0", "dist"] .dir).put ["apictl.zip", "1.0", "dist"]
        (.file (.ofText "packed before"))
    let s : Session Unit := .start tree () none
    let pack := Action.archive c.apiBinaryPath c.manifest.apiName c.apiArchivePath
    let copy := Action.copyFile c.apiBinaryPath c.apiArchivePath
    tree.node? ["apictl.zip", "1.0", "dist"] = some (.file (.ofText "packed before")) ∧
      pack ∈ Step.plan c .api ∧
      (∃ left, pack.apply (Runner.faithful Unit []) [] s =
          (.error (.io c.apiArchivePath .isDirectory), left) ∧
        left.tree.node? ["apictl.zip", "1.0", "dist"] = some (.file (.archive "apictl" .empty))) ∧
      ∃ e, copy.apply (Runner.faithful Unit []) [] s = (.error e, s) := by
  intro c tree s pack copy
  obtain ⟨hintact, hblanked⟩ := failed_transfer (Runner.faithful Unit []) [] s
  have hplanned : pack ∈ Step.plan c .api := by decide
  have hblanks : pack.Blanks [] tree :=
    ⟨by decide +kernel, ["apictl.zip", "1.0", "dist"], by decide +kernel⟩
  have hplace : c.apiArchivePath.location [] = ["apictl.zip", "1.0", "dist"] := by
    decide +kernel
  refine ⟨by decide +kernel, hplanned, ?_, ?_⟩
  · obtain ⟨left, happly, hnode, -⟩ := hblanked _ _ _ hblanks
    exact ⟨_, happly, hplace ▸ hnode⟩
  · obtain ⟨l, hfind⟩ := FileTree.isDir_iff.mp hblanks.1
    have hrefused : (copy.apply (Runner.faithful Unit []) [] s).1 =
        .error (.io c.apiBinaryPath .notRegular) := by
      simp only [copy, Action.apply_copyFile, s, Session.start, FileTree.copyFile, hfind]
    rcases happly : copy.apply (Runner.faithful Unit []) [] s with ⟨result, left⟩
    rw [happly] at hrefused
    obtain rfl : result = .error (.io c.apiBinaryPath .notRegular) := hrefused
    have hleft : left = s := hintact copy _ _ trivial happly id
    exact ⟨_, by rw [hleft]⟩

end ReleaseKit
