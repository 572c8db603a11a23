/-
ReleaseKit.Proofs.Repeating — file operations done over again.

What has succeeded once tells something of its path: it fits the system, and there are
directories on the way. This is all that an operation needs, so it succeeds again
wherever these directories are. In particular it does so in the tree that it has led
to, and changes nothing of it.

  §1 Success    — what a path that was followed tells of itself.
  §2 Removing   — `EmptyDirAt`: what is left of a directory that is made anew.
  §3 Opening    — when a file can be opened, and when one is found.
  §4 Again      — directories and files that have been made before.
  §5 Alike      — `Covers`, `ChangeAlike`: two trees that get the same files.
-/
import ReleaseKit.Proofs.Pointer
import ReleaseKit.Proofs.Regeneration

namespace ReleaseKit

open Location

namespace FileTree

variable {t t' : FileTree} {cwd here l : Location} {p : LocalPath} {name : String}

/-! ## §1 Success -/

/-- Pieces that were followed are short. -/
theorem short_of_walk {pieces : List String} (h : t.walk here pieces = .ok l) :
    ∀ piece ∈ pieces, (OsText.mk piece).size ≤ longestName := by
  induction pieces generalizing here with
  | nil => simp
  | cons piece rest ih =>
    unfold walk at h
    split at h
    · cases h
    · rcases stepTo_cases here piece with ⟨next, hstep, hshort⟩ | hstep
      · rw [hstep] at h
        exact List.forall_mem_cons.mpr ⟨hshort, ih h⟩
      · rw [hstep] at h
        cases h

theorem fits_of_check (h : p.check = .ok ())
    (hshort : ∀ piece ∈ p.pieces, (OsText.mk piece).size ≤ longestName) : p.Fits := by
  have hne : p.code ≠ "" := by
    intro hempty
    unfold LocalPath.check at h
    rw [if_pos hempty] at h
    split at h <;> cases h
  rcases check_cases hne with ⟨-, hnul, hlong⟩ | ⟨fault, hfault, -⟩
  · exact ⟨hnul, hlong, hshort⟩
  · rw [hfault] at h
    cases h

/-- A path that finds something fits. -/
theorem fits_of_find {found : Location × Node} (h : t.find cwd p = .ok found) : p.Fits := by
  unfold find at h
  split at h
  · cases h
  · rename_i m hresolve
    unfold resolve at hresolve
    split at hresolve
    · cases hresolve
    · rename_i hcheck
      exact fits_of_check hcheck (short_of_walk hresolve)

/-- A path whose last piece could be looked for fits, if that piece does. -/
theorem fits_of_place {dir : Location} {last : String} {slash : Bool}
    (h : t.place cwd p = .ok ⟨dir, some last, slash⟩) (hlast : (OsText.mk last).size ≤ longestName) :
    p.Fits := by
  obtain ⟨hcheck, -, -, before, hrev, hwalk⟩ := place_inv h
  refine fits_of_check hcheck fun piece hpiece => ?_
  rw [← List.mem_reverse,
    ← List.takeWhile_append_dropWhile (p := (· == "")) (l := p.pieces.reverse), hrev,
    List.mem_append, List.mem_cons] at hpiece
  rcases hpiece with hblank | rfl | hbefore
  · have hempty : piece = "" := by simpa using List.mem_takeWhile_imp hblank
    subst hempty
    decide
  · exact hlast
  · exact short_of_walk hwalk piece (List.mem_reverse.mpr hbefore)

theorem fits_of_openNew (h : t.openNew cwd p = .ok l) : p.Fits := by
  obtain ⟨dir, last, hplace, -, hshort, -⟩ := openNew_inv h
  exact fits_of_place hplace hshort

theorem fits_of_makeDir (h : t.makeDir cwd p = .ok t') : p.Fits := by
  unfold makeDir at h
  split at h
  · cases h
  · cases h
  · rename_i dir last slash hplace
    split at h
    · cases h
    · split at h
      · cases h
      · rename_i hshort
        exact fits_of_place hplace (Nat.le_of_not_lt hshort)

theorem fits_of_writeWithDirs {contents : Contents}
    (hok : t.writeWithDirs cwd p contents = (.ok (), t')) : p.Fits := by
  have hwrite : ∀ left : FileTree, writeAlone cwd p contents left = (.ok (), t') →
      p.Fits := by
    intro left hleft
    unfold writeAlone writeFile at hleft
    cases hopen : left.openNew cwd p with
    | error fault => simp [hopen] at hleft
    | ok l => exact fits_of_openNew hopen
  rw [writeWithDirs_eq] at hok
  split at hok
  · exact hwrite t hok
  · split at hok
    · exact hwrite t hok
    · split at hok
      · cases hok
      · exact hwrite _ hok

/-- Where a directory has been made, or was there, it is found. -/
theorem makeDirs_ok (hne : p.code ≠ "") (h : t.makeDirs cwd p = (.ok (), t')) :
    p.Fits ∧ t'.node? (p.location cwd) = some .dir := by
  have hmade : ∀ {t made : FileTree}, t.makeDir cwd p = .ok made →
      p.Fits ∧ made.node? (p.location cwd) = some .dir := by
    intro t made hmake
    obtain ⟨rfl, -, hadmits⟩ := makeDir_ok hmake
    exact ⟨fits_of_makeDir hmake, by rw [node?_put hadmits, if_pos rfl]⟩
  have hfound : ∀ {t : FileTree}, t.isDir cwd p = true →
      p.Fits ∧ t.node? (p.location cwd) = some .dir := by
    intro t hdir
    unfold isDir at hdir
    split at hdir
    · rename_i m hfind
      exact ⟨fits_of_find hfind, (find_ok hfind).2⟩
    · cases hdir
  unfold makeDirs LocalPath.ancestors LocalPath.ancestorsUpTo at h
  cases makesDirs_of_eq h with
  | nothing hempty => simp [LocalPath.isEmpty, hne] at hempty
  | made _ hmake => exact hmade hmake
  | found _ _ hdir => exact hfound hdir

/-- To a directory that is there no directory is made on the way. -/
theorem makeDirsOf_of_dir {count : Nat} (hp : p.Descends)
    (hdir : t.node? (p.location cwd) = some .dir) :
    (makeDirsOf cwd (p.ancestorsUpTo count) t).2 = t := by
  have hway : ∀ q ∈ p.ancestorsUpTo count, q.location cwd <:+ p.location cwd :=
    fun q hq => within_iff.mp (LocalPath.within_of_mem_ancestorsUpTo hp hq)
  exact SameBut.eq_of_dirs (makeDirsOf_sameBut hway t) fun l hl => dir_above hdir hl

theorem makeDirs_tree_of_dir (hp : p.Descends) (hdir : t.node? (p.location cwd) = some .dir) :
    (t.makeDirs cwd p).2 = t :=
  makeDirsOf_of_dir hp hdir

/-! ## §2 Removing -/

/-- There is a directory at a location, and nothing is in it. -/
def EmptyDirAt (t : FileTree) (l : Location) : Prop :=
  t.node? l = some .dir ∧ ∀ m, below l m = true → t.node? m = none

/-- Following pieces that do not go up fails for something that is missing on the way. -/
theorem missing_of_walk {here : Location} {pieces : List String} (hup : ".." ∉ pieces)
    (h : t.walk here pieces = .error .absent) :
    ∃ m, m <:+ pieces.foldl follow here ∧ t.node? m = none := by
  induction pieces generalizing here with
  | nil => cases h
  | cons piece rest ih =>
    have hsuffix := suffix_foldl_follow hup here
    simp only [List.mem_cons, not_or] at hup
    unfold walk at h
    split at h
    · rename_i fault hneed
      obtain rfl := Except.error.inj h
      refine ⟨here, hsuffix, ?_⟩
      unfold needDir at hneed
      split at hneed
      · cases hneed
      · cases hneed
      · assumption
    · -- a piece is refused for its length only
      rcases stepTo_cases here piece with ⟨there, hstep, -⟩ | hstep
      · rw [hstep] at h
        obtain rfl := stepTo_ok hstep
        exact ih hup.2 h
      · rw [hstep] at h
        cases h

/-- Where a path that is not empty finds nothing, nothing is. -/
theorem absent_of_find (hp : p.Descends) (hne : p.code ≠ "")
    (h : t.find cwd p = .error .absent) : t.node? (p.location cwd) = none := by
  unfold find at h
  split at h
  · rename_i fault hresolve
    obtain rfl := Except.error.inj h
    unfold resolve at hresolve
    split at hresolve
    · rename_i fault hcheck
      obtain rfl := Except.error.inj hresolve
      rcases check_cases hne with ⟨hok, -⟩ | ⟨fault, hfault, hother⟩
      · rw [hok] at hcheck
        cases hcheck
      · exact absurd (Except.error.inj (hfault.symm.trans hcheck)) hother
    · obtain ⟨m, habove, hnone⟩ := missing_of_walk (LocalPath.descends_iff.mp hp) hresolve
      exact nothing_below hnone (LocalPath.location_eq cwd p ▸ habove)
  · rename_i m hresolve
    split at h
    · cases h
    · rename_i hnone
      rwa [resolve_ok hresolve] at hnone

/-- The last piece of a path is removed where the path leads, or nothing is. -/
theorem removeEmptyDir_ok
    (h : t.removeEmptyDir cwd p = (.ok (), t') ∨ t.removeEmptyDir cwd p = (.error .absent, t')) :
    t' = t ∨ p.location cwd ≠ [] ∧ t' = t.remove (p.location cwd) := by
  unfold removeEmptyDir at h
  split at h
  · rcases h with h | h
    · exact .inl (Prod.mk.inj h).2.symm
    · cases h
  · rename_i fault hfault _
    rcases h with h | h
    · cases h
    · exact absurd (Except.error.inj (Prod.mk.inj h).1) hfault
  · rcases h with h | h <;> cases h
  · rename_i dir last slash hplace
    split at h
    · rcases h with h | h <;> cases h
    · rename_i hdot
      split at h
      · rcases h with h | h <;> cases h
      · rename_i hup
        obtain ⟨hloc, -⟩ := place_ok_name hplace (by simp [isName, hdot, hup])
        rcases h with h | h
        · refine .inr ⟨by simp [hloc], ?_⟩
          rw [hloc]
          exact (Prod.mk.inj h).2.symm
        · cases h

/-- After a directory has been removed, or was not there to remove, nothing is in it. -/
theorem nothing_in_removed (hp : p.Descends) (hne : p.code ≠ "")
    (h : t.removeDir cwd p = (.ok (), t') ∨ t.removeDir cwd p = (.error .absent, t'))
    (hl : below (p.location cwd) l = true) : t'.node? l = none := by
  obtain ⟨habove, -⟩ := below_iff.mp hl
  unfold removeDir at h
  split at h
  · rename_i fault hfind
    rcases h with h | h
    · cases h
    · obtain ⟨hfault, rfl⟩ := Prod.mk.inj h
      obtain rfl := Except.error.inj hfault
      exact nothing_below (absent_of_find hp hne hfind) habove
  · rcases h with h | h <;> cases h
  · rename_i dir hfind
    obtain ⟨rfl, -⟩ := find_ok hfind
    have hcleared : (t.clear (p.location cwd)).node? l = none := by
      rw [node?_clear, if_pos hl]
    rcases removeEmptyDir_ok h with rfl | ⟨hroot, rfl⟩
    · exact hcleared
    · rw [node?_remove hroot, if_pos (within_iff.mpr habove)]

/-- A directory that has been made anew is there and empty, unless its path is empty. -/
theorem emptyDirAt_of_resetDir (hp : p.Descends) (hne : p.code ≠ "")
    (hok : (t.resetDir cwd p).1 = .ok ()) :
    p.Fits ∧ (t.resetDir cwd p).2.EmptyDirAt (p.location cwd) := by
  obtain ⟨left, hremoved, hmake⟩ : ∃ left,
      (t.removeDir cwd p = (.ok (), left) ∨ t.removeDir cwd p = (.error .absent, left)) ∧
        t.resetDir cwd p = left.makeDirs cwd p := by
    rw [resetDir_eq] at hok ⊢
    split at hok
    · rename_i left hremove
      exact ⟨left, .inl hremove, rfl⟩
    · rename_i left hremove
      exact ⟨left, .inr hremove, rfl⟩
    · cases hok
  rw [hmake] at hok ⊢
  obtain ⟨hfits, hdir⟩ := makeDirs_ok hne (Prod.ext hok rfl)
  have hmade : SameBut (fun _ => False) (p.OnWay cwd) left (left.makeDirs cwd p).2 :=
    makeDirs_sameBut cwd p left
  refine ⟨hfits, hdir, fun m hm => ?_⟩
  -- directories are made on the way only
  rw [hmade.node?_eq id fun hway => ?_, nothing_in_removed hp hne hremoved hm]
  obtain ⟨hin, hdeeper⟩ := below_iff.mp hm
  have habove := within_iff.mp (LocalPath.within_of_onWay hp hway)
  exact hdeeper (habove.eq_of_length_le hin.length_le)

/-! ## §3 Opening -/

section EndsIn

variable (h : p.EndsIn cwd here name) (hp : p.Descends)
include h hp

/-- A file can be opened exactly in a directory that is there and not in the place of
another, by a path that fits. -/
theorem openNew_iff : t.openNew cwd p = .ok l ↔
    p.Fits ∧ t.node? here = some .dir ∧ t.node? (name :: here) ≠ some .dir ∧ l = name :: here := by
  refine ⟨fun hopen => ?_, fun ⟨hfits, hdir, hfree, hl⟩ => ?_⟩
  · obtain ⟨rfl, hadmits⟩ := openNew_ok hopen
    obtain ⟨-, hdir, hfree⟩ := hadmits .empty
    rw [h.location hp] at hdir hfree
    exact ⟨fits_of_openNew hopen, hdir, hfree.resolve_left (by simp), h.location hp⟩
  · rw [hl]
    exact openNew_of_dir h ⟨hp, hfits⟩ hdir hfree

/-- Something is found exactly where it is, by a path that fits. -/
theorem find_iff {node : Node} : t.find cwd p = .ok (l, node) ↔
    p.Fits ∧ t.node? (name :: here) = some node ∧ l = name :: here := by
  refine ⟨fun hfind => ?_, fun ⟨hfits, hnode, hl⟩ => ?_⟩
  · obtain ⟨rfl, hnode⟩ := find_ok hfind
    rw [h.location hp] at hnode
    exact ⟨fits_of_find hfind, hnode, h.location hp⟩
  · rw [hl]
    exact find_of_node h ⟨hp, hfits⟩ hnode

/-! ## §4 Again -/

/-- A directory that has been made anew is there, and nothing is in it. -/
theorem resetDir_ok (hok : t.resetDir cwd p = (.ok (), t')) :
    p.Fits ∧ t'.node? (name :: here) = some .dir ∧
      ∀ l, name :: here <:+ l → l ≠ name :: here → t'.node? l = none := by
  obtain ⟨hfits, hempty⟩ := emptyDirAt_of_resetDir hp h.code_ne (congrArg Prod.fst hok)
  rw [hok, h.location hp] at hempty
  obtain ⟨hdir, hnothing⟩ := hempty
  exact ⟨hfits, hdir, fun l hl hne => hnothing l (below_iff.mpr ⟨hl, hne⟩)⟩

/-- A directory that is there can be made anew. -/
theorem resetDir_of_dir (hfits : p.Fits) (hdir : t.node? (name :: here) = some .dir) :
    ∃ left, t.resetDir cwd p = (.ok (), left) ∧
      ∀ l, left.node? l = if name :: here <:+ l ∧ l ≠ name :: here then none else t.node? l := by
  have hstart : t.node? (start cwd p) = some .dir := by
    refine dir_above hdir ?_
    rw [← h.location hp, LocalPath.location_eq]
    exact suffix_foldl_follow (LocalPath.descends_iff.mp hp) _
  obtain ⟨left, hreset, hleft⟩ := resetDir_of_passable h ⟨hp, hfits⟩ hstart (passable_of_dir hdir)
  refine ⟨left, hreset, fun l => ?_⟩
  rw [hleft l]
  by_cases habove : l <:+ name :: here
  · have hnot : ¬ (name :: here <:+ l ∧ l ≠ name :: here) := fun ⟨hin, hne⟩ =>
      hne (habove.eq_of_length_le hin.length_le)
    rw [if_pos habove, if_neg hnot, dir_above hdir habove]
  · have hne : l ≠ name :: here := fun e => habove (e ▸ List.suffix_rfl)
    simp [habove, hne]

/-- A file that has been written can be written again, and that changes nothing. -/
theorem writeWithDirs_again {contents : Contents}
    (hok : t.writeWithDirs cwd p contents = (.ok (), t')) :
    t'.writeWithDirs cwd p contents = (.ok (), t') := by
  have hnode : t'.node? (name :: here) = some (.file contents) := by
    have hwritten := node?_of_writeWithDirs (congrArg Prod.fst hok)
    rwa [hok, h.location hp] at hwritten
  have hdir : t'.node? here = some .dir := node?_parent (by rw [hnode]; exact Option.some_ne_none _)
  have hfree : t'.node? (name :: here) ≠ some .dir := by simp [hnode]
  rw [writeWithDirs_of_dir h ⟨hp, fits_of_writeWithDirs hok⟩ hdir hfree]
  have hsame : t'.put (name :: here) (.file contents) = t' := by
    apply ext
    intro l
    rw [node?_put ⟨by simp, hdir, .inr hfree⟩]
    split
    · rename_i hl
      rw [hl, hnode]
    · rfl
  rw [hsame]

/-- A file that has been written in a directory that is there has not taken the place
of a directory. -/
theorem free_of_writeWithDirs {contents : Contents} (hdir : t.node? here = some .dir)
    (hok : t.writeWithDirs cwd p contents = (.ok (), t')) :
    t.node? (name :: here) ≠ some .dir := by
  have hwrite : ∀ left : FileTree, left = t →
      writeAlone cwd p contents left = (.ok (), t') →
        t.node? (name :: here) ≠ some .dir := by
    rintro left rfl hleft
    unfold writeAlone writeFile at hleft
    cases hopen : left.openNew cwd p with
    | error fault => simp [hopen] at hleft
    | ok l => exact ((openNew_iff h hp).mp hopen).2.2.1
  obtain ⟨q, hq, hloc, -, -⟩ := LocalPath.parent_of_endsIn h hp
  have hready := makeDirs_tree_of_dir (LocalPath.descends_parent hq hp) (hloc.symm ▸ hdir)
  rw [writeWithDirs_eq] at hok
  rw [hq] at hok
  dsimp only at hok
  split at hok
  · exact hwrite t rfl hok
  · split at hok
    · cases hok
    · rename_i left hmake
      rw [hmake] at hready
      exact hwrite left hready hok

section Source

variable {there : Location} {other : String} {source : LocalPath}
  (hs : source.EndsIn cwd there other) (hsource : source.Descends)
include hs hsource

/-- When a copy succeeds, and what it leaves: an empty file if the source is copied
onto itself. -/
theorem copyFile_iff : t.copyFile cwd source p = .ok t' ↔
    source.Fits ∧ p.Fits ∧ t.node? here = some .dir ∧ t.node? (name :: here) ≠ some .dir ∧
      ∃ contents, t.node? (other :: there) = some (.file contents) ∧
        t' = t.put (name :: here)
          (.file (if name :: here = other :: there then .empty else contents)) := by
  unfold copyFile
  constructor
  · intro hcopy
    split at hcopy
    · cases hcopy
    · cases hcopy
    · rename_i l contents hfind
      split at hcopy
      · cases hcopy
      · rename_i m hopen
        obtain ⟨hfits, hnode, rfl⟩ := (find_iff hs hsource).mp hfind
        obtain ⟨hfits', hdir, hfree, rfl⟩ := (openNew_iff h hp).mp hopen
        exact ⟨hfits, hfits', hdir, hfree, contents, hnode, (Except.ok.inj hcopy).symm⟩
  · rintro ⟨hfits, hfits', hdir, hfree, contents, hnode, rfl⟩
    rw [(find_iff hs hsource).mpr ⟨hfits, hnode, rfl⟩]
    dsimp only
    rw [(openNew_iff h hp).mpr ⟨hfits', hdir, hfree, rfl⟩]

/-- When an archive is written, and what it holds: only its own start if the source is
packed into itself. -/
theorem writeArchive_iff {entry : String} :
    (∃ size, t.writeArchive cwd source entry p = (.ok size, t')) ↔
    source.Fits ∧ p.Fits ∧ t.node? here = some .dir ∧ t.node? (name :: here) ≠ some .dir ∧
      ∃ contents, t.node? (other :: there) = some (.file contents) ∧
        t' = t.put (name :: here) (.file (.archive entry
          (if name :: here = other :: there then .begun entry else contents))) := by
  unfold writeArchive
  constructor
  · rintro ⟨size, hpack⟩
    split at hpack
    · cases hpack
    · rename_i l node hfind
      split at hpack
      · cases hpack
      · rename_i m hopen
        obtain ⟨hfits, hnode, rfl⟩ := (find_iff hs hsource).mp hfind
        obtain ⟨hfits', hdir, hfree, rfl⟩ := (openNew_iff h hp).mp hopen
        cases node with
        | dir => cases hpack
        | file contents =>
          exact ⟨hfits, hfits', hdir, hfree, contents, hnode, (Prod.mk.inj hpack).2.symm⟩
  · rintro ⟨hfits, hfits', hdir, hfree, contents, hnode, rfl⟩
    rw [(find_iff hs hsource).mpr ⟨hfits, hnode, rfl⟩]
    dsimp only
    rw [(openNew_iff h hp).mpr ⟨hfits', hdir, hfree, rfl⟩]
    exact ⟨_, rfl⟩

end Source

end EndsIn

end FileTree

/-! ## §5 Alike -/

namespace FileTree

variable {s s' t t' : FileTree} {l : Location} {contents : Contents}

/-- A tree with the same directories as another, and a file wherever that has one. -/
structure Covers (s t : FileTree) : Prop where
  dirs : ∀ l, s.node? l = some .dir ↔ t.node? l = some .dir
  files : ∀ l contents, t.node? l = some (.file contents) →
    ∃ other, s.node? l = some (.file other)

theorem Covers.refl (t : FileTree) : t.Covers t :=
  ⟨fun _ => .rfl, fun _ contents h => ⟨contents, h⟩⟩

theorem Covers.trans {r : FileTree} (h : r.Covers s) (h' : s.Covers t) : r.Covers t := by
  refine ⟨fun l => (h.dirs l).trans (h'.dirs l), fun l contents hl => ?_⟩
  obtain ⟨other, hother⟩ := h'.files l contents hl
  exact h.files l other hother

theorem Covers.admits (h : s.Covers t) (hadmits : t.Admits l (.file contents)) :
    s.Admits l (.file contents) := by
  obtain ⟨hl, hdir, hfree⟩ := hadmits
  exact ⟨hl, (h.dirs _).mpr hdir, hfree.imp_right (mt (h.dirs l).mp)⟩

/-- Two trees change alike: both stay as they are, or both get one file. -/
def ChangeAlike (s t s' t' : FileTree) : Prop :=
  (s' = s ∧ t' = t) ∨ ∃ l contents, t.Admits l (.file contents) ∧
    s' = s.put l (.file contents) ∧ t' = t.put l (.file contents)

theorem ChangeAlike.put (h : t.Admits l (.file contents)) :
    ChangeAlike s t (s.put l (.file contents)) (t.put l (.file contents)) :=
  .inr ⟨l, contents, h, rfl, rfl⟩

namespace ChangeAlike

variable (hchange : ChangeAlike s t s' t') (hcovers : s.Covers t)
include hchange hcovers

/-- What was not changed is as it was, and all else is alike. -/
theorem node?_cases (l : Location) :
    s'.node? l = t'.node? l ∨ (s'.node? l = s.node? l ∧ t'.node? l = t.node? l) := by
  rcases hchange with ⟨rfl, rfl⟩ | ⟨m, contents, hadmits, rfl, rfl⟩
  · exact .inr ⟨rfl, rfl⟩
  · rw [node?_put hadmits, node?_put (hcovers.admits hadmits)]
    split
    · exact .inl rfl
    · exact .inr ⟨rfl, rfl⟩

/-- Where they were alike they still are. -/
theorem node?_eq {l : Location} (h : s.node? l = t.node? l) : s'.node? l = t'.node? l := by
  rcases hchange.node?_cases hcovers l with heq | ⟨hs, ht⟩
  · exact heq
  · rw [hs, ht, h]

omit hcovers in
/-- No directory is made or lost, and no file is lost. -/
theorem covers_start : t'.Covers t := by
  rcases hchange with ⟨-, rfl⟩ | ⟨m, contents, hadmits, -, rfl⟩
  · exact .refl t'
  · have hput := node?_put hadmits
    have hfree := hadmits.2.2.resolve_left (by simp)
    refine ⟨fun l => ?_, fun l other hl => ?_⟩
    · rw [hput]
      by_cases hm : l = m
      · simp [hm, hfree]
      · rw [if_neg hm]
    · rw [hput]
      by_cases hm : l = m
      · exact ⟨contents, if_pos hm⟩
      · exact ⟨other, by rw [if_neg hm, hl]⟩

theorem covers : s'.Covers t' := by
  have hstart : s'.Covers s ∧ t'.Covers t := by
    refine ⟨?_, hchange.covers_start⟩
    rcases hchange with ⟨rfl, -⟩ | ⟨m, contents, hadmits, rfl, -⟩
    · exact .refl s'
    · exact covers_start (s := s) (.put (hcovers.admits hadmits))
  refine ⟨fun l => ?_, fun l contents hl => ?_⟩
  · rw [hstart.1.dirs, hstart.2.dirs, hcovers.dirs]
  · rcases hchange.node?_cases hcovers l with heq | ⟨hs, ht⟩
    · exact ⟨contents, heq.trans hl⟩
    · rw [hs]
      exact hcovers.files l contents (ht.symm.trans hl)

end ChangeAlike

end FileTree

end ReleaseKit
