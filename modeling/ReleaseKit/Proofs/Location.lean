/-
ReleaseKit.Proofs.Location — operations have their effect where their path leads.

The file system follows a path piece by piece and looks at the tree only to refuse.
So whatever an operation finds, makes or writes at a path it finds, makes or writes
at the location of the path (`Proofs.Path`), in whatever tree. Everything that is
proved about what a release can touch rests on this.

  §1 Following  — `walk`, `find` and `place` lead nowhere else.
  §2 Changing   — neither do `makeDir` and `openNew`; how `makeDirsOf` can go (`MakesDirs`).
-/
import ReleaseKit.FileTree.Operations
import ReleaseKit.Proofs.Path

namespace ReleaseKit

/-! ## §1 Following -/

namespace FileTree

open Location

variable {t t' : FileTree} {cwd here l : Location} {p : LocalPath}

theorem stepTo_ok {piece : String} (h : stepTo here piece = .ok l) : l = follow here piece := by
  unfold stepTo at h
  unfold follow
  split at h
  · rename_i hp
    rw [if_pos hp]
    exact (Except.ok.inj h).symm
  · rename_i hp
    rw [if_neg hp]
    split at h
    · rename_i hup
      rw [if_pos hup]
      exact (Except.ok.inj h).symm
    · rename_i hup
      rw [if_neg hup]
      split at h
      · cases h
      · exact (Except.ok.inj h).symm

theorem walk_ok {pieces : List String} (h : t.walk here pieces = .ok l) :
    l = pieces.foldl follow here := by
  induction pieces generalizing here with
  | nil => exact (Except.ok.inj h).symm
  | cons piece rest ih =>
    unfold walk at h
    split at h
    · cases h
    · split at h
      · cases h
      · rename_i hs
        rw [List.foldl_cons, ← stepTo_ok hs]
        exact ih h

theorem walk_append (t : FileTree) (here : Location) (first rest : List String) :
    t.walk here (first ++ rest) =
      match t.walk here first with
      | .error fault => .error fault
      | .ok there => t.walk there rest := by
  induction first generalizing here with
  | nil => rfl
  | cons piece first ih =>
    simp only [List.cons_append, walk]
    split
    · rfl
    · split
      · rfl
      · exact ih _

theorem resolve_ok (h : t.resolve cwd p = .ok l) : l = p.location cwd := by
  unfold resolve at h
  split at h
  · cases h
  · rw [LocalPath.location_eq]
    exact walk_ok h

/-- What a path finds is at its location. -/
theorem find_ok {node : Node} (h : t.find cwd p = .ok (l, node)) :
    l = p.location cwd ∧ t.node? (p.location cwd) = some node := by
  unfold find at h
  split at h
  · cases h
  · rename_i m hm
    have hl := resolve_ok hm
    split at h
    · rename_i found hf
      cases h
      exact ⟨hl, hl ▸ hf⟩
    · cases h

theorem needDir_ok (h : t.needDir l = .ok ()) : t.node? l = some .dir := by
  unfold needDir at h
  split at h
  · assumption
  · cases h
  · cases h

theorem needDir_of_dir (h : t.node? l = some .dir) : t.needDir l = .ok () := by
  simp [needDir, h]

/-- The pieces of a path up to its last that is not empty lead where the path
leads. -/
theorem foldl_follow_dropBlank (pieces : List String) (here : Location) :
    (pieces.reverse.dropWhile (· == "")).reverse.foldl follow here =
      pieces.foldl follow here := by
  have hsplit : pieces =
      (pieces.reverse.dropWhile (· == "")).reverse ++
        (pieces.reverse.takeWhile (· == "")).reverse := by
    rw [← List.reverse_append, List.takeWhile_append_dropWhile, List.reverse_reverse]
  have hblank : ∀ piece ∈ (pieces.reverse.takeWhile (· == "")).reverse, piece = "" := by
    intro piece hp
    simpa using List.mem_takeWhile_imp (List.mem_reverse.mp hp)
  calc (pieces.reverse.dropWhile (· == "")).reverse.foldl follow here
      = (pieces.reverse.takeWhile (· == "")).reverse.foldl follow
          ((pieces.reverse.dropWhile (· == "")).reverse.foldl follow here) :=
        (foldl_follow_of_blank hblank _).symm
    _ = pieces.foldl follow here := by rw [← List.foldl_append, ← hsplit]

/-- Everything that is known of a path whose last piece can be looked for. -/
theorem place_inv {dir : Location} {last : String} {slash : Bool}
    (h : t.place cwd p = .ok ⟨dir, some last, slash⟩) :
    p.check = .ok () ∧ t.node? dir = some .dir ∧ (slash = (p.pieces.getLast? == some "")) ∧
      ∃ before, p.pieces.reverse.dropWhile (· == "") = last :: before ∧
        t.walk (start cwd p) before.reverse = .ok dir := by
  unfold place at h
  split at h
  · cases h
  rename_i hcheck
  split at h
  · cases h
  rename_i found before hrev
  split at h
  · cases h
  rename_i m hm
  split at h
  · cases h
  rename_i hdir
  cases h
  exact ⟨hcheck, needDir_ok hdir, rfl, before, hrev, hm⟩

/-- Where the last piece of a path is looked for, and what it then leads to. -/
theorem place_ok {dir : Location} {last : String} {slash : Bool}
    (h : t.place cwd p = .ok ⟨dir, some last, slash⟩) :
    last ≠ "" ∧ p.location cwd = follow dir last ∧ t.node? dir = some .dir := by
  obtain ⟨-, hdir, -, before, hrev, hwalk⟩ := place_inv h
  refine ⟨?_, ?_, hdir⟩
  · have := List.head?_dropWhile_not (· == "") p.pieces.reverse
    rw [hrev] at this
    simpa using this
  · unfold LocalPath.location
    rw [← foldl_follow_dropBlank, hrev, List.reverse_cons, List.foldl_append, ← walk_ok hwalk]
    rfl

/-- Where the last piece of a path is a name, it names the path's location. -/
theorem place_ok_name {dir : Location} {last : String} {slash : Bool}
    (h : t.place cwd p = .ok ⟨dir, some last, slash⟩) (hn : isName last = true) :
    p.location cwd = last :: dir ∧ t.node? dir = some .dir := by
  obtain ⟨h₀, hl, hd⟩ := place_ok h
  have hn' : last ≠ "." ∧ last ≠ ".." := by simpa [isName] using hn
  exact ⟨hl.trans (follow_name h₀ hn'.1 hn'.2), hd⟩

/-! ## §2 Changing -/

/-- A directory is made at the location of its path, where nothing was. -/
theorem makeDir_ok (h : t.makeDir cwd p = .ok t') :
    t' = t.put (p.location cwd) .dir ∧ t.node? (p.location cwd) = none ∧
      t.Admits (p.location cwd) .dir := by
  unfold makeDir at h
  split at h
  · cases h
  · cases h
  · rename_i dir last slash hp
    split at h
    · cases h
    · rename_i hn
      split at h
      · cases h
      · split at h
        · cases h
        · rename_i hnone
          obtain ⟨hl, hd⟩ := place_ok_name hp (by simpa using hn)
          rw [hl]
          exact ⟨(Except.ok.inj h).symm, hnone, by simp, hd, .inl rfl⟩

/-- The tree in which the first of some paths is tried for the last time: as it was, or, if
something was missing in it, with the other paths made. -/
def LastTried (cwd : Location) (p : LocalPath) (above : List LocalPath) (t r : FileTree) : Prop :=
  (r = t ∧ t.makeDir cwd p ≠ .error .absent) ∨
    (t.makeDir cwd p = .error .absent ∧ makeDirsOf cwd above t = (.ok (), r))

/-- How it can go to make the first of some paths. -/
inductive MakesDirs (cwd : Location) (p : LocalPath) (above : List LocalPath) (t : FileTree) :
    Except Fault Unit → FileTree → Prop
  | nothing (hempty : p.isEmpty = true) : MakesDirs cwd p above t (.ok ()) t
  | stuck {fault : Fault} {left : FileTree} (hmissing : t.makeDir cwd p = .error .absent)
      (hfail : makeDirsOf cwd above t = (.error fault, left)) :
      MakesDirs cwd p above t (.error fault) left
  | made {r left : FileTree} (htried : LastTried cwd p above t r)
      (hmake : r.makeDir cwd p = .ok left) : MakesDirs cwd p above t (.ok ()) left
  | found {r : FileTree} {fault : Fault} (htried : LastTried cwd p above t r)
      (hfail : r.makeDir cwd p = .error fault) (hdir : r.isDir cwd p = true) :
      MakesDirs cwd p above t (.ok ()) r
  | refused {r : FileTree} {fault : Fault} (htried : LastTried cwd p above t r)
      (hfail : r.makeDir cwd p = .error fault) (hdir : r.isDir cwd p = false) :
      MakesDirs cwd p above t (.error fault) r

/-- A path that could not be made is found, or refused. -/
theorem MakesDirs.of_fail {above : List LocalPath} {r : FileTree} {fault : Fault}
    (htried : LastTried cwd p above t r) (hfail : r.makeDir cwd p = .error fault) :
    MakesDirs cwd p above t (if r.isDir cwd p then .ok () else .error fault) r := by
  cases hdir : r.isDir cwd p with
  | true => exact .found htried hfail hdir
  | false => exact .refused htried hfail hdir

theorem makesDirs_of_eq {above : List LocalPath} {result : Except Fault Unit} {left : FileTree}
    (h : makeDirsOf cwd (p :: above) t = (result, left)) :
    MakesDirs cwd p above t result left := by
  rw [makeDirsOf_cons] at h
  split at h
  · next hempty =>
    obtain ⟨rfl, rfl⟩ := Prod.mk.inj h
    exact .nothing hempty
  · split at h
    · next made hmake =>
      obtain ⟨rfl, rfl⟩ := Prod.mk.inj h
      exact .made (.inl ⟨rfl, by rw [hmake]; nofun⟩) hmake
    · next hmissing =>
      split at h
      · next fault middle hfail =>
        obtain ⟨rfl, rfl⟩ := Prod.mk.inj h
        exact .stuck hmissing hfail
      · next middle hdone =>
        split at h
        · next made hmake =>
          obtain ⟨rfl, rfl⟩ := Prod.mk.inj h
          exact .made (.inr ⟨hmissing, hdone⟩) hmake
        · next fault hfail =>
          obtain ⟨rfl, rfl⟩ := Prod.mk.inj h
          exact .of_fail (.inr ⟨hmissing, hdone⟩) hfail
    · next fault hother hfail =>
      obtain ⟨rfl, rfl⟩ := Prod.mk.inj h
      have hpresent : t.makeDir cwd p ≠ .error .absent := fun hmissing =>
        hother (Except.error.inj (hfail.symm.trans hmissing))
      exact .of_fail (.inl ⟨rfl, hpresent⟩) hfail

/-- Everything that is known of a path at which a file can be opened. -/
theorem openNew_inv (h : t.openNew cwd p = .ok l) :
    ∃ dir last, t.place cwd p = .ok ⟨dir, some last, false⟩ ∧ isName last = true ∧
      (OsText.mk last).size ≤ longestName ∧ t.node? (last :: dir) ≠ some .dir ∧ l = last :: dir := by
  unfold openNew at h
  split at h
  · cases h
  · cases h
  rename_i dir last slash hplace
  split at h
  · cases h
  rename_i hname
  split at h
  · cases h
  rename_i hsize
  split at h
  · cases h
  rename_i hdir
  obtain ⟨hn, rfl⟩ : isName last = true ∧ slash = false := by simpa using hname
  exact ⟨dir, last, hplace, hn, by omega, hdir, (Except.ok.inj h).symm⟩

/-- A file is opened at the location of its path, in a directory and not in the
place of one. -/
theorem openNew_ok (h : t.openNew cwd p = .ok l) :
    l = p.location cwd ∧ ∀ contents, t.Admits (p.location cwd) (.file contents) := by
  obtain ⟨dir, last, hplace, hname, -, hnd, rfl⟩ := openNew_inv h
  obtain ⟨hl, hd⟩ := place_ok_name hplace hname
  rw [hl]
  exact ⟨rfl, fun _ => ⟨by simp, hd, .inr hnd⟩⟩

/-- A walk is as good in a tree that has the same directories and more. -/
theorem walk_of_dirs {pieces : List String}
    (hdirs : ∀ m, t.node? m = some .dir → t'.node? m = some .dir)
    (h : t.walk here pieces = .ok l) : t'.walk here pieces = .ok l := by
  induction pieces generalizing here with
  | nil => exact h
  | cons piece rest ih =>
    unfold walk at h ⊢
    split at h
    · cases h
    · rename_i hdir
      rw [needDir_of_dir (hdirs _ (needDir_ok hdir))]
      dsimp only
      split at h
      · cases h
      · rename_i there hs
        exact ih h

/-- A file that has been opened is found, once there is something at its
location. -/
theorem find_of_openNew {node : Node} (hopen : t.openNew cwd p = .ok l)
    (hdirs : ∀ m, t.node? m = some .dir → t'.node? m = some .dir)
    (hnode : t'.node? l = some node) : t'.find cwd p = .ok (l, node) := by
  obtain ⟨dir, last, hplace, hname, hsize, -, rfl⟩ := openNew_inv hopen
  obtain ⟨hcheck, hdir, hslash, before, hrev, hwalk⟩ := place_inv hplace
  obtain ⟨hlast, -, -⟩ := place_ok hplace
  have hpieces : p.pieces = before.reverse ++ [last] := by
    have hend : p.pieces.reverse.head? ≠ some "" := by simpa using hslash
    rw [← List.reverse_inj, ← List.dropWhile_beq_eq_self_of_head?_ne hend, hrev]
    simp
  have hstep : stepTo dir last = .ok (last :: dir) := by
    have hn : last ≠ "." ∧ last ≠ ".." := by simpa [isName] using hname
    simp [stepTo, hlast, hn, Nat.not_lt.mpr hsize]
  have hresolve : t'.resolve cwd p = .ok (last :: dir) := by
    unfold resolve
    rw [hcheck, hpieces]
    dsimp only
    rw [walk_append, walk_of_dirs hdirs hwalk]
    dsimp only
    unfold walk
    rw [needDir_of_dir (hdirs _ hdir), hstep]
    rfl
  unfold find
  rw [hresolve]
  simp [hnode]

/-- What is put into a file that has been opened is what is read from it. -/
theorem read_put_of_openNew (hopen : t.openNew cwd p = .ok l) (contents : Contents) :
    (t.put l (.file contents)).read cwd p = .ok contents := by
  obtain ⟨rfl, hadmits⟩ := openNew_ok hopen
  have hput := node?_put (hadmits contents)
  have hdirs : ∀ m, t.node? m = some .dir →
      (t.put (p.location cwd) (.file contents)).node? m = some .dir := by
    intro m hm
    have hne : m ≠ p.location cwd := by
      rintro rfl
      exact (hadmits contents).2.2.elim (by simp) (fun h => h hm)
    rw [hput, if_neg hne, hm]
  unfold read
  rw [find_of_openNew hopen hdirs (by rw [hput, if_pos rfl])]

end FileTree

end ReleaseKit
