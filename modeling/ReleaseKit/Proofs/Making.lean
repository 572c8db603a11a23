/-
ReleaseKit.Proofs.Making — when paths can be followed and things can be made.

Where an operation has its effect is known (`Proofs.Location`); here is when it
has one. A path that fits the system and does not go up can be followed as soon as
there is a directory where it leads, since then there are directories all the way.
Directories can be made as soon as nothing on the way is a file: what is on the
way is a directory or missing, and what is missing is made from the top down.

  §1 Trees        — everything above something is a directory.
  §2 Following    — `walk`, `find` and `place` succeed.
  §3 Directories  — `makeDirs_of_passable`, `resetDir_of_passable`.
  §4 Files        — writing, copying and packing into a directory that is there.
-/
import ReleaseKit.Execution
import ReleaseKit.Proofs.Location

namespace ReleaseKit

open Location

/-! ## §1 Trees -/

namespace FileTree

variable {t : FileTree} {l m : Location}

/-- Everything above a directory is a directory. -/
theorem dir_above (h : t.node? l = some .dir) (hm : m <:+ l) : t.node? m = some .dir := by
  induction l with
  | nil =>
    obtain rfl := List.suffix_nil.mp hm
    exact h
  | cons name here ih =>
    rcases List.suffix_cons_iff.mp hm with rfl | hm
    · exact h
    · exact ih (node?_parent (by rw [h]; exact Option.some_ne_none _)) hm

/-- Where nothing is, nothing is below. -/
theorem nothing_below (h : t.node? m = none) (hm : m <:+ l) : t.node? l = none := by
  induction l with
  | nil =>
    obtain rfl := List.suffix_nil.mp hm
    exact h
  | cons name here ih =>
    rcases List.suffix_cons_iff.mp hm with rfl | hm
    · exact h
    · by_contra hl
      have hdir := node?_parent hl
      rw [ih hm] at hdir
      cases hdir

/-- Nothing on the way to a location, nor at it, is a file. -/
def Passable (t : FileTree) (l : Location) : Prop :=
  ∀ m, m <:+ l → t.node? m = none ∨ t.node? m = some .dir

theorem Passable.above (h : t.Passable l) (hm : m <:+ l) : t.Passable m :=
  fun n hn => h n (hn.trans hm)

theorem passable_of_dir (h : t.node? l = some .dir) : t.Passable l :=
  fun _ hm => .inr (dir_above h hm)

/-! ## §2 Following -/

variable {cwd here : Location} {p : LocalPath} {name : String}

/-- Pieces that do not go up lead to something below. -/
theorem suffix_foldl_follow {pieces : List String} (h : ".." ∉ pieces) (here : Location) :
    here <:+ pieces.foldl follow here := by
  rw [LocalPath.foldl_follow_of_descending h]
  exact List.suffix_append _ _

/-- A piece that is a name or stays is followed if it is not too long. -/
theorem stepTo_of_short {piece : String} (hup : piece ≠ "..")
    (hshort : (OsText.mk piece).size ≤ longestName) :
    stepTo here piece = .ok (follow here piece) := by
  unfold stepTo follow
  split
  · rfl
  · simp [Nat.not_lt.mpr hshort]

/-- Pieces can be followed to a directory, and to anything in one. -/
theorem walk_of_dir {pieces : List String} (hup : ".." ∉ pieces)
    (hshort : ∀ piece ∈ pieces, (OsText.mk piece).size ≤ longestName)
    (hdir : t.node? (pieces.foldl follow here) = some .dir) :
    t.walk here pieces = .ok (pieces.foldl follow here) := by
  induction pieces generalizing here with
  | nil => rfl
  | cons piece rest ih =>
    have hhere : t.node? here = some .dir := dir_above hdir (suffix_foldl_follow hup here)
    simp only [List.mem_cons, not_or] at hup
    unfold walk
    rw [needDir_of_dir hhere, stepTo_of_short (Ne.symm hup.1) (hshort piece (by simp))]
    exact ih hup.2 (fun p hp => hshort p (by simp [hp])) hdir

/-- Following pieces where no file is in the way fails only where something is
missing. -/
theorem walk_of_passable {pieces : List String} (hup : ".." ∉ pieces)
    (hshort : ∀ piece ∈ pieces, (OsText.mk piece).size ≤ longestName)
    (hpass : t.Passable (pieces.foldl follow here)) :
    t.walk here pieces = .ok (pieces.foldl follow here) ∨ t.walk here pieces = .error .absent := by
  induction pieces generalizing here with
  | nil => exact .inl rfl
  | cons piece rest ih =>
    have hsuffix := suffix_foldl_follow hup here
    simp only [List.mem_cons, not_or] at hup
    unfold walk
    rcases hpass here hsuffix with hnone | hdir
    · exact .inr (by simp [needDir, hnone])
    · rw [needDir_of_dir hdir, stepTo_of_short (Ne.symm hup.1) (hshort piece (by simp))]
      exact ih hup.2 (fun p hp => hshort p (by simp [hp])) hpass

/-- A path that leads to a directory finds it. -/
theorem find_of_dir (hp : p.Usable) (hne : p.code ≠ "")
    (hdir : t.node? (p.location cwd) = some .dir) :
    t.find cwd p = .ok (p.location cwd, .dir) := by
  have hwalk : t.walk (start cwd p) p.pieces = .ok (p.location cwd) := by
    rw [LocalPath.location_eq] at hdir ⊢
    exact walk_of_dir (LocalPath.descends_iff.mp hp.descends) hp.fits.names_short hdir
  unfold find resolve
  rw [LocalPath.check_ok hp.fits hne]
  simp only [hwalk, hdir]

section EndsIn

variable (h : p.EndsIn cwd here name) (hp : p.Usable)
include h hp

theorem name_ne_of_endsIn : name ≠ "" ∧ name ≠ "." ∧ name ≠ ".." ∧
    (OsText.mk name).size ≤ longestName := by
  obtain ⟨stem, hpieces, -, hname⟩ := h
  have hmem : name ∈ p.pieces := by simp [hpieces]
  have hname' : name ≠ "" ∧ name ≠ "." := by simpa [LocalPath.isStep] using hname
  refine ⟨hname'.1, hname'.2, ?_, hp.fits.names_short name hmem⟩
  rintro rfl
  exact LocalPath.descends_iff.mp hp.descends hmem

/-- What stands before the last name of a path is followed where no file is in the
way, as far as there are directories. -/
theorem walk_stem (hpass : t.Passable here) :
    ∃ stem, p.pieces = stem ++ [name] ∧
      (t.walk (start cwd p) stem = .ok here ∨ t.walk (start cwd p) stem = .error .absent) ∧
      (t.node? here = some .dir → t.walk (start cwd p) stem = .ok here) := by
  obtain ⟨stem, hpieces, rfl, -⟩ := h
  have hup : ".." ∉ stem := fun hmem =>
    LocalPath.descends_iff.mp hp.descends (by simp [hpieces, hmem])
  have hshort : ∀ piece ∈ stem, (OsText.mk piece).size ≤ longestName := fun piece hmem =>
    hp.fits.names_short piece (by simp [hpieces, hmem])
  exact ⟨stem, hpieces, walk_of_passable hup hshort hpass, walk_of_dir hup hshort⟩

/-- The last name of a path is looked for in the directory that the path leads to
before. -/
theorem place_of_dir (hdir : t.node? here = some .dir) :
    t.place cwd p = .ok ⟨here, some name, false⟩ := by
  obtain ⟨hempty, -, -, -⟩ := name_ne_of_endsIn h hp
  obtain ⟨stem, hpieces, -, hwalk⟩ := walk_stem h hp (passable_of_dir hdir)
  unfold place
  rw [LocalPath.check_ok hp.fits h.code_ne, hpieces]
  simp [hempty, hwalk hdir, needDir_of_dir hdir]

/-- Where that directory is missing there is no place to look. -/
theorem place_of_absent (hpass : t.Passable here) (hnone : t.node? here = none) :
    t.place cwd p = .error .absent := by
  obtain ⟨hempty, -, -, -⟩ := name_ne_of_endsIn h hp
  obtain ⟨stem, hpieces, hwalk, -⟩ := walk_stem h hp hpass
  unfold place
  rw [LocalPath.check_ok hp.fits h.code_ne, hpieces]
  rcases hwalk with hwalk | hwalk <;> simp [hempty, hwalk, needDir, hnone]

/-- A path finds what is at its location. -/
theorem find_of_node {node : Node} (hnode : t.node? (name :: here) = some node) :
    t.find cwd p = .ok (name :: here, node) := by
  obtain ⟨h₀, h₁, h₂, hshort⟩ := name_ne_of_endsIn h hp
  have hdir : t.node? here = some .dir := node?_parent (by rw [hnode]; exact Option.some_ne_none _)
  obtain ⟨stem, hpieces, -, hwalk⟩ := walk_stem h hp (passable_of_dir hdir)
  have hstep : stepTo here name = .ok (name :: here) := by
    rw [stepTo_of_short h₂ hshort, follow_name h₀ h₁ h₂]
  unfold find resolve
  rw [LocalPath.check_ok hp.fits h.code_ne, hpieces]
  dsimp only
  rw [walk_append, hwalk hdir]
  simp [walk, needDir_of_dir hdir, hstep, hnode]

/-- A path finds nothing where nothing is. -/
theorem find_of_absent (hpass : t.Passable here) (hnone : t.node? (name :: here) = none) :
    t.find cwd p = .error .absent := by
  obtain ⟨h₀, h₁, h₂, hshort⟩ := name_ne_of_endsIn h hp
  obtain ⟨stem, hpieces, hwalk, -⟩ := walk_stem h hp hpass
  have hstep : stepTo here name = .ok (name :: here) := by
    rw [stepTo_of_short h₂ hshort, follow_name h₀ h₁ h₂]
  unfold find resolve
  rw [LocalPath.check_ok hp.fits h.code_ne, hpieces]
  dsimp only
  rw [walk_append]
  rcases hwalk with hwalk | hwalk
  · rw [hwalk]
    rcases hpass here List.suffix_rfl with hhere | hhere
    · simp [walk, needDir, hhere]
    · simp [walk, needDir_of_dir hhere, hstep, hnone]
  · simp [hwalk]

/-- A file can be opened in a directory unless it would take the place of one. -/
theorem openNew_of_dir (hdir : t.node? here = some .dir)
    (hfree : t.node? (name :: here) ≠ some .dir) : t.openNew cwd p = .ok (name :: here) := by
  obtain ⟨-, h₁, h₂, hshort⟩ := name_ne_of_endsIn h hp
  unfold openNew
  rw [place_of_dir h hp hdir]
  simp [isName, h₁, h₂, Nat.not_lt.mpr hshort, hfree]

/-- A directory is made in one, unless its place is taken. -/
theorem makeDir_of_dir (hdir : t.node? here = some .dir) :
    t.makeDir cwd p =
      match t.node? (name :: here) with
      | some _ => .error .occupied
      | none => .ok (t.put (name :: here) .dir) := by
  obtain ⟨-, h₁, h₂, hshort⟩ := name_ne_of_endsIn h hp
  unfold makeDir
  rw [place_of_dir h hp hdir]
  cases hnode : t.node? (name :: here) <;>
    simp [isName, h₁, h₂, Nat.not_lt.mpr hshort, hnode]

end EndsIn

/-! ## §3 Directories -/

/-- `left` is `t` with directories all the way to a location. -/
def WayMade (l : Location) (t left : FileTree) : Prop :=
  ∀ m, left.node? m = if m <:+ l then some .dir else t.node? m

/-- To a directory nothing is to be made. -/
theorem wayMade_of_dir {l : Location} (h : t.node? l = some .dir) : WayMade l t t := by
  intro m
  split
  · rename_i hm
    exact dir_above h hm
  · rfl

/-- The last directory of the way is put where the way has been made before. -/
theorem WayMade.cons {left : FileTree} {here : Location} {name : String}
    (h : WayMade here t left) : WayMade (name :: here) t (left.put (name :: here) .dir) := by
  have hhere : left.node? here = some .dir := by rw [h here, if_pos List.suffix_rfl]
  have hadmits : left.Admits (name :: here) .dir := ⟨by simp, hhere, .inl rfl⟩
  have hput := node?_put hadmits
  intro m
  rw [hput m, h m]
  by_cases hm : m = name :: here
  · rw [if_pos hm, if_pos (hm ▸ List.suffix_rfl)]
  · have hiff : m <:+ name :: here ↔ m <:+ here := by
      rw [List.suffix_cons_iff, or_iff_right hm]
    rw [if_neg hm]
    simp only [hiff]

/-- A path without names leads to where it starts: nothing is to be made. -/
theorem makeDir_of_names_nil (hnames : p.names = []) (hp : p.Usable) (hne : p.code ≠ "")
    (hstart : t.node? (start cwd p) = some .dir) : t.makeDir cwd p = .error .occupied := by
  have hsilent : ∀ piece ∈ p.pieces, piece = "" ∨ piece = "." := by
    intro piece hmem
    have hstep := List.filter_eq_nil_iff.mp hnames piece hmem
    simpa [LocalPath.isStep, or_iff_not_imp_left] using hstep
  unfold makeDir place
  rw [LocalPath.check_ok hp.fits hne]
  dsimp only
  cases hrev : p.pieces.reverse.dropWhile (· == "") with
  | nil => rfl
  | cons last before =>
    have hmem : ∀ piece ∈ last :: before, piece ∈ p.pieces := fun piece hin =>
      List.mem_reverse.mp (List.dropWhile_subset _ (hrev ▸ hin))
    have hbefore : ∀ piece ∈ before.reverse, piece ∈ p.pieces := fun piece hin =>
      hmem piece (List.mem_cons_of_mem _ (List.mem_reverse.mp hin))
    have hlast : last = "." := by
      have hhead := List.head?_dropWhile_not (· == "") p.pieces.reverse
      rw [hrev] at hhead
      exact (hsilent last (hmem last (by simp))).resolve_left (by simpa using hhead)
    have hup : ".." ∉ before.reverse := fun hin =>
      LocalPath.descends_iff.mp hp.descends (hbefore _ hin)
    have hstay : before.reverse.foldl follow (start cwd p) = start cwd p := by
      rw [LocalPath.foldl_follow_of_descending hup, List.filter_eq_nil_iff.mpr fun piece hin => ?_]
      · rfl
      · exact List.filter_eq_nil_iff.mp hnames piece (hbefore piece hin)
    have hwalk := walk_of_dir hup (fun piece hin => hp.fits.names_short piece (hbefore piece hin))
      (hstay.symm ▸ hstart : t.node? (before.reverse.foldl follow (start cwd p)) = some .dir)
    rw [hstay] at hwalk
    simp [hwalk, needDir_of_dir hstart, hlast, isName]

section makeDirsOf

variable {above : List LocalPath} {left made : FileTree}

theorem makeDirsOf_of_occupied (hp : p.Usable) (hne : p.code ≠ "")
    (hdir : t.node? (p.location cwd) = some .dir) (hmake : t.makeDir cwd p = .error .occupied) :
    makeDirsOf cwd (p :: above) t = (.ok (), t) := by
  have hisDir : t.isDir cwd p = true := by simp [isDir, find_of_dir hp hne hdir]
  simp [makeDirsOf_cons, hmake, hisDir]

theorem makeDirsOf_of_made (hne : p.code ≠ "") (hmake : t.makeDir cwd p = .ok made) :
    makeDirsOf cwd (p :: above) t = (.ok (), made) := by
  simp [makeDirsOf_cons, LocalPath.isEmpty, hne, hmake]

theorem makeDirsOf_of_absent (hne : p.code ≠ "") (hmake : t.makeDir cwd p = .error .absent)
    (habove : makeDirsOf cwd above t = (.ok (), left)) (hagain : left.makeDir cwd p = .ok made) :
    makeDirsOf cwd (p :: above) t = (.ok (), made) := by
  simp [makeDirsOf_cons, LocalPath.isEmpty, hne, hmake, habove, hagain]

end makeDirsOf

/-- Making a directory makes the way to it. The induction is on how many names are
left: a parent has one less. -/
theorem makeDirsOf_ancestors {count : Nat} (hcount : p.names.length < count) (hp : p.Usable)
    (htrim : p.Trimmed) (hstart : t.node? (start cwd p) = some .dir)
    (hpass : t.Passable (p.location cwd)) :
    ∃ left, makeDirsOf cwd (p.ancestorsUpTo count) t = (.ok (), left) ∧
      WayMade (p.location cwd) t left := by
  induction count generalizing p with
  | zero => omega
  | succ count ih =>
    unfold LocalPath.ancestorsUpTo
    obtain hnames | ⟨q, name, hends, hq, hqstart, hqnames⟩ :=
      htrim.names_nil_or_parent hp.descends cwd
    · have hloc := LocalPath.location_of_names_nil hnames hp.descends cwd
      have hdir : t.node? (p.location cwd) = some .dir := by rw [hloc, hstart]
      refine ⟨t, ?_, wayMade_of_dir hdir⟩
      by_cases hne : p.code = ""
      · simp [makeDirsOf_cons, LocalPath.isEmpty, hne]
      · exact makeDirsOf_of_occupied hp hne hdir (makeDir_of_names_nil hnames hp hne hstart)
    · generalize hqloc : q.location cwd = here at hends
      have hloc := hends.location hp.descends
      have hne := hends.code_ne
      rw [hloc] at hpass ⊢
      have hpassHere := hpass.above (List.suffix_cons name here)
      rcases hpassHere here List.suffix_rfl with hnone | hdir
      · -- the parent is made first, and then the name in it
        obtain ⟨left, hleft, hway⟩ := ih (by omega) (LocalPath.usable_parent hq hp)
          (LocalPath.trimmed_parent hq) (hqstart ▸ hstart) (hqloc ▸ hpassHere)
        rw [hqloc] at hway
        have hhere : left.node? here = some .dir := by rw [hway here, if_pos List.suffix_rfl]
        have hfree : left.node? (name :: here) = none := by
          rw [hway, if_neg, nothing_below hnone (List.suffix_cons name here)]
          exact fun hs => absurd hs.length_le (by simp)
        have hagain := makeDir_of_dir hends hp hhere
        rw [hfree] at hagain
        have hmake : t.makeDir cwd p = .error .absent := by
          unfold makeDir
          rw [place_of_absent hends hp hpassHere hnone]
        refine ⟨left.put (name :: here) .dir, ?_, hway.cons⟩
        rw [hq]
        exact makeDirsOf_of_absent hne hmake hleft hagain
      · have hmake := makeDir_of_dir hends hp hdir
        rcases hpass (name :: here) List.suffix_rfl with hfree | hthere
        · rw [hfree] at hmake
          exact ⟨t.put (name :: here) .dir, makeDirsOf_of_made hne hmake,
            (wayMade_of_dir hdir).cons⟩
        · rw [hthere] at hmake
          exact ⟨t, makeDirsOf_of_occupied hp hne (hloc ▸ hthere) hmake, wayMade_of_dir hthere⟩

/-- **Directories can be made where no file is in the way.** -/
theorem makeDirs_of_passable (hp : p.Usable) (htrim : p.Trimmed)
    (hstart : t.node? (start cwd p) = some .dir) (hpass : t.Passable (p.location cwd)) :
    ∃ left, t.makeDirs cwd p = (.ok (), left) ∧ WayMade (p.location cwd) t left :=
  makeDirsOf_ancestors (Nat.lt_succ_of_le p.length_names_le) hp htrim hstart hpass

/-- To a directory that is there nothing is made. -/
theorem makeDirs_of_dir (hp : p.Usable) (htrim : p.Trimmed)
    (hdir : t.node? (p.location cwd) = some .dir) : t.makeDirs cwd p = (.ok (), t) := by
  have hstart : t.node? (start cwd p) = some .dir := by
    refine dir_above hdir ?_
    rw [LocalPath.location_eq]
    exact suffix_foldl_follow (LocalPath.descends_iff.mp hp.descends) _
  obtain ⟨left, hmake, hway⟩ := makeDirs_of_passable hp htrim hstart (passable_of_dir hdir)
  have hsame : left = t := by
    apply ext
    intro l
    rw [hway l]
    split
    · rename_i hl
      exact (dir_above hdir hl).symm
    · rfl
  rw [hmake, hsame]

/-- A directory that is there can be removed with all that is in it. -/
theorem removeDir_of_dir {here : Location} {name : String} (h : p.EndsIn cwd here name)
    (hp : p.Usable) (hdir : t.node? (name :: here) = some .dir) :
    ∃ gone, t.removeDir cwd p = (.ok (), gone) ∧
      ∀ l, gone.node? l = if name :: here <:+ l then none else t.node? l := by
  obtain ⟨-, h₁, h₂, -⟩ := name_ne_of_endsIn h hp
  have hhere : (t.clear (name :: here)).node? here = some .dir := by
    have hout : below (name :: here) here = false := by
      rw [Bool.eq_false_iff, ne_eq, below_iff]
      exact fun hs => absurd hs.1.length_le (by simp)
    rw [node?_clear, hout]
    exact dir_above hdir (List.suffix_cons name here)
  refine ⟨(t.clear (name :: here)).remove (name :: here), ?_, fun l => ?_⟩
  · unfold removeDir
    rw [find_of_node h hp hdir]
    dsimp only
    unfold removeEmptyDir
    rw [place_of_dir h hp hhere]
    simp [h₁, h₂]
  · rw [node?_remove (by simp), node?_clear]
    simp only [below, Bool.and_eq_true, within_iff]
    split
    · rfl
    · rename_i hout
      simp [hout]

/-- A directory can be made anew where no file is in the way; then nothing is in
it. -/
theorem resetDir_of_passable {here : Location} {name : String} (h : p.EndsIn cwd here name)
    (hp : p.Usable) (hstart : t.node? (start cwd p) = some .dir)
    (hpass : t.Passable (name :: here)) :
    ∃ left, t.resetDir cwd p = (.ok (), left) ∧
      ∀ l, left.node? l = if l <:+ name :: here then some .dir
        else if name :: here <:+ l then none else t.node? l := by
  have hloc := h.location hp.descends
  have htrim : p.Trimmed := h.trimmed
  have hshort : ¬ name :: here <:+ start cwd p := by
    obtain ⟨stem, hpieces, rfl, -⟩ := h
    have hup : ".." ∉ stem := fun hmem =>
      LocalPath.descends_iff.mp hp.descends (by simp [hpieces, hmem])
    intro hs
    have hlen := (hs.trans (suffix_foldl_follow hup _)).length_le
    rw [List.length_cons] at hlen
    omega
  rcases hpass (name :: here) List.suffix_rfl with hnone | hdir
  · have hremove : t.removeDir cwd p = (.error .absent, t) := by
      unfold removeDir
      rw [find_of_absent h hp (hpass.above (List.suffix_cons name here)) hnone]
    obtain ⟨left, hmake, hway⟩ := makeDirs_of_passable hp htrim hstart (hloc.symm ▸ hpass)
    refine ⟨left, by rw [resetDir_eq, hremove]; exact hmake, fun l => ?_⟩
    rw [hway l, hloc]
    split
    · rfl
    · split
      · rename_i hin
        exact nothing_below hnone hin
      · rfl
  · obtain ⟨gone, hremove, hgone⟩ := removeDir_of_dir h hp hdir
    have hstart' : gone.node? (start cwd p) = some .dir := by rw [hgone, if_neg hshort, hstart]
    have hpass' : gone.Passable (p.location cwd) := by
      rw [hloc]
      intro m hm
      rw [hgone]
      split
      · exact .inl rfl
      · exact hpass m hm
    obtain ⟨left, hmake, hway⟩ := makeDirs_of_passable hp htrim hstart' hpass'
    refine ⟨left, by rw [resetDir_eq, hremove]; exact hmake, fun l => ?_⟩
    rw [hway l, hloc, hgone]

/-! ## §4 Files -/

section Files

variable {here there : Location} {name other : String} {source : LocalPath} {contents : Contents}
variable (h : p.EndsIn cwd here name) (hp : p.Usable) (hdir : t.node? here = some .dir)
include h hp hdir

/-- The directory that a path is in need not be made if it is there. -/
theorem makeDirs_parent_of_dir : ∃ q, p.parent = some q ∧ t.makeDirs cwd q = (.ok (), t) := by
  obtain ⟨q, hq, hqloc, -, -⟩ := LocalPath.parent_of_endsIn h hp.descends
  exact ⟨q, hq, makeDirs_of_dir (LocalPath.usable_parent hq hp) (LocalPath.trimmed_parent hq)
    (hqloc ▸ hdir)⟩

/-- In the place of a directory no file is written. -/
theorem writeWithDirs_of_taken (htaken : t.node? (name :: here) = some .dir)
    (contents : Contents) :
    t.writeWithDirs cwd p contents = (.error (.io p .isDirectory), t) := by
  obtain ⟨q, hq, hmake⟩ := makeDirs_parent_of_dir h hp hdir
  have hopen : t.openNew cwd p = .error .isDirectory := by
    obtain ⟨-, h₁, h₂, hshort⟩ := name_ne_of_endsIn h hp
    unfold openNew
    rw [place_of_dir h hp hdir]
    simp [isName, h₁, h₂, Nat.not_lt.mpr hshort, htaken]
  have hwrite : writeAlone cwd p contents t = (.error (.io p .isDirectory), t) := by
    unfold writeAlone writeFile
    rw [hopen]
  rw [writeWithDirs_eq]
  rw [hq]
  dsimp only
  rw [hmake]
  split <;> exact hwrite

variable (hfree : t.node? (name :: here) ≠ some .dir)
include hfree

theorem writeFile_of_dir (contents : Contents) :
    t.writeFile cwd p contents = .ok (t.put (name :: here) (.file contents)) := by
  unfold writeFile
  rw [openNew_of_dir h hp hdir hfree]

/-- Writing a file in a directory that is there makes no other. -/
theorem writeWithDirs_of_dir (contents : Contents) :
    t.writeWithDirs cwd p contents = (.ok (), t.put (name :: here) (.file contents)) := by
  obtain ⟨q, hq, hmake⟩ := makeDirs_parent_of_dir h hp hdir
  have hwrite : writeAlone cwd p contents t =
      (.ok (), t.put (name :: here) (.file contents)) := by
    unfold writeAlone
    rw [writeFile_of_dir h hp hdir hfree]
  rw [writeWithDirs_eq]
  rw [hq]
  dsimp only
  rw [hmake]
  split <;> exact hwrite

theorem writeBelow_of_dir (contents : Contents) :
    t.writeBelow cwd p contents = t.put (name :: here) (.file contents) := by
  obtain ⟨q, hq, hmake⟩ := makeDirs_parent_of_dir h hp hdir
  unfold writeBelow
  rw [hq]
  dsimp only
  rw [hmake, writeFile_of_dir h hp hdir hfree]

variable (hs : source.EndsIn cwd there other) (hsource : source.Usable)
  (hnode : t.node? (other :: there) = some (.file contents))
  (hne : name :: here ≠ other :: there)
include hs hsource hnode hne

/-- A file is copied to another place in a directory that is there. -/
theorem copyFile_of_dir :
    t.copyFile cwd source p = .ok (t.put (name :: here) (.file contents)) := by
  unfold copyFile
  rw [find_of_node hs hsource hnode]
  dsimp only
  rw [openNew_of_dir h hp hdir hfree]
  simp only [if_neg hne]

/-- A file is packed into another in a directory that is there. -/
theorem writeArchive_of_dir (entry : String) :
    t.writeArchive cwd source entry p =
      (.ok (Contents.archive entry contents).size,
        t.put (name :: here) (.file (.archive entry contents))) := by
  unfold writeArchive
  rw [find_of_node hs hsource hnode]
  dsimp only
  rw [openNew_of_dir h hp hdir hfree]
  simp only [if_neg hne]

end Files

end FileTree

end ReleaseKit
