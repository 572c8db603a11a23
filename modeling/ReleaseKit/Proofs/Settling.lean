/-
ReleaseKit.Proofs.Settling — directories that are made once are not made again.

Making directories stops where a name is too long or a file is in the way, and what has been
made by then stays. So it may fail and still change a tree; but it does this once. If it is
tried again it comes as far as before, also when files have been written in the meantime:
what counts are the directories, and files do not go away (`FileTree.Settled`).

  §1 Following  — a path is followed in the same way, as far as nothing is missing.
  §2 Making     — `settled_makeDirs`.
  §3 Writing    — a file below directories that are settled.
-/
import ReleaseKit.Proofs.Repeating

namespace ReleaseKit.FileTree

open Location

variable {s t left : FileTree} {cwd here : Location} {p q : LocalPath} {name : String}

/-! ## §1 Following -/

section Covers

variable (h : s.Covers t)
include h

theorem Covers.needDir (l : Location) :
    t.needDir l = .error .absent ∨ s.needDir l = t.needDir l := by
  unfold FileTree.needDir
  rcases ht : t.node? l with _ | (_ | contents)
  · exact .inl rfl
  · exact .inr (by rw [(h.dirs l).mpr ht])
  · obtain ⟨other, hother⟩ := h.files l contents ht
    exact .inr (by rw [hother])

theorem Covers.walk (here : Location) (pieces : List String) :
    t.walk here pieces = .error .absent ∨ s.walk here pieces = t.walk here pieces := by
  induction pieces generalizing here with
  | nil => exact .inr rfl
  | cons piece rest ih =>
    unfold FileTree.walk
    rcases h.needDir here with habsent | hsame
    · exact .inl (by rw [habsent])
    · rw [hsame]
      rcases t.needDir here with fault | _
      · exact .inr rfl
      · rcases stepTo here piece with fault | there
        · exact .inr rfl
        · exact ih there

theorem Covers.place (cwd : Location) (p : LocalPath) :
    t.place cwd p = .error .absent ∨ s.place cwd p = t.place cwd p := by
  unfold FileTree.place
  cases p.check with
  | error fault => exact .inr rfl
  | ok _ =>
    dsimp only
    rcases p.pieces.reverse.dropWhile (· == "") with _ | ⟨last, before⟩
    · exact .inr rfl
    · dsimp only
      rcases h.walk (start cwd p) before.reverse with habsent | hsame
      · exact .inl (by rw [habsent])
      · rw [hsame]
        rcases t.walk (start cwd p) before.reverse with fault | dir
        · exact .inr rfl
        · dsimp only
          rcases h.needDir dir with habsent | hsame
          · exact .inl (by rw [habsent])
          · exact .inr (by rw [hsame])

theorem Covers.absent {l : Location} (hnone : s.node? l = none) : t.node? l = none := by
  rcases ht : t.node? l with _ | (_ | contents)
  · rfl
  · rw [(h.dirs l).mpr ht] at hnone
    cases hnone
  · obtain ⟨other, hother⟩ := h.files l contents ht
    rw [hother] at hnone
    cases hnone

/-- A directory that could not be made cannot be made in a tree that covers this one, for the
same reason, unless something was missing. -/
theorem Covers.makeDir_error {fault : Fault} (hfail : t.makeDir cwd p = .error fault)
    (hfault : fault ≠ .absent) : s.makeDir cwd p = .error fault := by
  unfold makeDir at hfail ⊢
  rcases h.place cwd p with habsent | hsame
  · rw [habsent] at hfail
    exact absurd (Except.error.inj hfail).symm hfault
  · rw [hsame]
    split at hfail
    · exact hfail
    · exact hfail
    · next dir last slash _ =>
      split at hfail
      · rwa [if_pos ‹_›]
      · rw [if_neg ‹_›]
        split at hfail
        · rwa [if_pos ‹_›]
        · rw [if_neg ‹_›]
          rcases hnode : t.node? (last :: dir) with _ | (_ | contents)
          · rw [hnode] at hfail
            cases hfail
          · rw [(h.dirs _).mpr hnode]
            rwa [hnode] at hfail
          · obtain ⟨other, hother⟩ := h.files _ contents hnode
            rw [hother]
            rwa [hnode] at hfail

end Covers

/-! ## §2 Making -/

section Ancestors

variable {count : Nat} {above : List LocalPath}

theorem isDir_of_dir (hp : p.Usable) (hne : p.code ≠ "")
    (hdir : t.node? (p.location cwd) = some .dir) : t.isDir cwd p = true := by
  simp [isDir, find_of_dir hp hne hdir]

/-- A directory can be made exactly in a directory, where nothing is, by a path that fits. -/
theorem exists_makeDir_iff (h : p.EndsIn cwd here name) (hp : p.Descends) :
    (∃ made, t.makeDir cwd p = .ok made) ↔
      p.Fits ∧ t.node? here = some .dir ∧ t.node? (name :: here) = none := by
  constructor
  · rintro ⟨made, hmake⟩
    obtain ⟨-, hnone, -, hdir, -⟩ := makeDir_ok hmake
    rw [h.location hp] at hnone hdir
    exact ⟨fits_of_makeDir hmake, hdir, hnone⟩
  · rintro ⟨hfits, hdir, hnone⟩
    have hmake := makeDir_of_dir h ⟨hp, hfits⟩ hdir
    rw [hnone] at hmake
    exact ⟨_, hmake⟩

/-- Where directories could not be made there is none. -/
theorem not_dir_of_makeDirsOf_error {fault : Fault} (hcount : p.names.length < count)
    (hp : p.Usable) (htrim : p.Trimmed) (hstart : t.node? (start cwd p) = some .dir)
    (hfail : makeDirsOf cwd (p.ancestorsUpTo count) t = (.error fault, left)) :
    left.node? (p.location cwd) ≠ some .dir := by
  intro hdir
  induction count generalizing p fault with
  | zero => omega
  | succ count ih =>
    have hne : p.code ≠ "" := by
      intro hempty
      simp [LocalPath.ancestorsUpTo, makeDirsOf_cons, LocalPath.isEmpty, hempty] at hfail
    obtain hnames | ⟨q, name, hends, hq, hqstart, hqnames⟩ :=
      htrim.names_nil_or_parent hp.descends cwd
    · have hloc := LocalPath.location_of_names_nil hnames hp.descends cwd
      have hmake := makeDir_of_names_nil hnames hp hne hstart
      rw [LocalPath.ancestorsUpTo, makeDirsOf_of_occupied hp hne (hloc ▸ hstart) hmake] at hfail
      cases hfail
    · rw [LocalPath.ancestorsUpTo, hq] at hfail
      cases makesDirs_of_eq hfail with
      | stuck _ hparent =>
        refine ih (by omega) (LocalPath.usable_parent hq hp) (LocalPath.trimmed_parent hq)
          (hqstart ▸ hstart) hparent ?_
        rw [hends.location hp.descends] at hdir
        exact dir_above hdir (List.suffix_cons name _)
      | refused _ _ hnotDir =>
        rw [isDir_of_dir hp hne hdir] at hnotDir
        cases hnotDir

/-- Nothing is made of a list of paths if its first path cannot be made, and if nothing is made
of the others as far as something is missing. -/
theorem makeDirsOf_tree (hmake : ∀ made, s.makeDir cwd p ≠ .ok made)
    (habove : s.makeDir cwd p = .error .absent → (makeDirsOf cwd above s).2 = s) :
    (makeDirsOf cwd (p :: above) s).2 = s := by
  have htree : ∀ {r : FileTree}, LastTried cwd p above s r → r = s := by
    rintro r (⟨rfl, -⟩ | ⟨hmissing, hdone⟩)
    · rfl
    · exact (congrArg Prod.snd hdone).symm.trans (habove hmissing)
  rcases hmakes : makeDirsOf cwd (p :: above) s with ⟨result, left⟩
  cases makesDirs_of_eq hmakes with
  | nothing => rfl
  | stuck hmissing hfail => exact (congrArg Prod.snd hfail).symm.trans (habove hmissing)
  | made htried hmade => exact absurd (htree htried ▸ hmade) (hmake _)
  | found htried => exact htree htried
  | refused htried => exact htree htried

/-- A directory that can be made in a tree could be made in one that it covers. -/
theorem Covers.exists_makeDir (hs : s.Covers t) (h : p.EndsIn cwd here name) (hp : p.Descends)
    (hmake : ∃ made, s.makeDir cwd p = .ok made) : ∃ made, t.makeDir cwd p = .ok made := by
  obtain ⟨hfits, hdir, hnone⟩ := (exists_makeDir_iff h hp).mp hmake
  exact (exists_makeDir_iff h hp).mpr ⟨hfits, (hs.dirs _).mp hdir, hs.absent hnone⟩

/-- What has been made of a path and its parents is not made again. The induction is on how
many names are left, as they are made from the top down. -/
theorem makeDirsOf_again (hcount : p.names.length < count) (hp : p.Descends) (htrim : p.Trimmed)
    (hstart : t.node? (start cwd p) = some .dir) (hstart' : s.node? (start cwd p) = some .dir)
    (hs : s.Covers (makeDirsOf cwd (p.ancestorsUpTo count) t).2) :
    (makeDirsOf cwd (p.ancestorsUpTo count) s).2 = s := by
  by_cases hdir : s.node? (p.location cwd) = some .dir
  · exact makeDirsOf_of_dir hp hdir
  induction count generalizing p with
  | zero => rfl
  | succ count ih =>
    obtain hnames | ⟨q, name, hends, hq, hqstart, hqnames⟩ := htrim.names_nil_or_parent hp cwd
    · rw [LocalPath.location_of_names_nil hnames hp] at hdir
      exact absurd hstart' hdir
    have hqcount : q.names.length < count := by omega
    have hqtrim := LocalPath.trimmed_parent hq
    have hqdescends := LocalPath.descends_parent hq hp
    have habove : s.Covers (makeDirsOf cwd (q.ancestorsUpTo count) t).2 →
        (makeDirsOf cwd (q.ancestorsUpTo count) s).2 = s := by
      intro hs
      by_cases hqdir : s.node? (q.location cwd) = some .dir
      · exact makeDirsOf_of_dir hqdescends hqdir
      · exact ih hqcount hqdescends hqtrim (hqstart ▸ hstart) (hqstart ▸ hstart') hs hqdir
    -- what could not be made in the end cannot be made now, for a reason that has not changed
    have hfailed : ∀ {r : FileTree} {fault : Fault},
        LastTried cwd p (q.ancestorsUpTo count) t r → r.makeDir cwd p = .error fault →
        s.Covers r → (makeDirsOf cwd (p :: q.ancestorsUpTo count) s).2 = s := by
      intro r fault htried hfail hcovers
      refine makeDirsOf_tree (fun made hagain => ?_) fun habsent => ?_
      · obtain ⟨made, hmake⟩ := hcovers.exists_makeDir hends hp ⟨made, hagain⟩
        cases hfail.symm.trans hmake
      · obtain ⟨rfl, hpresent⟩ | ⟨-, hdone⟩ := htried
        · have hagain := hcovers.makeDir_error hfail fun hmissing => hpresent (hmissing ▸ hfail)
          exact absurd (hfail.trans (hagain.symm.trans habsent)) hpresent
        · rw [hdone] at habove
          exact habove hcovers
    rw [LocalPath.ancestorsUpTo, hq] at hs ⊢
    dsimp only at hs ⊢
    rcases hmakes : makeDirsOf cwd (p :: q.ancestorsUpTo count) t with ⟨result, left⟩
    rw [hmakes] at hs
    cases makesDirs_of_eq hmakes with
    | nothing hempty => simp [LocalPath.isEmpty, hends.code_ne] at hempty
    | stuck _ hfail =>
      rw [hfail] at habove
      refine makeDirsOf_tree (fun made hagain => ?_) fun _ => habove hs
      obtain ⟨hfits, hhere, -⟩ := (exists_makeDir_iff hends hp).mp ⟨made, hagain⟩
      exact not_dir_of_makeDirsOf_error hqcount (LocalPath.usable_parent hq ⟨hp, hfits⟩) hqtrim
        (hqstart ▸ hstart) hfail ((hs.dirs _).mp hhere)
    | made _ hmake =>
      -- what has been made is there
      obtain ⟨rfl, -, hadmits⟩ := makeDir_ok hmake
      exact absurd ((hs.dirs _).mpr (by rw [node?_put hadmits, if_pos rfl])) hdir
    | found htried hfail => exact hfailed htried hfail hs
    | refused htried hfail => exact hfailed htried hfail hs

end Ancestors

/-- Making the directories of a path changes nothing, also after files have been written. -/
def Settled (t : FileTree) (cwd : Location) (p : LocalPath) : Prop :=
  ∀ s : FileTree, s.Covers t → (s.makeDirs cwd p).2 = s

theorem Settled.self (h : t.Settled cwd p) : (t.makeDirs cwd p).2 = t := h t (.refl t)

theorem Settled.covers (h : t.Settled cwd p) (hs : s.Covers t) : s.Settled cwd p :=
  fun r hr => h r (hr.trans hs)

/-- **Directories that have been made as far as they can be are settled.** -/
theorem settled_makeDirs (hp : p.Descends) (htrim : p.Trimmed)
    (hstart : t.node? (start cwd p) = some .dir) : (t.makeDirs cwd p).2.Settled cwd p := by
  intro s hs
  have hmade : SameBut (fun _ => False) (p.OnWay cwd) t (t.makeDirs cwd p).2 :=
    makeDirs_sameBut cwd p t
  exact makeDirsOf_again (Nat.lt_succ_of_le p.length_names_le) hp htrim hstart
    ((hs.dirs _).mpr (hmade.keeps_dir hstart)) hs

/-! ## §3 Writing -/

section Writing

variable (h : p.EndsIn cwd here name) (hp : p.Descends) (hq : p.parent = some q)
include hq

theorem writeBelow_eq (t : FileTree) (contents : Contents) :
    t.writeBelow cwd p contents =
      match (t.makeDirs cwd q).2.writeFile cwd p contents with
      | .ok written => written
      | .error _ => (t.makeDirs cwd q).2 := by
  rcases hwrite : (t.makeDirs cwd q).2.writeFile cwd p contents with fault | written <;>
    simp only [writeBelow, hq, hwrite]

include h hp

/-- Where the directories are settled, writing puts a file in its place, if it can be opened. -/
theorem writeBelow_cases (ht : (t.makeDirs cwd q).2 = t) (contents : Contents) :
    (p.Fits ∧ t.node? here = some .dir ∧ t.node? (name :: here) ≠ some .dir ∧
        t.writeBelow cwd p contents = t.put (name :: here) (.file contents)) ∨
      ¬ (p.Fits ∧ t.node? here = some .dir ∧ t.node? (name :: here) ≠ some .dir) ∧
        t.writeBelow cwd p contents = t := by
  rw [writeBelow_eq hq, ht, writeFile]
  by_cases hopen : p.Fits ∧ t.node? here = some .dir ∧ t.node? (name :: here) ≠ some .dir
  · obtain ⟨hfits, hdir, hfree⟩ := hopen
    rw [(openNew_iff h hp).mpr ⟨hfits, hdir, hfree, rfl⟩]
    exact .inl ⟨hfits, hdir, hfree, rfl⟩
  · refine .inr ⟨hopen, ?_⟩
    rcases hl : t.openNew cwd p with fault | l
    · rfl
    · obtain ⟨hfits, hdir, hfree, -⟩ := (openNew_iff h hp).mp hl
      exact absurd ⟨hfits, hdir, hfree⟩ hopen

/-- A file is written in two trees alike, and then it is the same in both if it could be. -/
theorem Covers.again_writeBelow (hs : s.Covers t) (ht : t.Settled cwd q) (contents : Contents) :
    ChangeAlike s t (s.writeBelow cwd p contents) (t.writeBelow cwd p contents) ∧
      (p.Fits → t.node? here = some .dir →
        (s.writeBelow cwd p contents).node? (name :: here) =
          (t.writeBelow cwd p contents).node? (name :: here)) := by
  have hdirs := hs.dirs
  rcases writeBelow_cases h hp hq ht.self contents with
    ⟨hfits, hdir, hfree, htree⟩ | ⟨hclosed, htree⟩
  · rcases writeBelow_cases h hp hq (ht s hs) contents with ⟨-, -, -, htree'⟩ | ⟨hclosed, -⟩
    · have hadmits : t.Admits (name :: here) (.file contents) := ⟨by simp, hdir, .inr hfree⟩
      rw [htree, htree']
      refine ⟨.put hadmits, fun _ _ => ?_⟩
      rw [node?_put hadmits, node?_put (hs.admits hadmits), if_pos rfl, if_pos rfl]
    · exact absurd ⟨hfits, (hdirs _).mpr hdir, mt (hdirs _).mp hfree⟩ hclosed
  · rcases writeBelow_cases h hp hq (ht s hs) contents with
      ⟨hfits, hdir, hfree, -⟩ | ⟨-, htree'⟩
    · exact absurd ⟨hfits, (hdirs _).mp hdir, mt (hdirs _).mpr hfree⟩ hclosed
    · rw [htree, htree']
      refine ⟨.inl ⟨rfl, rfl⟩, fun hfits hdir => ?_⟩
      have hthere : t.node? (name :: here) = some .dir :=
        not_not.mp fun hfree => hclosed ⟨hfits, hdir, hfree⟩
      rw [hthere, (hdirs _).mpr hthere]

omit h in
/-- Writing a file is writing it where the directories above it have been settled. -/
theorem exists_settled (hstart : t.node? (start cwd p) = some .dir) (contents : Contents) :
    ∃ ready : FileTree, ready.Settled cwd q ∧
      t.writeBelow cwd p contents = ready.writeBelow cwd p contents := by
  have hqstart : start cwd q = start cwd p := by
    rw [start, (LocalPath.parent_ok hq).1, start]
  have hsettled : (t.makeDirs cwd q).2.Settled cwd q :=
    settled_makeDirs (LocalPath.descends_parent hq hp) (LocalPath.trimmed_parent hq)
      (hqstart ▸ hstart)
  exact ⟨_, hsettled, by rw [writeBelow_eq hq, writeBelow_eq hq, hsettled.self]⟩

/-- After a file has been written the directories above it are settled. -/
theorem settled_writeBelow (hstart : t.node? (start cwd p) = some .dir) (contents : Contents) :
    (t.writeBelow cwd p contents).Settled cwd q := by
  obtain ⟨ready, hsettled, hsame⟩ := exists_settled hp hq hstart contents
  rw [hsame]
  exact hsettled.covers
    (((Covers.refl _).again_writeBelow h hp hq hsettled contents).1.covers_start)

/-- A file that has been written, as far as it could be, can be written again, and that changes
nothing. -/
theorem writeBelow_again (hstart : t.node? (start cwd p) = some .dir) (contents : Contents) :
    (t.writeBelow cwd p contents).writeBelow cwd p contents = t.writeBelow cwd p contents := by
  have hagain := (settled_writeBelow h hp hq hstart contents).self
  rcases writeBelow_cases h hp hq hagain contents with ⟨hfits, hdir, hfree, htree⟩ | ⟨-, htree⟩
  · -- what can be written has been written
    have hnode : (t.writeBelow cwd p contents).node? (name :: here) = some (.file contents) := by
      obtain ⟨ready, hsettled, hsame⟩ := exists_settled hp hq hstart contents
      rw [hsame] at hdir hfree ⊢
      rcases writeBelow_cases h hp hq hsettled.self contents with
        ⟨-, hdir', hfree', hput⟩ | ⟨hclosed, hput⟩
      · rw [hput, node?_put ⟨by simp, hdir', .inr hfree'⟩, if_pos rfl]
      · rw [hput] at hdir hfree
        exact absurd ⟨hfits, hdir, hfree⟩ hclosed
    rw [htree]
    apply ext
    intro l
    rw [node?_put ⟨by simp, hdir, .inr hfree⟩]
    split
    · next hl => rw [hl, hnode]
    · rfl
  · exact htree

end Writing

end ReleaseKit.FileTree
