/-
ReleaseKit.Proofs.Regeneration — a full release makes its version anew.

A full release starts by making the directory of its version anew. Two trees that
agree outside that directory are one tree once it has been removed; so whatever an
earlier release has left in it, two releases from such trees cannot be told apart.
The path of the directory can be one that the system refuses. Then both releases end
at their first action, for the same reason, and nothing is removed: only in this do
the trees that they leave differ, as they did before (`full_release_regenerates`).

  §1 Trees      — `AgreeOutside`: the same but for one location and what is in it.
  §2 Following  — `route`: whether a path can be followed, if directories are there.
  §3 Resetting  — `resetDir` from trees that agree outside its directory.
  §4 Releases   — two full releases, and a path that is refused.
-/
import ReleaseKit.Proofs.Staging

namespace ReleaseKit

open Location

/-! ## §1 Trees -/

namespace FileTree

/-- Two trees are the same but for what is at a location and in it. -/
def AgreeOutside (l : Location) (a b : FileTree) : Prop :=
  ∀ m, within l m = false → a.node? m = b.node? m

/-- At a location is a directory, or nothing. -/
def DirOrNothing (t : FileTree) (l : Location) : Prop :=
  t.node? l = none ∨ t.node? l = some .dir

variable {a b t : FileTree} {l : Location}

theorem AgreeOutside.symm (h : AgreeOutside l a b) : AgreeOutside l b a :=
  fun m hm => (h m hm).symm

/-- Where nothing is, nothing can be removed. -/
theorem remove_of_absent (h : t.node? l = none) : t.remove l = t := by
  have hl : l ≠ [] := by
    rintro rfl
    rw [node?_nil] at h
    cases h
  apply ext
  intro m
  rw [node?_remove hl]
  split
  · rename_i hin
    exact (nothing_below h (within_iff.mp hin)).symm
  · rfl

/-- What is removed tells the two trees apart no more. -/
theorem AgreeOutside.remove_eq (h : AgreeOutside l a b) (hl : l ≠ []) :
    a.remove l = b.remove l := by
  apply ext
  intro m
  rw [node?_remove hl, node?_remove hl]
  split
  · rfl
  · rename_i hout
    exact h m (Bool.eq_false_iff.mpr hout)

/-- A directory that is in one tree stands in a directory that is in both. -/
theorem AgreeOutside.dir_above {name : String} {here : Location}
    (h : AgreeOutside (name :: here) a b) (hdir : a.node? (name :: here) = some .dir) :
    a.node? here = some .dir ∧ b.node? here = some .dir := by
  have ha : a.node? here = some .dir := FileTree.dir_above hdir (List.suffix_cons name here)
  have hout : within (name :: here) here = false := by
    rw [Bool.eq_false_iff, ne_eq, within_iff]
    exact fun hs => absurd hs.length_le (by simp)
  exact ⟨ha, by rw [← h here hout, ha]⟩

/-! ## §2 Following -/

variable {cwd here : Location} {p : LocalPath} {name : String}

/-- Where a path leads if there are directories all the way: what is left of
following it when no tree is asked. -/
def route (cwd : Location) (p : LocalPath) : Except Fault Location :=
  match p.check with
  | .error fault => .error fault
  | .ok () => p.pieces.foldlM stepTo (start cwd p)

/-- Through directories every piece is followed to the next. -/
theorem walk_eq_foldlM {stem : List String} (hup : ".." ∉ stem)
    (hdir : t.node? (stem.foldl follow here) = some .dir) :
    t.walk here (stem ++ [name]) = (stem ++ [name]).foldlM stepTo here := by
  induction stem generalizing here with
  | nil =>
    have hneed : t.needDir here = .ok () := needDir_of_dir hdir
    simp only [List.nil_append, walk, hneed, List.foldlM_cons, List.foldlM_nil]
    cases stepTo here name <;> rfl
  | cons piece rest ih =>
    have hhere : t.node? here = some .dir := FileTree.dir_above hdir (suffix_foldl_follow hup here)
    simp only [List.mem_cons, not_or] at hup
    simp only [List.cons_append, walk, needDir_of_dir hhere, List.foldlM_cons]
    cases hstep : stepTo here piece with
    | error fault => rfl
    | ok there =>
      have hthere : there = follow here piece := stepTo_ok hstep
      exact ih hup.2 (hthere ▸ hdir)

/-- A path to something in a directory is followed along its route. -/
theorem resolve_eq_route (h : p.EndsIn cwd here name) (hp : p.Descends)
    (hdir : t.node? here = some .dir) : t.resolve cwd p = route cwd p := by
  obtain ⟨stem, hpieces, rfl, -⟩ := h
  have hup : ".." ∉ stem := fun hmem => LocalPath.descends_iff.mp hp (by simp [hpieces, hmem])
  unfold resolve route
  rw [hpieces]
  cases p.check with
  | error fault => rfl
  | ok _ => exact walk_eq_foldlM hup hdir

/-- A piece leads on unless it is too long. -/
theorem stepTo_cases (here : Location) (piece : String) :
    (∃ there, stepTo here piece = .ok there ∧ (OsText.mk piece).size ≤ longestName) ∨
      stepTo here piece = .error .tooLong := by
  by_cases hstay : piece = "" ∨ piece = "."
  · refine .inl ⟨here, by rw [stepTo, if_pos hstay], ?_⟩
    rcases hstay with rfl | rfl <;> decide
  · by_cases hup : piece = ".."
    · refine .inl ⟨here.tail, by rw [stepTo, if_neg hstay, if_pos hup], ?_⟩
      subst hup
      decide
    · by_cases hlong : longestName < (OsText.mk piece).size
      · exact .inr (by rw [stepTo, if_neg hstay, if_neg hup, if_pos hlong])
      · exact .inl ⟨piece :: here, by rw [stepTo, if_neg hstay, if_neg hup, if_neg hlong],
          Nat.le_of_not_lt hlong⟩

theorem foldlM_stepTo_cases (pieces : List String) (here : Location) :
    (∃ there, pieces.foldlM stepTo here = .ok there ∧
        ∀ piece ∈ pieces, (OsText.mk piece).size ≤ longestName) ∨
      pieces.foldlM stepTo here = .error .tooLong := by
  induction pieces generalizing here with
  | nil => exact .inl ⟨here, rfl, by simp⟩
  | cons piece rest ih =>
    rw [List.foldlM_cons]
    rcases stepTo_cases here piece with ⟨next, hstep, hshort⟩ | hstep
    · rw [hstep]
      rcases ih next with ⟨there, hrest, hall⟩ | hrest
      · exact .inl ⟨there, hrest, List.forall_mem_cons.mpr ⟨hshort, hall⟩⟩
      · exact .inr hrest
    · rw [hstep]
      exact .inr rfl

/-- What the system says of a path before it looks at any tree. -/
theorem check_cases (hne : p.code ≠ "") :
    (p.check = .ok () ∧ (∀ piece ∈ p.pieces, (OsText.mk piece).holdsNul = false) ∧
        p.os.size ≤ longestPath) ∨
      ∃ fault, p.check = .error fault ∧ fault ≠ .absent := by
  unfold LocalPath.check
  by_cases hnul : (p.pieces.any fun piece => (OsText.mk piece).holdsNul) = true
  · exact .inr ⟨.nulInPath, by rw [if_pos hnul], by simp⟩
  · by_cases hlong : longestPath < p.os.size
    · exact .inr ⟨.tooLong, by rw [if_neg hnul, if_neg hne, if_pos hlong], by simp⟩
    · exact .inl ⟨by rw [if_neg hnul, if_neg hne, if_neg hlong], by simpa using hnul,
        Nat.le_of_not_lt hlong⟩

/-- A path that does not fit has no route, and it is not said to lead nowhere. -/
theorem route_of_not_fits (cwd : Location) (hne : p.code ≠ "") (hfit : ¬ p.Fits) :
    ∃ fault, route cwd p = .error fault ∧ fault ≠ .absent := by
  unfold route
  rcases check_cases hne with ⟨hcheck, hnul, hshort⟩ | ⟨fault, hcheck, hfault⟩
  · rw [hcheck]
    rcases foldlM_stepTo_cases p.pieces (start cwd p) with ⟨there, -, hall⟩ | hlong
    · exact absurd ⟨hnul, hshort, hall⟩ hfit
    · exact ⟨.tooLong, hlong, by simp⟩
  · exact ⟨fault, by rw [hcheck], hfault⟩

/-! ## §3 Resetting -/

/-- A directory that does not fit the system cannot be made anew; nothing is
changed. -/
theorem resetDir_of_not_fits (h : p.EndsIn cwd here name) (hp : p.Descends) (hfit : ¬ p.Fits)
    (hdir : t.node? here = some .dir) :
    ∃ fault, route cwd p = .error fault ∧ t.resetDir cwd p = (.error fault, t) := by
  obtain ⟨fault, hroute, hfault⟩ := route_of_not_fits cwd h.code_ne hfit
  have hremove : t.removeDir cwd p = (.error fault, t) := by
    unfold removeDir find
    rw [resolve_eq_route h hp hdir, hroute]
  refine ⟨fault, hroute, ?_⟩
  rw [resetDir_eq]
  rw [hremove]
  cases fault <;> first | rfl | exact absurd rfl hfault

/-- Making a directory anew is removing it, if it is there, and making it. -/
theorem resetDir_eq_makeDirs (h : p.EndsIn cwd here name) (hp : p.Usable)
    (hdir : t.node? here = some .dir) (hnode : t.DirOrNothing (name :: here)) :
    t.resetDir cwd p = (t.remove (name :: here)).makeDirs cwd p := by
  rw [resetDir_eq]
  rcases hnode with hnone | hthere
  · have hremove : t.removeDir cwd p = (.error .absent, t) := by
      unfold removeDir
      rw [find_of_absent h hp (passable_of_dir hdir) hnone]
    rw [hremove, remove_of_absent hnone]
  · obtain ⟨gone, hremove, hgone⟩ := removeDir_of_dir h hp hthere
    have heq : gone = t.remove (name :: here) := by
      apply ext
      intro l
      rw [hgone, node?_remove (by simp)]
      simp only [within_iff]
    rw [hremove, heq]

/-- **What is in a directory does not matter when it is made anew.** From trees that
agree outside the directory the outcome is the same; or else the system refuses the
path, and the trees are left as they are. -/
theorem resetDir_of_agree (h : p.EndsIn cwd here name) (hp : p.Descends)
    (hsame : AgreeOutside (name :: here) a b) (ha : a.DirOrNothing (name :: here))
    (hb : b.DirOrNothing (name :: here)) :
    a.resetDir cwd p = b.resetDir cwd p ∨
      ¬ p.Fits ∧ ∃ fault, a.resetDir cwd p = (.error fault, a) ∧
        b.resetDir cwd p = (.error fault, b) := by
  have hmain : a.node? here = some .dir ∧ b.node? here = some .dir →
      a.resetDir cwd p = b.resetDir cwd p ∨
        ¬ p.Fits ∧ ∃ fault, a.resetDir cwd p = (.error fault, a) ∧
          b.resetDir cwd p = (.error fault, b) := by
    rintro ⟨hdirA, hdirB⟩
    by_cases hfit : p.Fits
    · refine .inl ?_
      rw [resetDir_eq_makeDirs h ⟨hp, hfit⟩ hdirA ha, resetDir_eq_makeDirs h ⟨hp, hfit⟩ hdirB hb,
        hsame.remove_eq (by simp)]
    · obtain ⟨fault, hroute, hresetA⟩ := resetDir_of_not_fits h hp hfit hdirA
      obtain ⟨fault', hroute', hresetB⟩ := resetDir_of_not_fits h hp hfit hdirB
      obtain rfl : fault = fault' := Except.error.inj (hroute.symm.trans hroute')
      exact .inr ⟨hfit, fault, hresetA, hresetB⟩
  rcases ha with hnoneA | hthere
  · rcases hb with hnoneB | hthere
    · -- where the directory is in neither tree, there is one tree
      have heq : a = b := by
        rw [← remove_of_absent hnoneA, ← remove_of_absent hnoneB, hsame.remove_eq (by simp)]
      exact .inl (by rw [heq])
    · exact hmain (hsame.symm.dir_above hthere).symm
  · exact hmain (hsame.dir_above hthere)

end FileTree

/-! ## §4 Releases -/

section Releases

variable {σ : Type} {run : Runner σ} {cwd : Location} {p : LocalPath} {rest : List Action}
  {first second : FileTree} {state : σ}

/-- A run that starts by making a directory anew goes by what that leaves. -/
theorem execute_of_resetDir_eq (h : first.resetDir cwd p = second.resetDir cwd p) :
    execute run cwd (.resetDir p :: rest) (.start first state none) =
      execute run cwd (.resetDir p :: rest) (.start second state none) := by
  have hperform : (Action.resetDir p).perform run cwd (.start first state none) =
      (Action.resetDir p).perform run cwd (.start second state none) := by
    have hreset : FileSystem.resetDir first cwd p = FileSystem.resetDir second cwd p := h
    simp only [Action.perform, Session.start, Session.echo, Action.apply, hreset]
    rcases FileSystem.resetDir second cwd p with ⟨_ | _, left⟩ <;> rfl
  simp only [execute, hperform]

/-- A run that starts by making a directory anew ends there if that fails. -/
theorem execute_of_resetDir_error {fault : Fault}
    (h : first.resetDir cwd p = (.error fault, first)) :
    execute run cwd (.resetDir p :: rest) (.start first state none) =
      (.error ⟨0, .resetDir p, true, .io p fault⟩,
        ⟨first, state, [.echo (Action.resetDir p).echoLine], none⟩) := by
  have happly : (Action.resetDir p).apply run cwd
      ⟨first, state, [.echo (Action.resetDir p).echoLine], none⟩ =
        (.error (.io p fault),
          ⟨first, state, [.echo (Action.resetDir p).echoLine], none⟩) := by
    have hreset : FileSystem.resetDir first cwd p = (.error fault, first) := h
    simp only [Action.apply, hreset]
    rfl
  simp only [execute, Action.perform, Session.start, Session.echo, List.nil_append, happly]

end Releases

/-- **A full release makes its version anew.** From two trees that agree outside the
directory of the version, where each has a directory or nothing, a full release goes
the same way: it ends alike, writes the same, hands the runner the same commands and
leaves the same tree. Only if the system does not take the path of the directory are
the trees left as they were; then the release has ended before any command. -/
theorem full_release_regenerates {σ : Type} (run : Runner σ) (cwd : Location) (c : Config)
    (hdist : c.distDir.Descends) (first second : FileTree)
    (hsame : first.AgreeOutside (c.versionDir.location cwd) second)
    (hfirst : first.DirOrNothing (c.versionDir.location cwd))
    (hsecond : second.DirOrNothing (c.versionDir.location cwd)) (state : σ) :
    let one := execute run.recording cwd (Step.plan c .all) (.start first (state, []) none)
    let other := execute run.recording cwd (Step.plan c .all) (.start second (state, []) none)
    one.1 = other.1 ∧ one.2.transcript = other.2.transcript ∧ one.2.state = other.2.state ∧
      (one.2.tree = other.2.tree ∨
        ¬ c.versionDir.Fits ∧ one.2.state = (state, []) ∧
          one.2.tree = first ∧ other.2.tree = second) := by
  intro one other
  have hends := Config.endsIn_versionDir c cwd
  rw [Config.location_versionDir] at hsame hfirst hsecond
  obtain ⟨rest, hplan⟩ : ∃ rest, Step.plan c .all = .resetDir c.versionDir :: rest := ⟨_, rfl⟩
  rcases FileTree.resetDir_of_agree hends (Config.descends_versionDir hdist) hsame hfirst hsecond
    with heq | ⟨hfit, fault, hone, hother⟩
  · have hrun : one = other := by
      simp only [one, other, hplan]
      exact execute_of_resetDir_eq heq
    exact ⟨by rw [hrun], by rw [hrun], by rw [hrun], .inl (by rw [hrun])⟩
  · simp only [one, other, hplan, execute_of_resetDir_error hone,
      execute_of_resetDir_error hother]
    exact ⟨trivial, trivial, trivial, .inr ⟨hfit, trivial, trivial, trivial⟩⟩

/-- A tree with a staging directory and nothing in it. -/
def FileTree.unstaged : FileTree := FileTree.empty.put ["dist"] .dir

/-- The same with an archive that has been left in the directory of a version. -/
def FileTree.leftover : FileTree :=
  (FileTree.unstaged.put ["1.0", "dist"] .dir).put ["osx.zip", "1.0", "dist"]
    (.file (.ofText "packed before"))

theorem FileTree.leftover_agrees :
    FileTree.leftover.AgreeOutside ["1.0", "dist"] FileTree.unstaged ∧
      FileTree.leftover.DirOrNothing ["1.0", "dist"] ∧
      FileTree.unstaged.DirOrNothing ["1.0", "dist"] := by
  refine ⟨fun m hm => ?_, .inr (by decide +kernel), .inl (by decide +kernel)⟩
  have hdir : m ≠ ["1.0", "dist"] := by
    rintro rfl
    cases hm
  have hfile : m ≠ ["osx.zip", "1.0", "dist"] := by
    rintro rfl
    cases hm
  unfold leftover
  rw [node?_put_of_ne hfile, node?_put_of_ne hdir]

theorem FileTree.leftover_ne_unstaged : FileTree.leftover ≠ FileTree.unstaged := by
  intro h
  have hnode := congrArg (fun t => t.node? ["1.0", "dist"]) h
  revert hnode
  decide +kernel

/-- The tree that a full release leaves whose commands all succeed. -/
def Config.releasedFrom (c : Config) (t : FileTree) : FileTree :=
  (execute (Runner.faithful Unit []).recording [] (Step.plan c .all)
    (.start t ((), []) none)).2.tree

/-- The archive that has been left is not there after a release by the standard
manifest, as if it had never been. -/
theorem standard_release_forgets_leftover :
    FileTree.leftover ≠ FileTree.unstaged ∧
      (Config.standard ⟨"1.0", by decide⟩).releasedFrom .leftover =
        (Config.standard ⟨"1.0", by decide⟩).releasedFrom .unstaged := by
  -- Of the configuration counts only where its directory is, and that the path fits.
  have hforgets : ∀ c : Config, c.versionDir.Fits → c.distDir.Descends →
      c.versionDir.location [] = ["1.0", "dist"] →
        c.releasedFrom .leftover = c.releasedFrom .unstaged := by
    intro c hfits hdescends hlocation
    obtain ⟨hsame, hleftover, hunstaged⟩ := FileTree.leftover_agrees
    rw [← hlocation] at hsame hleftover hunstaged
    obtain ⟨-, -, -, htree⟩ := full_release_regenerates (Runner.faithful Unit []) [] c hdescends
      .leftover .unstaged hsame hleftover hunstaged ()
    exact htree.resolve_right fun h => h.1 hfits
  exact ⟨FileTree.leftover_ne_unstaged,
    hforgets _ (by decide +kernel) (Config.standard_descends _) (by decide +kernel)⟩

/-- The staging directory with so many slashes after its name. -/
def LocalPath.slashed : Nat → LocalPath
  | 0 => ⟨Config.defaultDistDir⟩
  | count + 1 => .ofCode ((slashed count).code ++ "/")

/-- Slashes at the end make a path longer, and lead nowhere else. -/
theorem LocalPath.slashed_spec (count : Nat) :
    (slashed count).code.toList = "dist".toList ++ List.replicate count '/' ∧
      (slashed count).rooted = false ∧
      (slashed count).pieces = "dist" :: List.replicate count "" := by
  induction count with
  | zero => decide +kernel
  | succ count ih =>
    obtain ⟨hcode, hrooted, hpieces⟩ := ih
    have hne : (slashed count).code.toList ≠ [] := by simp [hcode]
    have htext : (slashed (count + 1)).code.toList = (slashed count).code.toList ++ ['/'] := by
      simp [slashed]
    refine ⟨?_, ?_, ?_⟩
    · rw [htext, hcode, List.append_assoc, ← List.replicate_succ']
    · unfold rooted at hrooted ⊢
      rw [htext, List.head?_append, ← hrooted]
      obtain ⟨c, rest, hcons⟩ := List.exists_cons_of_ne_nil hne
      rw [hcons]
      rfl
    · rw [pieces_eq, htext, cut_append hne (by simp), List.map_append, ← pieces_eq, hpieces,
        List.replicate_succ']
      rfl

/-- A release of a version that stages in a path with so many slashes after it. -/
def Config.slashed (count : Nat) : Config :=
  { Config.standard ⟨"1.0", by decide⟩ with distDir := .slashed count }

theorem Config.slashed_spec (count : Nat) :
    (Config.slashed count).distDir.Descends ∧
      (Config.slashed count).versionDir.location [] = ["1.0", "dist"] ∧
      count ≤ (Config.slashed count).versionDir.os.size := by
  obtain ⟨hcode, hrooted, hpieces⟩ := LocalPath.slashed_spec count
  have hversion : OsText.encode "1.0" = "1.0" := OsText.encode_of_not_mem (by decide)
  have hlocation : (LocalPath.slashed count).location [] = ["dist"] := by
    rw [LocalPath.location_eq, FileTree.start, hrooted, hpieces, List.foldl_cons,
      foldl_follow_of_blank (by simp)]
    rfl
  refine ⟨?_, ?_, ?_⟩
  · rw [LocalPath.descends_iff]
    show ".." ∉ (LocalPath.slashed count).pieces
    rw [hpieces]
    simp
  · rw [location_versionDir]
    exact congrArg₂ List.cons hversion hlocation
  · obtain ⟨more, hjoin, hmore⟩ : ∃ more : List Char,
        ((LocalPath.slashed count).join "1.0").code.toList =
          (LocalPath.slashed count).code.toList ++ more ∧ OsText.mark ∉ more := by
      unfold LocalPath.join
      rw [if_neg (by decide)]
      split
      · exact ⟨"1.0".toList, by simp [hversion], by decide⟩
      · exact ⟨'/' :: "1.0".toList, by simp [hversion], by decide⟩
    have hslash : OsText.mark ∉ List.replicate count '/' :=
      fun h => absurd (List.eq_of_mem_replicate h) (by decide)
    have hdist : OsText.mark ∉ "dist".toList := by decide
    have hplain : OsText.mark ∉ ("dist".toList ++ List.replicate count '/') ++ more := by
      simp only [List.mem_append, not_or]
      exact ⟨⟨hdist, hslash⟩, hmore⟩
    calc count = (List.replicate count '/').length := List.length_replicate.symm
      _ ≤ (("dist".toList ++ List.replicate count '/') ++ more).length := by
        simp only [List.length_append]
        omega
      _ ≤ OsText.sizeOfCode (("dist".toList ++ List.replicate count '/') ++ more) :=
        OsText.length_le_sizeOfCode hplain
      _ = (Config.slashed count).versionDir.os.size := by
        rw [← hcode, ← hjoin]
        rfl

/-- A path that the system refuses keeps the archive that has been left: the release
ends before it removes anything. -/
theorem refused_path_keeps_leftover :
    (Config.slashed 4096).distDir.Descends ∧
      FileTree.leftover.AgreeOutside ((Config.slashed 4096).versionDir.location []) .unstaged ∧
      FileTree.leftover.DirOrNothing ((Config.slashed 4096).versionDir.location []) ∧
      FileTree.unstaged.DirOrNothing ((Config.slashed 4096).versionDir.location []) ∧
      (Config.slashed 4096).releasedFrom .leftover ≠
        (Config.slashed 4096).releasedFrom .unstaged := by
  obtain ⟨hdescends, hlocation, hsize⟩ := Config.slashed_spec 4096
  generalize Config.slashed 4096 = c at hdescends hlocation hsize
  have hfit : ¬ c.versionDir.Fits := fun h => absurd (Nat.le_trans hsize h.short) (by decide)
  have hdist : c.distDir.location [] = ["dist"] := by
    rw [Config.location_versionDir] at hlocation
    exact (List.cons.inj hlocation).2
  have hstays : ∀ t : FileTree, t.node? ["dist"] = some .dir → c.releasedFrom t = t := by
    intro t ht
    obtain ⟨fault, -, hreset⟩ := FileTree.resetDir_of_not_fits (Config.endsIn_versionDir c [])
      (Config.descends_versionDir hdescends) hfit (hdist ▸ ht)
    obtain ⟨rest, hplan⟩ : ∃ rest, Step.plan c .all = .resetDir c.versionDir :: rest := ⟨_, rfl⟩
    rw [Config.releasedFrom, hplan, execute_of_resetDir_error hreset]
  obtain ⟨hsame, hleftover, hunstaged⟩ := FileTree.leftover_agrees
  rw [← hlocation] at hsame hleftover hunstaged
  refine ⟨hdescends, hsame, hleftover, hunstaged, ?_⟩
  rw [hstays _ (by decide +kernel), hstays _ (by decide +kernel)]
  exact FileTree.leftover_ne_unstaged

end ReleaseKit
