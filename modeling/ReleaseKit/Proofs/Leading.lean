/-
ReleaseKit.Proofs.Leading — the trees that a run leads through.

Where every command succeeds, what an action does to the tree depends on the tree
alone (`Action.Carries`), and a list of actions leads from one tree to another
(`Leads`). A run whose commands all succeed gets to its end exactly if its actions lead
there. A run that can fail leaves, wherever it is stopped, a tree on the way that its
actions would have led (`leads_of_interrupted`).

  §1 Actions  — `Action.Carries`, `Leads`.
  §2 Effects  — what an action does, going by its runner.
  §3 Runs     — runs that get to their ends, and runs that are interrupted.
-/
import ReleaseKit.Proofs.Interruption
import ReleaseKit.Proofs.Release

namespace ReleaseKit

/-! ## §1 Actions -/

/-- That an action leads from a tree to another, if every command succeeds and a compiler
writes its output. -/
def Action.Carries (output : CommandLine → Contents) (cwd : Location) (t t' : FileTree) :
    Action → Prop
  | resetDir path => t.resetDir cwd path = (.ok (), t')
  | createDir path => t.makeDirs cwd path = (.ok (), t')
  | exec command => t' = command.leave (output command) cwd t
  | copyFile source dest => t.copyFile cwd source dest = .ok t'
  | archive source entry dest => ∃ size, t.writeArchive cwd source entry dest = (.ok size, t')
  | writeFile path contents => t.writeWithDirs cwd path (.ofText contents) = (.ok (), t')

/-- That actions lead from a tree to another, one after the other. -/
inductive Leads (output : CommandLine → Contents) (cwd : Location) :
    List Action → FileTree → FileTree → Prop where
  | nil (t : FileTree) : Leads output cwd [] t t
  | cons {a : Action} {rest : List Action} {t middle t' : FileTree} :
    a.Carries output cwd t middle → Leads output cwd rest middle t' →
      Leads output cwd (a :: rest) t t'

section Leading

variable {σ : Type} {run : Runner σ} {output : CommandLine → Contents} {cwd : Location}
  {a : Action} {actions rest : List Action} {t t' t'' : FileTree}

theorem Action.Carries.unique (h : a.Carries output cwd t t')
    (h' : a.Carries output cwd t t'') : t' = t'' := by
  cases a with
  | resetDir path => exact (Prod.mk.inj (h.symm.trans h')).2
  | createDir path => exact (Prod.mk.inj (h.symm.trans h')).2
  | exec command => exact h.trans h'.symm
  | copyFile source dest => exact Except.ok.inj (h.symm.trans h')
  | archive source entry dest =>
    obtain ⟨size, h⟩ := h
    obtain ⟨size', h'⟩ := h'
    exact (Prod.mk.inj (h.symm.trans h')).2
  | writeFile path contents => exact (Prod.mk.inj (h.symm.trans h')).2

theorem Leads.append (h : Leads output cwd actions t t') (h' : Leads output cwd rest t' t'') :
    Leads output cwd (actions ++ rest) t t'' := by
  induction h with
  | nil t => exact h'
  | cons ha _ ih => exact .cons ha (ih h')

/-! ## §2 Effects -/

/-- An action that is no command does the same whatever runs commands. -/
theorem Action.carries_iff_of_no_command (ha : a.command? = none) (world : FileTree × σ) :
    a.Carries output cwd world.1 t' ↔ (∃ done, (a.effect run cwd world).1 = .ok done) ∧
      (a.effect run cwd world).2.1 = t' := by
  unfold effect
  cases a with
  | exec command => cases ha
  | resetDir path =>
    simp only [Carries, FileTree.resetDir, apply, Session.start]
    rcases FileSystem.resetDir world.1 cwd path with ⟨_ | _, left⟩ <;> simp [settle]
  | createDir path =>
    simp only [Carries, apply, Session.start, FileTree.makeDirs_eq]
    rcases world.1.makeDirs cwd path with ⟨_ | _, left⟩ <;> simp [settle]
  | copyFile source dest =>
    simp only [Carries, apply_copyFile, Session.start]
    rcases world.1.copyFile cwd source dest with _ | left <;> simp
  | archive source entry dest =>
    simp only [Carries, apply, Session.start, FileTree.pack_eq]
    rcases world.1.writeArchive cwd source entry dest with ⟨_ | _, left⟩ <;> simp
  | writeFile path contents =>
    simp only [Carries, FileTree.writeWithDirs, apply, Session.start]
    rcases FileSystem.writeWithDirs world.1 cwd path (.ofText contents) with ⟨_ | _, left⟩ <;> simp

/-- What an action that is no command accomplishes is known from where it leads. -/
theorem Accomplishes.of_carries (output : CommandLine → Contents) (ha : a.command? = none)
    {needed wanted : FileTree → Prop}
    (h : ∀ t, needed t → ∃ t', a.Carries output cwd t t' ∧ wanted t') :
    Accomplishes run cwd [a] needed wanted := by
  refine .single fun world hneeded => ?_
  obtain ⟨t', hcarries, hwanted⟩ := h world.1 hneeded
  obtain ⟨hdone, htree⟩ := (Action.carries_iff_of_no_command ha world).mp hcarries
  exact ⟨hdone, htree ▸ hwanted⟩

/-- Where every command succeeds, an action does what it does to the tree. -/
theorem Runner.Builds.carries_iff (hrun : run.Builds output cwd) (world : FileTree × σ) :
    a.Carries output cwd world.1 t' ↔ (∃ done, (a.effect run cwd world).1 = .ok done) ∧
      (a.effect run cwd world).2.1 = t' := by
  cases a with
  | exec command =>
    obtain ⟨hok, htree⟩ := hrun.effect_exec command world
    rw [htree]
    exact ⟨fun h => ⟨hok, h.symm⟩, fun h => h.2.symm⟩
  | resetDir | createDir | copyFile | archive | writeFile =>
    exact Action.carries_iff_of_no_command rfl world

/-- Where commands can fail, an action that would have succeeded does so, or it fails
and leaves the tree as it was, or as it should. -/
theorem Runner.BuildsOrFails.effect_cases (hrun : run.BuildsOrFails output cwd) {world : FileTree × σ}
    (h : a.Carries output cwd world.1 t') :
    (a.effect run cwd world).2.1 = t' ∨
      (∃ error, (a.effect run cwd world).1 = .error error) ∧
        (a.effect run cwd world).2.1 = world.1 := by
  cases a with
  | exec command =>
    have htree : (Action.effect run cwd (.exec command) world).2.1 =
        (run command world.2 world.1).tree := by
      unfold Action.effect Action.apply
      dsimp only [Session.start]
      split <;> rfl
    rw [htree]
    rcases hrun command world.2 world.1 with hbuilt | ⟨⟨error, herror⟩, hkept⟩
    · exact .inl (hbuilt.trans h.symm)
    · refine .inr ⟨⟨error, ?_⟩, hkept⟩
      unfold Action.effect Action.apply
      dsimp only [Session.start]
      rw [herror]
  | resetDir | createDir | copyFile | archive | writeFile =>
    exact .inl ((Action.carries_iff_of_no_command rfl world).mp h).2

/-! ## §3 Runs -/

/-- A run that gets to its end leads where its actions lead. -/
theorem leads_of_execute (hrun : run.Builds output cwd) {s left : Session σ} {done : Summary}
    (h : execute run cwd actions s = (.ok done, left)) : Leads output cwd actions s.tree left.tree := by
  induction actions generalizing s done left with
  | nil =>
    cases h
    exact .nil _
  | cons a rest ih =>
    rcases execute_cons_cases run cwd a rest s with
      ⟨told, hstop, -⟩ | ⟨error, told, hstop, -⟩ |
        ⟨one, told, result, last, hone, hworld, hrest, hend⟩
    · cases hstop.symm.trans h
    · cases hstop.symm.trans h
    · obtain ⟨hresult, rfl⟩ := Prod.mk.inj (hend.symm.trans h)
      cases result with
      | error stop => cases hresult
      | ok more =>
        have htree : told.tree = (a.effect run cwd (s.tree, s.state)).2.1 :=
          congrArg Prod.fst hworld
        exact .cons ((hrun.carries_iff (s.tree, s.state)).mpr ⟨⟨one, hone⟩, htree.symm⟩) (ih hrest)

/-- Where actions lead, a run of them gets to its end. -/
theorem execute_of_leads (hrun : run.Builds output cwd) (h : Leads output cwd actions t t') (state : σ) :
    ∃ done left, execute run cwd actions (.start t state none) = (.ok done, left) ∧
      left.tree = t' := by
  have hall : ∀ world : FileTree × σ, Leads output cwd actions world.1 t' →
      AllSucceed run cwd actions world ∧ (effects run cwd actions world).1 = t' := by
    clear h
    induction actions with
    | nil =>
      rintro world ⟨⟩
      exact ⟨.nil, rfl⟩
    | cons a rest ih =>
      rintro world (_ | ⟨ha, hrest⟩)
      obtain ⟨⟨done, hdone⟩, rfl⟩ := (hrun.carries_iff world).mp ha
      obtain ⟨hsucceed, htree⟩ := ih _ hrest
      exact ⟨.of_cons hdone hsucceed, htree⟩
  obtain ⟨hsucceed, htree⟩ := hall (t, state) h
  obtain ⟨done, left, hexecute, hworld⟩ :=
    execute_of_allSucceed (s := .start t state none) hsucceed rfl
  exact ⟨done, left, hexecute, (congrArg Prod.fst hworld).trans htree⟩

/-- An interrupted run leaves a tree that its actions lead through. -/
theorem leads_of_interrupted (hrun : run.BuildsOrFails output cwd) {s : Session σ}
    (h : Leads output cwd actions s.tree t') :
    ∃ before after, actions = before ++ after ∧
      Leads output cwd before s.tree (execute run cwd actions s).2.tree ∧
      Leads output cwd after (execute run cwd actions s).2.tree t' := by
  induction actions generalizing s with
  | nil =>
    obtain ⟨⟩ := h
    exact ⟨[], [], rfl, .nil _, .nil _⟩
  | cons a rest ih =>
    obtain _ | ⟨ha, hrest⟩ := id h
    have hcases := hrun.effect_cases (show a.Carries output cwd (s.tree, s.state).1 _ from ha)
    rcases execute_cons_cases run cwd a rest s with
      ⟨told, hstop, hworld⟩ | ⟨error, told, hstop, -, hworld⟩ |
        ⟨one, told, result, last, hone, hworld, hexecute, hend⟩
    · have htree : told.tree = s.tree := congrArg Prod.fst hworld
      rw [hstop, htree]
      exact ⟨[], _, rfl, .nil _, h⟩
    · have htree : told.tree = (a.effect run cwd (s.tree, s.state)).2.1 := congrArg Prod.fst hworld
      rw [hstop, htree]
      rcases hcases with hdone | ⟨-, hkept⟩
      · rw [hdone]
        exact ⟨[a], rest, rfl, .cons ha (.nil _), hrest⟩
      · rw [hkept]
        exact ⟨[], _, rfl, .nil _, h⟩
    · have htree : told.tree = (a.effect run cwd (s.tree, s.state)).2.1 := congrArg Prod.fst hworld
      rcases hcases with hdone | ⟨⟨error, herror⟩, -⟩
      · rw [hdone] at htree
        rw [← htree] at ha hrest
        obtain ⟨before, after, rfl, hbefore, hafter⟩ := ih hrest
        rw [hexecute] at hbefore hafter
        rw [hend]
        exact ⟨a :: before, after, rfl, .cons ha hbefore, hafter⟩
      · rw [hone] at herror
        cases herror

end Leading

end ReleaseKit
