/-
ReleaseKit.Proofs.Pointer — the pointer to the version published last.

Releases of different versions share one staging directory and the pointer in it.
Each may be stopped anywhere. No action but the one that writes the pointer can
touch it, and that action either writes all of it or nothing; so the pointer says
which run was the last to complete that action (`latest_tracks_history`). The
action comes late in the plan: whoever completes it has built and uploaded
everything.

  §1 One view     — what a single action of a run changes.
  §2 The pointer  — every other action leaves it alone.
  §3 The plan     — what is done before the pointer is written.
  §4 Histories    — `ReleaseRun`, `trail`, `latest_tracks_history`.
-/
import ReleaseKit.Proofs.Links
import ReleaseKit.Proofs.Layout
import ReleaseKit.Proofs.Success

namespace ReleaseKit

open Location

variable {σ : Type} {run : Runner σ} {cwd : Location} {actions : List Action} {s : Session σ}

/-! ## §1 One view -/

/-- A view of the tree that only one action changes is, after a run that has done
this action, what the action makes of it, and else what it was before. -/
theorem execute_view {β : Type} (view : FileTree → β) (target : Action) (value : β)
    (hquiet : ∀ a ∈ actions, a ≠ target → ∀ world, view (a.effect run cwd world).2.1 = view world.1)
    (hfail : ∀ world error, (target.effect run cwd world).1 = .error error →
      view (target.effect run cwd world).2.1 = view world.1)
    (hdone : ∀ world done, (target.effect run cwd world).1 = .ok done →
      view (target.effect run cwd world).2.1 = value) (s : Session σ) :
    view (execute run cwd actions s).2.tree =
      if target ∈ doneOf actions (execute run cwd actions s).1 then value else view s.tree := by
  induction actions generalizing s with
  | nil => simp [execute, doneOf]
  | cons a rest ih =>
    rcases execute_cons_cases run cwd a rest s with
      ⟨left, hrun, hworld⟩ | ⟨error, left, hrun, herror, hworld⟩ |
        ⟨done, left, result, last, hok, hworld, hrest, hrun⟩
    · have htree : left.tree = s.tree := congrArg Prod.fst hworld
      simp [hrun, doneOf, htree]
    · have htree : left.tree = (a.effect run cwd (s.tree, s.state)).2.1 := congrArg Prod.fst hworld
      have hview : view left.tree = view s.tree := by
        rw [htree]
        by_cases ha : a = target
        · subst ha
          exact hfail _ _ herror
        · exact hquiet a (by simp) ha _
      simp [hrun, doneOf, hview]
    · have htree : left.tree = (a.effect run cwd (s.tree, s.state)).2.1 := congrArg Prod.fst hworld
      have hothers := ih (fun b hb => hquiet b (by simp [hb])) left
      rw [hrest] at hothers
      rw [hrun]
      dsimp only
      rw [doneOf_cons, hothers, htree]
      -- the rest decides first, then the action before it
      by_cases hlater : target ∈ doneOf rest result
      · simp [hlater]
      · by_cases ha : a = target
        · subst ha
          simp [hdone _ _ hok]
        · simp [hlater, Ne.symm ha, hquiet a (by simp) ha]

/-! ## §2 The pointer -/

/-- The file at a location, if there is one. -/
def FileTree.file? (t : FileTree) (l : Location) : Option Contents :=
  match t.node? l with
  | some (.file contents) => some contents
  | _ => none

/-- A runner that changes no file but what a compiler is told to write. -/
def Runner.KeepsFiles (run : Runner σ) (cwd : Location) : Prop :=
  ∀ command state t l, ¬ (Action.exec command).Reaches cwd l →
    (run command state t).tree.file? l = t.file? l

namespace FileTree

variable {free way : Location → Prop} {t t' : FileTree} {l : Location}

/-- A directory that is made where nothing was is no file. -/
theorem SameBut.file?_eq (h : SameBut free way t t') (hfree : ¬ free l) :
    t'.file? l = t.file? l := by
  unfold file?
  rcases h l with h | h | ⟨-, hnone, hdir⟩
  · exact absurd h hfree
  · rw [h]
  · rw [hnone, hdir]

/-- What is written when a file is written. -/
theorem node?_of_writeWithDirs {p : LocalPath} {contents : Contents}
    (h : (t.writeWithDirs cwd p contents).1 = .ok ()) :
    (t.writeWithDirs cwd p contents).2.node? (p.location cwd) = some (.file contents) := by
  have hwrite : ∀ left : FileTree, (writeAlone cwd p contents left).1 = .ok () →
      (writeAlone cwd p contents left).2.node? (p.location cwd) =
        some (.file contents) := by
    intro left hok
    unfold writeAlone at hok ⊢
    split at hok
    · cases hok
    · rename_i written hw
      unfold writeFile at hw
      split at hw
      · cases hw
      · rename_i m hopen
        obtain ⟨rfl, hadmits⟩ := openNew_ok hopen
        obtain rfl := Except.ok.inj hw
        rw [node?_put (hadmits contents), if_pos rfl]
  revert h
  rw [writeWithDirs_eq]
  split
  · exact hwrite t
  · split
    · exact hwrite t
    · split
      · exact fun h => nomatch h
      · exact hwrite _

end FileTree

namespace Action

variable {a : Action} {l : Location}

/-- A file that an action does not reach stays as it is. -/
theorem effect_keeps_file (hrun : run.KeepsFiles cwd) (hl : ¬ a.Reaches cwd l)
    (world : FileTree × σ) : (a.effect run cwd world).2.1.file? l = world.1.file? l := by
  by_cases hexec : ∃ command, a = exec command
  · obtain ⟨command, rfl⟩ := hexec
    have hkeep := hrun command world.2 world.1 l hl
    unfold effect apply
    dsimp only
    split <;> exact hkeep
  · have hsame : FileTree.SameBut (a.Reaches cwd) (a.Passes cwd) world.1
        (a.effect run cwd world).2.1 :=
      apply_sameBut a (fun command state t ha => absurd ⟨command, ha⟩ hexec)
        (.start world.1 world.2 none)
    exact hsame.file?_eq hl

/-- What an action neither reaches nor passes stays as it is. -/
theorem effect_keeps_node (hrun : run.OnlyBuilds cwd) (hl : ¬ a.Reaches cwd l)
    (hway : ¬ a.Passes cwd l) (world : FileTree × σ) :
    (a.effect run cwd world).2.1.node? l = world.1.node? l := by
  have hsame := apply_sameBut a (fun command state t ha => ha ▸ hrun command state t)
    (.start world.1 world.2 none)
  exact hsame.node?_eq hl hway

end Action

/-- What writing a file does, as an action. -/
theorem Action.effect_writeFile (run : Runner σ) (cwd : Location) (path : LocalPath)
    (text : String) (world : FileTree × σ) :
    ((writeFile path text).effect run cwd world).2.1 =
        (world.1.writeWithDirs cwd path (.ofText text)).2 ∧
      ((∃ done, ((writeFile path text).effect run cwd world).1 = .ok done) ↔
        (world.1.writeWithDirs cwd path (.ofText text)).1 = .ok ()) := by
  unfold effect apply
  dsimp only [Session.start]
  rw [FileTree.fileSystem_writeWithDirs]
  rcases world.1.writeWithDirs cwd path (.ofText text) with ⟨_ | _, left⟩ <;> simp

namespace Config

variable {c : Config}

/-- The action that writes the pointer. -/
def pointerAction (c : Config) : Action := .writeFile c.latestPath c.latestContents

/-- Once it is done the pointer says the version. -/
theorem node?_of_pointerAction {done : Summary} {world : FileTree × σ}
    (h : (c.pointerAction.effect run cwd world).1 = .ok done) :
    (c.pointerAction.effect run cwd world).2.1.node? (c.latestPath.location cwd) =
      some (.file (.ofText c.latestContents)) := by
  obtain ⟨htree, hok⟩ := Action.effect_writeFile run cwd c.latestPath c.latestContents world
  rw [pointerAction, htree]
  exact FileTree.node?_of_writeWithDirs (hok.mp ⟨done, h⟩)

/-- If it fails it has made directories at most, and these where it passes. -/
theorem sameBut_of_pointerAction_error {error : ReleaseError} {world : FileTree × σ}
    (h : (c.pointerAction.effect run cwd world).1 = .error error) :
    FileTree.SameBut (fun _ => False) (c.pointerAction.Passes cwd) world.1
      (c.pointerAction.effect run cwd world).2.1 := by
  obtain ⟨htree, hok⟩ := Action.effect_writeFile run cwd c.latestPath c.latestContents world
  rw [pointerAction, htree]
  refine (FileTree.writeWithDirs_sameBut cwd c.latestPath _ world.1).mono ?_ fun _ hl => hl
  rintro l ⟨-, hl⟩
  obtain ⟨done, hdone⟩ := hok.mpr hl
  rw [pointerAction, hdone] at h
  cases h

/-- The directory of another version than the name of the pointer is another place. -/
theorem versionDir_ne_latestPath (hversion : c.version.text ≠ latestName) (dist : LocalPath) :
    OsText.encode c.version.text :: dist.location cwd ≠ c.latestPath.location cwd := by
  rw [location_latestPath]
  exact fun h => hversion (encode_eq_latestName.mp (List.cons.inj h).1)

/-- No action reaches the pointer that stays in the directory of a version: what shows of a
file there leads deeper. -/
theorem not_reaches_latestPath (hversion : c.version.text ≠ latestName) {a : Action}
    (h : a.StaysIn c.versionDir) : ¬ a.Reaches cwd (c.latestPath.location cwd) := by
  intro hl
  rcases Action.reaches_cases h hl with hin | ⟨name, hname, hin⟩
  · rw [location_versionDir, location_latestPath] at hin
    exact hversion (encode_eq_latestName.mp (eq_of_within_sibling hin))
  · rw [asShown_versionDir, LocalPath.location_join_plain hname,
      LocalPath.location_join_plain c.version.plainName, location_latestPath, within_iff] at hin
    have hlen := hin.length_le
    simp only [List.length_cons, LocalPath.length_location_asShown] at hlen
    omega

theorem not_passes_latestPath (hversion : c.version.text ≠ latestName)
    (hdist : c.distDir.Descends) {a : Action} (h : a.StaysIn c.versionDir) :
    ¬ a.Passes cwd (c.latestPath.location cwd) := by
  intro hl
  rcases Action.passes_cases (descends_versionDir hdist) h hl with hin | hin
  · rw [location_versionDir, location_latestPath] at hin
    exact hversion (encode_eq_latestName.mp (eq_of_within_sibling hin).symm)
  · rw [asShown_versionDir, LocalPath.location_join_plain c.version.plainName, within_iff] at hin
    refine versionDir_ne_latestPath hversion c.distDir.asShown (hin.eq_of_length ?_).symm
    simp [location_latestPath, LocalPath.length_location_asShown]

theorem not_within_distDir (c : Config) (cwd : Location) :
    ¬ within (c.latestPath.location cwd) (c.distDir.location cwd) = true := by
  rw [location_latestPath, within_iff]
  intro h
  have hlen := h.length_le
  rw [List.length_cons] at hlen
  omega

/-- A run and the file of the pointer: written if the run has done the action that
writes it, else as before. -/
theorem execute_file?_latest (hnames : c.manifest.PlainNames)
    (hversion : c.version.text ≠ latestName) (hrun : run.KeepsFiles cwd) (step : Step)
    (s : Session σ) :
    (execute run cwd (step.plan c) s).2.tree.file? (c.latestPath.location cwd) =
      if c.pointerAction ∈ doneOf (step.plan c) (execute run cwd (step.plan c) s).1 then
        some (.ofText c.latestContents)
      else s.tree.file? (c.latestPath.location cwd) := by
  refine execute_view (fun t => t.file? (c.latestPath.location cwd)) c.pointerAction
    (some (.ofText c.latestContents)) ?_ ?_ ?_ s
  · intro a ha hne world
    have hstay := (staysIn_of_mem_plan hnames ha).resolve_right hne
    exact Action.effect_keeps_file hrun (not_reaches_latestPath hversion hstay) world
  · intro world error herror
    exact (sameBut_of_pointerAction_error herror).file?_eq id
  · intro world done hok
    simp [FileTree.file?, node?_of_pointerAction hok]

/-- The same of whatever is at the place of the pointer, for a runner that makes no
directories but on the way to its output. -/
theorem execute_node?_latest (hnames : c.manifest.PlainNames)
    (hversion : c.version.text ≠ latestName) (hdist : c.distDir.Descends)
    (hrun : run.OnlyBuilds cwd) (step : Step) (s : Session σ) :
    (execute run cwd (step.plan c) s).2.tree.node? (c.latestPath.location cwd) =
      if c.pointerAction ∈ doneOf (step.plan c) (execute run cwd (step.plan c) s).1 then
        some (.file (.ofText c.latestContents))
      else s.tree.node? (c.latestPath.location cwd) := by
  refine execute_view (fun t => t.node? (c.latestPath.location cwd)) c.pointerAction
    (some (.file (.ofText c.latestContents))) ?_ ?_ ?_ s
  · intro a ha hne world
    have hstay := (staysIn_of_mem_plan hnames ha).resolve_right hne
    exact Action.effect_keeps_node hrun (not_reaches_latestPath hversion hstay)
      (not_passes_latestPath hversion hdist hstay) world
  · intro world error herror
    exact (sameBut_of_pointerAction_error herror).node?_eq id fun hway =>
      not_within_distDir c cwd (Action.within_of_passes_latest hdist hway)
  · intro world done hok
    exact node?_of_pointerAction hok

end Config

/-! ## §3 The plan -/

namespace Config

variable {c : Config}

/-- The actions of a full release before it publishes. -/
def preparation (c : Config) : List Action :=
  c.planClean ++ (if c.manifest.includeApi then c.planApi else []) ++ c.planBuild ++ c.planArchive

/-- The upload of everything that has been staged. -/
def uploadAll (c : Config) : Action := .exec (Toolchain.uploadDir c.versionDir c.binariesRemote)

/-- The pointer is written by no other part of a release than publishing. -/
theorem pointerAction_not_mem (c : Config) :
    c.pointerAction ∉ c.planClean ∧ c.pointerAction ∉ c.planApi ∧
      c.pointerAction ∉ c.planBuild ∧ c.pointerAction ∉ c.planArchive := by
  simp [pointerAction, planClean, planApi, planBuild, buildAction, planArchive_eq, bundleActions]

theorem pointerAction_not_mem_preparation (c : Config) : c.pointerAction ∉ c.preparation := by
  obtain ⟨hclean, hapi, hbuild, harchive⟩ := c.pointerAction_not_mem
  cases h : c.manifest.includeApi <;> simp [preparation, hclean, hapi, hbuild, harchive, h]

/-- A step that writes the pointer uploads everything before, and prepares before
that what it uploads if it is a full release. -/
theorem plan_of_pointerAction_mem {step : Step} (h : c.pointerAction ∈ step.plan c) :
    ∃ earlier, (step = .publish ∧ earlier = [] ∨ step = .all ∧ earlier = c.preparation) ∧
      earlier ++ [c.uploadAll, c.pointerAction] <+: step.plan c := by
  obtain ⟨hclean, hapi, hbuild, harchive⟩ := c.pointerAction_not_mem
  have hpublish : [c.uploadAll, c.pointerAction] <+: c.planPublish :=
    ⟨_, rfl⟩
  cases step with
  | clean => exact absurd h hclean
  | api => exact absurd h hapi
  | build => exact absurd h hbuild
  | archive => exact absurd h harchive
  | publish => exact ⟨[], .inl ⟨rfl, rfl⟩, hpublish⟩
  | all =>
    exact ⟨c.preparation, .inr ⟨rfl, rfl⟩,
      (List.prefix_append_right_inj c.preparation).mpr hpublish⟩

/-- A run that has done the action that writes the pointer has done all of that
before. -/
theorem done_of_pointerAction_done {step : Step} {result : Except Stopped Summary}
    (h : c.pointerAction ∈ doneOf (step.plan c) result) :
    ∃ earlier, (step = .publish ∧ earlier = [] ∨ step = .all ∧ earlier = c.preparation) ∧
      earlier ++ [c.uploadAll, c.pointerAction] <+: doneOf (step.plan c) result := by
  have hdone := prefix_doneOf (step.plan c) result
  obtain ⟨earlier, hstep, hpre⟩ := plan_of_pointerAction_mem (hdone.subset h)
  refine ⟨earlier, hstep, ?_⟩
  rcases List.prefix_or_prefix_of_prefix hpre hdone with hin | hin
  · exact hin
  · -- what is done ends within these actions, and holds the last of them
    have hlast : earlier ++ [c.uploadAll, c.pointerAction] =
        (earlier ++ [c.uploadAll]) ++ [c.pointerAction] := by simp
    rw [hlast] at hin ⊢
    rcases List.prefix_concat_iff.mp hin with heq | hshort
    · exact heq ▸ List.prefix_rfl
    · have hmem := hshort.subset h
      rw [List.mem_append, List.mem_singleton] at hmem
      rcases hmem with hmem | hmem
      · rcases hstep with ⟨-, rfl⟩ | ⟨-, rfl⟩
        · cases hmem
        · exact absurd hmem c.pointerAction_not_mem_preparation
      · cases hmem

end Config

/-! ## §4 Histories -/

/-- One run of a release: what it is run with, but for the tree. -/
structure ReleaseRun where
  config : Config
  step : Step
  /-- the states of the runner -/
  State : Type
  runner : Runner State
  state : State
  room : Option Nat

namespace ReleaseRun

/-- How the run goes from a tree. -/
def outcome (r : ReleaseRun) (cwd : Location) (t : FileTree) :
    Except Stopped Summary × Session r.State :=
  execute r.runner cwd (r.step.plan r.config) (.start t r.state r.room)

/-- The tree that the run leaves. -/
def after (r : ReleaseRun) (cwd : Location) (t : FileTree) : FileTree := (r.outcome cwd t).2.tree

/-- Whether the run completes the action that writes the pointer. -/
def movesPointer (r : ReleaseRun) (cwd : Location) (t : FileTree) : Bool :=
  decide (r.config.pointerAction ∈ doneOf (r.step.plan r.config) (r.outcome cwd t).1)

/-- The tree that a history of runs leaves. -/
def afterAll (cwd : Location) (runs : List ReleaseRun) (t : FileTree) : FileTree :=
  runs.foldl (fun t r => r.after cwd t) t

/-- The runs of a history, each with the tree that it starts from. -/
def trail (cwd : Location) : List ReleaseRun → FileTree → List (ReleaseRun × FileTree)
  | [], _ => []
  | r :: rest, t => (r, t) :: trail cwd rest (r.after cwd t)

/-- The run of a history that was the last to complete the action that writes the
pointer. -/
def lastMover (cwd : Location) (runs : List ReleaseRun) (t : FileTree) : Option ReleaseRun :=
  ((trail cwd runs t).reverse.find? fun (r, t) => r.movesPointer cwd t).map Prod.fst

/-- A later run decides first. -/
theorem lastMover_cons (r : ReleaseRun) (rest : List ReleaseRun) (t : FileTree) :
    lastMover cwd (r :: rest) t =
      (lastMover cwd rest (r.after cwd t)).or (if r.movesPointer cwd t then some r else none) := by
  simp only [lastMover, trail, List.reverse_cons, List.find?_append, Option.map_or,
    List.find?_singleton]
  cases r.movesPointer cwd t <;> rfl

/-- A run that stages in a directory: its names are plain, and its version is not
the name of the pointer. -/
structure StagesIn (r : ReleaseRun) (dist : LocalPath) : Prop where
  distDir : r.config.distDir = dist
  names : r.config.manifest.PlainNames
  version : r.config.version.text ≠ Config.latestName

/-- A view of the tree that every run sets or keeps is, after a history, what the
last run made of it that set it. -/
theorem view_of_history {β : Type} (view : FileTree → β) (value : ReleaseRun → β)
    {runs : List ReleaseRun}
    (hview : ∀ r ∈ runs, ∀ t, view (r.after cwd t) =
      if r.movesPointer cwd t then value r else view t) (t : FileTree) :
    view (afterAll cwd runs t) =
      match lastMover cwd runs t with
      | some r => value r
      | none => view t := by
  induction runs generalizing t with
  | nil => rfl
  | cons r rest ih =>
    have hrest := ih (fun b hb => hview b (by simp [hb])) (r.after cwd t)
    rw [hview r (by simp) t] at hrest
    have hafter : afterAll cwd (r :: rest) t = afterAll cwd rest (r.after cwd t) := rfl
    rw [hafter, hrest]
    rw [lastMover_cons]
    cases lastMover cwd rest (r.after cwd t) with
    | none => cases r.movesPointer cwd t <;> rfl
    | some mover => rfl

/-- A run and the file of the pointer. -/
theorem file?_of_after {r : ReleaseRun} {dist : LocalPath} (hr : r.StagesIn dist)
    (hkeep : r.runner.KeepsFiles cwd) (t : FileTree) :
    (r.after cwd t).file? ((dist.join Config.latestName).location cwd) =
      if r.movesPointer cwd t then some (.ofText r.config.latestContents)
      else t.file? ((dist.join Config.latestName).location cwd) := by
  obtain ⟨rfl, hnames, hversion⟩ := hr
  have hrun := Config.execute_file?_latest hnames hversion hkeep r.step (.start t r.state r.room)
  simp only [movesPointer, decide_eq_true_eq]
  exact hrun

theorem node?_of_after {r : ReleaseRun} {dist : LocalPath} (hdist : dist.Descends)
    (hr : r.StagesIn dist) (hbuild : r.runner.OnlyBuilds cwd) (t : FileTree) :
    (r.after cwd t).node? ((dist.join Config.latestName).location cwd) =
      if r.movesPointer cwd t then some (.file (.ofText r.config.latestContents))
      else t.node? ((dist.join Config.latestName).location cwd) := by
  obtain ⟨rfl, hnames, hversion⟩ := hr
  have hrun := Config.execute_node?_latest hnames hversion hdist hbuild r.step
    (.start t r.state r.room)
  simp only [movesPointer, decide_eq_true_eq]
  exact hrun

/-- A run that moves the pointer is one of a step that publishes, and everything
that its plan puts before the pointer has succeeded. -/
theorem allSucceed_of_movesPointer {r : ReleaseRun} {t : FileTree}
    (h : r.movesPointer cwd t = true) :
    ∃ earlier,
      (r.step = .publish ∧ earlier = [] ∨ r.step = .all ∧ earlier = r.config.preparation) ∧
      earlier ++ [r.config.uploadAll, r.config.pointerAction] <+: r.step.plan r.config ∧
      AllSucceed r.runner cwd (earlier ++ [r.config.uploadAll, r.config.pointerAction])
        (t, r.state) := by
  have hmem : r.config.pointerAction ∈ doneOf (r.step.plan r.config) (r.outcome cwd t).1 :=
    of_decide_eq_true h
  obtain ⟨earlier, hstep, hpre⟩ := Config.done_of_pointerAction_done hmem
  have hsucceed := allSucceed_doneOf r.runner cwd (r.step.plan r.config)
    (.start t r.state r.room)
  exact ⟨earlier, hstep, hpre.trans (prefix_doneOf _ _), hsucceed.beginning hpre⟩

end ReleaseRun

/-- A runner that only builds keeps all other files. -/
theorem Runner.OnlyBuilds.keepsFiles (h : run.OnlyBuilds cwd) : run.KeepsFiles cwd :=
  fun command state t _ hl => (h command state t).file?_eq hl

open ReleaseRun in
/-- **The pointer over a history of runs.** However the runs end, the pointer says
the version of the run that was the last to complete the action that writes it, and
it is as it was if there is none. If the runners make no directories but on the way
to their outputs, that is all there can be at its place. And a run completes that
action only if it publishes and has done all that its plan puts before. -/
theorem latest_tracks_history (cwd : Location) (dist : LocalPath) (hdist : dist.Descends)
    (runs : List ReleaseRun)
    (hruns : ∀ r ∈ runs, r.StagesIn dist ∧ r.runner.KeepsFiles cwd) (t : FileTree) :
    let latest := (dist.join Config.latestName).location cwd
    ((afterAll cwd runs t).file? latest =
      match lastMover cwd runs t with
      | some r => some (.ofText (r.config.version.text ++ "\n"))
      | none => t.file? latest) ∧
    ((∀ r ∈ runs, r.runner.OnlyBuilds cwd) →
      (afterAll cwd runs t).node? latest =
        match lastMover cwd runs t with
        | some r => some (.file (.ofText (r.config.version.text ++ "\n")))
        | none => t.node? latest) ∧
    ∀ (r : ReleaseRun) (start : FileTree), r.movesPointer cwd start = true →
      ∃ earlier,
        (r.step = .publish ∧ earlier = [] ∨ r.step = .all ∧ earlier = r.config.preparation) ∧
        earlier ++ [r.config.uploadAll, r.config.pointerAction] <+: r.step.plan r.config ∧
        AllSucceed r.runner cwd (earlier ++ [r.config.uploadAll, r.config.pointerAction])
          (start, r.state) := by
  intro latest
  refine ⟨?_, fun hbuild => ?_, fun r start h => allSucceed_of_movesPointer h⟩
  · exact view_of_history (fun t => t.file? latest)
      (fun r => some (.ofText r.config.latestContents))
      (fun r hr t => file?_of_after (hruns r hr).1 (hruns r hr).2 t) t
  · exact view_of_history (fun t => t.node? latest)
      (fun r => some (.file (.ofText r.config.latestContents)))
      (fun r hr t => node?_of_after hdist (hruns r hr).1 (hbuild r hr) t) t

/-- A step of a release of a version by the standard manifest. -/
def ReleaseRun.standard (step : Step) (version : Version) (room : Option Nat) : ReleaseRun where
  config := .standard version
  step
  State := Unit
  runner := Runner.faithful Unit []
  state := ()
  room

theorem ReleaseRun.standard_stagesIn {step : Step} {version : Version}
    (h : version.text ≠ Config.latestName) (room : Option Nat) :
    (standard step version room).StagesIn ⟨Config.defaultDistDir⟩ :=
  ⟨rfl, Manifest.standard_plainNames, h⟩

/-- A version has been published; the full release of the next one cannot echo more
than a hundred bytes. The pointer stays. -/
theorem pointer_outlives_interrupted_release :
    (ReleaseRun.afterAll []
      [.standard .publish ⟨"1.0", by decide⟩ none, .standard .all ⟨"2.0", by decide⟩ (some 100)]
        .empty).file? ["latest.txt", "dist"] = some (.ofText "1.0\n") := by
  have hmoves : (ReleaseRun.standard .publish ⟨"1.0", by decide⟩ none).movesPointer []
      .empty = true := by
    decide +kernel
  have hstays : (ReleaseRun.standard .all ⟨"2.0", by decide⟩ (some 100)).movesPointer []
      ((ReleaseRun.standard .publish ⟨"1.0", by decide⟩ none).after [] .empty) = false := by
    decide +kernel
  have hlast : ReleaseRun.lastMover []
      [.standard .publish ⟨"1.0", by decide⟩ none, .standard .all ⟨"2.0", by decide⟩ (some 100)]
        .empty = some (.standard .publish ⟨"1.0", by decide⟩ none) := by
    rw [ReleaseRun.lastMover_cons, ReleaseRun.lastMover_cons, hmoves, hstays]
    rfl
  have hhistory := (latest_tracks_history [] ⟨Config.defaultDistDir⟩
    (Config.standard_descends ⟨"1.0", by decide⟩)
    [.standard .publish ⟨"1.0", by decide⟩ none, .standard .all ⟨"2.0", by decide⟩ (some 100)]
    (fun r hr => by
      simp only [List.mem_cons, List.not_mem_nil, or_false] at hr
      rcases hr with rfl | rfl <;>
        exact ⟨ReleaseRun.standard_stagesIn (by decide) _,
          (Runner.faithful_onlyBuilds Unit []).keepsFiles⟩)
    .empty).1
  have hplace : (LocalPath.join ⟨Config.defaultDistDir⟩ Config.latestName).location [] =
      ["latest.txt", "dist"] := by
    decide +kernel
  rw [hlast, hplace] at hhistory
  exact hhistory

/-- A directory with the client binaries of the standard bundles, and a pointer beside it. -/
def FileTree.publishedBefore : FileTree :=
  (((((FileTree.empty.put ["dist"] .dir).put ["1.0", "dist"] .dir).put
    ["datacol-darwin-amd64", "1.0", "dist"] (.file (.ofText "for darwin"))).put
    ["datacol-linux-amd64", "1.0", "dist"] (.file (.ofText "for linux"))).put
    ["latest.txt", "dist"] (.file (.ofText "0.9\n")))

/-- The canonical binary is a link to the pointer. A step that does not write the pointer copies
over the link, and the pointer holds a binary. -/
theorem linked_copy_moves_pointer :
    let c := Config.standard ⟨"1.0", by decide⟩
    let run := (Runner.faithful Unit []).amongLinks
    let t : LinkedTree := ⟨.publishedBefore, [(["datacol", "1.0", "dist"], ⟨"../latest.txt"⟩)]⟩
    let ran := execute run [] (Step.plan c .archive) (.start t () none)
    c.pointerAction ∉ Step.plan c .archive ∧ ran.1.isOk = true ∧
      t.tree.file? ["latest.txt", "dist"] = some (.ofText "0.9\n") ∧
      ran.2.tree.tree.file? ["latest.txt", "dist"] = some (.ofText "for linux") := by
  intro c run t ran
  decide +kernel

end ReleaseKit
