/-
ReleaseKit.Proofs.DryRun — what a dry run says of the release.

A dry run and a release put the same configuration together and plan the same
actions; then one lists them and the other carries them out. So a dry run fails only
where the release would not get to its first action, and in the same way. Otherwise
its listing has the lines of the release's echo: all of them if the release succeeds,
and those up to the failing action if it does not (`dry_run_foretells_release`). What
carries this is that an echo that takes everything has taken, after each action, the
lines of the actions started so far (`execute_lines`).

  §1 Echoes    — `startedBy`, and the echo of a run that has room for everything.
  §2 Lines     — the echo as the lines of a listing.
  §3 Failures  — exit codes, and what a release has started.
  §4 Together  — `dry_run_foretells_release`.
-/
import ReleaseKit.Program
import ReleaseKit.Proofs.Echo

namespace ReleaseKit

/-! ## §1 Echoes -/

/-- The actions that a run has started, going by how it ended. -/
def startedBy (actions : List Action) : Except Stopped Summary → List Action
  | .ok _ => actions
  | .error stop => actions.take stop.begun

theorem startedBy_cons {a : Action} {actions : List Action} {done : Summary}
    (result : Except Stopped Summary) :
    startedBy (a :: actions) (endAfter done result) = a :: startedBy actions result := by
  cases result with
  | ok more => rfl
  | error stop => simp [startedBy, endAfter]

/-- What was echoed. -/
def Writing.line? : Writing → Option (List UInt8)
  | echo bytes => some bytes
  | diagnosis _ => none

/-- The bytes of some writings, one writing after another. -/
theorem flatMap_eq_flatten {bytes : Writing → List UInt8} {bytes? : Writing → Option (List UInt8)}
    (h : ∀ w, bytes w = (bytes? w).getD []) (transcript : List Writing) :
    transcript.flatMap bytes = (transcript.filterMap bytes?).flatten := by
  induction transcript with
  | nil => rfl
  | cons w rest ih =>
    rw [List.flatMap_cons, List.filterMap_cons, h w, ih]
    cases bytes? w <;> rfl

section Echoes

variable {σ τ : Type}

/-- What has been echoed, one by one. -/
def Session.echoedLines (s : Session σ τ) : List (List UInt8) :=
  s.transcript.filterMap Writing.line?

theorem Session.echoed_eq (s : Session σ τ) : s.echoed = s.echoedLines.flatten :=
  flatMap_eq_flatten (fun w => by cases w <;> rfl) s.transcript

variable [FileSystem τ] {run : Runner σ τ} {cwd : Location} {actions : List Action}

/-- An action that is carried out echoes nothing of itself. -/
theorem Action.apply_lines (run : Runner σ τ) (cwd : Location) (a : Action) (s : Session σ τ) :
    (a.apply run cwd s).2.echoedLines = s.echoedLines := by
  cases a with
  | resetDir path => simp [apply, Session.echoedLines]
  | createDir path => simp [apply, Session.echoedLines]
  | exec command =>
    simp only [apply]
    split <;> simp [Session.diagnose, Session.echoedLines, Writing.line?]
  | copyFile source dest => simp [apply, Session.echoedLines]
  | archive source entry dest =>
    simp only [apply]
    split <;> rfl
  | writeFile path contents =>
    simp only [apply]
    split <;> rfl

/-- Where the echo takes everything, an action is told by its line as a whole. -/
theorem Action.perform_lines (run : Runner σ τ) (cwd : Location) (a : Action) {s : Session σ τ}
    (hroom : s.room = none) :
    (a.perform run cwd s).2.echoedLines = s.echoedLines ++ [a.echoLine] := by
  let told : Session σ τ :=
    { s with transcript := s.transcript ++ [.echo a.echoLine], room := none }
  have hecho : s.echo a.echoLine = (.ok (), told) := by
    rw [Session.echo, hroom]
  have hlines : (a.apply run cwd told).2.echoedLines = s.echoedLines ++ [a.echoLine] := by
    rw [apply_lines]
    simp [told, Session.echoedLines, Writing.line?]
  rw [perform, hecho]
  dsimp only
  rcases hresult : a.apply run cwd told with ⟨_ | _, left⟩ <;>
  · rw [hresult] at hlines
    exact hlines

/-- The lines of a run whose echo takes everything are those of the actions that it has
started. -/
theorem execute_lines (run : Runner σ τ) (cwd : Location) (actions : List Action) (s : Session σ τ)
    (hroom : s.room = none) :
    (execute run cwd actions s).2.echoedLines =
      s.echoedLines ++
        (startedBy actions (execute run cwd actions s).1).map Action.echoLine := by
  induction actions generalizing s with
  | nil => simp [execute, startedBy]
  | cons a rest ih =>
    have hlines := a.perform_lines run cwd hroom
    obtain ⟨left, hperform, -, -, hleft⟩ :=
      Action.perform_of_fits (a := a) (s := s) run cwd (by rw [hroom]; rfl)
    rw [hperform] at hlines
    rw [hroom, Option.map_none] at hleft
    cases hresult : (a.effect run cwd (s.tree, s.state)).1 with
    | error error => simpa [execute, hperform, hresult, startedBy, Stopped.begun] using hlines
    | ok done =>
      have hrun : execute run cwd (a :: rest) s =
          (endAfter done (execute run cwd rest left).1, (execute run cwd rest left).2) := by
        simp only [execute, hperform, hresult]
        rcases execute run cwd rest left with ⟨_ | _, last⟩ <;> rfl
      rw [hrun]
      dsimp only at hlines ⊢
      rw [startedBy_cons, List.map_cons, ih left hleft, hlines, List.append_assoc]
      rfl

/-- An echo that takes everything has taken the lines of the actions that were
started. -/
theorem execute_echoed (run : Runner σ τ) (cwd : Location) (actions : List Action)
    (s : Session σ τ) (hroom : s.room = none) :
    (execute run cwd actions s).2.echoed =
      s.echoed ++ echoText (startedBy actions (execute run cwd actions s).1) := by
  rw [Session.echoed_eq, execute_lines run cwd actions s hroom, List.flatten_append,
    ← Session.echoed_eq, echoText, List.flatMap_def]

/-- Where the echo takes everything, a run is stopped by nothing but its actions. -/
theorem started_of_stop {s left : Session σ τ} {stop : Stopped} (hroom : s.room = none)
    (h : execute run cwd actions s = (.error stop, left)) : stop.started = true := by
  obtain ⟨result, last, hrun, -, hresult⟩ := execute_stops run cwd actions s
  obtain rfl : .error stop = result := congrArg Prod.fst (h.symm.trans hrun)
  cases hfirst : firstStop run cwd actions (s.tree, s.state) s.room with
  | none =>
    rw [hfirst] at hresult
    obtain ⟨done, hdone⟩ := hresult
    cases hdone
  | some first =>
    rw [hfirst] at hresult
    obtain rfl := Except.error.inj hresult
    obtain ⟨place, hplace, -⟩ := firstStop_eq_some hfirst
    unfold stopAt at hplace
    rw [hroom] at hplace
    cases ha : actions[place]? with
    | none => simp [ha] at hplace
    | some a =>
      simp only [ha, Session.fits_none, if_true] at hplace
      split at hplace
      · obtain rfl := Option.some.inj hplace
        rfl
      · cases hplace

/-- Where the echo takes everything, what a stopped run has started ends with the
action that it was stopped at. -/
theorem startedBy_of_stop {s left : Session σ τ} {stop : Stopped} (hroom : s.room = none)
    (h : execute run cwd actions s = (.error stop, left)) :
    startedBy actions (.error stop) = actions.take stop.index ++ [stop.action] ∧
      stop.index < actions.length := by
  have hplace := action_of_stop h
  have hstarted := started_of_stop hroom h
  refine ⟨?_, (List.getElem?_eq_some_iff.mp hplace).1⟩
  rw [startedBy, Stopped.begun, if_pos hstarted, List.take_add_one, hplace]
  rfl

end Echoes

/-! ## §2 Lines -/

/-- The line of each action. -/
def Step.lines (step : Step) (c : Config) : List String := (step.plan c).map Action.render

namespace Program

theorem lines_append (first rest : List String) :
    lines (first ++ rest) = lines first ++ lines rest := by
  simp [lines, Text.bytesOf_append]

theorem lines_cons (text : String) (rest : List String) :
    lines (text :: rest) = lines [text] ++ lines rest :=
  lines_append [text] rest

/-- What is echoed is the lines of the actions. -/
theorem echoText_eq_lines (actions : List Action) :
    echoText actions = lines (actions.map Action.render) := by
  rw [Action.echoText_eq, lines, Action.listing, List.map_map]
  rfl

/-- A listing has the lines of the actions, each behind an arrow. -/
theorem planLines_eq (step : Step) (c : Config) :
    Report.planLines step (step.plan c) =
      Report.planHeader step (step.plan c) :: (step.lines c).map ("  → " ++ ·) := by
  simp [Report.planLines, Step.lines]

/-- The number in the header is that of the actions. -/
theorem planHeader_eq {step : Step} {actions : List Action} {count : Nat}
    (h : count = actions.length) :
    Report.planHeader step actions =
      "Dry run - step '" ++ step.name ++ "' would perform " ++ toString count ++ " action(s)" := by
  rw [h]
  rfl

end Program

/-! ## §3 Failures -/

theorem Complaint.exitCode_ne_zero {complaint : Complaint} (h : complaint.code ≠ 0) :
    complaint.exitCode ≠ 0 := by
  unfold exitCode
  split <;> omega

/-- A step that was stopped has failed, whatever the code of its command. -/
theorem ReleaseError.exitCode_ne_zero (e : ReleaseError) : e.exitCode ≠ 0 := by
  unfold exitCode
  split
  · split
    · decide
    · assumption
  · decide

/-- An archive is packed to a path of its action. -/
theorem Action.mem_paths_of_archiveDest? {action : Action} {path : LocalPath}
    (h : action.archiveDest? = some path) : path ∈ action.paths := by
  cases action <;> simp_all [Action.archiveDest?, Action.paths]

/-- A document is written if its paths are text. -/
theorem Report.document_eq {paths : List LocalPath} (members : List (String × Json))
    (h : ∀ path ∈ paths, path.isText = true) :
    Report.document paths members = .ok (.object members) := by
  rw [Report.document, if_pos (List.all_eq_true.mpr h)]

namespace Program

variable {σ τ : Type} [FileSystem τ] {run : Runner σ τ} {cwd : Location}
  {vars : String → Option ByteArray} {elapsed : Duration} {a : Arguments} {c : Config}
  {args : List OsText} {t : τ} {state : σ}

/-- What is wrong with a configuration asks for no other code than one. -/
theorem configure_error_code {complaint : Complaint}
    (h : configure vars t cwd a = .error complaint) : complaint.code = 1 := by
  unfold configure at h
  split at h
  · obtain rfl := Except.error.inj h
    rfl
  · split at h
    · obtain rfl := Except.error.inj h
      rfl
    · split at h
      · obtain rfl := Except.error.inj h
        rfl
      · cases h

theorem configure_error_exitCode {complaint : Complaint}
    (h : configure vars t cwd a = .error complaint) : complaint.exitCode ≠ 0 :=
  Complaint.exitCode_ne_zero (by rw [configure_error_code h]; decide)

/-- A release is staged where it is asked to be. -/
theorem distDir_of_configure (h : configure vars t cwd a = .ok c) : c.distDir = a.distDir := by
  unfold configure at h
  split at h
  · cases h
  · split at h
    · cases h
    · split at h
      · cases h
      · next hparts =>
        obtain rfl := Except.ok.inj h
        exact (Config.assemble_eq_ok.mp hparts).2.2.2

/-- A dry run puts the configuration together and lists the plan. -/
theorem run_dry (h : Request.ofArgs args = .ok (.release { a with dryRun := true })) :
    Program.run run cwd vars elapsed args t state =
      match configure vars t cwd a with
      | .error complaint => refuse complaint [] t state
      | .ok c => dryRun a c t state := by
  rw [Program.run, h]
  rfl

/-- Otherwise the configuration is put together in the same way and released. -/
theorem run_live (h : Request.ofArgs args = .ok (.release { a with dryRun := false })) :
    Program.run run cwd vars elapsed args t state =
      match configure vars t cwd a with
      | .error complaint => refuse complaint [] t state
      | .ok c => release run cwd elapsed a c t state := by
  rw [Program.run, h]
  rfl

omit [FileSystem τ] in
/-- A listing changes nothing. -/
theorem dryRun_leaves (a : Arguments) (c : Config) (t : τ) (state : σ) :
    (dryRun a c t state).tree = t ∧ (dryRun a c t state).state = state := by
  unfold dryRun refuse
  cases a.output with
  | json =>
    dsimp only
    cases Report.planJson a.step c (a.step.plan c) <;> exact ⟨rfl, rfl⟩
  | text =>
    dsimp only
    split <;> exact ⟨rfl, rfl⟩

/-- The program changes nothing if it is not asked for a release, or only for a listing. -/
theorem run_leaves (h : ∀ a, Request.ofArgs args = .ok (.release a) → a.dryRun = true) :
    (Program.run run cwd vars elapsed args t state).tree = t ∧
      (Program.run run cwd vars elapsed args t state).state = state := by
  rw [Program.run]
  split
  · exact ⟨rfl, rfl⟩
  · exact ⟨rfl, rfl⟩
  · exact ⟨rfl, rfl⟩
  · next a hrelease =>
    split
    · exact ⟨rfl, rfl⟩
    · rw [if_pos (h a hrelease)]
      exact dryRun_leaves a _ t state

/-- The paths that a JSON report lists: those of all actions for a dry run, and those of the
archives for a release. -/
def reported (a : Arguments) (c : Config) : List LocalPath :=
  if a.dryRun then (a.step.plan c).flatMap Action.paths else archiveDests (a.step.plan c)

/-- The report can be written: as text any can, as JSON one whose paths are text. -/
def CanReport (a : Arguments) (c : Config) : Prop :=
  a.output = .json → ∀ path ∈ reported a c, path.isText = true

instance (a : Arguments) (c : Config) : Decidable (CanReport a c) :=
  inferInstanceAs (Decidable (_ = _ → ∀ path ∈ reported a c, path.isText = true))

/-- What can be listed before it is done can be reported when it is done. -/
theorem CanReport.live (h : CanReport { a with dryRun := true } c) :
    CanReport { a with dryRun := false } c := by
  intro hjson path hpath
  obtain ⟨action, haction, hdest⟩ := List.mem_filterMap.mp hpath
  exact h hjson path (List.mem_flatMap.mpr ⟨action, haction, Action.mem_paths_of_archiveDest? hdest⟩)

/-- In a staging directory that is text every report can be written. -/
theorem canReport_of_isText (a : Arguments) (h : c.distDir.isText = true) : CanReport a c := by
  intro _ path hpath
  unfold reported at hpath
  split at hpath
  · obtain ⟨action, haction, hpath⟩ := List.mem_flatMap.mp hpath
    exact Config.isText_of_mem_plan h haction path hpath
  · obtain ⟨action, haction, hdest⟩ := List.mem_filterMap.mp hpath
    exact Config.isText_of_mem_plan h haction path (Action.mem_paths_of_archiveDest? hdest)

omit [FileSystem τ] in
/-- A dry run whose report can be written. -/
theorem dryRun_code (h : CanReport { a with dryRun := true } c) (t : τ) (state : σ) :
    (dryRun a c t state).code = 0 := by
  unfold dryRun
  dsimp only
  cases houtput : a.output with
  | text =>
    dsimp only
    split <;> rfl
  | json =>
    have hlisted : ∀ path ∈ (a.step.plan c).flatMap Action.paths, path.isText = true := h houtput
    rw [Report.planJson, Report.document_eq _ hlisted]

omit [FileSystem τ] in
/-- A dry run whose report cannot be written. -/
theorem dryRun_refused (h : ¬ CanReport { a with dryRun := true } c) (t : τ) (state : σ) :
    dryRun a c t state = refuse (.ofReport .path) (warnings a.step c) t state := by
  unfold CanReport at h
  simp only [not_forall, exists_prop] at h
  obtain ⟨hjson, path, hpath, htext⟩ := h
  have hall : ((a.step.plan c).flatMap Action.paths).all LocalPath.isText = false :=
    List.all_eq_false.mpr ⟨path, hpath, htext⟩
  simp [dryRun, hjson, Report.planJson, Report.document, hall]

/-- The document of a release that got to its end. -/
theorem releaseJson_eq (elapsed : Duration) {done : Summary} {s left : Session σ τ}
    (hrun : execute run cwd (a.step.plan c) s = (.ok done, left)) (hlive : a.dryRun = false)
    (hjson : a.output = .json) (h : CanReport a c) :
    ∃ document, Report.releaseJson a.step c done elapsed = .ok document := by
  refine ⟨_, Report.document_eq _ fun path hpath => h hjson path ?_⟩
  rw [(execute_counts hrun).2.2] at hpath
  simpa [reported, hlive] using hpath

/-- The actions that a release starts, as far as it gets: none if it cannot be
configured. -/
def started (run : Runner σ τ) (cwd : Location) (vars : String → Option ByteArray)
    (a : Arguments) (t : τ) (state : σ) : List Action :=
  match configure vars t cwd a with
  | .error _ => []
  | .ok c =>
    startedBy (a.step.plan c) (execute run cwd (a.step.plan c) (.start t state none)).1

/-- What a release does that gets to the end of its plan and can report. -/
theorem release_of_ok {done : Summary} {left : Session σ τ}
    (h : execute run cwd (a.step.plan c) (.start t state none) = (.ok done, left))
    (hreport : CanReport { a with dryRun := false } c) :
    left.echoed = lines (a.step.lines c) ∧ done.actions = (a.step.plan c).length ∧
      (release run cwd elapsed a c t state).code = 0 ∧
      (a.output = .text → (release run cwd elapsed a c t state).stdout =
        lines (Report.banner c :: a.step.lines c ++
          Report.summaryLines a.step c done elapsed)) ∧
      (a.output = .json → (release run cwd elapsed a c t state).notices =
        warnings a.step c ++ [.text left.written]) := by
  have hecho := execute_echoed run cwd (a.step.plan c) (.start t state none) rfl
  simp only [h, startedBy, Session.echoed_start, List.nil_append, echoText_eq_lines] at hecho
  refine ⟨hecho, (execute_counts h).1, ?_, fun htext => ?_, fun hjson => ?_⟩
  · cases houtput : a.output with
    | text => simp [release, h, houtput]
    | json =>
      obtain ⟨document, hdocument⟩ := releaseJson_eq (a := { a with dryRun := false })
        elapsed h rfl houtput hreport
      simp [release, h, houtput, hdocument]
  · simp only [release, h, htext, hecho]
    rw [List.cons_append, lines_cons _ (a.step.lines c ++ _), lines_append, Step.lines,
      List.append_assoc]
  · obtain ⟨document, hdocument⟩ := releaseJson_eq (a := { a with dryRun := false })
      elapsed h rfl hjson hreport
    simp [release, h, hjson, hdocument]

/-- What a release does that is stopped: it has echoed the lines up to the action that
it was stopped at. -/
theorem release_of_stop {stop : Stopped} {left : Session σ τ}
    (h : execute run cwd (a.step.plan c) (.start t state none) = (.error stop, left)) :
    ∃ before after, a.step.lines c = before ++ stop.action.render :: after ∧
      before.length = stop.index ∧ left.echoed = lines (before ++ [stop.action.render]) ∧
      (release run cwd elapsed a c t state).code ≠ 0 ∧
      (a.output = .text → (release run cwd elapsed a c t state).stdout =
        lines (Report.banner c :: (before ++ [stop.action.render]))) ∧
      (a.output = .json → (release run cwd elapsed a c t state).notices =
        warnings a.step c ++ [.text left.written, .log (.actionFailed stop),
          .text (complaintLine (.ofRelease a.step stop.error))]) := by
  obtain ⟨hstarted, hindex⟩ := startedBy_of_stop rfl h
  have hplace := action_of_stop h
  have hecho := execute_echoed run cwd (a.step.plan c) (.start t state none) rfl
  simp only [h, hstarted, Session.echoed_start, List.nil_append, echoText_eq_lines,
    List.map_append, List.map_cons, List.map_nil] at hecho
  have hcode : (Complaint.ofRelease a.step stop.error).exitCode ≠ 0 :=
    Complaint.exitCode_ne_zero stop.error.exitCode_ne_zero
  refine ⟨((a.step.plan c).take stop.index).map Action.render,
    ((a.step.plan c).drop (stop.index + 1)).map Action.render, ?_, ?_, hecho, ?_, fun htext => ?_,
    fun hjson => ?_⟩
  · rw [Step.lines, ← List.map_cons, ← List.map_append]
    congr 1
    have hget := (List.getElem?_eq_some_iff.mp hplace).2
    rw [← hget, List.getElem_cons_drop, List.take_append_drop]
  · rw [List.length_map, List.length_take]
    omega
  · cases houtput : a.output <;> simp [release, h, houtput, hcode]
  · simp only [release, h, htext, hecho]
    rw [lines_cons (Report.banner c) (_ ++ _)]
  · simp [release, h, hjson, stopNotice, started_of_stop rfl h]

/-- A release that is configured and has a plan starts it. -/
theorem started_eq_nil_of_ok (hconfig : configure vars t cwd a = .ok c)
    (hreport : CanReport { a with dryRun := false } c)
    (h : started run cwd vars a t state = []) :
    (release run cwd elapsed a c t state).code = 0 := by
  simp only [started, hconfig] at h
  rcases hrun : execute run cwd (a.step.plan c) (.start t state none) with ⟨stop | done, left⟩
  · rw [hrun, (startedBy_of_stop rfl hrun).1] at h
    simp at h
  · exact (release_of_ok hrun hreport).2.2.1

end Program

/-! ## §4 Together -/

/-- **A dry run tells the truth.** Let a dry run and a release be asked for the same, as text
or with paths in the plan that are text. The dry run fails exactly if the release fails before
it starts an action, and then both come to the same. Otherwise the listing of the dry run is a
header and the lines of the release behind arrows: a release that succeeds echoes all these
lines and has done as many actions as the header says; one that is stopped echoes them up to
the line of the action that it was stopped at. -/
theorem dry_run_foretells_release {σ τ : Type} [FileSystem τ] (run : Runner σ τ) (cwd : Location)
    (vars : String → Option ByteArray) (elapsed : Duration) (t : τ) (state : σ)
    (a : Arguments) (dryArgs liveArgs : List OsText)
    (hdry : Request.ofArgs dryArgs = .ok (.release { a with dryRun := true }))
    (hlive : Request.ofArgs liveArgs = .ok (.release { a with dryRun := false }))
    (hreport : ∀ c, Program.configure vars t cwd a = .ok c →
      Program.CanReport { a with dryRun := true } c) :
    let dry := Program.run run cwd vars elapsed dryArgs t state
    let live := Program.run run cwd vars elapsed liveArgs t state
    (dry.code ≠ 0 ↔ live.code ≠ 0 ∧ Program.started run cwd vars a t state = []) ∧
    (dry.code ≠ 0 → dry = live) ∧
    (dry.code = 0 → ∃ c header told,
      Program.configure vars t cwd a = .ok c ∧
      Report.planLines a.step (a.step.plan c) = header :: told.map ("  → " ++ ·) ∧
      (a.output = .text → told ≠ [] → dry.stdout =
        Program.lines (Report.banner c :: Report.planLines a.step (a.step.plan c))) ∧
      match execute run cwd (a.step.plan c) (.start t state none) with
      | (.ok done, left) =>
        live.code = 0 ∧ left.echoed = Program.lines told ∧
        header = "Dry run - step '" ++ a.step.name ++ "' would perform " ++
          toString done.actions ++ " action(s)" ∧
        (a.output = .text → live.stdout =
          Program.lines (Report.banner c :: told ++ Report.summaryLines a.step c done elapsed)) ∧
        (a.output = .json → live.notices = Program.warnings a.step c ++ [.text left.written])
      | (.error stop, left) =>
        live.code ≠ 0 ∧ ∃ before after, told = before ++ stop.action.render :: after ∧
        before.length = stop.index ∧
        left.echoed = Program.lines (before ++ [stop.action.render]) ∧
        (a.output = .text → live.stdout =
          Program.lines (Report.banner c :: (before ++ [stop.action.render]))) ∧
        (a.output = .json → live.notices = Program.warnings a.step c ++
          [.text left.written, .log (.actionFailed stop),
            .text (Program.complaintLine (.ofRelease a.step stop.error))])) := by
  intro dry live
  have hdry' : dry = _ := Program.run_dry hdry
  have hlive' : live = _ := Program.run_live hlive
  cases hconfig : Program.configure vars t cwd a with
  | error complaint =>
    rw [hconfig] at hdry' hlive'
    dsimp only at hdry' hlive'
    have hcode : (Program.refuse complaint [] t state).code ≠ 0 :=
      Program.configure_error_exitCode hconfig
    have hstarted : Program.started run cwd vars a t state = [] := by
      simp only [Program.started, hconfig]
    rw [hdry', hlive']
    exact ⟨by simp [hcode, hstarted], fun _ => rfl, fun h => absurd h hcode⟩
  | ok c =>
    rw [hconfig] at hdry' hlive'
    dsimp only at hdry' hlive'
    have hcan := hreport c hconfig
    have hcode : (Program.dryRun a c t state).code = 0 := Program.dryRun_code hcan t state
    rw [hdry', hlive']
    have hnever : ¬((Program.release run cwd elapsed a c t state).code ≠ 0 ∧
        Program.started run cwd vars a t state = []) :=
      fun h => h.1 (Program.started_eq_nil_of_ok hconfig hcan.live h.2)
    refine ⟨by simp [hnever, hcode], fun h => absurd hcode h, fun _ => ?_⟩
    refine ⟨c, Report.planHeader a.step (a.step.plan c), a.step.lines c, rfl,
      Program.planLines_eq a.step c, fun htext hne => ?_, ?_⟩
    · have hplan : a.step.plan c ≠ [] := fun h => hne (by rw [Step.lines, h]; rfl)
      simp [Program.dryRun, htext, hplan]
    · rcases hrun : execute run cwd (a.step.plan c) (.start t state none) with ⟨stop | done, left⟩
      · obtain ⟨before, after, htold, hlength, hecho, hcode, hout⟩ := Program.release_of_stop hrun
        exact ⟨hcode, before, after, htold, hlength, hecho, hout⟩
      · obtain ⟨hecho, hactions, hcode, hout⟩ := Program.release_of_ok hrun hcan.live
        exact ⟨hcode, hecho, Program.planHeader_eq hactions, hout⟩

/-- Variables that ask for version 1.0 in production. -/
def Settings.productionVars (name : String) : Option ByteArray :=
  [(versionVar, "1.0".toUTF8), (tagVar, "prod".toUTF8)].lookup name

/-- The pointer cannot be uploaded: the dry run succeeds, and the release fails with
the code of the upload and has echoed a beginning of what the dry run lists. -/
theorem failed_upload_was_listed :
    let run := Runner.rehearsing [⟨"cp dist/latest.txt", .exit (some 7)⟩] []
    let outcome := fun args =>
      Program.run run [] Settings.productionVars (.ofParts 0 0) args .empty []
    (outcome ["--dry-run", "publish"]).code = 0 ∧ (outcome ["publish"]).code = 7 ∧
      ∃ banner header before failing after,
        (outcome ["--dry-run", "publish"]).stdout = Program.lines
          (banner :: header :: (before ++ failing :: after).map ("  → " ++ ·)) ∧
        (outcome ["publish"]).stdout = Program.lines (banner :: (before ++ [failing])) := by
  intro run outcome
  let a : Arguments := ⟨.publish, none, ⟨"dist"⟩, false, .text, false⟩
  have hdry : Request.ofArgs ["--dry-run", "publish"] =
      .ok (.release { a with dryRun := true }) := by
    decide +kernel
  have hlive : Request.ofArgs ["publish"] = .ok (.release { a with dryRun := false }) := by
    decide +kernel
  have hcode : (outcome ["--dry-run", "publish"]).code = 0 := by decide +kernel
  have hfailed : (outcome ["publish"]).code = 7 := by decide +kernel
  obtain ⟨-, -, htold⟩ := dry_run_foretells_release run [] Settings.productionVars (.ofParts 0 0)
    .empty [] a ["--dry-run", "publish"] ["publish"] hdry hlive fun _ _ hjson => nomatch hjson
  obtain ⟨c, header, told, -, hlisting, hshown, hrun⟩ := htold hcode
  refine ⟨hcode, hfailed, ?_⟩
  split at hrun
  · -- a release that succeeds has another code
    exact absurd (hfailed.symm.trans hrun.1) (by decide)
  · obtain ⟨-, before, after, rfl, -, -, hout, -⟩ := hrun
    rw [hlisting] at hshown
    exact ⟨_, _, _, _, _, hshown rfl (by simp), hout rfl⟩

/-- The plan of a staging directory whose name is not text cannot be listed as JSON, but it can be
carried out: the dry run fails and the release succeeds. -/
theorem unwritable_listing_fails :
    let run := Runner.faithful Unit []
    let a : Arguments := ⟨.clean, none, .byteNamed, false, .json, false⟩
    let dryArgs : List OsText :=
      ["--dry-run", "-o", "json", "--dist-dir", LocalPath.byteNamed.os, "clean"]
    let liveArgs : List OsText := ["-o", "json", "--dist-dir", LocalPath.byteNamed.os, "clean"]
    let outcome := fun args =>
      Program.run run [] Settings.productionVars (.ofParts 0 0) args FileTree.empty ()
    Request.ofArgs dryArgs = .ok (.release { a with dryRun := true }) ∧
      Request.ofArgs liveArgs = .ok (.release { a with dryRun := false }) ∧
      (outcome dryArgs).code = 1 ∧ (outcome liveArgs).code = 0 := by
  intro run a dryArgs liveArgs outcome
  decide +kernel

end ReleaseKit
