/-
ReleaseKit.Proofs.ExitStatus — what the exit code of the program tells.

The code of a command that fails comes a long way: the runner reports it, the run stops
with it, the step complains with it, and the program narrows it to a byte. It arrives as it
was where a byte can hold it and it is not zero; otherwise the program exits with one, as it
does after every other failure. So zero is kept for success: a configuration that was only
listed, or a plan whose actions have all succeeded (`exit_status`). What carries this is that
a run whose echo takes everything stops nowhere but at an action that fails where the
actions before it have led (`failing_of_stop`).

  §1 Codes     — the exit code of a complaint, by its error.
  §2 Failures  — `Action.effect_error`: commands fail as the runner says.
  §3 Releases  — `Program.EndedBy`, and the exit code of a release.
  §4 Together  — `exit_status`.
-/
import ReleaseKit.Proofs.DryRun
import ReleaseKit.Proofs.Layout
import ReleaseKit.Proofs.Success

namespace ReleaseKit

/-! ## §1 Codes -/

namespace Complaint

variable {step : Step}

/-- The code of a command arrives if a byte can hold it and it is not zero. -/
theorem exitCode_of_commandFailed {line : String} {code : Int} (hleast : 1 ≤ code)
    (hmost : code ≤ 255) :
    ((ofRelease step (.commandFailed line (some code))).exitCode : Int) = code := by
  have hcode : (ofRelease step (.commandFailed line (some code))).code = code :=
    if_neg (by omega)
  rw [exitCode, hcode, if_pos (by omega)]
  omega

/-- Without such a code of a command, the exit code is one. -/
theorem exitCode_eq_one {e : ReleaseError}
    (h : ∀ line code, e = .commandFailed line (some code) → ¬(1 ≤ code ∧ code ≤ 255)) :
    (ofRelease step e).exitCode = 1 := by
  cases e with
  | commandFailed line given =>
    cases given with
    | none => rfl
    | some code =>
      have hunfit := h line code rfl
      rcases eq_or_ne code 0 with rfl | hne
      · rfl
      · have hcode : (ofRelease step (.commandFailed line (some code))).code = code :=
          if_neg hne
        rw [exitCode, hcode, if_neg (by omega)]
  | _ => rfl

end Complaint

/-! ## §2 Failures -/

/-- What went wrong with a file: it was refused, or an archive could not be written. -/
def ReleaseError.IsFileError : ReleaseError → Prop
  | io _ _ => True
  | archive _ _ => True
  | _ => False

section Failures

variable {σ τ : Type}

theorem Action.settle_error {s : Session σ τ} {path : LocalPath} {out : Except Fault Unit × τ}
    {e : ReleaseError} (h : (settle s path out).1 = .error e) : e.IsFileError := by
  rcases out with ⟨fault | done, tree⟩
  · obtain rfl := Except.error.inj h
    trivial
  · cases h

variable [FileSystem τ] {run : Runner σ τ} {cwd : Location}

theorem FileSystem.writeWithDirs_error {t left : τ} {path : LocalPath} {contents : Contents}
    {e : ReleaseError} (h : writeWithDirs t cwd path contents = (.error e, left)) :
    e.IsFileError := by
  have hwrite : ∀ {ready : τ}, writeWithDirs.write cwd path contents ready = (.error e, left) →
      e.IsFileError := by
    intro ready h
    unfold writeWithDirs.write at h
    split at h
    · obtain ⟨⟩ := h
      trivial
    · cases h
  unfold writeWithDirs at h
  split at h
  · exact hwrite h
  · split at h
    · exact hwrite h
    · split at h
      · obtain ⟨⟩ := h
        trivial
      · exact hwrite h

/-- An action fails as its command does, or at a file. -/
theorem Action.effect_error {a : Action} {world : τ × σ} {e : ReleaseError}
    (h : (a.effect run cwd world).1 = .error e) :
    (∃ command, a = .exec command ∧ (run command world.2 world.1).result = .error e) ∨
      e.IsFileError := by
  cases a with
  | resetDir path => exact .inr (settle_error h)
  | createDir path => exact .inr (settle_error h)
  | exec command =>
    simp only [effect, apply, Session.start] at h
    split at h
    · cases h
    · next herror =>
      obtain rfl := Except.error.inj h
      exact .inl ⟨command, rfl, herror⟩
  | copyFile source dest => exact .inr (settle_error h)
  | archive source entry dest =>
    simp only [effect, apply, Session.start] at h
    split at h
    · cases h
    · next fault _ _ =>
      obtain rfl := Except.error.inj h
      cases fault <;> exact .inr trivial
  | writeFile path contents =>
    simp only [effect, apply, Session.start] at h
    split at h
    · cases h
    · next herror =>
      obtain rfl := Except.error.inj h
      exact .inr (FileSystem.writeWithDirs_error herror)

/-- A command fails with what the runner reports. -/
theorem Action.effect_exec_error {command : CommandLine} {world : τ × σ}
    {e : ReleaseError} (h : (run command world.2 world.1).result = .error e) :
    ((Action.exec command).effect run cwd world).1 = .error e := by
  simp only [effect, apply, Session.start, h]

end Failures

/-! ## §3 Releases -/

namespace Program

variable {σ τ : Type} [FileSystem τ]

/-- A release was stopped because a command ended with a code: it is in the plan, all actions
before it have succeeded, and where they have led it fails with this code. -/
def EndedBy (run : Runner σ τ) (cwd : Location) (vars : String → Option ByteArray) (a : Arguments)
    (t : τ) (state : σ) (code : Int) : Prop :=
  a.dryRun = false ∧ ∃ c before command after line,
    configure vars t cwd a = .ok c ∧ a.step.plan c = before ++ .exec command :: after ∧
    AllSucceed run cwd before (t, state) ∧
    let world := effects run cwd before (t, state)
    (run command world.2 world.1).result = .error (.commandFailed line (some code))

variable {run : Runner σ τ} {cwd : Location} {vars : String → Option ByteArray}
  {elapsed : Duration} {a : Arguments} {c : Config} {args : List OsText} {t : τ} {state : σ}

/-- The exit code of a release goes by how its run has ended, and by whether this can be
reported. -/
theorem release_code (run : Runner σ τ) (cwd : Location) (elapsed : Duration)
    (hlive : a.dryRun = false) (c : Config) (t : τ) (state : σ) :
    (release run cwd elapsed a c t state).code =
      match (execute run cwd (a.step.plan c) (.start t state none)).1 with
      | .ok _ => if CanReport a c then 0 else 1
      | .error stop => (Complaint.ofRelease a.step stop.error).exitCode := by
  unfold release
  rcases hrun : execute run cwd (a.step.plan c) (.start t state none) with ⟨stop | done, left⟩
  · cases a.output <;> rfl
  · have hpaths := (execute_counts hrun).2.2
    cases houtput : a.output with
    | text =>
      have hcan : CanReport a c := fun hjson => nomatch houtput.symm.trans hjson
      simp [hcan]
    | json =>
      have hcan : CanReport a c ↔
          (done.archives.map ArchiveRecord.path).all LocalPath.isText = true := by
        simp [CanReport, houtput, reported, hlive, hpaths]
      by_cases hall : (done.archives.map ArchiveRecord.path).all LocalPath.isText = true
      · simp only [Report.releaseJson, Report.document, if_pos hall, if_pos (hcan.mpr hall)]
      · simp only [Report.releaseJson, Report.document, if_neg hall, if_neg (mt hcan.mp hall)]
        rfl

/-- A release ends with zero exactly if its actions all succeed and this can be reported. -/
theorem release_code_eq_zero_iff (hlive : a.dryRun = false) :
    (release run cwd elapsed a c t state).code = 0 ↔
      AllSucceed run cwd (a.step.plan c) (t, state) ∧ CanReport a c := by
  rw [release_code run cwd elapsed hlive]
  constructor
  · intro h
    cases hend : (execute run cwd (a.step.plan c) (.start t state none)).1 with
    | ok done =>
      rw [hend] at h
      refine ⟨allSucceed_of_isOk (s := .start t state none) (by rw [hend]; rfl), ?_⟩
      by_contra hcan
      simp [hcan] at h
    | error stop =>
      rw [hend] at h
      exact absurd h (Complaint.exitCode_ne_zero stop.error.exitCode_ne_zero)
  · rintro ⟨h, hcan⟩
    obtain ⟨done, last, hrun, -⟩ := execute_of_allSucceed (s := .start t state none) h rfl
    simp [hrun, hcan]

/-- A release that was stopped because a command ended with a code ends with this code, if a
byte can hold it and it is not zero. -/
theorem release_code_of_endedBy {ended : Int} (hconfig : configure vars t cwd a = .ok c)
    (h : EndedBy run cwd vars a t state ended) (hleast : 1 ≤ ended) (hmost : ended ≤ 255) :
    ((release run cwd elapsed a c t state).code : Int) = ended := by
  obtain ⟨hlive, c', before, command, after, line, hconfig', hplan, hbefore, hfail⟩ := h
  obtain rfl : c = c' := Except.ok.inj (hconfig.symm.trans hconfig')
  obtain ⟨last, hrun, -⟩ : ∃ last, execute run cwd (before ++ .exec command :: after)
      (.start t state none) = (.error ⟨before.length, .exec command, true, _⟩, last) ∧ _ :=
    execute_of_failing hbefore (Action.effect_exec_error hfail) rfl
  rw [release_code run cwd elapsed hlive, hplan, hrun]
  exact Complaint.exitCode_of_commandFailed hleast hmost

/-- A release that fails otherwise ends with one. -/
theorem release_code_eq_one (hconfig : configure vars t cwd a = .ok c) (hlive : a.dryRun = false)
    (hfailed : (release run cwd elapsed a c t state).code ≠ 0)
    (h : ∀ ended, EndedBy run cwd vars a t state ended → ¬(1 ≤ ended ∧ ended ≤ 255)) :
    (release run cwd elapsed a c t state).code = 1 := by
  rw [release_code run cwd elapsed hlive] at hfailed ⊢
  rcases hrun : execute run cwd (a.step.plan c) (.start t state none) with ⟨stop | done, left⟩
  · refine Complaint.exitCode_eq_one fun line code herror => h code ?_
    obtain ⟨before, after, hplan, hbefore, hfail⟩ :=
      failing_of_stop hrun (started_of_stop rfl hrun)
    rw [herror] at hfail
    obtain ⟨command, haction, hresult⟩ | hfile := Action.effect_error hfail
    · rw [haction] at hplan
      exact ⟨hlive, c, before, command, after, line, hconfig, hplan, hbefore, hresult⟩
    · exact hfile.elim
  · rw [hrun] at hfailed
    by_cases hcan : CanReport a c
    · exact absurd (if_pos hcan) hfailed
    · exact if_neg hcan

/-- The exit code by what the program is asked for: one without a configuration, that of a
listing if it is only to be listed, and that of the release otherwise. -/
theorem run_code (h : Request.ofArgs args = .ok (.release a)) :
    (Program.run run cwd vars elapsed args t state).code =
      match configure vars t cwd a with
      | .error _ => 1
      | .ok c =>
        if a.dryRun then if CanReport a c then 0 else 1
        else (release run cwd elapsed a c t state).code := by
  rw [Program.run, h]
  dsimp only
  cases hconfig : configure vars t cwd a with
  | error complaint =>
    dsimp only
    rw [refuse, Complaint.exitCode, configure_error_code hconfig]
    rfl
  | ok c =>
    dsimp only
    cases hdry : a.dryRun with
    | false => simp
    | true =>
      have hsame : { a with dryRun := true } = a := by rw [← hdry]
      rw [if_pos rfl, if_pos rfl]
      by_cases hcan : CanReport a c
      · rw [dryRun_code (hsame ▸ hcan), if_pos hcan]
      · rw [dryRun_refused (hsame ▸ hcan), if_neg hcan]
        rfl

end Program

/-! ## §4 Together -/

/-- **The exit code tells whether the program did what it was asked for, and if a command
failed how.** It is zero exactly if the configuration could be put together, either was only to
be listed or has a plan whose actions all succeed, and this can be reported: as text always, as
JSON if the paths to be listed are text. If the release was stopped because a command ended
with a code that a byte can hold and that is not zero, that is the exit code. After every other
failure it is one. -/
theorem exit_status {σ τ : Type} [FileSystem τ] (run : Runner σ τ) (cwd : Location)
    (vars : String → Option ByteArray) (elapsed : Duration) (t : τ) (state : σ)
    (args : List OsText) (a : Arguments) (h : Request.ofArgs args = .ok (.release a)) :
    let code := (Program.run run cwd vars elapsed args t state).code
    (code = 0 ↔ ∃ c, Program.configure vars t cwd a = .ok c ∧
      (a.dryRun = true ∨ AllSucceed run cwd (a.step.plan c) (t, state)) ∧
      Program.CanReport a c) ∧
    (∀ ended, Program.EndedBy run cwd vars a t state ended → 1 ≤ ended → ended ≤ 255 →
      (code : Int) = ended) ∧
    (code ≠ 0 →
      (∀ ended, Program.EndedBy run cwd vars a t state ended → ¬(1 ≤ ended ∧ ended ≤ 255)) →
      code = 1) := by
  intro code
  have hcode : code = _ := Program.run_code h
  clear_value code
  cases hconfig : Program.configure vars t cwd a with
  | error complaint =>
    obtain rfl : code = 1 := by rw [hcode, hconfig]
    refine ⟨by simp, ?_, fun _ _ => rfl⟩
    rintro ended ⟨-, c, before, command, after, line, hconfig', -⟩
    exact absurd (hconfig.symm.trans hconfig') nofun
  | ok c =>
    rw [hconfig] at hcode
    cases hdry : a.dryRun with
    | true =>
      obtain rfl : code = if Program.CanReport a c then 0 else 1 := by rw [hcode, hdry]; rfl
      refine ⟨by simp, fun ended hended => ?_, fun hne _ => ?_⟩
      · exact absurd (hdry.symm.trans hended.1) nofun
      · by_cases hcan : Program.CanReport a c <;> simp_all
    | false =>
      obtain rfl : code = (Program.release run cwd elapsed a c t state).code := by
        rw [hcode, hdry]
        rfl
      refine ⟨?_, fun ended => Program.release_code_of_endedBy hconfig,
        Program.release_code_eq_one hconfig hdry⟩
      simp [Program.release_code_eq_zero_iff hdry]

/-- The upload of the pointer ends with the largest code that a byte can hold: nothing else
has failed, and the program ends with this code. -/
theorem status_of_failed_upload :
    let run := Runner.rehearsing [⟨"cp dist/latest.txt", .exit (some 255)⟩] []
    let a : Arguments := ⟨.publish, none, ⟨"dist"⟩, false, .text, false⟩
    Request.ofArgs ["publish"] = .ok (.release a) ∧
      Program.EndedBy run [] Settings.productionVars a .empty [] 255 ∧
      ((Program.run run [] Settings.productionVars (.ofParts 0 0) ["publish"] .empty []).code : Int)
        = 255 := by
  intro run a
  have hargs : Request.ofArgs ["publish"] = .ok (.release a) := by decide +kernel
  have hended : Program.EndedBy run [] Settings.productionVars a .empty [] 255 := by
    let c := Config.standard ⟨"1.0", by decide⟩
    let upload := Toolchain.upload c.latestPath c.latestRemote
    have hruns : (execute run [] ((a.step.plan c).take 2) (.start .empty [] none)).1.isOk := by
      decide +kernel
    have hbefore : AllSucceed run [] ((a.step.plan c).take 2) (.empty, []) :=
      allSucceed_of_isOk (s := .start FileTree.empty [] none) hruns
    have hsettings : Settings.ofEnvironment Settings.productionVars = .ok ⟨"1.0", "prod"⟩ := by
      decide +kernel
    have hconfig : Program.configure Settings.productionVars FileTree.empty [] a = .ok c := by
      have hparts : Config.assemble ⟨"1.0", "prod"⟩ .standard ⟨"dist"⟩ = .ok c :=
        Config.assemble_eq_ok.mpr ⟨rfl, rfl, rfl, rfl⟩
      simp only [Program.configure, hsettings, a, hparts]
    have hplan : a.step.plan c =
        (a.step.plan c).take 2 ++ .exec upload :: (a.step.plan c).drop 3 := by
      decide +kernel
    exact ⟨rfl, c, _, upload, _, upload.render, hconfig, hplan, hbefore, by decide +kernel⟩
  exact ⟨hargs, hended, (exit_status run [] Settings.productionVars (.ofParts 0 0) .empty []
    ["publish"] a hargs).2.1 255 hended (by decide) (by decide)⟩

/-- A dry run that has a configuration, and that cannot write its listing as JSON. -/
theorem unwritable_listing_status :
    let run := Runner.faithful Unit []
    let a : Arguments := ⟨.clean, none, .byteNamed, true, .json, false⟩
    let args : List OsText :=
      ["--dry-run", "-o", "json", "--dist-dir", LocalPath.byteNamed.os, "clean"]
    Request.ofArgs args = .ok (.release a) ∧ a.dryRun = true ∧
      (Program.configure Settings.productionVars FileTree.empty [] a).isOk = true ∧
      (Program.run run [] Settings.productionVars (.ofParts 0 0) args FileTree.empty ()).code = 1 := by
  intro run a args
  decide +kernel

/-- A code that comes to zero in a byte does not pass for success. -/
example :
    let run := Runner.rehearsing [⟨"cp dist/latest.txt", .exit (some 256)⟩] []
    (Program.run run [] Settings.productionVars (.ofParts 0 0) ["publish"] .empty []).code = 1 := by
  decide +kernel

end ReleaseKit
