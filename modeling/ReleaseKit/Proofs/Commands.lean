/-
ReleaseKit.Proofs.Commands — the external commands that the program runs.

What the program leaves does not say which commands it has run: a runner may keep that to
itself. A runner that notes what it is handed says it, and noting has no part in anything
else, so a run with notes is the same run (`execute_recording`, `run_recording`). What has
been noted in the end are the commands of the actions that were started, in their order.

  §1 Runs      — sessions with notes, and a run with notes.
  §2 Programs  — `Program.commands`.
-/
import ReleaseKit.Proofs.DryRun

namespace ReleaseKit

/-! ## §1 Runs -/

section Runs

variable {σ τ : Type}

/-- A session in which commands have been noted. -/
def Session.noting (s : Session σ τ) (log : List CommandLine) : Session (σ × List CommandLine) τ :=
  ⟨s.tree, (s.state, log), s.transcript, s.room⟩

theorem Session.echo_noting (s : Session σ τ) (log : List CommandLine) (bytes : List UInt8) :
    (s.noting log).echo bytes = ((s.echo bytes).1, (s.echo bytes).2.noting log) := by
  obtain ⟨tree, state, transcript, room⟩ := s
  cases room with
  | none => rfl
  | some most =>
    simp only [echo, noting]
    split <;> rfl

theorem Action.settle_noting (s : Session σ τ) (log : List CommandLine) (path : LocalPath)
    (out : Except Fault Unit × τ) :
    settle (s.noting log) path out =
      ((settle s path out).1, (settle s path out).2.noting (log ++ [])) := by
  rw [List.append_nil]
  rcases out with ⟨_ | _, tree⟩ <;> rfl

variable [FileSystem τ] {run : Runner σ τ} {cwd : Location}

/-- Noting changes nothing of what an action does; it adds the action's command. -/
theorem Action.apply_recording (a : Action) (s : Session σ τ) (log : List CommandLine) :
    a.apply run.recording cwd (s.noting log) =
      ((a.apply run cwd s).1, (a.apply run cwd s).2.noting (log ++ a.command?.toList)) := by
  cases a with
  | resetDir path => exact settle_noting s log path _
  | createDir path => exact settle_noting s log path _
  | exec command =>
    simp only [apply, Runner.recording, Session.noting, Session.diagnose]
    rcases run command s.state s.tree with ⟨_ | _, left, after, diagnosis⟩ <;> rfl
  | copyFile source dest => exact settle_noting s log source _
  | archive source entry dest =>
    simp only [apply, Session.noting, command?]
    rcases FileSystem.pack s.tree cwd source entry dest with ⟨_ | _, left⟩ <;> simp
  | writeFile path contents =>
    simp only [apply, Session.noting, command?]
    rcases FileSystem.writeWithDirs s.tree cwd path (.ofText contents) with ⟨_ | _, left⟩ <;> simp

/-- **A run with notes is the run without**, and notes the commands of the actions that it
starts. -/
theorem execute_recording (run : Runner σ τ) (cwd : Location) (actions : List Action)
    (s : Session σ τ) (log : List CommandLine) :
    execute run.recording cwd actions (s.noting log) =
      ((execute run cwd actions s).1, (execute run cwd actions s).2.noting (log ++
        (startedBy actions (execute run cwd actions s).1).filterMap Action.command?)) := by
  induction actions generalizing s log with
  | nil => simp [execute, startedBy]
  | cons a rest ih =>
    simp only [execute, Action.perform, Session.echo_noting]
    rcases s.echo a.echoLine with ⟨fault | done, told⟩
    · simp [startedBy, Stopped.begun]
    · dsimp only
      rw [Action.apply_recording]
      rcases a.apply run cwd told with ⟨error | one, left⟩
      · cases hc : a.command? <;> simp [startedBy, Stopped.begun, hc]
      · dsimp only
        rw [ih]
        rcases execute run cwd rest left with ⟨stop | more, last⟩
        · have hstarted : startedBy (a :: rest) (.error stop.later) =
              a :: startedBy rest (.error stop) := by
            simp [startedBy]
          cases hc : a.command? <;> simp [hstarted, hc]
        · cases hc : a.command? <;> simp [startedBy, hc]

end Runs

/-! ## §2 Programs -/

/-- What a program leaves, with the commands that have been noted. -/
def Outcome.noting {σ τ : Type} (o : Outcome σ τ) (log : List CommandLine) :
    Outcome (σ × List CommandLine) τ :=
  ⟨o.code, o.stdout, o.notices, o.tree, (o.state, log)⟩

namespace Program

variable {σ τ : Type} [FileSystem τ] {run : Runner σ τ} {cwd : Location}
  {vars : String → Option ByteArray} {elapsed : Duration} {a : Arguments} {args : List OsText}
  {t : τ} {state : σ}

/-- The external commands that the program runs, in order. -/
def commands (run : Runner σ τ) (cwd : Location) (vars : String → Option ByteArray)
    (elapsed : Duration) (args : List OsText) (t : τ) (state : σ) : List CommandLine :=
  (Program.run run.recording cwd vars elapsed args t (state, [])).state.2

/-- A release with notes is the release without. -/
theorem release_recording (run : Runner σ τ) (cwd : Location) (elapsed : Duration) (a : Arguments)
    (c : Config) (t : τ) (state : σ) :
    release run.recording cwd elapsed a c t (state, []) =
      (release run cwd elapsed a c t state).noting
        ((startedBy (a.step.plan c)
          (execute run cwd (a.step.plan c) (.start t state none)).1).filterMap
            Action.command?) := by
  have hrun := execute_recording run cwd (a.step.plan c) (.start t state none) []
  rw [List.nil_append] at hrun
  simp only [release]
  rw [show (.start t (state, []) none : Session _ τ) = (Session.start t state none).noting [] from
    rfl, hrun]
  rcases execute run cwd (a.step.plan c) (.start t state none) with ⟨stop | done, left⟩ <;>
    cases a.output
  · rfl
  · rfl
  · rfl
  · dsimp only
    cases Report.releaseJson a.step c done elapsed <;> rfl

omit [FileSystem τ] in
/-- A listing has nothing to do with notes. -/
theorem dryRun_noting (a : Arguments) (c : Config) (t : τ) (state : σ) :
    dryRun a c t (state, []) = (dryRun a c t state).noting [] := by
  unfold dryRun
  dsimp only
  cases a.output with
  | text =>
    dsimp only
    split <;> rfl
  | json =>
    dsimp only
    cases Report.planJson a.step c (a.step.plan c) <;> rfl

/-- A program with notes is the program without. -/
theorem run_recording (run : Runner σ τ) (cwd : Location) (vars : String → Option ByteArray)
    (elapsed : Duration) (args : List OsText) (t : τ) (state : σ) :
    Program.run run.recording cwd vars elapsed args t (state, []) =
      (Program.run run cwd vars elapsed args t state).noting
        (commands run cwd vars elapsed args t state) := by
  have hsame : ∃ log, Program.run run.recording cwd vars elapsed args t (state, []) =
      (Program.run run cwd vars elapsed args t state).noting log := by
    simp only [Program.run]
    split
    · exact ⟨[], rfl⟩
    · exact ⟨[], rfl⟩
    · exact ⟨[], rfl⟩
    · split
      · exact ⟨[], rfl⟩
      · split
        · exact ⟨[], dryRun_noting ..⟩
        · exact ⟨_, release_recording ..⟩
  obtain ⟨log, hlog⟩ := hsame
  rw [commands, hlog]
  rfl

/-- A release runs the commands of the actions that it starts. -/
theorem commands_of_release
    (h : Request.ofArgs args = .ok (.release { a with dryRun := false })) :
    commands run cwd vars elapsed args t state =
      (started run cwd vars a t state).filterMap Action.command? := by
  rw [commands, run_live h, started]
  cases configure vars t cwd a with
  | error complaint => rfl
  | ok c =>
    dsimp only
    rw [release_recording]
    rfl

end Program

end ReleaseKit
