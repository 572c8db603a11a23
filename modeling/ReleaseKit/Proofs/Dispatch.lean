/-
ReleaseKit.Proofs.Dispatch — what a lone argument asks for.

Without arguments the program releases everything, and this empties a directory and publishes.
So an argument that is no step must not come to the same: a step is asked for by its name or
by its older name, letter for letter, and any other text is refused before anything is looked
at (`step_arguments_exact`). `Step.spellings` lists the texts, with nothing in it of how they
are looked up; an argument that begins with a hyphen is an option and no text for a step.

  §1 Spellings  — `Step.spellings`, and the step that a text is looked up as.
  §2 Arguments  — what is asked for by one argument, and by none.
  §3 Programs   — a release of a step, and a refusal.
  §4 Together   — `step_arguments_exact`.
-/
import ReleaseKit.Proofs.Commands

namespace ReleaseKit

/-! ## §1 Spellings -/

namespace Step

/-- The texts that ask for a step: its name, and an older one that all but the last have. -/
def spellings : Step → List String
  | all => ["all", "push_all"]
  | clean => ["clean", "clean_version_dir"]
  | api => ["api", "apictl"]
  | build => ["build", "build_all"]
  | archive => ["archive", "push_zip"]
  | publish => ["publish"]

variable {step : Step} {s : String}

theorem name_mem_spellings (step : Step) : step.name ∈ step.spellings := by
  cases step <;> decide

theorem ofArg?_of_mem (h : s ∈ step.spellings) : ofArg? s = some step := by
  have hall : ∀ text ∈ step.spellings, ofArg? text = some step := by
    cases step <;> decide
  exact hall s h

theorem mem_spellings_of_ofName? (h : ofName? s = some step) : s ∈ step.spellings := by
  have hname : step.name = s := by simpa using List.find?_some h
  exact hname ▸ step.name_mem_spellings

theorem mem_spellings_of_lookup (h : aliases.lookup s = some step) : s ∈ step.spellings := by
  have hmem : (s, step) ∈ aliases := by
    obtain ⟨before, after, hsplit, -⟩ := List.lookup_eq_some_iff.mp h
    simp [hsplit]
  have hall : ∀ entry ∈ aliases, entry.1 ∈ entry.2.spellings := by decide
  exact hall _ hmem

/-- A text is looked up as a step exactly if it is one of the step's. -/
theorem ofArg?_eq_some : ofArg? s = some step ↔ s ∈ step.spellings := by
  refine ⟨fun h => ?_, ofArg?_of_mem⟩
  unfold ofArg? at h
  split at h
  · rename_i named hnamed
    obtain rfl := Option.some.inj h
    exact mem_spellings_of_ofName? hnamed
  · exact mem_spellings_of_lookup h

/-- What is handed over is looked up as no step if it is no text of a step. -/
theorem bind_ofArg?_eq_none {arg : OsText}
    (h : ∀ step : Step, ∀ s ∈ step.spellings, arg ≠ OsText.ofString s) :
    arg.text?.bind ofArg? = none := by
  rw [Option.bind_eq_none_iff]
  intro text htext
  rw [Option.eq_none_iff_forall_ne_some]
  exact fun step hstep => h step text (ofArg?_eq_some.mp hstep) (OsText.text?_eq_some.mp htext)

end Step

/-! ## §2 Arguments -/

/-- What is asked for by a step and nothing else. -/
def Arguments.ofStep (step : Step) : Arguments where
  step
  manifest := none
  distDir := ⟨Config.defaultDistDir⟩
  dryRun := false
  output := .text
  verbose := false

namespace Request

variable {s : String} {arg : OsText} {step : Step}

/-- Without arguments everything is released. -/
theorem ofArgs_nil : ofArgs [] = .ok (.release (.ofStep .all)) := rfl

/-- An argument without a hyphen in front waits to be taken for the step. -/
theorem takeAll_operand (h : arg.code.toList.head? ≠ some '-') :
    Given.nothing.takeAll [arg] = .ok { Given.nothing with pending := some (.step, some arg) } := by
  have hne : arg ≠ ⟨"--"⟩ := by
    rintro rfl
    exact h rfl
  have htake : Given.nothing.take arg =
      .ok { Given.nothing with pending := some (.step, some arg) } := by
    unfold Given.take
    split
    · rename_i heq
      exact absurd (congrArg List.head? heq) h
    · rename_i heq
      exact absurd (congrArg List.head? heq) h
    · rfl
  unfold Given.takeAll
  split
  · rename_i heq
    cases heq
  · rename_i heq
    exact absurd (List.cons.inj heq).1 hne
  · rename_i heq
    obtain ⟨rfl, rfl⟩ := List.cons.inj heq
    rw [htake]
    rfl

/-- The text of a step asks for the step. -/
theorem ofArgs_of_mem (h : s ∈ step.spellings) : ofArgs [s] = .ok (.release (.ofStep step)) := by
  have hall : ∀ text ∈ step.spellings, ofArgs [text] = .ok (.release (.ofStep step)) := by
    cases step <;> decide +kernel
  exact hall s h

/-- Any other text is refused: the empty one as missing, the others as no value. -/
theorem ofArgs_of_unknown (hhyphen : arg.code.toList.head? ≠ some '-')
    (h : ∀ step : Step, ∀ s ∈ step.spellings, arg ≠ OsText.ofString s) :
    ofArgs [arg] =
      .error (if arg.code = "" then .missingValue .step else .invalidValue .step arg) := by
  have hstep := Step.bind_ofArg?_eq_none h
  unfold ofArgs
  rw [takeAll_operand hhyphen]
  by_cases hempty : arg.code = "" <;>
    simp [Given.settled, Given.settle, Given.assign, Given.has, Given.nothing, hempty, hstep,
      bind, Except.bind, Except.mapError]

end Request

/-! ## §3 Programs -/

namespace Program

variable {σ τ : Type} [FileSystem τ] {run : Runner σ τ} {cwd : Location}
  {vars : String → Option ByteArray} {elapsed : Duration} {args : List OsText} {t : τ} {state : σ}
  {e : UsageError}

/-- Arguments that are not understood are refused with the code two; nothing is done. -/
theorem run_refused (h : Request.ofArgs args = .error e) :
    Program.run run cwd vars elapsed args t state =
      ⟨2, [], [.text (lines ["error: " ++ e.message])], t, state⟩ := by
  rw [Program.run, h]

theorem commands_refused (h : Request.ofArgs args = .error e) :
    commands run cwd vars elapsed args t state = [] := by
  rw [commands, run_refused h]

/-- The program goes by what its arguments ask for and not by how they say it. -/
theorem run_congr {other : List OsText} (h : Request.ofArgs args = Request.ofArgs other) :
    Program.run run cwd vars elapsed args t state =
      Program.run run cwd vars elapsed other t state := by
  rw [Program.run, h, Program.run]

theorem commands_congr {other : List OsText} (h : Request.ofArgs args = Request.ofArgs other) :
    commands run cwd vars elapsed args t state = commands run cwd vars elapsed other t state := by
  rw [commands, run_congr h, commands]

end Program

/-! ## §4 Together -/

/-- **A lone argument asks for a step exactly or for nothing.** If it is a text of a step, the
program does what it does for the step's name, commands included: it releases the step, by the
standard manifest. Without arguments it does what it does for `all`. Anything else, the empty
text and bytes that are not text included, is refused with the exit code two and a line about
it, unless it begins with a hyphen: no command is run, no file has changed, and the state of
the runner is what it was. -/
theorem step_arguments_exact {σ τ : Type} [FileSystem τ] (run : Runner σ τ) (cwd : Location)
    (vars : String → Option ByteArray) (elapsed : Duration) (t : τ) (state : σ) :
    let program := fun args : List OsText => Program.run run cwd vars elapsed args t state
    let commands := fun args : List OsText => Program.commands run cwd vars elapsed args t state
    (∀ step : Step, ∀ s ∈ step.spellings,
      program [s] = program [step.name] ∧ commands [s] = commands [step.name] ∧
      program [s] =
        match Program.configure vars t cwd (.ofStep step) with
        | .error complaint =>
          ⟨complaint.exitCode, [], [.text (Program.complaintLine complaint)], t, state⟩
        | .ok c => Program.release run cwd elapsed (.ofStep step) c t state) ∧
    (program [] = program ["all"] ∧ commands [] = commands ["all"]) ∧
    ∀ arg : OsText, arg.code.toList.head? ≠ some '-' →
      (∀ step : Step, ∀ s ∈ step.spellings, arg ≠ OsText.ofString s) →
      commands [arg] = [] ∧ ∃ reason, program [arg] =
        ⟨2, [], [.text (Program.lines ["error: " ++ reason])], t, state⟩ := by
  intro program commands
  have hsame : ∀ {args other}, Request.ofArgs args = Request.ofArgs other →
      program args = program other ∧ commands args = commands other :=
    fun h => ⟨Program.run_congr h, Program.commands_congr h⟩
  refine ⟨fun step s hs => ?_, hsame ?_, fun arg hhyphen hs => ?_⟩
  · have hasked := Request.ofArgs_of_mem hs
    have hname := Request.ofArgs_of_mem step.name_mem_spellings
    obtain ⟨hprogram, hcommands⟩ := hsame (hasked.trans hname.symm)
    exact ⟨hprogram, hcommands, Program.run_live (a := .ofStep step) hasked⟩
  · exact Request.ofArgs_nil.trans (Request.ofArgs_of_mem (Step.name_mem_spellings .all)).symm
  · have hrefused := Request.ofArgs_of_unknown hhyphen hs
    exact ⟨Program.commands_refused hrefused, _, Program.run_refused hrefused⟩

/-- The name of a step in capitals is not its name: nothing is run, where the name itself runs
three commands. -/
theorem capitals_ask_for_nothing :
    let run := Runner.rehearsing [] []
    let program := fun args : List OsText =>
      Program.run run [] Settings.productionVars (.ofParts 0 0) args .empty []
    let commands := fun args : List OsText =>
      Program.commands run [] Settings.productionVars (.ofParts 0 0) args .empty []
    let shouted : OsText := "PUBLISH"
    shouted.code.toList.head? ≠ some '-' ∧
      (∀ step : Step, ∀ s ∈ step.spellings, shouted ≠ OsText.ofString s) ∧
      (program [shouted]).code = 2 ∧ (program [shouted]).tree = .empty ∧
      commands [shouted] = [] ∧ (commands ["publish"]).length = 3 := by
  intro run program commands shouted
  have hhyphen : shouted.code.toList.head? ≠ some '-' := by decide +kernel
  have hspelling : ∀ step : Step, ∀ s ∈ step.spellings, shouted ≠ OsText.ofString s := by
    intro step
    cases step <;> decide +kernel
  obtain ⟨-, -, hother⟩ :=
    step_arguments_exact run [] Settings.productionVars (.ofParts 0 0) FileTree.empty []
  obtain ⟨hnone, reason, hprogram⟩ := hother shouted hhyphen hspelling
  have hcode : (program [shouted]).code = 2 := congrArg Outcome.code hprogram
  have htree : (program [shouted]).tree = .empty := congrArg Outcome.tree hprogram
  exact ⟨hhyphen, hspelling, hcode, htree, hnone, by decide +kernel⟩

end ReleaseKit
