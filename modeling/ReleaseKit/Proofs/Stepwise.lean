/-
ReleaseKit.Proofs.Stepwise — a full release is its steps, run one by one.

A plan can be cut anywhere: what is executed up to the cut and then from the cut on comes
to what is executed in one (`execute_append`), since a run hands on nothing but the session
and stops nowhere but at a failure. A full release is planned as the plans of the single
steps one after another. So whoever runs the steps by hand, each where the one before has
led, and stops at the first that fails, gets the release: the same files, the same
transcript and the same error, and if all succeed summaries that add up to the summary of
the release.

  §1 Several runs  — `executeEach`, `Summary.total`.
  §2 Cuts          — `execute_flatten`.
  §3 Steps         — `full_release_stepwise`.
-/
import Mathlib.Algebra.GroupWithZero.Nat
import ReleaseKit.Plan
import ReleaseKit.Proofs.Run

namespace ReleaseKit

/-! ## §1 Several runs -/

/-- Executes lists of actions one after another, each in a run of its own that starts where
the one before has ended, up to the first run that is stopped. -/
def executeEach {σ τ : Type} [FileSystem τ] (run : Runner σ τ) (cwd : Location) :
    List (List Action) → Session σ τ → Except Stopped (List Summary) × Session σ τ
  | [], s => (.ok [], s)
  | actions :: rest, s =>
    match execute run cwd actions s with
    | (.error stop, left) => (.error stop, left)
    | (.ok done, left) =>
      match executeEach run cwd rest left with
      | (.error stop, last) => (.error stop, last)
      | (.ok more, last) => (.ok (done :: more), last)

namespace Summary

/-- What several runs did together. -/
def total (parts : List Summary) : Summary := parts.foldr (· ++ ·) empty

@[simp] theorem total_nil : total [] = empty := rfl

@[simp] theorem total_cons (part : Summary) (parts : List Summary) :
    total (part :: parts) = part ++ total parts := rfl

/-- Counts are added up, archives listed one after another. -/
theorem total_eq (parts : List Summary) :
    total parts = ⟨(parts.map actions).sum, (parts.map commands).sum, parts.flatMap archives⟩ := by
  induction parts with
  | nil => rfl
  | cons part parts ih => simp [ih, append_def]

end Summary

/-! ## §2 Cuts -/

variable {σ τ : Type} [FileSystem τ]

/-- How a run of several lists in one ends, going by how the runs of the single lists did.
Where one of them was stopped, the actions of the lists before it come to the place. -/
def EndsAs (lists : List (List Action)) (result : Except Stopped Summary) :
    Except Stopped (List Summary) → Prop
  | .ok parts => parts.length = lists.length ∧ result = .ok (.total parts)
  | .error stop => ∃ before actions after, lists = before ++ actions :: after ∧
      result = .error { stop with index := stop.index + before.flatten.length }

/-- **However actions are cut into lists, the runs of these lists leave what one run
leaves, and end as it does.** The induction is on the lists, with one cut at a time. -/
theorem execute_flatten (run : Runner σ τ) (cwd : Location) (lists : List (List Action))
    (s : Session σ τ) :
    (execute run cwd lists.flatten s).2 = (executeEach run cwd lists s).2 ∧
      EndsAs lists (execute run cwd lists.flatten s).1 (executeEach run cwd lists s).1 := by
  induction lists generalizing s with
  | nil => exact ⟨rfl, rfl, rfl⟩
  | cons actions rest ih =>
    rw [List.flatten_cons, execute_append, executeEach]
    rcases execute run cwd actions s with ⟨stop | done, left⟩
    · exact ⟨rfl, [], actions, rest, rfl, rfl⟩
    · dsimp only
      obtain ⟨hleft, hend⟩ := ih left
      generalize execute run cwd rest.flatten left = whole at hleft hend ⊢
      generalize executeEach run cwd rest left = each at hleft hend ⊢
      rcases whole with ⟨wholeStop | wholeDone, last⟩ <;> rcases each with ⟨stop | parts, eachLast⟩
      · obtain ⟨before, part, after, hsplit, hstop⟩ := hend
        obtain rfl := Except.error.inj hstop
        refine ⟨hleft, actions :: before, part, after, congrArg (actions :: ·) hsplit, ?_⟩
        dsimp only
        rw [List.flatten_cons, List.length_append, Nat.add_comm actions.length, Nat.add_assoc]
      · cases hend.2
      · obtain ⟨before, part, after, hsplit, hstop⟩ := hend
        cases hstop
      · obtain ⟨hlength, hdone⟩ := hend
        obtain rfl := Except.ok.inj hdone
        exact ⟨hleft, congrArg (· + 1) hlength, rfl⟩

/-! ## §3 Steps -/

/-- **A full release is its steps, run one by one.** Run the steps after one another, the
API step only if the manifest includes it, and stop at the first that is stopped: the
session that is left is that of the full release, with its files, the state of the runner
and all that has been written. If a step was stopped, so was the release, with the same
error at the same action, which stands in the plan of the release behind the plans of the
earlier steps; if none was, the summary of the release is what the summaries of the steps
add up to. In general two lists of actions are executed together as the first is and then,
if it succeeded, the second. -/
theorem full_release_stepwise (run : Runner σ τ) (cwd : Location) :
    (∀ (c : Config) (s : Session σ τ),
      let steps := [Step.clean] ++ (if c.manifest.includeApi then [.api] else []) ++
        [.build, .archive, .publish]
      let whole := execute run cwd (Step.plan c .all) s
      let stepwise := executeEach run cwd (steps.map (Step.plan c)) s
      whole.2 = stepwise.2 ∧
        match stepwise.1 with
        | .ok parts =>
          parts.length = steps.length ∧
          whole.1 = .ok ⟨(parts.map Summary.actions).sum, (parts.map Summary.commands).sum,
            parts.flatMap Summary.archives⟩
        | .error stop => ∃ earlier step later, steps = earlier ++ step :: later ∧
          whole.1 = .error { stop with
            index := stop.index + (earlier.flatMap (Step.plan c)).length }) ∧
    ∀ (first rest : List Action) (s : Session σ τ),
      execute run cwd (first ++ rest) s =
        match execute run cwd first s with
        | (.error stop, left) => (.error stop, left)
        | (.ok done, left) =>
          match execute run cwd rest left with
          | (.error stop, last) => (.error { stop with index := stop.index + first.length }, last)
          | (.ok more, last) => (.ok (done ++ more), last) := by
  refine ⟨fun c s => ?_, execute_append run cwd⟩
  intro steps whole stepwise
  have hplan : Step.plan c .all = (steps.map (Step.plan c)).flatten :=
    (Step.plan_eq_flatMap_parts c .all).trans List.flatMap_def
  have hruns := execute_flatten run cwd (steps.map (Step.plan c)) s
  rw [← hplan] at hruns
  obtain ⟨hleft, hend⟩ :
    whole.2 = stepwise.2 ∧ EndsAs (steps.map (Step.plan c)) whole.1 stepwise.1 := hruns
  refine ⟨hleft, ?_⟩
  cases hstepwise : stepwise.1 with
  | error stop =>
    rw [hstepwise] at hend
    obtain ⟨before, actions, after, hsplit, hstop⟩ := hend
    obtain ⟨earlier, others, hsteps, rfl, hothers⟩ := List.map_eq_append_iff.mp hsplit
    obtain ⟨step, later, rfl, -, -⟩ := List.map_eq_cons_iff.mp hothers
    refine ⟨earlier, step, later, hsteps, ?_⟩
    rw [hstop, List.flatMap_def]
  | ok parts =>
    rw [hstepwise] at hend
    obtain ⟨hlength, hdone⟩ := hend
    rw [List.length_map] at hlength
    exact ⟨hlength, hdone.trans (congrArg Except.ok (Summary.total_eq parts))⟩

end ReleaseKit
