/-
ReleaseKit.Proofs.Success — lists of actions that succeed.

That actions succeed is said of each of them where those before it lead
(`AllSucceed`). What a run has done has succeeded; and if all actions succeed and
the echo takes their lines, the run gets to its end. Lists of actions are composed
by what they need and what they bring about (`Accomplishes`).

  §1 Succeeding     — `AllSucceed`, one action and several.
  §2 Runs           — `doneOf`, `allSucceed_doneOf`, `execute_of_allSucceed`,
                      `failing_of_stop`.
  §3 Accomplishing  — `Accomplishes`, composed over lists.
-/
import ReleaseKit.Proofs.FirstFailure

namespace ReleaseKit

variable {σ τ : Type} [FileSystem τ] {run : Runner σ τ} {cwd : Location} {actions : List Action}
  {s : Session σ τ}

/-! ## §1 Succeeding -/

/-- Every action of a list succeeds where those before it lead. -/
def AllSucceed (run : Runner σ τ) (cwd : Location) (actions : List Action) (world : τ × σ) :
    Prop :=
  ∀ (i : Nat) (a : Action), actions[i]? = some a →
    ∃ done, (a.effect run cwd (effects run cwd (actions.take i) world)).1 = .ok done

theorem AllSucceed.nil {world : τ × σ} : AllSucceed run cwd [] world := by
  intro i a ha
  simp at ha

theorem AllSucceed.of_cons {a : Action} {done : Summary} {world : τ × σ}
    (ha : (a.effect run cwd world).1 = .ok done)
    (h : AllSucceed run cwd actions (a.effect run cwd world).2) :
    AllSucceed run cwd (a :: actions) world := by
  intro i b hb
  cases i with
  | zero =>
    obtain rfl : a = b := by simpa using hb
    exact ⟨done, ha⟩
  | succ i =>
    rw [List.take_succ_cons, effects_cons]
    exact h i b (by simpa using hb)

theorem AllSucceed.beginning {before : List Action} {world : τ × σ}
    (h : AllSucceed run cwd actions world) (hpre : before <+: actions) :
    AllSucceed run cwd before world := by
  obtain ⟨rest, rfl⟩ := hpre
  intro i a ha
  have hi : i < before.length := (List.getElem?_eq_some_iff.mp ha).1
  have := h i a (by rw [List.getElem?_append_left hi, ha])
  rwa [List.take_append_of_le_length hi.le] at this

theorem effects_append (first rest : List Action) (world : τ × σ) :
    effects run cwd (first ++ rest) world = effects run cwd rest (effects run cwd first world) :=
  List.foldl_append

theorem AllSucceed.append {first rest : List Action} {world : τ × σ}
    (h : AllSucceed run cwd first world)
    (h' : AllSucceed run cwd rest (effects run cwd first world)) :
    AllSucceed run cwd (first ++ rest) world := by
  induction first generalizing world with
  | nil => exact h'
  | cons a first ih =>
    obtain ⟨done, ha⟩ := h 0 a rfl
    refine .of_cons ha (ih ?_ h')
    intro i b hb
    have := h (i + 1) b (by simpa using hb)
    rwa [List.take_succ_cons, effects_cons] at this

/-- What comes later in a list succeeds where what comes first has led. -/
theorem AllSucceed.remaining {first rest : List Action} {world : τ × σ}
    (h : AllSucceed run cwd (first ++ rest) world) :
    AllSucceed run cwd rest (effects run cwd first world) := by
  intro i a ha
  have hlater := h (first.length + i) a (by rw [List.getElem?_append_right (by omega)]; simpa)
  rwa [List.take_length_add_append, effects_append] at hlater

/-! ## §2 Runs -/

/-- The actions that a run has done, going by how it ended. -/
def doneOf (actions : List Action) : Except Stopped Summary → List Action
  | .ok _ => actions
  | .error stop => actions.take stop.index

theorem doneOf_cons {a : Action} {done : Summary} (result : Except Stopped Summary) :
    doneOf (a :: actions) (endAfter done result) = a :: doneOf actions result := by
  cases result <;> rfl

/-- What a run has done has succeeded. -/
theorem allSucceed_doneOf (run : Runner σ τ) (cwd : Location) (actions : List Action)
    (s : Session σ τ) :
    AllSucceed run cwd (doneOf actions (execute run cwd actions s).1) (s.tree, s.state) := by
  induction actions generalizing s with
  | nil => exact .nil
  | cons a rest ih =>
    rcases execute_cons_cases run cwd a rest s with
      ⟨left, hrun, -⟩ | ⟨error, left, hrun, -⟩ |
        ⟨done, left, result, last, hdone, hworld, hrest, hrun⟩
    · rw [hrun]
      exact .nil
    · rw [hrun]
      exact .nil
    · have hothers := ih left
      rw [hrest, hworld] at hothers
      rw [hrun]
      dsimp only
      rw [doneOf_cons]
      exact .of_cons hdone hothers

/-- All actions of a run that got to its end have succeeded. -/
theorem allSucceed_of_isOk (h : (execute run cwd actions s).1.isOk) :
    AllSucceed run cwd actions (s.tree, s.state) := by
  have hdone := allSucceed_doneOf run cwd actions s
  cases hend : (execute run cwd actions s).1 with
  | error stop =>
    rw [hend] at h
    cases h
  | ok done => rwa [hend] at hdone

theorem prefix_doneOf (actions : List Action) (result : Except Stopped Summary) :
    doneOf actions result <+: actions := by
  cases result with
  | ok done => exact List.prefix_rfl
  | error stop => exact List.take_prefix _ _

/-- Where the lines of a list fit into the echo, those of its beginning do. -/
theorem fits_take {room : Option Nat}
    (hroom : Session.fits room (echoText actions).length = true) (place : Nat) :
    Session.fits room (echoText (actions.take place)).length = true := by
  have hsplit : echoText actions =
      echoText (actions.take place) ++ echoText (actions.drop place) := by
    rw [echoText, echoText, echoText, ← List.flatMap_append, List.take_append_drop]
  refine Session.fits_of_le ?_ hroom
  rw [hsplit, List.length_append]
  omega

/-- A run does not stop at an action that succeeds and that can be echoed. -/
theorem stopAt_of_succeeds {a : Action} {done : Summary} {world : τ × σ}
    {room : Option Nat} {place : Nat} (ha : actions[place]? = some a)
    (hdone : (a.effect run cwd (effects run cwd (actions.take place) world)).1 = .ok done)
    (hroom : Session.fits room (echoText actions).length = true) :
    stopAt run cwd actions world room place = none := by
  simp [stopAt, ha, hdone, fits_take hroom]

/-- A run whose actions all succeed, and whose lines fit into the echo, gets to its
end. -/
theorem execute_of_allSucceed (h : AllSucceed run cwd actions (s.tree, s.state))
    (hroom : Session.fits s.room (echoText actions).length = true) :
    ∃ done last, execute run cwd actions s = (.ok done, last) ∧
      (last.tree, last.state) = effects run cwd actions (s.tree, s.state) := by
  have hstop : ∀ place, stopAt run cwd actions (s.tree, s.state) s.room place = none := by
    intro place
    cases ha : actions[place]? with
    | none => simp [stopAt, ha]
    | some a =>
      obtain ⟨done, hdone⟩ := h place a ha
      exact stopAt_of_succeeds ha hdone hroom
  obtain ⟨done, last, hrun, hleaves⟩ := execute_of_no_stop hstop
  exact ⟨done, last, hrun, hleaves.world⟩

/-- A run whose first actions all succeed stops at the next one if that fails. -/
theorem execute_of_failing {first rest : List Action} {a : Action} {error : ReleaseError}
    (h : AllSucceed run cwd first (s.tree, s.state))
    (hfail : (a.effect run cwd (effects run cwd first (s.tree, s.state))).1 = .error error)
    (hroom : Session.fits s.room (echoText (first ++ a :: rest)).length = true) :
    ∃ last, execute run cwd (first ++ a :: rest) s =
        (.error ⟨first.length, a, true, error⟩, last) ∧
      (last.tree, last.state) = effects run cwd (first ++ [a]) (s.tree, s.state) := by
  have hstop : stopAt run cwd (first ++ a :: rest) (s.tree, s.state) s.room first.length =
      some ⟨first.length, a, true, error⟩ := by
    simp [stopAt, fits_take hroom, hfail]
  have hearlier : ∀ i < first.length,
      stopAt run cwd (first ++ a :: rest) (s.tree, s.state) s.room i = none := by
    intro i hi
    obtain ⟨done, hdone⟩ := h i first[i] (by simp)
    have ha : (first ++ a :: rest)[i]? = some first[i] := by
      rw [List.getElem?_append_left hi, List.getElem?_eq_getElem hi]
    have htake : (first ++ a :: rest).take i = first.take i :=
      List.take_append_of_le_length hi.le
    rw [← htake] at hdone
    exact stopAt_of_succeeds ha hdone hroom
  obtain ⟨last, hrun, hleaves⟩ := execute_of_stop hstop hearlier
  refine ⟨last, hrun, ?_⟩
  simpa [Stopped.begun, List.take_length_add_append] using hleaves.world

/-- A run that stops at an action it has started stops at one that fails where those before
it, which succeed, have led. -/
theorem failing_of_stop {left : Session σ τ} {stop : Stopped}
    (h : execute run cwd actions s = (.error stop, left)) (hstarted : stop.started = true) :
    ∃ before after, actions = before ++ stop.action :: after ∧
      AllSucceed run cwd before (s.tree, s.state) ∧
      (stop.action.effect run cwd (effects run cwd before (s.tree, s.state))).1 =
        .error stop.error := by
  induction actions generalizing s left stop with
  | nil => cases h
  | cons a rest ih =>
    rcases execute_cons_cases run cwd a rest s with
      ⟨told, hrun, -⟩ | ⟨error, told, hrun, hfail, -⟩ |
        ⟨done, told, result, last, hdone, hworld, hrest, hrun⟩
    · -- an action that cannot be echoed is not started
      obtain rfl := Except.error.inj (congrArg Prod.fst (hrun.symm.trans h))
      cases hstarted
    · obtain rfl := Except.error.inj (congrArg Prod.fst (hrun.symm.trans h))
      exact ⟨[], rest, rfl, .nil, hfail⟩
    · have hend := congrArg Prod.fst (hrun.symm.trans h)
      cases result with
      | ok more => cases hend
      | error later =>
        obtain rfl := Except.error.inj hend
        obtain ⟨before, after, hsplit, hbefore, hfail⟩ := ih hrest hstarted
        rw [hworld] at hbefore hfail
        exact ⟨a :: before, after, congrArg (a :: ·) hsplit, .of_cons hdone hbefore, hfail⟩

/-! ## §3 Accomplishing -/

/-- Where a tree is as needed, actions all succeed and lead to a tree that is as
wanted. -/
def Accomplishes (run : Runner σ τ) (cwd : Location) (actions : List Action)
    (needed wanted : τ → Prop) : Prop :=
  ∀ world, needed world.1 →
    AllSucceed run cwd actions world ∧ wanted (effects run cwd actions world).1

namespace Accomplishes

variable {needed between wanted : τ → Prop} {first rest : List Action}

theorem nil : Accomplishes run cwd [] needed needed := fun _ h => ⟨.nil, h⟩

theorem single {a : Action} (h : ∀ world : τ × σ, needed world.1 →
    (∃ done, (a.effect run cwd world).1 = .ok done) ∧ wanted (a.effect run cwd world).2.1) :
    Accomplishes run cwd [a] needed wanted := by
  intro world hneeded
  obtain ⟨⟨done, hdone⟩, hwanted⟩ := h world hneeded
  exact ⟨.of_cons hdone .nil, hwanted⟩

theorem append (h : Accomplishes run cwd first needed between)
    (h' : Accomplishes run cwd rest between wanted) :
    Accomplishes run cwd (first ++ rest) needed wanted := by
  intro world hneeded
  obtain ⟨hfirst, hbetween⟩ := h world hneeded
  obtain ⟨hrest, hwanted⟩ := h' _ hbetween
  exact ⟨hfirst.append hrest, by rwa [effects_append]⟩

theorem cons {a : Action} (h : Accomplishes run cwd [a] needed between)
    (h' : Accomplishes run cwd rest between wanted) :
    Accomplishes run cwd (a :: rest) needed wanted := append h h'

end Accomplishes

end ReleaseKit
