/-
ReleaseKit.Proofs.Run — one action after another.

A run threads four things through its actions: the tree, the state of the runner,
the transcript and the room that the echo has left. What an action does to the
first two does not depend on the other two (`Action.effect`), so a run can be
told apart into what is echoed and what is done, and every fact about a run comes
from the three ways in which a single action goes (`perform_of_*`).

  §1 Echoing      — what fits into the echo, and what it takes.
  §2 One action   — `Action.effect`, and the three ways to perform an action.
  §3 Many         — `execute_append`; what every action keeps, a run keeps.
-/
import ReleaseKit.Execution

namespace ReleaseKit

/-! ## §1 Echoing -/

namespace Session

/-- Whether the echo takes so many bytes. -/
def fits (room : Option Nat) (count : Nat) : Bool :=
  match room with
  | none => true
  | some most => count ≤ most

variable {σ τ : Type} {s : Session σ τ} {bytes : List UInt8}

@[simp] theorem fits_none (count : Nat) : fits none count = true := rfl

theorem fits_add {room : Option Nat} {first rest : Nat} (h : fits room first = true) :
    fits room (first + rest) = fits (room.map (· - first)) rest := by
  cases room with
  | none => rfl
  | some most =>
    have hle : first ≤ most := by simpa [fits] using h
    simp only [fits, Option.map_some, decide_eq_decide]
    omega

theorem fits_of_le {room : Option Nat} {less more : Nat} (hle : less ≤ more)
    (h : fits room more = true) : fits room less = true := by
  cases room with
  | none => rfl
  | some most =>
    simp only [fits, decide_eq_true_eq] at h ⊢
    omega

/-- An echo with room enough takes everything. -/
theorem echo_of_fits (h : fits s.room bytes.length = true) :
    s.echo bytes = (.ok (), { s with
      transcript := s.transcript ++ [.echo bytes], room := s.room.map (· - bytes.length) }) := by
  unfold echo
  cases hroom : s.room with
  | none => rfl
  | some most =>
    have hle : bytes.length ≤ most := by simpa [fits, hroom] using h
    simp [hle]

/-- An echo without room enough takes what it can and fails. -/
theorem echo_of_not_fits (h : fits s.room bytes.length = false) :
    ∃ taken, taken <+: bytes ∧ s.echo bytes = (.error .echoClosed,
      { s with transcript := s.transcript ++ [.echo taken], room := some 0 }) := by
  unfold echo
  cases hroom : s.room with
  | none => simp [fits, hroom] at h
  | some most =>
    have hlt : ¬ bytes.length ≤ most := by simpa [fits, hroom] using h
    exact ⟨bytes.take most, List.take_prefix _ _, by simp [hlt]⟩

@[simp] theorem echoed_start (tree : τ) (state : σ) (room : Option Nat) :
    (start tree state room).echoed = [] := rfl

/-- What has been echoed, after one more writing. -/
theorem echoed_mk (tree : τ) (state : σ) (transcript : List Writing) (writing : Writing)
    (room : Option Nat) :
    (Session.mk tree state (transcript ++ [writing]) room).echoed =
      (Session.mk tree state transcript room).echoed ++
        match writing with
        | .echo bytes => bytes
        | .diagnosis _ => [] := by
  cases writing <;> simp [echoed]

end Session

/-! ## §2 One action -/

namespace Action

variable {σ τ : Type} [FileSystem τ] {run : Runner σ τ} {cwd : Location} {a : Action}
  {s : Session σ τ}

/-- What an action does to the files and to the state of the runner, and how it
goes: no word of what has been written. -/
def effect (run : Runner σ τ) (cwd : Location) (a : Action) (world : τ × σ) :
    Except ReleaseError Summary × (τ × σ) :=
  let done := a.apply run cwd (.start world.1 world.2 none)
  (done.1, done.2.tree, done.2.state)

/-- Carrying an action out is its effect; nothing is echoed by it. -/
theorem apply_eq_effect (run : Runner σ τ) (cwd : Location) (a : Action) (s : Session σ τ) :
    (a.apply run cwd s).1 = (a.effect run cwd (s.tree, s.state)).1 ∧
      ((a.apply run cwd s).2.tree, (a.apply run cwd s).2.state) =
        (a.effect run cwd (s.tree, s.state)).2 ∧
      (a.apply run cwd s).2.echoed = s.echoed ∧ (a.apply run cwd s).2.room = s.room := by
  unfold effect
  cases a with
  | resetDir path => simp [apply, Session.start, Session.echoed]
  | createDir path => simp [apply, Session.start, Session.echoed]
  | exec command =>
    simp only [apply, Session.start]
    split <;> simp [Session.diagnose, Session.echoed]
  | copyFile source dest => simp [apply, Session.start, Session.echoed]
  | archive source entry dest =>
    simp only [apply, Session.start]
    split <;> simp [Session.echoed]
  | writeFile path contents =>
    simp only [apply, Session.start]
    split <;> simp [Session.echoed]

/-- An action that cannot be echoed is not started; the echo has taken what it
could of its line. -/
theorem perform_of_not_fits (run : Runner σ τ) (cwd : Location)
    (h : Session.fits s.room a.echoLine.length = false) :
    ∃ left taken, a.perform run cwd s = (.error ⟨0, a, false, .echo .echoClosed⟩, left) ∧
      (left.tree, left.state) = (s.tree, s.state) ∧
      left.echoed = s.echoed ++ taken ∧ taken <+: a.echoLine := by
  obtain ⟨taken, htaken, hecho⟩ := Session.echo_of_not_fits h
  refine ⟨{ s with transcript := s.transcript ++ [.echo taken], room := some 0 }, taken,
    by rw [perform, hecho], rfl, ?_, htaken⟩
  rw [Session.echoed_mk]
  rfl

/-- An action that is echoed has its effect, whether it fails or not. -/
theorem perform_of_fits (run : Runner σ τ) (cwd : Location)
    (h : Session.fits s.room a.echoLine.length = true) :
    ∃ left, a.perform run cwd s =
        (match (a.effect run cwd (s.tree, s.state)).1 with
          | .error error => .error ⟨0, a, true, error⟩
          | .ok done => .ok done, left) ∧
      (left.tree, left.state) = (a.effect run cwd (s.tree, s.state)).2 ∧
      left.echoed = s.echoed ++ a.echoLine ∧
      left.room = s.room.map (· - a.echoLine.length) := by
  have hecho := Session.echo_of_fits h
  generalize htold : ({ s with
    transcript := s.transcript ++ [.echo a.echoLine],
    room := s.room.map (· - a.echoLine.length) } : Session σ τ) = told at hecho
  obtain ⟨hresult, hworld, hechoed, hroom⟩ := apply_eq_effect run cwd a told
  have htree : (told.tree, told.state) = (s.tree, s.state) := by rw [← htold]
  rw [htree] at hresult hworld
  refine ⟨(a.apply run cwd told).2, ?_, hworld, ?_, ?_⟩
  · unfold perform
    rw [hecho, ← hresult]
    dsimp only
    rcases a.apply run cwd told with ⟨_ | _, left⟩ <;> rfl
  · rw [hechoed, ← htold, Session.echoed_mk]
    rfl
  · rw [hroom, ← htold]

end Action

/-! ## §3 Many -/

variable {σ τ : Type} [FileSystem τ] {run : Runner σ τ} {cwd : Location}

/-- **A run of two lists is a run of the first and then, if it succeeded, of the
second.** -/
theorem execute_append (run : Runner σ τ) (cwd : Location) (first rest : List Action)
    (s : Session σ τ) :
    execute run cwd (first ++ rest) s =
      match execute run cwd first s with
      | (.error stop, left) => (.error stop, left)
      | (.ok done, left) =>
        match execute run cwd rest left with
        | (.error stop, last) => (.error { stop with index := stop.index + first.length }, last)
        | (.ok more, last) => (.ok (done ++ more), last) := by
  induction first generalizing s with
  | nil =>
    simp only [List.nil_append, execute, List.length_nil, Nat.add_zero, Summary.empty_append]
    rcases execute run cwd rest s with ⟨_ | _, last⟩ <;> rfl
  | cons a first ih =>
    simp only [List.cons_append, execute]
    rcases a.perform run cwd s with ⟨stop | done, left⟩
    · rfl
    · dsimp only
      rw [ih left]
      rcases execute run cwd first left with ⟨stop | more, last⟩
      · rfl
      · dsimp only
        rcases execute run cwd rest last with ⟨stop | others, final⟩
        · simp [Stopped.later, Nat.add_assoc]
        · simp [Summary.append_assoc]

/-- How a run ends whose first action is done, going by how the rest ended. -/
def endAfter (done : Summary) : Except Stopped Summary → Except Stopped Summary
  | .error stop => .error stop.later
  | .ok more => .ok (done ++ more)

/-- How a run goes by its first action: the action cannot be echoed; it fails; or it
succeeds and the rest is run where it has led. -/
theorem execute_cons_cases (run : Runner σ τ) (cwd : Location) (a : Action) (rest : List Action)
    (s : Session σ τ) :
    (∃ left, execute run cwd (a :: rest) s = (.error ⟨0, a, false, .echo .echoClosed⟩, left) ∧
      (left.tree, left.state) = (s.tree, s.state)) ∨
    (∃ error left, execute run cwd (a :: rest) s = (.error ⟨0, a, true, error⟩, left) ∧
      (a.effect run cwd (s.tree, s.state)).1 = .error error ∧
      (left.tree, left.state) = (a.effect run cwd (s.tree, s.state)).2) ∨
    ∃ done left result last, (a.effect run cwd (s.tree, s.state)).1 = .ok done ∧
      (left.tree, left.state) = (a.effect run cwd (s.tree, s.state)).2 ∧
      execute run cwd rest left = (result, last) ∧
      execute run cwd (a :: rest) s = (endAfter done result, last) := by
  cases hfits : Session.fits s.room a.echoLine.length with
  | false =>
    obtain ⟨left, taken, hp, hworld, -⟩ := Action.perform_of_not_fits run cwd hfits
    exact .inl ⟨left, by simp only [execute, hp], hworld⟩
  | true =>
    obtain ⟨left, hp, hworld, -⟩ := Action.perform_of_fits run cwd hfits
    cases heffect : (a.effect run cwd (s.tree, s.state)).1 with
    | error error =>
      exact .inr (.inl ⟨error, left, by simp only [execute, hp, heffect], rfl, hworld⟩)
    | ok done =>
      refine .inr (.inr ⟨done, left, _, _, rfl, hworld, rfl, ?_⟩)
      simp only [execute, hp, heffect]
      rcases execute run cwd rest left with ⟨_ | _, last⟩ <;> rfl

/-- A run that is stopped is stopped at the action in its place. -/
theorem action_of_stop {actions : List Action} {s left : Session σ τ} {stop : Stopped}
    (h : execute run cwd actions s = (.error stop, left)) :
    actions[stop.index]? = some stop.action := by
  induction actions generalizing s left stop with
  | nil => cases h
  | cons a rest ih =>
    rcases execute_cons_cases run cwd a rest s with
      ⟨told, hrun, -⟩ | ⟨error, told, hrun, -⟩ |
        ⟨done, told, result, last, -, -, hrest, hrun⟩
    · obtain rfl := Except.error.inj (congrArg Prod.fst (hrun.symm.trans h))
      rfl
    · obtain rfl := Except.error.inj (congrArg Prod.fst (hrun.symm.trans h))
      rfl
    · have hend := congrArg Prod.fst (hrun.symm.trans h)
      cases result with
      | error later =>
        obtain rfl := Except.error.inj hend
        exact ih hrest
      | ok more => cases hend

/-- What every action of a list keeps of the tree, its run keeps, wherever it is
stopped. -/
theorem execute_keeps {R : τ → τ → Prop} (hrefl : ∀ t, R t t)
    (htrans : ∀ {a b c}, R a b → R b c → R a c) {actions : List Action}
    (hstep : ∀ a ∈ actions, ∀ world, R world.1 (a.effect run cwd world).2.1) (s : Session σ τ) :
    R s.tree (execute run cwd actions s).2.tree := by
  induction actions generalizing s with
  | nil => exact hrefl s.tree
  | cons a rest ih =>
    have hone := hstep a (by simp) (s.tree, s.state)
    rcases execute_cons_cases run cwd a rest s with
      ⟨left, hrun, hworld⟩ | ⟨error, left, hrun, -, hworld⟩ |
        ⟨done, left, result, last, -, hworld, hrest, hrun⟩
    · have htree : left.tree = s.tree := congrArg Prod.fst hworld
      rw [hrun, htree]
      exact hrefl s.tree
    · rw [← hworld] at hone
      rw [hrun]
      exact hone
    · have hlast := ih (fun b hb => hstep b (by simp [hb])) left
      rw [← hworld] at hone
      rw [hrest] at hlast
      rw [hrun]
      exact htrans hone hlast

end ReleaseKit
