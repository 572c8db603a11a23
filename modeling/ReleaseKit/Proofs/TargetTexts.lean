/-
ReleaseKit.Proofs.TargetTexts — which texts name a target, and what is wrong with the
others.

A target has one text, and the reader takes it for that target and for no other. With any
other text one thing is wrong, and the reader says which: there is no dash; or there is one,
and what stands before the first of them names no operating system; or this does, and all
that stands behind it names no architecture, further dashes included. `Target.Flawed` is this
rule, with nothing of the reader in it (`target_texts_exact`). A JSON string is read by what
it says, however it is spelled, so the same holds there.

  §1 Parts       — operating systems and architectures.
  §2 Flaws       — `Target.Flawed` and `ofText_eq_error`.
  §3 Strings     — a target in a JSON text.
  §4 Together    — `target_texts_exact`.
-/
import ReleaseKit.Proofs.Acceptance

namespace ReleaseKit

open Json Manifest.Reader

/-! ## §1 Parts -/

theorem Os.ofName?_eq_none {s : String} : Os.ofName? s = none ↔ ∀ os : Os, s ≠ os.name := by
  rw [Option.eq_none_iff_forall_ne_some]
  exact forall_congr' fun os => not_congr Os.ofName?_eq_some

theorem Arch.ofName?_eq_none {s : String} :
    Arch.ofName? s = none ↔ ∀ arch : Arch, s ≠ arch.name := by
  rw [Option.eq_none_iff_forall_ne_some]
  exact forall_congr' fun arch => not_congr Arch.ofName?_eq_some

theorem Os.ofText_name (os : Os) : Os.ofText os.name = .ok os := by
  rw [ofText, ofName?_eq_some.mpr rfl]

/-- No name of an operating system has a dash, so the first dash of a text ends it. -/
theorem Os.dash_not_mem_name (os : Os) : '-' ∉ os.name.toList := by
  cases os <;> decide

theorem splitOnce_eq_none {sep : Char} {l : List Char} : splitOnce sep l = none ↔ sep ∉ l := by
  induction l with
  | nil => simp [splitOnce]
  | cons c rest ih =>
    rw [splitOnce, List.mem_cons, not_or, ← ih]
    by_cases hc : c = sep
    · simp [hc]
    · simp [hc, Ne.symm hc]

/-! ## §2 Flaws -/

namespace Target

/-- What is wrong with a text that names no target. The text before the dash is the
shortest there is, the one behind it goes to the end. -/
inductive Flawed : String → Flaw → Prop
  | noDash {s : String} (h : '-' ∉ s.toList) : Flawed s (.noDash s)
  | unknownOs {before after : String} (hfirst : '-' ∉ before.toList)
    (h : ∀ os : Os, before ≠ os.name) : Flawed (before ++ "-" ++ after) (.unknownOs before)
  | unknownArch (os : Os) {after : String} (h : ∀ arch : Arch, after ≠ arch.name) :
    Flawed (os.name ++ "-" ++ after) (.unknownArch after)

variable {s before after : String} {flaw : Flaw}

theorem ofText_of_no_dash (h : '-' ∉ s.toList) : ofText s = .error (.noDash s) := by
  rw [ofText, splitOnce_eq_none.mpr h]

/-- A text is read by what stands before and behind its first dash. -/
theorem ofText_append (h : '-' ∉ before.toList) :
    ofText (before ++ "-" ++ after) = (do
      let os ← Os.ofText before
      let arch ← Arch.ofText after
      pure ⟨os, arch⟩) := by
  have hsplit : splitOnce '-' (before ++ "-" ++ after).toList =
      some (before.toList, after.toList) := by
    simpa using splitOnce_append h
  rw [ofText, hsplit]
  simp only [String.ofList_toList]

/-- A text with a dash is two texts with the first dash between. -/
theorem exists_first_dash (h : '-' ∈ s.toList) :
    ∃ before after, s = before ++ "-" ++ after ∧ '-' ∉ before.toList := by
  cases hsplit : splitOnce '-' s.toList with
  | none => exact absurd h (splitOnce_eq_none.mp hsplit)
  | some parts =>
    obtain ⟨before, after⟩ := parts
    obtain ⟨hs, hbefore⟩ := splitOnce_eq_some hsplit
    refine ⟨String.ofList before, String.ofList after, ?_, by simpa using hbefore⟩
    apply String.toList_inj.mp
    simpa using hs

/-- The reader says of a text what is wrong with it. -/
theorem ofText_of_flawed (h : Flawed s flaw) : ofText s = .error flaw := by
  cases h with
  | noDash h => exact ofText_of_no_dash h
  | unknownOs hfirst h =>
    rw [ofText_append hfirst, Os.ofText, Os.ofName?_eq_none.mpr h]
    rfl
  | unknownArch os h =>
    rw [ofText_append os.dash_not_mem_name, Os.ofText_name, Arch.ofText,
      Arch.ofName?_eq_none.mpr h]
    rfl

/-- A text names a target, or something is wrong with it. -/
theorem exists_pair_or_flawed (s : String) :
    (∃ t : Target, s = t.pair) ∨ ∃ flaw, Flawed s flaw := by
  by_cases hdash : '-' ∈ s.toList
  · obtain ⟨before, after, rfl, hfirst⟩ := exists_first_dash hdash
    by_cases hos : ∃ os : Os, before = os.name
    · obtain ⟨os, rfl⟩ := hos
      by_cases harch : ∃ arch : Arch, after = arch.name
      · obtain ⟨arch, rfl⟩ := harch
        exact .inl ⟨⟨os, arch⟩, rfl⟩
      · exact .inr ⟨_, .unknownArch os (not_exists.mp harch)⟩
    · exact .inr ⟨_, .unknownOs hfirst (not_exists.mp hos)⟩
  · exact .inr ⟨_, .noDash hdash⟩

/-- The reader refuses a text exactly for what is wrong with it. -/
theorem ofText_eq_error : ofText s = .error flaw ↔ Flawed s flaw := by
  refine ⟨fun h => ?_, ofText_of_flawed⟩
  obtain ⟨t, rfl⟩ | ⟨other, hother⟩ := exists_pair_or_flawed s
  · rw [ofText_pair] at h
    cases h
  · rw [ofText_of_flawed hother] at h
    exact Except.error.inj h ▸ hother

end Target

/-! ## §3 Strings -/

namespace Manifest.Reader

/-- A string is read as the target that it says, or refused for what is wrong with what it
says, at the place where it ends. -/
theorem readTarget_string {ps : List Piece} {s : String} (h : Piece.text? ps = some s) (gap : Gap)
    (rest : List Char) :
    readTarget (gap.chars ++ (Piece.quoted ps ++ rest)) =
      match Target.ofText s with
      | .ok t => .ok (t, rest)
      | .error flaw => .error (.inside (.refused flaw.message) rest) := by
  have hread : readText (gap.chars ++ (Piece.quoted ps ++ rest)) = .ok (s, rest) :=
    (recognises_text (.text ps) gap rest s rest).mpr ⟨congrArg Doc.text h, rfl⟩
  simp only [readTarget, hread, bind, Except.bind]
  cases Target.ofText s <;> rfl

end Manifest.Reader

/-! ## §4 Together -/

/-- **The reader of targets takes exactly their texts.** A text is read as a target exactly if
it is the target's own text, so reading undoes writing and writing undoes reading. Any other
text is refused for what is wrong with it: that it has no dash, exactly if it has none; or else
for what stands before its first dash, if this names no operating system; or else for all that
stands behind. A JSON string is read in the same way by what it says, whatever its spelling and
whatever stands before and behind it. -/
theorem target_texts_exact (s : String) :
    (∀ t, Target.ofText s = .ok t ↔ s = t.pair) ∧
    (∀ flaw, Target.ofText s = .error flaw ↔ Target.Flawed s flaw) ∧
    ∀ (ps : List Piece), Piece.text? ps = some s → ∀ (gap : Gap) (rest : List Char),
      (∀ t left, readTarget (gap.chars ++ (Piece.quoted ps ++ rest)) = .ok (t, left) ↔
        s = t.pair ∧ left = rest) ∧
      ∀ flaw, Target.Flawed s flaw → readTarget (gap.chars ++ (Piece.quoted ps ++ rest)) =
        .error (.inside (.refused flaw.message) rest) := by
  refine ⟨fun t => ofText_eq_ok, fun flaw => Target.ofText_eq_error, fun ps hps gap rest => ?_⟩
  rw [readTarget_string hps]
  constructor
  · intro t left
    rw [← ofText_eq_ok]
    cases Target.ofText s <;> simp [eq_comm]
  · intro flaw hflaw
    rw [Target.ofText_of_flawed hflaw]

/-- The name of one architecture begins that of another, so a text may have all of a target
and more: it is refused for all that stands behind its first dash. The text is spelled with
an escape for the dash. -/
theorem longer_text_is_no_target :
    let ps := plainPieces ['l', 'i', 'n', 'u', 'x'] (by simp) ++
      .code ⟨⟨0, false⟩, ⟨0, false⟩, ⟨2, false⟩, ⟨13, true⟩⟩ ::
        plainPieces ['a', 'r', 'm', '6', '4', '-'] (by simp)
    Piece.quoted ps = "\"linux\\u002Darm64-\"".toList ∧
      Piece.text? ps = some "linux-arm64-" ∧
      Target.ofText "linux-arm64-" = .error (.unknownArch "arm64-") ∧
      readTarget (Piece.quoted ps) =
        .error (.inside (.refused "unknown architecture 'arm64-'") []) := by
  intro ps
  have hquoted : Piece.quoted ps = "\"linux\\u002Darm64-\"".toList := by decide
  have hsaid : Piece.text? ps = some "linux-arm64-" := by decide
  obtain ⟨-, hflawed, hstring⟩ := target_texts_exact "linux-arm64-"
  have hflaw : Target.Flawed "linux-arm64-" (.unknownArch "arm64-") := by
    have hname : ∀ arch : Arch, "arm64-" ≠ arch.name := by
      intro arch
      cases arch <;> decide
    exact Target.Flawed.unknownArch .linux hname
  refine ⟨hquoted, hsaid, (hflawed _).mpr hflaw, ?_⟩
  have hread := (hstring ps hsaid [] []).2 _ hflaw
  rwa [List.append_nil] at hread

end ReleaseKit
