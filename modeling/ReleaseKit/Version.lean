/-
ReleaseKit.Version — version texts that can name a directory.

A version becomes one component of a local path and of a remote address, so it
may not be empty, hold a blank or a separator, or be one of the two names that
stand for other directories. A `Version` carries the proof that it passed.
-/
import ReleaseKit.Text.Blank

namespace ReleaseKit

namespace Version

/-- Why a text is no version. -/
inductive Flaw where
  | empty
  | blank
  | separator
  | relative
deriving DecidableEq, Repr

def Flaw.reason : Flaw → String
  | empty => "must not be empty"
  | blank => "must not contain whitespace"
  | separator => "must not contain path separators"
  | relative => "must not be a relative path component"

/-- The first flaw of a text, if it has one. -/
def flaw? (text : String) : Option Flaw :=
  if text = "" then some .empty
  else if text.toList.any Text.isBlank then some .blank
  else if text.toList.any fun c => c == '/' || c == '\\' then some .separator
  else if text = "." ∨ text = ".." then some .relative
  else none

/-- A text has no flaw exactly when it is not empty, holds no blank and no
separator, and is neither of the two relative names. -/
theorem flaw?_eq_none_iff (text : String) :
    flaw? text = none ↔
      text ≠ "" ∧ (∀ c ∈ text.toList, Text.isBlank c = false) ∧ '/' ∉ text.toList ∧
        '\\' ∉ text.toList ∧ text ≠ "." ∧ text ≠ ".." := by
  unfold flaw?
  split
  · simp_all
  split
  · rename_i h
    simp only [List.any_eq_true] at h
    obtain ⟨c, hc, hb⟩ := h
    simp only [reduceCtorEq, false_iff, not_and]
    intro _ hall
    rw [hall c hc] at hb
    exact absurd hb (by decide)
  split
  · rename_i h
    simp only [List.any_eq_true, Bool.or_eq_true, beq_iff_eq] at h
    obtain ⟨c, hc, rfl | rfl⟩ := h <;> simp_all
  split
  · rename_i h
    rcases h with h | h <;> simp [h]
  · rename_i h₁ h₂ h₃ h₄
    simp only [List.any_eq_true, not_exists, not_and, Bool.not_eq_true, Bool.or_eq_true,
      beq_iff_eq, not_or] at h₂ h₃ h₄
    simp only [true_iff]
    exact ⟨h₁, h₂, fun h => (h₃ _ h).1 rfl, fun h => (h₃ _ h).2 rfl, h₄.1, h₄.2⟩

end Version

/-- A text that can be used as a version. -/
structure Version where
  text : String
  flaw?_eq_none : Version.flaw? text = none
deriving DecidableEq

/-- Reads a version, or says what is wrong with the text. -/
def Version.ofText (text : String) : Except Version.Flaw Version :=
  match h : Version.flaw? text with
  | none => .ok ⟨text, h⟩
  | some flaw => .error flaw

namespace Version

theorem ext_text {v w : Version} (h : v.text = w.text) : v = w := by
  obtain ⟨text, hflaw⟩ := v
  obtain ⟨text', hflaw'⟩ := w
  obtain rfl : text = text' := h
  rfl

/-- What is read is the version with that text. -/
theorem ofText_eq_ok {text : String} {v : Version} : ofText text = .ok v ↔ v.text = text := by
  unfold ofText
  split
  · rw [Except.ok.injEq]
    exact ⟨fun h => h ▸ rfl, fun h => ext_text h.symm⟩
  · rename_i flaw hflaw
    refine iff_of_false nofun ?_
    rintro rfl
    rw [v.flaw?_eq_none] at hflaw
    cases hflaw

end Version

end ReleaseKit
