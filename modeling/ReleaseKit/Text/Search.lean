/-
ReleaseKit.Text.Search — whether one text occurs in another.
-/

namespace ReleaseKit.Text

/-- Whether `part` stands somewhere in `whole`, in one piece. -/
def occursIn (part : List Char) : List Char → Bool
  | [] => part.isEmpty
  | c :: rest => part.isPrefixOf (c :: rest) || occursIn part rest

@[simp] theorem occursIn_nil (part : List Char) : occursIn part [] = part.isEmpty := rfl

theorem occursIn_of_isPrefixOf {part whole : List Char} (h : part.isPrefixOf whole = true) :
    occursIn part whole = true := by
  cases whole with
  | nil =>
    cases part with
    | nil => rfl
    | cons a l => simp at h
  | cons c rest => simp [occursIn, h]

/-- A text occurs in another exactly if that is made of something, the text and
something. -/
theorem occursIn_iff {part whole : List Char} :
    occursIn part whole = true ↔ ∃ before after, whole = before ++ part ++ after := by
  induction whole with
  | nil => simp [occursIn, List.isEmpty_iff]
  | cons c rest ih =>
    rw [occursIn, Bool.or_eq_true, ih, List.isPrefixOf_iff_prefix]
    constructor
    · rintro (⟨after, h⟩ | ⟨before, after, h⟩)
      · exact ⟨[], after, by simp [h]⟩
      · exact ⟨c :: before, after, by simp [h]⟩
    · rintro ⟨before, after, h⟩
      cases before with
      | nil => exact .inl ⟨after, by simpa using h.symm⟩
      | cons b l =>
        refine .inr ⟨l, after, ?_⟩
        simp only [List.cons_append, List.cons.injEq] at h
        exact h.2

end ReleaseKit.Text
