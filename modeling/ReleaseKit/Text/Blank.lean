/-
ReleaseKit.Text.Blank — blank characters and the trimming of texts.

A release version may hold no blank, and a written line is shown without the
blanks that end it, so both speak about one class of characters: the property
White_Space of Unicode, which has twenty-five members.
-/

namespace ReleaseKit.Text

/-! ## §1 The class -/

/-- The characters that have the Unicode property White_Space. -/
def isBlank (c : Char) : Bool :=
  let n := c.toNat
  (9 ≤ n && n ≤ 13) || n == 0x20 || n == 0x85 || n == 0xA0 || n == 0x1680 ||
    (0x2000 ≤ n && n ≤ 0x200A) || n == 0x2028 || n == 0x2029 || n == 0x202F ||
    n == 0x205F || n == 0x3000

/-- Every blank of the ASCII class is a blank. -/
theorem isBlank_of_isWhitespace (c : Char) (h : c.isWhitespace = true) : isBlank c = true := by
  simp only [Char.isWhitespace, Bool.or_eq_true, decide_eq_true_eq] at h
  rcases h with ((h | h) | h) | h <;> subst h <;> decide

/-! ## §2 Trimming -/

/-- The characters of `l` without the longest run of blanks at its end. -/
def dropTrailingBlanks (l : List Char) : List Char :=
  (l.reverse.dropWhile isBlank).reverse

/-- A text without the blanks that end it. -/
def trimEnd (s : String) : String :=
  String.ofList (dropTrailingBlanks s.toList)

/-- A text without the blanks at either end. -/
def trim (s : String) : String :=
  String.ofList (dropTrailingBlanks (s.toList.dropWhile isBlank))

@[simp] theorem dropTrailingBlanks_nil : dropTrailingBlanks [] = [] := rfl

/-- A character that is no blank ends the run. -/
theorem dropTrailingBlanks_concat_of_not {l : List Char} {c : Char} (h : isBlank c = false) :
    dropTrailingBlanks (l ++ [c]) = l ++ [c] := by
  simp [dropTrailingBlanks, h]

/-- A blank at the end goes. -/
theorem dropTrailingBlanks_concat_of_blank {l : List Char} {c : Char} (h : isBlank c = true) :
    dropTrailingBlanks (l ++ [c]) = dropTrailingBlanks l := by
  simp [dropTrailingBlanks, h]

end ReleaseKit.Text
