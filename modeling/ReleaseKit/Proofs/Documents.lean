/-
ReleaseKit.Proofs.Documents — what is written in the indented form is a JSON text.

A text of a document is what the grammar says it is, and the writer knows nothing of the
grammar. So for each part of what it writes there is a spelling of the grammar with the
same characters: a piece for a character of a string (`escapeChar_piece`), a numeral for
a number (`toDigits_numeral`), and items and members with the line breaks as the gaps
around them. A line break stands before the comma of no item but after the last one, so
the gap that follows an item is found together with the items after it
(`written_items`, `written_members`).

  §1 Strings   — characters as pieces.
  §2 Numbers   — decimal digits as numerals.
  §3 Documents — `Json.doc`, and `written_indented`.
-/
import ReleaseKit.Proofs.Grammar

namespace ReleaseKit.Json

/-! ## §1 Strings -/

/-- A character stands in a string as a piece that says it. -/
theorem escapeChar_piece (c : Char) :
    ∃ p : Piece, p.chars = escapeChar c ∧
      ∀ ps, Piece.said (p :: ps) = (Piece.said ps).map (c :: ·) := by
  have hshort : ∀ e : Shorthand, escapeChar e.char = ['\\', e.letter] → e.char = c →
      ∃ p : Piece, p.chars = escapeChar c ∧
        ∀ ps, Piece.said (p :: ps) = (Piece.said ps).map (c :: ·) := by
    rintro e hchars rfl
    exact ⟨.short e, hchars.symm, fun ps => rfl⟩
  by_cases hquote : c = '\x22'
  · exact hshort .quote rfl hquote.symm
  by_cases hslash : c = '\\'
  · exact hshort .backslash rfl hslash.symm
  by_cases hbackspace : c = '\x08'
  · exact hshort .backspace rfl hbackspace.symm
  by_cases hfeed : c = '\x0c'
  · exact hshort .formFeed rfl hfeed.symm
  by_cases hline : c = '\n'
  · exact hshort .lineFeed rfl hline.symm
  by_cases hreturn : c = '\r'
  · exact hshort .carriageReturn rfl hreturn.symm
  by_cases htab : c = '\t'
  · exact hshort .tab rfl htab.symm
  by_cases hcontrol : c.toNat < 0x20
  · -- the other controls are their own code units, which are no surrogates
    let u : CodeUnit := ⟨⟨0, false⟩, ⟨0, false⟩, ⟨⟨c.toNat / 16, by omega⟩, false⟩,
      ⟨⟨c.toNat % 16, by omega⟩, false⟩⟩
    have hvalue : u.value = c.toNat := by
      simp only [u, CodeUnit.value]
      omega
    have hlow : ¬ u.IsLow := by
      rw [CodeUnit.IsLow, hvalue]
      omega
    have hhigh : ¬ u.IsHigh := by
      rw [CodeUnit.IsHigh, hvalue]
      omega
    refine ⟨.code u, ?_, fun ps => ?_⟩
    · simp [escapeChar, hquote, hslash, hbackspace, hfeed, hline, hreturn, htab, hcontrol, u,
        Piece.chars, CodeUnit.chars, HexDigit.char, show hexDigit 0 = '0' from rfl]
    · rw [Piece.said_scalar hlow hhigh, hvalue, Char.ofNat_toNat]
  · refine ⟨.plain c ⟨by omega, hquote, hslash⟩, ?_, fun ps => rfl⟩
    simp [escapeChar, hquote, hslash, hbackspace, hfeed, hline, hreturn, htab, hcontrol,
      Piece.chars]

/-- A string is spelled by pieces that say its text. -/
theorem stringChars_pieces (s : String) :
    ∃ ps, Piece.quoted ps = stringChars s ∧ Piece.text? ps = some s := by
  have hpieces : ∀ l : List Char,
      ∃ ps, ps.flatMap Piece.chars = l.flatMap escapeChar ∧ Piece.said ps = some l := by
    intro l
    induction l with
    | nil => exact ⟨[], rfl, rfl⟩
    | cons c l ih =>
      obtain ⟨ps, hchars, hsaid⟩ := ih
      obtain ⟨p, hpiece, hc⟩ := escapeChar_piece c
      refine ⟨p :: ps, ?_, ?_⟩
      · rw [List.flatMap_cons, List.flatMap_cons, hpiece, hchars]
      · rw [hc, hsaid, Option.map_some]
  obtain ⟨ps, hchars, hsaid⟩ := hpieces s.toList
  refine ⟨ps, ?_, ?_⟩
  · rw [Piece.quoted, hchars, stringChars, List.cons_append]
  · rw [Piece.text?, hsaid, Option.map_some, String.ofList_toList]

/-! ## §2 Numbers -/

theorem digitChar_eq {n : Nat} (h : n < 10) : n.digitChar = Char.ofNat (0x30 + n) := by
  rw [← Nat.toNat_digitChar_of_lt_ten h, Char.ofNat_toNat]

/-- The decimal digits of a number are one digit or more, and begin with a zero only if
the number is zero. -/
theorem toDigits_digits (n : Nat) :
    ∃ d : Digits, d.chars = Nat.toDigits 10 n ∧ (d.first = 0 → n = 0) := by
  induction n using Nat.strongRecOn with
  | ind n ih =>
    rcases Nat.lt_or_ge n 10 with hsmall | hlarge
    · refine ⟨⟨⟨n, hsmall⟩, []⟩, ?_, fun h => congrArg Fin.val h⟩
      rw [Nat.toDigits_of_lt_base hsmall, digitChar_eq hsmall]
      rfl
    · obtain ⟨d, hchars, hzero⟩ := ih (n / 10) (by omega)
      have hdigit : n % 10 < 10 := Nat.mod_lt n (by decide)
      refine ⟨⟨d.first, d.others ++ [⟨n % 10, hdigit⟩]⟩, ?_, fun h => ?_⟩
      · rw [Nat.toDigits_of_base_le (by decide) hlarge, ← hchars, digitChar_eq hdigit]
        simp [Digits.chars]
      · have hnone := hzero h
        omega

/-- The decimal digits of a number are a numeral. -/
theorem toDigits_numeral (n : Nat) : ∃ m : Numeral, m.chars = Nat.toDigits 10 n := by
  obtain ⟨d, hchars, hzero⟩ := toDigits_digits n
  by_cases hfirst : d.first = 0
  · refine ⟨⟨false, ⟨0, []⟩, fun _ => rfl, none, none⟩, ?_⟩
    rw [hzero hfirst]
    rfl
  · refine ⟨⟨false, d, fun h => absurd h hfirst, none, none⟩, ?_⟩
    simp [Numeral.chars, hchars]

/-! ## §3 Documents -/

mutual

/-- What a document says in any of its texts. -/
def doc : Json → Doc
  | bool b => .bool b
  | nat _ => .number
  | text s => .text (some s)
  | array items => .array (docItems items)
  | object members => .object (docMembers members)

def docItems : List Json → List Doc
  | [] => []
  | item :: rest => doc item :: docItems rest

def docMembers : List (String × Json) → List (Option String × Doc)
  | [] => []
  | (key, value) :: rest => (some key, doc value) :: docMembers rest

end

@[simp] theorem Gap.chars_nil : Gap.chars [] = [] := rfl

@[simp] theorem Gap.chars_space : Gap.chars [.space] = [' '] := rfl

/-- A line break as a gap. -/
def breakGap (depth : Nat) : Gap := .lineFeed :: List.replicate (2 * depth) .space

theorem breakGap_chars (depth : Nat) : (breakGap depth).chars = lineBreak depth := by
  simp [breakGap, Gap.chars, lineBreak, Blank.char]

mutual

/-- The indented form of a document is a text of what it says, at any depth. -/
theorem written_indentedChars (depth : Nat) : ∀ j : Json, Written j.doc (j.indentedChars depth)
  | bool b => .bool b
  | nat n => by
    obtain ⟨m, hchars⟩ := toDigits_numeral n
    rw [indentedChars, ← hchars]
    exact .number m
  | text s => by
    obtain ⟨ps, hchars, hsaid⟩ := stringChars_pieces s
    rw [indentedChars, ← hchars, doc, ← hsaid]
    exact .text ps
  | array [] => .array [] [] nofun
  | array (item :: rest) => by
    obtain ⟨after, items, hdoc, hwritten, hchars⟩ := written_items (depth + 1) depth rest
    have hfirst := written_indentedChars (depth + 1) item
    have harray := Written.array []
      (⟨breakGap (depth + 1), item.doc, item.indentedChars (depth + 1), after⟩ :: items)
      (List.forall_mem_cons.mpr ⟨hfirst, hwritten⟩)
    simpa [doc, docItems, hdoc, indentedChars, separated, Item.chars, breakGap_chars, hchars]
      using harray
  | object [] => .object [] [] nofun
  | object ((key, value) :: rest) => by
    obtain ⟨after, members, hdoc, hwritten, hchars⟩ := written_members (depth + 1) depth rest
    obtain ⟨ps, hname, hsaid⟩ := stringChars_pieces key
    have hfirst := written_indentedChars (depth + 1) value
    have hobject := Written.object []
      (⟨breakGap (depth + 1), ps, [],
        ⟨[.space], value.doc, value.indentedChars (depth + 1), after⟩⟩ :: members)
      (List.forall_mem_cons.mpr ⟨hfirst, hwritten⟩)
    simpa [doc, docMembers, hdoc, indentedChars, separated, Member.chars, Member.said, Item.chars,
      breakGap_chars, hchars, hname, hsaid] using hobject

/-- The items after one, with the gap that follows the one: the line break before the
bracket if there are none, and nothing otherwise. -/
theorem written_items (depth close : Nat) : ∀ rest : List Json,
    ∃ (after : Gap) (items : List Item), items.map Item.doc = docItems rest ∧
      (∀ i ∈ items, Written i.doc i.text) ∧
      after.chars ++ separated false (items.map Item.chars) =
        indentedItems depth rest ++ lineBreak close
  | [] => ⟨breakGap close, [], rfl, nofun, by
      simp [separated, indentedItems, breakGap_chars]⟩
  | item :: rest => by
    obtain ⟨after, items, hdoc, hwritten, hchars⟩ := written_items depth close rest
    have hfirst := written_indentedChars depth item
    refine ⟨[], ⟨breakGap depth, item.doc, item.indentedChars depth, after⟩ :: items, ?_,
      List.forall_mem_cons.mpr ⟨hfirst, hwritten⟩, ?_⟩
    · rw [List.map_cons, hdoc, docItems]
    · simp [separated, indentedItems, Item.chars, breakGap_chars, hchars]

/-- The same of members. -/
theorem written_members (depth close : Nat) : ∀ rest : List (String × Json),
    ∃ (after : Gap) (members : List Member), members.map Member.said = docMembers rest ∧
      (∀ m ∈ members, Written m.item.doc m.item.text) ∧
      after.chars ++ separated false (members.map Member.chars) =
        indentedMembers depth rest ++ lineBreak close
  | [] => ⟨breakGap close, [], rfl, nofun, by
      simp [separated, indentedMembers, breakGap_chars]⟩
  | (key, value) :: rest => by
    obtain ⟨after, members, hdoc, hwritten, hchars⟩ := written_members depth close rest
    obtain ⟨ps, hname, hsaid⟩ := stringChars_pieces key
    have hfirst := written_indentedChars depth value
    refine ⟨[], ⟨breakGap depth, ps, [],
      ⟨[.space], value.doc, value.indentedChars depth, after⟩⟩ :: members, ?_,
      List.forall_mem_cons.mpr ⟨hfirst, hwritten⟩, ?_⟩
    · simp [hdoc, docMembers, Member.said, hsaid]
    · simp [separated, indentedMembers, Member.chars, Item.chars, breakGap_chars, hchars, hname]

end

/-- What is written in the indented form is a JSON text. -/
theorem written_indented (j : Json) : Written j.doc j.indented.toList := by
  rw [indented, String.toList_ofList]
  exact written_indentedChars 0 j

end ReleaseKit.Json
