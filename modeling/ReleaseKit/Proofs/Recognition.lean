/-
ReleaseKit.Proofs.Recognition — which documents a reader takes.

Reading back what was written says nothing of a text that was not: of one with other
blanks, other spellings, members in another order, or a value of the wrong type. Here
each reader is put beside a shape, a relation of documents and values, and
`Recognises` says that from a text of a document it takes precisely the values of that
shape, and stops where the text stops. It says so of every document: one that has not
the shape is refused, wherever the fault is.

Readers are built from readers and shapes from shapes, so there is one lemma for each
way of building: here texts, truth values, targets and lists, and records on top of
these.

  §1 Results — when steps one after another succeed.
  §2 Strings — the pieces of a string, and halves of surrogate pairs.
  §3 Values  — texts, truth values, targets.
  §4 Lists   — items, one after another.
-/
import ReleaseKit.Proofs.Grammar

namespace ReleaseKit

open Json Manifest.Reader

namespace Json

/-! ## §1 Results -/

theorem bind_eq_ok {ε α β : Type} {x : Except ε α} {f : α → Except ε β} {b : β} :
    (x >>= f) = .ok b ↔ ∃ a, x = .ok a ∧ f a = .ok b := by
  cases x <;> simp [bind, Except.bind]

/-- A value that nobody asked for is a fault, whatever it is. -/
theorem failFound_ne_ok {α : Type} (expected : String) (l : List Char) (a : α) :
    failFound expected l ≠ .ok a := by
  unfold failFound
  split <;> simp [bind_eq_ok, failHere, failNext]
  split <;> simp [bind_eq_ok]

/-! ## §2 Strings -/

theorem hexValue?_char (d : HexDigit) :
    hexValue? d.char = some d.value.val ∧ d.char.utf8Size = 1 := by
  have hall : ∀ (value : Fin 16) (upper : Bool),
      hexValue? (HexDigit.mk value upper).char = some value.val ∧
        (HexDigit.mk value upper).char.utf8Size = 1 := by
    decide
  exact hall d.value d.upper

theorem readHex_chars (u : CodeUnit) (rest : List Char) :
    readHex (u.chars ++ rest) = .ok u.value := by
  simp [readHex, CodeUnit.chars, byteLength, hexValues?, hexValue?_char, CodeUnit.value]

theorem CodeUnit.isLow_iff {u : CodeUnit} : u.IsLow ↔ 0xDC00 ≤ u.value ∧ u.value ≤ 0xDFFF := Iff.rfl

theorem CodeUnit.not_isLow_iff {u : CodeUnit} :
    ¬ u.IsLow ↔ u.value < 0xDC00 ∨ 0xDFFF < u.value := by
  rw [isLow_iff]
  omega

theorem CodeUnit.not_isHigh_iff {u : CodeUnit} :
    ¬ u.IsHigh ↔ u.value < 0xD800 ∨ 0xDBFF < u.value := by
  rw [IsHigh]
  omega

theorem readUnicode_low {u : CodeUnit} (h : u.IsLow) (rest : List Char) (r : Char × Nat) :
    readUnicode (u.chars ++ rest) ≠ .ok r := by
  simp [readUnicode, readHex_chars, bind_eq_ok, CodeUnit.isLow_iff.mp h, failHere]

theorem readUnicode_scalar {u : CodeUnit} (hlow : ¬ u.IsLow) (hhigh : ¬ u.IsHigh)
    (rest : List Char) : readUnicode (u.chars ++ rest) = .ok (Char.ofNat u.value, 4) := by
  simp only [readUnicode, readHex_chars, bind, Except.bind, if_neg (mt CodeUnit.isLow_iff.mpr hlow),
    if_pos (CodeUnit.not_isHigh_iff.mp hhigh)]
  rfl

/-- A first half asks for an escape of four digits at once. -/
theorem readUnicode_high {u : CodeUnit} (hlow : ¬ u.IsLow) (hhigh : u.IsHigh) {rest : List Char}
    {r : Char × Nat} (h : readUnicode (u.chars ++ rest) = .ok r) :
    ∃ after, rest = '\\' :: 'u' :: after := by
  have hdrop : (u.chars ++ rest).drop 4 = rest := rfl
  simp only [readUnicode, readHex_chars, bind, Except.bind, if_neg (mt CodeUnit.isLow_iff.mpr hlow),
    if_neg (fun hnot => CodeUnit.not_isHigh_iff.mpr hnot hhigh), hdrop] at h
  split at h
  · cases h
  · split at h
    · cases h
    · exact ⟨_, rfl⟩
    · cases h
  · cases h

/-- The escape after a first half must be a second half. -/
theorem readUnicode_pair {u : CodeUnit} (hlow : ¬ u.IsLow) (hhigh : u.IsHigh) (v : CodeUnit)
    (rest : List Char) (r : Char × Nat) :
    readUnicode (u.chars ++ '\\' :: 'u' :: (v.chars ++ rest)) = .ok r ↔
      v.IsLow ∧ (u.pairChar v, 10) = r := by
  have hdrop : ∀ l : List Char, (u.chars ++ l).drop 4 = l := fun _ => rfl
  simp only [readUnicode, readHex_chars, bind, Except.bind, if_neg (mt CodeUnit.isLow_iff.mpr hlow),
    if_neg (fun hnot => CodeUnit.not_isHigh_iff.mpr hnot hhigh), hdrop]
  by_cases hsecond : v.IsLow
  · rw [if_neg (fun hnot => CodeUnit.not_isLow_iff.mpr hnot hsecond)]
    simp [hsecond, CodeUnit.pairChar, pure, Except.pure]
  · rw [if_pos (CodeUnit.not_isLow_iff.mp hsecond)]
    simp [hsecond, failHere]

theorem readStringFrom_skip (sofar l rest : List Char) :
    readStringFrom sofar l.length (l ++ rest) = readStringFrom sofar 0 rest := by
  induction l with
  | nil => rfl
  | cons c l ih => rw [List.length_cons, List.cons_append, readStringFrom, ih]

theorem readStringFrom_short (sofar : List Char) (e : Shorthand) (rest : List Char) :
    readStringFrom sofar 0 ('\\' :: e.letter :: rest) =
      readStringFrom (e.char :: sofar) 0 rest := by
  cases e <;> rfl

theorem readStringFrom_code (sofar rest : List Char) (r : Reading String) :
    readStringFrom sofar 0 ('\\' :: 'u' :: rest) = .ok r ↔
      ∃ e, readUnicode rest = .ok e ∧ readStringFrom (e.1 :: sofar) e.2 rest = .ok r := by
  have hread : readEscape ('u' :: rest) = (readUnicode rest).map fun e => (e.1, e.2 + 1) := rfl
  rw [readStringFrom, if_neg (by decide), if_pos rfl, hread]
  cases readUnicode rest with
  | error failure => simp [Except.map]
  | ok e => simp [Except.map, readStringFrom]

/-- Only an escape of four digits begins like one. -/
theorem exists_code_of_chars {ps : List Piece} {rest after : List Char}
    (h : ps.flatMap Piece.chars ++ '\x22' :: rest = '\\' :: 'u' :: after) :
    ∃ v qs, ps = Piece.code v :: qs := by
  cases ps with
  | nil => simp at h
  | cons p ps =>
    cases p with
    | plain c hplain => simp [Piece.chars, hplain.2.2] at h
    | short e => cases e <;> simp [Piece.chars, Shorthand.letter] at h
    | code v => exact ⟨v, ps, rfl⟩

/-- The body of a string is read as what its pieces say, if they say something. -/
theorem readStringFrom_pieces (ps : List Piece) (sofar rest : List Char) (s : String)
    (left : List Char) :
    readStringFrom sofar 0 (ps.flatMap Piece.chars ++ '\x22' :: rest) = .ok (s, left) ↔
      ∃ l, Piece.said ps = some l ∧ s = String.ofList (sofar.reverse ++ l) ∧ left = rest := by
  -- The cases are those of `Piece.said`; from the fourth on the first piece is an escape of
  -- four digits, and they differ in the kind of its unit and in what follows it.
  induction ps using Piece.said.induct generalizing sofar with
  | case1 => simp [Piece.said, readStringFrom, eq_comm]
  | case2 c h ps ih =>
    have hcontrol : ¬ c.toNat < 0x20 := by omega
    have hread : ∀ l, readStringFrom sofar 0 (c :: l) = readStringFrom (c :: sofar) 0 l := by
      intro l
      rw [readStringFrom, if_neg h.2.1, if_neg h.2.2, if_neg hcontrol]
    simp [Piece.chars, hread, ih, Piece.said]
  | case3 e ps ih => simp [Piece.chars, readStringFrom_short, ih, Piece.said]
  | case4 u ps hlow =>
    simp [Piece.chars, readStringFrom_code, readUnicode_low hlow, Piece.said_low hlow]
  | case5 u hlow hhigh v ps hsecond ih =>
    have hskip : ∀ sofar l, readStringFrom sofar 10 (u.chars ++ '\\' :: 'u' :: (v.chars ++ l)) =
        readStringFrom sofar 0 l := fun sofar l =>
      readStringFrom_skip sofar (u.chars ++ '\\' :: 'u' :: v.chars) l
    simp [Piece.chars, readStringFrom_code, readUnicode_pair hlow hhigh, Piece.said, hlow, hhigh,
      hsecond, hskip, ih]
  | case6 u hlow hhigh v ps hsecond =>
    simp [Piece.chars, readStringFrom_code, readUnicode_pair hlow hhigh, Piece.said, hlow, hhigh,
      hsecond]
  | case7 u ps hlow hhigh hnone =>
    have hread : ∀ e,
        readUnicode (u.chars ++ (ps.flatMap Piece.chars ++ '\x22' :: rest)) ≠ .ok e := by
      intro e he
      obtain ⟨after, hafter⟩ := readUnicode_high hlow hhigh he
      obtain ⟨v, qs, rfl⟩ := exists_code_of_chars hafter
      exact hnone v qs rfl
    simp [Piece.chars, readStringFrom_code, hread, Piece.said_high hlow hhigh hnone]
  | case8 u ps hlow hhigh ih =>
    have hskip : ∀ sofar l, readStringFrom sofar 4 (u.chars ++ l) = readStringFrom sofar 0 l :=
      fun sofar l => readStringFrom_skip sofar u.chars l
    simp [Piece.chars, readStringFrom_code, readUnicode_scalar hlow hhigh,
      Piece.said_scalar hlow hhigh, hskip, ih]

theorem readStringBody_pieces (ps : List Piece) (rest : List Char) (s : String)
    (left : List Char) :
    readStringBody (ps.flatMap Piece.chars ++ '\x22' :: rest) = .ok (s, left) ↔
      Piece.text? ps = some s ∧ left = rest := by
  simp only [readStringBody, readStringFrom_pieces, Piece.text?, Option.map_eq_some_iff,
    List.reverse_nil, List.nil_append, ← and_assoc, exists_and_right, eq_comm (b := s)]

/-! ## §3 Values -/

/-- A reader takes from the text of a document precisely what the document is of a
shape, whatever stands before and after. -/
def Recognises {α : Type} (read : Reader α) (shape : Doc → α → Prop) : Prop :=
  ∀ ⦃d : Doc⦄ ⦃l : List Char⦄, Written d l → ∀ (gap : Gap) (rest : List Char) (a : α)
    (left : List Char), read (gap.chars ++ (l ++ rest)) = .ok (a, left) ↔ shape d a ∧ left = rest

theorem Recognises.congr {α : Type} {read : Reader α} {shape shape' : Doc → α → Prop}
    (h : Recognises read shape) (hshape : ∀ d a, shape d a ↔ shape' d a) :
    Recognises read shape' := by
  intro d l hd gap rest a left
  rw [h hd, hshape]

/-- A written document is what at most one value is. -/
theorem Recognises.unique {α : Type} {read : Reader α} {shape : Doc → α → Prop}
    (h : Recognises read shape) {d : Doc} {l : List Char} (hd : Written d l) {a b : α}
    (ha : shape d a) (hb : shape d b) : a = b := by
  have hread := (h hd [] [] a []).mpr ⟨ha, rfl⟩
  rw [(h hd [] [] b []).mpr ⟨hb, rfl⟩] at hread
  cases hread
  rfl

end Json

namespace Manifest.Reader

/-- The document is a string and says the text. -/
def IsText (d : Doc) (s : String) : Prop := d = .text (some s)

def IsBool (d : Doc) (b : Bool) : Prop := d = .bool b

/-- The document is a string and says the names of the target. -/
def IsTarget (d : Doc) (t : Target) : Prop := IsText d t.pair

/-- The document is an array, and each of its items is what the list has there. -/
def IsList {α : Type} (shape : Doc → α → Prop) (d : Doc) (as : List α) : Prop :=
  ∃ items, d = .array items ∧ List.Forall₂ shape items as

theorem recognises_text : Recognises readText IsText := by
  intro d l h gap rest s left
  rw [readText, skipBlank_gap, h.opens.skipBlank_append]
  split
  · rename_i tail heq
    obtain ⟨-, -, hquote, -⟩ := d.begins_iff
    obtain ⟨value, rfl⟩ := hquote.mp (h.begins_of_append heq)
    cases h with
    | text ps =>
      have htail : tail = ps.flatMap Piece.chars ++ '\x22' :: rest := by
        simpa [Piece.quoted] using heq.symm
      rw [htail, readStringBody_pieces, IsText, Doc.text.injEq]
  · rename_i hquote
    refine iff_of_false (failFound_ne_ok _ _ _) ?_
    rintro ⟨rfl, -⟩
    obtain ⟨c, tail, rfl, rfl⟩ := h.begins
    exact hquote _ rfl

theorem recognises_bool : Recognises readBool IsBool := by
  intro d l h gap rest b left
  rw [readBool, skipBlank_gap, h.opens.skipBlank_append]
  split
  · rename_i tail heq
    obtain ⟨htrue, -⟩ := d.begins_iff
    obtain rfl := htrue.mp (h.begins_of_append heq)
    cases h
    cases heq
    show Except.ok (true, rest) = .ok (b, left) ↔ _
    simp [IsBool, eq_comm (a := rest)]
  · rename_i tail heq
    obtain ⟨-, hfalse, -⟩ := d.begins_iff
    obtain rfl := hfalse.mp (h.begins_of_append heq)
    cases h
    cases heq
    show Except.ok (false, rest) = .ok (b, left) ↔ _
    simp [IsBool, eq_comm (a := rest)]
  · rename_i htrue hfalse
    refine iff_of_false (failFound_ne_ok _ _ _) ?_
    rintro ⟨rfl, -⟩
    obtain ⟨c, tail, rfl, rfl⟩ := h.begins
    cases b
    · exact hfalse _ rfl
    · exact htrue _ rfl

/-- The names of a target are the only text that is read as the target. -/
theorem ofText_eq_ok {s : String} {t : Target} : Target.ofText s = .ok t ↔ s = t.pair := by
  refine ⟨fun h => ?_, fun h => h ▸ ofText_pair t⟩
  unfold Target.ofText at h
  split at h
  · cases h
  · rename_i before after hsplit
    obtain ⟨os, hos, h⟩ := bind_eq_ok.mp h
    obtain ⟨arch, harch, h⟩ := bind_eq_ok.mp h
    cases h
    have hname : String.ofList before = os.name := by
      unfold Os.ofText at hos
      split at hos <;> cases hos
      exact Os.ofName?_eq_some.mp (by assumption)
    have harchName : String.ofList after = arch.name := by
      unfold Arch.ofText at harch
      split at harch <;> cases harch
      exact Arch.ofName?_eq_some.mp (by assumption)
    apply String.toList_inj.mp
    simp [Target.pair, ← hname, ← harchName, (splitOnce_eq_some hsplit).1]

theorem recognises_target : Recognises readTarget IsTarget := by
  intro d l h gap rest t left
  simp only [readTarget, bind_eq_ok, Prod.exists, recognises_text h]
  constructor
  · rintro ⟨s, _, ⟨hs, rfl⟩, hread⟩
    split at hread
    · rename_i t' ht
      cases hread
      obtain rfl := ofText_eq_ok.mp ht
      exact ⟨hs, rfl⟩
    · cases hread
  · rintro ⟨ht, rfl⟩
    refine ⟨t.pair, left, ⟨ht, rfl⟩, ?_⟩
    rw [ofText_pair]
    rfl

/-! ## §4 Lists -/

theorem closeArray_eq_ok {α : Type} {read : Except Failure (Reading α)} {a : α}
    {left : List Char} :
    closeArray read = .ok (a, left) ↔ ∃ rest, read = .ok (a, rest) ∧ endArray rest = .ok left := by
  cases read with
  | ok r =>
    obtain ⟨b, rest⟩ := r
    simp only [closeArray, bind_eq_ok, Except.ok.injEq, Prod.mk.injEq]
    constructor
    · rintro ⟨rest', hend, h⟩
      cases h
      exact ⟨rest, ⟨rfl, rfl⟩, hend⟩
    · rintro ⟨_, ⟨rfl, rfl⟩, hend⟩
      exact ⟨left, hend, rfl⟩
  | error failure => cases failure <;> simp [closeArray]

theorem endArray_gap (gap : Gap) (rest : List Char) :
    endArray (gap.chars ++ ']' :: rest) = .ok rest := by
  rw [endArray, skipBlank_gap, skipBlank_cons (by decide)]
  rfl

theorem nextItem_gap_end (gap : Gap) (first : Bool) (rest : List Char) :
    nextItem first (gap.chars ++ ']' :: rest) = .ok none := by
  rw [nextItem, skipBlank_gap]
  exact nextItem_end first rest

/-- The next item is where its text begins, after the gaps and the comma before it. -/
theorem nextItem_item {i : Item} (h : Opens i.text) (gap : Gap) (first : Bool)
    (rest : List Char) :
    nextItem first (gap.chars ++ ((if first then i.chars else ',' :: i.chars) ++ rest)) =
      .ok (some (i.text ++ (i.after.chars ++ rest))) := by
  have hnext := nextItem_append h first (i.after.chars ++ rest)
  cases first with
  | true =>
    simp only [if_true, Item.chars, List.append_assoc] at hnext ⊢
    rw [nextItem, skipBlank_gap, skipBlank_gap]
    exact hnext
  | false =>
    simp only [Bool.false_eq_true, if_false, Item.chars, List.cons_append,
      List.append_assoc] at hnext ⊢
    rw [nextItem, skipBlank_cons (by decide)] at hnext
    rw [nextItem, skipBlank_gap, skipBlank_cons (by decide)]
    simpa only [Bool.false_eq_true, if_false, skipBlank_gap] using hnext

/-- Texts one after another have at least one character each. -/
theorem length_le_separated {ls : List (List Char)} (h : ∀ l ∈ ls, l ≠ []) (first : Bool) :
    ls.length ≤ (separated first ls).length := by
  induction ls generalizing first with
  | nil => simp
  | cons l ls ih =>
    have hlater := ih (fun k hk => h k (by simp [hk])) false
    have hlength : l.length ≤ (if first then l else ',' :: l).length := by
      cases first <;> simp
    have hpos := List.length_pos_of_ne_nil (h l (by simp))
    rw [separated, List.length_append, List.length_cons]
    omega

theorem Item.chars_ne_nil {i : Item} (h : Written i.doc i.text) : i.chars ≠ [] := by
  obtain ⟨c, tail, htext, -⟩ := h.begins
  simp [Item.chars, htext]

section Lists

variable {α : Type} {item : Reader α} {shape : Doc → α → Prop}

/-- The first of the items left is read as what it is, and then the items after it. -/
theorem readItems_cons (hitem : Recognises item shape) {i : Item} (h : Written i.doc i.text)
    (fuel : Nat) (first : Bool) (gap : Gap) (rest : List Char) (as : List α)
    (ending : List Char) :
    readItems item (fuel + 1) first
        (gap.chars ++ ((if first then i.chars else ',' :: i.chars) ++ rest)) = .ok (as, ending) ↔
      ∃ a later, as = a :: later ∧ shape i.doc a ∧
        readItems item fuel false (i.after.chars ++ rest) = .ok (later, ending) := by
  have hread := hitem h [] (i.after.chars ++ rest)
  have hstep : readItems item (fuel + 1) first
      (gap.chars ++ ((if first then i.chars else ',' :: i.chars) ++ rest)) = (do
        let r ← item (i.text ++ (i.after.chars ++ rest))
        let later ← readItems item fuel false r.2
        pure (r.1 :: later.1, later.2)) := by
    rw [readItems, nextItem_item h.opens]
    rfl
  rw [hstep, bind_eq_ok]
  constructor
  · rintro ⟨⟨a, after⟩, ha, hrest⟩
    obtain ⟨hshape, rfl⟩ := (hread a after).mp ha
    obtain ⟨⟨later, _⟩, hlater, ⟨⟩⟩ := bind_eq_ok.mp hrest
    exact ⟨a, later, rfl, hshape, hlater⟩
  · rintro ⟨a, later, rfl, hshape, hlater⟩
    refine ⟨_, (hread a _).mpr ⟨hshape, rfl⟩, ?_⟩
    exact bind_eq_ok.mpr ⟨_, hlater, rfl⟩

/-- Items are read as what each of them is, up to the end of the array, if there is
fuel for all. -/
theorem readItems_iff (hitem : Recognises item shape) {items : List Item}
    (h : ∀ i ∈ items, Written i.doc i.text) {fuel : Nat} (hfuel : items.length < fuel)
    (first : Bool) (gap : Gap) (rest : List Char) (as : List α) (left : List Char) :
    (∃ ending, readItems item fuel first
        (gap.chars ++ (separated first (items.map Item.chars) ++ ']' :: rest)) = .ok (as, ending) ∧
          endArray ending = .ok left) ↔
      List.Forall₂ shape (items.map Item.doc) as ∧ left = rest := by
  induction items generalizing fuel first gap as with
  | nil =>
    obtain ⟨fuel, rfl⟩ : ∃ n, fuel = n + 1 := ⟨fuel - 1, by omega⟩
    rw [List.map_nil, separated, List.nil_append, readItems, nextItem_gap_end]
    simp [bind, Except.bind, pure, Except.pure, endArray_gap, eq_comm]
  | cons i items ih =>
    obtain ⟨fuel, rfl⟩ : ∃ n, fuel = n + 1 := ⟨fuel - 1, by omega⟩
    have hlater := ih (fun j hj => h j (by simp [hj])) (Nat.lt_of_succ_lt_succ hfuel) false i.after
    simp only [List.map_cons, separated, List.append_assoc,
      readItems_cons hitem (h i (by simp)), List.forall₂_cons_left_iff]
    constructor
    · rintro ⟨ending, ⟨a, later, rfl, ha, hread⟩, hend⟩
      obtain ⟨hall, rfl⟩ := (hlater later).mp ⟨ending, hread, hend⟩
      exact ⟨⟨a, later, ha, hall, rfl⟩, rfl⟩
    · rintro ⟨⟨a, later, ha, hall, rfl⟩, rfl⟩
      obtain ⟨ending, hread, hend⟩ := (hlater later).mpr ⟨hall, rfl⟩
      exact ⟨ending, ⟨a, later, rfl, ha, hread⟩, hend⟩

/-- A list is an array of what its items are. -/
theorem recognises_list (hitem : Recognises item shape) :
    Recognises (readList item) (IsList shape) := by
  intro d l h gap rest as left
  rw [readList, skipBlank_gap, h.opens.skipBlank_append]
  split
  · rename_i tail heq
    obtain ⟨-, -, -, hbracket, -⟩ := d.begins_iff
    obtain ⟨_, rfl⟩ := hbracket.mp (h.begins_of_append heq)
    cases h with
    | array inner items hitems =>
      have htail : tail = inner.chars ++
          (separated true (items.map Item.chars) ++ ']' :: rest) := by
        simpa using heq.symm
      have hlength : (items.map Item.chars).length ≤
          (separated true (items.map Item.chars)).length :=
        length_le_separated (by simpa using fun i hi => Item.chars_ne_nil (hitems i hi)) true
      have hfuel : items.length < tail.length + 1 := by
        simp only [List.length_map] at hlength
        simp only [htail, List.length_append]
        omega
      rw [closeArray_eq_ok]
      subst htail
      rw [readItems_iff hitem hitems hfuel]
      simp [IsList]
  · rename_i hbracket
    refine iff_of_false (failFound_ne_ok _ _ _) ?_
    rintro ⟨⟨items, rfl, -⟩, -⟩
    obtain ⟨c, tail, rfl, rfl⟩ := h.begins
    exact hbracket _ rfl

end Lists

end Manifest.Reader

end ReleaseKit
