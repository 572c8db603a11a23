/-
ReleaseKit.Proofs.Records — which documents the reader of a record takes.

A record is an object of its fields or an array of their values. What the two have in
common is a list of entries and what they make. In an object the entries may come in
any order, but no two of one field; in an array their fields begin the list of fields.
That a field is missing is for `Shape.finish` to say.

  §1 Records — `IsRecord`, the two forms of a record.
  §2 Arrays  — the values of the fields in their order.
  §3 Objects — members, each of a field of its own.
  §4 Readers — either form, and nothing else.
-/
import ReleaseKit.Proofs.Recognition

namespace ReleaseKit

open Json Manifest.Reader

namespace Manifest.Reader

section Records

variable {φ ε ρ : Type} {s : Shape φ ε ρ} {means : Doc → ε → Prop}

/-! ## §1 Records -/

/-- What is said of a record fits together: every field is listed, no two fields have one
label, and the value of a field is read as an entry of that field. `means` relates a
value's document to the entry. -/
structure Lawful (s : Shape φ ε ρ) (means : Doc → ε → Prop) : Prop where
  complete : ∀ field, field ∈ s.fields
  label_injective : Function.Injective s.label
  recognises : ∀ field, Recognises (s.readValue field) fun d e => s.fieldOf e = field ∧ means d e

/-- The member gives the entry: its name is the label of the entry's field, and its value
means the entry. -/
def IsMember (s : Shape φ ε ρ) (means : Doc → ε → Prop) (m : Option String × Doc) (e : ε) : Prop :=
  m.1 = some (s.label (s.fieldOf e)) ∧ means m.2 e

/-- The document gives a record: as an object of entries of different fields, or as an
array of entries of the first fields in their order. -/
def IsRecord (s : Shape φ ε ρ) (means : Doc → ε → Prop) (d : Doc) (record : ρ) : Prop :=
  ∃ entries, s.finish entries = .ok record ∧
    ((∃ members, d = .object members ∧ List.Forall₂ (IsMember s means) members entries ∧
        (entries.map s.fieldOf).Nodup) ∨
      ∃ items, d = .array items ∧ List.Forall₂ means items entries ∧
        entries.map s.fieldOf <+: s.fields)

theorem isRecord_array {items : List Doc} {record : ρ} :
    IsRecord s means (.array items) record ↔
      ∃ entries, s.finish entries = .ok record ∧ List.Forall₂ means items entries ∧
        entries.map s.fieldOf <+: s.fields := by
  simp [IsRecord]

theorem isRecord_object {members : List (Option String × Doc)} {record : ρ} :
    IsRecord s means (.object members) record ↔
      ∃ entries, s.finish entries = .ok record ∧
        List.Forall₂ (IsMember s means) members entries ∧ (entries.map s.fieldOf).Nodup := by
  simp [IsRecord]

/-- The record is made after the entries have been read and before the end is: in which
order makes no difference to what is read. -/
theorem exists_finish_iff {reads : List ε → List Char → Prop} {ends : List Char → Prop}
    {gives : List ε → Prop} {record : ρ} {rest left : List Char}
    (h : ∀ entries, (∃ ending, reads entries ending ∧ ends ending) ↔
      gives entries ∧ left = rest) :
    (∃ ending, (∃ entries, reads entries ending ∧ s.finish entries = .ok record) ∧ ends ending) ↔
      (∃ entries, s.finish entries = .ok record ∧ gives entries) ∧ left = rest := by
  constructor
  · rintro ⟨ending, ⟨entries, hreads, hfinish⟩, hends⟩
    obtain ⟨hgives, rfl⟩ := (h entries).mp ⟨ending, hreads, hends⟩
    exact ⟨⟨entries, hfinish, hgives⟩, rfl⟩
  · rintro ⟨⟨entries, hfinish, hgives⟩, rfl⟩
    obtain ⟨ending, hreads, hends⟩ := (h entries).mpr ⟨hgives, rfl⟩
    exact ⟨ending, ⟨entries, hreads, hfinish⟩, hends⟩

/-! ## §2 Arrays -/

theorem endArray_item_ne_ok {i : Item} (h : Opens i.text) (gap : Gap) (first : Bool)
    (rest left : List Char) :
    endArray (gap.chars ++ ((if first then i.chars else ',' :: i.chars) ++ rest)) ≠ .ok left := by
  obtain ⟨c, tail, htext, hblank, hend, hcomma⟩ := h
  cases first with
  | true =>
    rw [if_pos rfl, Item.chars, List.append_assoc, List.append_assoc, endArray, skipBlank_gap,
      skipBlank_gap, htext, List.cons_append, skipBlank_cons hblank]
    split <;> simp_all [failNext]
  | false =>
    rw [if_neg (by decide), List.cons_append, endArray, skipBlank_gap, skipBlank_cons (by decide)]
    split <;> simp_all [failNext]
    split <;> simp

/-- The first of the items left is read as the value of the first of the fields left, and
then the items after it. -/
theorem readPositions_cons (hlawful : Lawful s means) {i : Item} (h : Written i.doc i.text)
    (field : φ) (fields : List φ) (first : Bool) (gap : Gap) (rest : List Char)
    (entries : List ε) (ending : List Char) :
    readPositions s (field :: fields) first
        (gap.chars ++ ((if first then i.chars else ',' :: i.chars) ++ rest)) =
          .ok (entries, ending) ↔
      ∃ e later, entries = e :: later ∧ s.fieldOf e = field ∧ means i.doc e ∧
        readPositions s fields false (i.after.chars ++ rest) = .ok (later, ending) := by
  have hread := hlawful.recognises field h [] (i.after.chars ++ rest)
  have hstep : readPositions s (field :: fields) first
      (gap.chars ++ ((if first then i.chars else ',' :: i.chars) ++ rest)) = (do
        let r ← s.readValue field (i.text ++ (i.after.chars ++ rest))
        let later ← readPositions s fields false r.2
        pure (r.1 :: later.1, later.2)) := by
    rw [readPositions, nextItem_item h.opens]
    rfl
  rw [hstep, bind_eq_ok]
  constructor
  · rintro ⟨⟨e, after⟩, he, hrest⟩
    obtain ⟨⟨hfield, hmeans⟩, rfl⟩ := (hread e after).mp he
    obtain ⟨⟨later, _⟩, hlater, ⟨⟩⟩ := bind_eq_ok.mp hrest
    exact ⟨e, later, rfl, hfield, hmeans, hlater⟩
  · rintro ⟨e, later, rfl, hfield, hmeans, hlater⟩
    refine ⟨_, (hread e _).mpr ⟨⟨hfield, hmeans⟩, rfl⟩, ?_⟩
    exact bind_eq_ok.mpr ⟨_, hlater, rfl⟩

/-- Items are read as values of the fields in their order, as far as there are items; if
there are more, the array has no end where the fields have. -/
theorem readPositions_iff (hlawful : Lawful s means) {items : List Item}
    (h : ∀ i ∈ items, Written i.doc i.text) (fields : List φ) (first : Bool) (gap : Gap)
    (rest : List Char) (entries : List ε) (left : List Char) :
    (∃ ending, readPositions s fields first
        (gap.chars ++ (separated first (items.map Item.chars) ++ ']' :: rest)) =
          .ok (entries, ending) ∧ endArray ending = .ok left) ↔
      (List.Forall₂ means (items.map Item.doc) entries ∧ entries.map s.fieldOf <+: fields) ∧
        left = rest := by
  induction fields generalizing items first gap entries with
  | nil =>
    simp only [readPositions, Except.ok.injEq, Prod.mk.injEq, List.prefix_nil, List.map_eq_nil_iff]
    cases items with
    | nil =>
      simp only [List.map_nil, separated, List.nil_append, List.forall₂_nil_left_iff, and_self]
      constructor
      · rintro ⟨_, ⟨rfl, rfl⟩, hend⟩
        rw [endArray_gap] at hend
        cases hend
        exact ⟨rfl, rfl⟩
      · rintro ⟨rfl, rfl⟩
        exact ⟨_, ⟨rfl, rfl⟩, endArray_gap gap left⟩
    | cons i items =>
      refine iff_of_false ?_ ?_
      · rintro ⟨_, ⟨rfl, rfl⟩, hend⟩
        rw [List.map_cons, separated, List.append_assoc] at hend
        exact endArray_item_ne_ok (h i (by simp)).opens gap first _ left hend
      · rintro ⟨⟨hall, rfl⟩, -⟩
        cases hall
  | cons field fields ih =>
    cases items with
    | nil =>
      rw [List.map_nil, separated, List.nil_append, readPositions, nextItem_gap_end]
      simp only [bind, Except.bind, pure, Except.pure, Except.ok.injEq, Prod.mk.injEq,
        List.map_nil, List.forall₂_nil_left_iff]
      constructor
      · rintro ⟨_, ⟨rfl, rfl⟩, hend⟩
        rw [endArray_gap] at hend
        cases hend
        exact ⟨⟨rfl, List.nil_prefix⟩, rfl⟩
      · rintro ⟨⟨rfl, -⟩, rfl⟩
        exact ⟨_, ⟨rfl, rfl⟩, endArray_gap gap left⟩
    | cons i items =>
      have hlater := ih (fun j hj => h j (List.mem_cons_of_mem i hj)) false i.after
      simp only [List.map_cons, separated, List.append_assoc,
        readPositions_cons hlawful (h i (by simp)), List.forall₂_cons_left_iff]
      constructor
      · rintro ⟨ending, ⟨e, later, rfl, hfield, he, hread⟩, hend⟩
        obtain ⟨⟨hall, hprefix⟩, rfl⟩ := (hlater later).mp ⟨ending, hread, hend⟩
        refine ⟨⟨⟨e, later, he, hall, rfl⟩, ?_⟩, rfl⟩
        exact List.cons_prefix_cons.mpr ⟨hfield, hprefix⟩
      · rintro ⟨⟨⟨e, later, he, hall, rfl⟩, hprefix⟩, rfl⟩
        obtain ⟨hfield, hprefix⟩ := List.cons_prefix_cons.mp hprefix
        obtain ⟨ending, hread, hend⟩ := (hlater later).mpr ⟨⟨hall, hprefix⟩, rfl⟩
        exact ⟨ending, ⟨e, later, rfl, hfield, he, hread⟩, hend⟩

theorem readArray_eq_ok {l left : List Char} {record : ρ} :
    readArray s l = .ok (record, left) ↔
      ∃ entries, readPositions s s.fields true l = .ok (entries, left) ∧
        s.finish entries = .ok record := by
  rw [readArray, bind_eq_ok]
  constructor
  · rintro ⟨⟨entries, rest⟩, hread, h⟩
    cases hfinish : s.finish entries <;> simp only [hfinish] at h <;> cases h
    exact ⟨entries, hread, hfinish⟩
  · rintro ⟨entries, hread, hfinish⟩
    refine ⟨_, hread, ?_⟩
    simp only [hfinish]
    rfl

/-- An array is read as the record that its items give. -/
theorem closeArray_readArray (hlawful : Lawful s means) {items : List Item}
    (h : ∀ i ∈ items, Written i.doc i.text) (gap : Gap) (rest : List Char) (record : ρ)
    (left : List Char) :
    closeArray (readArray s
        (gap.chars ++ (separated true (items.map Item.chars) ++ ']' :: rest))) =
          .ok (record, left) ↔
      IsRecord s means (.array (items.map Item.doc)) record ∧ left = rest := by
  simp only [closeArray_eq_ok, readArray_eq_ok, isRecord_array]
  exact exists_finish_iff fun entries =>
    readPositions_iff hlawful h s.fields true gap rest entries left

/-! ## §3 Objects -/

theorem closeObject_eq_ok {α : Type} {read : Except Failure (Reading α)} {a : α}
    {left : List Char} :
    closeObject read = .ok (a, left) ↔
      ∃ rest, read = .ok (a, rest) ∧ endObject rest = .ok left := by
  cases read with
  | ok r =>
    obtain ⟨b, rest⟩ := r
    simp only [closeObject, bind_eq_ok, Except.ok.injEq, Prod.mk.injEq]
    constructor
    · rintro ⟨rest', hend, h⟩
      cases h
      exact ⟨rest, ⟨rfl, rfl⟩, hend⟩
    · rintro ⟨_, ⟨rfl, rfl⟩, hend⟩
      exact ⟨left, hend, rfl⟩
  | error failure => cases failure <;> simp [closeObject]

theorem endObject_gap (gap : Gap) (rest : List Char) :
    endObject (gap.chars ++ '\x7d' :: rest) = .ok rest := by
  rw [endObject, skipBlank_gap, skipBlank_cons (by decide)]
  rfl

theorem nextKey_gap_end (gap : Gap) (first : Bool) (rest : List Char) :
    nextKey first (gap.chars ++ '\x7d' :: rest) = .ok none := by
  rw [nextKey, skipBlank_gap]
  exact nextKey_end first rest

/-- The next key is where the name of its member begins, after the gaps and the comma
before it. -/
theorem nextKey_member (m : Member) (gap : Gap) (first : Bool) (rest : List Char) :
    nextKey first (gap.chars ++ ((if first then m.chars else ',' :: m.chars) ++ rest)) =
      .ok (some (m.name.flatMap Piece.chars ++
        '\x22' :: (m.after.chars ++ ':' :: (m.item.chars ++ rest)))) := by
  have htext : m.chars ++ rest = m.before.chars ++ '\x22' :: (m.name.flatMap Piece.chars ++
      '\x22' :: (m.after.chars ++ ':' :: (m.item.chars ++ rest))) := by
    simp [Member.chars, Piece.quoted]
  cases first with
  | true =>
    rw [if_pos rfl, htext, nextKey, skipBlank_gap, skipBlank_gap, skipBlank_cons (by decide)]
    rfl
  | false =>
    rw [if_neg (by decide), List.cons_append, htext, nextKey, skipBlank_gap,
      skipBlank_cons (by decide)]
    simp only [Bool.false_eq_true, if_false, skipBlank_gap]
    rw [skipBlank_cons (by decide)]
    rfl

theorem readColon_gap (gap : Gap) (rest : List Char) :
    readColon (gap.chars ++ ':' :: rest) = .ok rest := by
  rw [readColon, skipBlank_gap]
  exact readColon_append rest

/-- A key is read as the field whose label it says. -/
theorem readField_iff (hlawful : Lawful s means) (name : List Piece) (rest : List Char) (field : φ)
    (left : List Char) :
    readField s (name.flatMap Piece.chars ++ '\x22' :: rest) = .ok (field, left) ↔
      Piece.text? name = some (s.label field) ∧ left = rest := by
  simp only [readField, bind_eq_ok, Prod.exists, readStringBody_pieces]
  constructor
  · rintro ⟨key, _, ⟨hkey, rfl⟩, hread⟩
    split at hread
    · rename_i found hfound
      cases hread
      have hlabel : s.label field = key := by simpa using List.find?_some hfound
      exact ⟨hlabel ▸ hkey, rfl⟩
    · cases hread
  · rintro ⟨hkey, rfl⟩
    refine ⟨s.label field, left, ⟨hkey, rfl⟩, ?_⟩
    have hfind : (s.fields.find? fun other => s.label other == s.label field) = some field := by
      cases hfound : s.fields.find? fun other => s.label other == s.label field with
      | none =>
        exact absurd (List.find?_eq_none.mp hfound field (hlawful.complete field)) (by simp)
      | some other =>
        have hlabel : s.label other = s.label field := by simpa using List.find?_some hfound
        rw [hlawful.label_injective hlabel]
    rw [hfind]
    rfl

variable [DecidableEq φ]

/-- The first of the members left is read as an entry of a field that has had no value,
and then the members after it. -/
theorem readMembers_cons (hlawful : Lawful s means) {m : Member}
    (h : Written m.item.doc m.item.text) (fuel : Nat) (first : Bool) (seen : List φ) (gap : Gap)
    (rest : List Char) (entries : List ε) (ending : List Char) :
    readMembers s (fuel + 1) first seen
        (gap.chars ++ ((if first then m.chars else ',' :: m.chars) ++ rest)) =
          .ok (entries, ending) ↔
      ∃ e later, entries = e :: later ∧ IsMember s means m.said e ∧ s.fieldOf e ∉ seen ∧
        readMembers s fuel false (s.fieldOf e :: seen) (m.item.after.chars ++ rest) =
          .ok (later, ending) := by
  have hkey := readField_iff hlawful m.name (m.after.chars ++ ':' :: (m.item.chars ++ rest))
  have htext : m.item.chars ++ rest =
      m.item.before.chars ++ (m.item.text ++ (m.item.after.chars ++ rest)) := by
    simp [Item.chars]
  have hstep : readMembers s (fuel + 1) first seen
      (gap.chars ++ ((if first then m.chars else ',' :: m.chars) ++ rest)) = (do
        let key ← readField s (m.name.flatMap Piece.chars ++
          '\x22' :: (m.after.chars ++ ':' :: (m.item.chars ++ rest)))
        if key.1 ∈ seen then .error (.inside (.duplicateField (s.label key.1)) key.2)
        else
          let rest ← readColon key.2
          let r ← s.readValue key.1 rest
          let later ← readMembers s fuel false (key.1 :: seen) r.2
          pure (r.1 :: later.1, later.2)) := by
    rw [readMembers, nextKey_member]
    rfl
  rw [hstep, bind_eq_ok]
  constructor
  · rintro ⟨⟨field, after⟩, hfield, hread⟩
    obtain ⟨hname, rfl⟩ := (hkey field after).mp hfield
    dsimp only at hread
    by_cases hseen : field ∈ seen
    · rw [if_pos hseen] at hread
      cases hread
    · rw [if_neg hseen, readColon_gap] at hread
      obtain ⟨_, hcolon, hread⟩ := bind_eq_ok.mp hread
      cases hcolon
      obtain ⟨⟨e, after⟩, he, hread⟩ := bind_eq_ok.mp hread
      rw [htext] at he
      obtain ⟨⟨rfl, hmeans⟩, rfl⟩ := (hlawful.recognises field h _ _ _ _).mp he
      obtain ⟨⟨later, _⟩, hlater, ⟨⟩⟩ := bind_eq_ok.mp hread
      exact ⟨e, later, rfl, ⟨hname, hmeans⟩, hseen, hlater⟩
  · rintro ⟨e, later, rfl, ⟨hname, hmeans⟩, hseen, hlater⟩
    refine ⟨_, (hkey (s.fieldOf e) _).mpr ⟨hname, rfl⟩, ?_⟩
    have he := (hlawful.recognises (s.fieldOf e) h m.item.before (m.item.after.chars ++ rest) e
      (m.item.after.chars ++ rest)).mpr ⟨⟨rfl, hmeans⟩, rfl⟩
    rw [← htext] at he
    simp only [if_neg hseen, readColon_gap]
    exact bind_eq_ok.mpr ⟨_, rfl, bind_eq_ok.mpr ⟨_, he, bind_eq_ok.mpr ⟨_, hlater, rfl⟩⟩⟩

/-- Members are read as entries of different fields, up to the end of the object, if
there is fuel for all. -/
theorem readMembers_iff (hlawful : Lawful s means) {members : List Member}
    (h : ∀ m ∈ members, Written m.item.doc m.item.text) {fuel : Nat}
    (hfuel : members.length < fuel) (first : Bool) (seen : List φ) (gap : Gap) (rest : List Char)
    (entries : List ε) (left : List Char) :
    (∃ ending, readMembers s fuel first seen
        (gap.chars ++ (separated first (members.map Member.chars) ++ '\x7d' :: rest)) =
          .ok (entries, ending) ∧ endObject ending = .ok left) ↔
      (List.Forall₂ (IsMember s means) (members.map Member.said) entries ∧
        (entries.map s.fieldOf).Nodup ∧ ∀ e ∈ entries, s.fieldOf e ∉ seen) ∧ left = rest := by
  induction members generalizing fuel first seen gap entries with
  | nil =>
    obtain ⟨fuel, rfl⟩ : ∃ n, fuel = n + 1 := ⟨fuel - 1, by omega⟩
    rw [List.map_nil, separated, List.nil_append, readMembers, nextKey_gap_end]
    simp only [bind, Except.bind, pure, Except.pure, Except.ok.injEq, Prod.mk.injEq, List.map_nil,
      List.forall₂_nil_left_iff]
    constructor
    · rintro ⟨_, ⟨rfl, rfl⟩, hend⟩
      rw [endObject_gap] at hend
      cases hend
      simp
    · rintro ⟨⟨rfl, -, -⟩, rfl⟩
      exact ⟨_, ⟨rfl, rfl⟩, endObject_gap gap left⟩
  | cons m members ih =>
    obtain ⟨fuel, rfl⟩ : ∃ n, fuel = n + 1 := ⟨fuel - 1, by omega⟩
    have hlater := ih (fun j hj => h j (by simp [hj])) (Nat.lt_of_succ_lt_succ hfuel) false
    simp only [List.map_cons, separated, List.append_assoc,
      readMembers_cons hlawful (h m (by simp)), List.forall₂_cons_left_iff]
    constructor
    · rintro ⟨ending, ⟨e, later, rfl, he, hseen, hread⟩, hend⟩
      obtain ⟨⟨hall, hnodup, hnew⟩, rfl⟩ := (hlater _ _ later).mp ⟨ending, hread, hend⟩
      have hfresh : s.fieldOf e ∉ later.map s.fieldOf := by
        rw [List.mem_map]
        rintro ⟨other, hother, heq⟩
        exact hnew other hother (by simp [heq])
      refine ⟨⟨⟨e, later, he, hall, rfl⟩, List.nodup_cons.mpr ⟨hfresh, hnodup⟩, ?_⟩, rfl⟩
      rw [List.forall_mem_cons]
      exact ⟨hseen, fun other hother => (List.not_mem_of_not_mem_cons (hnew other hother))⟩
    · rintro ⟨⟨⟨e, later, he, hall, rfl⟩, hnodup, hnew⟩, rfl⟩
      obtain ⟨hfresh, hnodup⟩ := List.nodup_cons.mp hnodup
      rw [List.forall_mem_cons] at hnew
      have hnext : ∀ other ∈ later, s.fieldOf other ∉ s.fieldOf e :: seen := by
        intro other hother hmem
        obtain heq | hmem := List.mem_cons.mp hmem
        · exact hfresh (List.mem_map.mpr ⟨other, hother, heq⟩)
        · exact hnew.2 other hother hmem
      obtain ⟨ending, hread, hend⟩ := (hlater _ _ later).mpr ⟨⟨hall, hnodup, hnext⟩, rfl⟩
      exact ⟨ending, ⟨e, later, rfl, he, hnew.1, hread⟩, hend⟩

theorem readObject_eq_ok {l left : List Char} {record : ρ} :
    readObject s l = .ok (record, left) ↔
      ∃ entries, readMembers s (l.length + 1) true [] l = .ok (entries, left) ∧
        s.finish entries = .ok record := by
  rw [readObject, bind_eq_ok]
  constructor
  · rintro ⟨⟨entries, rest⟩, hread, h⟩
    cases hfinish : s.finish entries <;> simp only [hfinish] at h <;> cases h
    exact ⟨entries, hread, hfinish⟩
  · rintro ⟨entries, hread, hfinish⟩
    refine ⟨_, hread, ?_⟩
    simp only [hfinish]
    rfl

/-- An object is read as the record that its members give. -/
theorem closeObject_readObject (hlawful : Lawful s means) {members : List Member}
    (h : ∀ m ∈ members, Written m.item.doc m.item.text) (gap : Gap) (rest : List Char)
    (record : ρ) (left : List Char) :
    closeObject (readObject s
        (gap.chars ++ (separated true (members.map Member.chars) ++ '\x7d' :: rest))) =
          .ok (record, left) ↔
      IsRecord s means (.object (members.map Member.said)) record ∧ left = rest := by
  have hlength : (members.map Member.chars).length ≤
      (separated true (members.map Member.chars)).length :=
    length_le_separated (by simp [Member.chars]) true
  have hfuel : members.length < (gap.chars ++
      (separated true (members.map Member.chars) ++ '\x7d' :: rest)).length + 1 := by
    simp only [List.length_map] at hlength
    simp only [List.length_append]
    omega
  have hread := readMembers_iff hlawful h hfuel true [] gap rest
  simp only [List.not_mem_nil, not_false_eq_true, implies_true, and_true] at hread
  simp only [closeObject_eq_ok, readObject_eq_ok, isRecord_object]
  exact exists_finish_iff fun entries => hread entries left

/-! ## §4 Readers -/

/-- A record is read from either form, and from nothing else. -/
theorem recognises_record (hlawful : Lawful s means) :
    Recognises (readRecord s) (IsRecord s means) := by
  intro d l h gap rest record left
  rw [readRecord, skipBlank_gap, h.opens.skipBlank_append]
  split
  · rename_i tail heq
    obtain ⟨-, -, -, hbracket, -⟩ := d.begins_iff
    obtain ⟨_, rfl⟩ := hbracket.mp (h.begins_of_append heq)
    cases h with
    | array inner items hitems =>
      obtain rfl : tail = inner.chars ++
          (separated true (items.map Item.chars) ++ ']' :: rest) := by
        simpa using heq.symm
      exact closeArray_readArray hlawful hitems inner rest record left
  · rename_i tail heq
    obtain ⟨-, -, -, -, hbrace⟩ := d.begins_iff
    obtain ⟨_, rfl⟩ := hbrace.mp (h.begins_of_append heq)
    cases h with
    | object inner members hmembers =>
      obtain rfl : tail = inner.chars ++
          (separated true (members.map Member.chars) ++ '\x7d' :: rest) := by
        simpa using heq.symm
      exact closeObject_readObject hlawful hmembers inner rest record left
  · rename_i hbracket hbrace
    refine iff_of_false (failFound_ne_ok _ _ _) ?_
    rintro ⟨⟨entries, -, ⟨members, rfl, -⟩ | ⟨items, rfl, -⟩⟩, -⟩
    · obtain ⟨c, tail, rfl, rfl⟩ := h.begins
      exact hbrace _ rfl
    · obtain ⟨c, tail, rfl, rfl⟩ := h.begins
      exact hbracket _ rfl

end Records

end Manifest.Reader

end ReleaseKit
