/-
ReleaseKit.Proofs.RoundTrip — a manifest that has been written is read again.

The writer and the reader go by the same lists of fields, but by nothing else in
common. What ties them is that a reader takes a value from the start of a text,
whatever follows (`Spells`): so texts of values can be put one after another, and
a list or a record is read from the texts of its items or members.

  §1 Texts     — `Spells`, and how texts of values are separated.
  §2 Values    — strings with their escapes, truth values, targets.
  §3 Lists     — items, one after another.
  §4 Records   — members, each of a field of its own.
  §5 Manifests — profiles, bundles, and a manifest as a document and as a file.
-/
import ReleaseKit.Manifest.File
import ReleaseKit.Proofs.Location

namespace ReleaseKit

open Json Manifest.Reader

/-! ## §1 Texts -/

namespace Json

/-- The text of a value begins with a character that is no blank, ends no list and
parts no items. -/
def Opens (l : List Char) : Prop :=
  ∃ c rest, l = c :: rest ∧ isBlank c = false ∧ c ≠ ']' ∧ c ≠ ','

/-- A reader takes a value from its text, and leaves what follows. -/
structure Spells {α : Type} (read : Reader α) (l : List Char) (a : α) : Prop where
  opens : Opens l
  reads : ∀ rest, read (l ++ rest) = .ok (a, rest)

/-- Texts one after another, with a comma before each but the first. -/
def separated : Bool → List (List Char) → List Char
  | _, [] => []
  | first, l :: rest => (if first then l else ',' :: l) ++ separated false rest

theorem skipBlank_cons {c : Char} (h : isBlank c = false) (rest : List Char) :
    skipBlank (c :: rest) = c :: rest := by
  simp [skipBlank, h]

theorem Opens.skipBlank_append {l : List Char} (h : Opens l) (rest : List Char) :
    skipBlank (l ++ rest) = l ++ rest := by
  obtain ⟨c, l, rfl, hblank, -⟩ := h
  exact skipBlank_cons hblank _

theorem compactItems_eq (items : List Json) :
    compactItems items = separated true (items.map compactChars) := by
  cases items with
  | nil => rfl
  | cons item items =>
    induction items generalizing item with
    | nil => simp [compactItems, separated]
    | cons next items ih =>
      rw [compactItems, ih next]
      · simp [separated]
      · simp

/-- The text of a member: its key and its value. -/
def memberChars (key : String) (value : List Char) : List Char :=
  stringChars key ++ ':' :: value

theorem compactMembers_eq (members : List (String × Json)) :
    compactMembers members =
      separated true (members.map fun m => memberChars m.1 m.2.compactChars) := by
  cases members with
  | nil => rfl
  | cons member members =>
    induction members generalizing member with
    | nil => simp [compactMembers, separated, memberChars]
    | cons next members ih =>
      rw [compactMembers, ih next]
      · simp [separated, memberChars]
      · simp

/-! ## §2 Values -/

theorem hexValue?_hexDigit :
    ∀ n < 16, hexValue? (hexDigit n) = some n ∧ (hexDigit n).utf8Size = 1 := by
  decide

/-- A control that is written with hexadecimal digits is read from them. -/
theorem readUnicode_control {n : Nat} (h : n < 0x20) (rest : List Char) :
    readUnicode ('0' :: '0' :: hexDigit (n / 16) :: hexDigit (n % 16) :: rest) =
      .ok (Char.ofNat n, 4) := by
  obtain ⟨hzero, hzeroSize⟩ : hexValue? '0' = some 0 ∧ '0'.utf8Size = 1 :=
    hexValue?_hexDigit 0 (by decide)
  obtain ⟨hhigh, hhighSize⟩ := hexValue?_hexDigit (n / 16) (by omega)
  obtain ⟨hlow, hlowSize⟩ := hexValue?_hexDigit (n % 16) (by omega)
  have hvalue : hexValues? '0' '0' (hexDigit (n / 16)) (hexDigit (n % 16)) = some n := by
    simp only [hexValues?, hzero, hhigh, hlow, Option.bind_eq_bind, Option.bind_some,
      Option.pure_def, Option.some.injEq]
    omega
  have hread : readHex ('0' :: '0' :: hexDigit (n / 16) :: hexDigit (n % 16) :: rest) = .ok n := by
    simp [readHex, byteLength, hzeroSize, hhighSize, hlowSize, hvalue]
  have hrange : ¬ (0xDC00 ≤ n ∧ n ≤ 0xDFFF) ∧ (n < 0xD800 ∨ 0xDBFF < n) := by omega
  simp only [readUnicode, hread, bind, Except.bind, if_neg hrange.1, if_pos hrange.2]
  rfl

/-- An escaped character is read as one character of the string. -/
theorem readStringFrom_escapeChar (sofar : List Char) (c : Char) (rest : List Char) :
    readStringFrom sofar 0 (escapeChar c ++ rest) = readStringFrom (c :: sofar) 0 rest := by
  unfold escapeChar
  -- The quote, the backslash and the controls with a short form.
  iterate 7
    split
    next h =>
      subst h
      rfl
  split
  · rename_i h
    have hread : readEscape ('u' :: '0' :: '0' :: hexDigit (c.toNat / 16) ::
        hexDigit (c.toNat % 16) :: rest) = .ok (c, 5) := by
      simp [readEscape, readUnicode_control h, Char.ofNat_toNat, Except.map]
    simp only [List.cons_append, List.nil_append]
    rw [readStringFrom, if_neg (by decide), if_pos rfl, hread]
    rfl
  · rename_i hquote hslash _ _ _ _ _ hcontrol
    simp [readStringFrom, hquote, hslash, hcontrol]

/-- The body of a string is read up to its closing quote. -/
theorem readStringFrom_append (sofar l rest : List Char) :
    readStringFrom sofar 0 (l.flatMap escapeChar ++ '\x22' :: rest) =
      .ok (String.ofList (sofar.reverse ++ l), rest) := by
  induction l generalizing sofar with
  | nil => simp [readStringFrom]
  | cons c l ih =>
    rw [List.flatMap_cons, List.append_assoc, readStringFrom_escapeChar, ih]
    simp

theorem opens_stringChars (s : String) : Opens (stringChars s) :=
  ⟨_, _, rfl, by decide, by decide, by decide⟩

theorem readStringBody_append (s : String) (rest : List Char) :
    readStringBody (s.toList.flatMap escapeChar ++ '\x22' :: rest) = .ok (s, rest) := by
  rw [readStringBody, readStringFrom_append]
  simp

end Json

namespace Manifest.Reader

theorem spells_text (s : String) : Spells readText (Json.text s).compactChars s where
  opens := opens_stringChars s
  reads rest := by
    have htext : (Json.text s).compactChars ++ rest =
        '\x22' :: (s.toList.flatMap escapeChar ++ '\x22' :: rest) := by
      simp [compactChars, stringChars]
    rw [htext, readText, skipBlank_cons (by decide)]
    exact readStringBody_append s rest

theorem spells_bool (b : Bool) : Spells readBool (Json.bool b).compactChars b := by
  cases b
  · exact ⟨⟨_, _, rfl, by decide, by decide, by decide⟩, fun _ => rfl⟩
  · exact ⟨⟨_, _, rfl, by decide, by decide, by decide⟩, fun _ => rfl⟩

theorem ofText_pair (t : Target) : Target.ofText t.pair = .ok t := by
  obtain ⟨os, arch⟩ := t
  cases os <;> cases arch <;> rfl

theorem spells_target (t : Target) : Spells readTarget t.toJson.compactChars t where
  opens := opens_stringChars t.pair
  reads rest := by
    have hread := (spells_text t.pair).reads rest
    simp only [readTarget, Target.toJson, hread, bind, Except.bind, ofText_pair]
    rfl

/-! ## §3 Lists -/

section Lists

variable {α : Type} {item : Reader α} {chars : α → List Char}

theorem nextItem_end (first : Bool) (rest : List Char) :
    nextItem first (']' :: rest) = .ok none := by
  rw [nextItem, skipBlank_cons (by decide)]
  rfl

/-- The next item is where its text begins, after the comma before it. -/
theorem nextItem_append {l : List Char} (h : Opens l) (first : Bool) (rest : List Char) :
    nextItem first ((if first then l else ',' :: l) ++ rest) = .ok (some (l ++ rest)) := by
  have hskip := h.skipBlank_append rest
  obtain ⟨c, l, rfl, -, hend, hcomma⟩ := h
  cases first with
  | true =>
    rw [if_pos rfl, nextItem, hskip, List.cons_append]
    split <;> simp_all
  | false =>
    rw [if_neg (by decide), nextItem, List.cons_append, skipBlank_cons (by decide)]
    simp only [Bool.false_eq_true, if_false, hskip]
    rw [List.cons_append]
    split <;> simp_all

/-- Items are read from their texts, one after another, if there is fuel for all. -/
theorem readItems_separated {as : List α} (h : ∀ a ∈ as, Spells item (chars a) a) {fuel : Nat}
    (hfuel : as.length < fuel) (first : Bool) (rest : List Char) :
    readItems item fuel first (separated first (as.map chars) ++ ']' :: rest) =
      .ok (as, ']' :: rest) := by
  induction as generalizing fuel first with
  | nil =>
    obtain ⟨fuel, rfl⟩ : ∃ n, fuel = n + 1 := ⟨fuel - 1, by omega⟩
    rw [List.map_nil, separated, List.nil_append, readItems, nextItem_end]
    rfl
  | cons a as ih =>
    obtain ⟨fuel, rfl⟩ : ∃ n, fuel = n + 1 := ⟨fuel - 1, by omega⟩
    have ha := h a (by simp)
    have hrest := ih (fun b hb => h b (by simp [hb])) (Nat.lt_of_succ_lt_succ hfuel) false
    rw [List.map_cons, separated, List.append_assoc, readItems, nextItem_append ha.opens]
    simp only [bind, Except.bind, ha.reads, hrest]
    rfl

theorem length_separated {ls : List (List Char)} (h : ∀ l ∈ ls, Opens l) (first : Bool) :
    ls.length ≤ (separated first ls).length := by
  induction ls generalizing first with
  | nil => simp
  | cons l ls ih =>
    obtain ⟨c, l', hl, -⟩ := h l (by simp)
    have hrest := ih (fun k hk => h k (by simp [hk])) false
    have hfirst : 1 ≤ (if first then l else ',' :: l).length := by
      subst hl
      cases first <;> simp
    rw [separated, List.length_append, List.length_cons]
    omega

/-- A list is read from the texts of its items. -/
theorem spells_list {write : α → Json} {as : List α}
    (h : ∀ a ∈ as, Spells item (write a).compactChars a) :
    Spells (readList item) (Json.array (as.map write)).compactChars as where
  opens := ⟨_, _, rfl, by decide, by decide, by decide⟩
  reads rest := by
    have hopens : ∀ l ∈ as.map fun a => (write a).compactChars, Opens l := by
      simpa using fun a ha => (h a ha).opens
    have htext : (Json.array (as.map write)).compactChars ++ rest =
        '[' :: (separated true (as.map fun a => (write a).compactChars) ++ ']' :: rest) := by
      simp [compactChars, compactItems_eq, Function.comp_def]
    have hlength := length_separated hopens true
    rw [List.length_map] at hlength
    rw [htext, readList, skipBlank_cons (by decide)]
    show closeArray (readItems item _ true _) = _
    rw [readItems_separated h (by simp; omega)]
    rfl

end Lists

/-! ## §4 Records -/

section Records

variable {φ ε ρ : Type} {s : Shape φ ε ρ}

theorem nextKey_end (first : Bool) (rest : List Char) :
    nextKey first ('\x7d' :: rest) = .ok none := rfl

/-- The next key is where the text of its member begins, after the comma before it. -/
theorem nextKey_append (first : Bool) (key : String) (value rest : List Char) :
    nextKey first
        ((if first then memberChars key value else ',' :: memberChars key value) ++ rest) =
      .ok (some (key.toList.flatMap escapeChar ++ '\x22' :: ':' :: (value ++ rest))) := by
  have htext : memberChars key value ++ rest =
      '\x22' :: (key.toList.flatMap escapeChar ++ '\x22' :: ':' :: (value ++ rest)) := by
    simp [memberChars, stringChars]
  cases first with
  | true =>
    rw [if_pos rfl, htext]
    rfl
  | false =>
    rw [if_neg (by decide), List.cons_append, htext]
    rfl

/-- No two fields of a record have the same label. -/
def Labelled (s : Shape φ ε ρ) : Prop :=
  ∀ field ∈ s.fields, ∀ other ∈ s.fields, s.label field = s.label other → field = other

/-- A key that is the label of a field is read as the field. -/
theorem readField_append (hlabels : Labelled s) {field : φ} (hfield : field ∈ s.fields)
    (rest : List Char) :
    readField s ((s.label field).toList.flatMap escapeChar ++ '\x22' :: rest) =
      .ok (field, rest) := by
  have hfind : (s.fields.find? fun other => s.label other == s.label field) = some field := by
    cases hfound : s.fields.find? fun other => s.label other == s.label field with
    | none => exact absurd (List.find?_eq_none.mp hfound field hfield) (by simp)
    | some other =>
      have hlabel : s.label other = s.label field := by simpa using List.find?_some hfound
      rw [hlabels other (List.mem_of_find?_eq_some hfound) field hfield hlabel]
  simp only [readField, readStringBody_append, bind, Except.bind, hfind]
  rfl

theorem readColon_append (rest : List Char) : readColon (':' :: rest) = .ok rest := rfl

variable [DecidableEq φ] {value : φ → List Char} {entry : φ → ε}

/-- Members are read from their texts, one after another, if there is fuel for all:
each has a field of its own, that none has been read for before. -/
theorem readMembers_separated (hlabels : Labelled s) {fields seen : List φ}
    (hnodup : fields.Nodup)
    (h : ∀ field ∈ fields, field ∈ s.fields ∧ field ∉ seen ∧
      Spells (s.readValue field) (value field) (entry field))
    {fuel : Nat} (hfuel : fields.length < fuel) (first : Bool) (rest : List Char) :
    readMembers s fuel first seen
        (separated first (fields.map fun field => memberChars (s.label field) (value field)) ++
          '\x7d' :: rest) =
      .ok (fields.map entry, '\x7d' :: rest) := by
  induction fields generalizing fuel first seen with
  | nil =>
    obtain ⟨fuel, rfl⟩ : ∃ n, fuel = n + 1 := ⟨fuel - 1, by omega⟩
    rw [List.map_nil, separated, List.nil_append, readMembers, nextKey_end]
    rfl
  | cons field fields ih =>
    obtain ⟨fuel, rfl⟩ : ∃ n, fuel = n + 1 := ⟨fuel - 1, by omega⟩
    obtain ⟨hmem, hseen, hvalue⟩ := h field (by simp)
    obtain ⟨hnot, hnodup⟩ := List.nodup_cons.mp hnodup
    have hlater : ∀ other ∈ fields, other ∈ s.fields ∧ other ∉ field :: seen ∧
        Spells (s.readValue other) (value other) (entry other) := by
      intro other hother
      obtain ⟨hmem', hseen', hvalue'⟩ := h other (by simp [hother])
      have hne : other ≠ field := fun heq => hnot (heq ▸ hother)
      exact ⟨hmem', by simp [hne, hseen'], hvalue'⟩
    have hrest := ih hnodup hlater (Nat.lt_of_succ_lt_succ hfuel) false
    rw [List.map_cons, separated, List.append_assoc, readMembers, nextKey_append]
    simp only [bind, Except.bind, readField_append hlabels hmem, if_neg hseen, readColon_append,
      hvalue.reads, hrest]
    rfl

/-- **A record is read from the texts of its members**: every field has a value that
is read back, and the entries make the record. -/
theorem spells_record (s : Shape φ ε ρ) (write : φ → Json) (entry : φ → ε) {record : ρ}
    (hlabels : Labelled s) (hnodup : s.fields.Nodup)
    (h : ∀ field ∈ s.fields, Spells (s.readValue field) (write field).compactChars (entry field))
    (hfinish : s.finish (s.fields.map entry) = .ok record) :
    Spells (readRecord s)
      (Json.object (s.fields.map fun field => (s.label field, write field))).compactChars
      record where
  opens := ⟨_, _, rfl, by decide, by decide, by decide⟩
  reads rest := by
    have htext : (Json.object
        (s.fields.map fun field => (s.label field, write field))).compactChars ++ rest =
          '\x7b' :: (separated true (s.fields.map fun field =>
            memberChars (s.label field) (write field).compactChars) ++ '\x7d' :: rest) := by
      simp [compactChars, compactMembers_eq, Function.comp_def]
    have hopens : ∀ l ∈ s.fields.map fun field =>
        memberChars (s.label field) (write field).compactChars, Opens l := by
      simp only [List.forall_mem_map]
      exact fun _ _ => ⟨_, _, rfl, by decide, by decide, by decide⟩
    have hlength := length_separated hopens true
    rw [List.length_map] at hlength
    have hmembers : readObject s (separated true (s.fields.map fun field =>
        memberChars (s.label field) (write field).compactChars) ++ '\x7d' :: rest) =
          .ok (record, '\x7d' :: rest) := by
      rw [readObject, readMembers_separated hlabels hnodup
        (fun field hfield => ⟨hfield, List.not_mem_nil, h field hfield⟩) (by simp; omega)]
      simp only [bind, Except.bind, hfinish]
      rfl
    rw [htext, readRecord, skipBlank_cons (by decide)]
    simp only [hmembers]
    rfl

end Records

/-! ## §5 Manifests -/

theorem spells_readAs {α ε : Type} {read : Reader α} {l : List Char} {a : α}
    (h : Spells read l a) (entry : α → ε) : Spells (readAs read entry) l (entry a) where
  opens := h.opens
  reads rest := by
    simp only [readAs, h.reads, bind, Except.bind]
    rfl

theorem spells_texts (l : List String) : Spells (readList readText) (Json.texts l).compactChars l :=
  spells_list fun s _ => spells_text s

theorem spells_targets (l : List Target) :
    Spells (readList readTarget) (Target.listToJson l).compactChars l :=
  spells_list fun t _ => spells_target t

/-- The entry that a profile has for a field. -/
def profileEntry (p : Profile) : Profile.Field → ProfileEntry
  | .bucket => .bucket p.bucket
  | .matrix => .matrix p.matrix

theorem spells_profile (p : Profile) :
    Spells (readRecord profileShape) p.toJson.compactChars p := by
  refine spells_record profileShape p.fieldJson (profileEntry p) ?_ (by decide) ?_ rfl
  · unfold Labelled
    decide
  · intro field _
    cases field with
    | bucket => exact spells_readAs (spells_text _) _
    | matrix => exact spells_readAs (spells_targets _) _

/-- The entry that a bundle has for a field. -/
def bundleEntry (b : Bundle) : Bundle.Field → BundleEntry
  | .name => .name b.name
  | .target => .target b.target

theorem spells_bundle (b : Bundle) : Spells (readRecord bundleShape) b.toJson.compactChars b := by
  refine spells_record bundleShape b.fieldJson (bundleEntry b) ?_ (by decide) ?_ rfl
  · unfold Labelled
    decide
  · intro field _
    cases field with
    | name => exact spells_readAs (spells_text _) _
    | target => exact spells_readAs (spells_target _) _

/-- The entry that a manifest has for a field. -/
def manifestEntry (m : Manifest) : Manifest.Field → Entry
  | .cliName => .cliName m.cliName
  | .canonicalName => .canonicalName m.canonicalName
  | .apiName => .apiName m.apiName
  | .cliSources => .cliSources m.cliSources
  | .apiSources => .apiSources m.apiSources
  | .ldflags => .ldflags m.ldflags
  | .includeApi => .includeApi m.includeApi
  | .apiTarget => .apiTarget m.apiTarget
  | .prod => .prod m.prod
  | .dev => .dev m.dev
  | .bundles => .bundles m.bundles

/-- The entries of a manifest replace every field of the one that reading begins
with. -/
theorem foldl_set_manifestEntry (base m : Manifest) :
    (Manifest.Field.all.map (manifestEntry m)).foldl Entry.set base = m := by
  simp only [Manifest.Field.all, List.map_cons, List.map_nil, manifestEntry, List.foldl_cons,
    List.foldl_nil, Entry.set]

theorem spells_manifest (m : Manifest) :
    Spells (readRecord manifestShape) m.toJson.compactChars m := by
  refine spells_record manifestShape m.fieldJson (manifestEntry m) ?_ (by decide) ?_
    (congrArg Except.ok (foldl_set_manifestEntry .standard m))
  · unfold Labelled
    decide
  · intro field _
    cases field with
    | cliName | canonicalName | apiName | ldflags => exact spells_readAs (spells_text _) _
    | cliSources | apiSources => exact spells_readAs (spells_texts _) _
    | includeApi => exact spells_readAs (spells_bool _) _
    | apiTarget => exact spells_readAs (spells_target _) _
    | prod | dev => exact spells_readAs (spells_profile _) _
    | bundles => exact spells_readAs (spells_list fun b _ => spells_bundle b) _

/-- What a reader takes from its text, it takes from a document of that text. -/
theorem readDocument_of_spells {α : Type} {read : Reader α} {l : List Char} {a : α}
    (h : Spells read l a) : readDocument read (String.ofList l) = .ok a := by
  have hread := h.reads []
  rw [List.append_nil] at hread
  simp only [readDocument, String.toList_ofList, hread, bind, Except.bind]
  rfl

end Manifest.Reader

/-- A file that holds a text is read as the text. -/
theorem FileTree.readText_of_read {t : FileTree} {cwd : Location} {path : LocalPath} {text : String}
    (h : t.read cwd path = .ok (.ofText text)) : t.readText cwd path = .ok text := by
  have hutf8 : String.fromUTF8? (Contents.ofText text).bytes = some text :=
    dif_pos text.isValidUTF8
  simp only [readText_eq, h, hutf8]

/-- **A manifest that has been written is loaded again**: from its compact text, and
from a file that holds it, whatever its names, sources and lists are. -/
theorem written_manifest_loads (m : Manifest) :
    Manifest.ofText m.text = .ok m ∧
      ∀ (t : FileTree) (cwd : Location) (path : LocalPath),
        t.read cwd path = .ok (.ofText m.text) → Manifest.load t cwd path = .ok m := by
  have htext : Manifest.ofText m.text = .ok m := readDocument_of_spells (spells_manifest m)
  refine ⟨htext, fun t cwd path h => ?_⟩
  simp only [Manifest.load, FileTree.readText_of_read h, htext]

/-- A manifest that is hard to write: its texts hold quotes, backslashes, controls and
more, and a text or a list may be empty. -/
def Manifest.thorny : Manifest where
  cliName := "say \"hi\" \\ \t\x01\x7f"
  canonicalName := ""
  apiName := "größe 🦀"
  cliSources := []
  apiSources := ["", "a,b", "]\n"]
  ldflags := "-X main.v='1'"
  includeApi := false
  apiTarget := ⟨.windows, .i386⟩
  prod := ⟨"\x7b", [⟨.linux, .arm⟩, ⟨.linux, .arm⟩]⟩
  dev := ⟨"\x7d", []⟩
  bundles := [⟨":", ⟨.darwin, .arm64⟩⟩]

/-- A tree with nothing but a manifest. -/
def Manifest.onDisk (m : Manifest) : FileTree :=
  FileTree.empty.put ["release.json"] (.file (.ofText m.text))

theorem thorny_manifest_loads :
    Manifest.thorny.onDisk.read [] ⟨"release.json"⟩ = .ok (.ofText Manifest.thorny.text) ∧
      Manifest.load Manifest.thorny.onDisk [] ⟨"release.json"⟩ = .ok Manifest.thorny := by
  have hopen : FileTree.empty.openNew [] ⟨"release.json"⟩ = .ok ["release.json"] := by decide
  have hread : Manifest.thorny.onDisk.read [] ⟨"release.json"⟩ =
      .ok (.ofText Manifest.thorny.text) := FileTree.read_put_of_openNew hopen _
  exact ⟨hread, (written_manifest_loads .thorny).2 _ _ _ hread⟩

end ReleaseKit
