/-
ReleaseKit.Proofs.Acceptance — which manifest files are accepted, and as what.

`members_override_standard` is about every text of every JSON object: the file is a
manifest precisely when no two members have one name, every name is a field's label,
and every value has the shape of its field; and it is then the standard manifest with
those fields replaced. Both conditions speak of the members as a set, so their order
cannot matter, nor can anything in which two texts of one document differ.

That a field's value is determined by its document is not proved shape by shape: a
reader gives one result, and it recognises the shape (`Recognises.unique`).

  §1 Pairs     — records of two fields: profiles and bundles.
  §2 Entries   — what the value of a field is.
  §3 Manifests — `Acceptable` and `Overriding`.
  §4 Files     — the result of loading.
-/
import Mathlib.Data.List.Nodup
import ReleaseKit.Proofs.Records

namespace ReleaseKit

open Json Manifest.Reader

namespace Manifest.Reader

/-! ## §1 Pairs -/

/-- The document gives two values: as an object with a member for each and no other, in
either order, or as an array of the two. -/
inductive IsPair {α β : Type} (first second : String) (shape₁ : Doc → α → Prop)
    (shape₂ : Doc → β → Prop) (a : α) (b : β) : Doc → Prop
  | object {x y : Doc} (hx : shape₁ x a) (hy : shape₂ y b) :
    IsPair first second shape₁ shape₂ a b (.object [(some first, x), (some second, y)])
  | swapped {x y : Doc} (hx : shape₁ x a) (hy : shape₂ y b) :
    IsPair first second shape₁ shape₂ a b (.object [(some second, y), (some first, x)])
  | array {x y : Doc} (hx : shape₁ x a) (hy : shape₂ y b) :
    IsPair first second shape₁ shape₂ a b (.array [x, y])

theorem forall₂_pair {γ δ : Type} {r : γ → δ → Prop} {l : List γ} {x y : δ} :
    List.Forall₂ r l [x, y] ↔ ∃ u v, l = [u, v] ∧ r u x ∧ r v y := by
  simp only [List.forall₂_cons_right_iff, List.forall₂_nil_right_iff]
  constructor
  · rintro ⟨u, _, hu, ⟨v, _, hv, rfl, rfl⟩, rfl⟩
    exact ⟨u, v, rfl, hu, hv⟩
  · rintro ⟨u, v, rfl, hu, hv⟩
    exact ⟨u, [v], hu, ⟨v, [], hv, rfl, rfl⟩, rfl⟩

section Pairs

variable {φ ε ρ α β : Type} {s : Shape φ ε ρ} {means : Doc → ε → Prop} {a : α} {b : β}
  {record : ρ}

/-- A record that takes an entry of each of its two fields is given by a pair. -/
theorem isRecord_iff_isPair (x : α → ε) (y : β → ε)
    (hfields : s.fields = [s.fieldOf (x a), s.fieldOf (y b)])
    (hne : s.fieldOf (x a) ≠ s.fieldOf (y b))
    (hfinish : ∀ entries, (entries.map s.fieldOf).Nodup →
      (s.finish entries = .ok record ↔ entries = [x a, y b] ∨ entries = [y b, x a])) (d : Doc) :
    IsRecord s means d record ↔
      IsPair (s.label (s.fieldOf (x a))) (s.label (s.fieldOf (y b))) (fun d a => means d (x a))
        (fun d b => means d (y b)) a b d := by
  have hnodup : ([x a, y b].map s.fieldOf).Nodup := by simp [hne]
  have hnodup' : ([y b, x a].map s.fieldOf).Nodup := by simp [hne.symm]
  constructor
  · rintro ⟨entries, hrecord, ⟨members, rfl, hall, hdistinct⟩ | ⟨items, rfl, hall, hprefix⟩⟩
    · obtain rfl | rfl := (hfinish entries hdistinct).mp hrecord
      · obtain ⟨⟨_, u⟩, ⟨_, v⟩, rfl, ⟨rfl, hu⟩, ⟨rfl, hv⟩⟩ := forall₂_pair.mp hall
        exact .object hu hv
      · obtain ⟨⟨_, v⟩, ⟨_, u⟩, rfl, ⟨rfl, hv⟩, ⟨rfl, hu⟩⟩ := forall₂_pair.mp hall
        exact .swapped hu hv
    · rw [hfields] at hprefix
      obtain rfl | rfl := (hfinish entries (hnodup.sublist hprefix.sublist)).mp hrecord
      · obtain ⟨u, v, rfl, hu, hv⟩ := forall₂_pair.mp hall
        exact .array hu hv
      · exact absurd (List.cons_prefix_cons.mp hprefix).1 hne.symm
  · rintro (⟨hu, hv⟩ | ⟨hu, hv⟩ | ⟨hu, hv⟩)
    · refine ⟨[x a, y b], (hfinish _ hnodup).mpr (.inl rfl), .inl ⟨_, rfl, ?_, hnodup⟩⟩
      exact forall₂_pair.mpr ⟨_, _, rfl, ⟨rfl, hu⟩, ⟨rfl, hv⟩⟩
    · refine ⟨[y b, x a], (hfinish _ hnodup').mpr (.inr rfl), .inl ⟨_, rfl, ?_, hnodup'⟩⟩
      exact forall₂_pair.mpr ⟨_, _, rfl, ⟨rfl, hv⟩, ⟨rfl, hu⟩⟩
    · refine ⟨[x a, y b], (hfinish _ hnodup).mpr (.inl rfl), .inr ⟨_, rfl, ?_, ?_⟩⟩
      · exact forall₂_pair.mpr ⟨_, _, rfl, hu, hv⟩
      · rw [hfields]
        exact List.prefix_refl _

end Pairs

/-! ## §2 Entries -/

theorem recognises_readAs {α ε : Type} {read : Reader α} {shape : Doc → α → Prop}
    (h : Recognises read shape) {entry : α → ε} {means : Doc → ε → Prop}
    (hmeans : ∀ d e, means d e ↔ ∃ a, e = entry a ∧ shape d a) :
    Recognises (readAs read entry) means := by
  intro d l hd gap rest e left
  rw [readAs, bind_eq_ok, hmeans]
  constructor
  · rintro ⟨⟨a, after⟩, hread, heq⟩
    cases heq
    obtain ⟨ha, rfl⟩ := (h hd gap rest a left).mp hread
    exact ⟨⟨a, rfl, ha⟩, rfl⟩
  · rintro ⟨⟨a, rfl, ha⟩, rfl⟩
    exact ⟨_, (h hd gap left a left).mpr ⟨ha, rfl⟩, rfl⟩

/-- The document means the entry: it has the shape of the entry's field, and the value is
the entry's. -/
def ProfileEntry.MeantBy (d : Doc) : ProfileEntry → Prop
  | bucket value => IsText d value
  | matrix value => IsList IsTarget d value

/-- The document means the entry, as for profiles. -/
def BundleEntry.MeantBy (d : Doc) : BundleEntry → Prop
  | name value => IsText d value
  | target value => IsTarget d value

/-- A profile gives its bucket and its matrix. -/
def IsProfile (d : Doc) (p : Profile) : Prop :=
  IsPair Profile.Field.bucket.label Profile.Field.matrix.label IsText (IsList IsTarget)
    p.bucket p.matrix d

/-- A bundle gives its name and its target. -/
def IsBundle (d : Doc) (b : Bundle) : Prop :=
  IsPair Bundle.Field.name.label Bundle.Field.target.label IsText IsTarget b.name b.target d

theorem lawful_profile : Lawful profileShape ProfileEntry.MeantBy where
  complete field := by cases field <;> decide
  label_injective f g h := by cases f <;> cases g <;> first | rfl | exact absurd h (by decide)
  recognises
    | .bucket => recognises_readAs recognises_text fun d e => by
      cases e <;> simp [profileShape, ProfileEntry.field, ProfileEntry.MeantBy]
    | .matrix => recognises_readAs (recognises_list recognises_target) fun d e => by
      cases e <;> simp [profileShape, ProfileEntry.field, ProfileEntry.MeantBy]

/-- Entries of different fields make a profile if they are its bucket and its matrix. -/
theorem finish_profile (p : Profile) : ∀ entries : List ProfileEntry,
    (entries.map profileShape.fieldOf).Nodup →
      (profileShape.finish entries = .ok p ↔
        entries = [.bucket p.bucket, .matrix p.matrix] ∨
          entries = [.matrix p.matrix, .bucket p.bucket])
  | [], _ => by simp [profileShape]
  | [e], _ => by cases e <;> simp [profileShape, ProfileEntry.bucket?, ProfileEntry.matrix?]
  | [.bucket bucket, .matrix matrix], _ => by
    show Except.ok (Profile.mk bucket matrix) = .ok _ ↔ _
    cases p
    simp
  | [.matrix matrix, .bucket bucket], _ => by
    show Except.ok (Profile.mk bucket matrix) = .ok _ ↔ _
    cases p
    simp [and_comm]
  | [.bucket _, .bucket _], h | [.matrix _, .matrix _], h => by
    simp [profileShape, ProfileEntry.field] at h
  | e :: e' :: e'' :: entries, h => by
    cases e <;> cases e' <;> cases e'' <;> simp [profileShape, ProfileEntry.field] at h

theorem recognises_profile : Recognises (readRecord profileShape) IsProfile :=
  (recognises_record lawful_profile).congr fun d p =>
    isRecord_iff_isPair ProfileEntry.bucket ProfileEntry.matrix rfl
      (show Profile.Field.bucket ≠ .matrix by decide) (finish_profile p) d

theorem lawful_bundle : Lawful bundleShape BundleEntry.MeantBy where
  complete field := by cases field <;> decide
  label_injective f g h := by cases f <;> cases g <;> first | rfl | exact absurd h (by decide)
  recognises
    | .name => recognises_readAs recognises_text fun d e => by
      cases e <;> simp [bundleShape, BundleEntry.field, BundleEntry.MeantBy]
    | .target => recognises_readAs recognises_target fun d e => by
      cases e <;> simp [bundleShape, BundleEntry.field, BundleEntry.MeantBy]

/-- Entries of different fields make a bundle if they are its name and its target. -/
theorem finish_bundle (b : Bundle) : ∀ entries : List BundleEntry,
    (entries.map bundleShape.fieldOf).Nodup →
      (bundleShape.finish entries = .ok b ↔
        entries = [.name b.name, .target b.target] ∨ entries = [.target b.target, .name b.name])
  | [], _ => by simp [bundleShape]
  | [e], _ => by cases e <;> simp [bundleShape, BundleEntry.name?, BundleEntry.target?]
  | [.name name, .target target], _ => by
    show Except.ok (Bundle.mk name target) = .ok _ ↔ _
    cases b
    simp
  | [.target target, .name name], _ => by
    show Except.ok (Bundle.mk name target) = .ok _ ↔ _
    cases b
    simp [and_comm]
  | [.name _, .name _], h | [.target _, .target _], h => by
    simp [bundleShape, BundleEntry.field] at h
  | e :: e' :: e'' :: entries, h => by
    cases e <;> cases e' <;> cases e'' <;> simp [bundleShape, BundleEntry.field] at h

theorem recognises_bundle : Recognises (readRecord bundleShape) IsBundle :=
  (recognises_record lawful_bundle).congr fun d b =>
    isRecord_iff_isPair BundleEntry.name BundleEntry.target rfl
      (show Bundle.Field.name ≠ .target by decide) (finish_bundle b) d

/-- The document means the entry: the shapes of the fields of a manifest. -/
def Entry.MeantBy (d : Doc) : Entry → Prop
  | cliName value | canonicalName value | apiName value | ldflags value => IsText d value
  | cliSources value | apiSources value => IsList IsText d value
  | includeApi value => IsBool d value
  | apiTarget value => IsTarget d value
  | prod value | dev value => IsProfile d value
  | bundles value => IsList IsBundle d value

theorem lawful_manifest : Lawful manifestShape Entry.MeantBy where
  complete field := by cases field <;> decide
  label_injective f g h := by cases f <;> cases g <;> first | rfl | exact absurd h (by decide)
  recognises
    | .cliName | .canonicalName | .apiName | .ldflags =>
      recognises_readAs recognises_text fun d e => by
        cases e <;> simp [manifestShape, Entry.field, Entry.MeantBy]
    | .cliSources | .apiSources =>
      recognises_readAs (recognises_list recognises_text) fun d e => by
        cases e <;> simp [manifestShape, Entry.field, Entry.MeantBy]
    | .includeApi => recognises_readAs recognises_bool fun d e => by
      cases e <;> simp [manifestShape, Entry.field, Entry.MeantBy]
    | .apiTarget => recognises_readAs recognises_target fun d e => by
      cases e <;> simp [manifestShape, Entry.field, Entry.MeantBy]
    | .prod | .dev => recognises_readAs recognises_profile fun d e => by
      cases e <;> simp [manifestShape, Entry.field, Entry.MeantBy]
    | .bundles => recognises_readAs (recognises_list recognises_bundle) fun d e => by
      cases e <;> simp [manifestShape, Entry.field, Entry.MeantBy]

/-! ## §3 Manifests -/

theorem manifestEntry_injective {m m' : Manifest}
    (h : ∀ field, manifestEntry m field = manifestEntry m' field) : m = m' := by
  have hall := congrArg (List.foldl Entry.set .standard)
    (List.map_congr_left fun field (_ : field ∈ Field.all) => h field)
  rwa [foldl_set_manifestEntry, foldl_set_manifestEntry] at hall

theorem field_manifestEntry (m : Manifest) (field : Field) :
    (manifestEntry m field).field = field := by
  cases field <;> rfl

theorem manifestEntry_set (m : Manifest) (e : Entry) (field : Field) :
    manifestEntry (e.set m) field = if e.field = field then e else manifestEntry m field := by
  cases e <;> cases field <;> rfl

/-- Entries of different fields replace these fields and no other. -/
theorem manifestEntry_foldl (entries : List Entry) (h : (entries.map Entry.field).Nodup)
    (base : Manifest) :
    (∀ e ∈ entries, manifestEntry (entries.foldl Entry.set base) e.field = e) ∧
      ∀ field ∉ entries.map Entry.field,
        manifestEntry (entries.foldl Entry.set base) field = manifestEntry base field := by
  induction entries generalizing base with
  | nil => simp
  | cons e entries ih =>
    obtain ⟨hfresh, hnodup⟩ := List.nodup_cons.mp h
    obtain ⟨hgiven, hother⟩ := ih hnodup (e.set base)
    refine ⟨fun e' he' => ?_, fun field hfield => ?_⟩
    · obtain rfl | he' := List.mem_cons.mp he'
      · rw [List.foldl_cons, hother _ hfresh, manifestEntry_set, if_pos rfl]
      · exact hgiven e' he'
    · rw [List.map_cons, List.mem_cons, not_or] at hfield
      rw [List.foldl_cons, hother field hfield.2, manifestEntry_set, if_neg (Ne.symm hfield.1)]

/-- No two members have one name, and every member gives a field: its name is the
label, and its value has the shape. -/
structure Acceptable (members : List (Option String × Doc)) : Prop where
  distinct : (members.map Prod.fst).Nodup
  shaped : ∀ m ∈ members, ∃ e : Entry, m.1 = some e.field.label ∧ e.MeantBy m.2

/-- The manifest has in each field what the members give for it, and what the standard
manifest has if they give nothing. -/
def Overriding (members : List (Option String × Doc)) (m : Manifest) : Prop :=
  ∀ field : Field,
    (∀ d, (some field.label, d) ∈ members → (manifestEntry m field).MeantBy d) ∧
      ((∀ d, (some field.label, d) ∉ members) →
        manifestEntry m field = manifestEntry .standard field)

variable {members members' : List (Option String × Doc)} {m m' : Manifest}

theorem Acceptable.of_perm (h : Acceptable members) (hperm : members.Perm members') :
    Acceptable members' where
  distinct := (hperm.map Prod.fst).nodup h.distinct
  shaped m hm := h.shaped m (hperm.mem_iff.mpr hm)

theorem Overriding.of_perm (h : Overriding members m) (hperm : members.Perm members') :
    Overriding members' m := by
  intro field
  simpa only [hperm.mem_iff] using h field

theorem label_injective : Function.Injective Field.label := lawful_manifest.label_injective

/-- The names of the members are the labels of the entries they give. -/
theorem map_fst_eq {entries : List Entry}
    (h : List.Forall₂ (IsMember manifestShape Entry.MeantBy) members entries) :
    members.map Prod.fst = (entries.map Entry.field).map fun field => some field.label := by
  induction h with
  | nil => rfl
  | cons hmember _ ih => rw [List.map_cons, hmember.1, ih]; rfl

theorem nodup_fields_iff {entries : List Entry}
    (h : List.Forall₂ (IsMember manifestShape Entry.MeantBy) members entries) :
    (entries.map Entry.field).Nodup ↔ (members.map Prod.fst).Nodup := by
  have hinjective : Function.Injective fun field : Field => some field.label :=
    fun f g heq => label_injective (Option.some.inj heq)
  rw [map_fst_eq h, List.nodup_map_iff hinjective]

theorem exists_entries (h : ∀ m ∈ members, ∃ e : Entry, m.1 = some e.field.label ∧ e.MeantBy m.2) :
    ∃ entries, List.Forall₂ (IsMember manifestShape Entry.MeantBy) members entries := by
  induction members with
  | nil => exact ⟨[], .nil⟩
  | cons m members ih =>
    obtain ⟨e, he⟩ := h m (by simp)
    obtain ⟨entries, hentries⟩ := ih fun m hm => h m (by simp [hm])
    exact ⟨e :: entries, .cons he hentries⟩

theorem exists_entry_of_mem {entries : List Entry}
    (h : List.Forall₂ (IsMember manifestShape Entry.MeantBy) members entries)
    {m : Option String × Doc} (hm : m ∈ members) :
    ∃ e ∈ entries, m.1 = some e.field.label ∧ e.MeantBy m.2 := by
  induction h with
  | nil => cases hm
  | @cons m' e members entries he _ ih =>
    obtain rfl | hm := List.mem_cons.mp hm
    · exact ⟨e, by simp, he⟩
    · obtain ⟨e', he', hmember⟩ := ih hm
      exact ⟨e', by simp [he'], hmember⟩

/-- Entries that the members give make a manifest that the members override. -/
theorem overriding_of_entries {entries : List Entry}
    (h : List.Forall₂ (IsMember manifestShape Entry.MeantBy) members entries)
    (hnodup : (entries.map Entry.field).Nodup) :
    Overriding members (entries.foldl Entry.set .standard) := by
  obtain ⟨hgiven, hother⟩ := manifestEntry_foldl entries hnodup .standard
  intro field
  constructor
  · intro d hd
    obtain ⟨e, he, hlabel, hmeant⟩ := exists_entry_of_mem h hd
    obtain rfl := label_injective (Option.some.inj hlabel)
    rwa [hgiven e he]
  · intro hnone
    apply hother
    intro hfield
    have hname : some field.label ∈ members.map Prod.fst := by
      rw [map_fst_eq h]
      exact List.mem_map_of_mem hfield
    obtain ⟨⟨_, d⟩, hd, rfl⟩ := List.mem_map.mp hname
    exact hnone d hd

/-- Members override the standard manifest in at most one way. -/
theorem Overriding.unique (hd : ∀ m ∈ members, ∃ l, Written m.2 l) (h : Overriding members m)
    (h' : Overriding members m') : m = m' := by
  apply manifestEntry_injective
  intro field
  by_cases hgiven : ∃ d, (some field.label, d) ∈ members
  · obtain ⟨d, hmem⟩ := hgiven
    obtain ⟨l, hl⟩ := hd _ hmem
    exact (lawful_manifest.recognises field).unique hl
      ⟨field_manifestEntry m field, (h field).1 d hmem⟩
      ⟨field_manifestEntry m' field, (h' field).1 d hmem⟩
  · rw [not_exists] at hgiven
    rw [(h field).2 hgiven, (h' field).2 hgiven]

/-- The record that an object gives is the manifest that its members override. -/
theorem isRecord_manifest (hd : ∀ m ∈ members, ∃ l, Written m.2 l) :
    IsRecord manifestShape Entry.MeantBy (.object members) m ↔
      Acceptable members ∧ Overriding members m := by
  rw [isRecord_object]
  constructor
  · rintro ⟨entries, hfinish, hall, hnodup⟩
    cases hfinish
    refine ⟨⟨(nodup_fields_iff hall).mp hnodup, fun m hm => ?_⟩, overriding_of_entries hall hnodup⟩
    obtain ⟨e, -, he⟩ := exists_entry_of_mem hall hm
    exact ⟨e, he⟩
  · rintro ⟨hacceptable, hoverriding⟩
    obtain ⟨entries, hall⟩ := exists_entries hacceptable.shaped
    have hnodup := (nodup_fields_iff hall).mpr hacceptable.distinct
    refine ⟨entries, ?_, hall, hnodup⟩
    exact congrArg Except.ok ((overriding_of_entries hall hnodup).unique hd hoverriding)

theorem Acceptable.exists_overriding (h : Acceptable members) : ∃ m, Overriding members m := by
  obtain ⟨entries, hall⟩ := exists_entries h.shaped
  exact ⟨_, overriding_of_entries hall ((nodup_fields_iff hall).mpr h.distinct)⟩

theorem written_of_mem {l : List Char} (h : Written (.object members) l) :
    ∀ m ∈ members, ∃ l, Written m.2 l := by
  cases h with
  | object gap members h =>
    rw [List.forall_mem_map]
    exact fun m hm => ⟨_, h m hm⟩

/-! ## §4 Files -/

/-- A text with gaps around it is read as what it is. -/
theorem readDocument_eq_ok {α : Type} {read : Reader α} {shape : Doc → α → Prop}
    (h : Recognises read shape) {d : Doc} {l : List Char} (hd : Written d l) (before after : Gap)
    (a : α) :
    readDocument read (String.ofList (before.chars ++ (l ++ after.chars))) = .ok a ↔
      shape d a := by
  have hread := h hd before after.chars
  have hblank : skipBlank after.chars = [] := by
    simpa [skipBlank] using skipBlank_gap after []
  simp only [readDocument, String.toList_ofList]
  constructor
  · intro hok
    cases hresult : read (before.chars ++ (l ++ after.chars)) with
    | error failure => simp [hresult, bind, Except.bind, Except.mapError] at hok
    | ok r =>
      obtain ⟨b, left⟩ := r
      obtain ⟨hb, rfl⟩ := (hread b left).mp hresult
      simp only [hresult, bind, Except.bind, hblank, pure, Except.pure, Except.mapError] at hok
      cases hok
      exact hb
  · intro ha
    simp only [(hread a after.chars).mpr ⟨ha, rfl⟩, bind, Except.bind, hblank, pure, Except.pure,
      Except.mapError]

variable {l : List Char} {before after : Gap} {t : FileTree} {cwd : Location} {path : LocalPath}

/-- What a file with the text of an object is loaded as. -/
theorem load_eq_ok (h : Written (.object members) l)
    (hread : t.read cwd path =
      .ok (.ofText (String.ofList (before.chars ++ (l ++ after.chars))))) :
    Manifest.load t cwd path = .ok m ↔ Acceptable members ∧ Overriding members m := by
  rw [← isRecord_manifest (written_of_mem h),
    ← readDocument_eq_ok (recognises_record lawful_manifest) h before after, Manifest.load,
    FileTree.fileSystem_readText, FileTree.readText_of_read hread]
  simp only [Manifest.ofText]
  split <;> simp_all

/-- A file with a text that is no manifest is faulty as a text, and is not said to be
anything else. -/
theorem load_of_not_ok {text : String} (hread : t.read cwd path = .ok (.ofText text))
    (h : ∀ m, Manifest.load t cwd path ≠ .ok m) :
    ∃ fault, Manifest.load t cwd path = .error (.parseManifest path fault) := by
  simp only [Manifest.load, FileTree.readText_of_read hread] at h ⊢
  cases htext : Manifest.ofText text with
  | error fault => exact ⟨fault, rfl⟩
  | ok m =>
    rw [htext] at h
    exact absurd rfl (h m)

/-- **A manifest file is accepted precisely if its members are acceptable**, and it is
then the standard manifest with the given fields replaced; else its text is at fault.
The files of two texts whose members are the same in another order are accepted as the
same manifest, or neither is. -/
theorem members_override_standard (h : Written (.object members) l)
    (hread : t.read cwd path =
      .ok (.ofText (String.ofList (before.chars ++ (l ++ after.chars))))) :
    (Acceptable members →
      ∃ m, Manifest.load t cwd path = .ok m ∧ ∀ m', Overriding members m' ↔ m' = m) ∧
    (¬ Acceptable members →
      ∃ fault, Manifest.load t cwd path = .error (.parseManifest path fault)) ∧
    ∀ {members' : List (Option String × Doc)} {l' : List Char}, members'.Perm members →
      Written (.object members') l' → ∀ {before' after' : Gap} {t' : FileTree} {cwd' : Location}
        {path' : LocalPath},
        t'.read cwd' path' =
          .ok (.ofText (String.ofList (before'.chars ++ (l' ++ after'.chars)))) →
        ∀ m, Manifest.load t' cwd' path' = .ok m ↔ Manifest.load t cwd path = .ok m := by
  refine ⟨fun hacceptable => ?_, fun hnot => ?_, ?_⟩
  · obtain ⟨m, hm⟩ := hacceptable.exists_overriding
    refine ⟨m, (load_eq_ok h hread).mpr ⟨hacceptable, hm⟩, fun m' => ⟨fun hm' => ?_, ?_⟩⟩
    · exact hm'.unique (written_of_mem h) hm
    · rintro rfl
      exact hm
  · exact load_of_not_ok hread fun m hm => hnot ((load_eq_ok h hread).mp hm).1
  · intro members' l' hperm h' before' after' t' cwd' path' hread' m
    rw [load_eq_ok h hread, load_eq_ok h' hread']
    exact ⟨fun ⟨ha, ho⟩ => ⟨ha.of_perm hperm, ho.of_perm hperm⟩,
      fun ⟨ha, ho⟩ => ⟨ha.of_perm hperm.symm, ho.of_perm hperm.symm⟩⟩

/-- Pieces that stand for themselves. -/
def plainPieces (l : List Char) (h : ∀ c ∈ l, 0x20 ≤ c.toNat ∧ c ≠ '\x22' ∧ c ≠ '\\') :
    List Piece :=
  l.pmap Piece.plain h

/-- The members of a manifest file with an escape in a name and one in a value, blanks,
and a profile as an array. -/
def spelledMembers : List Member :=
  [⟨[.lineFeed], plainPieces ['d', 'e', 'v'] (by simp), [.space],
      ⟨[], .array [.text (some "/d"), .array []],
        ['[', '\x22', '\\', '/', 'd', '\x22', ',', '[', ']', ']'], []⟩⟩,
    ⟨[.tab], plainPieces ['i', 'n', 'c', 'l', 'u', 'd', 'e'] (by simp) ++
        .code ⟨⟨0, false⟩, ⟨0, false⟩, ⟨5, false⟩, ⟨15, true⟩⟩ ::
          plainPieces ['a', 'p', 'i'] (by simp), [],
      ⟨[], .bool false, ['f', 'a', 'l', 's', 'e'], [.space]⟩⟩]

def spelledText : String :=
  "\x7b\n\"dev\" :[\"\\/d\",[]],\t\"include\\u005Fapi\":false \x7d\n"

/-- A tree with nothing but that file. -/
def spelledOnDisk : FileTree := FileTree.empty.put ["release.json"] (.file (.ofText spelledText))

/-- What that file says. -/
def spelledSaid : List (Option String × Doc) :=
  [(some "dev", .array [.text (some "/d"), .array []]), (some "include_api", .bool false)]

theorem written_spelled : Written (.object spelledSaid) spelledText.toList.dropLast := by
  have hbucket : Written (.text (some "/d")) ['\x22', '\\', '/', 'd', '\x22'] :=
    .text (.short .slash :: plainPieces ['d'] (by simp))
  have hmatrix : Written (.array []) ['[', ']'] := .array [] [] (by simp)
  have hdev : Written (.array [.text (some "/d"), .array []])
      ['[', '\x22', '\\', '/', 'd', '\x22', ',', '[', ']', ']'] :=
    .array [] [⟨[], .text (some "/d"), ['\x22', '\\', '/', 'd', '\x22'], []⟩,
      ⟨[], .array [], ['[', ']'], []⟩] (by simpa using ⟨hbucket, hmatrix⟩)
  exact .object [] spelledMembers (by simpa [spelledMembers] using ⟨hdev, Written.bool false⟩)

theorem acceptable_spelled : Acceptable spelledSaid where
  distinct := by simp [spelledSaid]
  shaped := by
    simp only [spelledSaid, List.forall_mem_cons]
    exact ⟨⟨.dev ⟨"/d", []⟩, rfl, .array rfl ⟨[], rfl, .nil⟩⟩, ⟨.includeApi false, rfl, rfl⟩,
      by simp⟩

theorem spelled_members_override :
    spelledOnDisk.read [] ⟨"release.json"⟩ = .ok (.ofText spelledText) ∧
      Manifest.load spelledOnDisk [] ⟨"release.json"⟩ =
        .ok { Manifest.standard with includeApi := false, dev := ⟨"/d", []⟩ } := by
  have hopen : FileTree.empty.openNew [] ⟨"release.json"⟩ = .ok ["release.json"] := by decide
  have hread : spelledOnDisk.read [] ⟨"release.json"⟩ = .ok (.ofText spelledText) :=
    FileTree.read_put_of_openNew hopen _
  have htext : spelledText = String.ofList
      (Gap.chars [] ++ (spelledText.toList.dropLast ++ Gap.chars [.lineFeed])) := by rfl
  have hmem : ∀ field d, (some (Field.label field), d) ∈ spelledSaid ↔
      field = .dev ∧ d = .array [.text (some "/d"), .array []] ∨
        field = .includeApi ∧ d = .bool false := by
    intro field d
    cases field <;> simp [spelledSaid, Field.label]
  have hoverriding : Overriding spelledSaid
      { Manifest.standard with includeApi := false, dev := ⟨"/d", []⟩ } := by
    intro field
    constructor
    · intro d hd
      obtain ⟨rfl, rfl⟩ | ⟨rfl, rfl⟩ := (hmem field d).mp hd
      · exact .array rfl ⟨[], rfl, .nil⟩
      · exact rfl
    · intro hnone
      cases field with
      | dev => exact absurd ((hmem _ _).mpr (.inl ⟨rfl, rfl⟩)) (hnone _)
      | includeApi => exact absurd ((hmem _ _).mpr (.inr ⟨rfl, rfl⟩)) (hnone _)
      | _ => rfl
  refine ⟨hread, ?_⟩
  rw [htext] at hread
  obtain ⟨m, hload, hm⟩ := (members_override_standard written_spelled hread).1 acceptable_spelled
  rw [hload, (hm _).mp hoverriding]

end Manifest.Reader

end ReleaseKit
