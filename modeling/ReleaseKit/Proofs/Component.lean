/-
ReleaseKit.Proofs.Component — an accepted version is one component of a path.

A version is checked character by character, and then joined to the staging directory,
cleared away with all that is there, and uploaded under its own name. That this is the right
directory rests on the version being one component, whatever the staging directory looks
like: the components of the directory of the version are those of the staging directory and
one more, the version itself (`LocalPath.components_join`). So its last name is the version,
which is what an upload of the directory puts below the address of all versions, and no
directory of a version is that of another or in it (`accepted_version_is_component`).

  §1 Acceptance  — which texts are versions, and what is made of them.
  §2 Components  — what a joined name adds to a path.
  §3 Addresses   — `CommandLine.copiedTo?`: where a directory is uploaded to.
  §4 Together    — `accepted_version_is_component`.
-/
import ReleaseKit.Proofs.PublicRead

namespace ReleaseKit

/-! ## §1 Acceptance -/

/-- The code points that have the Unicode property White_Space. -/
def Text.blankPoints : List Nat :=
  [0x9, 0xA, 0xB, 0xC, 0xD, 0x20, 0x85, 0xA0, 0x1680, 0x2000, 0x2001, 0x2002, 0x2003, 0x2004,
    0x2005, 0x2006, 0x2007, 0x2008, 0x2009, 0x200A, 0x2028, 0x2029, 0x202F, 0x205F, 0x3000]

theorem Text.isBlank_iff (c : Char) : isBlank c = true ↔ c.toNat ∈ blankPoints := by
  simp only [isBlank, blankPoints, Bool.or_eq_true, Bool.and_eq_true, decide_eq_true_eq,
    beq_iff_eq, List.mem_cons, List.not_mem_nil, or_false]
  omega

namespace Version

/-- A text can be used as a version: it is not empty, has no blank and no separator in it,
and is neither of the two relative names. -/
structure Acceptable (text : String) : Prop where
  ne_empty : text ≠ ""
  blank_free : ∀ c ∈ text.toList, c.toNat ∉ Text.blankPoints
  slash_free : '/' ∉ text.toList
  backslash_free : '\\' ∉ text.toList
  ne_here : text ≠ "."
  ne_up : text ≠ ".."

theorem acceptable_iff (text : String) : Acceptable text ↔ flaw? text = none := by
  have hblank : (∀ c ∈ text.toList, c.toNat ∉ Text.blankPoints) ↔
      ∀ c ∈ text.toList, Text.isBlank c = false := by
    simp only [← Text.isBlank_iff, Bool.not_eq_true]
  rw [flaw?_eq_none_iff, ← hblank]
  exact ⟨fun h => ⟨h.1, h.2, h.3, h.4, h.5, h.6⟩,
    fun h => ⟨h.1, h.2.1, h.2.2.1, h.2.2.2.1, h.2.2.2.2.1, h.2.2.2.2.2⟩⟩

end Version

namespace Config

variable {settings : Settings} {manifest : Manifest} {distDir : LocalPath}

/-- If the matrix of the environment has a target, the version alone decides. -/
theorem exists_assemble_iff (hmatrix : (manifest.profile (.ofTag settings.envTag)).matrix ≠ []) :
    (∃ c, assemble settings manifest distDir = .ok c) ↔ Version.Acceptable settings.version := by
  rw [Version.acceptable_iff]
  constructor
  · rintro ⟨c, hc⟩
    rw [← (assemble_eq_ok.mp hc).1]
    exact c.version.flaw?_eq_none
  · intro hversion
    exact ⟨⟨⟨settings.version, hversion⟩, settings.envTag, manifest, distDir, hmatrix⟩,
      assemble_eq_ok.mpr ⟨rfl, rfl, rfl, rfl⟩⟩

end Config

/-! ## §2 Components -/

namespace LocalPath

variable {name right : String}

/-- Only the first piece of a path can be a dot that counts. -/
theorem componentsOf_append (leading : Bool) (first rest : List String) :
    componentsOf leading (first ++ rest) =
      componentsOf leading first ++ componentsOf (leading && first.isEmpty) rest := by
  induction first generalizing leading with
  | nil => simp [componentsOf]
  | cons piece first ih =>
    by_cases h₀ : piece = ""
    · simp [componentsOf, h₀, ih]
    · by_cases h₁ : piece = "."
      · cases leading <;> simp [componentsOf, h₁, ih]
      · by_cases h₂ : piece = ".." <;> simp [componentsOf, h₀, h₁, h₂, ih]

/-- A joined name is one more component, whatever it is joined to. -/
theorem components_join (h : PlainName name) (left : LocalPath) :
    (left.join name).components = left.components ++ [.name name] := by
  obtain ⟨stem, hpieces, hleft, hrooted⟩ := pieces_join left h.code_slash_free
  have hname : ∀ leading, componentsOf leading [(OsText.ofString name).code] =
      [.name (OsText.ofString name)] := fun leading => by
    simp [componentsOf, h.ne_empty, h.ne_here, h.ne_up, OsText.ofString]
  have hblank : ∀ leading, componentsOf leading [""] = [] := fun leading => by
    simp [componentsOf]
  have hstem : ∀ leading, componentsOf leading left.pieces = componentsOf leading stem := by
    intro leading
    rcases hleft with hleft | hleft
    · rw [hleft]
    · rw [hleft, componentsOf_append, hblank, List.append_nil]
  unfold components
  rw [hrooted, hpieces]
  split <;> simp only [componentsOf_append, hname, hstem, List.cons_append]

/-- A joined name is the last one. -/
theorem fileName_join (h : PlainName name) (left : LocalPath) :
    (left.join name).fileName = some (OsText.ofString name) := by
  obtain ⟨stem, hpieces, -, -⟩ := pieces_join left h.code_slash_free
  unfold fileName
  rw [significant_of_pieces hpieces h.isStep]
  exact if_neg (not_or.mpr ⟨by simpa using h.ne_here, by simpa using h.ne_up⟩)

/-- Something relative that is joined to a name is put behind a slash. -/
theorem text_join_join (h : PlainName name) (hright : right.toList.head? ≠ some '/')
    (left : LocalPath) :
    ((left.join name).join right).text = (left.join name).text ++ "/" ++ right := by
  obtain ⟨front, hfront⟩ := left.code_join_ends name
  have hlist : (OsText.encode name).toList ≠ [] := fun hnil =>
    h.ne_empty (OsText.encode_eq_empty.mp (String.toList_inj.mp (by simp [hnil])))
  have hne : (left.join name).code ≠ "" := by
    rw [hfront, ne_eq, ← String.toList_inj, String.toList_append]
    exact List.append_ne_nil_of_right_ne_nil _ hlist
  have hlast : (left.join name).code.toList.getLast? ≠ some '/' := by
    rw [hfront, String.toList_append, OsText.code_ofString,
      List.getLast?_append_of_ne_nil _ hlist]
    exact fun hslash => h.code_slash_free (List.mem_of_getLast? hslash)
  have hrelative : (OsText.ofString right).code.toList.head? ≠ some '/' := by
    rw [OsText.code_ofString, OsText.head?_encode]
    exact hright
  rw [text_of_slash _ (code_join_of_relative hne hlast hrelative), String.ofList_toList]
  rfl

/-- Of two paths that are joined of one path and two names neither is in the other. -/
theorem not_prefix_join {other : String} (h : PlainName name) (h' : PlainName other)
    (hne : name ≠ other) (left : LocalPath) :
    ¬ (left.join name).components <+: (left.join other).components := by
  rw [components_join h, components_join h', List.prefix_append_right_inj]
  intro hprefix
  have heq := hprefix.eq_of_length rfl
  exact hne (OsText.ofString_inj.mp (Component.name.inj (List.cons.inj heq).1))

end LocalPath

/-! ## §3 Addresses -/

/-- Where a command that copies a directory to the store puts what has a path in it: below
the name that the path of the directory ends with. -/
def CommandLine.copiedTo? (c : CommandLine) (relative : String) : Option String :=
  if c.program = Toolchain.gsutil then
    match c.args with
    | ["cp", "-r", source, dest] =>
      (LocalPath.ofText source).fileName.map fun base => dest ++ "/" ++ base.shown ++ "/" ++ relative
    | _ => none
  else none

namespace Config

variable (c : Config)

theorem copiedTo?_versionDir (relative : String) :
    (Toolchain.uploadDir c.versionDir c.binariesRemote).copiedTo? relative =
      some (c.versionRemote ++ "/" ++ relative) := by
  have hshown : c.versionDir.asShown = c.distDir.asShown.join c.version.text :=
    LocalPath.asShown_join c.version.plainName.slash_free c.distDir
  have hname : (LocalPath.ofText c.versionDir.text).fileName =
      some (OsText.ofString c.version.text) := by
    rw [show LocalPath.ofText c.versionDir.text = c.versionDir.asShown from rfl, hshown]
    exact LocalPath.fileName_join c.version.plainName c.distDir.asShown
  simp only [CommandLine.copiedTo?, Toolchain.uploadDir, if_true, hname, Option.map_some,
    OsText.shown_ofString]
  rfl

/-- The archive of the API stands in the directory of the version. -/
theorem text_apiArchivePath (h : c.manifest.apiName.toList.head? ≠ some '/') :
    c.apiArchivePath.text = c.versionDir.text ++ "/" ++ (c.manifest.apiName ++ ".zip") := by
  refine LocalPath.text_join_join c.version.plainName ?_ c.distDir
  cases hname : c.manifest.apiName.toList with
  | nil => simp [hname]
  | cons first rest =>
    rw [hname] at h
    simpa [hname] using h

end Config

/-! ## §4 Together -/

/-- **An accepted version is one component of a path, on the local disk and in the store.**
If the matrix has a target, exactly those versions are accepted that are not empty, hold no
blank and no separator, and are neither of the two relative names. Whatever the staging
directory is, the directory of an accepted version has its components and one more, the
version; the version is its last name; and so what an upload of the directory puts below this
name is at the address of the version, the archive of the API where its own address says.
The directories of two versions are neither equal nor is one in the other, as paths and as
places. -/
theorem accepted_version_is_component (distDir : LocalPath) :
    (∀ settings manifest, (Manifest.profile manifest (.ofTag settings.envTag)).matrix ≠ [] →
      ((∃ c, Config.assemble settings manifest distDir = .ok c) ↔
        Version.Acceptable settings.version)) ∧
    (∀ settings manifest c, Config.assemble settings manifest distDir = .ok c →
      c.versionDir.components = distDir.components ++ [.name (settings.version : OsText)] ∧
      c.versionDir.fileName = some (settings.version : OsText) ∧
      c.versionRemote = c.binariesRemote ++ "/" ++ settings.version ∧
      (∀ relative, (Toolchain.uploadDir c.versionDir c.binariesRemote).copiedTo? relative =
        some (c.versionRemote ++ "/" ++ relative)) ∧
      c.apiArchiveRemote = c.versionRemote ++ "/" ++ (manifest.apiName ++ ".zip") ∧
      (manifest.apiName.toList.head? ≠ some '/' →
        c.apiArchivePath.text = c.versionDir.text ++ "/" ++ (manifest.apiName ++ ".zip"))) ∧
    ∀ settings settings' manifest manifest' c c',
      Config.assemble settings manifest distDir = .ok c →
      Config.assemble settings' manifest' distDir = .ok c' →
      settings.version ≠ settings'.version →
      ¬ c.versionDir.components <+: c'.versionDir.components ∧
      ¬ c'.versionDir.components <+: c.versionDir.components ∧
      ∀ cwd, Location.within (c.versionDir.location cwd) (c'.versionDir.location cwd) = false ∧
        Location.within (c'.versionDir.location cwd) (c.versionDir.location cwd) = false := by
  refine ⟨fun settings manifest => Config.exists_assemble_iff,
    fun settings manifest c hc => ?_, fun settings settings' manifest manifest' c c' hc hc' hne => ?_⟩
  · obtain ⟨hversion, -, rfl, rfl⟩ := Config.assemble_eq_ok.mp hc
    rw [← hversion]
    exact ⟨LocalPath.components_join c.version.plainName c.distDir,
      LocalPath.fileName_join c.version.plainName c.distDir, rfl, c.copiedTo?_versionDir,
      String.append_assoc, c.text_apiArchivePath⟩
  · obtain ⟨hversion, -, -, hdist⟩ := Config.assemble_eq_ok.mp hc
    obtain ⟨hversion', -, -, hdist'⟩ := Config.assemble_eq_ok.mp hc'
    rw [← hversion, ← hversion'] at hne
    have hdir : c.versionDir = distDir.join c.version.text := by rw [Config.versionDir, hdist]
    have hdir' : c'.versionDir = distDir.join c'.version.text := by rw [Config.versionDir, hdist']
    have happart : ∀ {v w : Version} (cwd : Location), v.text ≠ w.text →
        Location.within ((distDir.join v.text).location cwd)
          ((distDir.join w.text).location cwd) = false := by
      intro v w cwd hvw
      rw [LocalPath.location_join_plain v.plainName, LocalPath.location_join_plain w.plainName]
      exact Bool.eq_false_iff.mpr fun hin =>
        hvw (OsText.encode_inj.mp (Location.eq_of_within_sibling hin))
    rw [hdir, hdir']
    exact ⟨LocalPath.not_prefix_join c.version.plainName c'.version.plainName hne distDir,
      LocalPath.not_prefix_join c'.version.plainName c.version.plainName hne.symm distDir,
      fun cwd => ⟨happart cwd hne, happart cwd hne.symm⟩⟩

/-- Below a directory that is written with dots and slashes at its end, two versions of which
one begins the other have directories apart; a version that ends with a line separator is
refused. -/
theorem versions_below_dotted_directory :
    let dist : LocalPath := ⟨"./out//."⟩
    (¬ ∃ c, Config.assemble ⟨"1.0\u2028", "dev"⟩ .standard dist = .ok c) ∧
    ∃ c c', Config.assemble ⟨"1.0", "dev"⟩ .standard dist = .ok c ∧
      Config.assemble ⟨"1.0.1", "prod"⟩ .standard dist = .ok c' ∧
      c.versionDir.components = [.here, .name ("out" : OsText), .name ("1.0" : OsText)] ∧
      c.versionDir.fileName = some ("1.0" : OsText) ∧
      (Toolchain.uploadDir c.versionDir c.binariesRemote).copiedTo? "apictl.zip" =
        some c.apiArchiveRemote ∧
      ¬ c.versionDir.components <+: c'.versionDir.components := by
  intro dist
  obtain ⟨haccepted, hcomponent, hapart⟩ := accepted_version_is_component dist
  have hacceptable : Version.Acceptable "1.0" ∧ Version.Acceptable "1.0.1" ∧
      ¬ Version.Acceptable "1.0\u2028" := by
    simp only [Version.acceptable_iff]
    decide
  refine ⟨fun hc => hacceptable.2.2 ((haccepted _ _ (by decide)).mp hc), ?_⟩
  obtain ⟨c, hc⟩ := (haccepted ⟨"1.0", "dev"⟩ .standard (by decide)).mpr hacceptable.1
  obtain ⟨c', hc'⟩ := (haccepted ⟨"1.0.1", "prod"⟩ .standard (by decide)).mpr hacceptable.2.1
  obtain ⟨hcomponents, hname, -, hcopied, hremote, -⟩ := hcomponent _ _ c hc
  have hdist : dist.components = [.here, .name ("out" : OsText)] := by decide +kernel
  refine ⟨c, c', hc, hc', ?_, hname, ?_, (hapart _ _ _ _ c c' hc hc' (by decide)).1⟩
  · rw [hcomponents, hdist]
    rfl
  · rw [hcopied, hremote]
    rfl

end ReleaseKit
