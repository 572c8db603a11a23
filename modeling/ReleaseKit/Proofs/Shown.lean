/-
ReleaseKit.Proofs.Shown — what shows of a path.

A program that is handed the text of a path takes it for a path of its own (`asShown`). If
the path is text, that is the path again. If not, it is another path, but one of the same
shape: it starts where the path starts, and piece by piece it goes up, stays or goes down
where the path does. So it leads as deep as the path, and not to the same place.

  §1 Pieces  — `pieces_asShown`, and the paths that are text.
  §2 Joining — `asShown_join`.
  §3 Places  — `length_location_asShown`.
-/
import ReleaseKit.Proofs.Path

namespace ReleaseKit.LocalPath

open Location

variable {p q : LocalPath} {cwd : Location}

/-! ## §1 Pieces -/

/-- What shows of a piece, as a piece. -/
def shownPiece (piece : String) : String := OsText.encode (OsText.mk piece).shown

theorem not_slash_shownPiece {piece : String} (h : '/' ∉ piece.toList) :
    '/' ∉ (shownPiece piece).toList := by
  rw [shownPiece, OsText.mem_encode, OsText.shown, String.toList_ofList]
  exact fun hmem => h (OsText.mem_of_mem_charsShown hmem (by decide))

theorem encode_intercalate (texts : List String) :
    (OsText.encode (String.intercalate "/" texts)).toList =
      ['/'].intercalate (texts.map fun text => (OsText.encode text).toList) := by
  have hslash : OsText.encodeChar '/' = ['/'] := by decide
  rw [OsText.toList_encode, String.toList_intercalate]
  induction texts with
  | nil => rfl
  | cons text rest ih =>
    cases rest with
    | nil => simp [List.intercalate, OsText.toList_encode]
    | cons next more =>
      simp only [List.map_cons, List.intercalate, List.intersperse_cons_cons, List.flatten_cons,
        List.flatMap_append] at ih ⊢
      rw [ih, ← OsText.toList_encode]
      simp [hslash]

/-- What shows of a path is what shows of its pieces. -/
theorem text_eq (p : LocalPath) : p.text =
    String.intercalate "/" ((splitAtChar '/' p.code.toList).map fun piece =>
      (OsText.mk (String.ofList piece)).shown) := by
  unfold text
  split
  · rfl
  · next hmark =>
    have hshown : ∀ piece ∈ splitAtChar '/' p.code.toList,
        (OsText.mk (String.ofList piece)).shown = String.ofList piece := by
      intro piece hpiece
      have hfree : OsText.mark ∉ (String.ofList piece).toList := fun hmem =>
        hmark (mem_of_mem_splitAtChar hpiece (by simpa using hmem))
      have hcode : OsText.mk (String.ofList piece) = OsText.ofString (String.ofList piece) := by
        rw [OsText.ofString, OsText.encode_of_not_mem hfree]
      rw [hcode, OsText.shown_ofString]
    rw [List.map_congr_left hshown, ← String.toList_inj, String.toList_intercalate, List.map_map]
    simpa [Function.comp_def] using (intercalate_splitAtChar '/' p.code.toList).symm

theorem splitAtChar_asShown (p : LocalPath) :
    splitAtChar '/' p.asShown.code.toList = (splitAtChar '/' p.code.toList).map fun piece =>
      (shownPiece (String.ofList piece)).toList := by
  have hcode : p.asShown.code.toList = ['/'].intercalate ((splitAtChar '/' p.code.toList).map
      fun piece => (shownPiece (String.ofList piece)).toList) := by
    rw [asShown, ofText, code, OsText.code_ofString, text_eq, encode_intercalate, List.map_map]
    rfl
  rw [hcode]
  refine splitAtChar_intercalate (by simpa using splitAtChar_ne_nil '/' _) fun l hl => ?_
  obtain ⟨piece, hpiece, rfl⟩ := List.mem_map.mp hl
  exact not_slash_shownPiece (by simpa using not_mem_of_mem_splitAtChar hpiece)

/-- What is shown of a piece leads nowhere else, or the piece is a name and so is what is
shown of it. -/
theorem shownPiece_eq_iff {piece literal : String} (hreplacement : Text.replacement ∉ literal.toList)
    (hmark : OsText.mark ∉ literal.toList) : shownPiece piece = literal ↔ piece = literal := by
  rw [shownPiece, OsText.encode_eq_iff hmark]
  constructor
  · intro h
    have hchars : OsText.charsShown 0 piece.toList = literal.toList := by
      rw [← h, OsText.shown, String.toList_ofList]
    exact String.toList_inj.mp (OsText.eq_of_charsShown hchars hreplacement hmark)
  · rintro rfl
    have hstring : OsText.mk piece = OsText.ofString piece := by
      rw [OsText.ofString, OsText.encode_of_not_mem hmark]
    rw [hstring, OsText.shown_ofString]

@[simp] theorem shownPiece_eq_empty {piece : String} : shownPiece piece = "" ↔ piece = "" :=
  shownPiece_eq_iff (by decide) (by decide)

@[simp] theorem shownPiece_eq_here {piece : String} : shownPiece piece = "." ↔ piece = "." :=
  shownPiece_eq_iff (by decide) (by decide)

@[simp] theorem shownPiece_eq_up {piece : String} : shownPiece piece = ".." ↔ piece = ".." :=
  shownPiece_eq_iff (by decide) (by decide)

/-- A path starts at the root if an empty text stands before its first slash. -/
theorem split_cases (p : LocalPath) :
    (p.rooted = true ∧ ∃ rest, splitAtChar '/' p.code.toList = [] :: rest ∧ rest ≠ [] ∧
      p.pieces = rest.map String.ofList) ∨
    (p.rooted = false ∧ (∀ rest, rest ≠ [] → splitAtChar '/' p.code.toList ≠ [] :: rest) ∧
      p.pieces = (splitAtChar '/' p.code.toList).map String.ofList) := by
  rcases hl : p.code.toList with _ | ⟨c, rest⟩
  · refine .inr ⟨by simp [rooted, hl], ?_, by simp [pieces_eq, cut, hl]⟩
    rintro (_ | _) hne h
    · exact hne rfl
    · simp [splitAtChar] at h
  · by_cases hc : c = '/'
    · subst hc
      refine .inl ⟨by simp [rooted, hl], splitAtChar '/' rest, by simp [splitAtChar],
        splitAtChar_ne_nil _ _, by simp [pieces_eq, cut, hl]⟩
    · refine .inr ⟨by simp [rooted, hl, hc], ?_, by simp [pieces_eq, cut, hl, hc]⟩
      intro more hne h
      obtain ⟨first, others, hs⟩ := List.exists_cons_of_ne_nil (splitAtChar_ne_nil '/' rest)
      simp [splitAtChar, hc, hs] at h

/-- **Piece by piece, what shows of a path is a path of the same shape.** -/
theorem pieces_asShown (p : LocalPath) :
    p.asShown.rooted = p.rooted ∧ p.asShown.pieces = p.pieces.map shownPiece := by
  have hsplit := splitAtChar_asShown p
  have hpieces : ∀ l : List (List Char),
      (l.map fun piece => (shownPiece (String.ofList piece)).toList).map String.ofList =
        (l.map String.ofList).map shownPiece := by
    intro l
    simp [Function.comp_def]
  rcases split_cases p with ⟨hroot, rest, hs, hne, hp⟩ | ⟨hroot, hs, hp⟩ <;>
    rcases split_cases p.asShown with ⟨hroot', rest', hs', hne', hp'⟩ | ⟨hroot', hs', hp'⟩
  · refine ⟨hroot'.trans hroot.symm, ?_⟩
    rw [hsplit, hs, List.map_cons] at hs'
    rw [hp', ← (List.cons.inj hs').2, hpieces, hp]
  · refine absurd ?_ (hs' (rest.map fun piece => (shownPiece (String.ofList piece)).toList)
      (by simpa using hne))
    rw [hsplit, hs, List.map_cons]
    simp [shownPiece, OsText.shown, OsText.charsShown, OsText.encode]
  · rw [hsplit] at hs'
    obtain ⟨first, others, hs'', hfirst, rfl⟩ := List.map_eq_cons_iff.mp hs'
    have hempty : first = [] := by
      have hshown : shownPiece (String.ofList first) = "" := String.toList_inj.mp hfirst
      simpa using congrArg String.toList (shownPiece_eq_empty.mp hshown)
    exact absurd (hempty ▸ hs'') (hs others (by simpa using hne'))
  · refine ⟨hroot'.trans hroot.symm, ?_⟩
    rw [hp', hsplit, hpieces, hp]

/-- A path is what stands between its slashes. -/
theorem ext_split (h : splitAtChar '/' p.code.toList = splitAtChar '/' q.code.toList) : p = q := by
  have hchars := congrArg (['/'].intercalate ·) h
  simp only [intercalate_splitAtChar] at hchars
  have hcode : p.code = q.code := String.toList_inj.mp hchars
  obtain ⟨⟨a⟩⟩ := p
  obtain ⟨⟨b⟩⟩ := q
  exact congrArg (fun code => LocalPath.mk ⟨code⟩) hcode

theorem splitAtChar_flatMap_encodeChar (l : List Char) :
    splitAtChar '/' (l.flatMap OsText.encodeChar) =
      (splitAtChar '/' l).map (·.flatMap OsText.encodeChar) := by
  have hmark : OsText.mark ≠ '/' := by decide
  induction l with
  | nil => rfl
  | cons c rest ih =>
    obtain ⟨piece, pieces, hs⟩ := List.exists_cons_of_ne_nil (splitAtChar_ne_nil '/' rest)
    rw [hs] at ih
    rw [List.flatMap_cons, OsText.encodeChar]
    split
    · next hc =>
      subst hc
      simp [splitAtChar, hmark, ih, hs, OsText.encodeChar]
    · next hc =>
      by_cases hslash : c = '/'
      · simp [splitAtChar, hslash, ih, hs]
      · simp [splitAtChar, hslash, ih, hs, OsText.encodeChar, hc]

/-- All of a string shows, as a path. -/
@[simp] theorem text_ofText (text : String) : (ofText text).text = text := by
  have hpieces : ∀ piece : List Char,
      (OsText.mk (String.ofList (piece.flatMap OsText.encodeChar))).shown = String.ofList piece := by
    intro piece
    have hcode : String.ofList (piece.flatMap OsText.encodeChar) =
        OsText.encode (String.ofList piece) := by
      rw [← String.toList_inj, OsText.toList_encode, String.toList_ofList, String.toList_ofList]
    rw [hcode]
    exact OsText.shown_ofString _
  rw [text_eq, ofText, code, OsText.code_ofString, OsText.toList_encode,
    splitAtChar_flatMap_encodeChar, List.map_map]
  simp only [Function.comp_def, hpieces]
  apply String.toList_inj.mp
  rw [String.toList_intercalate, List.map_map]
  simpa [Function.comp_def] using intercalate_splitAtChar '/' text.toList

theorem isText_ofText (text : String) : (ofText text).isText = true := OsText.isText_ofString text

/-- A path is taken for itself exactly if it is text. -/
theorem asShown_eq_iff : p.asShown = p ↔ p.isText = true := by
  constructor
  · exact fun h => h ▸ isText_ofText p.text
  · intro h
    obtain ⟨text, htext⟩ := OsText.isText_iff.mp h
    obtain rfl : p = ofText text := congrArg LocalPath.mk htext
    rw [asShown, text_ofText]

/-- Paths that are text are told apart by it. -/
theorem text_inj (hp : p.isText = true) (hq : q.isText = true) : p.text = q.text ↔ p = q := by
  refine ⟨fun h => ?_, fun h => by rw [h]⟩
  rw [← asShown_eq_iff.mpr hp, ← asShown_eq_iff.mpr hq, asShown, asShown, h]

/-- Of a path that is not text, some piece is shown as another. -/
theorem exists_shownPiece_ne (h : p.isText = false) :
    ∃ piece ∈ p.pieces, shownPiece piece ≠ piece := by
  by_contra hall
  simp only [not_exists, not_and, not_not] at hall
  obtain ⟨hroot, hpieces⟩ := pieces_asShown p
  rw [List.map_congr_left hall, List.map_id'] at hpieces
  have hcode : p.asShown.code.toList = p.code.toList := by
    rw [code_toList, code_toList p, hroot, hpieces]
  have htext := asShown_eq_iff.mp (ext_split (congrArg (splitAtChar '/') hcode))
  rw [h] at htext
  cases htext

/-! ## §2 Joining -/

/-- Nothing stands behind the last slash of a text that ends with it. -/
theorem getLast?_splitAtChar (sep : Char) (l : List Char) :
    (splitAtChar sep l).getLast? = some [] ↔ l = [] ∨ l.getLast? = some sep := by
  induction l with
  | nil => simp [splitAtChar]
  | cons c rest ih =>
    obtain ⟨piece, pieces, hs⟩ := List.exists_cons_of_ne_nil (splitAtChar_ne_nil sep rest)
    rw [hs] at ih
    rcases rest with _ | ⟨d, rest⟩
    · by_cases hc : c = sep <;> simp [splitAtChar, hc]
    · rw [List.getLast?_cons_cons]
      by_cases hc : c = sep
      · rw [splitAtChar, if_pos hc, hs, List.getLast?_cons_cons, ih]
        simp
      · cases pieces with
        | nil =>
          have hempty : piece ≠ [] := by
            rintro rfl
            have hback := intercalate_splitAtChar sep (d :: rest)
            rw [hs] at hback
            simp [List.intercalate] at hback
          simp_all [splitAtChar]
        | cons next more =>
          rw [splitAtChar, if_neg hc, hs]
          simpa [List.getLast?_cons_cons] using ih

/-- What stands between the slashes of a joined path: the right side comes after what the
left side has, but for nothing behind the last slash. -/
theorem splitAtChar_join {right : OsText} (h : '/' ∉ right.code.toList) (left : LocalPath) :
    splitAtChar '/' (left.join right).code.toList =
      (if (splitAtChar '/' left.code.toList).getLast? = some [] then
          (splitAtChar '/' left.code.toList).dropLast
        else splitAtChar '/' left.code.toList) ++ [right.code.toList] := by
  have hright := splitAtChar_of_not_mem h
  have hhead : right.code.toList.head? ≠ some '/' := fun hr => h (List.mem_of_mem_head? hr)
  have hempty : left.code = "" ↔ left.code.toList = [] := by simp
  rw [join, if_neg hhead]
  simp only [getLast?_splitAtChar, hempty]
  split
  · next hstart =>
    rcases hstart with hnil | hlast
    · simp [hnil, splitAtChar, hright]
    · obtain ⟨l, hl⟩ := List.getLast?_eq_some_iff.mp hlast
      have hcode : (ofCode (left.code ++ right.code)).code.toList =
          l ++ '/' :: right.code.toList := by simp [hl]
      rw [hcode, hl, splitAtChar_append, splitAtChar_append, hright]
      simp [splitAtChar]
  · have hcode : (ofCode (left.code ++ "/" ++ right.code)).code.toList =
        left.code.toList ++ '/' :: right.code.toList := by simp
    rw [hcode, splitAtChar_append, hright]

/-- What shows of a name in a directory is the name, in what shows of the directory. -/
theorem asShown_join {name : String} (h : '/' ∉ name.toList) (left : LocalPath) :
    (left.join name).asShown = left.asShown.join name := by
  have hname : '/' ∉ (OsText.ofString name).code.toList := by simpa using h
  have hshown : shownPiece (OsText.ofString name).code = (OsText.ofString name).code :=
    congrArg OsText.encode (OsText.shown_ofString name)
  refine ext_split ?_
  rw [splitAtChar_asShown, splitAtChar_join hname, splitAtChar_join hname, splitAtChar_asShown,
    List.map_append, List.map_singleton, String.ofList_toList, hshown]
  have hlast : ((splitAtChar '/' left.code.toList).map fun piece =>
      (shownPiece (String.ofList piece)).toList).getLast? = some [] ↔
        (splitAtChar '/' left.code.toList).getLast? = some [] := by
    rw [List.getLast?_map, Option.map_eq_some_iff]
    constructor
    · rintro ⟨piece, hpiece, hempty⟩
      have hshownEmpty : shownPiece (String.ofList piece) = "" := String.toList_inj.mp hempty
      obtain rfl : piece = [] := by
        simpa using congrArg String.toList (shownPiece_eq_empty.mp hshownEmpty)
      exact hpiece
    · exact fun hpiece => ⟨[], hpiece, congrArg String.toList (shownPiece_eq_empty.mpr rfl)⟩
  simp only [hlast]
  split <;> simp

theorem intercalate_append {α : Type} (sep : List α) {first rest : List (List α)}
    (hfirst : first ≠ []) (hrest : rest ≠ []) :
    sep.intercalate (first ++ rest) = sep.intercalate first ++ sep ++ sep.intercalate rest := by
  induction first with
  | nil => exact absurd rfl hfirst
  | cons l more ih =>
    obtain ⟨m, others, rfl⟩ := List.exists_cons_of_ne_nil hrest
    cases more with
    | nil => simp [List.intercalate_cons_cons]
    | cons next more =>
      have hmore := ih (by simp)
      rw [List.cons_append, List.cons_append, List.intercalate_cons_cons, ← List.cons_append, hmore,
        List.intercalate_cons_cons]
      simp

/-- A string joined to a path that is text makes a path that is text. -/
theorem isText_join_of_isText {left : LocalPath} (h : left.isText = true) (right : String) :
    (left.join right).isText = true := by
  obtain ⟨text, htext⟩ := OsText.isText_iff.mp h
  obtain rfl : left = ofText text := congrArg LocalPath.mk htext
  unfold join
  split
  · exact OsText.isText_ofString right
  · split
    · have hcode : (ofText text).code ++ (OsText.ofString right).code =
          OsText.encode (text ++ right) := (OsText.encode_append text right).symm
      rw [hcode]
      exact isText_ofText _
    · have hcode : (ofText text).code ++ "/" ++ (OsText.ofString right).code =
          OsText.encode (text ++ "/" ++ right) := by
        rw [OsText.encode_append, OsText.encode_append, OsText.encode_of_not_mem (s := "/") (by decide)]
        rfl
      rw [hcode]
      exact isText_ofText _

/-- Behind a slash a string shows, and before it what stands there. -/
theorem text_of_slash (stem : List Char) {right : String}
    (hp : p.code.toList = stem ++ '/' :: (OsText.ofString right).code.toList) :
    p.text = (ofCode (String.ofList stem)).text ++ "/" ++ right := by
  have hright : (ofText right).text = right := text_ofText right
  have hcode : (ofText right).code = (OsText.ofString right).code := rfl
  refine String.toList_inj.mp ?_
  rw [← hright]
  simp only [text_eq, hp, splitAtChar_append, List.map_append, String.toList_intercalate,
    String.toList_append, code_ofCode, String.toList_ofList, hcode]
  rw [intercalate_append]
  · simpa using splitAtChar_ne_nil '/' stem
  · simpa using splitAtChar_ne_nil '/' _

theorem code_join_ends (left : LocalPath) (right : OsText) :
    ∃ front, (left.join right).code = front ++ right.code := by
  unfold join
  split
  · exact ⟨"", String.empty_append.symm⟩
  · split
    · exact ⟨left.code, rfl⟩
    · exact ⟨left.code ++ "/", rfl⟩

/-- What is joined to a path that is not empty and ends without a slash is put behind one. -/
theorem code_join_of_relative {left : LocalPath} {right : OsText} (hne : left.code ≠ "")
    (hlast : left.code.toList.getLast? ≠ some '/') (hright : right.code.toList.head? ≠ some '/') :
    (left.join right).code.toList = left.code.toList ++ '/' :: right.code.toList := by
  rw [join, if_neg hright, if_neg (not_or.mpr ⟨hne, hlast⟩)]
  simp

/-- A string that is joined to a path shows at its end. -/
theorem text_join_ends (left : LocalPath) (right : String) :
    ∃ front, (left.join right).text = front ++ right := by
  have hright : (ofText right).text = right := text_ofText right
  unfold join
  split
  · exact ⟨"", by rw [String.empty_append]; exact hright⟩
  · split
    · rename_i hleft
      rcases hleft with hempty | hlast
      · refine ⟨"", ?_⟩
        rw [hempty, String.empty_append, String.empty_append]
        exact hright
      · obtain ⟨stem, hstem⟩ := List.getLast?_eq_some_iff.mp hlast
        exact ⟨_, text_of_slash stem (by simp [hstem])⟩
    · exact ⟨_, text_of_slash left.code.toList (by simp)⟩

/-! ## §3 Places -/

/-- A path that does not go up does not as it shows. -/
theorem descends_asShown (h : p.Descends) : p.asShown.Descends := by
  rw [descends_iff] at h ⊢
  rw [(pieces_asShown p).2, List.mem_map]
  rintro ⟨piece, hpiece, hup⟩
  exact h (shownPiece_eq_up.mp hup ▸ hpiece)

/-- What shows of a path leads as deep as the path. -/
theorem length_location_asShown (cwd : Location) (p : LocalPath) :
    (p.asShown.location cwd).length = (p.location cwd).length := by
  have hfollow : ∀ (pieces : List String) (a b : Location), a.length = b.length →
      ((pieces.map shownPiece).foldl follow a).length = (pieces.foldl follow b).length := by
    intro pieces
    induction pieces with
    | nil => exact fun a b h => h
    | cons piece rest ih =>
      intro a b h
      rw [List.map_cons, List.foldl_cons, List.foldl_cons]
      refine ih _ _ ?_
      simp only [follow, shownPiece_eq_empty, shownPiece_eq_here, shownPiece_eq_up]
      split
      · exact h
      · split <;> simp [h]
  obtain ⟨hroot, hpieces⟩ := pieces_asShown p
  rw [location, location, hpieces, FileTree.start, FileTree.start, hroot]
  exact hfollow _ _ _ rfl

/-- What shows of a path that is not text leads elsewhere. -/
theorem location_asShown_ne (hp : p.Descends) (h : p.isText = false) (cwd : Location) :
    p.asShown.location cwd ≠ p.location cwd := by
  obtain ⟨hroot, hpieces⟩ := pieces_asShown p
  obtain ⟨piece, hmem, hne⟩ := exists_shownPiece_ne h
  have hstep : ∀ piece, isStep (shownPiece piece) = isStep piece := fun piece => by
    rw [Bool.eq_iff_iff]
    simp [isStep]
  have hname : piece ∈ p.names := by
    refine List.mem_filter.mpr ⟨hmem, ?_⟩
    have hplain : piece ≠ "" ∧ piece ≠ "." :=
      ⟨fun e => hne (e ▸ shownPiece_eq_empty.mpr rfl), fun e => hne (e ▸ shownPiece_eq_here.mpr rfl)⟩
    simpa [isStep] using hplain
  have hnames : p.asShown.names = p.names.map shownPiece := by
    simp only [names, hpieces, List.filter_map, Function.comp_def, hstep]
  have hstart : FileTree.start cwd p.asShown = FileTree.start cwd p := by
    rw [FileTree.start, hroot, FileTree.start]
  rw [location_of_descends (descends_asShown hp), location_of_descends hp, hstart, hnames]
  intro hsame
  have hall : p.names.map shownPiece = p.names.map id := by
    rw [List.map_id]
    exact List.reverse_inj.mp (List.append_cancel_right hsame)
  exact hne (List.map_inj_left.mp hall piece hname)

end ReleaseKit.LocalPath
