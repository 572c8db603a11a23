/-
ReleaseKit.Proofs.Path — what a path says, read off its text.

A path is followed piece by piece, and no piece leads to different places in
different trees: a path has one location. Paths that never go up have locations that
can be computed: their names, on top of the place they start from. Joining a name
adds the name, and a parent drops the last one; so the directories above a path are
the directories that its location is in.

  §1 Locations   — `follow`, `location`.
  §2 Descending  — paths without two dots.
  §3 Joining     — the pieces and the location of `<left>/<right>`; `EndsIn`.
  §4 Parents     — a parent keeps the start and drops names at the end; `OnWay`.
  §5 Fitting     — `Fits`: paths that the system takes, and their parents.
-/
import Mathlib.Data.List.TakeWhile
import ReleaseKit.FileTree.Resolve
import ReleaseKit.Proofs.Encoding

namespace ReleaseKit

/-! ## §1 Locations -/

namespace Location

/-- The location that a piece leads to from a directory. -/
def follow (here : Location) (piece : String) : Location :=
  if piece = "" ∨ piece = "." then here else if piece = ".." then here.tail else piece :: here

@[simp] theorem follow_empty (here : Location) : follow here "" = here := by simp [follow]

/-- A proper name leads to what it names. -/
theorem follow_name {here : Location} {name : String} (h₀ : name ≠ "") (h₁ : name ≠ ".")
    (h₂ : name ≠ "..") : follow here name = name :: here := by
  simp [follow, h₀, h₁, h₂]

/-- Empty pieces lead nowhere. -/
theorem foldl_follow_of_blank {pieces : List String} (h : ∀ piece ∈ pieces, piece = "")
    (here : Location) : pieces.foldl follow here = here := by
  induction pieces with
  | nil => rfl
  | cons piece rest ih =>
    rw [List.foldl_cons, h piece (by simp), follow_empty]
    exact ih fun p hp => h p (by simp [hp])

theorem within_trans {a b c : Location} (hab : within a b = true) (hbc : within b c = true) :
    within a c = true := by
  rw [within_iff] at *
  exact hab.trans hbc

end Location

/-- Where a path leads, in whatever tree it is followed. -/
def LocalPath.location (cwd : Location) (p : LocalPath) : Location :=
  p.pieces.foldl Location.follow (FileTree.start cwd p)

theorem LocalPath.location_eq (cwd : Location) (p : LocalPath) :
    p.location cwd = p.pieces.foldl Location.follow (FileTree.start cwd p) := rfl

namespace LocalPath

open Location

variable {cwd here : Location} {p q left : LocalPath} {right : OsText} {name : String}

/-! ## §2 Descending -/

/-- Whether a piece names something: the others stay or go up. -/
def isStep (piece : String) : Bool := piece != "" && piece != "."

/-- The pieces of a path that lead somewhere else. -/
def names (p : LocalPath) : List String := p.pieces.filter isStep

/-- A path that never goes up. -/
def Descends (p : LocalPath) : Prop := .up ∉ p.components

theorem up_mem_componentsOf {leading : Bool} {pieces : List String} :
    .up ∈ componentsOf leading pieces ↔ ".." ∈ pieces := by
  induction pieces generalizing leading with
  | nil => simp [componentsOf]
  | cons piece rest ih =>
    by_cases h₀ : piece = ""
    · simp [componentsOf, h₀, ih]
    · by_cases h₁ : piece = "."
      · cases leading <;> simp [componentsOf, h₁, ih]
      · by_cases h₂ : piece = ".."
        · simp [componentsOf, h₂]
        · simp [componentsOf, h₀, h₁, h₂, ih, Ne.symm h₂]

theorem descends_iff : p.Descends ↔ ".." ∉ p.pieces := by
  unfold Descends components
  split <;> simp [up_mem_componentsOf]

/-- Pieces that do not go up put their names on top of where they start. -/
theorem foldl_follow_of_descending {pieces : List String} (h : ".." ∉ pieces) (here : Location) :
    pieces.foldl follow here = (pieces.filter isStep).reverse ++ here := by
  induction pieces generalizing here with
  | nil => rfl
  | cons piece rest ih =>
    simp only [List.mem_cons, not_or] at h
    rw [List.foldl_cons, ih h.2]
    by_cases hp : piece = "" ∨ piece = "."
    · have hstep : isStep piece = false := by rcases hp with rfl | rfl <;> rfl
      simp [follow, hp, hstep]
    · have hstep : isStep piece = true := by simpa [isStep] using hp
      simp [follow, hp, hstep, Ne.symm h.1]

theorem location_of_descends (h : p.Descends) :
    p.location cwd = p.names.reverse ++ FileTree.start cwd p :=
  foldl_follow_of_descending (descends_iff.mp h) _

/-- A path without names leads to where it starts. -/
theorem location_of_names_nil (hnames : p.names = []) (hp : p.Descends) (cwd : Location) :
    p.location cwd = FileTree.start cwd p := by
  rw [location_of_descends hp, hnames]
  rfl

/-! ## §3 Joining -/

theorem splitAtChar_append (sep : Char) (a b : List Char) :
    splitAtChar sep (a ++ sep :: b) = splitAtChar sep a ++ splitAtChar sep b := by
  induction a with
  | nil => simp [splitAtChar]
  | cons c rest ih =>
    by_cases hc : c = sep
    · simp [splitAtChar, hc, ih]
    · obtain ⟨piece, pieces, hs⟩ := List.exists_cons_of_ne_nil (splitAtChar_ne_nil sep rest)
      simp [splitAtChar, hc, ih, hs]

theorem splitAtChar_of_not_mem {sep : Char} {l : List Char} (h : sep ∉ l) :
    splitAtChar sep l = [l] := by
  induction l with
  | nil => rfl
  | cons c rest ih =>
    simp only [List.mem_cons, not_or] at h
    simp [splitAtChar, Ne.symm h.1, ih h.2]

theorem not_mem_of_mem_splitAtChar {sep : Char} {l piece : List Char}
    (h : piece ∈ splitAtChar sep l) : sep ∉ piece := by
  induction l generalizing piece with
  | nil => simp_all [splitAtChar]
  | cons c rest ih =>
    obtain ⟨first, others, hs⟩ := List.exists_cons_of_ne_nil (splitAtChar_ne_nil sep rest)
    by_cases hc : c = sep
    · simp only [splitAtChar, hc, if_true, List.mem_cons] at h
      rcases h with rfl | h
      · simp
      · exact ih h
    · simp only [splitAtChar, hc, if_false, hs, List.mem_cons] at h
      rcases h with rfl | h
      · simp only [List.mem_cons, not_or]
        exact ⟨Ne.symm hc, ih (by simp [hs])⟩
      · exact ih (by simp [hs, h])

/-- What is between the separators comes from the text. -/
theorem mem_of_mem_splitAtChar {sep c : Char} {l piece : List Char}
    (h : piece ∈ splitAtChar sep l) (hc : c ∈ piece) : c ∈ l := by
  induction l generalizing piece with
  | nil => simp_all [splitAtChar]
  | cons d rest ih =>
    obtain ⟨first, others, hs⟩ := List.exists_cons_of_ne_nil (splitAtChar_ne_nil sep rest)
    rw [hs] at ih
    unfold splitAtChar at h
    rw [hs] at h
    split at h
    · rcases List.mem_cons.mp h with rfl | h
      · cases hc
      · exact List.mem_cons_of_mem d (ih h hc)
    · rcases List.mem_cons.mp h with rfl | h
      · rcases List.mem_cons.mp hc with rfl | hc
        · exact List.mem_cons_self
        · exact List.mem_cons_of_mem d (ih List.mem_cons_self hc)
      · exact List.mem_cons_of_mem d (ih (List.mem_cons_of_mem first h) hc)

/-- The pieces of a text: the slash of the root parts nothing. -/
def cut (l : List Char) : List (List Char) :=
  splitAtChar '/' (if l.head? = some '/' then l.drop 1 else l)

theorem pieces_eq (p : LocalPath) : p.pieces = (cut p.code.toList).map String.ofList := by
  unfold pieces cut rooted
  by_cases h : p.code.toList.head? = some '/' <;> simp [h]

theorem not_slash_of_mem_pieces {piece : String} (h : piece ∈ p.pieces) : '/' ∉ piece.toList := by
  rw [pieces_eq] at h
  obtain ⟨l, hl, rfl⟩ := List.mem_map.mp h
  simpa using not_mem_of_mem_splitAtChar hl

/-- What follows a slash is a piece of its own, unless the slash is the root's. -/
theorem cut_append {l right : List Char} (hl : l ≠ []) (hr : '/' ∉ right) :
    cut (l ++ '/' :: right) = cut l ++ [right] := by
  obtain ⟨c, rest, rfl⟩ := List.exists_cons_of_ne_nil hl
  by_cases hc : c = '/'
  · simp [cut, hc, splitAtChar_append, splitAtChar_of_not_mem hr]
  · have := splitAtChar_append '/' (c :: rest) right
    rw [List.cons_append] at this
    simp [cut, hc, this, splitAtChar_of_not_mem hr]

theorem cut_of_not_mem {right : List Char} (hr : '/' ∉ right) : cut right = [right] := by
  have hhead : right.head? ≠ some '/' := fun h => hr (List.mem_of_mem_head? h)
  simp [cut, hhead, splitAtChar_of_not_mem hr]

theorem cut_root {right : List Char} (hr : '/' ∉ right) : cut ('/' :: right) = [right] := by
  simp [cut, splitAtChar_of_not_mem hr]

/-- The code of a joined path: the right side after the left one and a slash. Only
an empty left side has no slash after it. -/
theorem code_join (left : LocalPath) (h : '/' ∉ right.code.toList) :
    (left.code = "" ∧ (left.join right).code = right.code) ∨
      (∃ l, left.code.toList = l ++ ['/'] ∧
        (left.join right).code.toList = l ++ '/' :: right.code.toList) ∨
      (left.code ≠ "" ∧
        (left.join right).code.toList = left.code.toList ++ '/' :: right.code.toList) := by
  have hhead : right.code.toList.head? ≠ some '/' := fun hr => h (List.mem_of_mem_head? hr)
  by_cases hempty : left.code = ""
  · exact .inl ⟨hempty, by rw [join, if_neg hhead, if_pos (.inl hempty), hempty]; simp⟩
  · by_cases hlast : left.code.toList.getLast? = some '/'
    · obtain ⟨l, hl⟩ := List.getLast?_eq_some_iff.mp hlast
      refine .inr (.inl ⟨l, hl, ?_⟩)
      rw [join, if_neg hhead, if_pos (.inr hlast)]
      simp [hl]
    · refine .inr (.inr ⟨hempty, ?_⟩)
      rw [join, if_neg hhead, if_neg (not_or.mpr ⟨hempty, hlast⟩)]
      simp

/-- The last piece of a joined path is what was joined, and what stands before it
says what the left side says: the left side has at most an empty piece more. -/
theorem pieces_join (left : LocalPath) (h : '/' ∉ right.code.toList) :
    ∃ stem, (left.join right).pieces = stem ++ [right.code] ∧
      (left.pieces = stem ∨ left.pieces = stem ++ [""]) ∧
        (left.join right).rooted = left.rooted := by
  have hhead : right.code.toList.head? ≠ some '/' := fun hr => h (List.mem_of_mem_head? hr)
  rcases code_join left h with ⟨hl, ht⟩ | ⟨l, hl, ht⟩ | ⟨hl, ht⟩
  · refine ⟨[], ?_, .inr ?_, ?_⟩
    · simp [pieces_eq, ht, cut_of_not_mem h]
    · simp [pieces_eq, hl, cut_of_not_mem]
    · simp [rooted, ht, hl, hhead]
  · by_cases hroot : l = []
    · subst hroot
      refine ⟨[], ?_, .inr ?_, ?_⟩
      · simp [pieces_eq, ht, cut_root h]
      · simp [pieces_eq, hl, cut_root]
      · simp [rooted, ht, hl]
    · refine ⟨(cut l).map String.ofList, ?_, .inr ?_, ?_⟩
      · simp [pieces_eq, ht, cut_append hroot h]
      · simp [pieces_eq, hl, cut_append hroot]
      · obtain ⟨c, rest, rfl⟩ := List.exists_cons_of_ne_nil hroot
        simp [rooted, ht, hl]
  · have hne : left.code.toList ≠ [] := fun e => hl (String.toList_inj.mp (by simp [e]))
    refine ⟨left.pieces, ?_, .inl rfl, ?_⟩
    · simp [pieces_eq, ht, cut_append hne h]
    · obtain ⟨c, rest, hc⟩ := List.exists_cons_of_ne_nil hne
      simp [rooted, ht, hc]

/-- A joined path starts where its left side starts. -/
theorem start_join (cwd : Location) (left : LocalPath) (h : '/' ∉ right.code.toList) :
    FileTree.start cwd (left.join right) = FileTree.start cwd left := by
  obtain ⟨stem, -, -, hr⟩ := pieces_join left h
  simp [FileTree.start, hr]

/-- A joined name is looked for where the left side leads. -/
theorem location_join (h : '/' ∉ right.code.toList) :
    (left.join right).location cwd = follow (left.location cwd) right.code := by
  obtain ⟨stem, hp, hl, -⟩ := pieces_join left h
  have hstem : left.pieces.foldl follow (FileTree.start cwd left) =
      stem.foldl follow (FileTree.start cwd left) := by
    rcases hl with hl | hl <;> simp [hl]
  unfold location
  rw [hp, start_join cwd left h, List.foldl_append, hstem]
  rfl

theorem descends_join (h : '/' ∉ right.code.toList) (hup : right.code ≠ "..") (hl : left.Descends) :
    (left.join right).Descends := by
  obtain ⟨stem, hp, hs, -⟩ := pieces_join left h
  rw [descends_iff] at hl ⊢
  rw [hp]
  rcases hs with hs | hs <;> simp_all [Ne.symm hup]

/-- A path that has a name in it is not empty. -/
theorem code_ne_of_mem_pieces {piece : String} (h : piece ∈ p.pieces) (hne : piece ≠ "") :
    p.code ≠ "" := by
  intro e
  have hempty : p.pieces = [""] := by simp [pieces_eq, e, cut, splitAtChar]
  rw [hempty, List.mem_singleton] at h
  exact hne h

/-- A path whose last piece is a name, looked for at a location. -/
def EndsIn (cwd : Location) (p : LocalPath) (here : Location) (name : String) : Prop :=
  ∃ stem, p.pieces = stem ++ [name] ∧ stem.foldl follow (FileTree.start cwd p) = here ∧
    isStep name = true

theorem EndsIn.code_ne (h : p.EndsIn cwd here name) : p.code ≠ "" := by
  obtain ⟨stem, hp, -, hname⟩ := h
  have hmem : name ∈ p.pieces := by simp [hp]
  refine code_ne_of_mem_pieces hmem ?_
  rintro rfl
  cases hname

theorem EndsIn.location (h : p.EndsIn cwd here name) (hp : p.Descends) :
    p.location cwd = name :: here := by
  obtain ⟨stem, hpieces, hstem, hname⟩ := h
  have hup : name ≠ ".." := by
    rintro rfl
    exact descends_iff.mp hp (by simp [hpieces])
  have hname' : name ≠ "" ∧ name ≠ "." := by simpa [isStep] using hname
  rw [LocalPath.location, hpieces, List.foldl_append, hstem]
  exact follow_name hname'.1 hname'.2 hup

/-- A joined name is looked for where the left side leads. -/
theorem endsIn_join (left : LocalPath) (hslash : '/' ∉ right.code.toList)
    (hstep : isStep right.code = true) :
    (left.join right).EndsIn cwd (left.location cwd) right.code := by
  obtain ⟨stem, hp, hl, -⟩ := pieces_join left hslash
  refine ⟨stem, hp, ?_, hstep⟩
  rw [start_join cwd left hslash]
  rcases hl with hl | hl <;> simp [LocalPath.location, hl]

/-! ## §4 Parents -/

/-- Only silent pieces are dropped, and only from the end that is looked at. -/
theorem dropSilent_spec (rooted : Bool) (l : List String) :
    ∃ dropped, l = dropped ++ dropSilent rooted l ∧ ∀ piece ∈ dropped, isStep piece = false := by
  induction l with
  | nil => exact ⟨[], rfl, by simp⟩
  | cons piece before ih =>
    unfold dropSilent
    split
    · rename_i hp
      obtain ⟨dropped, hd, hs⟩ := ih
      refine ⟨piece :: dropped, by rw [List.cons_append, ← hd], ?_⟩
      have hpiece : isStep piece = false := by rcases hp with rfl | ⟨rfl, -⟩ <;> rfl
      simpa [hpiece] using hs
    · exact ⟨[], rfl, by simp⟩

theorem splitAtChar_intercalate {sep : Char} {ls : List (List Char)} (hne : ls ≠ [])
    (h : ∀ l ∈ ls, sep ∉ l) : splitAtChar sep ([sep].intercalate ls) = ls := by
  induction ls with
  | nil => exact absurd rfl hne
  | cons l rest ih =>
    rcases rest with _ | ⟨m, rest⟩
    · simpa using splitAtChar_of_not_mem (h l (by simp))
    · have hrest := ih (by simp) fun k hk => h k (by simp [hk])
      have hcons : [sep].intercalate (l :: m :: rest) =
          l ++ sep :: [sep].intercalate (m :: rest) := by
        simp [List.intercalate]
      rw [hcons, splitAtChar_append, splitAtChar_of_not_mem (h l (by simp)), hrest]
      rfl

/-- The first piece of a path that is not empty and does not start at the root
is not empty. -/
theorem head_pieces_ne (hr : p.rooted = false) (ht : p.code ≠ "") : p.pieces.head? ≠ some "" := by
  have hne : p.code.toList ≠ [] := fun e => ht (String.toList_inj.mp (by simp [e]))
  obtain ⟨c, rest, hL⟩ := List.exists_cons_of_ne_nil hne
  have hc : c ≠ '/' := by simpa [rooted, hL] using hr
  obtain ⟨first, others, hs⟩ := List.exists_cons_of_ne_nil (splitAtChar_ne_nil '/' rest)
  simp [pieces_eq, cut, hL, hc, splitAtChar, hs, ← String.toList_inj]

/-- The pieces that a path is made of are its pieces, if they can be those of a
path at all; without any the path has one that is empty. -/
theorem pieces_ofPieces {rooted : Bool} {ps : List String} (hs : ∀ piece ∈ ps, '/' ∉ piece.toList)
    (hh : rooted = true ∨ ps.head? ≠ some "") :
    (ofPieces rooted ps).rooted = rooted ∧
      (ofPieces rooted ps).pieces = if ps = [] then [""] else ps := by
  have hinter : splitAtChar '/' (['/'].intercalate (ps.map String.toList)) =
      if ps = [] then [[]] else ps.map String.toList := by
    split
    · rename_i h
      simp [h, splitAtChar, List.intercalate]
    · rename_i h
      exact splitAtChar_intercalate (by simpa using h) (by simpa using hs)
  have htext : (ofPieces rooted ps).code.toList =
      (if rooted then ['/'] else []) ++ ['/'].intercalate (ps.map String.toList) := by
    cases rooted <;> simp [ofPieces, String.toList_intercalate]
  have hcut : (ofPieces rooted ps).rooted = rooted ∧ cut (ofPieces rooted ps).code.toList =
      splitAtChar '/' (['/'].intercalate (ps.map String.toList)) := by
    cases rooted with
    | true => simp [LocalPath.rooted, cut, htext]
    | false =>
      have hstart : (['/'].intercalate (ps.map String.toList)).head? ≠ some '/' := by
        rcases ps with _ | ⟨first, rest⟩
        · simp [List.intercalate]
        · have hfirst : first.toList ≠ [] := fun e => hh.resolve_left (by simp) (by
            simp [String.toList_inj.mp (show first.toList = "".toList by simp [e])])
          obtain ⟨c, more, hc⟩ := List.exists_cons_of_ne_nil hfirst
          have hslash : c ≠ '/' := fun e => hs first (by simp) (by simp [hc, e])
          cases rest <;> simp [List.intercalate, hc, hslash]
      simp [LocalPath.rooted, cut, htext, hstart]
  refine ⟨hcut.1, ?_⟩
  rw [pieces_eq, hcut.2, hinter]
  split <;> simp

/-- Pieces that lead a path no further do not follow its last component. -/
theorem pieces_of_significant {last : String} {before : List String}
    (h : p.significant = last :: before) :
    ∃ silent, p.pieces = before.reverse ++ last :: silent ∧ silent.filter isStep = [] := by
  obtain ⟨dropped, hd, hsilent⟩ := dropSilent_spec p.rooted p.pieces.reverse
  rw [show dropSilent p.rooted p.pieces.reverse = last :: before from h] at hd
  refine ⟨dropped.reverse, ?_, ?_⟩
  · rw [← List.reverse_inj, hd]
    simp
  · simpa using hsilent

theorem code_ne_of_significant {last : String} {before : List String}
    (h : p.significant = last :: before) : p.code ≠ "" := by
  intro e
  simp [significant, pieces_eq, e, rooted, cut, splitAtChar, dropSilent] at h

/-- First pieces of a path are the pieces of a path. -/
theorem pieces_ofPieces_of_append {ps rest : List String} (ht : p.code ≠ "")
    (hp : p.pieces = ps ++ rest) :
    (ofPieces p.rooted ps).rooted = p.rooted ∧
      (ofPieces p.rooted ps).pieces = if ps = [] then [""] else ps := by
  refine pieces_ofPieces (fun piece hmem => ?_) ?_
  · exact not_slash_of_mem_pieces (hp ▸ List.mem_append_left _ hmem)
  · by_cases hr : p.rooted = true
    · exact .inl hr
    · refine .inr fun hhead => head_pieces_ne (by simpa using hr) ht ?_
      rw [hp, List.head?_append, hhead]
      rfl

/-- What a parent is made of: the first pieces of the path. What follows them is one
piece, and pieces that lead no further. -/
theorem parent_split (h : p.parent = some q) :
    ∃ last before more silent, p.significant = last :: before ∧
      q = ofPieces p.rooted (dropSilent p.rooted before).reverse ∧
      p.pieces = (dropSilent p.rooted before).reverse ++ (more ++ last :: silent) ∧
      more.filter isStep = [] ∧ silent.filter isStep = [] := by
  unfold parent at h
  split at h
  · rename_i last before hsig
    obtain ⟨silent, hp, hsilent⟩ := pieces_of_significant hsig
    obtain ⟨more, hm, hmore⟩ := dropSilent_spec p.rooted before
    refine ⟨last, before, more.reverse, silent, hsig, (Option.some.inj h).symm, ?_, ?_, hsilent⟩
    · rw [hp, ← List.append_assoc, ← List.reverse_append, ← hm]
    · simpa using hmore
  · cases h

/-- A parent starts where the path starts, and its names are those of the path but
for the piece that the path ends with. -/
theorem parent_ok (h : p.parent = some q) :
    q.rooted = p.rooted ∧ (∀ piece ∈ q.pieces, piece = "" ∨ piece ∈ p.pieces) ∧
      ∃ last, p.significant.head? = some last ∧ p.names = q.names ++ [last].filter isStep := by
  obtain ⟨last, before, more, silent, hsig, rfl, hsplit, hmore, hsilent⟩ := parent_split h
  obtain ⟨hroot, hq⟩ := pieces_ofPieces_of_append (code_ne_of_significant hsig) hsplit
  have hnames : (ofPieces p.rooted (dropSilent p.rooted before).reverse).names =
      (dropSilent p.rooted before).reverse.filter isStep := by
    unfold names
    rw [hq]
    split
    · rename_i hnil
      simp [hnil, isStep]
    · rfl
  refine ⟨hroot, fun piece hmem => ?_, last, by simp [hsig], ?_⟩
  · rw [hq] at hmem
    split at hmem
    · exact .inl (by simpa using hmem)
    · exact .inr (hsplit ▸ List.mem_append_left _ hmem)
  · rw [hnames, names, hsplit, List.filter_append, List.filter_append, hmore, List.nil_append,
      ← List.singleton_append, List.filter_append, hsilent, List.append_nil]

theorem descends_parent (h : p.parent = some q) (hp : p.Descends) : q.Descends := by
  obtain ⟨-, hpieces, -⟩ := parent_ok h
  rw [descends_iff] at hp ⊢
  intro hup
  rcases hpieces _ hup with e | hmem
  · exact absurd e (by decide)
  · exact hp hmem

/-- Going to a parent goes up, or stays. -/
theorem within_location_parent (h : p.parent = some q) (hp : p.Descends) :
    within (q.location cwd) (p.location cwd) = true := by
  obtain ⟨hr, -, last, -, hnames⟩ := parent_ok h
  have hstart : FileTree.start cwd q = FileTree.start cwd p := by simp [FileTree.start, hr]
  rw [within_iff, location_of_descends (descends_parent h hp), location_of_descends hp, hnames,
    hstart, List.reverse_append, List.append_assoc]
  exact List.suffix_append _ _

/-- A last piece that leads somewhere is the last component. -/
theorem significant_of_pieces {stem : List String} (hpieces : p.pieces = stem ++ [name])
    (hname : isStep name = true) : p.significant = name :: stem.reverse := by
  have hsilent : ¬ (name = "" ∨ (name = "." ∧ (p.rooted = true ∨ stem.reverse ≠ []))) := by
    have hname' : name ≠ "" ∧ name ≠ "." := by simpa [isStep] using hname
    simp [hname'.1, hname'.2]
  rw [significant, hpieces, List.reverse_append]
  exact if_neg hsilent

/-- A path that ends with a name has a parent, and the parent leads to where the name
is looked for. -/
theorem parent_of_endsIn (h : p.EndsIn cwd here name)
    (hp : p.Descends) :
    ∃ q, p.parent = some q ∧ q.location cwd = here ∧ q.rooted = p.rooted ∧
      p.names = q.names ++ [name] := by
  have hloc := h.location hp
  obtain ⟨stem, hpieces, -, hname⟩ := h
  have hsig := significant_of_pieces hpieces hname
  obtain ⟨q, hq⟩ : ∃ q, p.parent = some q := by simp [parent, hsig]
  obtain ⟨hroot, -, last, hlast, hnames⟩ := parent_ok hq
  obtain rfl : name = last := by simpa [hsig] using hlast
  rw [List.filter_cons_of_pos hname, List.filter_nil] at hnames
  refine ⟨q, hq, ?_, hroot, hnames⟩
  have hstart : FileTree.start cwd q = FileTree.start cwd p := by simp [FileTree.start, hroot]
  rw [location_of_descends hp, hnames, List.reverse_append, ← hstart] at hloc
  rw [location_of_descends (descends_parent hq hp)]
  exact (List.cons.inj hloc).2

/-- The parent of a name that is joined to a path that ends with a name is this path, whatever
the joined name is. -/
theorem parent_join {stem : List String} (hpieces : left.pieces = stem ++ [name])
    (hname : isStep name = true) (hs : '/' ∉ right.code.toList) (hr : isStep right.code = true) :
    (left.join right).parent = some (ofPieces left.rooted left.pieces) := by
  obtain ⟨stem', hjoin, hleft, hrooted⟩ := pieces_join left hs
  have hkept : stem' = left.pieces := by
    rcases hleft with hleft | hleft
    · exact hleft.symm
    · have hlast : name = "" := by simpa using congrArg List.getLast? (hpieces.symm.trans hleft)
      rw [hlast] at hname
      cases hname
  have hsilent : dropSilent left.rooted left.pieces.reverse = left.pieces.reverse := by
    have hsig := significant_of_pieces hpieces hname
    rw [significant] at hsig
    rw [hsig, hpieces, List.reverse_append]
    rfl
  rw [parent, significant_of_pieces hjoin hr, hkept, hrooted]
  dsimp only
  rw [hsilent, List.reverse_reverse]

/-- The parent of a joined name is where the name was joined. -/
theorem location_parent_join (hs : '/' ∉ right.code.toList) (hr : isStep right.code = true)
    (hup : right.code ≠ "..") (hl : left.Descends) (h : (left.join right).parent = some q) :
    q.location cwd = left.location cwd := by
  have hends : (left.join right).EndsIn cwd (left.location cwd) right.code :=
    endsIn_join left hs hr
  obtain ⟨q', hq', hloc, -, -⟩ := parent_of_endsIn hends (descends_join hs hup hl)
  obtain rfl : q' = q := Option.some.inj (hq'.symm.trans h)
  exact hloc

/-- A path that has no name in it or ends with one: no dot and no slash follows its
last name. -/
def Trimmed (p : LocalPath) : Prop :=
  p.names = [] ∨ ∃ stem name, p.pieces = stem ++ [name] ∧ isStep name = true

theorem EndsIn.trimmed (h : p.EndsIn cwd here name) : p.Trimmed := by
  obtain ⟨stem, hpieces, -, hname⟩ := h
  exact .inr ⟨stem, name, hpieces, hname⟩

/-- What is left when silent pieces are dropped starts with a name, or is the dot
that starts a path. -/
theorem dropSilent_cons {rooted : Bool} {l before : List String} {piece : String}
    (h : dropSilent rooted l = piece :: before) :
    isStep piece = true ∨ (piece = "." ∧ before = []) := by
  induction l with
  | nil => cases h
  | cons first rest ih =>
    unfold dropSilent at h
    split at h
    · exact ih h
    · rename_i hkeep
      obtain ⟨rfl, rfl⟩ := List.cons.inj h
      simp only [not_or, not_and, ne_eq] at hkeep
      by_cases hdot : first = "."
      · refine .inr ⟨hdot, ?_⟩
        by_contra hne
        exact (hkeep.2 hdot).2 hne
      · exact .inl (by simp [isStep, hkeep.1, hdot])

/-- Parents are trimmed. -/
theorem trimmed_parent (h : p.parent = some q) : q.Trimmed := by
  obtain ⟨last, before, more, silent, hsig, rfl, hsplit, -, -⟩ := parent_split h
  obtain ⟨-, hpieces⟩ := pieces_ofPieces_of_append (code_ne_of_significant hsig) hsplit
  cases hleft : dropSilent p.rooted before with
  | nil =>
    have hblank : (ofPieces p.rooted [].reverse).pieces = [""] := by simpa [hleft] using hpieces
    refine .inl ?_
    rw [names, hblank]
    rfl
  | cons piece first =>
    rw [hleft] at hpieces
    have hlast : (ofPieces p.rooted (piece :: first).reverse).pieces =
        first.reverse ++ [piece] := by simpa using hpieces
    rcases dropSilent_cons hleft with hstep | ⟨rfl, rfl⟩
    · exact .inr ⟨first.reverse, piece, hlast, hstep⟩
    · refine .inl ?_
      rw [names, hlast]
      rfl

/-- A trimmed path has no names, or it ends with one and its parent has one less. -/
theorem Trimmed.names_nil_or_parent (h : p.Trimmed) (hp : p.Descends) (cwd : Location) :
    p.names = [] ∨ ∃ q name, p.EndsIn cwd (q.location cwd) name ∧ p.parent = some q ∧
      FileTree.start cwd q = FileTree.start cwd p ∧ q.names.length < p.names.length := by
  obtain hnames | ⟨stem, name, hpieces, hstep⟩ := h
  · exact .inl hnames
  · have hends : p.EndsIn cwd (stem.foldl follow (FileTree.start cwd p)) name :=
      ⟨stem, hpieces, rfl, hstep⟩
    obtain ⟨q, hq, hloc, hroot, hnames⟩ := parent_of_endsIn hends hp
    exact .inr ⟨q, name, hloc.symm ▸ hends, hq, by simp [FileTree.start, hroot], by simp [hnames]⟩

/-- The locations of a path and of the paths above it, where directories are made
for it. -/
def OnWay (cwd : Location) (p : LocalPath) (l : Location) : Prop :=
  ∃ q ∈ p.ancestors, l = q.location cwd

theorem within_of_mem_ancestorsUpTo {count : Nat} (hp : p.Descends)
    (h : q ∈ p.ancestorsUpTo count) : within (q.location cwd) (p.location cwd) = true := by
  induction count generalizing p with
  | zero => simp [ancestorsUpTo] at h
  | succ count ih =>
    simp only [ancestorsUpTo, List.mem_cons] at h
    rcases h with rfl | h
    · exact within_self _
    · split at h
      · rename_i parent hparent
        exact within_trans (ih (descends_parent hparent hp) h)
          (within_location_parent hparent hp)
      · cases h

/-- The way to a path that never goes up leads through the directories that its
location is in. -/
theorem within_of_onWay {l : Location} (hp : p.Descends) (h : p.OnWay cwd l) :
    within l (p.location cwd) = true := by
  obtain ⟨q, h, rfl⟩ := h
  exact within_of_mem_ancestorsUpTo hp h

/-! ## §5 Fitting -/

/-- A path that the system takes: no NUL in it, and neither it nor a name in it
too long. -/
structure Fits (p : LocalPath) : Prop where
  nul_free : ∀ piece ∈ p.pieces, (OsText.mk piece).holdsNul = false
  short : p.os.size ≤ longestPath
  names_short : ∀ piece ∈ p.pieces, (OsText.mk piece).size ≤ longestName

theorem fits_iff (p : LocalPath) : p.Fits ↔
    (∀ piece ∈ p.pieces, (OsText.mk piece).holdsNul = false) ∧ p.os.size ≤ longestPath ∧
      ∀ piece ∈ p.pieces, (OsText.mk piece).size ≤ longestName :=
  ⟨fun h => ⟨h.1, h.2, h.3⟩, fun h => ⟨h.1, h.2.1, h.2.2⟩⟩

instance (p : LocalPath) : Decidable p.Fits := decidable_of_iff' _ p.fits_iff

theorem check_ok (hf : p.Fits) (hne : p.code ≠ "") : p.check = .ok () := by
  have hnul : (p.pieces.any fun piece => (OsText.mk piece).holdsNul) = false := by
    simpa using hf.nul_free
  rw [check, hnul, if_neg Bool.false_ne_true, if_neg hne, if_neg (Nat.not_lt.mpr hf.short)]

theorem intercalate_splitAtChar (sep : Char) (l : List Char) :
    [sep].intercalate (splitAtChar sep l) = l := by
  induction l with
  | nil => rfl
  | cons c rest ih =>
    obtain ⟨piece, pieces, hs⟩ := List.exists_cons_of_ne_nil (splitAtChar_ne_nil sep rest)
    rw [hs] at ih
    by_cases hc : c = sep
    · simpa [splitAtChar, hc, hs, List.intercalate] using ih
    · cases pieces <;> simpa [splitAtChar, hc, hs, List.intercalate] using ih

/-- A path is made of its pieces. -/
theorem code_toList (p : LocalPath) :
    p.code.toList =
      (if p.rooted then ['/'] else []) ++ ['/'].intercalate (p.pieces.map String.toList) := by
  have hcut : p.pieces.map String.toList = cut p.code.toList := by simp [pieces_eq]
  rw [hcut, cut, intercalate_splitAtChar, rooted]
  by_cases h : p.code.toList.head? = some '/'
  · obtain ⟨rest, hrest⟩ : ∃ rest, p.code.toList = '/' :: rest := by
      cases hl : p.code.toList with
      | nil => simp [hl] at h
      | cons c rest =>
        rw [hl] at h
        exact ⟨rest, by simpa using h⟩
    simp [hrest]
  · simp [h]

theorem prefix_intercalate {α : Type} (sep : List α) (first rest : List (List α)) :
    sep.intercalate first <+: sep.intercalate (first ++ rest) := by
  induction first with
  | nil => exact List.nil_prefix
  | cons l more ih =>
    cases more with
    | nil =>
      cases rest with
      | nil => exact List.prefix_rfl
      | cons m others =>
        rw [List.singleton_append, List.intercalate_cons_cons, List.intercalate_singleton]
        exact List.append_assoc .. ▸ List.prefix_append _ _
    | cons m others =>
      rw [List.cons_append, List.cons_append, List.intercalate_cons_cons,
        List.intercalate_cons_cons]
      exact (List.prefix_append_right_inj _).mpr ih

/-- A path of the first pieces of a path starts its text. -/
theorem prefix_ofPieces {ps rest : List String} (h : p.pieces = ps ++ rest) :
    (ofPieces p.rooted ps).code.toList <+: p.code.toList := by
  have hof : (ofPieces p.rooted ps).code.toList =
      (if p.rooted then ['/'] else []) ++ ['/'].intercalate (ps.map String.toList) := by
    cases p.rooted <;> simp [ofPieces, String.toList_intercalate]
  rw [hof, code_toList p, h, List.map_append]
  exact (List.prefix_append_right_inj _).mpr (prefix_intercalate _ _ _)

/-- What starts a fitting path is short enough. -/
theorem short_of_start (hf : p.Fits) (h : q.code.toList <+: p.code.toList) :
    q.os.size ≤ longestPath := by
  obtain ⟨rest, hrest⟩ := h
  have hsize : q.os.size ≤ p.os.size := by
    unfold OsText.size
    rw [show p.os.code.toList = q.os.code.toList ++ rest from hrest.symm]
    exact OsText.sizeOfCode_le_append _ _
  exact hsize.trans hf.short

/-- The parent of a fitting path fits. -/
theorem fits_parent (h : p.parent = some q) (hf : p.Fits) : q.Fits := by
  obtain ⟨-, hpieces, -⟩ := parent_ok h
  obtain ⟨last, before, more, silent, -, rfl, hsplit, -, -⟩ := parent_split h
  refine ⟨fun piece hpiece => ?_, short_of_start hf (prefix_ofPieces hsplit),
    fun piece hpiece => ?_⟩
  · rcases hpieces piece hpiece with rfl | hin
    · rfl
    · exact hf.nul_free piece hin
  · rcases hpieces piece hpiece with rfl | hin
    · exact Nat.zero_le _
    · exact hf.names_short piece hin

/-- A path that does not go up and fits. -/
structure Usable (p : LocalPath) : Prop where
  descends : p.Descends
  fits : p.Fits

theorem usable_parent (h : p.parent = some q) (hp : p.Usable) : q.Usable :=
  ⟨descends_parent h hp.descends, fits_parent h hp.fits⟩

/-- There are no more pieces with something in them than characters. -/
theorem countP_splitAtChar (sep : Char) (l : List Char) :
    (splitAtChar sep l).countP (fun piece => piece != []) ≤ l.length := by
  induction l with
  | nil => simp [splitAtChar]
  | cons c rest ih =>
    obtain ⟨piece, pieces, hs⟩ := List.exists_cons_of_ne_nil (splitAtChar_ne_nil sep rest)
    by_cases hc : c = sep
    · simp only [splitAtChar, hc, if_true, List.countP_cons, List.length_cons]
      simp only [bne_self_eq_false, Bool.false_eq_true, if_false]
      omega
    · rw [hs] at ih
      simp only [splitAtChar, hc, if_false, hs, List.countP_cons, List.length_cons] at ih ⊢
      have hfirst : (c :: piece != []) = true := rfl
      rw [if_pos hfirst]
      omega

theorem length_names_le (p : LocalPath) : p.names.length ≤ p.code.length := by
  have hcut : (cut p.code.toList).countP (fun piece => piece != []) ≤ p.code.toList.length := by
    unfold cut
    split
    · exact (countP_splitAtChar _ _).trans (by simp)
    · exact countP_splitAtChar _ _
  have hnames : p.names.length ≤ (cut p.code.toList).countP (fun piece => piece != []) := by
    rw [names, ← List.countP_eq_length_filter, pieces_eq, List.countP_map]
    refine List.countP_mono_left fun piece _ hstep => ?_
    rw [bne_iff_ne]
    rintro rfl
    cases hstep
  rw [← String.length_toList]
  exact hnames.trans hcut

-- From here on a location is what these lemmas say of it; no tactic is to compute one.
attribute [irreducible] location

end LocalPath

end ReleaseKit
