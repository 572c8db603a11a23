/-
ReleaseKit.Proofs.Encoding — strings and bytes as texts of the system.

What a system hands over is kept as a code, and that says what it should only if nothing is
lost on the way: every sequence of bytes has a code, which stands for these bytes again
(`OsText.bytes_ofBytes`), and the texts that are strings are exactly the codes of strings
(`OsText.text?_eq_some`). A code is read two characters at a time where a byte stands in it, so
what is proved of codes is proved along `bytesOfCode` and its kind.

  §1 Strings  — the code of a string, and what it is shown as.
  §2 Bytes    — the bytes of a code, and their number.
-/
import ReleaseKit.OsText

namespace ReleaseKit.OsText

variable {s t : String} {c : Char}

/-! ## §1 Strings -/

/-- A string without a NUL in it is its own code. -/
theorem encode_of_not_mem (h : mark ∉ s.toList) : encode s = s := if_neg h

theorem toList_encode (s : String) : (encode s).toList = s.toList.flatMap encodeChar := by
  unfold encode
  split
  · rw [String.toList_ofList]
  · next hmark =>
    have hone : ∀ l : List Char, mark ∉ l → l = l.flatMap encodeChar := by
      intro l
      induction l with
      | nil => exact fun _ => rfl
      | cons c rest ih =>
        intro hl
        rw [List.mem_cons, not_or] at hl
        rw [List.flatMap_cons, ← ih hl.2, encodeChar, if_neg (Ne.symm hl.1)]
        rfl
    exact hone _ hmark

@[simp] theorem code_ofString (s : String) : (ofString s).code = encode s := rfl

theorem encode_append (s t : String) : encode (s ++ t) = encode s ++ encode t := by
  rw [← String.toList_inj]
  simp [toList_encode]

/-- Encoding keeps all characters and brings in none. -/
@[simp] theorem mem_encode : c ∈ (encode s).toList ↔ c ∈ s.toList := by
  rw [toList_encode, List.mem_flatMap]
  constructor
  · rintro ⟨d, hd, hc⟩
    unfold encodeChar at hc
    split at hc
    · next heq =>
      obtain rfl : c = d := by simpa [heq] using hc
      exact hd
    · exact List.mem_singleton.mp hc ▸ hd
  · refine fun hc => ⟨c, hc, ?_⟩
    unfold encodeChar
    split
    · next heq => simp [heq]
    · simp

/-- A string can be read off its code. -/
theorem charsOfCode?_flatMap (l : List Char) : charsOfCode? (l.flatMap encodeChar) = some l := by
  induction l with
  | nil => rfl
  | cons c rest ih =>
    rw [List.flatMap_cons]
    by_cases hc : c = mark
    · simp [encodeChar, hc, charsOfCode?, ih]
    · rw [encodeChar, if_neg hc, List.singleton_append]
      cases hrest : rest.flatMap encodeChar with
      | nil =>
        rw [hrest] at ih
        obtain rfl : [] = rest := Option.some.inj ih
        simp [charsOfCode?, hc]
      | cons d more =>
        rw [hrest] at ih
        simp [charsOfCode?, hc, ih]

theorem flatMap_of_charsOfCode? {l chars : List Char} (h : charsOfCode? l = some chars) :
    chars.flatMap encodeChar = l := by
  induction l using charsOfCode?.induct generalizing chars with
  | case1 =>
    obtain rfl := Option.some.inj h
    rfl
  | case2 => simp [charsOfCode?] at h
  | case3 c hc =>
    rw [charsOfCode?, if_neg hc] at h
    obtain rfl := Option.some.inj h
    simp [encodeChar, hc]
  | case4 rest ih =>
    simp only [charsOfCode?, if_true, Option.map_eq_some_iff] at h
    obtain ⟨more, hmore, rfl⟩ := h
    rw [List.flatMap_cons, ih hmore]
    rfl
  | case5 d rest hd => simp [charsOfCode?, hd] at h
  | case6 c d rest hc ih =>
    simp only [charsOfCode?, if_neg hc, Option.map_eq_some_iff] at h
    obtain ⟨more, hmore, rfl⟩ := h
    rw [List.flatMap_cons, ih hmore, encodeChar, if_neg hc]
    rfl

/-- The texts that are strings are the codes of strings. -/
theorem text?_eq_some {text : OsText} : text.text? = some s ↔ text = ofString s := by
  unfold text? ofString
  constructor
  · intro h
    obtain ⟨chars, hchars, rfl⟩ := Option.map_eq_some_iff.mp h
    obtain ⟨code⟩ := text
    rw [mk.injEq, ← String.toList_inj, toList_encode, String.toList_ofList,
      flatMap_of_charsOfCode? hchars]
  · rintro rfl
    rw [toList_encode, charsOfCode?_flatMap]
    simp

@[simp] theorem text?_ofString (s : String) : (ofString s).text? = some s := text?_eq_some.mpr rfl

/-- All of a string shows. -/
theorem charsShown_flatMap (skip : Nat) (l : List Char) :
    charsShown skip (l.flatMap encodeChar) = l := by
  induction l generalizing skip with
  | nil => rfl
  | cons c rest ih =>
    rw [List.flatMap_cons]
    by_cases hc : c = mark
    · simp [encodeChar, hc, charsShown, ih]
    · rw [encodeChar, if_neg hc, List.singleton_append]
      cases hrest : rest.flatMap encodeChar with
      | nil =>
        have hshown := ih 0
        rw [hrest] at hshown
        obtain rfl : [] = rest := hshown
        simp [charsShown, hc]
      | cons d more =>
        have hshown := ih 0
        rw [hrest] at hshown
        simp [charsShown, hc, hshown]

@[simp] theorem shown_ofString (s : String) : (ofString s).shown = s := by
  rw [shown, code_ofString, toList_encode, charsShown_flatMap, String.ofList_toList]

theorem isText_iff {text : OsText} : text.isText = true ↔ ∃ s : String, text = ofString s := by
  simp only [isText, Option.isSome_iff_exists, text?_eq_some]

@[simp] theorem isText_ofString (s : String) : (ofString s).isText = true :=
  isText_iff.mpr ⟨s, rfl⟩

theorem ofString_injective : Function.Injective ofString := by
  intro s t h
  rw [← shown_ofString s, h, shown_ofString]

@[simp] theorem ofString_inj : ofString s = ofString t ↔ s = t := ofString_injective.eq_iff

@[simp] theorem encode_inj : encode s = encode t ↔ s = t :=
  ⟨fun h => ofString_injective (congrArg mk h), congrArg encode⟩

/-- A code is at least as long as the text. -/
theorem length_le_length_encode (s : String) : s.length ≤ (encode s).length := by
  have hchars : ∀ l : List Char, l.length ≤ (l.flatMap encodeChar).length := by
    intro l
    induction l with
    | nil => exact Nat.le_refl 0
    | cons c rest ih =>
      have hone : 1 ≤ (encodeChar c).length := by
        unfold encodeChar
        split <;> simp
      rw [List.flatMap_cons, List.length_append, List.length_cons]
      omega
  rw [← String.length_toList, ← String.length_toList, toList_encode]
  exact hchars s.toList

/-- Of a literal without a NUL, the code can be compared as the string. -/
theorem encode_eq_iff (h : mark ∉ t.toList) : encode s = t ↔ s = t := by
  have hcode : encode s = encode t ↔ s = t := encode_inj
  rwa [encode_of_not_mem h] at hcode

@[simp] theorem encode_eq_empty : encode s = "" ↔ s = "" := encode_eq_iff (by decide)

@[simp] theorem encode_eq_here : encode s = "." ↔ s = "." := encode_eq_iff (by decide)

@[simp] theorem encode_eq_up : encode s = ".." ↔ s = ".." := encode_eq_iff (by decide)

/-- A code begins with the character that its string begins with. -/
theorem head?_encode (s : String) : (encode s).toList.head? = s.toList.head? := by
  rw [toList_encode]
  cases s.toList with
  | nil => rfl
  | cons c rest =>
    rw [List.flatMap_cons, encodeChar]
    split
    · next heq => simp [heq]
    · rfl

/-- What is shown are characters of the code, but for those that replace others. -/
theorem mem_of_mem_charsShown {skip : Nat} {l : List Char} (h : c ∈ charsShown skip l)
    (hc : c ≠ Text.replacement) : c ∈ l := by
  induction skip, l using charsShown.induct with
  | case1 => simp [charsShown] at h
  | case2 => simp_all [charsShown]
  | case3 skip rest ih =>
    simp only [charsShown, if_true, List.mem_cons] at h ⊢
    exact h.imp_right fun h => .inr (ih h)
  | case4 d rest hd skip ih =>
    rw [charsShown, if_pos rfl, if_neg hd] at h
    simp [ih h]
  | case5 d rest hd more ih =>
    rw [charsShown, if_pos rfl, if_neg hd, List.mem_cons] at h
    simp [ih (h.resolve_left hc)]
  | case6 skip d e rest hd ih =>
    simp only [charsShown, if_neg hd, List.mem_cons] at h
    exact List.mem_cons.mpr (h.imp_right ih)

/-- A code of which nothing is replaced is what is shown. -/
theorem eq_of_charsShown {l shown : List Char} (h : charsShown 0 l = shown)
    (hreplacement : Text.replacement ∉ shown) (hmark : mark ∉ shown) : l = shown := by
  subst h
  induction l using charsOfCode?.induct with
  | case1 => rfl
  | case2 => simp [charsShown] at hreplacement
  | case3 c hc => simp [charsShown, hc]
  | case4 rest ih => simp [charsShown] at hmark
  | case5 d rest hd => simp [charsShown, hd] at hreplacement
  | case6 c d rest hc ih =>
    simp only [charsShown, if_neg hc, List.mem_cons, not_or] at hreplacement hmark ⊢
    rw [← ih hreplacement.2 hmark.2]

/-- A NUL of a string is a NUL among its bytes. -/
theorem holdsNul_ofString : (ofString s).holdsNul = true ↔ mark ∈ s.toList := by
  have hchars : ∀ l : List Char, nulInCode (l.flatMap encodeChar) = true ↔ mark ∈ l := by
    intro l
    induction l with
    | nil => simp [nulInCode]
    | cons c rest ih =>
      by_cases hc : c = mark
      · have hsmall : mark.toNat < 128 := by decide
        simp [encodeChar, hc, nulInCode, hsmall]
      · rw [List.flatMap_cons, encodeChar, if_neg hc, List.singleton_append, List.mem_cons, ← ih]
        cases rest.flatMap encodeChar <;> simp [nulInCode, hc, Ne.symm hc]
  rw [holdsNul, code_ofString, toList_encode, hchars]

/-! ## §2 Bytes -/

/-- The bytes of a character before the rest of a code. -/
theorem bytesOfCode_encodeChar_append (c : Char) (rest : List Char) :
    bytesOfCode (encodeChar c ++ rest) = String.utf8EncodeChar c ++ bytesOfCode rest := by
  by_cases hc : c = mark
  · subst hc
    rfl
  · rw [encodeChar, if_neg hc]
    cases rest with
    | nil => simp [bytesOfCode]
    | cons d rest => simp [bytesOfCode, hc]

theorem bytesOfCode_codeAfter (skip : Nat) (bytes : List UInt8) :
    bytesOfCode (codeAfter skip bytes) = bytes.drop skip := by
  induction skip, bytes using codeAfter.induct with
  | case1 => simp [codeAfter, bytesOfCode]
  | case2 skip b rest ih => rw [codeAfter, ih, List.drop_succ_cons]
  | case3 b rest c more hfirst hbytes ih =>
    rw [codeAfter, hfirst]
    dsimp only
    rw [if_pos hbytes, bytesOfCode_encodeChar_append, ih, hbytes, List.cons_append,
      List.take_append_drop]
    rfl
  | case4 b rest c more hfirst hbytes ih =>
    rw [codeAfter, hfirst]
    dsimp only
    rw [if_neg hbytes, bytesOfCode, if_pos rfl, ih, List.drop_zero, List.drop_zero]
    congr 1
    rw [← UInt8.toNat_inj]
    have hlt := b.toNat_lt
    have hvalid : (Char.ofNat b.toNat).toNat = b.toNat := by
      rw [Char.ofNat, dif_pos (.inl (by omega))]
      rfl
    rw [UInt8.toNat_ofNat', hvalid, Nat.mod_eq_of_lt hlt]

/-- **Every sequence of bytes is handed over as it is.** -/
theorem bytes_ofBytes (bytes : List UInt8) : (ofBytes bytes).bytes = bytes := by
  rw [ofBytes, OsText.bytes, String.toList_ofList, bytesOfCode_codeAfter, List.drop_zero]

/-- A string is handed over as its bytes. -/
theorem bytes_ofString (s : String) : (ofString s).bytes = s.toUTF8.data.toList := by
  have hchars : ∀ l : List Char,
      bytesOfCode (l.flatMap encodeChar) = l.flatMap String.utf8EncodeChar := by
    intro l
    induction l with
    | nil => rfl
    | cons c rest ih =>
      rw [List.flatMap_cons, bytesOfCode_encodeChar_append, ih, List.flatMap_cons]
  rw [OsText.bytes, code_ofString, toList_encode, hchars, String.toUTF8]
  conv => rhs; rw [← String.ofList_toList (s := s), String.toByteArray_ofList, List.utf8Encode]
  simp

/-- The size of a text is the number of its bytes. -/
theorem size_eq_length_bytes (text : OsText) : text.size = text.bytes.length := by
  have hchar : ∀ c : Char, (String.utf8EncodeChar c).length = c.utf8Size := by simp
  have hcode : ∀ l : List Char, sizeOfCode l = (bytesOfCode l).length := by
    intro l
    fun_induction sizeOfCode l with
    | case1 => rfl
    | case2 c => exact (hchar c).symm
    | case3 d rest ih => simp [bytesOfCode, ih, Nat.add_comm]
    | case4 c d rest hc ih => simp [bytesOfCode, hc, ih]
  exact hcode _

theorem size_ofString (s : String) : (ofString s).size = s.utf8ByteSize := by
  rw [size_eq_length_bytes, bytes_ofString]
  rfl

/-- What a code begins with stands for no more bytes than the code. -/
theorem sizeOfCode_le_append (l rest : List Char) : sizeOfCode l ≤ sizeOfCode (l ++ rest) := by
  induction l using sizeOfCode.induct with
  | case1 => simp [sizeOfCode]
  | case2 c =>
    cases rest with
    | nil => simp
    | cons d rest =>
      rw [List.singleton_append, sizeOfCode, sizeOfCode]
      split
      · next heq =>
        subst heq
        exact Nat.le_add_right 1 _
      · exact Nat.le_add_right _ _
  | case3 d more ih =>
    rw [List.cons_append, List.cons_append, sizeOfCode, sizeOfCode, if_pos rfl, if_pos rfl]
    omega
  | case4 c d more hc ih =>
    rw [List.cons_append, List.cons_append, sizeOfCode, sizeOfCode, if_neg hc, if_neg hc]
    rw [List.cons_append] at ih
    omega

/-- A code without a NUL stands for as many bytes as it has characters, or more. -/
theorem length_le_sizeOfCode {l : List Char} (h : mark ∉ l) : l.length ≤ sizeOfCode l := by
  induction l using sizeOfCode.induct with
  | case1 => exact Nat.le_refl _
  | case2 c => exact c.utf8Size_pos
  | case3 d more ih => simp at h
  | case4 c d more hc ih =>
    have hone := c.utf8Size_pos
    have hmore := ih (List.not_mem_of_not_mem_cons h)
    rw [sizeOfCode, if_neg hc, List.length_cons]
    omega

end ReleaseKit.OsText
