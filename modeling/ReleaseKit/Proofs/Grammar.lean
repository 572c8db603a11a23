/-
ReleaseKit.Proofs.Grammar — what a JSON text is, and what it says.

The grammar is written down here for itself, with nothing of the reader in it:
`Written d l` says that `l` is one of the texts of the document `d`. A document has
no blanks, no spellings and no numbers in it, so two texts of one document may differ
in all of these. A string may be spelled with half of a surrogate pair and no other
half; it then says no text, and has `none` where other strings have their text.

  §1 Strings   — `Piece`, and what the pieces of a string say.
  §2 Numbers   — `Numeral`.
  §3 Documents — `Written`, and what the text of a document begins with.
-/
import Mathlib.Data.List.Forall2
import ReleaseKit.Proofs.RoundTrip

namespace ReleaseKit.Json

/-! ## §1 Strings -/

/-- A hexadecimal digit of either case. -/
structure HexDigit where
  value : Fin 16
  upper : Bool

def HexDigit.char (d : HexDigit) : Char :=
  if d.upper then (hexDigit d.value).toUpper else hexDigit d.value

/-- The sixteen bits that an escape of four hexadecimal digits stands for. -/
structure CodeUnit where
  first : HexDigit
  second : HexDigit
  third : HexDigit
  fourth : HexDigit

namespace CodeUnit

def value (u : CodeUnit) : Nat :=
  ((u.first.value.val * 16 + u.second.value.val) * 16 + u.third.value.val) * 16 +
    u.fourth.value.val

def chars (u : CodeUnit) : List Char := [u.first.char, u.second.char, u.third.char, u.fourth.char]

/-- The first half of a surrogate pair. -/
def IsHigh (u : CodeUnit) : Prop := 0xD800 ≤ u.value ∧ u.value ≤ 0xDBFF

/-- The second half of a surrogate pair. -/
def IsLow (u : CodeUnit) : Prop := 0xDC00 ≤ u.value ∧ u.value ≤ 0xDFFF

instance (u : CodeUnit) : Decidable u.IsHigh := inferInstanceAs (Decidable (_ ∧ _))

instance (u : CodeUnit) : Decidable u.IsLow := inferInstanceAs (Decidable (_ ∧ _))

/-- The character beyond the first 65536 that a surrogate pair stands for. -/
def pairChar (high low : CodeUnit) : Char :=
  Char.ofNat (0x10000 + (high.value - 0xD800) * 0x400 + (low.value - 0xDC00))

end CodeUnit

/-- The escapes of one letter. -/
inductive Shorthand where
  | quote
  | backslash
  | slash
  | backspace
  | formFeed
  | lineFeed
  | carriageReturn
  | tab

namespace Shorthand

def letter : Shorthand → Char
  | quote => '\x22'
  | backslash => '\\'
  | slash => '/'
  | backspace => 'b'
  | formFeed => 'f'
  | lineFeed => 'n'
  | carriageReturn => 'r'
  | tab => 't'

def char : Shorthand → Char
  | quote => '\x22'
  | backslash => '\\'
  | slash => '/'
  | backspace => '\x08'
  | formFeed => '\x0c'
  | lineFeed => '\n'
  | carriageReturn => '\r'
  | tab => '\t'

end Shorthand

/-- A character of a string as it is spelled. -/
inductive Piece where
  | plain (c : Char) (h : 0x20 ≤ c.toNat ∧ c ≠ '\x22' ∧ c ≠ '\\')
  | short (e : Shorthand)
  | code (u : CodeUnit)

namespace Piece

def chars : Piece → List Char
  | plain c _ => [c]
  | short e => ['\\', e.letter]
  | code u => '\\' :: 'u' :: u.chars

/-- What the pieces of a string say: the halves of a surrogate pair say one character,
and a half without the other says none. -/
def said : List Piece → Option (List Char)
  | [] => some []
  | plain c _ :: ps => (said ps).map (c :: ·)
  | short e :: ps => (said ps).map (e.char :: ·)
  | code u :: ps =>
    if u.IsLow then none
    else if u.IsHigh then
      match ps with
      | code v :: ps => if v.IsLow then (said ps).map (u.pairChar v :: ·) else none
      | _ => none
    else (said ps).map (Char.ofNat u.value :: ·)

theorem said_low {u : CodeUnit} (h : u.IsLow) (ps : List Piece) : said (code u :: ps) = none := by
  rw [said.eq_def]
  exact if_pos h

theorem said_scalar {u : CodeUnit} (hlow : ¬ u.IsLow) (hhigh : ¬ u.IsHigh) (ps : List Piece) :
    said (code u :: ps) = (said ps).map (Char.ofNat u.value :: ·) := by
  rw [said.eq_def]
  exact (if_neg hlow).trans (if_neg hhigh)

/-- A first half says nothing before anything but an escape of four digits. -/
theorem said_high {u : CodeUnit} (hlow : ¬ u.IsLow) (hhigh : u.IsHigh) {ps : List Piece}
    (h : ∀ v qs, ps ≠ code v :: qs) : said (code u :: ps) = none := by
  rw [said.eq_def]
  simp only [if_neg hlow, if_pos hhigh]

/-- The text that the pieces of a string say. -/
def text? (ps : List Piece) : Option String := (said ps).map String.ofList

/-- A string with its quotes. -/
def quoted (ps : List Piece) : List Char := '\x22' :: (ps.flatMap chars ++ ['\x22'])

end Piece

/-! ## §2 Numbers -/

/-- One or more decimal digits. -/
structure Digits where
  first : Fin 10
  others : List (Fin 10)

def Digits.chars (d : Digits) : List Char :=
  (d.first :: d.others).map fun n => Char.ofNat (0x30 + n.val)

/-- The exponent of a number; its sign may be left out. -/
structure Exponent where
  upper : Bool
  minus : Option Bool
  digits : Digits

def Exponent.chars (e : Exponent) : List Char :=
  (if e.upper then 'E' else 'e') ::
    ((e.minus.map fun minus => if minus then '-' else '+').toList ++ e.digits.chars)

/-- A number as it is spelled. -/
structure Numeral where
  minus : Bool
  whole : Digits
  /-- only a zero on its own begins with a zero -/
  no_leading_zero : whole.first = 0 → whole.others = []
  places : Option Digits
  exponent : Option Exponent

def Numeral.chars (n : Numeral) : List Char :=
  (if n.minus then ['-'] else []) ++ n.whole.chars ++
    (n.places.map fun d => '.' :: d.chars).getD [] ++ (n.exponent.map Exponent.chars).getD []

/-! ## §3 Documents -/

/-- A character that may stand between the words of a text. -/
inductive Blank where
  | space
  | tab
  | lineFeed
  | carriageReturn

def Blank.char : Blank → Char
  | space => ' '
  | tab => '\t'
  | lineFeed => '\n'
  | carriageReturn => '\r'

/-- What may stand between two words. -/
abbrev Gap := List Blank

def Gap.chars (gap : Gap) : List Char := gap.map Blank.char

/-- What a text says. No field asks for a number, so it is not said which one. -/
inductive Doc where
  | null
  | bool (value : Bool)
  | number
  | text (value : Option String)
  | array (items : List Doc)
  | object (members : List (Option String × Doc))

/-- A document in an array or an object, with its text and the gaps around it. -/
structure Item where
  before : Gap
  doc : Doc
  text : List Char
  after : Gap

def Item.chars (i : Item) : List Char := i.before.chars ++ i.text ++ i.after.chars

/-- An item of an object under a name. -/
structure Member where
  before : Gap
  name : List Piece
  after : Gap
  item : Item

namespace Member

def chars (m : Member) : List Char :=
  m.before.chars ++ Piece.quoted m.name ++ m.after.chars ++ ':' :: m.item.chars

/-- What a member says. -/
def said (m : Member) : Option String × Doc := (Piece.text? m.name, m.item.doc)

end Member

/-- A text is one of the texts of a document. -/
inductive Written : Doc → List Char → Prop
  | null : Written .null ['n', 'u', 'l', 'l']
  | bool (b : Bool) :
    Written (.bool b) (if b then ['t', 'r', 'u', 'e'] else ['f', 'a', 'l', 's', 'e'])
  | number (n : Numeral) : Written .number n.chars
  | text (ps : List Piece) : Written (.text (Piece.text? ps)) (Piece.quoted ps)
  | array (gap : Gap) (items : List Item) (h : ∀ i ∈ items, Written i.doc i.text) :
    Written (.array (items.map Item.doc))
      ('[' :: (gap.chars ++ separated true (items.map Item.chars) ++ [']']))
  | object (gap : Gap) (members : List Member)
    (h : ∀ m ∈ members, Written m.item.doc m.item.text) :
    Written (.object (members.map Member.said))
      ('\x7b' :: (gap.chars ++ separated true (members.map Member.chars) ++ ['\x7d']))

/-- What the texts of a document begin with. -/
def Doc.Begins : Doc → Char → Prop
  | null, c => c = 'n'
  | bool b, c => c = if b then 't' else 'f'
  | number, c => c = '-' ∨ c.isDigit
  | text _, c => c = '\x22'
  | array _, c => c = '['
  | object _, c => c = '\x7b'

theorem digits_begin (d : Digits) : ∃ c rest, d.chars = c :: rest ∧ c.isDigit := by
  have hdigit : ∀ n : Fin 10, (Char.ofNat (0x30 + n.val)).isDigit := by decide
  exact ⟨_, _, rfl, hdigit d.first⟩

theorem numeral_begins (n : Numeral) : ∃ c rest, n.chars = c :: rest ∧ Doc.number.Begins c := by
  obtain ⟨c, rest, hwhole, hdigit⟩ := digits_begin n.whole
  rw [Numeral.chars, hwhole]
  cases n.minus with
  | true => exact ⟨_, _, rfl, .inl rfl⟩
  | false => exact ⟨_, _, rfl, .inr hdigit⟩

theorem Written.begins {d : Doc} {l : List Char} (h : Written d l) :
    ∃ c rest, l = c :: rest ∧ d.Begins c := by
  cases h with
  | null => exact ⟨_, _, rfl, rfl⟩
  | bool b => cases b <;> exact ⟨_, _, rfl, rfl⟩
  | number n => exact numeral_begins n
  | text ps => exact ⟨_, _, rfl, rfl⟩
  | array gap items _ => exact ⟨_, _, rfl, rfl⟩
  | object gap members _ => exact ⟨_, _, rfl, rfl⟩

/-- The words and brackets that only one kind of document begins with. -/
theorem Doc.begins_iff (d : Doc) :
    (d.Begins 't' ↔ d = .bool true) ∧ (d.Begins 'f' ↔ d = .bool false) ∧
      (d.Begins '\x22' ↔ ∃ value, d = .text value) ∧ (d.Begins '[' ↔ ∃ items, d = .array items) ∧
      (d.Begins '\x7b' ↔ ∃ members, d = .object members) := by
  cases d with
  | bool b => cases b <;> simp [Begins]
  | null | number | text _ | array _ | object _ => simp [Begins]

/-- A document does not begin like a gap, the end of an array or the next item. -/
theorem Doc.Begins.opens {d : Doc} {c : Char} (h : d.Begins c) :
    isBlank c = false ∧ c ≠ ']' ∧ c ≠ ',' := by
  cases d with
  | bool b => cases b <;> (cases h; decide)
  | number =>
    obtain rfl | hdigit := h
    · decide
    · refine ⟨?_, ?_, ?_⟩
      · by_contra hblank
        simp only [isBlank, Bool.not_eq_false, Bool.or_eq_true, beq_iff_eq] at hblank
        obtain ((rfl | rfl) | rfl) | rfl := hblank <;> exact absurd hdigit (by decide)
      · rintro rfl
        exact absurd hdigit (by decide)
      · rintro rfl
        exact absurd hdigit (by decide)
  | null | text _ | array _ | object _ =>
    cases h
    decide

/-- A text that goes on begins as the document does. -/
theorem Written.begins_of_append {d : Doc} {l rest tail : List Char} {c : Char} (h : Written d l)
    (heq : l ++ rest = c :: tail) : d.Begins c := by
  obtain ⟨_, _, rfl, hbegins⟩ := h.begins
  cases heq
  exact hbegins

theorem Written.opens {d : Doc} {l : List Char} (h : Written d l) : Opens l := by
  obtain ⟨c, rest, rfl, hbegins⟩ := h.begins
  exact ⟨c, rest, rfl, hbegins.opens⟩

theorem skipBlank_gap (gap : Gap) (l : List Char) : skipBlank (gap.chars ++ l) = skipBlank l := by
  induction gap with
  | nil => rfl
  | cons b gap ih =>
    have hblank : isBlank b.char := by cases b <;> decide
    simpa [skipBlank, Gap.chars, hblank] using ih

end ReleaseKit.Json
