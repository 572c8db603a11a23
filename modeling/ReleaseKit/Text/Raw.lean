/-
ReleaseKit.Text.Raw — texts whose characters stand for bytes.

Programs hand bytes to each other, and mostly treat them as text. A raw text is
a string in which every character stands for one byte, the one of its number.
So a program can cut, join and compare what it reads without asking whether it
is well formed; only where the bytes are shown are they read as UTF-8.

  §1 Bytes and raw texts  — `ofBytes` and `bytes`.
  §2 Texts and raw texts  — `ofText` and `text`.
  §3 Names and raw texts  — `ofOs` and `os`.
-/
import ReleaseKit.OsText

namespace ReleaseKit.Raw

/-! ## §1 Bytes and raw texts -/

/-- The character that stands for a byte. -/
def ofByte (b : UInt8) : Char := Char.ofNat b.toNat

/-- The byte that a character stands for. -/
def byte (c : Char) : UInt8 := UInt8.ofNat c.toNat

/-- Bytes as a raw text. -/
def ofBytes (bytes : ByteArray) : String := String.ofList (bytes.data.toList.map ofByte)

/-- The bytes that characters stand for. -/
def bytesOfChars (chars : List Char) : ByteArray := ⟨(chars.map byte).toArray⟩

/-- The bytes that a raw text stands for. -/
def bytes (s : String) : ByteArray := bytesOfChars s.toList

/-! ## §2 Texts and raw texts -/

/-- The raw text of the bytes that a text is written in. -/
def ofText (s : String) : String :=
  if s.toList.all (·.toNat < 128) then s else ofBytes s.toUTF8

/-- What a raw text shows, wrong pieces replaced. -/
def text (s : String) : String :=
  if s.toList.all (·.toNat < 128) then s
  else Text.ofBytesLossy (s.toList.map byte)

/-! ## §3 Names and raw texts -/

/-- Whether a code is the raw text of its bytes. -/
def isPlain (s : String) : Bool := s.toList.all fun c => c.toNat < 128 && c != OsText.mark

/-- The raw text of what the system hands over. -/
def ofOs (t : OsText) : String := if isPlain t.code then t.code else ofBytes ⟨t.bytes.toArray⟩

/-- A raw text, as the system hands it over. -/
def os (s : String) : OsText := if isPlain s then ⟨s⟩ else OsText.ofBytes (s.toList.map byte)

/-- The raw text of a name in a location. -/
def ofName (name : String) : String := ofOs ⟨name⟩

end ReleaseKit.Raw
