/-
ReleaseKit.OsText — the texts that a system hands over.

To a system an argument or the name of a file is bytes. Most of them are a text in UTF-8;
those that are not can be handed over all the same, but when they are shown, replacement
characters stand for what is no character in them.

Such a text is kept as a string, its code. What is a character in the bytes is that character
of the code; a byte that belongs to no character is a NUL and the character of its number, and
a NUL itself is two. So a slash of the code is a slash of the bytes, and a text without a NUL
in it is its own code.

  §1 Texts       — `OsText`, and the system's text for a string.
  §2 Bytes       — `bytes` and `ofBytes`: every sequence of bytes has a code.
  §3 What shows  — `text?`, `shown`.
-/
import ReleaseKit.Text.Utf8

namespace ReleaseKit

/-! ## §1 Texts -/

/-- A text of the system: bytes, kept as their code. -/
structure OsText where
  code : String
deriving DecidableEq, Repr

namespace OsText

/-- What starts the code of a byte. -/
def mark : Char := '\x00'

def encodeChar (c : Char) : List Char := if c = mark then [mark, mark] else [c]

/-- The code of a string: the string itself, if there is no NUL in it. -/
def encode (s : String) : String :=
  if mark ∈ s.toList then String.ofList (s.toList.flatMap encodeChar) else s

/-- A string, as it is handed over. -/
def ofString (s : String) : OsText := ⟨encode s⟩

instance : Coe String OsText := ⟨ofString⟩

instance : Coe (List String) (List OsText) := ⟨List.map ofString⟩

/-! ## §2 Bytes -/

/-- The bytes of a code. -/
def bytesOfCode : List Char → List UInt8
  | [] => []
  | [c] => String.utf8EncodeChar c
  | c :: d :: rest =>
    if c = mark then UInt8.ofNat d.toNat :: bytesOfCode rest
    else String.utf8EncodeChar c ++ bytesOfCode (d :: rest)

def bytes (t : OsText) : List UInt8 := bytesOfCode t.code.toList

/-- The code of bytes of which the first `skip` belong to a character that has been read. -/
def codeAfter : Nat → List UInt8 → List Char
  | _, [] => []
  | skip + 1, _ :: rest => codeAfter skip rest
  | 0, b :: rest =>
    let (c, more) := Text.firstChar b rest
    if String.utf8EncodeChar c = b :: rest.take more then encodeChar c ++ codeAfter more rest
    else mark :: Char.ofNat b.toNat :: codeAfter 0 rest

/-- Bytes, as they are handed over. -/
def ofBytes (bytes : List UInt8) : OsText := ⟨String.ofList (codeAfter 0 bytes)⟩

/-- How many bytes a code stands for. -/
def sizeOfCode : List Char → Nat
  | [] => 0
  | [c] => c.utf8Size
  | c :: d :: rest => if c = mark then 1 + sizeOfCode rest else c.utf8Size + sizeOfCode (d :: rest)

def size (t : OsText) : Nat := sizeOfCode t.code.toList

/-- Whether there is a NUL among what a code stands for. -/
def nulInCode : List Char → Bool
  | [] => false
  | [c] => c = mark
  | c :: d :: rest =>
    if c = mark then d.toNat < 128 || 255 < d.toNat || nulInCode rest else nulInCode (d :: rest)

def holdsNul (t : OsText) : Bool := nulInCode t.code.toList

/-! ## §3 What shows -/

/-- The characters of a code in which no byte stands alone. -/
def charsOfCode? : List Char → Option (List Char)
  | [] => some []
  | [c] => if c = mark then none else some [c]
  | c :: d :: rest =>
    if c = mark then if d = mark then (charsOfCode? rest).map (mark :: ·) else none
    else (charsOfCode? (d :: rest)).map (c :: ·)

/-- The string that a text is, if its bytes are UTF-8. -/
def text? (t : OsText) : Option String := (charsOfCode? t.code.toList).map String.ofList

def isText (t : OsText) : Bool := t.text?.isSome

/-- The characters that show of a code whose next `skip` bytes have gone into a replacement
character with the one before them. -/
def charsShown : Nat → List Char → List Char
  | _, [] => []
  | _, [c] => [if c = mark then Text.replacement else c]
  | skip, c :: d :: rest =>
    if c = mark then
      if d = mark then mark :: charsShown 0 rest
      else
        match skip with
        | skip + 1 => charsShown skip rest
        | 0 =>
          let more := (Text.firstChar (UInt8.ofNat d.toNat) (bytesOfCode rest)).2
          Text.replacement :: charsShown more rest
    else c :: charsShown 0 (d :: rest)

/-- A text as it is shown: replacement characters stand for what is no character. -/
def shown (t : OsText) : String := String.ofList (charsShown 0 t.code.toList)

end OsText

end ReleaseKit
