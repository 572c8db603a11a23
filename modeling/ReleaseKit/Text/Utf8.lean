/-
ReleaseKit.Text.Utf8 — reading bytes as text when the bytes may be wrong.

What an external program prints is bytes. They are read as UTF-8; each longest
piece that starts a character and cannot be finished, and each byte that starts
none, is shown as one replacement character.
-/

namespace ReleaseKit.Text

/-- What stands for bytes that are no character. -/
def replacement : Char := '\ufffd'

/-- The payload of a continuation byte. -/
def continuation (b : UInt8) : Nat := b.toNat % 64

/-- A byte of the form `10xxxxxx`. -/
def isContinuation (b : UInt8) : Bool := 0x80 ≤ b && b ≤ 0xBF

/-- Which bytes may follow the first byte of a three-byte character. The
bounds shut out overlong forms (after `E0`) and surrogates (after `ED`). -/
def followsThree (b c : UInt8) : Bool :=
  (if b == 0xE0 then 0xA0 ≤ c else 0x80 ≤ c) && (if b == 0xED then c ≤ 0x9F else c ≤ 0xBF)

/-- Which bytes may follow the first byte of a four-byte character. The bounds
shut out overlong forms (after `F0`) and what lies above `10FFFF` (after `F4`). -/
def followsFour (b c : UInt8) : Bool :=
  (if b == 0xF0 then 0x90 ≤ c else 0x80 ≤ c) && (if b == 0xF4 then c ≤ 0x8F else c ≤ 0xBF)

/-- The character that starts with the byte `b`, and how many of the following
bytes it takes. -/
def firstChar (b : UInt8) (rest : List UInt8) : Char × Nat :=
  if b < 0x80 then (Char.ofNat b.toNat, 0)
  else if 0xC2 ≤ b && b ≤ 0xDF then
    match rest with
    | c :: _ =>
      if isContinuation c then (Char.ofNat (b.toNat % 32 * 64 + continuation c), 1)
      else (replacement, 0)
    | [] => (replacement, 0)
  else if 0xE0 ≤ b && b ≤ 0xEF then
    match rest with
    | c :: d :: _ =>
      if !followsThree b c then (replacement, 0)
      else if !isContinuation d then (replacement, 1)
      else (Char.ofNat ((b.toNat % 16 * 64 + continuation c) * 64 + continuation d), 2)
    | [c] => (replacement, if followsThree b c then 1 else 0)
    | [] => (replacement, 0)
  else if 0xF0 ≤ b && b ≤ 0xF4 then
    match rest with
    | c :: d :: e :: _ =>
      if !followsFour b c then (replacement, 0)
      else if !isContinuation d then (replacement, 1)
      else if !isContinuation e then (replacement, 2)
      else
        (Char.ofNat (((b.toNat % 8 * 64 + continuation c) * 64 + continuation d) * 64 +
          continuation e), 3)
    | [c, d] =>
      (replacement, if !followsFour b c then 0 else if isContinuation d then 2 else 1)
    | [c] => (replacement, if followsFour b c then 1 else 0)
    | [] => (replacement, 0)
  else (replacement, 0)

/-- The characters of a byte sequence of which the first `skip` bytes belong to
a character that has been read. -/
def decodeAfter : Nat → List UInt8 → List Char
  | _, [] => []
  | skip + 1, _ :: rest => decodeAfter skip rest
  | 0, b :: rest => (firstChar b rest).1 :: decodeAfter (firstChar b rest).2 rest

/-- The characters of a byte sequence, wrong pieces replaced. -/
def decodeLossy (bytes : List UInt8) : List Char := decodeAfter 0 bytes

/-- Bytes shown as text, wrong pieces replaced. -/
def ofBytesLossy (bytes : List UInt8) : String := String.ofList (decodeLossy bytes)

/-- The bytes of a text. -/
def bytesOf (s : String) : List UInt8 := s.toUTF8.data.toList

end ReleaseKit.Text
