/-
ReleaseKit.FileTree.Zip — the bytes of an archive with one entry.

An archive is a local header with the packed entry, a directory that repeats the
header, and an end record that says where the directory is. The entry is packed
as one Deflate block with the fixed code, every byte standing for itself. A packer that
looks for repetitions comes to fewer bytes, and writes the time of the packing where zeros are
here. So nothing is proved from these bytes and their number: the size of an archive is what
the file system says (`FileSystem.pack`).

  §1 Packing       — bits into bytes, the fixed code.
  §2 The checksum  — `crc32`.
  §3 Records       — the three records, `Contents.bytes`.
-/
import ReleaseKit.FileTree.Contents

namespace ReleaseKit

namespace Zip

/-! ## §1 Packing -/

/-- Bits on their way into bytes: the full bytes, and the bits of the next one,
the first of them the lowest. -/
structure Packed where
  bytes : ByteArray
  low : Nat
  width : Nat

namespace Packed

def empty : Packed := ⟨ByteArray.empty, 0, 0⟩

def bit (p : Packed) (b : Bool) : Packed :=
  let low := if b then p.low + Nat.pow 2 p.width else p.low
  if p.width = 7 then ⟨p.bytes.push (UInt8.ofNat low), 0, 0⟩ else ⟨p.bytes, low, p.width + 1⟩

/-- The lowest `width` bits of a code, the highest of them first. -/
def code (p : Packed) (width value : Nat) : Packed :=
  (List.range width).foldl (fun p i => p.bit (value.testBit (width - 1 - i))) p

/-- The bytes, the last one filled up with zeros. -/
def finish (p : Packed) : ByteArray :=
  if p.width = 0 then p.bytes else p.bytes.push (UInt8.ofNat p.low)

end Packed

/-- A byte in the fixed code: eight bits below 144, nine from there. -/
def packByte (p : Packed) (b : UInt8) : Packed :=
  if b.toNat < 144 then p.code 8 (0x30 + b.toNat) else p.code 9 (0x190 + (b.toNat - 144))

/-- One block, marked as the last and as fixed-coded, up to its end mark. -/
def deflate (entry : ByteArray) : ByteArray :=
  let opened := ((Packed.empty.bit true).bit true).bit false
  ((entry.foldl packByte opened).code 7 0).finish

/-! ## §2 The checksum -/

/-- One bit of the checksum's division. -/
def crcStep (crc : UInt32) : UInt32 :=
  if crc &&& 1 = 1 then (crc >>> 1) ^^^ 0xEDB88320 else crc >>> 1

def crcByte (crc : UInt32) (b : UInt8) : UInt32 :=
  (List.range 8).foldl (fun crc _ => crcStep crc) (crc ^^^ b.toUInt32)

/-- The checksum of an entry. -/
def crc32 (entry : ByteArray) : Nat :=
  (entry.foldl crcByte 0xFFFFFFFF ^^^ 0xFFFFFFFF).toNat

/-! ## §3 Records -/

/-- A number in `width` bytes, the lowest first. -/
def number (width value : Nat) : List UInt8 :=
  (List.range width).map fun i => UInt8.ofNat (value >>> (8 * i))

/-- The mode of the entry: a file that all may read and run. -/
def entryMode : Nat := 0o100755

/-- The fields that a header and the directory share. The time is the first
that the format knows; a name outside ASCII is marked as UTF-8. -/
def sharedFields (name : String) (crc packed size : Nat) : List UInt8 :=
  number 2 20 ++ number 2 (if name.toList.all (·.toNat < 0x80) then 0 else 0x800) ++
    number 2 8 ++ number 2 0 ++ number 2 0x21 ++ number 4 crc ++ number 4 packed ++
    number 4 size ++ number 2 name.utf8ByteSize ++ number 2 0

/-- The record that stands before an entry. -/
def localHeader (name : String) (crc packed size : Nat) : List UInt8 :=
  number 4 0x04034B50 ++ sharedFields name crc packed size ++ name.toUTF8.data.toList

/-- The record of the entry in the directory. -/
def directory (name : String) (crc packed size : Nat) : List UInt8 :=
  number 4 0x02014B50 ++ number 2 0x314 ++ sharedFields name crc packed size ++
    number 2 0 ++ number 2 0 ++ number 2 0 ++ number 4 (entryMode <<< 16) ++ number 4 0 ++
    name.toUTF8.data.toList

/-- The record that ends an archive of one entry. -/
def endRecord (start size : Nat) : List UInt8 :=
  number 4 0x06054B50 ++ number 2 0 ++ number 2 0 ++ number 2 1 ++ number 2 1 ++
    number 4 size ++ number 4 start ++ number 2 0

def ofList (bytes : List UInt8) : ByteArray := ⟨bytes.toArray⟩

/-- The archive with one entry. -/
def archive (name : String) (entry : ByteArray) : ByteArray :=
  let crc := crc32 entry
  let packed := deflate entry
  let header := ofList (localHeader name crc packed.size entry.size)
  let listing := ofList (directory name crc packed.size entry.size)
  header ++ packed ++ listing ++ ofList (endRecord (header.size + packed.size) listing.size)

end Zip

namespace Contents

/-- The bytes of a file. -/
def bytes : Contents → ByteArray
  | plain bytes => bytes
  | archive entry body => Zip.archive entry body.bytes

/-- The length of a file. -/
def size (c : Contents) : Nat := c.bytes.size

/-- What a file holds right after an archive was begun in it: the header of an
entry that nothing is known of yet. -/
def begun (entry : String) : Contents := plain (Zip.ofList (Zip.localHeader entry 0 0 0))

end Contents

end ReleaseKit
