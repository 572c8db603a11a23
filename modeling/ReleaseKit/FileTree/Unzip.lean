/-
ReleaseKit.FileTree.Unzip — the entries of an archive, from its bytes.

The record that ends an archive is looked for from the end of the bytes. It says
where the directory is, which says where each entry is. An entry is stored as it
is or packed by Deflate, in blocks that are stored, packed with the fixed code
or with a code of their own. Bytes are no archive if any entry cannot be read.

  §1 Bits      — `Bits`, reading bits from bytes.
  §2 Codes     — `Code`, from the lengths of its words.
  §3 Blocks    — `inflate`.
  §4 Records   — `Entry`, `Zip.entries?`.
-/
import ReleaseKit.FileTree.Zip
import ReleaseKit.Text.Utf8

namespace ReleaseKit.Zip

/-! ## §1 Bits -/

/-- Bytes and the place of the next bit in them. -/
structure Bits where
  bytes : ByteArray
  place : Nat

namespace Bits

/-- The next bit. -/
def next? (b : Bits) : Option (Nat × Bits) :=
  if h : b.place / 8 < b.bytes.size then
    some (b.bytes[b.place / 8].toNat >>> (b.place % 8) % 2, { b with place := b.place + 1 })
  else none

/-- The number that the next `width` bits make, the first of them the lowest. -/
def number? : Nat → Bits → Option (Nat × Bits)
  | 0, b => some (0, b)
  | width + 1, b => do
    let (low, b) ← b.next?
    let (high, b) ← number? width b
    pure (low + 2 * high, b)

/-- The place of the next full byte. -/
def aligned (b : Bits) : Nat := (b.place + 7) / 8

end Bits

/-! ## §2 Codes -/

/-- A code by the lengths of its words: for each length how many words there
are, and the symbols in the order of their words. -/
structure Code where
  counts : List Nat
  symbols : Array Nat

/-- The greatest length of a word. -/
def longestWord : Nat := 15

/-- The code in which the symbol `i` has a word of length `lengths[i]`; a
length of zero says that it has none. -/
def Code.ofLengths (lengths : List Nat) : Code :=
  let sizes := (List.range longestWord).map (· + 1)
  { counts := sizes.map fun size => lengths.count size
    symbols := (sizes.flatMap fun size =>
      (lengths.zipIdx.filter fun (length, _) => length == size).map Prod.snd).toArray }

namespace Code

/-- Reads a word of the code bit by bit. `word` is what has been read, `first`
the first word of its length and `before` the number of shorter ones. -/
def readFrom (c : Code) : List Nat → Nat → Nat → Nat → Bits → Option (Nat × Bits)
  | [], _, _, _, _ => none
  | count :: longer, word, first, before, b => do
    let (bit, b) ← b.next?
    let word := 2 * word + bit
    let first := 2 * first
    if word < first + count then
      let symbol ← c.symbols[before + (word - first)]?
      pure (symbol, b)
    else readFrom c longer word (first + count) (before + count) b

/-- The symbol of the next word. -/
def read? (c : Code) (b : Bits) : Option (Nat × Bits) := c.readFrom c.counts 0 0 0 b

end Code

/-! ## §3 Blocks -/

/-- The least length and the number of further bits of each length symbol. -/
def lengthTable : List (Nat × Nat) :=
  [(3, 0), (4, 0), (5, 0), (6, 0), (7, 0), (8, 0), (9, 0), (10, 0), (11, 1), (13, 1), (15, 1),
    (17, 1), (19, 2), (23, 2), (27, 2), (31, 2), (35, 3), (43, 3), (51, 3), (59, 3), (67, 4),
    (83, 4), (99, 4), (115, 4), (131, 5), (163, 5), (195, 5), (227, 5), (258, 0)]

/-- The same for each distance symbol: two symbols for every further bit. -/
def distanceTable : List (Nat × Nat) :=
  (List.range 30).map fun i =>
    if i < 4 then (i + 1, 0) else ((2 + i % 2) * Nat.pow 2 (i / 2 - 1) + 1, i / 2 - 1)

/-- Repeats what stands `distance` before the end, byte by byte. -/
def repeatBack (distance : Nat) : Nat → ByteArray → Option ByteArray
  | 0, out => some out
  | length + 1, out =>
    if distance = 0 ∨ out.size < distance then none
    else
      match out[out.size - distance]? with
      | some byte => repeatBack distance length (out.push byte)
      | none => none

/-- The symbols of a block up to the one that ends it. Every symbol takes at
least one bit. -/
def readSymbols (letters distances : Code) : Nat → Bits → ByteArray → Option (ByteArray × Bits)
  | 0, _, _ => none
  | fuel + 1, b, out => do
    let (symbol, b) ← letters.read? b
    if symbol < 256 then readSymbols letters distances fuel b (out.push (UInt8.ofNat symbol))
    else if symbol = 256 then pure (out, b)
    else
      let (least, more) ← lengthTable[symbol - 257]?
      let (extra, b) ← b.number? more
      let (place, b) ← distances.read? b
      let (nearest, further) ← distanceTable[place]?
      let (beyond, b) ← b.number? further
      let out ← repeatBack (nearest + beyond) (least + extra) out
      readSymbols letters distances fuel b out

/-- The fixed code of letters and lengths. -/
def fixedLetters : Code :=
  .ofLengths (List.replicate 144 8 ++ List.replicate 112 9 ++ List.replicate 24 7 ++
    List.replicate 8 8)

/-- The fixed code of distances. -/
def fixedDistances : Code := .ofLengths (List.replicate 30 5)

/-- The order in which the lengths of the code of lengths stand. -/
def lengthOrder : List Nat := [16, 17, 18, 0, 8, 7, 9, 6, 10, 5, 11, 4, 12, 3, 13, 2, 14, 1, 15]

/-- The lengths of two codes, written in a code of lengths: a symbol is a
length, or repeats the last one, or zero. -/
def readLengths (c : Code) (total : Nat) : Nat → Bits → List Nat → Option (List Nat × Bits)
  | 0, _, _ => none
  | fuel + 1, b, found =>
    if total ≤ found.length then some (found.take total, b)
    else do
      let (symbol, b) ← c.read? b
      if symbol < 16 then readLengths c total fuel b (found ++ [symbol])
      else if symbol = 16 then
        let last ← found.getLast?
        let (extra, b) ← b.number? 2
        readLengths c total fuel b (found ++ List.replicate (3 + extra) last)
      else
        let (extra, b) ← b.number? (if symbol = 17 then 3 else 7)
        let least := if symbol = 17 then 3 else 11
        readLengths c total fuel b (found ++ List.replicate (least + extra) 0)

/-- The two codes that stand at the start of a block. -/
def readCodes (b : Bits) : Option (Code × Code × Bits) := do
  let (letters, b) ← b.number? 5
  let (distances, b) ← b.number? 5
  let (count, b) ← b.number? 4
  let (sizes, b) ← (List.range (count + 4)).foldlM (fun (sizes, b) _ => do
    let (size, b) ← Bits.number? 3 b
    pure (sizes ++ [size], b)) (([] : List Nat), b)
  let named := lengthOrder.zip sizes
  let code := Code.ofLengths ((List.range 19).map fun i => (named.lookup i).getD 0)
  let total := letters + 257 + distances + 1
  let (lengths, b) ← readLengths code total (total + 1) b []
  pure (.ofLengths (lengths.take (letters + 257)), .ofLengths (lengths.drop (letters + 257)), b)

/-- The bytes of the blocks, up to the one that is marked as the last. -/
def inflateBlocks : Nat → Bits → ByteArray → Option ByteArray
  | 0, _, _ => none
  | fuel + 1, b, out => do
    let (last, b) ← b.next?
    let (kind, b) ← b.number? 2
    let symbols := 8 * b.bytes.size + 1
    let (out, b) ←
      match kind with
      | 0 => do
        let (size, after) ← Bits.number? 16 { b with place := 8 * b.aligned }
        let start := after.aligned + 2
        if start + size ≤ b.bytes.size then
          pure (out ++ b.bytes.extract start (start + size),
            { b with place := 8 * (start + size) })
        else none
      | 1 => readSymbols fixedLetters fixedDistances symbols b out
      | 2 => do
        let (letters, distances, b) ← readCodes b
        readSymbols letters distances symbols b out
      | _ => none
    if last = 1 then pure out else inflateBlocks fuel b out

/-- The bytes that were packed; none if the bytes are no packed ones. -/
def inflate (packed : ByteArray) : Option ByteArray :=
  inflateBlocks (8 * packed.size + 1) ⟨packed, 0⟩ ByteArray.empty

/-! ## §4 Records -/

/-- An entry of an archive. -/
structure Entry where
  name : String
  deflated : Bool
  mode : Option Nat
  content : ByteArray

/-- The number in `width` bytes from a place, the lowest first. -/
def numberAt (bytes : ByteArray) (place width : Nat) : Option Nat :=
  if place + width ≤ bytes.size then
    some ((bytes.extract place (place + width)).data.toList.foldr (fun b n => b.toNat + 256 * n) 0)
  else none

/-- The last place at or before `place` where the archive's end can start. -/
def endRecordAt (bytes : ByteArray) : Nat → Option Nat
  | 0 => none
  | place + 1 =>
    let fits := do
      let mark ← numberAt bytes place 4
      let comment ← numberAt bytes (place + 20) 2
      pure (mark == 0x06054B50 && place + 22 + comment ≤ bytes.size)
    if fits = some true then some place else endRecordAt bytes place

/-- The mode of an entry: as it is kept, or as the read-only and directory
marks of other systems say. -/
def modeOf (system attributes : Nat) : Option Nat :=
  if attributes = 0 then none
  else if system = 3 then some (attributes >>> 16)
  else if system = 0 then
    let mode := if attributes.testBit 4 then 0o40775 else 0o100664
    some (if attributes.testBit 0 then mode &&& 0o555 else mode)
  else none

/-- The entry whose record in the directory is at `place`, and the place of the
next record. -/
def entryAt (bytes : ByteArray) (shift place : Nat) : Option (Entry × Nat) := do
  let field (offset width : Nat) := numberAt bytes (place + offset) width
  guard ((← field 0 4) = 0x02014B50)
  let flags ← field 8 2
  let method ← field 10 2
  let packed ← field 20 4
  let nameSize ← field 28 2
  let next := place + 46 + nameSize + (← field 30 2) + (← field 32 2)
  guard (next ≤ bytes.size ∧ !flags.testBit 0)
  let start := shift + (← field 42 4)
  guard ((← numberAt bytes start 4) = 0x04034B50)
  let origin := start + 30 + (← numberAt bytes (start + 26) 2) + (← numberAt bytes (start + 28) 2)
  guard (origin + packed ≤ bytes.size)
  let raw := bytes.extract origin (origin + packed)
  let content ← if method = 0 then some raw else if method = 8 then inflate raw else none
  guard (crc32 content = (← field 16 4))
  let name := Text.ofBytesLossy
    (bytes.extract (place + 46) (place + 46 + nameSize)).data.toList
  pure (⟨name, method = 8, modeOf (← field 5 1) (← field 38 4), content⟩, next)

/-- So many entries from a place in the directory on. -/
def entriesFrom (bytes : ByteArray) (shift : Nat) : Nat → Nat → Option (List Entry)
  | 0, _ => some []
  | count + 1, place => do
    let (entry, next) ← entryAt bytes shift place
    let rest ← entriesFrom bytes shift count next
    pure (entry :: rest)

/-- The entries of an archive; none if the bytes are no archive. Bytes that
stand before the archive are skipped. -/
def entries? (bytes : ByteArray) : Option (List Entry) := do
  let place ← endRecordAt bytes bytes.size
  let count ← numberAt bytes (place + 10) 2
  let size ← numberAt bytes (place + 12) 4
  let start ← numberAt bytes (place + 16) 4
  guard (start + size ≤ place)
  let shift := place - (start + size)
  entriesFrom bytes shift count (shift + start)

end ReleaseKit.Zip
