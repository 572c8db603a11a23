/-
ReleaseKit.Utility.Digest — checksums, and bytes in letters.

  §1 Blocks     — texts filled up to whole blocks, words.
  §2 Checksums  — `md5`, `sha1`, `sha256`, `sha512`, `posixSum`.
  §3 Programs   — the checksum programs.
  §4 Letters    — `base64`, `od`.
-/
import ReleaseKit.Utility.Lines

namespace ReleaseKit.Utility

namespace Digest

/-! ## §1 Blocks -/

/-- A number in bytes, the lowest first. -/
def lowFirst (count n : Nat) : List Nat := (List.range count).map fun i => n / Nat.pow 256 i % 256

/-- A number in bytes, the highest first. -/
def highFirst (count n : Nat) : List Nat := (lowFirst count n).reverse

/-- Bytes filled up to whole blocks: a mark, zeros, and how many bits there were. -/
def padded (block sizeBytes : Nat) (sizeOf : Nat → List Nat) (bytes : List Nat) : List Nat :=
  let used := (bytes.length + 1 + sizeBytes) % block
  let zeros := if used = 0 then 0 else block - used
  bytes ++ 0x80 :: List.replicate zeros 0 ++ sizeOf (bytes.length * 8)

/-- A number from bytes, the lowest first. -/
def ofLowFirst (bytes : List Nat) : Nat := bytes.foldr (fun b n => n * 256 + b) 0

/-- A number from bytes, the highest first. -/
def ofHighFirst (bytes : List Nat) : Nat := bytes.foldl (fun n b => n * 256 + b) 0

/-- Bytes as words of a size. -/
def words (size : Nat) (read : List Nat → Nat) (bytes : List Nat) : Array Nat :=
  ((chunks size (bytes.length + 1) bytes).map read).toArray

/-- A word turned to the left. -/
def turnLeft (bits count n : Nat) : Nat :=
  let all := Nat.pow 2 bits
  (n * Nat.pow 2 count) % all + n / Nat.pow 2 (bits - count)

/-- A word turned to the right. -/
def turnRight (bits count n : Nat) : Nat := turnLeft bits (bits - count) n

/-- A word with every bit the other way. -/
def flip (bits n : Nat) : Nat := Nat.pow 2 bits - 1 - n

/-- The greatest number whose power is not above another. -/
def rootBelow (power n : Nat) : Nat :=
  (List.range (n.log2 / power + 2)).reverse.foldl (fun r i =>
    let next := r + Nat.pow 2 i
    if Nat.pow next power ≤ n then next else r) 0

/-- The first so many prime numbers. -/
def primes (count : Nat) : List Nat :=
  ((List.range 420).filter fun n => 2 ≤ n && (List.range n).all fun d => d < 2 || n % d != 0).take count

/-- The first bits behind the point of a root of a number. -/
def fractionOfRoot (power bits n : Nat) : Nat :=
  rootBelow power (n * Nat.pow 2 (bits * power)) % Nat.pow 2 bits

/-- Bytes in hexadecimal digits. -/
def inHex (bytes : List Nat) : String :=
  String.join (bytes.map fun b => (if b < 16 then "0" else "") ++ inBase 16 b)

/-! ## §2 Checksums -/

def word32 : Nat := 4294967296

/-- How far the words of MD5 are turned. -/
def md5Turns : Array Nat :=
  (([[7, 12, 17, 22], [5, 9, 14, 20], [4, 11, 16, 23], [6, 10, 15, 21]] : List (List Nat)).flatMap
    fun row => (List.replicate 4 row).flatten).toArray

/-- The constants of MD5: the first bits of the sines of the whole numbers. -/
def md5Constants : Array Nat :=
  #[0xd76aa478, 0xe8c7b756, 0x242070db, 0xc1bdceee, 0xf57c0faf, 0x4787c62a, 0xa8304613, 0xfd469501,
    0x698098d8, 0x8b44f7af, 0xffff5bb1, 0x895cd7be, 0x6b901122, 0xfd987193, 0xa679438e, 0x49b40821,
    0xf61e2562, 0xc040b340, 0x265e5a51, 0xe9b6c7aa, 0xd62f105d, 0x02441453, 0xd8a1e681, 0xe7d3fbc8,
    0x21e1cde6, 0xc33707d6, 0xf4d50d87, 0x455a14ed, 0xa9e3e905, 0xfcefa3f8, 0x676f02d9, 0x8d2a4c8a,
    0xfffa3942, 0x8771f681, 0x6d9d6122, 0xfde5380c, 0xa4beea44, 0x4bdecfa9, 0xf6bb4b60, 0xbebfbc70,
    0x289b7ec6, 0xeaa127fa, 0xd4ef3085, 0x04881d05, 0xd9d4d039, 0xe6db99e5, 0x1fa27cf8, 0xc4ac5665,
    0xf4292244, 0x432aff97, 0xab9423a7, 0xfc93a039, 0x655b59c3, 0x8f0ccc92, 0xffeff47d, 0x85845dd1,
    0x6fa87e4f, 0xfe2ce6e0, 0xa3014314, 0x4e0811a1, 0xf7537e82, 0xbd3af235, 0x2ad7d2bb, 0xeb86d391]

/-- One block of MD5. -/
def md5Block (state : Nat × Nat × Nat × Nat) (block : List Nat) : Nat × Nat × Nat × Nat :=
  let m := words 4 ofLowFirst block
  let step (s : Nat × Nat × Nat × Nat) (i : Nat) : Nat × Nat × Nat × Nat :=
    let (a, b, c, d) := s
    let (f, g) :=
      if i < 16 then ((b &&& c) ||| (flip 32 b &&& d), i)
      else if i < 32 then ((d &&& b) ||| (flip 32 d &&& c), (5 * i + 1) % 16)
      else if i < 48 then (b ^^^ c ^^^ d, (3 * i + 5) % 16)
      else (c ^^^ (b ||| flip 32 d), 7 * i % 16)
    let sum := (a + f + (md5Constants[i]?).getD 0 + (m[g]?).getD 0) % word32
    (d, (b + turnLeft 32 ((md5Turns[i]?).getD 0) sum) % word32, b, c)
  let (a, b, c, d) := (List.range 64).foldl step state
  ((state.1 + a) % word32, (state.2.1 + b) % word32, (state.2.2.1 + c) % word32,
    (state.2.2.2 + d) % word32)

def md5 (bytes : List Nat) : List Nat :=
  let all := padded 64 8 (lowFirst 8) bytes
  let (a, b, c, d) := (chunks 64 (all.length + 1) all).foldl md5Block
    (0x67452301, 0xefcdab89, 0x98badcfe, 0x10325476)
  [a, b, c, d].flatMap (lowFirst 4)

/-- The words of a block of SHA-1, each made of four before it. -/
def sha1Schedule (block : List Nat) : Array Nat :=
  (List.range 64).foldl (fun (w : Array Nat) k =>
    let i := k + 16
    let word (n : Nat) : Nat := (w[i - n]?).getD 0
    w.push (turnLeft 32 1 (word 3 ^^^ word 8 ^^^ word 14 ^^^ word 16))) (words 4 ofHighFirst block)

/-- One block of SHA-1. -/
def sha1Block (state : List Nat) (block : List Nat) : List Nat :=
  let w := sha1Schedule block
  let step (s : List Nat) (i : Nat) : List Nat :=
    match s with
    | [a, b, c, d, e] =>
      let (f, k) :=
        if i < 20 then ((b &&& c) ||| (flip 32 b &&& d), 0x5a827999)
        else if i < 40 then (b ^^^ c ^^^ d, 0x6ed9eba1)
        else if i < 60 then ((b &&& c) ||| (b &&& d) ||| (c &&& d), 0x8f1bbcdc)
        else (b ^^^ c ^^^ d, 0xca62c1d6)
      [(turnLeft 32 5 a + f + e + k + (w[i]?).getD 0) % word32, a, turnLeft 32 30 b, c, d]
    | other => other
  (state.zip ((List.range 80).foldl step state)).map fun (x, y) => (x + y) % word32

def sha1 (bytes : List Nat) : List Nat :=
  let all := padded 64 8 (highFirst 8) bytes
  ((chunks 64 (all.length + 1) all).foldl sha1Block
    [0x67452301, 0xefcdab89, 0x98badcfe, 0x10325476, 0xc3d2e1f0]).flatMap (highFirst 4)

/-- What the members of the second family of checksums differ in. -/
structure Sha where
  bits : Nat
  rounds : Nat
  constants : Array Nat
  /-- how far words are turned in the four mixing functions; the last number of the
  two small ones is a shift -/
  big0 : Nat × Nat × Nat
  big1 : Nat × Nat × Nat
  small0 : Nat × Nat × Nat
  small1 : Nat × Nat × Nat

namespace Sha

/-- A mixing function of turns only. -/
def big (s : Sha) (t : Nat × Nat × Nat) (n : Nat) : Nat :=
  turnRight s.bits t.1 n ^^^ turnRight s.bits t.2.1 n ^^^ turnRight s.bits t.2.2 n

/-- A mixing function of two turns and a shift. -/
def small (s : Sha) (t : Nat × Nat × Nat) (n : Nat) : Nat :=
  turnRight s.bits t.1 n ^^^ turnRight s.bits t.2.1 n ^^^ (n / Nat.pow 2 t.2.2)

/-- One block. -/
def block (s : Sha) (state : List Nat) (bytes : List Nat) : List Nat :=
  let all := Nat.pow 2 s.bits
  let w := (List.range (s.rounds - 16)).foldl (fun (w : Array Nat) k =>
    let i := k + 16
    let word (n : Nat) : Nat := (w[i - n]?).getD 0
    w.push ((word 16 + s.small s.small0 (word 15) + word 7 + s.small s.small1 (word 2)) % all))
    (words (s.bits / 8) ofHighFirst bytes)
  let step (state : List Nat) (i : Nat) : List Nat :=
    match state with
    | [a, b, c, d, e, f, g, h] =>
      let choice := (e &&& f) ^^^ (flip s.bits e &&& g)
      let most := (a &&& b) ^^^ (a &&& c) ^^^ (b &&& c)
      let t := h + s.big s.big1 e + choice + (s.constants[i]?).getD 0 + (w[i]?).getD 0
      [(t + s.big s.big0 a + most) % all, a, b, c, (d + t) % all, e, f, g]
    | other => other
  (state.zip ((List.range s.rounds).foldl step state)).map fun (x, y) => (x + y) % all

/-- The checksum, from a first state. -/
def digest (s : Sha) (state : List Nat) (bytes : List Nat) : List Nat :=
  let size := s.bits * 2
  let all := padded size (s.bits / 4) (highFirst (s.bits / 4)) bytes
  ((chunks size (all.length + 1) all).foldl s.block state).flatMap (highFirst (s.bits / 8))

end Sha

/-- The member with short words. -/
def short : Sha :=
  ⟨32, 64, ((primes 64).map (fractionOfRoot 3 32)).toArray, (2, 13, 22), (6, 11, 25), (7, 18, 3),
    (17, 19, 10)⟩

/-- The member with long words. -/
def long : Sha :=
  ⟨64, 80, ((primes 80).map (fractionOfRoot 3 64)).toArray, (28, 34, 39), (14, 18, 41), (1, 8, 7),
    (19, 61, 6)⟩

def sha256 (bytes : List Nat) : List Nat :=
  short.digest ((primes 8).map (fractionOfRoot 2 32)) bytes

def sha224 (bytes : List Nat) : List Nat :=
  (short.digest (((primes 16).drop 8).map fun p => fractionOfRoot 2 64 p % word32) bytes).take 28

def sha512 (bytes : List Nat) : List Nat :=
  long.digest ((primes 8).map (fractionOfRoot 2 64)) bytes

def sha384 (bytes : List Nat) : List Nat :=
  (long.digest (((primes 16).drop 8).map (fractionOfRoot 2 64)) bytes).take 48

/-- One byte of the checksum of `cksum`: a division of polynomials. -/
def posixByte (crc : Nat) (byte : Nat) : Nat :=
  (List.range 8).foldl (fun c _ =>
    let shifted := c * 2 % word32
    if 2147483648 ≤ c then shifted ^^^ 0x04c11db7 else shifted) (crc ^^^ (byte * 16777216))

/-- The checksum of `cksum`. -/
def posixSum (bytes : List Nat) : Nat :=
  let rec sizeBytes : Nat → Nat → List Nat
    | 0, _ => []
    | fuel + 1, n => if n = 0 then [] else n % 256 :: sizeBytes fuel (n / 256)
  flip 32 ((bytes ++ sizeBytes 8 bytes.length).foldl posixByte 0)

/-! ## §3 Programs -/

/-- Checks the lines of a list of checksums. -/
def check (call : Call) (o : Options) (sum : List Nat → List Nat) (text : String) : Task Nat := do
  let mut failed := 0
  let mut missing := 0
  for line in linesOf text do
    let digest := line.toList.takeWhile (· != ' ')
    let name := String.ofList (line.toList.drop (digest.length + 2))
    match ← call.readFile name with
    | .error fault =>
      call.say (name ++ ": " ++ fault.reason)
      if !o.has 's' then Task.say (name ++ ": FAILED open or read\n")
      missing := missing + 1
    | .ok text =>
      let right := inHex (sum (text.toList.map Char.toNat)) == (String.ofList digest).map Char.toLower
      if !o.has 's' && !(o.has 'q' && right) then
        Task.say (name ++ (if right then ": OK\n" else ": FAILED\n"))
      if !right then failed := failed + 1
  if 0 < missing && !o.has 's' then
    call.say ("WARNING: " ++ toString missing ++ " listed file" ++ (if missing = 1 then "" else "s") ++
      " could not be read")
  if 0 < failed && !o.has 's' then
    call.say ("WARNING: " ++ toString failed ++ " computed checksum" ++ (if failed = 1 then "" else "s") ++
      " did NOT match")
  return if failed + missing = 0 then 0 else 1

/-- A program that shows checksums. -/
def program (sum : List Nat → List Nat) : Utility := fun call =>
  call.withOptions "cbtzsqw\x01" [("check", 'c'), ("binary", 'b'), ("text", 't'), ("status", 's'),
      ("quiet", 'q'), ("warn", 'w'), ("tag", '\x01'), ("zero", 'z')] 1 fun o => do
    let mut code := 0
    for path in (if o.operands.isEmpty then ["-"] else o.operands) do
      match ← call.readFile path with
      | .error fault =>
        call.say (path ++ ": " ++ fault.reason)
        code := 1
      | .ok text =>
        if o.has 'c' then code := max code (← check call o sum text)
        else
          Task.say (inHex (sum (text.toList.map Char.toNat)) ++ (if o.has 'b' then " *" else "  ") ++
            path ++ "\n")
    return code

end Digest

def cksum : Utility := fun call => call.withOptions "a:" [("algorithm", 'a')] 1 fun o => do
  let fine ← call.inputs o.operands fun path text => do
    let bytes := text.toList.map Char.toNat
    Task.say (toString (Digest.posixSum bytes) ++ " " ++ toString bytes.length ++
      (if o.operands.isEmpty then "" else " " ++ path) ++ "\n")
  return if fine then 0 else 1

/-! ## §4 Letters -/

def base64Letters : Array Char :=
  "ABCDEFGHIJKLMNOPQRSTUVWXYZabcdefghijklmnopqrstuvwxyz0123456789+/".toList.toArray

/-- Bytes in letters, three of them in four. -/
def inBase64 : List Char → List Char
  | [] => []
  | [a] =>
    let n := a.toNat * 65536
    [letter n 262144, letter n 4096, '=', '=']
  | [a, b] =>
    let n := a.toNat * 65536 + b.toNat * 256
    [letter n 262144, letter n 4096, letter n 64, '=']
  | a :: b :: c :: rest =>
    let n := a.toNat * 65536 + b.toNat * 256 + c.toNat
    letter n 262144 :: letter n 4096 :: letter n 64 :: letter n 1 :: inBase64 rest
where
  letter (n unit : Nat) : Char := (base64Letters[n / unit % 64]?).getD '='

/-- The bytes that letters stand for, as far as they are right, and whether all are. -/
def ofBase64 : List Char → List Char × Bool
  | [] => ([], true)
  | a :: b :: c :: d :: rest =>
    match value a, value b, value c, value d with
    | some i, some j, some k, some l =>
      let n := i * 262144 + j * 4096 + k * 64 + l
      let (more, fine) := ofBase64 rest
      (Char.ofNat (n / 65536) :: Char.ofNat (n / 256 % 256) :: Char.ofNat (n % 256) :: more, fine)
    | some i, some j, some k, none =>
      let n := i * 262144 + j * 4096 + k * 64
      ([Char.ofNat (n / 65536), Char.ofNat (n / 256 % 256)], d == '=' && rest.isEmpty)
    | some i, some j, none, _ =>
      ([Char.ofNat ((i * 262144 + j * 4096) / 65536)], c == '=' && d == '=' && rest.isEmpty)
    | _, _, _, _ => ([], false)
  | _ => ([], false)
where
  value (c : Char) : Option Nat := base64Letters.toList.findIdx? (· == c)

def base64 : Utility := fun call => call.withOptions "dw:i" [("decode", 'd'), ("wrap", 'w'),
    ("ignore-garbage", 'i')] 1 fun o => do
  match ← call.readFile (o.operands.headD "-") with
  | .error fault => call.fail (Quotes.inMessage (o.operands.headD "-") ++ ": " ++ fault.reason)
  | .ok text =>
    if o.has 'd' then
      let letters := text.toList.filter fun c =>
        c != '\n' && (!o.has 'i' || base64Letters.contains c || c == '=')
      let (bytes, fine) := ofBase64 letters
      let code ← emit call (String.ofList bytes)
      if fine then return code else call.fail "invalid input"
    else
      match ((o.value? 'w').getD "76").toNat? with
      | none => call.fail ("invalid wrap size: " ++ Quotes.always ((o.value? 'w').getD ""))
      | some 0 => emit call (String.ofList (inBase64 text.toList))
      | some width =>
        let letters := inBase64 text.toList
        emit call (String.join ((chunks width (letters.length + 1) letters).map fun line =>
          String.ofList line ++ "\n"))

/-- How `od` shows bytes: so many at a time, in a number of columns. -/
structure DumpFormat where
  size : Nat
  width : Nat
  show1 : List Char → String

/-- A byte as a character, or as an escape. -/
def dumpChar (c : Char) : String :=
  match [('\x00', "\\0"), ('\x07', "\\a"), ('\x08', "\\b"), ('\t', "\\t"), ('\n', "\\n"),
      ('\x0b', "\\v"), ('\x0c', "\\f"), ('\r', "\\r")].lookup c with
  | some text => text
  | none =>
    if 32 ≤ c.toNat && c.toNat < 127 then String.singleton c
    else String.ofList (List.replicate (3 - (inBase 8 c.toNat).length) '0') ++ inBase 8 c.toNat

/-- The names of the bytes that are no characters. -/
def byteNames : Array String :=
  #["nul", "soh", "stx", "etx", "eot", "enq", "ack", "bel", "bs", "ht", "nl", "vt", "ff", "cr", "so",
    "si", "dle", "dc1", "dc2", "dc3", "dc4", "nak", "syn", "etb", "can", "em", "sub", "esc", "fs",
    "gs", "rs", "us", "sp"]

/-- The format that a letter and a size describe. -/
def dumpFormat? (letter : Char) (size : Nat) : Option DumpFormat :=
  let value (bytes : List Char) : Nat := Digest.ofLowFirst (bytes.map Char.toNat)
  let zeros (width : Nat) (s : String) : String :=
    String.ofList (List.replicate (width - s.length) '0') ++ s
  let widest (base : Nat) : Nat := (inBase base (Nat.pow 256 size - 1)).length
  match letter with
  | 'c' => some ⟨1, 4, fun b => dumpChar (b.headD ' ')⟩
  | 'a' =>
    some ⟨1, 4, fun b =>
      let n := (b.headD ' ').toNat % 128
      if n = 127 then "del" else (byteNames[n]?).getD (String.singleton (Char.ofNat n))⟩
  | 'x' => some ⟨size, 2 * size + 1, fun b => zeros (2 * size) (inBase 16 (value b))⟩
  | 'o' => some ⟨size, widest 8 + 1, fun b => zeros (widest 8) (inBase 8 (value b))⟩
  | 'u' => some ⟨size, widest 10 + 1, fun b => toString (value b)⟩
  | 'd' =>
    some ⟨size, (toString (Nat.pow 256 size / 2)).length + 2, fun b =>
      let n := value b
      if Nat.pow 256 size ≤ 2 * n then "-" ++ toString (Nat.pow 256 size - n) else toString n⟩
  | _ => none

/-- The formats that a text of letters and sizes describes. -/
def dumpFormats? : Nat → List Char → Option (List DumpFormat)
  | 0, _ => none
  | _ + 1, [] => some []
  | fuel + 1, letter :: rest =>
    let digits := rest.takeWhile Char.isDigit
    let rest := rest.drop digits.length
    let rest := match rest with
      | 'z' :: r => r
      | r => r
    let (named, rest) : Option Nat × List Char :=
      match rest with
      | 'C' :: r => (some 1, r)
      | 'S' :: r => (some 2, r)
      | 'I' :: r => (some 4, r)
      | 'L' :: r => (some 8, r)
      | r => (none, r)
    let size := (named.orElse fun _ => (String.ofList digits).toNat?).getD 4
    match dumpFormat? letter size with
    | none => none
    | some f => (dumpFormats? fuel rest).map (f :: ·)

/-- The lines of a dump. A row like the one before is shown as a star, once. -/
def dumpLines (base : Nat) (shown : Bool) (formats : List DumpFormat) (width : Nat) :
    Nat → Nat → Option (List Char) → Bool → List Char → String
  | 0, _, _, _, _ => ""
  | fuel + 1, offset, before, starred, chars =>
    let address (n : Nat) : String :=
      if base = 0 then ""
      else
        let digits := inBase base n
        String.ofList (List.replicate ((if base = 16 then 6 else 7) - digits.length) '0') ++ digits
    if chars.isEmpty then (if base = 0 then "" else address offset ++ "\n")
    else
      let row := chars.take width
      let rest := chars.drop width
      if !shown && before == some row && row.length = width && !rest.isEmpty then
        (if starred then "" else "*\n") ++
          dumpLines base shown formats width fuel (offset + row.length) before true rest
      else
        -- columns of different formats stand under each other
        let unit := (formats.map fun f => (f.width + f.size - 1) / f.size).foldl max 1
        let texts := (formats.zipIdx).map fun (f, i) =>
          let pieces := chunks f.size (row.length + 1) row
          let line := String.join (pieces.map fun p => padLeft (max f.width (unit * f.size)) (f.show1 p))
          (if i = 0 then address offset
            else String.ofList (List.replicate (address offset).length ' ')) ++ line ++ "\n"
        String.join texts ++
          dumpLines base shown formats width fuel (offset + row.length) (some row) false rest

def od : Utility := fun call => call.withOptions "A:t:j:N:w::vabcdoxs" [("address-radix", 'A'),
    ("format", 't'), ("skip-bytes", 'j'), ("read-bytes", 'N'), ("width", 'w'),
    ("output-duplicates", 'v')] 1 fun o => do
  let texts := o.given.filterMap fun (c, v) =>
    if c == 't' then some v
    else [('a', "a"), ('b', "o1"), ('c', "c"), ('d', "u2"), ('o', "o2"), ('x', "x2"), ('s', "d2")].lookup c
  let formats? := (if texts.isEmpty then ["o2"] else texts).mapM fun t =>
    dumpFormats? (t.length + 1) t.toList
  match formats? with
  | none => call.fail ("invalid type string " ++ Quotes.always ((o.value? 't').getD ""))
  | some formats =>
    let base? := [("o", 8), ("d", 10), ("x", 16), ("n", 0)].lookup ((o.value? 'A').getD "o")
    match base? with
    | none =>
      call.fail ("invalid output address radix " ++ Quotes.always ((o.value? 'A').getD "") ++
        "; it must be one character from [doxn]")
    | some base =>
      let mut all := ""
      let mut code := 0
      for path in (if o.operands.isEmpty then ["-"] else o.operands) do
        match ← call.readFile path with
        | .ok text => all := all ++ text
        | .error fault =>
          call.say (Quotes.inMessage path ++ ": " ++ fault.reason)
          code := 1
      let skip := ((o.value? 'j').bind size?).getD 0
      let chars := all.toList.drop skip
      let chars := match (o.value? 'N').bind size? with
        | some n => chars.take n
        | none => chars
      let width := ((o.value? 'w').bind fun t => if t = "" then some 32 else t.toNat?).getD 16
      if code != 0 && all = "" then return code
      else
        emit call (dumpLines base (o.has 'v') formats.flatten (max width 1) (chars.length + 2) skip none
          false chars) code

end ReleaseKit.Utility
