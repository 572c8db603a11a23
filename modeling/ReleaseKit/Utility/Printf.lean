/-
ReleaseKit.Utility.Printf — texts with escapes, and formats with conversions.

A format is written again and again until no argument is left. Its escapes stand
for bytes and its conversions for arguments. The shells and the program of the
system differ in which escapes they know and in what they say of an argument
that is no number; a `Style` says how.

  §1 Styles       — `Style`, what is said of a wrong argument.
  §2 Escapes      — `readEscape`, `unescape`.
  §3 Numbers      — integers with their wrapping, and what was wrong with them.
  §4 Conversions  — flags, width, precision, and the texts they make.
  §5 Formats      — `write`.
-/
import ReleaseKit.Machine.Utility
import ReleaseKit.Number.Notation

namespace ReleaseKit.Printf

/-! ## §1 Styles -/

/-- Who writes the format. -/
inductive Style where
  | posixShell
  | bash
  | program
deriving DecidableEq, Repr

/-- What has been written so far, what has been said about it, and whether
writing goes on. -/
structure Written where
  output : List Char := []
  complaints : List String := []
  code : Nat := 0
  /-- no more is written -/
  stopped : Bool := false

namespace Written

def put (w : Written) (chars : List Char) : Written := { w with output := w.output ++ chars }

def warn (w : Written) (line : String) : Written :=
  { w with complaints := w.complaints ++ [line], code := 1 }

def stop (w : Written) (line : String) (code : Nat) : Written :=
  { w with complaints := w.complaints ++ [line], code := code, stopped := true }

end Written

/-! ## §2 Escapes -/

def isOctal (c : Char) : Bool := '0' ≤ c && c ≤ '7'

/-- The byte of a number. -/
def byteOf (n : Nat) : Char := Char.ofNat (n % 256)

/-- The byte of a lettered escape. -/
def letterEscape (c : Char) : Option Char :=
  [('a', '\x07'), ('b', '\x08'), ('e', '\x1b'), ('f', '\x0c'), ('n', '\n'), ('r', '\r'),
    ('t', '\t'), ('v', '\x0b'), ('\\', '\\')].lookup c

/-- The bytes that a code point is written in; one that is not ASCII stays an
escape, for want of a character set. -/
def codePoint (n : Nat) : List Char :=
  if n < 128 then [Char.ofNat n]
  else
    let digits := (Nat.toDigits 16 n).map Char.toUpper
    let (letter, width) := if n < 65536 then ('u', 4) else ('U', 8)
    '\\' :: letter :: List.replicate (width - digits.length) '0' ++ digits

/-- What an escape stands for, read from behind its backslash, and what follows.
`zero` says that octal digits may come after a zero of their own. -/
def readEscape (style : Style) (zero : Bool) (chars : List Char) :
    Except String (List Char × List Char) :=
  match chars with
  | [] => .ok (['\\'], [])
  | c :: rest =>
    if isOctal c then
      let most := if zero && c = '0' then 4 else 3
      let taken := (chars.take most).takeWhile isOctal
      .ok ([byteOf (Amount.ofDigits 8 taken)], chars.drop taken.length)
    else
      match letterEscape c with
      | some byte => .ok ([byte], rest)
      | none =>
        if style = .posixShell then .ok (['\\', c], rest)
        else if c = '\x22' || (c = '\x27' && style = .bash) then .ok ([c], rest)
        else if c = 'E' && style = .bash then .ok (['\x1b'], rest)
        else if c = 'x' then
          let taken := (rest.take 2).takeWhile Amount.isHex
          if taken.isEmpty then
            if style = .program then .error "missing hexadecimal number in escape"
            else .ok (['\\', 'x'], rest)
          else .ok ([byteOf (Amount.ofDigits 16 taken)], rest.drop taken.length)
        else if c = 'u' || c = 'U' then
          let taken := (rest.take (if c = 'u' then 4 else 8)).takeWhile Amount.isHex
          if taken.isEmpty then
            if style = .program then .error "missing hexadecimal number in escape"
            else .ok (['\\', c], rest)
          else .ok (codePoint (Amount.ofDigits 16 taken), rest.drop taken.length)
        else .ok (['\\', c], rest)

/-- A text with its escapes replaced, and whether it went on to its end: the
escape `\c` ends all output. The number bounds the characters. -/
def unescapeWithin (style : Style) : Nat → List Char → List Char × Bool
  | 0, _ => ([], true)
  | _ + 1, [] => ([], true)
  | _ + 1, '\\' :: 'c' :: _ => ([], false)
  | fuel + 1, '\\' :: rest =>
    match readEscape style true rest with
    | .error _ => ([], false)
    | .ok (bytes, rest) =>
      let (more, ended) := unescapeWithin style fuel rest
      (bytes ++ more, ended)
  | fuel + 1, c :: rest =>
    let (more, ended) := unescapeWithin style fuel rest
    (c :: more, ended)

def unescape (style : Style) (chars : List Char) : List Char × Bool :=
  unescapeWithin style (chars.length + 1) chars

/-! ## §3 Numbers -/

/-- What is wrong with an argument that should be a number. -/
inductive NumberFault where
  | none
  | notNumeric
  | trailing
  | outOfRange
deriving DecidableEq, Repr

/-- Two to the 63rd and 64th power: the bounds of the integers of a machine. -/
def half : Nat := 9223372036854775808

def whole : Nat := 18446744073709551616

/-- The digits of an integer with a C-style base, and the base. -/
def integerDigits (chars : List Char) : Nat × List Char × List Char :=
  match chars with
  | '0' :: x :: rest =>
    if x.toLower = 'x' then
      let taken := rest.takeWhile Amount.isHex
      if taken.isEmpty then (16, ['0'], x :: rest) else (16, taken, rest.drop taken.length)
    else
      let taken := (x :: rest).takeWhile isOctal
      (8, '0' :: taken, (x :: rest).drop taken.length)
  | _ =>
    let taken := chars.takeWhile Char.isDigit
    (10, taken, chars.drop taken.length)

/-- An argument as an integer, signed or not, and what is wrong with it. -/
def readInteger (signed : Bool) (arg : List Char) : Int × NumberFault :=
  match arg with
  | '\x27' :: c :: _ => (c.toNat, .none)
  | '\x22' :: c :: _ => (c.toNat, .none)
  | _ =>
    let start := arg.dropWhile Char.isWhitespace
    let (negative, rest) :=
      match start with
      | '-' :: r => (true, r)
      | '+' :: r => (false, r)
      | r => (false, r)
    let (base, digits, left) := integerDigits rest
    if digits.isEmpty then (0, if arg.isEmpty then .none else .notNumeric)
    else
      let n := Amount.ofDigits base digits
      let fault : NumberFault := if left.isEmpty then .none else .trailing
      if signed then
        if negative then
          if half < n then (-(half : Int), .outOfRange) else (-(n : Int), fault)
        else if half ≤ n then ((half : Int) - 1, .outOfRange) else ((n : Int), fault)
      else if whole ≤ n then ((whole : Int) - 1, .outOfRange)
      else (if negative then ((whole : Int) - n) % whole else (n : Int), fault)

/-- What is said of an argument that is no number. -/
def complaint (style : Style) (arg : String) : NumberFault → Option String
  | .none => Option.none
  | .notNumeric => some (match style with
    | .posixShell => arg ++ ": expected numeric value"
    | .bash => arg ++ ": invalid number"
    | .program => Quotes.always arg ++ ": expected a numeric value")
  | .trailing => some (match style with
    | .posixShell => arg ++ ": not completely converted"
    | .bash =>
      if arg.startsWith "0x" then arg ++ ": invalid hex number"
      else if arg.startsWith "0" && arg.toList.all Char.isDigit then
        arg ++ ": invalid octal number"
      else arg ++ ": invalid number"
    | .program => Quotes.always arg ++ ": value not completely converted")
  | .outOfRange => some (match style with
    | .posixShell => arg ++ ": Numerical result out of range"
    | .bash => "warning: " ++ arg ++ ": Numerical result out of range"
    | .program => Quotes.always arg ++ ": Numerical result out of range")

/-! ## §4 Conversions -/

/-- A conversion of a format. -/
structure Conversion where
  flags : List Char
  width : Nat
  precision : Option Nat
  letter : Char

namespace Conversion

def has (c : Conversion) (flag : Char) : Bool := c.flags.contains flag

/-- A text in its width. -/
def fillText (c : Conversion) (text : List Char) : List Char :=
  let missing := List.replicate (c.width - text.length) ' '
  if c.has '-' then text ++ missing else missing ++ text

/-- A sign and digits in their width. -/
def fillNumber (c : Conversion) (zeros : Bool) (sign digits : List Char) : List Char :=
  let missing := c.width - sign.length - digits.length
  if c.has '-' then sign ++ digits ++ List.replicate missing ' '
  else if c.has '0' && zeros then sign ++ List.replicate missing '0' ++ digits
  else List.replicate missing ' ' ++ sign ++ digits

/-- The sign of a number that may be signed. -/
def signOf (c : Conversion) (negative : Bool) : List Char :=
  if negative then ['-'] else if c.has '+' then ['+'] else if c.has ' ' then [' '] else []

/-- An integer by the letter of the conversion. -/
def integer (c : Conversion) (n : Int) : List Char :=
  let base := if c.letter = 'o' then 8 else if c.letter.toLower = 'x' then 16 else 10
  let magnitude := n.natAbs
  let plain := if magnitude = 0 && c.precision == some 0 then [] else Nat.toDigits base magnitude
  let plain := List.replicate (c.precision.getD 0 - plain.length) '0' ++ plain
  let plain := if c.letter = 'o' && c.has '#' && plain.head? != some '0' then '0' :: plain else plain
  let mark := if base = 16 && c.has '#' && magnitude != 0 then ['0', 'x'] else []
  let sign := if c.letter = 'd' || c.letter = 'i' then c.signOf (n < 0) else []
  let text := c.fillNumber c.precision.isNone (sign ++ mark) plain
  if c.letter = 'X' then text.map Char.toUpper else text

/-- A real number by the letter of the conversion. -/
def real (c : Conversion) (a : Amount) : List Char :=
  let letter := c.letter.toLower
  let digits := a.digits letter (c.has '#') (c.precision.getD 6)
  let finite : Bool :=
    match a with
    | .finite _ _ _ => true
    | _ => false
  let text := c.fillNumber finite (c.signOf a.isNegative) digits
  if c.letter.isUpper then text.map Char.toUpper else text

end Conversion

/-- How many significant bits the reals of a style have. -/
def bitsOf (style : Style) : Nat := if style = .posixShell then 53 else 64

/-- An argument as a real number, and what is wrong with it. -/
def readReal (style : Style) (arg : List Char) : Amount × NumberFault :=
  match arg with
  | '\x27' :: c :: _ => (.finite false c.toNat 1, .none)
  | '\x22' :: c :: _ => (.finite false c.toNat 1, .none)
  | [] => (.finite false 0 1, .none)
  | _ =>
    match Amount.read arg with
    | none => (.finite false 0 1, .notNumeric)
    | some (a, rest) =>
      let rounded := a.round (bitsOf style)
      let fault : NumberFault :=
        match a, rounded with
        | .finite _ _ _, .infinite _ => .outOfRange
        | _, _ => if rest.isEmpty then .none else .trailing
      (rounded, fault)

/-! ## §5 Formats -/

/-- An argument, the first of those that are left. -/
def nextArg (args : List String) : String × List String := (args.headD "", args.tail)

/-- A number in a format: digits, or a star for an argument. -/
def readCount (style : Style) (w : Written) (chars : List Char) (args : List String) :
    Option Int × Written × List Char × List String :=
  match chars with
  | '*' :: rest =>
    let (arg, left) := nextArg args
    let (n, fault) := readInteger true arg.toList
    (some n, (match complaint style arg fault with
      | some line => w.warn line
      | none => w), rest, left)
  | _ =>
    let digits := chars.takeWhile Char.isDigit
    (if digits.isEmpty then none else some (Amount.ofDigits 10 digits), w,
      chars.drop digits.length, args)

/-- The flags, width, precision and letter behind a percent sign; the text of the
conversion; and what follows. -/
def readConversion (style : Style) (w : Written) (chars : List Char) (args : List String) :
    Option Conversion × List Char × Written × List Char × List String :=
  let isFlag (c : Char) : Bool :=
    ['-', '+', ' ', '#', '0'].contains c || (style != .posixShell && c == '\x27')
  let flags := chars.takeWhile isFlag
  let (width, w, rest, args) := readCount style w (chars.drop flags.length) args
  let flags := if (width.getD 0) < 0 then '-' :: flags else flags
  let (precision, w, rest, args) :=
    match rest with
    | '.' :: r =>
      let (n, w, r, args) := readCount style w r args
      (match n with
        | none => some 0
        | some n => if n < 0 then none else some n.toNat, w, r, args)
    | _ => (none, w, rest, args)
  let rest := if style = .posixShell then rest else rest.dropWhile ['h', 'l', 'L', 'j', 'z', 't'].contains
  let shown := chars.take (chars.length - rest.length)
  match rest with
  | letter :: after =>
    (some ⟨flags, (width.getD 0).natAbs, precision, letter⟩, shown ++ [letter], w, after, args)
  | [] => (none, shown, w, [], args)

/-- What stops a format with a conversion that does not exist. -/
def badConversion (style : Style) (w : Written) (shown : List Char) (letter : Option Char) :
    Written :=
  let text := "%" ++ String.ofList shown
  match style, letter with
  | .posixShell, none => w.stop "missing format character" 2
  | .posixShell, some _ => w.stop (text ++ ": invalid directive") 2
  | .program, _ => w.stop (text ++ ": invalid conversion specification") 1
  | .bash, some c =>
    w.stop ("\x60" ++ String.singleton c ++ "': invalid format character") 1
  | .bash, none => w.stop ("\x60" ++ text ++ "': missing format character") 1

/-- What a conversion writes of an argument; nothing if there is no such
conversion. -/
def convert (style : Style) (quote : String → String) (c : Conversion) (arg : String)
    (w : Written) : Option Written :=
  let checked (w : Written) (fault : NumberFault) : Written :=
    match complaint style arg fault with
    | some line =>
      let warned := w.warn line
      if style = .bash && fault = .outOfRange then { warned with code := w.code } else warned
    | none => w
  if c.letter = 's' then
    if style = .program && (c.has '0' || c.has '#') then none
    else
      let text := arg.toList
      some (w.put ({ c with flags := c.flags.filter (· != '0') }.fillText
        (match c.precision with
          | some n => text.take n
          | none => text)))
  else if c.letter = 'b' then
    let (text, goesOn) := unescape style arg.toList
    let text :=
      match c.precision with
      | some n => text.take n
      | none => text
    let w := w.put (c.fillText text)
    some (if goesOn then w else { w with stopped := true })
  else if c.letter = 'q' && style != .posixShell then
    some (w.put (c.fillText (quote arg).toList))
  else if c.letter = 'c' then
    if style = .program && (c.has '0' || c.precision.isSome) then none
    else some (w.put (c.fillText (if arg.isEmpty then ['\x00'] else arg.toList.take 1)))
  else if c.letter = 'd' || c.letter = 'i' then
    let (n, fault) := readInteger true arg.toList
    some ((checked w fault).put (c.integer n))
  else if ['u', 'o', 'x', 'X'].contains c.letter then
    let (n, fault) := readInteger false arg.toList
    some ((checked w fault).put (c.integer n))
  else if ['e', 'E', 'f', 'F', 'g', 'G'].contains c.letter then
    let (a, fault) := readReal style arg.toList
    some ((checked w fault).put (c.real a))
  else none

/-- One pass through a format, and the arguments that are left. -/
def pass (style : Style) (quote : String → String) : Nat → List Char → List String → Written →
    Written × List String
  | 0, _, args, w => (w, args)
  | _ + 1, [], args, w => (w, args)
  | fuel + 1, '\\' :: rest, args, w =>
    match style, rest with
    | .program, 'c' :: _ => ({ w with stopped := true }, args)
    | _, _ =>
      match readEscape style false rest with
      | .error line => (w.stop line 1, args)
      | .ok (bytes, after) => pass style quote fuel after args (w.put bytes)
  | fuel + 1, '%' :: '%' :: rest, args, w => pass style quote fuel rest args (w.put ['%'])
  | fuel + 1, '%' :: rest, args, w =>
    match readConversion style w rest args with
    | (none, shown, w, _, left) => (badConversion style w shown none, left)
    | (some c, shown, w, after, left) =>
      let (arg, left) := nextArg left
      match convert style quote c arg w with
      | none => (badConversion style w shown (some c.letter), left)
      | some w => if w.stopped then (w, left) else pass style quote fuel after left w
  | fuel + 1, c :: rest, args, w => pass style quote fuel rest args (w.put [c])

/-- Goes through a format until no argument is left, or none is taken. -/
def passes (style : Style) (quote : String → String) (format : List Char) :
    Nat → List String → Written → Written × List String
  | 0, args, w => (w, args)
  | fuel + 1, args, w =>
    let (w, left) := pass style quote (format.length + 1) format args w
    if w.stopped || left.isEmpty || left.length = args.length then (w, left)
    else passes style quote format fuel left w

/-- What a format writes of arguments, and the arguments that it leaves. -/
def write (style : Style) (quote : String → String) (format : String) (args : List String) :
    Written × List String :=
  passes style quote format.toList (args.length + 1) args {}

/-- What `echo` writes: its arguments with blanks between them and a line break
at the end, unless it is left out or the text ends all output. -/
def echo (style : Style) (escapes bare : Bool) (words : List String) : String :=
  let text := (String.intercalate " " words).toList
  let (chars, ended) := if escapes then unescape style text else (text, true)
  String.ofList (if ended && !bare then chars ++ ['\n'] else chars)

end ReleaseKit.Printf
