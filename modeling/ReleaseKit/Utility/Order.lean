/-
ReleaseKit.Utility.Order — sorting lines, and comparing sorted ones.

  §1 Keys      — which part of a line counts, and how: `SortKey`.
  §2 Sorting   — `sort`.
  §3 Runs      — `uniq`.
  §4 Two files — `comm`, `join`.
-/
import ReleaseKit.Utility.Lines

namespace ReleaseKit.Utility

/-! ## §1 Keys -/

/-- A part of a line to sort by. Fields and characters are counted from one; no last
field means the rest of the line, and no last character the rest of the field. -/
structure SortKey where
  field : Nat
  char : Nat
  last : Option (Nat × Nat)
  /-- letters that say how the part is compared -/
  manner : List Char

/-- Letters that say how keys are compared. -/
def mannerLetters : List Char := ['b', 'd', 'f', 'g', 'h', 'i', 'M', 'n', 'R', 'r', 'V']

/-- A key as it is written: two places with letters behind them. -/
def readKey (text : String) : Option SortKey :=
  let place (s : String) : Option (Nat × Nat × List Char) :=
    let chars := s.toList
    let field := chars.takeWhile Char.isDigit
    let (char, rest) :=
      match chars.drop field.length with
      | '.' :: r => (r.takeWhile Char.isDigit, r.dropWhile Char.isDigit)
      | r => ([], r)
    if field.isEmpty || !rest.all mannerLetters.contains then none
    else some (((String.ofList field).toNat?).getD 0, ((String.ofList char).toNat?).getD 0, rest)
  match text.splitOn "," with
  | [first] =>
    match place first with
    | some (f, c, letters) => if f = 0 then none else some ⟨f, c, none, letters⟩
    | none => none
  | [first, second] =>
    match place first, place second with
    | some (f, c, letters), some (g, d, more) =>
      if f = 0 || g = 0 then none else some ⟨f, c, some (g, d), letters ++ more⟩
    | _, _ => none
  | _ => none

def isBlankChar (c : Char) : Bool := c == ' ' || c == '\t'

/-- What is left of a line behind so many fields. -/
def dropFields (separator? : Option Char) : Nat → List Char → List Char
  | 0, chars => chars
  | n + 1, chars =>
    match separator? with
    | some c => dropFields separator? n ((chars.dropWhile (· != c)).drop 1)
    | none =>
      dropFields separator? n ((chars.dropWhile isBlankChar).dropWhile fun c => !isBlankChar c)

/-- The part of a line that a key is about. -/
def SortKey.part (k : SortKey) (separator? : Option Char) (line : List Char) : List Char :=
  let skip (chars : List Char) : List Char :=
    if k.manner.contains 'b' then chars.dropWhile isBlankChar else chars
  let start := (skip (dropFields separator? (k.field - 1) line)).drop (k.char - 1)
  let left : List Char :=
    match k.last with
    | none => []
    | some (field, 0) =>
      match separator? with
      | some c => (dropFields separator? (field - 1) line).dropWhile (· != c)
      | none => dropFields separator? field line
    | some (field, char) => (skip (dropFields separator? (field - 1) line)).drop char
  start.take (start.length - left.length)

/-- The number that a text starts with, as a fraction. -/
def leadingNumber (chars : List Char) : Int × Nat :=
  let (negative, rest) :=
    match chars.dropWhile isBlankChar with
    | '-' :: r => (true, r)
    | r => (false, r)
  let whole := rest.takeWhile Char.isDigit
  let part :=
    match rest.drop whole.length with
    | '.' :: r => r.takeWhile Char.isDigit
    | _ => []
  let value := Amount.ofDigits 10 (whole ++ part)
  (if negative then -(value : Int) else value, Nat.pow 10 part.length)

/-- The order of two fractions. -/
def compareFractions (a b : Int × Nat) : Ordering := compare (a.1 * b.2) (b.1 * a.2)

/-- The order of two texts by characters. -/
def compareChars : List Char → List Char → Ordering
  | [], [] => .eq
  | [], _ => .lt
  | _, [] => .gt
  | a :: s, b :: t => if a = b then compareChars s t else compare a.toNat b.toNat

/-- A text in pieces that are numbers and pieces that are not. -/
def versionPieces : Nat → List Char → List (List Char)
  | 0, _ => []
  | fuel + 1, chars =>
    let word := chars.takeWhile fun c => !c.isDigit
    let number := (chars.drop word.length).takeWhile Char.isDigit
    if chars.isEmpty then []
    else word :: number :: versionPieces fuel (chars.drop (word.length + number.length))

/-- The order of two versions. -/
def compareVersions : List (List Char) → List (List Char) → Ordering
  | [], [] => .eq
  | [], _ => .lt
  | _, [] => .gt
  | a :: s, b :: t =>
    let here :=
      if (a ++ b).all Char.isDigit then compare (Amount.ofDigits 10 a) (Amount.ofDigits 10 b)
      else compareChars a b
    here.then (compareVersions s t)

/-- The month that a text starts with; zero if none. -/
def monthNumber (chars : List Char) : Nat :=
  let name := String.ofList (((chars.dropWhile isBlankChar).take 3).map Char.toUpper)
  let months := ["JAN", "FEB", "MAR", "APR", "MAY", "JUN", "JUL", "AUG", "SEP", "OCT", "NOV", "DEC"]
  match months.findIdx? (· == name) with
  | some i => i + 1
  | none => 0

/-- The weight of the unit that follows a number. -/
def unitWeight (chars : List Char) : Nat :=
  let rest := (chars.dropWhile isBlankChar).dropWhile fun c => c.isDigit || c == '-' || c == '.'
  match rest with
  | c :: _ => (['K', 'M', 'G', 'T', 'P', 'E', 'Z', 'Y'].findIdx? (· == c.toUpper)).elim 0 (· + 1)
  | [] => 0

/-- A number as sorting by general value takes it; what is none comes first. -/
def generalValue (chars : List Char) : Nat × Int × Nat :=
  match Amount.read chars with
  | some (.finite negative num den, _) => (2, if negative then -(num : Int) else num, den)
  | some (.infinite true, _) => (2, -(Nat.pow 10 400 : Nat), 1)
  | some (.infinite false, _) => (2, (Nat.pow 10 400 : Nat), 1)
  | some (.undefined, _) => (1, 0, 1)
  | none => (0, 0, 1)

/-- The order of two parts in a manner. -/
def compareParts (manner : List Char) (a b : List Char) : Ordering :=
  let has (c : Char) : Bool := manner.contains c
  let shown (chars : List Char) : List Char :=
    let kept := if has 'd' then chars.filter fun c => c.isAlphanum || isBlankChar c else chars
    let kept := if has 'i' then kept.filter fun c => 32 ≤ c.toNat && c.toNat < 127 else kept
    if has 'f' then kept.map Char.toUpper else kept
  if has 'n' then compareFractions (leadingNumber a) (leadingNumber b)
  else if has 'g' then
    let (x, y) := (generalValue a, generalValue b)
    (compare x.1 y.1).then (compareFractions x.2 y.2)
  else if has 'h' then
    let sign (n : Int) : Int := if n < 0 then -1 else if n = 0 then 0 else 1
    let (x, y) := (leadingNumber a, leadingNumber b)
    let weight (n : Int × Nat) (chars : List Char) : Int := sign n.1 * (unitWeight chars + 1)
    (compare (weight x a) (weight y b)).then (compareFractions x y)
  else if has 'M' then compare (monthNumber a) (monthNumber b)
  else if has 'V' then
    compareVersions (versionPieces (a.length + 1) a) (versionPieces (b.length + 1) b)
  else compareChars (shown a) (shown b)

/-! ## §2 Sorting -/

/-- How lines are sorted. -/
structure SortOrder where
  keys : List SortKey
  manner : List Char
  separator? : Option Char
  stable : Bool

namespace SortOrder

/-- The order of two lines as far as the keys go. -/
def byKeys (s : SortOrder) (a b : List Char) : Ordering :=
  let turned (manner : List Char) (o : Ordering) : Ordering :=
    if manner.contains 'r' then o.swap else o
  if s.keys.isEmpty then
    let skip (chars : List Char) : List Char :=
      if s.manner.contains 'b' then chars.dropWhile isBlankChar else chars
    turned s.manner (compareParts s.manner (skip a) (skip b))
  else
    s.keys.foldl (fun found k =>
      found.then
        (let k := if k.manner.isEmpty then { k with manner := s.manner } else k
        turned k.manner (compareParts k.manner (k.part s.separator? a) (k.part s.separator? b)))) .eq

/-- The order of two lines; lines with equal keys are compared as a whole. -/
def compare (s : SortOrder) (a b : List Char) : Ordering :=
  (s.byKeys a b).then
    (if s.stable then .eq
    else if s.manner.contains 'r' then (compareChars a b).swap else compareChars a b)

end SortOrder

/-- A sorted list without the elements that are as the one before. -/
def dropEqual (same : List Char → List Char → Bool) : List (List Char) → List (List Char)
  | [] => []
  | a :: rest =>
    match dropEqual same rest with
    | [] => [a]
    | b :: more => if same a b then a :: more else a :: b :: more

/-- The first element that must not follow the one before, and its place. -/
def firstDisorder (bad : List Char → List Char → Bool) : Nat → List (List Char) →
    Option (Nat × List Char)
  | n, a :: b :: rest => if bad a b then some (n + 2, b) else firstDisorder bad (n + 1) (b :: rest)
  | _, _ => none

def sort : Utility := fun call => call.withOptions "bdfghiMnRrVcCk:o:st:uzmS:T:" [
    ("reverse", 'r'), ("numeric-sort", 'n'), ("unique", 'u'), ("key", 'k'), ("output", 'o'),
    ("field-separator", 't'), ("stable", 's'), ("ignore-case", 'f'), ("check", 'c'),
    ("merge", 'm'), ("version-sort", 'V'), ("human-numeric-sort", 'h'), ("general-numeric-sort", 'g'),
    ("month-sort", 'M'), ("dictionary-order", 'd'), ("ignore-leading-blanks", 'b'),
    ("zero-terminated", 'z')] 2 fun o => do
  let keyTexts := o.given.filterMap fun (c, v) => if c == 'k' then some v else none
  match keyTexts.find? fun text => (readKey text).isNone, o.value? 't' with
  | some bad, _ => call.fail ("invalid field specification " ++ Quotes.always bad) 2
  | none, some "" => call.fail "empty tab" 2
  | none, tab? =>
    let separator? := tab?.bind fun t => if t = "\\0" then some '\x00' else t.toList.head?
    if (tab?.getD "").length > 1 && tab? != some "\\0" then
      call.fail ("multi-character tab " ++ Quotes.always (tab?.getD "")) 2
    else
      let order : SortOrder := {
        keys := keyTexts.filterMap readKey
        manner := (o.given.map (·.1)).filter mannerLetters.contains
        separator?
        stable := o.has 's' || o.has 'u' }
      let stop : Char := if o.has 'z' then '\x00' else '\n'
      let mut texts := #[]
      for path in (if o.operands.isEmpty then ["-"] else o.operands) do
        match ← call.readFile path with
        | .ok text => texts := texts.push text
        | .error fault =>
          return ← call.fail ((if fault == .isDirectory then "read failed: " else "cannot read: ") ++
            Quotes.inMessage path ++ ": " ++ fault.reason) 2
      let lines := texts.toList.flatMap fun text =>
        let pieces := splitAtChar stop text.toList
        if pieces.getLast? == some [] then pieces.dropLast else pieces
      if o.has 'c' || o.has 'C' then
        let bad (a b : List Char) : Bool :=
          let r := order.compare a b
          r == .gt || (o.has 'u' && r == .eq)
        match firstDisorder bad 0 lines with
        | none => return 0
        | some (n, line) =>
          if o.has 'C' then return 1
          else
            call.fail ((o.operands.headD "-") ++ ":" ++ toString n ++ ": disorder: " ++
              String.ofList line)
      else
        let sorted := lines.mergeSort fun a b => order.compare a b != .gt
        let kept :=
          if o.has 'u' then dropEqual (fun a b => order.byKeys a b == .eq) sorted else sorted
        let output := String.join (kept.map fun line => String.ofList (line ++ [stop]))
        match o.value? 'o' with
        | none => emit call output
        | some path =>
          match ← Task.openPath path .writing with
          | .error fault => call.fail ("open failed: " ++ Quotes.inMessage path ++ ": " ++ fault.reason) 2
          | .ok index =>
            Task.assign 99 index
            let _ ← Task.write 99 output
            Task.close 99
            return 0

/-! ## §3 Runs -/

/-- Equal elements that follow each other, taken together. -/
def runs (same : String → String → Bool) : List String → List (List String)
  | [] => []
  | a :: rest =>
    match runs same rest with
    | (b :: group) :: more => if same a b then (a :: b :: group) :: more else [a] :: (b :: group) :: more
    | other => [a] :: other

def uniq : Utility := fun call => call.withOptions "cdDuif:s:w:z" [("count", 'c'), ("repeated", 'd'),
    ("unique", 'u'), ("ignore-case", 'i'), ("skip-fields", 'f'), ("skip-chars", 's'),
    ("check-chars", 'w'), ("all-repeated", 'D')] 1 fun o => do
  let number (c : Char) : Option Nat := (o.value? c).bind String.toNat?
  let key (line : String) : List Char :=
    let rest := (dropFields none ((number 'f').getD 0) line.toList).drop ((number 's').getD 0)
    let rest := match number 'w' with
      | some n => rest.take n
      | none => rest
    if o.has 'i' then rest.map Char.toLower else rest
  match o.operands with
  | _ :: _ :: extra :: _ => call.usage ("extra operand " ++ Quotes.always extra)
  | _ =>
    match ← call.readFile (o.operands.headD "-") with
    | .error fault => call.fail (Quotes.inMessage (o.operands.headD "-") ++ ": " ++ fault.reason)
    | .ok text =>
      let groups := runs (fun a b => key a == key b) (linesOf text)
      let shown := groups.flatMap fun group =>
        let single := group.length = 1
        if (o.has 'd' || o.has 'D') && single || o.has 'u' && !single then []
        else if o.has 'D' then group
        else
          [(if o.has 'c' then padLeft 7 (toString group.length) ++ " " else "") ++ group.headD ""]
      let output := String.join (shown.map (· ++ "\n"))
      match o.operands with
      | [_, path] =>
        match ← Task.openPath path .writing with
        | .error fault => call.fail (Quotes.inMessage path ++ ": " ++ fault.reason)
        | .ok index =>
          Task.assign 99 index
          let _ ← Task.write 99 output
          Task.close 99
          return 0
      | _ => emit call output

/-! ## §4 Two files -/

/-- The lines of two sorted lists side by side: one of the first, of the second, or of
both. -/
def sideBySide : Nat → List String → List String → List (Nat × String)
  | 0, _, _ => []
  | _ + 1, [], [] => []
  | fuel + 1, a :: s, [] => (1, a) :: sideBySide fuel s []
  | fuel + 1, [], b :: t => (2, b) :: sideBySide fuel [] t
  | fuel + 1, a :: s, b :: t =>
    match compareChars a.toList b.toList with
    | .eq => (3, a) :: sideBySide fuel s t
    | .lt => (1, a) :: sideBySide fuel s (b :: t)
    | .gt => (2, b) :: sideBySide fuel (a :: s) t

/-- Whether lines are sorted. -/
def areSorted (lines : List String) : Bool :=
  (firstDisorder (fun a b => compareChars a b == .gt) 0 (lines.map String.toList)).isNone

/-- Reads two files that are both needed. -/
def readTwo (call : Call) (paths : List String) : Task (Except Nat (String × String)) := do
  match paths with
  | [] => return .error (← call.usage "missing operand")
  | [path] => return .error (← call.usage ("missing operand after " ++ Quotes.always path))
  | [a, b] =>
    match ← call.readFile a with
    | .error fault => return .error (← call.fail (Quotes.inMessage a ++ ": " ++ fault.reason))
    | .ok s =>
      match ← call.readFile b with
      | .error fault => return .error (← call.fail (Quotes.inMessage b ++ ": " ++ fault.reason))
      | .ok t => return .ok (s, t)
  | _ :: _ :: extra :: _ => return .error (← call.usage ("extra operand " ++ Quotes.always extra))

def comm : Utility := fun call => call.withOptions "123z" [("output-delimiter", 'z')] 1 fun o => do
  match ← readTwo call o.operands with
  | .error code => return code
  | .ok (s, t) =>
    let (a, b) := (linesOf s, linesOf t)
    let first := if o.has '1' then "" else "\t"
    let second := if o.has '2' then "" else "\t"
    let shown := (sideBySide (a.length + b.length + 1) a b).filterMap fun (column, line) =>
      match column with
      | 1 => if o.has '1' then none else some (line ++ "\n")
      | 2 => if o.has '2' then none else some (first ++ line ++ "\n")
      | _ => if o.has '3' then none else some (first ++ second ++ line ++ "\n")
    let code ← emit call (String.join shown)
    let unsorted := [(1, a), (2, b)].filter fun (_, lines) => !areSorted lines
    for (n, _) in unsorted do
      call.say ("file " ++ toString n ++ " is not in sorted order")
    if unsorted.isEmpty then return code
    else call.fail "input is not in sorted order"

/-- A line in fields: between separators, or between blanks. -/
def fieldsOf (separator? : Option Char) (line : String) : List String :=
  match separator? with
  | some c => (splitAtChar c line.toList).map String.ofList
  | none =>
    ((line.toList.splitBy fun a b => isBlankChar a == isBlankChar b).filter fun w =>
      !(w.headD ' ' |> isBlankChar)).map String.ofList

/-- The lines of two files that have a field in common, put together. -/
def join : Utility := fun call => call.withOptions "1:2:j:t:a:v:o:e:i" [] 1 fun o => do
  match ← readTwo call o.operands with
  | .error code => return code
  | .ok (s, t) =>
    let number (c : Char) : Nat :=
      (((o.value? c).orElse fun _ => o.value? 'j').bind String.toNat?).getD 1
    let separator? := (o.value? 't').bind fun text => text.toList.head?
    let glue := match separator? with
      | some c => String.singleton c
      | none => " "
    let rows (text : String) (n : Nat) : List (String × List String) :=
      (linesOf text).map fun line =>
        let fields := fieldsOf separator? line
        ((fields[n - 1]?).getD "", fields)
    let others (n : Nat) (fields : List String) : List String := fields.eraseIdx (n - 1)
    let (n, m) := (number '1', number '2')
    let (a, b) := (rows s n, rows t m)
    let filler := (o.value? 'e').getD ""
    let chosen (key : String) (x y : Option (List String)) : String :=
      match o.value? 'o' with
      | none | some "auto" =>
        String.intercalate glue
          (key :: others n (x.getD []) ++ others m (y.getD []))
      | some spec =>
        let fields := (spec.splitOn ",").flatMap (·.splitOn " ")
        String.intercalate glue (fields.map fun field =>
          match field.splitOn "." with
          | ["1", k] => ((x.getD [])[(k.toNat?.getD 1) - 1]?).getD filler
          | ["2", k] => ((y.getD [])[(k.toNat?.getD 1) - 1]?).getD filler
          | _ => key)
    let wants (letter : Char) (file : String) : Bool := o.given.contains (letter, file)
    let isPaired := !o.has 'v'
    let paired := a.flatMap fun (key, x) =>
      let partners := b.filter fun (other, _) => other == key
      if partners.isEmpty then
        (if wants 'a' "1" || wants 'v' "1" then [(key, chosen key (some x) none)] else [])
      else if isPaired then partners.map fun (_, y) => (key, chosen key (some x) (some y))
      else []
    let alone := (b.filter fun (key, _) => !a.any fun (other, _) => other == key).filterMap
      fun (key, y) =>
        if wants 'a' "2" || wants 'v' "2" then some (key, chosen key none (some y)) else none
    let all := (paired ++ alone).mergeSort fun x y => compareChars x.1.toList y.1.toList != .gt
    emit call (String.join (all.map fun (_, line) => line ++ "\n"))

end ReleaseKit.Utility
