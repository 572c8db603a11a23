/-
ReleaseKit.Json — JSON documents and their two written forms.

Reports and manifests are written as JSON. The compact form has no blanks; the
indented form puts every item and member on a line of its own, two spaces
deeper than its container, and leaves an empty container closed up.

In a string the quote and the backslash take a backslash, five controls have
short forms, the other controls are written with four hexadecimal digits, and
every other character is written as itself.
-/

namespace ReleaseKit

/-- A JSON document. Members keep their order. -/
inductive Json where
  | bool (value : Bool)
  | nat (value : Nat)
  | text (value : String)
  | array (items : List Json)
  | object (members : List (String × Json))

namespace Json

/-! ## §1 Strings -/

/-- One hexadecimal digit, lower case. -/
def hexDigit (n : Nat) : Char := Char.ofNat (if n < 10 then 0x30 + n else 0x57 + n)

/-- A character as it stands inside a JSON string. -/
def escapeChar (c : Char) : List Char :=
  if c = '\x22' then ['\\', '\x22']
  else if c = '\\' then ['\\', '\\']
  else if c = '\x08' then ['\\', 'b']
  else if c = '\x0c' then ['\\', 'f']
  else if c = '\n' then ['\\', 'n']
  else if c = '\r' then ['\\', 'r']
  else if c = '\t' then ['\\', 't']
  else if c.toNat < 0x20 then
    ['\\', 'u', '0', '0', hexDigit (c.toNat / 16), hexDigit (c.toNat % 16)]
  else [c]

/-- A text as a JSON string, with its quotes. -/
def stringChars (s : String) : List Char :=
  '\x22' :: s.toList.flatMap escapeChar ++ ['\x22']

/-! ## §2 The compact form -/

mutual

def compactChars : Json → List Char
  | bool b => if b then ['t', 'r', 'u', 'e'] else ['f', 'a', 'l', 's', 'e']
  | nat n => Nat.toDigits 10 n
  | text s => stringChars s
  | array items => '[' :: compactItems items ++ [']']
  | object members => '\x7b' :: compactMembers members ++ ['\x7d']

def compactItems : List Json → List Char
  | [] => []
  | [item] => compactChars item
  | item :: rest => compactChars item ++ ',' :: compactItems rest

def compactMembers : List (String × Json) → List Char
  | [] => []
  | [(key, value)] => stringChars key ++ ':' :: compactChars value
  | (key, value) :: rest =>
    stringChars key ++ ':' :: compactChars value ++ ',' :: compactMembers rest

end

/-- The compact form. -/
def compact (j : Json) : String := String.ofList j.compactChars

/-! ## §3 The indented form -/

/-- A line break and the indentation of depth `depth`. -/
def lineBreak (depth : Nat) : List Char := '\n' :: List.replicate (2 * depth) ' '

mutual

def indentedChars (depth : Nat) : Json → List Char
  | bool b => if b then ['t', 'r', 'u', 'e'] else ['f', 'a', 'l', 's', 'e']
  | nat n => Nat.toDigits 10 n
  | text s => stringChars s
  | array [] => ['[', ']']
  | array (item :: rest) =>
    '[' :: lineBreak (depth + 1) ++ indentedChars (depth + 1) item ++
      indentedItems (depth + 1) rest ++ lineBreak depth ++ [']']
  | object [] => ['\x7b', '\x7d']
  | object ((key, value) :: rest) =>
    '\x7b' :: lineBreak (depth + 1) ++ stringChars key ++ [':', ' '] ++
      indentedChars (depth + 1) value ++ indentedMembers (depth + 1) rest ++
      lineBreak depth ++ ['\x7d']

/-- The items after the first one, each with the comma before it. -/
def indentedItems (depth : Nat) : List Json → List Char
  | [] => []
  | item :: rest =>
    ',' :: lineBreak depth ++ indentedChars depth item ++ indentedItems depth rest

/-- The members after the first one, each with the comma before it. -/
def indentedMembers (depth : Nat) : List (String × Json) → List Char
  | [] => []
  | (key, value) :: rest =>
    ',' :: lineBreak depth ++ stringChars key ++ [':', ' '] ++ indentedChars depth value ++
      indentedMembers depth rest

end

/-- The indented form. -/
def indented (j : Json) : String := String.ofList (j.indentedChars 0)

/-- A list of texts as an array. -/
def texts (l : List String) : Json := array (l.map text)

end Json

end ReleaseKit
