/-
ReleaseKit.Text.Quoted — a text in double quotes, as an error message shows it.

Inside the quotes a backslash and a double quote take a backslash before them;
NUL, tab, line feed and carriage return have short forms; every other character
that would not be seen is written `\u` with its code in braces.
-/
import ReleaseKit.Text.Printable

namespace ReleaseKit.Text

/-- A number in lower-case hexadecimal digits, without leading zeros. -/
def hexDigits (n : Nat) : List Char := Nat.toDigits 16 n

/-- One character as a quoted text shows it. -/
def quotedChar (c : Char) : List Char :=
  match c.toNat with
  | 0x00 => ['\\', '0']
  | 0x09 => ['\\', 't']
  | 0x0A => ['\\', 'n']
  | 0x0D => ['\\', 'r']
  | 0x22 => ['\\', c]
  | 0x5C => ['\\', c]
  | n => if isPrintable c then [c] else ['\\', 'u', '\x7b'] ++ hexDigits n ++ ['\x7d']

/-- A text in double quotes. -/
def quoted (s : String) : String :=
  String.ofList ('\x22' :: s.toList.flatMap quotedChar ++ ['\x22'])

end ReleaseKit.Text
