/-
ReleaseKit.Fault — why the system refused something.

The file system, the start of a program and the streams of this program fail
for one of a few reasons. Each has one fixed text, which error messages repeat.
-/

namespace ReleaseKit

/-- A refusal of the system. -/
inductive Fault where
  | absent
  | denied
  | busy
  | occupied
  | notDirectory
  | isDirectory
  | invalid
  | tooLong
  | notEmpty
  | notText
  | nulInPath
  | nulInData
  | notRegular
  | echoClosed
  | other (text : String)
deriving DecidableEq, Repr

/-- The text of a refusal; a numbered one ends with its number. -/
def Fault.text : Fault → String
  | absent => "No such file or directory (os error 2)"
  | denied => "Permission denied (os error 13)"
  | busy => "Device or resource busy (os error 16)"
  | occupied => "File exists (os error 17)"
  | notDirectory => "Not a directory (os error 20)"
  | isDirectory => "Is a directory (os error 21)"
  | invalid => "Invalid argument (os error 22)"
  | tooLong => "File name too long (os error 36)"
  | notEmpty => "Directory not empty (os error 39)"
  | notText => "stream did not contain valid UTF-8"
  | nulInPath => "file name contained an unexpected NUL byte"
  | nulInData => "nul byte found in provided data"
  | notRegular => "the source path is neither a regular file nor a symlink to a regular file"
  | echoClosed => "echo closed"
  | other text => text

/-- The text of a refusal without its number, as programs show it. -/
def Fault.reason (fault : Fault) : String :=
  (fault.text.splitOn " (os error").headD ""

end ReleaseKit
