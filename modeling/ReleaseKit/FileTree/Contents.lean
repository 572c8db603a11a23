/-
ReleaseKit.FileTree.Contents — what a file holds.

A file holds plain bytes, or it is an archive with one entry. An archive is kept
as what it means: the name of its entry and what the entry holds, which may be
an archive again. Its bytes are found where they are asked for, in
`FileTree.Zip`.
-/

namespace ReleaseKit

/-- What a file holds. -/
inductive Contents where
  | plain (bytes : ByteArray)
  /-- a zip archive with one entry, an executable file -/
  | archive (entry : String) (body : Contents)
deriving DecidableEq

namespace Contents

/-- An empty file. -/
def empty : Contents := plain ByteArray.empty

/-- A file that holds a text. -/
def ofText (s : String) : Contents := plain s.toUTF8

end Contents

end ReleaseKit
