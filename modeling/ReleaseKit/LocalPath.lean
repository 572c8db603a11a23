/-
ReleaseKit.LocalPath — paths on the local disk.

A path is kept as it is written, byte for byte; nothing is normalised. What it means is
read off its pieces, which stand between its slashes: an empty piece and a dot say
nothing (but for a dot that starts a relative path), two dots go up, and every
other piece is a name. All this looks at the code of the path (`OsText`). Messages and
commands repeat its text, which is what shows of it: a program that is handed the text of a
path that is not text works on another path (`asShown`).

  §1 Pieces           — `rooted`, `pieces` and the path they make again.
  §2 Joining          — `join` replaces the left side by an absolute right side.
  §3 Components       — what the path says, from the root or the working
                        directory outwards.
  §4 Last component   — `fileName` and `parent`.
-/
import ReleaseKit.OsText

namespace ReleaseKit

/-! ## §1 Pieces -/

/-- The texts between the separators in `l`: always one more than there are
separators. -/
def splitAtChar (sep : Char) : List Char → List (List Char)
  | [] => [[]]
  | c :: rest =>
    if c = sep then [] :: splitAtChar sep rest
    else
      match splitAtChar sep rest with
      | [] => [[c]]
      | piece :: pieces => (c :: piece) :: pieces

theorem splitAtChar_ne_nil (sep : Char) (l : List Char) : splitAtChar sep l ≠ [] := by
  cases l with
  | nil => simp [splitAtChar]
  | cons c rest =>
    unfold splitAtChar
    split
    · simp
    · split <;> simp

/-- A path, as it is written. -/
structure LocalPath where
  os : OsText
deriving DecidableEq, Repr

namespace LocalPath

def code (p : LocalPath) : String := p.os.code

/-- What shows of a path: what shows of the texts between its slashes. It is the code itself, if
nothing is marked in it. -/
def text (p : LocalPath) : String :=
  if OsText.mark ∈ p.code.toList then
    String.intercalate "/" ((splitAtChar '/' p.code.toList).map fun piece =>
      (OsText.mk (String.ofList piece)).shown)
  else p.code

/-- The path that a text is taken for. -/
def ofText (text : String) : LocalPath := ⟨text⟩

/-- The path that a program takes the text of a path for. -/
def asShown (p : LocalPath) : LocalPath := ofText p.text

/-- Whether the bytes of a path are UTF-8. -/
def isText (p : LocalPath) : Bool := p.os.isText

/-- The path of a code. -/
def ofCode (code : String) : LocalPath := ⟨⟨code⟩⟩

@[simp] theorem code_ofCode (code : String) : (ofCode code).code = code := rfl

/-- Whether the path starts at the root. -/
def rooted (p : LocalPath) : Bool := p.code.toList.head? == some '/'

/-- What stands between the slashes, without the slash of the root. -/
def pieces (p : LocalPath) : List String :=
  (splitAtChar '/' (if p.rooted then p.code.toList.drop 1 else p.code.toList)).map String.ofList

/-- The path with the given root and pieces. -/
def ofPieces (rooted : Bool) (pieces : List String) : LocalPath :=
  ofCode ((if rooted then "/" else "") ++ String.intercalate "/" pieces)

def isEmpty (p : LocalPath) : Bool := p.code.isEmpty

/-! ## §2 Joining -/

/-- `right` seen from `left`. An absolute `right` stands for itself; otherwise
one slash is put between the two unless `left` is empty or ends with one. -/
def join (left : LocalPath) (right : OsText) : LocalPath :=
  if right.code.toList.head? = some '/' then ⟨right⟩
  else if left.code = "" ∨ left.code.toList.getLast? = some '/' then
    ofCode (left.code ++ right.code)
  else ofCode (left.code ++ "/" ++ right.code)

/-! ## §3 Components -/

/-- One step of a path. -/
inductive Component where
  | root
  | here
  | up
  | name (name : OsText)
deriving DecidableEq, Repr

/-- The components that pieces stand for; `leading` says that nothing has been
read of a relative path, so that a dot counts. -/
def componentsOf (leading : Bool) : List String → List Component
  | [] => []
  | piece :: rest =>
    if piece = "" then componentsOf false rest
    else if piece = "." then
      if leading then .here :: componentsOf false rest else componentsOf false rest
    else if piece = ".." then .up :: componentsOf false rest
    else .name ⟨piece⟩ :: componentsOf false rest

def components (p : LocalPath) : List Component :=
  if p.rooted then .root :: componentsOf false p.pieces else componentsOf true p.pieces

/-! ## §4 Last component -/

/-- Drops from pieces, the last one first, those that say nothing. -/
def dropSilent (rooted : Bool) : List String → List String
  | [] => []
  | piece :: before =>
    if piece = "" ∨ (piece = "." ∧ (rooted = true ∨ before ≠ [])) then dropSilent rooted before
    else piece :: before

/-- The pieces up to the last one that is a component, that one first. -/
def significant (p : LocalPath) : List String := dropSilent p.rooted p.pieces.reverse

/-- The name that a path ends with, if it ends with one. -/
def fileName (p : LocalPath) : Option OsText :=
  match p.significant with
  | piece :: _ => if piece = "." ∨ piece = ".." then none else some ⟨piece⟩
  | [] => none

/-- The path without its last component: none for the root and the empty path. -/
def parent (p : LocalPath) : Option LocalPath :=
  match p.significant with
  | _ :: before => some (ofPieces p.rooted (dropSilent p.rooted before).reverse)
  | [] => none

/-- The path, its parent, that one's parent and so on, at most so many. -/
def ancestorsUpTo : Nat → LocalPath → List LocalPath
  | 0, _ => []
  | count + 1, p =>
    p ::
      match p.parent with
      | some parent => ancestorsUpTo count parent
      | none => []

/-- The path, its parent, that one's parent and so on. Each is shorter than the
one before it. -/
def ancestors (p : LocalPath) : List LocalPath := ancestorsUpTo (p.code.length + 1) p

end LocalPath

end ReleaseKit
