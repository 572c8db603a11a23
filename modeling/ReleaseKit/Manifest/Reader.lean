/-
ReleaseKit.Manifest.Reader — reading a manifest file.

A manifest is read straight into its type: at every place one type of value is
expected, and the first thing that does not fit is the fault. A record may be
written as an object, each field at most once and no other, or as an array of
its fields in their order.

  §1 Values      — texts, booleans, targets.
  §2 Lists       — `readList`, and how an array ends.
  §3 Records     — `Shape` says what a record has, `readRecord` reads one.
  §4 The records — profiles, bundles, manifests.
  §5 Documents   — `Manifest.ofText` and `Target.listOfText`.
-/
import ReleaseKit.Json.Reader
import ReleaseKit.Manifest

namespace ReleaseKit

namespace Manifest.Reader

open Json

/-! ## §1 Values -/

/-- Reads a text. -/
def readText (l : List Char) : Except Failure (Reading String) :=
  match skipBlank l with
  | '\x22' :: rest => readStringBody rest
  | rest => failFound "a string" rest

/-- Reads a truth value. -/
def readBool (l : List Char) : Except Failure (Reading Bool) :=
  match skipBlank l with
  | 't' :: rest => do pure (true, ← readWord ['r', 'u', 'e'] rest)
  | 'f' :: rest => do pure (false, ← readWord ['a', 'l', 's', 'e'] rest)
  | rest => failFound "a boolean" rest

/-- Reads a target. A text that is no target is placed by what it stands in. -/
def readTarget (l : List Char) : Except Failure (Reading Target) := do
  let (s, rest) ← readText l
  match Target.ofText s with
  | .ok target => pure (target, rest)
  | .error flaw => .error (.inside (.refused flaw.message) rest)

/-! ## §2 Lists -/

/-- What is left when an array is left because of a fault inside it. -/
def leaveArray (l : List Char) : List Char :=
  match skipBlank l with
  | ']' :: rest => rest
  | ',' :: rest => skipBlank rest
  | rest => rest

/-- What is left when an object is left because of a fault inside it. -/
def leaveObject (l : List Char) : List Char :=
  match skipBlank l with
  | '\x7d' :: rest => rest
  | rest => rest

/-- The end of an array whose items have been read. -/
def endArray (l : List Char) : Except Failure (List Char) :=
  match skipBlank l with
  | [] => failNext .endInList []
  | ']' :: rest => .ok rest
  | ',' :: rest =>
    match skipBlank rest with
    | ']' :: rest => failNext .trailingComma (']' :: rest)
    | rest => failNext .trailingCharacters rest
  | rest => failNext .trailingCharacters rest

/-- The end of an object whose members have been read. -/
def endObject (l : List Char) : Except Failure (List Char) :=
  match skipBlank l with
  | [] => failNext .endInObject []
  | '\x7d' :: rest => .ok rest
  | ',' :: rest => failNext .trailingComma (',' :: rest)
  | rest => failNext .trailingCharacters rest

/-- What was read inside an array, up to the array's end. -/
def closeArray {α : Type} : Except Failure (Reading α) → Except Failure (Reading α)
  | .ok (a, rest) => do pure (a, ← endArray rest)
  | .error (.inside problem rest) => .error (.placed problem (leaveArray rest) 0)
  | .error failure => .error failure

/-- What was read inside an object, up to the object's end. -/
def closeObject {α : Type} : Except Failure (Reading α) → Except Failure (Reading α)
  | .ok (a, rest) => do pure (a, ← endObject rest)
  | .error (.inside problem rest) => .error (.placed problem (leaveObject rest) 0)
  | .error failure => .error failure

/-- Moves to the next item of an array: nothing if the array ends here, else
what is left at the item. -/
def nextItem (first : Bool) (l : List Char) : Except Failure (Option (List Char)) :=
  match skipBlank l with
  | [] => failNext .endInList []
  | ']' :: _ => .ok none
  | ',' :: rest =>
    if first then .ok (some (',' :: rest))
    else
      match skipBlank rest with
      | [] => failNext .endInValue []
      | ']' :: rest => failNext .trailingComma (']' :: rest)
      | rest => .ok (some rest)
  | rest => if first then .ok (some rest) else failNext .expectedListEnd rest

/-- The items of an array up to where it ends; every item takes at least one
character, so the number of characters left bounds the number of items. -/
def readItems {α : Type} (item : Reader α) : Nat → Bool → Reader (List α)
  | 0, _, l => failNext .endInList l
  | fuel + 1, first, l => do
    match ← nextItem first l with
    | none => pure ([], l)
    | some l =>
      let (a, rest) ← item l
      let (as, rest) ← readItems item fuel false rest
      pure (a :: as, rest)

/-- Reads an array of items of one type. -/
def readList {α : Type} (item : Reader α) (l : List Char) :
    Except Failure (Reading (List α)) :=
  match skipBlank l with
  | '[' :: rest => closeArray (readItems item (rest.length + 1) true rest)
  | rest => failFound "a sequence" rest

/-! ## §3 Records -/

/-- What a record of type `ρ` has: its fields `φ`, and an entry `ε` for a field
with its value. -/
structure Shape (φ ε ρ : Type) where
  title : String
  fields : List φ
  label : φ → String
  /-- the field that an entry is for -/
  fieldOf : ε → φ
  readValue : φ → Reader ε
  /-- the record made of the entries, or the first field without which there is none -/
  finish : List ε → Except φ ρ

variable {φ ε ρ : Type} [DecidableEq φ]

/-- Moves to the next key of an object: nothing if the object ends here, else
what is left after the key's opening quote. -/
def nextKey (first : Bool) (l : List Char) : Except Failure (Option (List Char)) :=
  match skipBlank l with
  | [] => failNext .endInObject []
  | '\x7d' :: _ => .ok none
  | ',' :: rest =>
    if first then failNext .keyNotString (',' :: rest)
    else
      match skipBlank rest with
      | [] => failNext .endInValue []
      | '\x22' :: rest => .ok (some rest)
      | '\x7d' :: rest => failNext .trailingComma ('\x7d' :: rest)
      | rest => failNext .keyNotString rest
  | '\x22' :: rest =>
    if first then .ok (some rest) else failNext .expectedObjectEnd ('\x22' :: rest)
  | rest => if first then failNext .keyNotString rest else failNext .expectedObjectEnd rest

/-- The colon between a key and its value. -/
def readColon (l : List Char) : Except Failure (List Char) :=
  match skipBlank l with
  | [] => failNext .endInObject []
  | ':' :: rest => .ok rest
  | rest => failNext .expectedColon rest

/-- The field that a key names. -/
def readField (s : Shape φ ε ρ) (l : List Char) : Except Failure (Reading φ) := do
  let (key, rest) ← readStringBody l
  match s.fields.find? fun field => s.label field == key with
  | some field => pure (field, rest)
  | none => .error (.inside (.unknownField key (s.fields.map s.label)) rest)

/-- The members of an object up to where it ends; `seen` holds the fields that
have had their value. -/
def readMembers (s : Shape φ ε ρ) : Nat → Bool → List φ → Reader (List ε)
  | 0, _, _, l => failNext .endInObject l
  | fuel + 1, first, seen, l => do
    match ← nextKey first l with
    | none => pure ([], l)
    | some l =>
      let (field, rest) ← readField s l
      if field ∈ seen then .error (.inside (.duplicateField (s.label field)) rest)
      else
        let rest ← readColon rest
        let (entry, rest) ← s.readValue field rest
        let (entries, rest) ← readMembers s fuel false (field :: seen) rest
        pure (entry :: entries, rest)

/-- The record that an object's members make. -/
def readObject (s : Shape φ ε ρ) (l : List Char) : Except Failure (Reading ρ) := do
  let (entries, rest) ← readMembers s (l.length + 1) true [] l
  match s.finish entries with
  | .ok record => pure (record, rest)
  | .error field => .error (.inside (.missingField (s.label field)) rest)

/-- The values of the given fields in order, as far as the array has items. -/
def readPositions (s : Shape φ ε ρ) : List φ → Bool → Reader (List ε)
  | [], _, l => .ok ([], l)
  | field :: fields, first, l => do
    match ← nextItem first l with
    | none => pure ([], l)
    | some l =>
      let (entry, rest) ← s.readValue field l
      let (entries, rest) ← readPositions s fields false rest
      pure (entry :: entries, rest)

/-- The record that an array's items make. -/
def readArray (s : Shape φ ε ρ) (l : List Char) : Except Failure (Reading ρ) := do
  let (entries, rest) ← readPositions s s.fields true l
  match s.finish entries with
  | .ok record => pure (record, rest)
  | .error _ =>
    let expected := s.title ++ " with " ++ toString s.fields.length ++ " elements"
    .error (.inside (.wrongLength entries.length expected) rest)

/-- Reads a record in either form. -/
def readRecord (s : Shape φ ε ρ) (l : List Char) : Except Failure (Reading ρ) :=
  match skipBlank l with
  | '[' :: rest => closeArray (readArray s rest)
  | '\x7b' :: rest => closeObject (readObject s rest)
  | rest => failFound s.title rest

/-! ## §4 The records -/

/-- Reads a value and makes an entry of it. -/
def readAs {α ε : Type} (read : Reader α) (entry : α → ε) : Reader ε := fun l => do
  let (a, rest) ← read l
  pure (entry a, rest)

/-- A field of a profile with its value. -/
inductive ProfileEntry where
  | bucket (value : String)
  | matrix (value : List Target)

def ProfileEntry.field : ProfileEntry → Profile.Field
  | bucket _ => .bucket
  | matrix _ => .matrix

def ProfileEntry.bucket? : ProfileEntry → Option String
  | bucket value => some value
  | _ => none

def ProfileEntry.matrix? : ProfileEntry → Option (List Target)
  | matrix value => some value
  | _ => none

def profileShape : Shape Profile.Field ProfileEntry Profile where
  title := "struct EnvironmentProfile"
  fields := Profile.Field.all
  label := Profile.Field.label
  fieldOf := ProfileEntry.field
  readValue
    | .bucket => readAs readText .bucket
    | .matrix => readAs (readList readTarget) .matrix
  finish entries :=
    match entries.findSome? ProfileEntry.bucket?, entries.findSome? ProfileEntry.matrix? with
    | none, _ => .error .bucket
    | _, none => .error .matrix
    | some bucket, some matrix => .ok ⟨bucket, matrix⟩

/-- A field of a bundle with its value. -/
inductive BundleEntry where
  | name (value : String)
  | target (value : Target)

def BundleEntry.field : BundleEntry → Bundle.Field
  | name _ => .name
  | target _ => .target

def BundleEntry.name? : BundleEntry → Option String
  | name value => some value
  | _ => none

def BundleEntry.target? : BundleEntry → Option Target
  | target value => some value
  | _ => none

def bundleShape : Shape Bundle.Field BundleEntry Bundle where
  title := "struct Bundle"
  fields := Bundle.Field.all
  label := Bundle.Field.label
  fieldOf := BundleEntry.field
  readValue
    | .name => readAs readText .name
    | .target => readAs readTarget .target
  finish entries :=
    match entries.findSome? BundleEntry.name?, entries.findSome? BundleEntry.target? with
    | none, _ => .error .name
    | _, none => .error .target
    | some name, some target => .ok ⟨name, target⟩

/-- A field of a manifest with its value. -/
inductive Entry where
  | cliName (value : String)
  | canonicalName (value : String)
  | apiName (value : String)
  | cliSources (value : List String)
  | apiSources (value : List String)
  | ldflags (value : String)
  | includeApi (value : Bool)
  | apiTarget (value : Target)
  | prod (value : Profile)
  | dev (value : Profile)
  | bundles (value : List Bundle)

def Entry.field : Entry → Manifest.Field
  | cliName _ => .cliName
  | canonicalName _ => .canonicalName
  | apiName _ => .apiName
  | cliSources _ => .cliSources
  | apiSources _ => .apiSources
  | ldflags _ => .ldflags
  | includeApi _ => .includeApi
  | apiTarget _ => .apiTarget
  | prod _ => .prod
  | dev _ => .dev
  | bundles _ => .bundles

/-- The manifest with one field replaced. -/
def Entry.set (m : Manifest) : Entry → Manifest
  | cliName value => { m with cliName := value }
  | canonicalName value => { m with canonicalName := value }
  | apiName value => { m with apiName := value }
  | cliSources value => { m with cliSources := value }
  | apiSources value => { m with apiSources := value }
  | ldflags value => { m with ldflags := value }
  | includeApi value => { m with includeApi := value }
  | apiTarget value => { m with apiTarget := value }
  | prod value => { m with prod := value }
  | dev value => { m with dev := value }
  | bundles value => { m with bundles := value }

def manifestShape : Shape Manifest.Field Entry Manifest where
  title := "struct ReleaseManifest"
  fields := Manifest.Field.all
  label := Manifest.Field.label
  fieldOf := Entry.field
  readValue
    | .cliName => readAs readText .cliName
    | .canonicalName => readAs readText .canonicalName
    | .apiName => readAs readText .apiName
    | .cliSources => readAs (readList readText) .cliSources
    | .apiSources => readAs (readList readText) .apiSources
    | .ldflags => readAs readText .ldflags
    | .includeApi => readAs readBool .includeApi
    | .apiTarget => readAs readTarget .apiTarget
    | .prod => readAs (readRecord profileShape) .prod
    | .dev => readAs (readRecord profileShape) .dev
    | .bundles => readAs (readList (readRecord bundleShape)) .bundles
  finish entries := .ok (entries.foldl Entry.set Manifest.standard)

/-! ## §5 Documents -/

/-- Reads a whole text as one value; only blanks may follow it. -/
def readDocument {α : Type} (read : Reader α) (text : String) : Except Json.Fault α :=
  let answer := do
    let (a, rest) ← read text.toList
    match skipBlank rest with
    | [] => pure a
    | rest => failNext .trailingCharacters rest
  answer.mapError (Failure.toFault text)

end Manifest.Reader

open Manifest.Reader

/-- Reads a manifest. -/
def Manifest.ofText (text : String) : Except Json.Fault Manifest :=
  readDocument (readRecord manifestShape) text

/-- Reads a list of targets. -/
def Target.listOfText (text : String) : Except Json.Fault (List Target) :=
  readDocument (readList readTarget) text

end ReleaseKit
