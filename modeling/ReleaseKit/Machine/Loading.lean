/-
ReleaseKit.Machine.Loading — which program a name stands for.

What is to be run is a program of the system, or a script whose first line names
another program that runs it. A name without a slash is looked for in the
directories of a search path.

  §1 Loading    — `load`: a path and arguments as a program and arguments.
  §2 Searching  — `search`: the first directory in which a name can be run.
-/
import ReleaseKit.Machine.Disk
import ReleaseKit.Text.Blank

namespace ReleaseKit.Loading

/-! ## §1 Loading -/

/-- The refusal of a file that is neither a program nor a script. -/
def formatFault : Fault := .other "Exec format error (os error 8)"

/-- How much of a file is looked at for its first line. -/
def headSize : Nat := 255

/-- The program that the first line of a script names, and the one argument that
it may give it. -/
def interpreter? (chars : List Char) : Option (String × Option String) :=
  match chars with
  | '#' :: '!' :: rest =>
    let isBlank (c : Char) : Bool := c == ' ' || c == '\t'
    let line := (rest.take (headSize - 2)).takeWhile (· != '\n')
    let line := ((line.dropWhile isBlank).reverse.dropWhile isBlank).reverse
    let program := line.takeWhile fun c => !isBlank c
    let argument := (line.drop program.length).dropWhile isBlank
    if program.isEmpty then none
    else
      some (String.ofList program, if argument.isEmpty then none else some (String.ofList argument))
  | _ => none

/-- How many scripts may run each other. -/
def scriptDepth : Nat := 5

/-- The program that a path stands for, and the arguments that it is run with,
its own name first. -/
def load (d : Disk) (cwd : Location) : Nat → String → List String →
    Except Fault (String × List String)
  | 0, _, _ => .error loopFault
  | depth + 1, path, args =>
    match d.find false cwd path with
    | .error fault => .error fault
    | .ok (_, .program name) => .ok (name, args)
    | .ok (_, .file id) =>
      match d.file? id with
      | none => .error .absent
      | some f =>
        if f.mode &&& 0o111 = 0 then .error .denied
        else
          match interpreter? (Raw.ofBytes (f.contents.bytes.extract 0 headSize)).toList with
          | none => .error formatFault
          | some (program, argument) =>
            load d cwd depth program (program :: argument.toList ++ path :: args.drop 1)
    | .ok _ => .error .denied

/-! ## §2 Searching -/

/-- A name in a directory of a search path; an empty one is the working
directory. -/
def inDirectory (dir name : String) : String :=
  if dir = "" then name else if dir.endsWith "/" then dir ++ name else dir ++ "/" ++ name

/-- Tries a name in the directories of a search path. A missing file, and one that
is in the way, are passed over; a file that may not be run is remembered. -/
def searchIn {α : Type} (attempt : String → Except Fault α) (name : String) :
    List String → Fault → Bool → Except Fault α
  | [], last, denied => .error (if denied then .denied else last)
  | dir :: rest, last, denied =>
    match attempt (inDirectory dir name) with
    | .ok found => .ok found
    | .error .absent => searchIn attempt name rest .absent denied
    | .error .notDirectory => searchIn attempt name rest .notDirectory denied
    | .error .denied => searchIn attempt name rest last true
    | .error fault => .error fault

/-- What runs when a name is looked for in a search path, and under which
path. -/
def search {α : Type} (attempt : String → Except Fault α) (path name : String) : Except Fault α :=
  if name = "" then .error .absent
  else if name.toList.contains '/' then attempt name
  else if longestName < name.utf8ByteSize then .error .tooLong
  else searchIn attempt name (path.splitOn ":") .absent false

/-- The search path of a process that has none. -/
def defaultPath : String := "/bin:/usr/bin"

/-- Whether a path leads to a file that a shell may run. -/
def isRunnable (d : Disk) (cwd : Location) (path : String) : Bool :=
  match d.entryAt? cwd path with
  | some (.file id) => ((d.file? id).map fun f => f.mode &&& 0o111 != 0).getD false
  | some (.program _) => true
  | _ => false

/-- Whether a path leads to a file. -/
def isFile (d : Disk) (cwd : Location) (path : String) : Bool :=
  match d.entryAt? cwd path with
  | some (.file _) => true
  | some (.program _) => true
  | _ => false

/-- Where a shell finds a name in a search path: a file that can be run, or else
any file. -/
def find? (d : Disk) (cwd : Location) (path name : String) : Option String :=
  let places := (path.splitOn ":").map fun dir => inDirectory dir name
  match places.find? (isRunnable d cwd) with
  | some place => some place
  | none => places.find? (isFile d cwd)

end ReleaseKit.Loading
