/-
ReleaseKit.Shell.Redirection — connecting descriptors for a command.
-/
import ReleaseKit.Machine.Loading
import ReleaseKit.Shell.Expansion

namespace ReleaseKit.Shell

/-- A descriptor that gives a text. -/
def documentFile (text : String) : Work Nat := do
  let pipe ← task (Task.addPipe none)
  modify fun s => { s with world := { s.world with
    pipes := s.world.pipes.modify pipe fun p => { p with data := Raw.bytes text } } }
  task (Task.addOpen ⟨.pipe pipe, 0, true, false, false⟩)

/-- What is said of a file that cannot be opened. -/
def openMessage (dialect : Dialect) (creating : Bool) (path : String) (fault : Fault) : String :=
  if dialect = .bash then path ++ ": " ++ fault.reason
  else "cannot " ++ (if creating then "create " else "open ") ++ path ++ ": " ++
    reasonOf creating dialect fault

/-- The descriptor that a redirection is about. -/
def Redirect.descriptor : Redirect → Nat
  | .mk (some fd) _ _ => fd
  | .mk none direction _ =>
    match direction with
    | .input => 0
    | .both => 0
    | .copyInput => 0
    | .document _ => 0
    | .text => 0
    | _ => 1

/-- Connects a descriptor; if that fails, what is to be said. -/
def redirectOne (e : Engine) (r : Redirect) : Work (Except String Unit) := do
  let s ← get
  match r with
  | .mk given direction target =>
    let fd := Redirect.descriptor (.mk given direction target)
    let connect (path : String) (mode : OpenMode) (fds : List Nat) : Work (Except String Unit) := do
      match ← task (Task.openPath path mode) with
      | .ok file =>
        for fd in fds do
          task (Task.assign fd file)
        return .ok ()
      | .error fault => return .error (openMessage s.dialect mode.creates path fault)
    match direction with
    | .document number =>
      let text ← textOfDocument e ((s.documents.lookup number).getD [])
      task (Task.assign fd (← documentFile text))
      return .ok ()
    | .text =>
      let text ← textOfWord e target
      task (Task.assign fd (← documentFile (text ++ "\n")))
      return .ok ()
    | direction =>
      let text ← textOfWord e target
      match direction with
      | .input => connect text .reading [fd]
      | .output =>
        let exists_ := s.options.contains "noclobber" && Loading.isFile s.world.disk s.world.self.cwd text
        if exists_ then
          return .error (if s.dialect = .bash then text ++ ": cannot overwrite existing file"
            else "cannot create " ++ text ++ ": File exists")
        else connect text .writing [fd]
      | .clobber => connect text .writing [fd]
      | .append => connect text .appending [fd]
      | .both => connect text .both [fd]
      | .outputs => connect text .writing [1, 2]
      | .appends => connect text .appending [1, 2]
      | _ =>
        if text = "-" then
          task (Task.close fd)
          return .ok ()
        else
          let moves := s.dialect == .bash && text.endsWith "-"
          let number := if moves then (text.dropEnd 1).toString else text
          if number != "" && number.toList.all Char.isDigit then
            let source := (number.toNat?).getD 0
            match ← task (Task.fileOf? source) with
            | some file =>
              task (Task.assign fd file)
              if moves then task (Task.close source)
              return .ok ()
            | none => return .error (number ++ ": Bad file descriptor")
          else if s.dialect == .bash && given.isNone then connect text .writing [1, 2]
          else
            return .error (if s.dialect = .bash then text ++ ": ambiguous redirect"
              else "Syntax error: Bad fd number")

/-- Connects descriptors one after the other, up to the first that fails. -/
def redirectAll (e : Engine) : List Redirect → Work (Except String Unit)
  | [] => return .ok ()
  | r :: rest => do
    match ← redirectOne e r with
    | .ok () => redirectAll e rest
    | .error text => return .error text

/-- Does something with descriptors connected, and then gives these back what they
stood for. What cannot be connected is said, and `failed` is done instead. -/
def withRedirects (e : Engine) (redirects : List Redirect) (failed : Work Unit)
    (body : Work Unit) : Work Unit := fun s =>
  if redirects.isEmpty then body s
  else
    let touched := redirects.flatMap fun
      | .mk none .outputs _ => [1, 2]
      | .mk none .appends _ => [1, 2]
      | .mk none .copyOutput _ => [1, 2]
      | r => [Redirect.descriptor r]
    let kept := s.world.self.fds.filter fun (fd, _) => touched.contains fd
    let restore (t : State) : State := { t with world := { t.world with
      self := { t.world.self with
        fds := kept ++ t.world.self.fds.filter fun (fd, _) => !touched.contains fd } } }
    match redirectAll e redirects s with
    | (.ok (.ok ()), t) =>
      let (result, u) := body t
      (result, restore u)
    | (.ok (.error text), t) =>
      let (_, u) := complain text (restore t)
      failed u
    | (.error leave, t) => (.error leave, restore t)

end ReleaseKit.Shell
