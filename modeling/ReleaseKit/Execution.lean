/-
ReleaseKit.Execution — carrying actions out.

Actions are carried out one after another. Each is echoed before it starts, as
the shell command it amounts to, and the first failure ends the run: nothing
after it starts, and nothing before it is undone. An action that fails halfway
leaves what it has done.

  §1 One action   — `Action.apply`: the effect of each kind.
  §2 A run        — `Action.perform` (echo, then effect) and `execute`.
-/
import ReleaseKit.Action
import ReleaseKit.Runner
import ReleaseKit.Session
import ReleaseKit.Summary
import ReleaseKit.Text.Utf8

namespace ReleaseKit

/-! ## §1 One action -/

namespace Action

/-- What one action adds to the summary of a run. -/
def record (commands : Nat) (archives : List ArchiveRecord) : Summary := ⟨1, commands, archives⟩

variable {σ τ : Type}

/-- A session after an operation on its files, and the record of the action. -/
def settle (s : Session σ τ) (path : LocalPath) :
    Except Fault Unit × τ → Except ReleaseError Summary × Session σ τ
  | (.ok (), tree) => (.ok (record 0 []), { s with tree })
  | (.error fault, tree) => (.error (.io path fault), { s with tree })

@[simp] theorem settle_result (s : Session σ τ) (path : LocalPath)
    (out : Except Fault Unit × τ) :
    (settle s path out).1 = (out.1.mapError (.io path)).map fun _ => record 0 [] := by
  rcases out with ⟨_ | _, tree⟩ <;> rfl

@[simp] theorem settle_session (s : Session σ τ) (path : LocalPath)
    (out : Except Fault Unit × τ) : (settle s path out).2 = { s with tree := out.2 } := by
  rcases out with ⟨_ | _, tree⟩ <;> rfl

/-- Carries out one action. A copy that fails is reported at its source, every
other file operation at what it works on. -/
def apply [FileSystem τ] (run : Runner σ τ) (cwd : Location) (s : Session σ τ) :
    Action → Except ReleaseError Summary × Session σ τ
  | resetDir path => settle s path (FileSystem.resetDir s.tree cwd path)
  | createDir path => settle s path (FileSystem.makeDirs s.tree cwd path)
  | exec command =>
    let ran := run command s.state s.tree
    let left := { s.diagnose ran.diagnosis with state := ran.state, tree := ran.tree }
    match ran.result with
    | .ok () => (.ok (record 1 []), left)
    | .error error => (.error error, left)
  | copyFile source dest => settle s source (FileSystem.copyFile s.tree cwd source dest)
  | archive source entry dest =>
    match FileSystem.pack s.tree cwd source entry dest with
    | (.ok size, tree) => (.ok (record 0 [⟨dest, size⟩]), { s with tree })
    | (.error fault, tree) => (.error (fault.error source dest), { s with tree })
  | writeFile path contents =>
    match FileSystem.writeWithDirs s.tree cwd path (.ofText contents) with
    | (.ok (), tree) => (.ok (record 0 []), { s with tree })
    | (.error error, tree) => (.error error, { s with tree })

/-- A copy between files of a tree. -/
theorem apply_copyFile (run : Runner σ) (cwd : Location) (s : Session σ)
    (source dest : LocalPath) :
    (copyFile source dest).apply run cwd s =
      match s.tree.copyFile cwd source dest with
      | .ok tree => (.ok (record 0 []), { s with tree })
      | .error fault => (.error (.io source fault), s) := by
  simp only [apply, FileSystem.copyFile]
  cases s.tree.copyFile cwd source dest <;> rfl

/-- The line that echoes an action. -/
def echoLine (a : Action) : List UInt8 := Text.bytesOf (a.render ++ "\n")

end Action

/-! ## §2 A run -/

/-- Where and why a run was stopped. -/
structure Stopped where
  /-- how many actions were done before -/
  index : Nat
  action : Action
  /-- whether the action was started; it is not if it cannot be echoed -/
  started : Bool
  error : ReleaseError
deriving DecidableEq, Repr

/-- A stop as it is seen by a run with one more action before. -/
def Stopped.later (stop : Stopped) : Stopped := { stop with index := stop.index + 1 }

/-- Echoes one action and carries it out. -/
def Action.perform {σ τ : Type} [FileSystem τ] (run : Runner σ τ) (cwd : Location)
    (s : Session σ τ) (a : Action) : Except Stopped Summary × Session σ τ :=
  match s.echo a.echoLine with
  | (.error fault, left) => (.error ⟨0, a, false, .echo fault⟩, left)
  | (.ok (), told) =>
    match a.apply run cwd told with
    | (.error error, left) => (.error ⟨0, a, true, error⟩, left)
    | (.ok done, left) => (.ok done, left)

/-- Carries out actions in order up to the first that fails. -/
def execute {σ τ : Type} [FileSystem τ] (run : Runner σ τ) (cwd : Location) :
    List Action → Session σ τ → Except Stopped Summary × Session σ τ
  | [], s => (.ok .empty, s)
  | a :: rest, s =>
    match a.perform run cwd s with
    | (.error stop, left) => (.error stop, left)
    | (.ok done, left) =>
      match execute run cwd rest left with
      | (.error stop, last) => (.error stop.later, last)
      | (.ok more, last) => (.ok (done ++ more), last)

end ReleaseKit
