/-
ReleaseKit.Session — where a run of actions stands.

While actions run, four things change: the files, the state of the runner,
the transcript of what is written, and how much more the echo takes. An echo
that is full takes what still fits of a line and then fails.
-/
import ReleaseKit.Fault
import ReleaseKit.FileTree.Basic

namespace ReleaseKit

/-- Something that is written during a run. -/
inductive Writing where
  /-- the line of an action, or as much of it as the echo took -/
  | echo (bytes : List UInt8)
  /-- what a command wrote to standard error -/
  | diagnosis (bytes : List UInt8)
deriving DecidableEq, Repr

/-- Where a run stands. -/
structure Session (σ : Type) (τ : Type := FileTree) where
  /-- the file system, a file tree unless another is named -/
  tree : τ
  /-- the state of the runner -/
  state : σ
  /-- what has been written, in order -/
  transcript : List Writing
  /-- how many bytes the echo still takes; without a number, any -/
  room : Option Nat

namespace Session

variable {σ τ : Type}

/-- A session in which nothing has been written. -/
def start (tree : τ) (state : σ) (room : Option Nat) : Session σ τ :=
  ⟨tree, state, [], room⟩

/-- What the echo has taken. -/
def echoed (s : Session σ τ) : List UInt8 :=
  s.transcript.flatMap fun
    | .echo bytes => bytes
    | .diagnosis _ => []

/-- What commands have written to standard error. -/
def diagnosed (s : Session σ τ) : List UInt8 :=
  s.transcript.flatMap fun
    | .echo _ => []
    | .diagnosis bytes => bytes

/-- Everything that has been written, in order. -/
def written (s : Session σ τ) : List UInt8 :=
  s.transcript.flatMap fun
    | .echo bytes => bytes
    | .diagnosis bytes => bytes

/-- Writes to the echo. -/
def echo (s : Session σ τ) (bytes : List UInt8) : Except Fault Unit × Session σ τ :=
  match s.room with
  | none => (.ok (), { s with transcript := s.transcript ++ [.echo bytes] })
  | some room =>
    if bytes.length ≤ room then
      (.ok (),
        { s with transcript := s.transcript ++ [.echo bytes], room := some (room - bytes.length) })
    else
      (.error .echoClosed,
        { s with transcript := s.transcript ++ [.echo (bytes.take room)], room := some 0 })

/-- Notes what a command wrote to standard error. -/
def diagnose (s : Session σ τ) (bytes : List UInt8) : Session σ τ :=
  { s with transcript := s.transcript ++ [.diagnosis bytes] }

end Session

end ReleaseKit
