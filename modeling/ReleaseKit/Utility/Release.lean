/-
ReleaseKit.Utility.Release — the program itself, as one of those that are installed.

A command of a release can run the program once more, with arguments that need not be texts. What
that run does to the disk is there when the command goes on. Its log is left out of what it writes
on standard error.
-/
import ReleaseKit.Machine.Commands
import ReleaseKit.Program

namespace ReleaseKit.Utility

/-- Runs the program where it is called. -/
def release : Utility := fun call => do
  let w ← get
  let cwd := w.self.cwd
  let host : Host := ⟨call.vars⟩
  let vars (name : String) : Option ByteArray := (call.vars.lookup name).map Raw.bytes
  let machine := Machine.ofDisk w.disk
  let outcome := Program.run (host.runnerWith call.launch cwd) cwd vars ⟨0, 0⟩
    (call.args.map Raw.os) machine.seen machine
  Task.setDisk (outcome.state.update outcome.tree).disk
  let _ ← Task.writeBytes 1 (Zip.ofList outcome.stdout)
  let _ ← Task.writeBytes 2 (Zip.ofList outcome.stderr)
  return outcome.code

end ReleaseKit.Utility
