/-
ReleaseKit.Proofs.Machine — releases on a machine.

What holds of every runner holds of the one that starts processes. Of that one more is known. Its
commands fail in three ways only: nothing was started, a signal ended the process, or it exited
with a number between one and 255 (`Host.runnerWith_error`). So the exit code of a command that
stops a release is that of the program, whatever it is (`Host.release_status`). And a disk is
brought up to date only where it differs from what it is to show; what a release leaves alone
stays as it is, with its permissions, its programs and its devices.

  §1 Disks     — a disk that is brought up to date with what it shows.
  §2 Machines  — what a command hands back.
  §3 Commands  — how a command fails.
  §4 Releases  — `Host.release_status`, `Host.dry_run_keeps_machine`.
-/
import ReleaseKit.Host
import ReleaseKit.Proofs.ExitStatus

namespace ReleaseKit

/-! ## §1 Disks -/

theorem FileTree.node?_of_mem_toList {t : FileTree} {entry : Location × Node}
    (h : entry ∈ t.toList) : t.node? entry.1 = some entry.2 :=
  Std.ExtTreeMap.mem_toList_iff_getElem?_eq_some.mp h

/-- A disk that shows what it is to show stays as it is. -/
theorem Disk.update_self (d : Disk) (t : FileTree) : d.update t t = d := by
  have hgone : t.toList.filter (fun entry => decide (t.node? entry.1 = none)) = [] := by
    refine List.filter_eq_nil_iff.mpr fun entry hmem => ?_
    simp [FileTree.node?_of_mem_toList hmem]
  have hchanged : t.toList.filter (fun entry =>
      entry.1 != [] && t.node? entry.1 != some entry.2) = [] := by
    refine List.filter_eq_nil_iff.mpr fun entry hmem => ?_
    simp [FileTree.node?_of_mem_toList hmem]
  simp [update, hgone, hchanged]

theorem Image.onto_self (d : Disk) (t : LinkedTree) : Image.onto d t t = d := by
  have hgone : t.links.filter (fun link => (t.links.lookup link.1).isNone) = [] := by
    refine List.filter_eq_nil_iff.mpr fun link hmem => ?_
    have hfound : (t.links.lookup link.1).isSome := by
      rw [List.lookup_isSome_iff]
      exact ⟨link, hmem, by simp⟩
    simp [Option.isNone_iff_eq_none, Option.isSome_iff_ne_none.mp hfound]
  simp only [onto, hgone]
  exact d.update_self t.tree

/-! ## §2 Machines -/

variable {launch : Launcher} {h : Host} {cwd : Location} {c : CommandLine} {m : Machine}
  {t : LinkedTree}

/-- Where nothing has changed nothing is changed. -/
theorem Machine.update_seen (m : Machine) : m.update m.seen = m := by
  rw [update, Image.onto_self]

/-- A command that was started hands back what is seen of the machine that it leaves; one that was
not leaves what it was handed. -/
theorem Host.runnerWith_tree (launch : Launcher) (h : Host) (cwd : Location) (c : CommandLine)
    (m : Machine) (t : LinkedTree) :
    let ran := h.runnerWith launch cwd c m t
    ran.tree = ran.state.seen ∨
      ran.tree = t ∧ ran.state = m.update t ∧
        ∃ fault, ran.result = .error (.spawn c.render fault) := by
  dsimp only [runnerWith]
  cases h.startWith launch cwd c (m.update t).disk with
  | error fault => exact .inr ⟨rfl, rfl, fault, rfl⟩
  | ok ended => exact .inl rfl

/-! ## §3 Commands -/

namespace Host

/-- A process ends with a byte or by a signal. -/
theorem ending_of_startWith {d : Disk} {ended : Ended}
    (hstart : h.startWith launch cwd c d = .ok ended) :
    (∃ code, code < 256 ∧ ended.ending = .exit code) ∨
      ∃ signal, ended.ending = .killed signal := by
  unfold startWith at hstart
  split at hstart
  · cases hstart
  · split at hstart
    · cases hstart
    · dsimp only at hstart
      split at hstart
      next outcome after _ =>
      rcases outcome with (code | signal) | fault | code
      · obtain rfl := Except.ok.inj hstart
        exact .inl ⟨_, Nat.mod_lt _ (by decide), rfl⟩
      · obtain rfl := Except.ok.inj hstart
        exact .inr ⟨signal, rfl⟩
      · cases hstart
      · obtain rfl := Except.ok.inj hstart
        exact .inl ⟨_, Nat.mod_lt _ (by decide), rfl⟩

/-- **How a command of a machine fails.** Nothing was started, a signal has ended what was, or it
has exited with a byte that is not zero. The error tells which command it was. -/
theorem runnerWith_error {e : ReleaseError}
    (herror : (h.runnerWith launch cwd c m t).result = .error e) :
    (∃ fault, e = .spawn c.render fault) ∨ e = .commandFailed c.render none ∨
      ∃ code : Nat, 1 ≤ code ∧ code ≤ 255 ∧ e = .commandFailed c.render (some code) := by
  dsimp only [runnerWith] at herror
  cases hstart : h.startWith launch cwd c (m.update t).disk with
  | error fault =>
    rw [hstart] at herror
    exact .inl ⟨fault, (Except.error.inj herror).symm⟩
  | ok ended =>
    rw [hstart] at herror
    dsimp only at herror
    rcases ending_of_startWith hstart with ⟨code, hcode, hending⟩ | ⟨signal, hending⟩
    · rw [hending] at herror
      cases code with
      | zero => cases herror
      | succ code =>
        obtain rfl := Except.error.inj herror
        exact .inr (.inr ⟨code + 1, by omega, by omega, rfl⟩)
    · rw [hending] at herror
      exact .inr (.inl (Except.error.inj herror).symm)

end Host

/-! ## §4 Releases -/

namespace Host

variable {vars : String → Option ByteArray} {elapsed : Duration} {args : List OsText}
  {a : Arguments}

/-- **The exit code of a command is that of the program.** On a machine, a release that is stopped
because a command exits with a code ends with that code, and not with zero. -/
theorem release_status (hargs : Request.ofArgs args = .ok (.release a)) {code : Int}
    (hended : Program.EndedBy (h.runner cwd) cwd vars a t m code) :
    1 ≤ code ∧ code ≤ 255 ∧
      ((Program.run (h.runner cwd) cwd vars elapsed args t m).code : Int) = code := by
  obtain ⟨hlive, c, before, command, after, line, hconfig, hplan, hbefore, hfail⟩ := hended
  have hbyte : 1 ≤ code ∧ code ≤ 255 := by
    rcases runnerWith_error hfail with ⟨fault, hspawn⟩ | hkilled | ⟨byte, hleast, hmost, hexit⟩
    · cases hspawn
    · cases hkilled
    · obtain ⟨-, rfl⟩ : line = command.render ∧ code = byte := by
        simpa using hexit
      omega
  refine ⟨hbyte.1, hbyte.2, ?_⟩
  rw [Program.run_code hargs, hconfig, hlive]
  exact Program.release_code_of_endedBy hconfig
    ⟨hlive, c, before, command, after, line, hconfig, hplan, hbefore, hfail⟩ hbyte.1 hbyte.2

/-- **What is only listed changes nothing on a machine.** Nor does anything else that is no release:
brought up to date with what it leaves, the machine is as it was. -/
theorem dry_run_keeps_machine
    (hargs : ∀ a, Request.ofArgs args = .ok (.release a) → a.dryRun = true) :
    let outcome := Program.run (h.runner cwd) cwd vars elapsed args m.seen m
    outcome.state.update outcome.tree = m := by
  intro outcome
  obtain ⟨htree, hstate⟩ : outcome.tree = m.seen ∧ outcome.state = m := Program.run_leaves hargs
  rw [htree, hstate]
  exact m.update_seen

end Host

end ReleaseKit
