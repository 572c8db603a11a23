/-
ReleaseKit.Proofs.Matrix — the build plan is the matrix.

For each target of the matrix one run of the compiler is planned, in the order of the
matrix, and each writes a file of its own. Nothing is checked of the texts that a manifest
gives: flags and sources may be spelled like the option that names the output, and the
name of the tool may look like that of a binary. The first does no harm because the
option stands before all that it could be taken for, the second because the name of a
binary is read from its end (`Target.binaryName_eq_iff`). This holds of the paths too:
whatever the tool is called, the ending makes a name of the last piece of the path.

  §1 Places    — different targets have their binaries in different places.
  §2 Commands  — `CommandLine.Compiles`, `compilations`.
  §3 Together  — `build_plan_is_matrix`.
-/
import ReleaseKit.Proofs.Clashes

namespace ReleaseKit

/-! ## §1 Places -/

namespace Target

/-- An ending can be put behind any piece of a path. -/
theorem slash_not_mem_ending (t : Target) : '/' ∉ t.ending.toList ∧ 2 < t.ending.length := by
  obtain ⟨os, arch⟩ := t
  cases os <;> cases arch <;> decide

end Target

namespace Config

/-- Only one target has its binary in a place, also where the name of the tool leads out
of the directory of the version. -/
theorem location_binaryPath_injective (c : Config) (cwd : Location) :
    Function.Injective fun target => (c.binaryPath target).location cwd := by
  intro s t h
  obtain ⟨here, last, -, hends⟩ := c.versionDir.location_join_ending c.manifest.cliName cwd
  have hplace : ∀ target : Target, (c.binaryPath target).location cwd =
      (last ++ OsText.encode target.ending) :: here := by
    intro target
    rw [binaryPath, Target.binaryName_eq]
    exact hends _ target.slash_not_mem_ending.1 target.slash_not_mem_ending.2
  have hending : OsText.encode s.ending = OsText.encode t.ending :=
    (String.append_right_inj _).mp (List.cons.inj ((hplace s).symm.trans (h.trans (hplace t)))).1
  have hname : s.binaryName "" = t.binaryName "" := by
    rw [Target.binaryName_eq, Target.binaryName_eq, OsText.encode_inj.mp hending]
  exact (Target.binaryName_eq_iff.mp hname).2

end Config

/-! ## §2 Commands -/

/-- A run of the compiler for a target that writes its output to a path. -/
structure CommandLine.Compiles (command : CommandLine) (target : Target) (output : LocalPath) :
    Prop where
  program : command.program = Toolchain.go
  env : command.env = [("GOOS", target.os.name), ("GOARCH", target.arch.name)]
  output : command.flagValue "-o" = some output.text

theorem Toolchain.compiles_goBuild (target : Target) (ldflags : String) (output : LocalPath)
    (sources : List String) : (goBuild target ldflags output sources).Compiles target output :=
  ⟨rfl, rfl, flagValue_goBuild target ldflags output sources⟩

/-- The runs of the compiler among actions, in order. -/
def compilations (actions : List Action) : List CommandLine :=
  (actions.filterMap Action.command?).filter (·.program == Toolchain.go)

/-- The command that builds the client for one target. -/
def Config.buildCommand (c : Config) (target : Target) : CommandLine :=
  Toolchain.goBuild target c.manifest.ldflags (c.binaryPath target) c.manifest.cliSources

theorem Config.compilations_planBuild (c : Config) :
    compilations c.planBuild = c.matrix.map c.buildCommand := by
  have hcommands : c.planBuild.filterMap Action.command? = c.matrix.map c.buildCommand := by
    rw [planBuild, List.filterMap_cons_none rfl, List.filterMap_map, ← List.filterMap_eq_map]
    rfl
  rw [compilations, hcommands, List.filter_eq_self]
  intro command hcommand
  obtain ⟨target, -, rfl⟩ := List.mem_map.mp hcommand
  rfl

/-! ## §3 Together -/

/-- **The build plan is the matrix, without clashes.** The runs of the compiler in the
build plan are, in the order of the matrix and one for each of its entries, for that
target and to the path of its binary. Different targets have different paths, and these
lead to different places. The name of a binary tells its tool and its target, and it is
that of a Windows executable exactly for Windows. -/
theorem build_plan_is_matrix (c : Config) :
    List.Forall₂ (fun target command => command.Compiles target (c.binaryPath target))
      c.matrix (compilations (Step.plan c .build)) ∧
    (∀ s t : Target, c.binaryPath s = c.binaryPath t → s = t) ∧
    (∀ cwd, Function.Injective fun target => (c.binaryPath target).location cwd) ∧
    (∀ (tool other : String) (s t : Target),
      s.binaryName tool = t.binaryName other → tool = other ∧ s = t) ∧
    ∀ (tool : String) (t : Target),
      ".exe".toList <:+ (t.binaryName tool).toList ↔ t.os = .windows := by
  refine ⟨?_, fun s t h => ?_, c.location_binaryPath_injective,
    fun tool other s t => Target.binaryName_eq_iff.mp, fun tool t => t.exe_suffix_binaryName_iff tool⟩
  · rw [Step.plan, c.compilations_planBuild, List.forall₂_map_right_iff, List.forall₂_same]
    intro target _
    exact Toolchain.compiles_goBuild target _ _ _
  · exact c.location_binaryPath_injective [] (congrArg (LocalPath.location []) h)

example : (Toolchain.goBuild ⟨.linux, .arm⟩ "-o" ⟨"-o"⟩ ["-o", "main.go"]).flagValue "-o" =
    some "-o" := by
  decide

example : (Target.mk .linux .arm).binaryName "datacol-windows-amd64.exe" =
    "datacol-windows-amd64.exe-linux-arm" := by
  decide

end ReleaseKit
