/-
ReleaseKit.Target — the platforms a binary is built for.

A target is an operating system and an architecture, both named as the Go
toolchain names them, and is written as the two names with a dash between. A
text is read up to its first dash; the reader says which of its parts is wrong.
-/

namespace ReleaseKit

/-! ## §1 Operating systems -/

/-- Operating systems, in their order. -/
inductive Os where
  | darwin
  | linux
  | windows
deriving DecidableEq, Repr

namespace Os

def all : List Os := [darwin, linux, windows]

/-- The value of `GOOS`. -/
def name : Os → String
  | darwin => "darwin"
  | linux => "linux"
  | windows => "windows"

/-- What the name of an executable ends with: only Windows asks for something. -/
def exeSuffix : Os → String
  | windows => ".exe"
  | _ => ""

def ofName? (s : String) : Option Os := all.find? fun os => os.name == s

/-- The place in the order of operating systems. -/
def rank : Os → Nat
  | darwin => 0
  | linux => 1
  | windows => 2

def sort (l : List Os) : List Os := l.mergeSort fun a b => a.rank ≤ b.rank

end Os

/-! ## §2 Architectures -/

/-- Processor architectures, in their order. -/
inductive Arch where
  | i386
  | amd64
  | arm
  | arm64
deriving DecidableEq, Repr

namespace Arch

def all : List Arch := [i386, amd64, arm, arm64]

/-- The value of `GOARCH`. -/
def name : Arch → String
  | i386 => "386"
  | amd64 => "amd64"
  | arm => "arm"
  | arm64 => "arm64"

def ofName? (s : String) : Option Arch := all.find? fun arch => arch.name == s

/-- The place in the order of architectures. -/
def rank : Arch → Nat
  | i386 => 0
  | amd64 => 1
  | arm => 2
  | arm64 => 3

def sort (l : List Arch) : List Arch := l.mergeSort fun a b => a.rank ≤ b.rank

end Arch

/-! ## §3 Targets -/

/-- An operating system with an architecture. -/
structure Target where
  os : Os
  arch : Arch
deriving DecidableEq, Repr

namespace Target

/-- Why a text is no target. -/
inductive Flaw where
  /-- no dash parts the text -/
  | noDash (text : String)
  | unknownOs (text : String)
  | unknownArch (text : String)
deriving DecidableEq, Repr

def Flaw.message : Flaw → String
  | noDash text => "invalid target '" ++ text ++ "', expected <os>-<arch>"
  | unknownOs text => "unknown operating system '" ++ text ++ "'"
  | unknownArch text => "unknown architecture '" ++ text ++ "'"

/-- The two names with a dash between. -/
def pair (t : Target) : String := t.os.name ++ "-" ++ t.arch.name

/-- The name of the binary of `tool` for this target. -/
def binaryName (t : Target) (tool : String) : String :=
  tool ++ "-" ++ t.pair ++ t.os.exeSuffix

end Target

def Os.ofText (s : String) : Except Target.Flaw Os :=
  match Os.ofName? s with
  | some os => .ok os
  | none => .error (.unknownOs s)

def Arch.ofText (s : String) : Except Target.Flaw Arch :=
  match Arch.ofName? s with
  | some arch => .ok arch
  | none => .error (.unknownArch s)

/-- What stands before and after the first `sep`, if there is one. -/
def splitOnce (sep : Char) : List Char → Option (List Char × List Char)
  | [] => none
  | c :: rest =>
    if c = sep then some ([], rest)
    else (splitOnce sep rest).map fun (before, after) => (c :: before, after)

/-- Reads a target: the operating system up to the first dash, the architecture
after it. -/
def Target.ofText (s : String) : Except Target.Flaw Target :=
  match splitOnce '-' s.toList with
  | none => .error (.noDash s)
  | some (before, after) => do
    let os ← Os.ofText (String.ofList before)
    let arch ← Arch.ofText (String.ofList after)
    pure ⟨os, arch⟩

/-! ## §4 Reading and writing -/

theorem Os.ofName?_eq_some {s : String} {os : Os} : Os.ofName? s = some os ↔ s = os.name := by
  constructor
  · intro h
    have := List.find?_some h
    simpa using (beq_iff_eq.mp this).symm
  · rintro rfl
    cases os <;> decide

theorem Arch.ofName?_eq_some {s : String} {arch : Arch} :
    Arch.ofName? s = some arch ↔ s = arch.name := by
  constructor
  · intro h
    have := List.find?_some h
    simpa using (beq_iff_eq.mp this).symm
  · rintro rfl
    cases arch <;> decide

/-- What is split off makes the whole again, and the first part has no
separator. -/
theorem splitOnce_eq_some {sep : Char} {l before after : List Char}
    (h : splitOnce sep l = some (before, after)) :
    l = before ++ sep :: after ∧ sep ∉ before := by
  induction l generalizing before with
  | nil => simp [splitOnce] at h
  | cons c rest ih =>
    unfold splitOnce at h
    split at h
    · rename_i hc
      simp only [Option.some.injEq, Prod.mk.injEq] at h
      obtain ⟨rfl, rfl⟩ := h
      simp [hc]
    · rename_i hc
      obtain ⟨⟨b, a⟩, hba, heq⟩ := Option.map_eq_some_iff.mp h
      simp only [Prod.mk.injEq] at heq
      obtain ⟨rfl, rfl⟩ := heq
      obtain ⟨h₁, h₂⟩ := ih hba
      exact ⟨by rw [h₁]; rfl, by simp [h₂, Ne.symm hc]⟩

theorem splitOnce_append {sep : Char} {before after : List Char} (h : sep ∉ before) :
    splitOnce sep (before ++ sep :: after) = some (before, after) := by
  induction before with
  | nil => simp [splitOnce]
  | cons c rest ih =>
    simp only [List.mem_cons, not_or] at h
    simp [splitOnce, Ne.symm h.1, ih h.2]

/-! ## §5 Names of binaries -/

namespace Target

/-- What the name of a binary has behind the name of the tool. -/
def ending (t : Target) : String := "-" ++ t.pair ++ t.os.exeSuffix

theorem binaryName_eq (t : Target) (tool : String) : t.binaryName tool = tool ++ t.ending := by
  simp [binaryName, ending, String.append_assoc]

/-- No ending ends with that of another target. The name of one architecture starts that
of another, so this is so only because names are read from their end. -/
theorem eq_of_ending_suffix {s t : Target} (h : s.ending.toList <:+ t.ending.toList) : s = t := by
  obtain ⟨os, arch⟩ := s
  obtain ⟨os', arch'⟩ := t
  revert h
  cases os <;> cases arch <;> cases os' <;> cases arch' <;> decide

/-- The name of a binary tells the tool and the target, whatever the name of the tool
looks like. -/
theorem binaryName_eq_iff {s t : Target} {tool other : String} :
    s.binaryName tool = t.binaryName other ↔ tool = other ∧ s = t := by
  constructor
  · intro h
    have hlist : tool.toList ++ s.ending.toList = other.toList ++ t.ending.toList := by
      simpa [binaryName_eq] using congrArg String.toList h
    have hs : s.ending.toList <:+ tool.toList ++ s.ending.toList := List.suffix_append _ _
    have ht : t.ending.toList <:+ tool.toList ++ s.ending.toList :=
      hlist ▸ List.suffix_append _ _
    -- of two endings of one name the shorter one ends the longer one
    obtain rfl : s = t := by
      rcases Nat.le_total s.ending.toList.length t.ending.toList.length with hle | hle
      · exact eq_of_ending_suffix (List.suffix_of_suffix_length_le hs ht hle)
      · exact (eq_of_ending_suffix (List.suffix_of_suffix_length_le ht hs hle)).symm
    exact ⟨String.toList_inj.mp (List.append_cancel_right hlist), rfl⟩
  · rintro ⟨rfl, rfl⟩
    rfl

/-- The name of a binary ends as a Windows executable does exactly if it is one; the name
of the tool has no part in this, since an ending is longer. -/
theorem exe_suffix_binaryName_iff (t : Target) (tool : String) :
    ".exe".toList <:+ (t.binaryName tool).toList ↔ t.os = .windows := by
  have hends : t.ending.toList <:+ (t.binaryName tool).toList := by
    rw [binaryName_eq, String.toList_append]
    exact List.suffix_append _ _
  have hlen : ".exe".toList.length ≤ t.ending.toList.length := by
    obtain ⟨os, arch⟩ := t
    cases os <;> cases arch <;> decide
  have hexe : ".exe".toList <:+ t.ending.toList ↔ t.os = .windows := by
    obtain ⟨os, arch⟩ := t
    cases os <;> cases arch <;> decide
  rw [← hexe]
  exact ⟨fun h => List.suffix_of_suffix_length_le h hends hlen, fun h => h.trans hends⟩

end Target

end ReleaseKit
