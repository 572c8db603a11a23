/-
ReleaseKit.Proofs.Interruption — what a failed release leaves of the pointer.

The pointer is written before it is uploaded, and nothing that a release has done is
undone when it fails. So a release that fails keeps the pointer as it was only if it
fails no later than at the action that writes it. After that come two more actions,
the upload of the pointer and the last grant; if one of these fails, the release has
failed and the pointer says its version all the same (`failed_release_pointer`).

  §1 Runners   — runners that build what they are asked to, or fail.
  §2 The plan  — what comes after the pointer comes nowhere else.
  §3 Failures  — which failed releases have moved the pointer.
-/
import ReleaseKit.Proofs.Pointer

namespace ReleaseKit

open Location

/-! ## §1 Runners -/

/-- A runner whose commands leave what they are to write, each its own output, and change
nothing else, or fail and may have changed nothing at all. -/
def Runner.BuildsOrFails {σ : Type} (run : Runner σ) (output : CommandLine → Contents)
    (cwd : Location) : Prop :=
  ∀ command state t, (run command state t).tree = command.leave (output command) cwd t ∨
    (∃ error, (run command state t).result = .error error) ∧ (run command state t).tree = t

theorem Runner.BuildsOrFails.onlyBuilds {σ : Type} {run : Runner σ}
    {output : CommandLine → Contents} {cwd : Location} (h : run.BuildsOrFails output cwd) :
    run.OnlyBuilds cwd := by
  intro command state t
  rcases h command state t with htree | ⟨-, htree⟩
  · rw [htree]
    exact command.leave_sameBut _ cwd t
  · rw [htree]
    exact .refl t

/-- A rehearsed command that fails has done nothing. -/
theorem Runner.rehearsing_buildsOrFails (rules : List FailRule) (cwd : Location) :
    (Runner.rehearsing rules cwd).BuildsOrFails CommandLine.built cwd := by
  intro command lines t
  unfold Runner.rehearsing
  dsimp only
  split
  · exact .inr ⟨⟨_, rfl⟩, rfl⟩
  · exact .inl rfl

/-! ## §2 The plan -/

/-- A place in a list comes after an item if something stands there that stands only
after it. -/
theorem mem_take_iff_of_split {α : Type} {front back : List α} {item a : α} {i : Nat}
    (hitem : item ∉ front) (hback : ∀ b ∈ back, b ∉ front ++ [item])
    (hi : (front ++ item :: back)[i]? = some a) :
    item ∈ (front ++ item :: back).take i ↔ a ∈ back := by
  have hsplit : front ++ item :: back = (front ++ [item]) ++ back := by simp
  rcases Nat.lt_or_ge i (front ++ [item]).length with hlt | hge
  · -- up to the item itself, nothing of what comes after stands there
    have hmem : a ∈ front ++ [item] := by
      rw [hsplit, List.getElem?_append_left hlt] at hi
      exact List.mem_of_getElem? hi
    have hshort : i ≤ front.length := by
      rw [List.length_append, List.length_singleton] at hlt
      omega
    refine iff_of_false (fun hin => hitem ?_) fun ha => hback a ha hmem
    rw [List.take_append_of_le_length hshort] at hin
    exact List.mem_of_mem_take hin
  · refine iff_of_true ?_ ?_
    · rw [hsplit, List.take_append, List.take_of_length_le hge]
      simp
    · rw [hsplit, List.getElem?_append_right hge] at hi
      exact List.mem_of_getElem? hi

/-- A text ends as what it ends with does. -/
theorem getLast?_append_of_some {s t : String} {last : Char} (h : t.toList.getLast? = some last) :
    (s ++ t).toList.getLast? = some last := by
  simp [h]

namespace Config

variable {c : Config}

/-- What is done after the pointer has been written: it is uploaded, and everything
that has been uploaded is opened to all readers. -/
def afterPointer (c : Config) : List Action :=
  [.exec (Toolchain.upload c.latestPath c.latestRemote),
    .exec (Toolchain.grantPublicReadBelow c.binariesRemote)]

theorem planPublish_eq (c : Config) :
    c.planPublish = [c.uploadAll] ++ c.pointerAction :: c.afterPointer := rfl

/-- The pointer has another address than any archive. -/
theorem latestRemote_ne_zip (c : Config) (stem : String) : stem ++ ".zip" ≠ c.latestRemote := by
  intro h
  have hzip : (stem ++ ".zip").toList.getLast? = some 'p' := getLast?_append_of_some (by decide)
  have htxt : c.latestRemote.toList.getLast? = some 't' := by
    rw [latestRemote, String.append_assoc]
    exact getLast?_append_of_some (by decide)
  rw [h, htxt] at hzip
  exact absurd hzip (by decide)

/-- What comes after the pointer comes in no other part of a release. -/
theorem not_mem_of_afterPointer {a : Action} (h : a ∈ c.afterPointer) :
    a ∉ c.planClean ∧ a ∉ c.planApi ∧ a ∉ c.planBuild ∧ a ∉ c.planArchive ∧
      a ∉ [c.uploadAll, c.pointerAction] := by
  have hgo : Toolchain.gsutil ≠ Toolchain.go := gsutil_ne_go
  have hapi := c.latestRemote_ne_zip (c.versionRemote ++ "/" ++ c.manifest.apiName)
  have hbundle : ∀ b, c.bundleRemote b ≠ c.latestRemote := fun b =>
    c.latestRemote_ne_zip (c.bucket ++ "/" ++ b.name)
  simp only [afterPointer, List.mem_cons, List.not_mem_nil, or_false] at h
  rcases h with rfl | rfl
  · refine ⟨by simp [planClean], ?_, ?_, ?_, ?_⟩
    · simp [planApi, Toolchain.goBuild, Toolchain.upload, Toolchain.grantPublicRead, hgo,
        apiArchiveRemote, hapi.symm]
    · simp [planBuild, buildAction, Toolchain.goBuild, Toolchain.upload, hgo.symm]
    · simp [planArchive_eq, bundleActions, Toolchain.upload, Toolchain.grantPublicRead,
        fun b => (hbundle b).symm]
    · simp [uploadAll, pointerAction, Toolchain.upload, Toolchain.uploadDir]
  · refine ⟨by simp [planClean], ?_, ?_, ?_, ?_⟩
    · simp [planApi, Toolchain.goBuild, Toolchain.upload, Toolchain.grantPublicRead,
        Toolchain.grantPublicReadBelow, hgo]
    · simp [planBuild, buildAction, Toolchain.goBuild, Toolchain.grantPublicReadBelow, hgo.symm]
    · simp [planArchive_eq, bundleActions, Toolchain.upload, Toolchain.grantPublicRead,
        Toolchain.grantPublicReadBelow]
    · simp [uploadAll, pointerAction, Toolchain.uploadDir, Toolchain.grantPublicReadBelow]

/-- Of the actions that follow one another up to the pointer, which a failed run has
done is known from the action that it failed at. -/
theorem pointerAction_done_iff {step : Step} {stop : Stopped}
    (h : (step.plan c)[stop.index]? = some stop.action) :
    c.pointerAction ∈ doneOf (step.plan c) (.error stop) ↔ stop.action ∈ c.afterPointer := by
  have hlater : ∀ {front : List Action}, c.pointerAction ∉ front →
      (∀ a ∈ c.afterPointer, a ∉ front ++ [c.uploadAll, c.pointerAction]) →
      step.plan c = front ++ c.planPublish →
      (c.pointerAction ∈ doneOf (step.plan c) (.error stop) ↔ stop.action ∈ c.afterPointer) := by
    intro front hfront hafter hplan
    have hsplit : step.plan c = (front ++ [c.uploadAll]) ++ c.pointerAction :: c.afterPointer := by
      rw [hplan, planPublish_eq, List.append_assoc]
    rw [hsplit] at h ⊢
    refine mem_take_iff_of_split ?_ ?_ h
    · have hne : c.pointerAction ≠ c.uploadAll := by simp [uploadAll, pointerAction]
      simp [hfront, hne]
    · simpa using hafter
  have hnever : ∀ {actions : List Action}, step.plan c = actions → c.pointerAction ∉ actions →
      (∀ a ∈ c.afterPointer, a ∉ actions) →
      (c.pointerAction ∈ doneOf (step.plan c) (.error stop) ↔ stop.action ∈ c.afterPointer) := by
    rintro actions rfl hpointer hafter
    exact iff_of_false (fun hin => hpointer ((prefix_doneOf _ _).subset hin))
      fun hin => hafter _ hin (List.mem_of_getElem? h)
  obtain ⟨hclean, hapi, hbuild, harchive⟩ := c.pointerAction_not_mem
  cases step with
  | clean => exact hnever rfl hclean fun a ha => (not_mem_of_afterPointer ha).1
  | api => exact hnever rfl hapi fun a ha => (not_mem_of_afterPointer ha).2.1
  | build => exact hnever rfl hbuild fun a ha => (not_mem_of_afterPointer ha).2.2.1
  | archive => exact hnever rfl harchive fun a ha => (not_mem_of_afterPointer ha).2.2.2.1
  | publish =>
    exact hlater List.not_mem_nil (fun a ha => (not_mem_of_afterPointer ha).2.2.2.2) rfl
  | all =>
    refine hlater c.pointerAction_not_mem_preparation (fun a ha => ?_) rfl
    obtain ⟨hclean, hapi, hbuild, harchive, hlast⟩ := not_mem_of_afterPointer ha
    rw [List.mem_append, not_or]
    refine ⟨?_, hlast⟩
    cases hinclude : c.manifest.includeApi <;>
      simp [preparation, hclean, hapi, hbuild, harchive, hinclude]

end Config

/-! ## §3 Failures -/

/-- **Which failed releases have moved the pointer.** A run that fails leaves the file
of the pointer as it was, unless it fails at one of the two actions that come after
the pointer has been written: then the pointer says the version that has not been
released. If the runner makes no directories but on the way to its outputs, that is
all there can be at the place of the pointer. -/
theorem failed_release_pointer {σ : Type} (run : Runner σ) (cwd : Location) (c : Config)
    (hnames : c.manifest.PlainNames) (hversion : c.version.text ≠ Config.latestName)
    (hrun : run.KeepsFiles cwd) (step : Step) (tree : FileTree) (state : σ) (room : Option Nat)
    (stop : Stopped) (left : Session σ)
    (hfail : execute run cwd (step.plan c) (.start tree state room) = (.error stop, left)) :
    let latest := c.latestPath.location cwd
    left.tree.file? latest =
        (if stop.action ∈ c.afterPointer then some (.ofText (c.version.text ++ "\n"))
          else tree.file? latest) ∧
      (c.distDir.Descends → run.OnlyBuilds cwd →
        left.tree.node? latest =
          if stop.action ∈ c.afterPointer then some (.file (.ofText (c.version.text ++ "\n")))
          else tree.node? latest) := by
  intro latest
  have hmoved := Config.pointerAction_done_iff (action_of_stop hfail)
  refine ⟨?_, fun hdist hbuild => ?_⟩
  · have hfile := Config.execute_file?_latest hnames hversion hrun step (.start tree state room)
    rw [hfail] at hfile
    simp only [hmoved] at hfile
    exact hfile
  · have hnode := Config.execute_node?_latest hnames hversion hdist hbuild step
      (.start tree state room)
    rw [hfail] at hnode
    simp only [hmoved] at hnode
    exact hnode

/-- A tree in which a version has been published. -/
def FileTree.published : FileTree :=
  (FileTree.empty.put ["dist"] .dir).put ["latest.txt", "dist"] (.file (.ofText "0.9\n"))

/-- The pointer has been written and cannot be uploaded: the release fails, and the
pointer says the version that has not been released. -/
theorem failed_upload_moves_pointer :
    ∃ stop left,
      execute (Runner.rehearsing [⟨"cp dist/latest.txt", .exit (some 1)⟩] [])
        [] (Step.plan (.standard ⟨"1.0", by decide⟩) .publish) (.start .published [] none) =
          (.error stop, left) ∧
      FileTree.published.file? ["latest.txt", "dist"] = some (.ofText "0.9\n") ∧
      left.tree.file? ["latest.txt", "dist"] = some (.ofText "1.0\n") := by
  generalize hrun : Runner.rehearsing [⟨"cp dist/latest.txt", .exit (some 1)⟩] [] = run
  have hkeep : run.KeepsFiles [] :=
    hrun ▸ (Runner.rehearsing_buildsOrFails _ _).onlyBuilds.keepsFiles
  have hstop : (execute run [] (Step.plan (.standard ⟨"1.0", by decide⟩) .publish)
      (.start .published [] none)).1 =
        .error ⟨2, .exec (Toolchain.upload ⟨"dist/latest.txt"⟩
          "gs://datacol-distros/binaries/latest.txt"), true,
          .commandFailed "gsutil cp dist/latest.txt gs://datacol-distros/binaries/latest.txt"
            (some 1)⟩ := by
    subst hrun
    decide +kernel
  obtain ⟨hfile, -⟩ := failed_release_pointer run [] (.standard ⟨"1.0", by decide⟩)
    Manifest.standard_plainNames (by decide) hkeep .publish .published [] none _ _
    (Prod.ext hstop rfl)
  refine ⟨_, _, Prod.ext hstop rfl, by decide +kernel, ?_⟩
  have hplace : (Config.standard ⟨"1.0", by decide⟩).latestPath.location [] =
      ["latest.txt", "dist"] := by
    decide +kernel
  rw [if_pos (by decide), hplace] at hfile
  exact hfile

end ReleaseKit
