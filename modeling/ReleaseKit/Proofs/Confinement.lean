/-
ReleaseKit.Proofs.Confinement — a release changes nothing but its own version.

Whatever step is carried out, with whatever tree it starts and wherever it is
stopped: outside the directory of the version only the pointer can change, and
missing directories can be made on the way to it. So versions that share a
staging directory do not disturb each other (`execute_confined`).
-/
import ReleaseKit.Proofs.Layout
import ReleaseKit.Proofs.Run

namespace ReleaseKit

open Location

variable {σ : Type} {run : Runner σ} {cwd : Location} {c : Config}

namespace Config

/-- The places that a release of a configuration may change. -/
def Own (c : Config) (cwd l : Location) : Prop :=
  within (c.versionDir.location cwd) l = true ∨ l = c.latestPath.location cwd

/-- What an action of a plan reaches is the release's own. -/
theorem own_of_reaches (h : c.manifest.PlainNames) (htext : c.distDir.isText = true)
    {step : Step} {a : Action} {l : Location} (ha : a ∈ step.plan c) (hl : a.Reaches cwd l) :
    c.Own cwd l := by
  rcases staysIn_of_mem_plan h ha with hstay | rfl
  · exact .inl (Action.within_of_reaches (isText_versionDir htext) hstay hl)
  · exact .inr hl

/-- What an action of a plan passes is on the way to the directory of the version. -/
theorem within_of_passes (h : c.manifest.PlainNames) (hdist : c.distDir.Descends)
    (htext : c.distDir.isText = true) {step : Step} {a : Action} {l : Location}
    (ha : a ∈ step.plan c) (hl : a.Passes cwd l) :
    within l (c.versionDir.location cwd) = true := by
  rcases staysIn_of_mem_plan h ha with hstay | rfl
  · exact Action.within_of_passes (descends_versionDir hdist) (isText_versionDir htext) hstay hl
  · rw [location_versionDir]
    exact within_cons (Action.within_of_passes_latest hdist hl)

end Config

/-- The tree that a run of a plan leaves, wherever it is stopped, is the tree that
it was started with, but for the release's own and the way there. -/
theorem execute_plan_sameBut (hnames : c.manifest.PlainNames) (hdist : c.distDir.Descends)
    (htext : c.distDir.isText = true) (hrun : run.OnlyBuilds cwd) (step : Step) (s : Session σ) :
    FileTree.SameBut (c.Own cwd) (fun l => within l (c.versionDir.location cwd) = true) s.tree
      (execute run cwd (step.plan c) s).2.tree := by
  refine execute_keeps .refl .trans (fun a ha world => ?_) s
  have hone := Action.apply_sameBut a (fun command state t ha => ha ▸ hrun command state t)
    (.start world.1 world.2 none)
  exact hone.mono (fun l hl => Config.own_of_reaches hnames htext ha hl)
    fun l hl => Config.within_of_passes hnames hdist htext ha hl

/-- Outside the directory of the version only the pointer changes, and directories
are made on the way. -/
theorem execute_plan_outside (hnames : c.manifest.PlainNames) (hdist : c.distDir.Descends)
    (htext : c.distDir.isText = true) (hrun : run.OnlyBuilds cwd) (step : Step) (s : Session σ)
    {l : Location} (hout : within (c.versionDir.location cwd) l = false) (hne : l ≠ c.latestPath.location cwd) :
    (execute run cwd (step.plan c) s).2.tree.node? l = s.tree.node? l ∨
      (below l (c.versionDir.location cwd) = true ∧ s.tree.node? l = none ∧
        (execute run cwd (step.plan c) s).2.tree.node? l = some .dir) := by
  rcases execute_plan_sameBut hnames hdist htext hrun step s l with hown | heq | ⟨hway, hnone, hdir⟩
  · rcases hown with hin | rfl
    · rw [hin] at hout
      cases hout
    · exact absurd rfl hne
  · exact .inl heq
  · refine .inr ⟨below_iff.mpr ⟨within_iff.mp hway, ?_⟩, hnone, hdir⟩
    rintro rfl
    rw [within_self] at hout
    cases hout

/-- **Confinement.** A run of any step, however it ends, leaves everything outside
the directory of its version as it was, but for the pointer and for directories that
it makes on the way where nothing was. In particular it leaves every other version
in the staging directory as it was. -/
theorem execute_confined (run : Runner σ) (cwd : Location) (c : Config) (step : Step)
    (hnames : c.manifest.PlainNames) (hdist : c.distDir.Descends)
    (htext : c.distDir.isText = true) (hrun : run.OnlyBuilds cwd)
    (tree : FileTree) (state : σ) (room : Option Nat) :
    let left := (execute run cwd (step.plan c) (.start tree state room)).2.tree
    (∀ l, within (c.versionDir.location cwd) l = false → l ≠ c.latestPath.location cwd →
      left.node? l = tree.node? l ∨
        (below l (c.versionDir.location cwd) = true ∧ tree.node? l = none ∧
          left.node? l = some .dir)) ∧
    ∀ other : Version, other ≠ c.version → other.text ≠ Config.latestName →
      ∀ l, within ((c.distDir.join other.text).location cwd) l = true →
        left.node? l = tree.node? l := by
  intro left
  refine ⟨fun l hout hne => ?_, fun other hother hname l hl => ?_⟩
  · exact execute_plan_outside hnames hdist htext hrun step _ hout hne
  · have hsame := execute_plan_sameBut hnames hdist htext hrun step (.start tree state room)
    rw [LocalPath.location_join_plain other.plainName] at hl
    have hversion : OsText.encode other.text ≠ OsText.encode c.version.text := fun h =>
      hother (Version.ext_text (OsText.encode_inj.mp h))
    refine hsame.node?_eq ?_ fun hway => ?_
    · rintro (hin | rfl)
      · rw [Config.location_versionDir] at hin
        exact hversion (eq_of_within hl hin)
      · rw [Config.location_latestPath] at hl
        exact hname (Config.encode_eq_latestName.mp (eq_of_within_sibling hl))
    · rw [Config.location_versionDir] at hway
      exact hversion (eq_of_within_sibling (within_trans hl hway))

/-- A full release of one version by the standard manifest, with an echo that takes
a thousand bytes, leaves a file of another version. -/
theorem standard_release_confined :
    let tree := ((FileTree.empty.put ["dist"] .dir).put ["2.0", "dist"] .dir).put
      ["osx.zip", "2.0", "dist"] (.file (.ofText "packed before"))
    (execute (Runner.faithful Unit []) [] (Step.plan (.standard ⟨"1.0", by decide⟩) .all)
      (.start tree () (some 1000))).2.tree.node? ["osx.zip", "2.0", "dist"] =
        some (.file (.ofText "packed before")) := by
  intro tree
  have hbefore : tree.node? ["osx.zip", "2.0", "dist"] =
      some (.file (.ofText "packed before")) := by
    decide +kernel
  rw [← hbefore]
  exact (execute_confined (Runner.faithful Unit []) [] (.standard ⟨"1.0", by decide⟩) .all
    Manifest.standard_plainNames (Config.standard_descends _) (LocalPath.isText_ofText _)
    (Runner.faithful_onlyBuilds Unit []) tree () (some 1000)).2 ⟨"2.0", by decide⟩
    (by decide) (by decide) ["osx.zip", "2.0", "dist"] (by decide +kernel)

/-- In a staging directory whose name is not text the compiler writes to another directory, whose
name is what is shown of it. -/
theorem byte_named_build_strays :
    let c := Config.byteNamed ⟨"1.0", by decide⟩
    let run := Runner.faithful Unit []
    let stray : Location := ["datacol-linux-amd64", "1.0", LocalPath.byteNamed.text]
    c.manifest.PlainNames ∧ c.distDir.Descends ∧ run.OnlyBuilds [] ∧
      within (c.versionDir.location []) stray = false ∧ stray ≠ c.latestPath.location [] ∧
      FileTree.empty.node? stray = none ∧
      (execute run [] (Step.plan c .build) (.start FileTree.empty () none)).2.tree.node? stray =
        some (.file (.ofText "built for linux amd64\n")) :=
  ⟨Manifest.standard_plainNames, LocalPath.byteNamed_descends, Runner.faithful_onlyBuilds Unit [],
    by decide +kernel, by decide +kernel, by decide +kernel, by decide +kernel⟩

end ReleaseKit
