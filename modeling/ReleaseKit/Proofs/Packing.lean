/-
ReleaseKit.Proofs.Packing — every bundle is packed once or left out once.

The plan of the archive step and the warnings for the bundles that are left out are made
together, going through the bundles. `Config.Sorts` goes through them in the same way, and says
of each what becomes of it by one test, whether the matrix has its target, so that none can fall
into both lists or into neither; what is planned is the groups of actions that it gives, one
after another and nothing else, and what is warned about is the rest
(`Config.sorts_packBundles`). A bundle that is left out has no other part in a plan, since
all that names and plans are made from agrees with it and without it (`Config.Agree`).

  §1 Groups    — `Config.Packs`: what is done for one bundle.
  §2 Bundles   — `Config.Sorts`: what becomes of each.
  §3 Together  — `bundles_packed_or_left_out`.
-/
import ReleaseKit.Proofs.Selection
import ReleaseKit.Proofs.Supply

namespace ReleaseKit

namespace Config

/-! ## §1 Groups -/

/-- A group of actions that packs a bundle: the binary of its target is copied under the
canonical name, the copy is packed under this name into the bundle's own archive, the
archive, by what shows of its path, is uploaded to the bundle's own address, and the address is
opened. -/
def Packs (c : Config) (b : Bundle) (group : List Action) : Prop :=
  ∃ upload grant : CommandLine,
    group = [.copyFile (c.binaryPath b.target) c.canonicalPath,
      .archive c.canonicalPath c.manifest.canonicalName (c.bundlePath b),
      .exec upload, .exec grant] ∧
    upload.uploaded? = some (.file (c.bundlePath b).asShown) ∧
    upload.upload? = some ⟨c.bundleRemote b, false⟩ ∧
    grant.grant? = some ⟨c.bundleRemote b, false⟩

theorem packs_bundleActions (c : Config) (b : Bundle) : c.Packs b (c.bundleActions b) := by
  have hne : (c.bundlePath b).text ≠ "-r" := text_zip_ne _ _
  refine ⟨Toolchain.upload (c.bundlePath b) (c.bundleRemote b),
    Toolchain.grantPublicRead (c.bundleRemote b), rfl, by simp, ?_, by simp⟩
  simp [hne]

/-! ## §2 Bundles -/

/-- What becomes of bundles, one after another: one whose target is in the matrix gets a
group of actions of its own, any other is left out. -/
inductive Sorts (c : Config) : List Bundle → List (List Action) → List Bundle → Prop where
  | nil : Sorts c [] [] []
  | packed {b : Bundle} {rest left : List Bundle} {group : List Action}
      {groups : List (List Action)} : b.target ∈ c.matrix → c.Packs b group →
      Sorts c rest groups left → Sorts c (b :: rest) (group :: groups) left
  | left {b : Bundle} {rest left : List Bundle} {groups : List (List Action)} :
      b.target ∉ c.matrix → Sorts c rest groups left → Sorts c (b :: rest) groups (b :: left)

theorem builds_iff (c : Config) (b : Bundle) : c.builds b = true ↔ b.target ∈ c.matrix := by
  simp [builds]

/-- Going through bundles sorts them. -/
theorem sorts_packBundles (c : Config) (bundles : List Bundle) : ∃ groups,
    c.Sorts bundles groups (c.packBundles bundles).2 ∧
      (c.packBundles bundles).1 = groups.flatten := by
  induction bundles with
  | nil => exact ⟨[], .nil, rfl⟩
  | cons b rest ih =>
    obtain ⟨groups, hsorts, hactions⟩ := ih
    rw [packBundles]
    dsimp only
    by_cases hb : c.builds b = true
    · rw [if_pos hb, hactions]
      exact ⟨c.bundleActions b :: groups,
        .packed ((c.builds_iff b).mp hb) (c.packs_bundleActions b) hsorts, rfl⟩
    · rw [if_neg hb]
      exact ⟨groups, .left (fun htarget => hb ((c.builds_iff b).mpr htarget)) hsorts, hactions⟩

/-- The archive step packs the bundles and warns about those that are left out. -/
theorem sorts_bundles (c : Config) : ∃ groups,
    c.Sorts c.manifest.bundles groups (Step.skipped c .archive) ∧
      Step.plan c .archive = groups.flatten :=
  c.sorts_packBundles c.manifest.bundles

/-- The configuration with other bundles. -/
def setBundles (c : Config) (bundles : List Bundle) : Config :=
  { c with
    manifest := { c.manifest with bundles }
    matrix_ne_nil := by
      have hmatrix := c.matrix_ne_nil
      cases henvironment : Environment.ofTag c.envTag <;> rwa [henvironment] at hmatrix }

/-- Bundles are no part of what names and plans are made from otherwise. -/
theorem agree_setBundles (c : Config) (bundles : List Bundle) :
    c.Agree (c.setBundles bundles) := by
  have hprofile : (c.setBundles bundles).profile = c.profile := by
    show Manifest.profile { c.manifest with bundles } c.environment =
      c.manifest.profile c.environment
    cases c.environment <;> rfl
  refine ⟨rfl, rfl, ?_, ?_, ⟨rfl, rfl, rfl, rfl, rfl, rfl, rfl, rfl⟩⟩
  · rw [bucket, hprofile, bucket]
  · rw [matrix, hprofile, matrix]

/-- One more bundle that is left out is no part of the plans, and is warned about once. -/
theorem plan_setBundles {c : Config} {before after : List Bundle} {b : Bundle}
    (hbundles : c.manifest.bundles = before ++ after) (hb : b.target ∉ c.matrix) :
    (∀ step : Step, step.plan (c.setBundles (before ++ b :: after)) = step.plan c) ∧
    ∃ first last, c.unbuiltBundles = first ++ last ∧
      (c.setBundles (before ++ b :: after)).unbuiltBundles = first ++ b :: last := by
  have hagree := c.agree_setBundles (before ++ b :: after)
  have hleft : c.builds b = false := by
    rw [Bool.eq_false_iff]
    exact fun hbuilds => hb ((c.builds_iff b).mp hbuilds)
  constructor
  · refine hagree.plan_eq ?_
    rw [builtBundles, builtBundles, hagree.builds_eq, hbundles]
    show (before ++ b :: after).filter c.builds = (before ++ after).filter c.builds
    rw [List.filter_append, List.filter_cons_of_neg (by simp [hleft]), List.filter_append]
  · refine ⟨before.filter fun b => !c.builds b, after.filter fun b => !c.builds b, ?_, ?_⟩
    · rw [unbuiltBundles_eq, hbundles, List.filter_append]
    · rw [unbuiltBundles_eq, hagree.builds_eq]
      show (before ++ b :: after).filter (fun b => !c.builds b) = _
      rw [List.filter_append, List.filter_cons_of_pos (by simp [hleft])]

end Config

/-! ## §3 Together -/

/-- **Every bundle is packed once or warned about once.** The plan of the archive step is one
group of actions for each bundle whose target is in the matrix, in the order of the bundles,
and nothing else; its warnings are the other bundles, in their order. A full release has the
same warnings, the other steps have none. One more bundle whose target is not in the matrix,
put anywhere among the bundles, leaves the plan of every step as it was, and adds itself to
the warnings of the archive step and of the full release, once and in its place. -/
theorem bundles_packed_or_left_out (c : Config) :
    (∃ groups, c.Sorts c.manifest.bundles groups (Step.skipped c .archive) ∧
      Step.plan c .archive = groups.flatten) ∧
    Step.skipped c .all = Step.skipped c .archive ∧
    (∀ step : Step, step ≠ .all → step ≠ .archive → step.skipped c = []) ∧
    ∀ before after b, c.manifest.bundles = before ++ after → b.target ∉ c.matrix →
      (∀ step : Step, step.plan (c.setBundles (before ++ b :: after)) = step.plan c) ∧
      ∃ first last, ∀ step : Step, step = .all ∨ step = .archive →
        step.skipped c = first ++ last ∧
          step.skipped (c.setBundles (before ++ b :: after)) = first ++ b :: last := by
  refine ⟨c.sorts_bundles, rfl, fun step hall harchive => ?_,
    fun before after b hbundles hb => ?_⟩
  · cases step with
    | all => exact absurd rfl hall
    | archive => exact absurd rfl harchive
    | clean | api | build | publish => rfl
  · obtain ⟨hplans, first, last, hskipped, hskipped'⟩ := Config.plan_setBundles hbundles hb
    refine ⟨hplans, first, last, ?_⟩
    rintro step (rfl | rfl) <;> exact ⟨hskipped, hskipped'⟩

/-- Between two bundles that are packed, another one is put that has the name of the second
and a target that is not built: the plans stay as they are, and it is warned about. -/
theorem unbuilt_bundle_changes_no_plan :
    let c := Config.standard ⟨"1.0", by decide⟩
    let osx : Bundle := ⟨"osx", ⟨.darwin, .amd64⟩⟩
    let linux : Bundle := ⟨"linux", ⟨.linux, .amd64⟩⟩
    let unbuilt : Bundle := ⟨"linux", ⟨.linux, .arm64⟩⟩
    let c' := c.setBundles [osx, unbuilt, linux]
    c.manifest.bundles = [osx] ++ [linux] ∧ unbuilt.target ∉ c.matrix ∧
      Step.plan c' .all = Step.plan c .all ∧ Step.plan c' .archive = Step.plan c .archive ∧
      Step.skipped c .all = [] ∧ Step.skipped c' .all = [unbuilt] := by
  intro c osx linux unbuilt c'
  have hbundles : c.manifest.bundles = [osx] ++ [linux] := rfl
  have hunbuilt : unbuilt.target ∉ c.matrix := by decide
  have hnone : Step.skipped c .all = [] := by decide
  obtain ⟨hplans, first, last, hskipped⟩ :=
    (bundles_packed_or_left_out c).2.2.2 [osx] [linux] unbuilt hbundles hunbuilt
  obtain ⟨hbefore, hafter⟩ := hskipped .all (.inl rfl)
  obtain ⟨rfl, rfl⟩ := List.append_eq_nil_iff.mp (hbefore.symm.trans hnone)
  exact ⟨hbundles, hunbuilt, hplans .all, hplans .archive, hnone, hafter⟩

end ReleaseKit
