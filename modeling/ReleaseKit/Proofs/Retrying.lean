/-
ReleaseKit.Proofs.Retrying — a release that is retried ends as if it had never failed.

No action of a plan reads a file of the version that a later one writes, unless it has been
written before as well: the binaries are built before they are copied, and the canonical copy
is made anew for each bundle before it is packed. The one exception, a binary that is the
canonical copy itself, is emptied in either run. So a plan can be taken up again from its start
wherever it was left (`Config.leads_again`), and then it ends as it would have.

A plan that builds makes sure of the directory of the version and builds (`Opens`). If it is
left before it has built, nothing has been done that would count; and after that all is ready,
also if the path is not text and the compiler takes it for another.

  §1 Plans     — every plan is prepared.
  §2 Opening   — plans that make the directory of the version and build there.
  §3 Packing and publishing
  §4 Retrying  — `retry_converges`.
-/
import ReleaseKit.Proofs.Links
import ReleaseKit.Proofs.Working

namespace ReleaseKit

open Location

namespace Config

variable {c : Config} {output : CommandLine → Contents} {cwd : Location} {known : String → Prop}
  {s t t' : FileTree} {a : Action} {name : String}

/-! ## §1 Plans -/

section Plans

variable {rest : List Action}

/-- The archive of the API is packed from its binary, which must be known where a build does
not write it. -/
theorem prepared_planApi (hnames : c.manifest.PlainNames)
    (hknown : c.distDir.isText = false → known c.manifest.apiName) :
    c.Prepared known c.planApi := by
  have hzip : PlainName (c.manifest.apiName ++ ".zip") := .zip hnames.api.slash_free
  refine .blind .make ?_
  refine .blind (.build _ _ hnames.api) ?_
  refine .cons (.pack _ hnames.api hzip) ?_ ?_
  · rintro name ⟨⟩
    cases htext : c.distDir.isText with
    | true => exact .inl (.inr rfl)
    | false => exact .inl (.inl (.inl (hknown htext)))
  refine .blind (.command gsutil_ne_go) ?_
  exact .blind (.command gsutil_ne_go) .nil

/-- After clients have been built they are known, if they have been built here. -/
theorem prepared_builds (hnames : c.manifest.PlainNames) (targets : List Target)
    (h : c.Prepared (fun name => known name ∨
      c.distDir.isText = true ∧ ∃ target ∈ targets, c.binaryName target = name) rest) :
    c.Prepared known (targets.map c.buildAction ++ rest) := by
  induction targets generalizing known with
  | nil => exact h.mono fun name hname => by simpa using hname
  | cons target targets ih =>
    refine .blind (.build target _ (.binary hnames.cli target)) ?_
    refine ih (h.mono fun name hname => ?_)
    simp only [List.mem_cons, exists_eq_or_imp] at hname
    rcases hname with hname | ⟨htext, rfl | hname⟩
    · exact .inl (.inl hname)
    · exact .inl (.inr (if_pos htext))
    · exact .inr ⟨htext, hname⟩

/-- Bundles can be packed whose binaries are known. A binary that has the canonical
name is copied onto itself. -/
theorem prepared_bundles (hnames : c.manifest.PlainNames) {bundles : List Bundle}
    (hbundles : ∀ b ∈ bundles, b ∈ c.manifest.bundles ∧
      (known (c.binaryName b.target) ∨ c.binaryName b.target = c.manifest.canonicalName)) :
    c.Prepared known (bundles.flatMap c.bundleActions) := by
  induction bundles with
  | nil => exact .nil
  | cons b bundles ih =>
    obtain ⟨hmem, hknown⟩ := hbundles b (by simp)
    refine .append ?_ (ih fun b' hb' => hbundles b' (by simp [hb']))
    have hzip : PlainName (b.name ++ ".zip") := .zip (hnames.bundle b hmem)
    refine .cons (.copy (.binary hnames.cli b.target) hnames.canonical) ?_ ?_
    · rintro name ⟨⟩
      exact hknown.imp_right fun heq => congrArg some heq.symm
    refine .cons (.pack _ hnames.canonical hzip) (fun name h => .inl (.inr h)) ?_
    refine .blind (.command gsutil_ne_go) ?_
    exact .blind (.command gsutil_ne_go) .nil

theorem prepared_planPublish : c.Prepared known c.planPublish := by
  refine .blind (.command gsutil_ne_go) ?_
  refine .blind .point ?_
  refine .blind (.command gsutil_ne_go) ?_
  exact .blind (.command gsutil_ne_go) .nil

/-- Once the directory of the version has been made anew, a full release is prepared:
it reads only what it has written, or what builds do not write here. -/
theorem prepared_all (known : String → Prop) (hnames : c.manifest.PlainNames)
    (hknown : c.distDir.isText = false → ∀ name, known name) :
    ∃ rest, Step.plan c .all = .resetDir c.versionDir :: rest ∧ c.Prepared known rest := by
  refine ⟨(if c.manifest.includeApi then c.planApi else []) ++ (.createDir c.versionDir ::
    (c.matrix.map c.buildAction ++ (c.planArchive ++ c.planPublish))), ?_, .append ?_ ?_⟩
  · simp [Step.plan, planClean, planBuild]
  · split
    · exact prepared_planApi hnames fun htext => hknown htext _
    · exact .nil
  · refine .blind .make (prepared_builds hnames c.matrix ?_)
    rw [planArchive_eq]
    refine .append (prepared_bundles hnames fun b hb => ⟨(List.mem_filter.mp hb).1, .inl ?_⟩)
      prepared_planPublish
    cases htext : c.distDir.isText with
    | true => exact .inr ⟨rfl, b.target, target_mem_matrix hb, rfl⟩
    | false => exact .inl (.inl (hknown htext _))

end Plans

/-! ## §2 Opening -/

/-- Plans that first make sure of the directory of the version and then build. -/
def Opens (c : Config) (actions : List Action) : Prop :=
  ∃ target name sources rest, PlainName name ∧
    actions = .createDir c.versionDir :: c.buildOf target name sources :: rest

theorem opens_planApi (hnames : c.manifest.PlainNames) : c.Opens c.planApi :=
  ⟨_, _, _, _, hnames.api, rfl⟩

theorem opens_planBuild (hnames : c.manifest.PlainNames) : c.Opens c.planBuild := by
  obtain ⟨target, targets, hmatrix⟩ := List.exists_cons_of_ne_nil c.matrix_ne_nil
  refine ⟨target, _, c.manifest.cliSources, targets.map c.buildAction, .binary hnames.cli target, ?_⟩
  rw [planBuild, show c.matrix = target :: targets from hmatrix]
  rfl

theorem Opens.append {actions : List Action} (h : c.Opens actions) (rest : List Action) :
    c.Opens (actions ++ rest) := by
  obtain ⟨target, name, sources, more, hname, rfl⟩ := h
  exact ⟨target, name, sources, more ++ rest, hname, rfl⟩

/-- After the directory has been made anew, a full release opens. -/
theorem opens_all {rest : List Action} (hnames : c.manifest.PlainNames)
    (hplan : Step.plan c .all = .resetDir c.versionDir :: rest) : c.Opens rest := by
  have hrest : rest = (if c.manifest.includeApi then c.planApi else []) ++
      (c.planBuild ++ (c.planArchive ++ c.planPublish)) := by
    have hall : Step.plan c .all = .resetDir c.versionDir ::
        ((if c.manifest.includeApi then c.planApi else []) ++
          (c.planBuild ++ (c.planArchive ++ c.planPublish))) := by
      simp [Step.plan, planClean]
    exact (List.cons.inj (hplan.symm.trans hall)).2
  rw [hrest]
  split
  · exact (opens_planApi hnames).append _
  · exact (opens_planBuild hnames).append _

section Retry

variable {actions rest before after : List Action} {middle next : FileTree} {l : Location}

/-- An action leaves what it neither reaches nor passes. -/
theorem node?_of_leads (h : Leads output cwd actions t t')
    (hl : ∀ a ∈ actions, ¬ a.Reaches cwd l ∧ ¬ a.Passes cwd l) : t'.node? l = t.node? l := by
  induction h with
  | nil t => rfl
  | @cons a rest t next t' ha _ ih =>
    have hone : next.node? l = t.node? l := by
      have hbuilds := Runner.leaving_builds output cwd
      obtain ⟨-, htree⟩ := (hbuilds.carries_iff (t, ())).mp ha
      obtain ⟨hreach, hpass⟩ := hl a (by simp)
      rw [← htree]
      exact Action.effect_keeps_node hbuilds.onlyBuilds hreach hpass (t, ())
    rw [ih fun b hb => hl b (by simp [hb]), hone]

/-- Making sure of a directory that is there changes nothing. -/
theorem carries_createDir_iff (hdist : c.distDir.Descends) (hfits : c.versionDir.Fits)
    (hdir : t.node? (c.versionDir.location cwd) = some .dir) :
    (Action.createDir c.versionDir).Carries output cwd t t' ↔ t' = t := by
  have hthere : t.makeDirs cwd c.versionDir = (.ok (), t) :=
    FileTree.makeDirs_of_dir ⟨descends_versionDir hdist, hfits⟩ (endsIn_versionDir c cwd).trimmed hdir
  constructor
  · intro h
    exact (Prod.mk.inj (h.symm.trans hthere)).2
  · rintro rfl
    exact hthere

/-- **A plan that opens is left before it has built, or after it**: in the first case nothing has
been done since the directory is there. In the second there is a tree that all is ready in, and
that the plan leads through although it begins anew. -/
theorem Opens.cases (hopens : c.Opens (before ++ after)) (hdist : c.distDir.Descends)
    (hfits : c.versionDir.Fits) (hdir : t.node? (c.versionDir.location cwd) = some .dir)
    (hbefore : Leads output cwd before t middle) (hafter : Leads output cwd after middle t') :
    (middle = t ∧ Leads output cwd (before ++ after) t t') ∨
      ∃ build target name sources rest, PlainName name ∧ build = c.buildOf target name sources ∧
        before = .createDir c.versionDir :: build :: rest ∧
        ∃ built, build.Carries output cwd t built ∧ (∀ actions, c.Ready cwd actions built) ∧
          Leads output cwd before built middle ∧ Leads output cwd rest built middle := by
  have hrun := hbefore.append hafter
  obtain ⟨target, name, sources, rest, hname, hplan⟩ := hopens
  rcases before with _ | ⟨first, _ | ⟨second, before⟩⟩
  · obtain ⟨⟩ := hbefore
    exact .inl ⟨rfl, hrun⟩
  · obtain ⟨rfl, -⟩ := List.cons.inj hplan
    obtain _ | ⟨hcreate, ⟨⟩⟩ := hbefore
    exact .inl ⟨(carries_createDir_iff hdist hfits hdir).mp hcreate, hrun⟩
  · obtain ⟨rfl, hrest⟩ := List.cons.inj hplan
    obtain ⟨rfl, -⟩ := List.cons.inj hrest
    obtain _ | ⟨hcreate, _ | ⟨hbuild, hbefore⟩⟩ := hbefore
    obtain rfl := (carries_createDir_iff hdist hfits hdir).mp hcreate
    have hopened := fun actions => opened_of_build hdist hname hfits hdir hbuild actions
    exact .inr ⟨_, target, name, sources, before, hname, rfl, rfl, _, hbuild,
      fun actions => (hopened actions).1, (hopened []).2.append hbefore, hbefore⟩

/-- Making the directory of the version anew leads from a tree that covers one where nothing is in
it to one that serves in its place, and otherwise nothing changes. -/
theorem again_of_resetDir (hdist : c.distDir.Descends) (hfits : c.versionDir.Fits)
    (h : c.Prepared (fun _ => True) (before ++ after)) (hready : c.Ready cwd (before ++ after) t)
    (hnothing : ∀ l, c.versionDir.location cwd <:+ l → l ≠ c.versionDir.location cwd →
      t.node? l = none)
    (hbefore : Leads output cwd before t middle) (hafter : Leads output cwd after middle t') :
    Leads output cwd (.resetDir c.versionDir :: (before ++ after)) middle t' := by
  have hends := endsIn_versionDir c cwd
  have hdescends := descends_versionDir hdist
  have hloc := hends.location hdescends
  have hcovers := h.beginning.covers hdist (hready.mono (List.subset_append_left _ _)) hbefore
  obtain ⟨anew, hanew, hnode⟩ := FileTree.resetDir_of_dir hends hdescends hfits
    (hloc ▸ (hcovers.dirs _).mpr hready.dir)
  rw [← hloc] at hnode
  refine .cons hanew (h.retry hdist hready hbefore hafter
    ⟨⟨fun l => ?_, fun l contents hl => ?_⟩, fun name _ _ => ?_⟩ fun l => ?_)
  all_goals rw [hnode _]
  · split
    · rename_i hbelow
      rw [hnothing l hbelow.1 hbelow.2]
    · exact hcovers.dirs l
  · split
    · rename_i hbelow
      rw [hnothing l hbelow.1 hbelow.2] at hl
      cases hl
    · exact hcovers.files l contents hl
  · have hin := List.suffix_cons (OsText.encode name) (c.versionDir.location cwd)
    have hne : c.fileAt cwd name ≠ c.versionDir.location cwd := List.cons_ne_self _ _
    rw [if_pos ⟨hin, hne⟩, hnothing _ hin hne]
  · split
    · rename_i hbelow
      exact .inl (hnothing l hbelow.1 hbelow.2).symm
    · exact .inr rfl

/-- A full release can be taken up again: the directory is made anew once more. -/
theorem again_of_planAll (hnames : c.manifest.PlainNames) (hdist : c.distDir.Descends)
    (hplan : Step.plan c .all = .resetDir c.versionDir :: (before ++ after))
    (hreset : t.resetDir cwd c.versionDir = (.ok (), next))
    (hbefore : Leads output cwd before next middle) (hafter : Leads output cwd after middle t') :
    Leads output cwd (Step.plan c .all) middle t' := by
  have hends := endsIn_versionDir c cwd
  have hdescends := descends_versionDir hdist
  have hloc := hends.location hdescends
  obtain ⟨hfits, hdir, hnothing⟩ := FileTree.resetDir_ok hends hdescends hreset
  rw [← hloc] at hdir hnothing
  obtain ⟨rest, hfirst, hprepared⟩ := prepared_all (fun _ => True) hnames fun _ _ => trivial
  obtain rfl := (List.cons.inj (hfirst.symm.trans hplan)).2
  rw [hplan]
  cases htext : c.distDir.isText with
  | true =>
    exact again_of_resetDir hdist hfits hprepared (ready_of_isText htext hdist hdir) hnothing
      hbefore hafter
  | false =>
    rcases (opens_all hnames hplan).cases hdist hfits hdir hbefore hafter with
      ⟨rfl, hrun⟩ | ⟨build, target, name, sources, rest, hname, rfl, hsplit, built, hbuild, hready,
        hagain, -⟩
    · -- only the directory has been made anew
      obtain ⟨anew, hanew, hnode⟩ := FileTree.resetDir_of_dir hends hdescends hfits (hloc ▸ hdir)
      have hsame : anew = middle := by
        apply FileTree.ext
        intro l
        rw [hnode, ← hloc]
        split
        · rename_i hbelow
          exact (hnothing l hbelow.1 hbelow.2).symm
        · rfl
      rw [hsame] at hanew
      exact .cons hanew hrun
    · refine again_of_resetDir hdist hfits hprepared (hready _) (fun l hl hne => ?_) hagain hafter
      rw [node?_of_build hdist hname htext hl hbuild, hnothing l hl hne]

/-- What makes sure of the directory of the version and builds can be taken up again, if what it
reads is not written after that. -/
theorem again_of_createDir (hdist : c.distDir.Descends) (hopens : c.Opens (before ++ after))
    (hprepared : c.Prepared known (before ++ after))
    (hkept : ∀ name, known name → ∀ a ∈ (before ++ after).drop 2,
      ¬ a.Reaches cwd (c.fileAt cwd name) ∧ ¬ a.Passes cwd (c.fileAt cwd name))
    (hbefore : Leads output cwd before t middle) (hafter : Leads output cwd after middle t') :
    Leads output cwd (before ++ after) middle t' := by
  cases before with
  | nil =>
    obtain ⟨⟩ := hbefore
    exact hafter
  | cons first before =>
    obtain ⟨target, name, sources, rest, hname, hplan⟩ := id hopens
    obtain ⟨rfl, -⟩ := List.cons.inj hplan
    obtain _ | @⟨_, _, _, next, _, hcreate, hlater⟩ := hbefore
    obtain ⟨hfits, hdir⟩ := FileTree.makeDirs_ok (endsIn_versionDir c cwd).code_ne hcreate
    have hthere : (Action.createDir c.versionDir).Carries output cwd next next :=
      (carries_createDir_iff hdist hfits hdir).mpr rfl
    rcases hopens.cases hdist hfits hdir (.cons hthere hlater) hafter with
      ⟨rfl, hrun⟩ | ⟨build, target, name, sources, rest, hname, rfl, hsplit, built, hbuild, hready,
        hagain, hrest⟩
    · exact hrun
    · have hcovers :=
        hprepared.beginning.covers hdist ((hready _).mono (List.subset_append_left _ after)) hagain
      refine hprepared.retry hdist (hready _) hagain hafter ⟨hcovers, fun other hother _ => ?_⟩
        fun l => .inr rfl
      refine node?_of_leads hrest fun a ha => hkept other hother a ?_
      rw [hsplit]
      exact List.mem_append_left _ ha

/-! ## §3 Packing and publishing -/

/-- No binary has the name of an archive. -/
theorem binaryName_ne_zip (target : Target) {stem : String} :
    c.binaryName target ≠ stem ++ ".zip" := by
  intro h
  have hzip : (stem ++ ".zip").toList.getLast? = some 'p' := getLast?_append_of_some (by decide)
  have hbinary : ∃ last, (c.binaryName target).toList.getLast? = some last ∧ last ≠ 'p' := by
    obtain ⟨os, arch⟩ := target
    rw [binaryName, Target.binaryName, String.append_assoc]
    cases os <;> cases arch <;> exact ⟨_, getLast?_append_of_some rfl, by decide⟩
  obtain ⟨last, hlast, hne⟩ := hbinary
  rw [h, hzip] at hlast
  exact hne (Option.some.inj hlast).symm

/-- After the binary of the API has been built it is not written. -/
theorem not_reaches_apiBinary (hnames : c.manifest.PlainNames) :
    ∀ a ∈ c.planApi.drop 2, ¬ a.Reaches cwd (c.fileAt cwd c.manifest.apiName) ∧
      ¬ a.Passes cwd (c.fileAt cwd c.manifest.apiName) := by
  have hzip : PlainName (c.manifest.apiName ++ ".zip") := .zip hnames.api.slash_free
  intro a ha
  simp only [planApi, List.drop_succ_cons, List.drop_zero, List.mem_cons, List.not_mem_nil,
    or_false] at ha
  rcases ha with rfl | rfl | rfl
  · refine ⟨fun hl => ?_, id⟩
    rw [Action.Reaches, apiArchivePath, LocalPath.location_join_plain hzip] at hl
    have hlength := congrArg String.length (OsText.encode_inj.mp (List.cons.inj hl).1)
    simp at hlength
  · exact Action.untouched_of_ne_go gsutil_ne_go cwd _
  · exact Action.untouched_of_ne_go gsutil_ne_go cwd _

/-- Packing bundles runs no compiler. -/
theorem not_runsCompiler_of_mem_planArchive (ha : a ∈ c.planArchive) : ¬ a.RunsCompiler := by
  rw [planArchive_eq] at ha
  obtain ⟨b, -, ha⟩ := List.mem_flatMap.mp ha
  simp only [bundleActions, List.mem_cons, List.not_mem_nil, or_false] at ha
  rintro ⟨command, rfl, hgo⟩
  rcases ha with ha | ha | ha | ha <;> cases ha <;> exact gsutil_ne_go hgo

/-- No action of packing bundles writes a binary, unless that has the canonical
name. -/
theorem not_reaches_binary (hnames : c.manifest.PlainNames) {target : Target}
    (hne : c.binaryName target ≠ c.manifest.canonicalName) (ha : a ∈ c.planArchive) :
    ¬ a.Reaches cwd (c.fileAt cwd (c.binaryName target)) ∧
      ¬ a.Passes cwd (c.fileAt cwd (c.binaryName target)) := by
  rw [planArchive_eq] at ha
  obtain ⟨b, hb, ha⟩ := List.mem_flatMap.mp ha
  have hzip : PlainName (b.name ++ ".zip") := .zip (hnames.bundle b (List.mem_filter.mp hb).1)
  simp only [bundleActions, List.mem_cons, List.not_mem_nil, or_false] at ha
  rcases ha with rfl | rfl | rfl | rfl
  · refine ⟨fun hl => ?_, id⟩
    rw [Action.Reaches, canonicalPath, LocalPath.location_join_plain hnames.canonical] at hl
    exact hne (OsText.encode_inj.mp (List.cons.inj hl).1)
  · refine ⟨fun hl => ?_, id⟩
    rw [Action.Reaches, bundlePath, LocalPath.location_join_plain hzip] at hl
    exact binaryName_ne_zip target (OsText.encode_inj.mp (List.cons.inj hl).1)
  · exact Action.untouched_of_ne_go gsutil_ne_go cwd _
  · exact Action.untouched_of_ne_go gsutil_ne_go cwd _

/-- Packing bundles can be taken up again: the binaries are as they were. -/
theorem again_of_planArchive (hnames : c.manifest.PlainNames) (hdist : c.distDir.Descends)
    (hplan : c.planArchive = before ++ after) (hbefore : Leads output cwd before t middle)
    (hafter : Leads output cwd after middle t') (hdir : t.node? (c.versionDir.location cwd) = some .dir) :
    Leads output cwd c.planArchive middle t' := by
  have hprepared : c.Prepared (fun name => ∃ target : Target, name = c.binaryName target ∧
      name ≠ c.manifest.canonicalName) (before ++ after) := by
    rw [← hplan, planArchive_eq]
    refine prepared_bundles hnames fun b hb => ⟨(List.mem_filter.mp hb).1, ?_⟩
    rw [or_iff_not_imp_right]
    exact fun hne => ⟨b.target, rfl, hne⟩
  have hready : c.Ready cwd c.planArchive t :=
    ⟨hdir, fun ⟨a, ha, hgo⟩ => absurd hgo (not_runsCompiler_of_mem_planArchive ha)⟩
  rw [hplan] at hready ⊢
  have hcovers :=
    hprepared.beginning.covers hdist (hready.mono (List.subset_append_left _ _)) hbefore
  refine hprepared.retry hdist hready hbefore hafter ⟨hcovers, ?_⟩ fun l => .inr rfl
  rintro name ⟨target, rfl, hne⟩ -
  exact node?_of_leads hbefore fun a ha =>
    not_reaches_binary hnames hne (hplan ▸ List.mem_append_left _ ha)

/-- Bundles are packed only where the directory of the version is. -/
theorem dir_of_planArchive (hnames : c.manifest.PlainNames) (hdist : c.distDir.Descends)
    (hplan : c.planArchive = a :: actions) (ha : a.Carries output cwd t t') :
    t.node? (c.versionDir.location cwd) = some .dir := by
  obtain ⟨b, hb⟩ : ∃ b : Bundle, a = .copyFile (c.binaryPath b.target) c.canonicalPath := by
    rw [planArchive_eq] at hplan
    cases hbundles : c.manifest.bundles.filter c.builds with
    | nil => simp [hbundles] at hplan
    | cons b rest =>
      rw [hbundles, List.flatMap_cons] at hplan
      exact ⟨b, (List.cons.inj hplan).1.symm⟩
  subst hb
  have hcli : PlainName (c.binaryName b.target) := .binary hnames.cli b.target
  obtain ⟨-, -, hdir, -⟩ := (carries_copy_iff hdist hcli hnames.canonical).mp ha
  exact hdir

/-- A command that is no build leads nowhere else. -/
theorem carries_command {command : CommandLine} (h : command.program ≠ Toolchain.go) :
    (Action.exec command).Carries output cwd t t' ↔ t' = t := by
  rw [Action.Carries, CommandLine.leave_of_ne_go h]

/-- After the pointer has been written nothing changes. -/
theorem eq_of_leads_afterPointer (hactions : actions <+: c.afterPointer)
    (h : Leads output cwd actions t t') : t' = t := by
  have hcommand : ∀ a ∈ actions, ∃ command : CommandLine, a = .exec command ∧
      command.program ≠ Toolchain.go := by
    intro a ha
    have hmem := hactions.subset ha
    simp only [afterPointer, List.mem_cons, List.not_mem_nil, or_false] at hmem
    rcases hmem with rfl | rfl <;> exact ⟨_, rfl, gsutil_ne_go⟩
  clear hactions
  induction h with
  | nil t => rfl
  | cons ha _ ih =>
    obtain ⟨command, rfl, hprogram⟩ := hcommand _ List.mem_cons_self
    obtain rfl := (carries_command hprogram).mp ha
    exact ih fun a ha => hcommand a (by simp [ha])

/-- Publishing can be taken up again: the pointer has been written or is still to be,
and it can be written again. -/
theorem again_of_planPublish (hdist : c.distDir.Descends) (hplan : c.planPublish = before ++ after)
    (hbefore : Leads output cwd before t middle) (hafter : Leads output cwd after middle t') :
    Leads output cwd c.planPublish middle t' := by
  have hrun : Leads output cwd c.planPublish t t' := hplan ▸ hbefore.append hafter
  have hstay : ∀ {command : CommandLine} {t : FileTree}, command.program ≠ Toolchain.go →
      (Action.exec command).Carries output cwd t t := fun h => (carries_command h).mpr rfl
  rw [planPublish_eq] at hplan hrun ⊢
  obtain _ | ⟨hupload, _ | ⟨hpointer, hlast⟩⟩ := id hrun
  obtain rfl := (carries_command gsutil_ne_go).mp hupload
  obtain rfl := eq_of_leads_afterPointer List.prefix_rfl hlast
  rcases before with _ | ⟨a, _ | ⟨b, before⟩⟩
  · obtain ⟨⟩ := hbefore
    exact hrun
  · obtain ⟨rfl, -⟩ := List.cons.inj hplan
    obtain _ | ⟨ha, ⟨⟩⟩ := hbefore
    obtain rfl := (carries_command gsutil_ne_go).mp ha
    exact hrun
  · -- the pointer has been written
    obtain ⟨rfl, hrest⟩ := List.cons.inj hplan
    obtain ⟨rfl, hremains⟩ := List.cons.inj (show c.pointerAction :: c.afterPointer =
      b :: (before ++ after) from hrest)
    obtain _ | ⟨ha, _ | ⟨hb, hbefore⟩⟩ := hbefore
    obtain rfl := (carries_command gsutil_ne_go).mp ha
    obtain rfl := hb.unique hpointer
    obtain rfl := eq_of_leads_afterPointer ⟨after, hremains.symm⟩ hbefore
    have hagain := FileTree.writeWithDirs_again (endsIn_latestPath c cwd)
      (descends_latestPath hdist) hpointer
    exact .cons (hstay gsutil_ne_go)
      (.cons hagain (.cons (hstay gsutil_ne_go) (.cons (hstay gsutil_ne_go) (.nil _))))

/-- **A plan can be taken up again wherever it was left.** -/
theorem leads_again (hnames : c.manifest.PlainNames) (hdist : c.distDir.Descends) {step : Step}
    (hplan : step.plan c = before ++ after) (hbefore : Leads output cwd before t middle)
    (hafter : Leads output cwd after middle t') : Leads output cwd (step.plan c) middle t' := by
  cases before with
  | nil =>
    obtain ⟨⟩ := hbefore
    rw [hplan]
    exact hafter
  | cons a before =>
    obtain _ | @⟨_, _, _, next, _, ha, hlater⟩ := id hbefore
    cases step with
    | all =>
      obtain ⟨rest, hfirst, -⟩ := prepared_all (fun _ => True) hnames fun _ _ => trivial
      obtain ⟨rfl, -⟩ := List.cons.inj (hfirst.symm.trans hplan)
      exact again_of_planAll hnames hdist hplan ha hlater hafter
    | clean =>
      obtain ⟨rfl, hnil⟩ := List.cons.inj (show _ :: [] = a :: (before ++ after) from hplan)
      obtain ⟨rfl, rfl⟩ := List.append_eq_nil_iff.mp hnil.symm
      obtain ⟨hfits, hdir, hnothing⟩ :=
        FileTree.resetDir_ok (endsIn_versionDir c cwd) (descends_versionDir hdist) ha
      rw [← (endsIn_versionDir c cwd).location (descends_versionDir hdist)] at hdir hnothing
      exact again_of_resetDir hdist hfits .nil ⟨hdir, fun ⟨a, ha, _⟩ => nomatch ha⟩ hnothing hlater
        hafter
    | api =>
      have hopens : c.Opens ((a :: before) ++ after) := hplan ▸ opens_planApi hnames
      have hprepared : c.Prepared (fun name => name = c.manifest.apiName) c.planApi :=
        prepared_planApi hnames fun _ => rfl
      rw [show c.planApi = _ from hplan] at hprepared
      rw [hplan]
      refine again_of_createDir hdist hopens hprepared ?_ hbefore hafter
      rw [← hplan]
      exact fun name hname => hname ▸ not_reaches_apiBinary hnames
    | build =>
      have hopens : c.Opens ((a :: before) ++ after) := hplan ▸ opens_planBuild hnames
      have hprepared : c.Prepared (fun _ => False) c.planBuild := by
        rw [planBuild, ← List.append_nil (c.matrix.map c.buildAction)]
        exact .blind .make (prepared_builds hnames c.matrix .nil)
      rw [show c.planBuild = _ from hplan] at hprepared
      rw [hplan]
      exact again_of_createDir hdist hopens hprepared (fun _ h => h.elim) hbefore hafter
    | archive =>
      exact again_of_planArchive hnames hdist hplan hbefore hafter
        (dir_of_planArchive hnames hdist hplan ha)
    | publish => exact again_of_planPublish hdist hplan hbefore hafter

end Retry

end Config

/-! ## §4 Retrying -/

/-- **Retrying converges.** Suppose a step succeeds on a tree if every command
succeeds, and a compiler writes what goes by the command. If it is carried out with commands
that can fail, or with an echo that can be full, and then once more with commands that all
succeed, it succeeds as well and leaves the same tree. -/
theorem retry_converges {σ τ : Type} (run : Runner σ) (failing : Runner τ) (cwd : Location)
    (c : Config) (hnames : c.manifest.PlainNames) (hdist : c.distDir.Descends)
    (output : CommandLine → Contents) (hrun : run.Builds output cwd)
    (hfailing : failing.BuildsOrFails output cwd) (step : Step)
    (tree : FileTree) (state : σ) (done : Summary) (left : Session σ)
    (hdone : execute run cwd (step.plan c) (.start tree state none) = (.ok done, left))
    (failingState : τ) (room : Option Nat) (later : σ) :
    let interrupted := (execute failing cwd (step.plan c) (.start tree failingState room)).2.tree
    ∃ again last, execute run cwd (step.plan c) (.start interrupted later none) =
      (.ok again, last) ∧ last.tree = left.tree := by
  intro interrupted
  have hleads := leads_of_execute hrun hdone
  obtain ⟨before, after, hplan, hbefore, hafter⟩ :=
    leads_of_interrupted hfailing (s := .start tree failingState room) hleads
  exact execute_of_leads hrun (Config.leads_again hnames hdist hplan hbefore hafter) later

/-- A tree with two binaries of a version. -/
def FileTree.builtClients : FileTree :=
  ((((FileTree.empty.put ["dist"] .dir).put ["1.0", "dist"] .dir).put
    ["datacol-darwin-amd64", "1.0", "dist"] (.file (.ofText "for darwin"))).put
    ["datacol-linux-amd64", "1.0", "dist"] (.file (.ofText "for linux")))

/-- The second of two bundles cannot be uploaded, and its binary is left under the
canonical name. The bundles are packed again as if that had not been. -/
theorem failed_archive_retried :
    let plan := Step.plan (.standard ⟨"1.0", by decide⟩) .archive
    let interrupted := (execute (Runner.rehearsing [⟨"linux.zip", .exit (some 1)⟩] []) [] plan
      (.start .builtClients [] none)).2.tree
    interrupted.file? ["datacol", "1.0", "dist"] = some (.ofText "for linux") ∧
      ∃ done left again last,
        execute (Runner.faithful Unit []) [] plan (.start .builtClients () none) =
          (.ok done, left) ∧
        execute (Runner.faithful Unit []) [] plan (.start interrupted () none) =
          (.ok again, last) ∧
        last.tree = left.tree := by
  intro plan interrupted
  obtain ⟨done, left, hdone⟩ : ∃ done left, execute (Runner.faithful Unit []) [] plan
      (.start .builtClients () none) = (.ok done, left) := by
    have hok : (execute (Runner.faithful Unit []) [] plan
        (.start .builtClients () none)).1.isOk = true := by
      decide +kernel
    revert hok
    rcases execute (Runner.faithful Unit []) [] plan
      (.start .builtClients () none) with ⟨_ | done, left⟩
    · exact fun hok => nomatch hok
    · exact fun _ => ⟨done, left, rfl⟩
  obtain ⟨again, last, hagain, htree⟩ := retry_converges (Runner.faithful Unit [])
    (Runner.rehearsing [⟨"linux.zip", .exit (some 1)⟩] []) [] (.standard ⟨"1.0", by decide⟩)
    Manifest.standard_plainNames (Config.standard_descends _) CommandLine.built
    (Runner.faithful_buildsAll Unit []) (Runner.rehearsing_buildsOrFails _ _)
    .archive .builtClients () done left hdone [] none ()
  exact ⟨by decide +kernel, done, left, again, last, hdone, hagain, htree⟩

/-- A bundle is a link to the binary that it is packed from. Each time the step is carried out it
packs what it has left there the time before. -/
theorem linked_archive_repacked :
    let run := (Runner.faithful Unit []).amongLinks
    let plan := Step.plan (.standard ⟨"1.0", by decide⟩) .archive
    let t : LinkedTree := ⟨.builtClients, [(["linux.zip", "1.0", "dist"], ⟨"datacol-linux-amd64"⟩)]⟩
    let once := execute run [] plan (.start t () none)
    let twice := execute run [] plan (.start once.2.tree () none)
    let binary := fun t : LinkedTree => t.tree.file? ["datacol-linux-amd64", "1.0", "dist"]
    once.1.isOk = true ∧ twice.1.isOk = true ∧
      binary once.2.tree = some (.archive "datacol" (.ofText "for linux")) ∧
      binary twice.2.tree = some (.archive "datacol" (.archive "datacol" (.ofText "for linux"))) := by
  intro run plan t once twice binary
  decide +kernel

end ReleaseKit
