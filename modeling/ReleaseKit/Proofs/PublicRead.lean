/-
ReleaseKit.Proofs.PublicRead — what is uploaded is opened to all readers.

A store keeps what it gets closed until it is told otherwise, so every upload of a
plan needs a grant that comes after it. A grant opens one address, or with `-r` all
that is below it too; the pointer and the directory of the version are opened only in
this second way. The other way round nothing is opened but what the same plan has
uploaded before. Both are said of a list of actions (`Opened`) and hold of the parts
of a plan one by one; lists put together of such parts are such again
(`Opened.append`), so neither the number of bundles nor the names matter.

  §1 Commands   — `Upload`, `Grant`: what the commands of the store tool do.
  §2 Lists      — `Opened`, of what is put together.
  §3 Plans      — `uploads_opened`.
-/
import ReleaseKit.Proofs.Interruption
import ReleaseKit.Proofs.Staging

namespace ReleaseKit

/-! ## §1 Commands -/

/-- A copy to the store: where it goes, and whether a directory is copied with all
that it holds. -/
structure Upload where
  dest : String
  recursive : Bool
deriving DecidableEq, Repr

/-- A grant to all readers: on one address, or on all below it too. -/
structure Grant where
  url : String
  recursive : Bool
deriving DecidableEq, Repr

/-- Whether a grant opens an address. -/
def Grant.Opens (grant : Grant) (url : String) : Prop :=
  url = grant.url ∨ grant.recursive = true ∧ grant.url.toList ++ ['/'] <+: url.toList

namespace CommandLine

/-- The upload that a command is: it names the destination last. -/
def upload? (c : CommandLine) : Option Upload :=
  if c.program = Toolchain.gsutil then
    match c.args with
    | "cp" :: rest => rest.getLast?.map fun dest => ⟨dest, rest.head? == some "-r"⟩
    | _ => none
  else none

/-- The grant to all readers that a command is. -/
def grant? (c : CommandLine) : Option Grant :=
  if c.program = Toolchain.gsutil ∧ c.args.take 4 = ["acl", "ch", "-u", Toolchain.publicRead] then
    match c.args.drop 4 with
    | [url] => some ⟨url, false⟩
    | ["-r", url] => some ⟨url, true⟩
    | _ => none
  else none

end CommandLine

namespace Toolchain

variable (target : Target) (ldflags url : String) (path : LocalPath) (sources : List String)

@[simp] theorem upload?_goBuild : (goBuild target ldflags path sources).upload? = none :=
  if_neg (by decide : go ≠ gsutil)

@[simp] theorem grant?_goBuild : (goBuild target ldflags path sources).grant? = none :=
  if_neg fun h => absurd h.1 (by decide : go ≠ gsutil)

@[simp] theorem upload?_upload :
    (upload path url).upload? = some ⟨url, some path.text == some "-r"⟩ := rfl

@[simp] theorem grant?_upload : (upload path url).grant? = none :=
  if_neg fun h => absurd (List.cons.inj h.2).1 (by decide)

@[simp] theorem upload?_uploadDir : (uploadDir path url).upload? = some ⟨url, true⟩ := rfl

@[simp] theorem grant?_uploadDir : (uploadDir path url).grant? = none :=
  if_neg fun h => absurd (List.cons.inj h.2).1 (by decide)

@[simp] theorem upload?_grantPublicRead : (grantPublicRead url).upload? = none := rfl

@[simp] theorem grant?_grantPublicRead :
    (grantPublicRead url).grant? = some ⟨url, false⟩ := rfl

@[simp] theorem upload?_grantPublicReadBelow : (grantPublicReadBelow url).upload? = none := rfl

@[simp] theorem grant?_grantPublicReadBelow :
    (grantPublicReadBelow url).grant? = some ⟨url, true⟩ := rfl

end Toolchain

namespace Action

/-- The upload that an action is. -/
def upload? (a : Action) : Option Upload := a.command?.bind CommandLine.upload?

/-- The grant that an action is. -/
def grant? (a : Action) : Option Grant := a.command?.bind CommandLine.grant?

@[simp] theorem upload?_exec (command : CommandLine) :
    (exec command).upload? = command.upload? := rfl

@[simp] theorem grant?_exec (command : CommandLine) : (exec command).grant? = command.grant? := rfl

/-- An action that neither uploads nor opens anything. -/
def IsQuiet (a : Action) : Prop := a.upload? = none ∧ a.grant? = none

end Action

/-- What actions upload, in order. -/
def uploads (actions : List Action) : List Upload := actions.filterMap Action.upload?

@[simp] theorem uploads_append (first rest : List Action) :
    uploads (first ++ rest) = uploads first ++ uploads rest := List.filterMap_append

/-! ## §2 Lists -/

/-- After each upload comes a grant that opens where it goes, and before each grant
comes an upload to its address. -/
structure Opened (actions : List Action) : Prop where
  opens : ∀ before a after upload, actions = before ++ a :: after → a.upload? = some upload →
    ∃ b ∈ after, ∃ grant, b.grant? = some grant ∧ grant.Opens upload.dest
  uploaded : ∀ before a after grant, actions = before ++ a :: after → a.grant? = some grant →
    ∃ b ∈ before, ∃ upload, b.upload? = some upload ∧ upload.dest = grant.url

/-- An item of two lists together is one of the first or one of the second. -/
theorem split_append {α : Type} {first rest before after : List α} {a : α}
    (h : first ++ rest = before ++ a :: after) :
    (∃ more, first = before ++ a :: more ∧ after = more ++ rest) ∨
      ∃ less, before = first ++ less ∧ rest = less ++ a :: after := by
  rcases List.append_eq_append_iff.mp h with ⟨less, hbefore, hrest⟩ | ⟨more, hfirst, hafter⟩
  · exact .inr ⟨less, hbefore, hrest⟩
  · cases more with
    | nil => exact .inr ⟨[], by simpa using hfirst.symm, by simpa using hafter.symm⟩
    | cons b more =>
      obtain ⟨rfl, rfl⟩ := List.cons.inj hafter
      exact .inl ⟨more, hfirst, rfl⟩

/-- An item of a list with one more at its end is one of the list or the last. -/
theorem split_concat {α : Type} {actions before after : List α} {a last : α}
    (h : actions ++ [last] = before ++ a :: after) :
    (∃ more, actions = before ++ a :: more ∧ after = more ++ [last]) ∨
      before = actions ∧ a = last := by
  rcases split_append h with hin | ⟨less, rfl, hlast⟩
  · exact .inl hin
  · obtain ⟨rfl, rfl⟩ : less = [] ∧ a = last := by
      cases less <;> simp_all
    exact .inr ⟨List.append_nil _, rfl⟩

namespace Opened

variable {actions first rest : List Action}

theorem append (h : Opened first) (h' : Opened rest) : Opened (first ++ rest) := by
  constructor
  · intro before a after upload hsplit hupload
    rcases split_append hsplit with ⟨more, hfirst, rfl⟩ | ⟨less, -, hrest⟩
    · obtain ⟨b, hb, hgrant⟩ := h.opens before a more upload hfirst hupload
      exact ⟨b, List.mem_append_left _ hb, hgrant⟩
    · exact h'.opens less a after upload hrest hupload
  · intro before a after grant hsplit hgrant
    rcases split_append hsplit with ⟨more, hfirst, -⟩ | ⟨less, rfl, hrest⟩
    · exact h.uploaded before a more grant hfirst hgrant
    · obtain ⟨b, hb, hupload⟩ := h'.uploaded less a after grant hrest hgrant
      exact ⟨b, List.mem_append_right _ hb, hupload⟩

theorem of_quiet (h : ∀ a ∈ actions, a.IsQuiet) : Opened actions := by
  constructor
  · rintro before a after upload rfl hupload
    rw [(h a (by simp)).1] at hupload
    cases hupload
  · rintro before a after grant rfl hgrant
    rw [(h a (by simp)).2] at hgrant
    cases hgrant

theorem flatMap {α : Type} {items : List α} {f : α → List Action} (h : ∀ i ∈ items, Opened (f i)) :
    Opened (items.flatMap f) := by
  induction items with
  | nil => exact of_quiet (by simp)
  | cons i items ih => exact (h i (by simp)).append (ih fun j hj => h j (by simp [hj]))

/-- Uploads are opened by a last grant that reaches all of them, if one of them goes
right to its address. -/
theorem close {last : Action} {grant : Grant} (hlast : last.grant? = some grant)
    (hno : last.upload? = none) (hgrants : ∀ a ∈ actions, a.grant? = none)
    (hopens : ∀ a ∈ actions, ∀ upload, a.upload? = some upload → grant.Opens upload.dest)
    (huploaded : ∃ a ∈ actions, ∃ upload, a.upload? = some upload ∧ upload.dest = grant.url) :
    Opened (actions ++ [last]) := by
  constructor
  · intro before a after upload hsplit hupload
    rcases split_concat hsplit with ⟨more, rfl, rfl⟩ | ⟨-, rfl⟩
    · exact ⟨last, by simp, grant, hlast, hopens a (by simp) upload hupload⟩
    · rw [hno] at hupload
      cases hupload
  · intro before a after found hsplit hfound
    rcases split_concat hsplit with ⟨more, rfl, -⟩ | ⟨rfl, rfl⟩
    · rw [hgrants a (by simp)] at hfound
      cases hfound
    · obtain rfl := Option.some.inj (hlast.symm.trans hfound)
      exact huploaded

/-- An upload and the grant on its address. -/
theorem pair (path : LocalPath) (url : String) :
    Opened ([.exec (Toolchain.upload path url)] ++ [.exec (Toolchain.grantPublicRead url)]) := by
  have hlast : (Action.exec (Toolchain.grantPublicRead url)).grant? = some ⟨url, false⟩ := by simp
  refine close hlast (by simp) (by simp) ?_ ?_
  · simp [Grant.Opens]
  · simp

end Opened

/-! ## §3 Plans -/

/-- A path that ends otherwise is not read as an option. -/
theorem LocalPath.text_join_ne (left : LocalPath) {right : String} {last : Char}
    (h : right.toList.getLast? = some last) (hlast : last ≠ 'r') :
    (left.join right).text ≠ "-r" := by
  intro heq
  obtain ⟨front, hfront⟩ := left.text_join_ends right
  have hend : (left.join right).text.toList.getLast? = some last := by
    rw [hfront]
    exact getLast?_append_of_some h
  rw [heq] at hend
  exact hlast (Option.some.inj hend).symm

namespace Config

variable (c : Config)

theorem opened_planClean : Opened c.planClean :=
  .of_quiet (by simp [planClean, Action.IsQuiet, Action.upload?, Action.grant?, Action.command?])

theorem opened_planApi : Opened c.planApi := by
  have hmade : Opened [.createDir c.versionDir,
      .exec (Toolchain.goBuild c.manifest.apiTarget c.manifest.ldflags c.apiBinaryPath
        c.manifest.apiSources),
      .archive c.apiBinaryPath c.manifest.apiName c.apiArchivePath] := by
    refine .of_quiet ?_
    simp [Action.IsQuiet, Action.upload?, Action.grant?, Action.command?]
  exact hmade.append (.pair c.apiArchivePath c.apiArchiveRemote)

theorem opened_planBuild : Opened c.planBuild := by
  refine .of_quiet ?_
  simp [planBuild, buildAction, Action.IsQuiet, Action.upload?, Action.grant?, Action.command?]

theorem opened_planArchive : Opened c.planArchive := by
  rw [planArchive_eq]
  refine .flatMap fun b _ => ?_
  have hmade : Opened [.copyFile (c.binaryPath b.target) c.canonicalPath,
      .archive c.canonicalPath c.manifest.canonicalName (c.bundlePath b)] := by
    refine .of_quiet ?_
    simp [Action.IsQuiet, Action.upload?, Action.grant?, Action.command?]
  exact hmade.append (.pair (c.bundlePath b) (c.bundleRemote b))

/-- The pointer lies below the address of all versions. -/
theorem latestRemote_below : c.binariesRemote.toList ++ ['/'] <+: c.latestRemote.toList := by
  rw [latestRemote, String.toList_append, String.toList_append]
  exact List.prefix_append _ _

theorem opened_planPublish : Opened c.planPublish := by
  have hsplit : c.planPublish =
      [.exec (Toolchain.uploadDir c.versionDir c.binariesRemote),
        .writeFile c.latestPath c.latestContents,
        .exec (Toolchain.upload c.latestPath c.latestRemote)] ++
      [.exec (Toolchain.grantPublicReadBelow c.binariesRemote)] := rfl
  have hlast : (Action.exec (Toolchain.grantPublicReadBelow c.binariesRemote)).grant? =
      some ⟨c.binariesRemote, true⟩ := by simp
  rw [hsplit]
  refine Opened.close hlast (by simp) ?_ ?_ ?_
  · simp [Action.grant?, Action.command?]
  · simp [Action.upload?, Action.command?, Grant.Opens, c.latestRemote_below]
  · simp

theorem opened_plan (step : Step) : Opened (step.plan c) := by
  have hapi : Opened (if c.manifest.includeApi then c.planApi else []) := by
    split
    · exact c.opened_planApi
    · exact .of_quiet (by simp)
  cases step with
  | clean => exact c.opened_planClean
  | api => exact c.opened_planApi
  | build => exact c.opened_planBuild
  | archive => exact c.opened_planArchive
  | publish => exact c.opened_planPublish
  | all =>
    exact (((c.opened_planClean.append hapi).append c.opened_planBuild).append
      c.opened_planArchive).append c.opened_planPublish

/-- The archive of a name is not read as an option. -/
theorem text_zip_ne (dir : LocalPath) (stem : String) : (dir.join (stem ++ ".zip")).text ≠ "-r" :=
  dir.text_join_ne (getLast?_append_of_some (by decide)) (by decide : 'p' ≠ 'r')

theorem uploads_planApi : uploads c.planApi = [⟨c.apiArchiveRemote, false⟩] := by
  have hne : c.apiArchivePath.text ≠ "-r" := text_zip_ne _ _
  simp [planApi, uploads, List.filterMap_cons, Action.upload?, Action.command?, hne]

theorem uploads_planBuild : uploads c.planBuild = [] := by
  simp [planBuild, buildAction, uploads, List.filterMap_cons, Action.upload?, Action.command?]

theorem uploads_planArchive :
    uploads c.planArchive = c.builtBundles.map fun b => ⟨c.bundleRemote b, false⟩ := by
  have hbundle : ∀ b, uploads (c.bundleActions b) = [⟨c.bundleRemote b, false⟩] := by
    intro b
    have hne : (c.bundlePath b).text ≠ "-r" := text_zip_ne _ _
    simp [bundleActions, uploads, List.filterMap_cons, Action.upload?, Action.command?, hne]
  unfold uploads at hbundle ⊢
  rw [planArchive_eq, List.filterMap_flatMap, List.map_eq_flatMap]
  simp only [hbundle, builtBundles]

theorem uploads_planPublish :
    uploads c.planPublish = [⟨c.binariesRemote, true⟩, ⟨c.latestRemote, false⟩] := by
  have hne : c.latestPath.text ≠ "-r" :=
    c.distDir.text_join_ne (by decide : latestName.toList.getLast? = some 't') (by decide)
  simp [planPublish, uploads, List.filterMap_cons, Action.upload?, Action.command?, hne]

/-- What a full release uploads: the archives one by one, then everything, then the
pointer. -/
theorem uploads_all : uploads (Step.plan c .all) =
    (if c.manifest.includeApi then [⟨c.apiArchiveRemote, false⟩] else []) ++
      c.builtBundles.map (fun b => ⟨c.bundleRemote b, false⟩) ++
      [⟨c.binariesRemote, true⟩, ⟨c.latestRemote, false⟩] := by
  have hapi : uploads (if c.manifest.includeApi then c.planApi else []) =
      if c.manifest.includeApi then [⟨c.apiArchiveRemote, false⟩] else [] := by
    split
    · exact c.uploads_planApi
    · rfl
  simp only [Step.plan, uploads_append, hapi, uploads_planBuild, uploads_planArchive,
    uploads_planPublish]
  simp [planClean, uploads, Action.upload?, Action.command?]

/-- What a full release does before it uploads the pointer. -/
def beforePointer (c : Config) : List Action := c.preparation ++ [c.uploadAll, c.pointerAction]

theorem plan_all_eq : Step.plan c .all = c.beforePointer ++ c.afterPointer := by
  simp [Step.plan, beforePointer, preparation, planPublish_eq]

/-- Nothing but the pointer is uploaded to its address. -/
theorem latestRemote_not_mem : c.latestRemote ∉ (uploads c.beforePointer).map Upload.dest := by
  have hlast : uploads c.afterPointer = [⟨c.latestRemote, false⟩] := by
    have hpublish : uploads [c.uploadAll, c.pointerAction] = [⟨c.binariesRemote, true⟩] := rfl
    have hall : uploads ([c.uploadAll, c.pointerAction] ++ c.afterPointer) =
        [⟨c.binariesRemote, true⟩] ++ [⟨c.latestRemote, false⟩] := c.uploads_planPublish
    rw [uploads_append, hpublish] at hall
    exact List.append_cancel_left hall
  have hbefore : uploads c.beforePointer =
      (if c.manifest.includeApi then [⟨c.apiArchiveRemote, false⟩] else []) ++
        c.builtBundles.map (fun b => ⟨c.bundleRemote b, false⟩) ++ [⟨c.binariesRemote, true⟩] := by
    refine (List.append_left_inj (uploads c.afterPointer)).mp ?_
    rw [← uploads_append, ← plan_all_eq, uploads_all, hlast]
    simp
  have hapi : c.apiArchiveRemote ≠ c.latestRemote :=
    c.latestRemote_ne_zip (c.versionRemote ++ "/" ++ c.manifest.apiName)
  have hbundle : ∀ b, c.bundleRemote b ≠ c.latestRemote := fun b =>
    c.latestRemote_ne_zip (c.bucket ++ "/" ++ b.name)
  have hdir : c.binariesRemote ≠ c.latestRemote := by
    intro heq
    have hlen := congrArg String.length heq
    rw [latestRemote, String.length_append, String.length_append] at hlen
    have hslash : "/".length = 1 := by decide
    omega
  rw [hbefore]
  cases c.manifest.includeApi <;> simp [hapi.symm, hbundle, hdir.symm]

end Config

/-- **What is uploaded is opened to all readers, and nothing else is.** In the plan of
every step each upload is followed by a grant that opens where it goes, and each grant
comes after an upload to its address. A full release ends with the upload of the
pointer, after all others, and the grant on everything below the address of all
versions. -/
theorem uploads_opened (c : Config) (step : Step) :
    Opened (step.plan c) ∧
      ∃ before, Step.plan c .all = before ++
          [.exec (Toolchain.upload c.latestPath c.latestRemote),
            .exec (Toolchain.grantPublicReadBelow (c.bucket ++ "/binaries"))] ∧
        c.latestRemote ∉ (uploads before).map Upload.dest :=
  ⟨c.opened_plan step, c.beforePointer, c.plan_all_eq, c.latestRemote_not_mem⟩

example : uploads (Step.plan (.standard ⟨"1.0", by decide⟩) .all) =
    [⟨"gs://datacol-distros/binaries/1.0/apictl.zip", false⟩, ⟨"gs://datacol-distros/osx.zip", false⟩,
      ⟨"gs://datacol-distros/linux.zip", false⟩, ⟨"gs://datacol-distros/binaries", true⟩,
      ⟨"gs://datacol-distros/binaries/latest.txt", false⟩] := by
  decide

end ReleaseKit
