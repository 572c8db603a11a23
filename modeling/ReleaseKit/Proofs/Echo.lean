/-
ReleaseKit.Proofs.Echo — what is shown of a plan tells it from every other plan.

The line of an action is a command, and three kinds of action add something to it.
A command is read back from its text (`Typed.render_append_cancel`), and no word goes
on where something is added or where the line ends. So if two listings are the same
text, their first actions are the same and so is the rest of the text
(`line_append_cancel`); one line after another, the plans are the same
(`shown_plans_determine`), as long as their paths are text: of others not all shows. A
line can hold the end of a line, inside quotes: that a listing is cut into lines at
those is not assumed.

  §1 Lines — `Action.front` and `Action.addition`: what a line is made of.
  §2 Actions — `Legible`: the actions of plans, told from one another.
  §3 Plans — `shown`: the listing of a plan.
-/
import ReleaseKit.Proofs.FirstFailure
import ReleaseKit.Proofs.Layout
import ReleaseKit.Proofs.Words

namespace ReleaseKit

open Typed

theorem Text.bytesOf_append (s t : String) :
    bytesOf (s ++ t) = bytesOf s ++ bytesOf t := by
  simp only [bytesOf, String.toUTF8, String.toByteArray_append, ByteArray.toList_data_append]

theorem Text.bytesOf_inj {s t : String} (h : bytesOf s = bytesOf t) : s = t :=
  String.toByteArray_inj.mp (ByteArray.ext (Array.toList_inj.mp h))

namespace Action

/-! ## §1 Lines -/

/-- The command that a line begins with. -/
def front : Action → CommandLine
  | resetDir path => ⟨"rm", ["-rf", path.text], []⟩
  | createDir path => ⟨"mkdir", ["-p", path.text], []⟩
  | exec command => command
  | copyFile source dest => ⟨"cp", [source.text, dest.text], []⟩
  | archive source _ dest => ⟨"zip", [dest.text, source.text], []⟩
  | writeFile _ contents => ⟨"echo", [Text.trimEnd contents], []⟩

/-- What stands after the command. -/
def addition : Action → String
  | resetDir path => " && mkdir -p " ++ quotePath path
  | archive source entry _ =>
    if source.fileName = some (entry : OsText) then "" else " (as " ++ Shell.quote entry ++ ")"
  | writeFile path _ => " > " ++ quotePath path
  | _ => ""

/-- A line is its command and what stands after it. -/
theorem render_eq (a : Action) : a.render = a.front.render ++ a.addition := by
  have hbare : ∀ word ∈ ["rm", "-rf", "mkdir", "-p", "cp", "zip", "echo"],
      Shell.quote word = word := by
    decide
  simp only [List.forall_mem_cons] at hbare
  cases a <;>
    simp [render, front, addition, CommandLine.render, quotePath, hbare, String.join,
      ← String.append_assoc]

theorem addition_resetDir (path : LocalPath) (rest : List Char) :
    (addition (.resetDir path)).toList ++ rest =
      ' ' :: '&' :: ("& mkdir -p ".toList ++ ((Shell.quote path.text).toList ++ rest)) := by
  show (" && mkdir -p " ++ Shell.quote path.text).toList ++ rest = _
  simp

theorem addition_writeFile (path : LocalPath) (contents : String) (rest : List Char) :
    (addition (.writeFile path contents)).toList ++ rest =
      ' ' :: '>' :: ' ' :: ((Shell.quote path.text).toList ++ rest) := by
  show (" > " ++ Shell.quote path.text).toList ++ rest = _
  simp

theorem addition_archive_of_ne {source : LocalPath} {entry : String}
    (h : source.fileName ≠ some (entry : OsText)) (dest : LocalPath) (rest : List Char) :
    (addition (.archive source entry dest)).toList ++ rest =
      ' ' :: '(' :: ("as ".toList ++ ((Shell.quote entry).toList ++ ')' :: rest)) := by
  have hshown : addition (.archive source entry dest) = " (as " ++ Shell.quote entry ++ ")" :=
    if_neg h
  simp [hshown]

theorem addition_archive_of_eq {source : LocalPath} {entry : String}
    (h : source.fileName = some (entry : OsText)) (dest : LocalPath) (rest : List Char) :
    (addition (.archive source entry dest)).toList ++ rest = rest := by
  have hshown : addition (.archive source entry dest) = "" := if_pos h
  simp [hshown]

theorem stops_newline (rest : List Char) : Stops ('\n' :: rest) ('\n' :: rest) :=
  stops_cons (by decide) rest

/-- Where something is added to a command, or the line ends, no word of it goes on. -/
theorem stops_addition (a : Action) (rest : List Char) :
    ∃ left, Stops (a.addition.toList ++ '\n' :: rest) left := by
  cases a with
  | createDir | exec | copyFile => exact ⟨_, stops_newline rest⟩
  | resetDir path =>
    rw [addition_resetDir]
    exact ⟨_, (stops_cons (by decide) _).space⟩
  | writeFile path contents =>
    rw [addition_writeFile]
    exact ⟨_, (stops_cons (by decide) _).space⟩
  | archive source entry dest =>
    by_cases h : source.fileName = some (entry : OsText)
    · rw [addition_archive_of_eq h]
      exact ⟨_, stops_newline rest⟩
    · rw [addition_archive_of_ne h]
      exact ⟨_, (stops_cons (by decide) _).space⟩

/-! ## §2 Actions -/

/-- The actions that plans are made of: the commands are those of a release, and what
is written is a version on a line. -/
def Planned : Action → Prop
  | exec command => Toolchain.Makes command
  | writeFile _ contents => ∃ v : Version, contents = v.text ++ "\n"
  | _ => True

/-- An action of a plan of which all shows: its paths are text. -/
structure Legible (a : Action) : Prop where
  planned : a.Planned
  text : ∀ path ∈ a.paths, path.isText = true

/-- The kind of the actions that a program is run for. -/
def kindOf (program : String) : String :=
  if program = "rm" then "reset_dir"
  else if program = "mkdir" then "create_dir"
  else if program = "cp" then "copy_file"
  else if program = "zip" then "archive"
  else if program = "echo" then "write_file"
  else "exec"

variable {a b : Action}

theorem Planned.kindOf_front (h : a.Planned) : kindOf a.front.program = a.kind := by
  cases a with
  | exec command =>
    have hgo : kindOf Toolchain.go = "exec" := by decide
    have hgsutil : kindOf Toolchain.gsutil = "exec" := by decide
    cases h with
    | goBuild => exact hgo
    | upload | uploadDir | grantPublicRead | grantPublicReadBelow => exact hgsutil
  | resetDir | createDir | copyFile | archive | writeFile => rfl

theorem Planned.typeable_front (h : a.Planned) : a.front.Typeable := by
  cases a with
  | exec command => exact h.typeable
  | resetDir | createDir | copyFile | archive | writeFile =>
    exact ⟨fun _ hvar => (nomatch hvar), by simp [front]⟩

end Action

/-- A version on a line is shown as it is: it holds no blank that could be taken off. -/
theorem Version.trimEnd_line (v : Version) : Text.trimEnd (v.text ++ "\n") = v.text := by
  obtain ⟨hne, hblank, -⟩ := (Version.flaw?_eq_none_iff v.text).mp v.flaw?_eq_none
  have hchars : v.text.toList ≠ [] := mt String.toList_eq_nil_iff.mp hne
  have hlast := hblank _ (List.getLast_mem hchars)
  have htrim : Text.dropTrailingBlanks (v.text.toList ++ ['\n']) = v.text.toList := by
    rw [Text.dropTrailingBlanks_concat_of_blank (by decide), ← List.dropLast_concat_getLast hchars,
      Text.dropTrailingBlanks_concat_of_not hlast]
  rw [Text.trimEnd, String.toList_append]
  exact (congrArg String.ofList htrim).trans String.ofList_toList

namespace Action

variable {a b : Action} {s t : List Char}

/-- An archive names its entry, unless that has the name of its source. -/
theorem entry_eq_of_addition {source dest : LocalPath} {entry entry' : String}
    (h : (addition (.archive source entry dest)).toList ++ '\n' :: s =
      (addition (.archive source entry' dest)).toList ++ '\n' :: t) : entry = entry' := by
  by_cases hname : source.fileName = some (entry : OsText) <;>
    by_cases hname' : source.fileName = some (entry' : OsText)
  · exact OsText.ofString_injective (Option.some.inj (hname.symm.trans hname'))
  · rw [addition_archive_of_eq hname, addition_archive_of_ne hname'] at h
    exact absurd (List.cons.inj h).1 (by decide)
  · rw [addition_archive_of_ne hname, addition_archive_of_eq hname'] at h
    exact absurd (List.cons.inj h).1 (by decide)
  · rw [addition_archive_of_ne hname, addition_archive_of_ne hname'] at h
    have hentry := List.append_cancel_left (List.cons.inj (List.cons.inj h).2).2
    exact (quote_append_cancel (stops_cons (by decide) _) (stops_cons (by decide) _) hentry).1

/-- What is written is known from the line: the version from its command, the path
from what is added. -/
theorem writeFile_eq_of_front {path path' : LocalPath} {v w : Version}
    (htext : path.isText = true) (htext' : path'.isText = true)
    (hfront : front (.writeFile path (v.text ++ "\n")) = front (.writeFile path' (w.text ++ "\n")))
    (hrest : (addition (.writeFile path (v.text ++ "\n"))).toList ++ '\n' :: s =
      (addition (.writeFile path' (w.text ++ "\n"))).toList ++ '\n' :: t) :
    writeFile path (v.text ++ "\n") = writeFile path' (w.text ++ "\n") := by
  have hversion : v.text = w.text := by
    simpa [front, Version.trimEnd_line] using hfront
  rw [addition_writeFile, addition_writeFile] at hrest
  have hpath := (List.cons.inj (List.cons.inj (List.cons.inj hrest).2).2).2
  obtain ⟨hpath, -⟩ := quote_append_cancel (stops_newline s) (stops_newline t) hpath
  rw [hversion, (LocalPath.text_inj htext htext').mp hpath]

/-- Two actions of plans are the same if their commands are and what follows those. -/
theorem eq_of_front (ha : a.Legible) (hb : b.Legible) (hfront : a.front = b.front)
    (hrest : a.addition.toList ++ '\n' :: s = b.addition.toList ++ '\n' :: t) : a = b := by
  have hkind : a.kind = b.kind := by
    rw [← ha.planned.kindOf_front, hfront, hb.planned.kindOf_front]
  obtain ⟨hplanned, htext⟩ := ha
  obtain ⟨hplanned', htext'⟩ := hb
  cases a <;> cases b <;> simp only [kind, String.reduceEq] at hkind
  case resetDir.resetDir path path' | createDir.createDir path path' =>
    have hpath : path.text = path'.text := by simpa [front] using hfront
    rw [(LocalPath.text_inj (htext path (by simp [paths])) (htext' path' (by simp [paths]))).mp
      hpath]
  case exec.exec =>
    exact congrArg exec hfront
  case copyFile.copyFile source dest source' dest' =>
    obtain ⟨hsource, hdest⟩ : source.text = source'.text ∧ dest.text = dest'.text := by
      simpa [front] using hfront
    rw [(LocalPath.text_inj (htext source (by simp [paths])) (htext' source' (by simp [paths]))).mp
        hsource,
      (LocalPath.text_inj (htext dest (by simp [paths])) (htext' dest' (by simp [paths]))).mp hdest]
  case archive.archive source entry dest source' entry' dest' =>
    obtain ⟨hdest, hsource⟩ : dest.text = dest'.text ∧ source.text = source'.text := by
      simpa [front] using hfront
    obtain rfl := (LocalPath.text_inj (htext source (by simp [paths]))
      (htext' source' (by simp [paths]))).mp hsource
    obtain rfl := (LocalPath.text_inj (htext dest (by simp [paths]))
      (htext' dest' (by simp [paths]))).mp hdest
    rw [entry_eq_of_addition hrest]
  case writeFile.writeFile path contents path' contents' =>
    obtain ⟨v, rfl⟩ := hplanned
    obtain ⟨w, rfl⟩ := hplanned'
    exact writeFile_eq_of_front (htext path (by simp [paths])) (htext' path' (by simp [paths]))
      hfront hrest

/-- Two lines of plans can be told apart by what is shown, and so can what follows
them. -/
theorem line_append_cancel (ha : a.Legible) (hb : b.Legible)
    (h : a.render.toList ++ '\n' :: s = b.render.toList ++ '\n' :: t) : a = b ∧ s = t := by
  obtain ⟨left, hs⟩ := stops_addition a s
  obtain ⟨left', ht⟩ := stops_addition b t
  rw [render_eq, render_eq, String.toList_append, String.toList_append, List.append_assoc,
    List.append_assoc] at h
  obtain ⟨hfront, hrest⟩ :=
    render_append_cancel ha.planned.typeable_front hb.planned.typeable_front hs ht h
  obtain rfl := eq_of_front ha hb hfront hrest
  exact ⟨rfl, (List.cons.inj (List.append_cancel_left hrest)).2⟩

/-! ## §3 Plans -/

/-- The lines of actions, one after another. In an echo nothing leads them, in a dry
run an arrow does. -/
def listing (lead : String) (actions : List Action) : String :=
  String.join (actions.map fun a => lead ++ a.render ++ "\n")

theorem toList_listing_cons (lead : String) (a : Action) (rest : List Action) :
    (listing lead (a :: rest)).toList =
      lead.toList ++ (a.render.toList ++ '\n' :: (listing lead rest).toList) := by
  simp [listing, String.toList_join]

/-- Listings that are the same text list the same actions. -/
theorem eq_of_listing {lead : String} {first second : List Action}
    (hfirst : ∀ a ∈ first, a.Legible) (hsecond : ∀ a ∈ second, a.Legible)
    (h : (listing lead first).toList = (listing lead second).toList) : first = second := by
  -- A listing of no line is the only one without a newline.
  have hnil : ∀ (a : Action) (rest : List Action),
      (listing lead []).toList ≠ (listing lead (a :: rest)).toList := by
    intro a rest h
    have hmem : '\n' ∈ (listing lead (a :: rest)).toList := by
      simp [toList_listing_cons]
    rw [← h] at hmem
    simp [listing] at hmem
  induction first generalizing second with
  | nil =>
    cases second with
    | nil => rfl
    | cons b later => exact absurd h (hnil b later)
  | cons a rest ih =>
    cases second with
    | nil => exact absurd h.symm (hnil a rest)
    | cons b later =>
      rw [toList_listing_cons, toList_listing_cons] at h
      obtain ⟨rfl, hrest⟩ := line_append_cancel (hfirst a (by simp)) (hsecond b (by simp))
        (List.append_cancel_left h)
      rw [ih (fun a ha => hfirst a (by simp [ha])) (fun b hb => hsecond b (by simp [hb])) hrest]

/-- What is echoed is the bytes of the listing. -/
theorem echoText_eq (actions : List Action) :
    echoText actions = Text.bytesOf (listing "" actions) := by
  induction actions with
  | nil => rfl
  | cons a rest ih =>
    have hcons : listing "" (a :: rest) = a.render ++ "\n" ++ listing "" rest := by
      simp [listing]
    rw [echoText_cons, hcons, Text.bytesOf_append, ih]
    rfl

end Action

/-- The parts of a step are single steps. -/
theorem Step.all_not_mem_parts (c : Config) (step : Step) : Step.all ∉ step.parts c := by
  cases step <;> simp [parts]

namespace Config

variable {c : Config} {a : Action}

theorem planned_of_mem_planApi (ha : a ∈ c.planApi) : a.Planned := by
  simp only [planApi, List.mem_cons, List.not_mem_nil, or_false] at ha
  rcases ha with rfl | rfl | rfl | rfl | rfl
  · trivial
  · exact .goBuild ..
  · trivial
  · exact .upload ..
  · exact .grantPublicRead ..

theorem planned_of_mem_planBuild (ha : a ∈ c.planBuild) : a.Planned := by
  simp only [planBuild, List.mem_cons, List.mem_map] at ha
  rcases ha with rfl | ⟨target, -, rfl⟩
  · trivial
  · exact .goBuild ..

theorem planned_of_mem_planArchive (ha : a ∈ c.planArchive) : a.Planned := by
  obtain ⟨b, -, ha⟩ := List.mem_flatMap.mp (c.planArchive_eq ▸ ha)
  simp only [bundleActions, List.mem_cons, List.not_mem_nil, or_false] at ha
  rcases ha with rfl | rfl | rfl | rfl
  · trivial
  · trivial
  · exact .upload ..
  · exact .grantPublicRead ..

theorem planned_of_mem_planPublish (ha : a ∈ c.planPublish) : a.Planned := by
  simp only [planPublish, List.mem_cons, List.not_mem_nil, or_false] at ha
  rcases ha with rfl | rfl | rfl | rfl
  · exact .uploadDir ..
  · exact ⟨c.version, rfl⟩
  · exact .upload ..
  · exact .grantPublicReadBelow ..

theorem planned_of_mem_plan {step : Step} (ha : a ∈ step.plan c) : a.Planned := by
  have hclean : ∀ a ∈ c.planClean, a.Planned := by simp [planClean, Action.Planned]
  rw [Step.plan_eq_flatMap_parts] at ha
  obtain ⟨part, hpart, ha⟩ := List.mem_flatMap.mp ha
  cases part with
  | clean => exact hclean a ha
  | api => exact planned_of_mem_planApi ha
  | build => exact planned_of_mem_planBuild ha
  | archive => exact planned_of_mem_planArchive ha
  | publish => exact planned_of_mem_planPublish ha
  | all => exact absurd hpart (Step.all_not_mem_parts c step)

/-- Every path of a plan is text if the staging directory is. -/
theorem isText_of_mem_plan (hdist : c.distDir.isText = true) {step : Step} (ha : a ∈ step.plan c) :
    ∀ path ∈ a.paths, path.isText = true := by
  have hversion : c.versionDir.isText = true := LocalPath.isText_join_of_isText hdist _
  have hfile : ∀ name : String, (c.versionDir.join name).isText = true :=
    LocalPath.isText_join_of_isText hversion
  have hlatest : c.latestPath.isText = true := LocalPath.isText_join_of_isText hdist _
  rw [Step.plan_eq_flatMap_parts] at ha
  obtain ⟨part, hpart, ha⟩ := List.mem_flatMap.mp ha
  cases part with
  | clean =>
    obtain rfl := List.mem_singleton.mp ha
    simpa [Action.paths] using hversion
  | api =>
    simp only [Step.plan, planApi, List.mem_cons, List.not_mem_nil, or_false] at ha
    rcases ha with rfl | rfl | rfl | rfl | rfl <;> simp [Action.paths, hversion]
    exact ⟨hfile _, hfile _⟩
  | build =>
    simp only [Step.plan, planBuild, List.mem_cons, List.mem_map] at ha
    rcases ha with rfl | ⟨target, -, rfl⟩ <;> simp [Action.paths, buildAction, hversion]
  | archive =>
    rw [Step.plan, planArchive_eq] at ha
    obtain ⟨b, -, ha⟩ := List.mem_flatMap.mp ha
    simp only [bundleActions, List.mem_cons, List.not_mem_nil, or_false] at ha
    rcases ha with rfl | rfl | rfl | rfl <;> simp [Action.paths]
    · exact ⟨hfile _, hfile _⟩
    · exact ⟨hfile _, hfile _⟩
  | publish =>
    simp only [Step.plan, planPublish, List.mem_cons, List.not_mem_nil, or_false] at ha
    rcases ha with rfl | rfl | rfl | rfl <;> simp [Action.paths, hlatest]
  | all => exact absurd hpart (Step.all_not_mem_parts c step)

theorem legible_of_mem_plan (hdist : c.distDir.isText = true) {step : Step}
    (ha : a ∈ step.plan c) : a.Legible :=
  ⟨planned_of_mem_plan ha, isText_of_mem_plan hdist ha⟩

end Config

/-- **What is shown of a plan tells it from every other.** Two plans, of whatever
configurations with staging directories that are text and of whatever steps, that are listed
as the same text are the same, action by action; and so are two that are echoed alike. -/
theorem shown_plans_determine (lead : String) (c d : Config) (step other : Step)
    (hc : c.distDir.isText = true) (hd : d.distDir.isText = true) :
    (Action.listing lead (step.plan c) = Action.listing lead (other.plan d) ↔
      step.plan c = other.plan d) ∧
    (echoText (step.plan c) = echoText (other.plan d) ↔ step.plan c = other.plan d) := by
  have hlisting : ∀ lead, Action.listing lead (step.plan c) = Action.listing lead (other.plan d) →
      step.plan c = other.plan d := fun lead h =>
    Action.eq_of_listing (fun _ => Config.legible_of_mem_plan hc)
      (fun _ => Config.legible_of_mem_plan hd) (congrArg String.toList h)
  refine ⟨⟨hlisting lead, fun h => by rw [h]⟩, ⟨fun h => hlisting "" ?_, fun h => by rw [h]⟩⟩
  rw [Action.echoText_eq, Action.echoText_eq] at h
  exact Text.bytesOf_inj h

/-- A staging directory that is named like the end of a command and another command is not
taken for these. -/
theorem command_like_directory_shown :
    let plain := Config.standard ⟨"1.0", by decide⟩
    let odd := { plain with distDir := ⟨"dist/1.0 && mkdir -p dist"⟩ }
    Action.listing "" (Step.clean.plan plain) ≠ Action.listing "" (Step.clean.plan odd) := by
  intro plain odd h
  have hplans := (shown_plans_determine "" plain odd .clean .clean (LocalPath.isText_ofText _)
    (LocalPath.isText_ofText _)).1.mp h
  exact absurd hplans (by decide)

end ReleaseKit
