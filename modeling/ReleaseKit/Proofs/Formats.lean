/-
ReleaseKit.Proofs.Formats — a release that reports as text and one that reports as JSON.

The format of the output is looked at when everything is done. So two releases that differ
in it come to the same, commands included, and only the places differ where a writing goes
to. What is written is one transcript for both: its lines are those of the actions that were
started, each whole (`execute_lines`), and what commands write to standard error stands
between them. The reports of a finished release are two forms of one summary; an archive has
a file name to be listed by, for it is named with an ending. The one thing that the format can
change otherwise is whether there is a report: JSON has no place for a path that is not text.

  §1 Transcripts — what commands write, and everything that is written.
  §2 Archives    — archives have file names.
  §3 Reports     — `Report.Tells` and `Report.Holds`.
  §4 Together    — `format_changes_output_only`.
-/
import ReleaseKit.Proofs.Clashes
import ReleaseKit.Proofs.Commands
import ReleaseKit.Proofs.Documents

namespace ReleaseKit

/-! ## §1 Transcripts -/

namespace Writing

/-- What a command wrote to standard error. -/
def diagnosis? : Writing → Option (List UInt8)
  | echo _ => none
  | diagnosis bytes => some bytes

def bytes : Writing → List UInt8
  | echo bytes => bytes
  | diagnosis bytes => bytes

end Writing

namespace Session

variable {σ τ : Type}

theorem diagnosed_eq (s : Session σ τ) :
    s.diagnosed = (s.transcript.filterMap Writing.diagnosis?).flatten :=
  flatMap_eq_flatten (fun w => by cases w <;> rfl) s.transcript

theorem written_eq (s : Session σ τ) : s.written = (s.transcript.map Writing.bytes).flatten := by
  rw [written, List.flatMap_def]
  rfl

end Session

/-! ## §2 Archives -/

/-- What is joined with an ending has a file name, whatever it is joined of. -/
theorem LocalPath.fileName_join_zip (left : LocalPath) (name : String) :
    ∃ last, (left.join (name ++ ".zip")).fileName = some ⟨last ++ ".zip"⟩ := by
  obtain ⟨stem, last, -, hpieces, -⟩ :=
    pieces_append (by decide : '/' ∉ ".zip".toList) (left.join name)
  have hne : ∀ short : String, short.length ≤ 2 → last ++ ".zip" ≠ short := by
    intro short hshort heq
    have hlength := congrArg String.length heq
    rw [String.length_append, show ".zip".length = 4 from rfl] at hlength
    omega
  have hstep : isStep (last ++ ".zip") = true := by
    simp only [isStep, Bool.and_eq_true, bne_iff_ne]
    exact ⟨hne "" (by decide), hne "." (by decide)⟩
  refine ⟨last, ?_⟩
  rw [code_join_append (by decide), OsText.encode_of_not_mem (s := ".zip") (by decide), fileName,
    significant_of_pieces hpieces hstep]
  exact if_neg (not_or.mpr ⟨hne "." (by decide), hne ".." (by decide)⟩)

namespace Config

variable {c : Config}

/-- A plan packs to names with an ending in the directory of the version. -/
theorem exists_zip_of_mem_plan {step : Step} {a : Action} {path : LocalPath}
    (ha : a ∈ step.plan c) (hdest : a.archiveDest? = some path) :
    ∃ stem : String, path = c.versionDir.join (stem ++ ".zip") := by
  rw [Step.plan_eq_flatMap_parts] at ha
  obtain ⟨part, hpart, ha⟩ := List.mem_flatMap.mp ha
  cases part with
  | clean =>
    obtain rfl := List.mem_singleton.mp ha
    cases hdest
  | api =>
    simp only [Step.plan, planApi, List.mem_cons, List.not_mem_nil, or_false] at ha
    rcases ha with rfl | rfl | rfl | rfl | rfl <;> cases hdest
    exact ⟨_, rfl⟩
  | build =>
    simp only [Step.plan, planBuild, List.mem_cons, List.mem_map] at ha
    rcases ha with rfl | ⟨target, -, rfl⟩ <;> cases hdest
  | archive =>
    have hmem : path ∈ archiveDests c.planArchive := List.mem_filterMap.mpr ⟨a, ha, hdest⟩
    rw [archiveDests_planArchive] at hmem
    obtain ⟨b, -, rfl⟩ := List.mem_map.mp hmem
    exact ⟨b.name, rfl⟩
  | publish =>
    simp only [Step.plan, planPublish, List.mem_cons, List.not_mem_nil, or_false] at ha
    rcases ha with rfl | rfl | rfl | rfl <;> cases hdest
  | all => exact absurd hpart (Step.all_not_mem_parts c step)

theorem fileName_of_mem_archiveDests {step : Step} {path : LocalPath}
    (h : path ∈ archiveDests (step.plan c)) : ∃ name, path.fileName = some name := by
  obtain ⟨a, ha, hdest⟩ := List.mem_filterMap.mp h
  obtain ⟨stem, rfl⟩ := exists_zip_of_mem_plan ha hdest
  obtain ⟨last, hname⟩ := c.versionDir.fileName_join_zip stem
  exact ⟨_, hname⟩

end Config

/-! ## §3 Reports -/

namespace Report

/-- Lines that tell a summary: they have its counts, and next the archives in order, each by
its file name. -/
def Tells (done : Summary) (texts : List String) : Prop :=
  ∃ before archives after,
    texts = before ++ ("  Actions: " ++ toString done.actions) ::
      ("  Commands: " ++ toString done.commands) :: archives ++ after ∧
    List.Forall₂ (fun r text => ∃ name, r.path.fileName = some name ∧
      text = "  " ++ name.shown ++ ": " ++ toString r.size ++ " bytes") done.archives archives

/-- A document that holds a summary: an object with no name twice, and under three of the
names the counts and the archives in order, each with its path and its size. -/
def Holds (done : Summary) (document : Json) : Prop :=
  ∃ members, document = .object members ∧ (members.map Prod.fst).Nodup ∧
    members.lookup "actions" = some (.nat done.actions) ∧
    members.lookup "commands" = some (.nat done.commands) ∧
    members.lookup "archives" = some (.array (done.archives.map fun r =>
      .object [("path", .text r.path.text), ("size", .nat r.size)]))

theorem tells_summaryLines (step : Step) (c : Config) (elapsed : Duration) {done : Summary}
    (h : ∀ r ∈ done.archives, ∃ name, r.path.fileName = some name) :
    Tells done (summaryLines step c done elapsed) := by
  refine ⟨["", "✓ Step '" ++ step.name ++ "' for " ++ c.version.text ++ " complete in " ++
      elapsed.text, "  Environment: " ++ c.envTag],
    done.archives.map fun r => "  " ++ archiveLabel r.path ++ ": " ++ (toString r.size ++ " bytes"),
    (if movesPointer step then
      ["  Latest: " ++ (c.version.text ++ " -> " ++ c.latestRemote)] else []), ?_, ?_⟩
  · cases hstep : movesPointer step <;> simp [summaryLines, stats, hstep]
  · rw [List.forall₂_map_right_iff, List.forall₂_same]
    intro r hr
    obtain ⟨name, hname⟩ := h r hr
    refine ⟨name, hname, ?_⟩
    simp only [archiveLabel, hname]
    simp [String.append_assoc]

theorem holds_releaseJson {step : Step} {c : Config} {done : Summary} {elapsed : Duration}
    {report : Json} (h : releaseJson step c done elapsed = .ok report) : Holds done report := by
  unfold releaseJson document at h
  split at h
  · obtain rfl := Except.ok.inj h
    exact ⟨_, rfl, by simp [Summary.members], rfl, rfl, rfl⟩
  · cases h

end Report

/-! ## §4 Together -/

namespace Program

/-- The bytes of notices, with lines that a logger makes of events. -/
def noticed (logger : LogEvent → List UInt8) (notices : List Notice) : List UInt8 :=
  notices.flatMap (Notice.bytesWith logger)

theorem noticed_append (logger : LogEvent → List UInt8) (before after : List Notice)
    (bytes : List UInt8) : noticed logger (before ++ .text bytes :: after) =
      noticed logger before ++ bytes ++ noticed logger after := by
  simp [noticed, Notice.bytesWith]

variable {σ τ : Type} [FileSystem τ] {run : Runner σ τ} {cwd : Location} {a : Arguments}
  {c : Config} {t : τ} {state : σ} {left : Session σ τ}

/-- A release that is stopped, with either format. -/
theorem release_stopped {stop : Stopped}
    (h : execute run cwd (a.step.plan c) (.start t state none) = (.error stop, left))
    (elapsed later : Duration) :
    let complaint := Complaint.ofRelease a.step stop.error
    let ended : List Notice := [.log (.actionFailed stop), .text (complaintLine complaint)]
    release run cwd elapsed { a with output := .text } c t state =
      ⟨complaint.exitCode, lines [Report.banner c] ++ left.echoed,
        warnings a.step c ++ .text left.diagnosed :: ended, left.tree, left.state⟩ ∧
    release run cwd later { a with output := .json } c t state =
      ⟨complaint.exitCode, [], warnings a.step c ++ .text left.written :: ended, left.tree,
        left.state⟩ := by
  simp [release, h, stopNotice, started_of_stop rfl h]

/-- A release that gets to its end, with either format. -/
theorem release_done {done : Summary}
    (h : execute run cwd (a.step.plan c) (.start t state none) = (.ok done, left))
    {later : Duration} {report : Json}
    (hreport : Report.releaseJson a.step c done later = .ok report) (elapsed : Duration) :
    release run cwd elapsed { a with output := .text } c t state =
      ⟨0, lines [Report.banner c] ++ left.echoed ++
        lines (Report.summaryLines a.step c done elapsed),
        warnings a.step c ++ [.text left.diagnosed], left.tree, left.state⟩ ∧
    release run cwd later { a with output := .json } c t state =
      ⟨0, lines [report.indented], warnings a.step c ++ [.text left.written], left.tree,
        left.state⟩ := by
  simp [release, h, hreport]

end Program

/-- **The output format changes only the output.** Let two releases be asked for the same, one
with text for its output and the other with JSON, and let the archives of the step have paths
that are text. They come to the same exit code, the same tree and the same state of the runner,
and they run the same commands in the same order. There is one transcript for both: its lines
are those of the actions that were started. On standard error the same notices stand before
it and after it, which begin with the warnings of planning and end with the same complaint, or
with none.

If the release fails, standard output is empty with JSON; with text it has the banner and the
lines, or nothing if the release has not got as far as to a plan. Otherwise there is one
summary for both. With text, the lines stand between the banner and the lines that tell the
summary; with JSON, they stand in the same order on standard error, and standard output is a
JSON text that holds the summary. -/
theorem format_changes_output_only {σ τ : Type} [FileSystem τ] (run : Runner σ τ) (cwd : Location)
    (vars : String → Option ByteArray) (elapsed later : Duration) (t : τ) (state : σ)
    (a : Arguments) (textArgs jsonArgs : List OsText)
    (htext : Request.ofArgs textArgs = .ok (.release { a with dryRun := false, output := .text }))
    (hjson : Request.ofArgs jsonArgs = .ok (.release { a with dryRun := false, output := .json }))
    (hreport : ∀ c, Program.configure vars t cwd a = .ok c →
      Program.CanReport { a with dryRun := false, output := .json } c) :
    let text := Program.run run cwd vars elapsed textArgs t state
    let json := Program.run run cwd vars later jsonArgs t state
    let told := (Program.started run cwd vars a t state).map Action.echoLine
    (json.code = text.code ∧ json.tree = text.tree ∧ json.state = text.state ∧
      Program.commands run cwd vars later jsonArgs t state =
        Program.commands run cwd vars elapsed textArgs t state) ∧
    ∃ (transcript : List Writing) (before after : List Notice),
      transcript.filterMap Writing.line? = told ∧
      (∀ logger, text.stderrWith logger = Program.noticed logger before ++
          (transcript.filterMap Writing.diagnosis?).flatten ++ Program.noticed logger after ∧
        json.stderrWith logger = Program.noticed logger before ++
          (transcript.map Writing.bytes).flatten ++ Program.noticed logger after) ∧
      (text.code ≠ 0 → json.stdout = [] ∧ ∃ reason,
        match Program.configure vars t cwd a with
        | .error _ => text.stdout = [] ∧ told = [] ∧ before = [] ∧
          after = [.text (Program.lines ["✗ " ++ reason])]
        | .ok c => text.stdout = Program.lines [Report.banner c] ++ told.flatten ∧
          before = Program.warnings a.step c ∧ ∃ stop,
            after = [.log (.actionFailed stop), .text (Program.lines ["✗ " ++ reason])]) ∧
      (text.code = 0 → after = [] ∧ ∃ c done summary document,
        Program.configure vars t cwd a = .ok c ∧ before = Program.warnings a.step c ∧
        text.stdout =
          Program.lines [Report.banner c] ++ told.flatten ++ Program.lines summary ∧
        json.stdout = Program.lines [document.indented] ∧
        Json.Written document.doc document.indented.toList ∧
        Report.Tells done summary ∧ Report.Holds done document) := by
  intro text json told
  have hcommands : Program.commands run cwd vars later jsonArgs t state =
      Program.commands run cwd vars elapsed textArgs t state :=
    (Program.commands_of_release (a := { a with output := .json }) hjson).trans
      (Program.commands_of_release (a := { a with output := .text }) htext).symm
  have htext' : text = _ := Program.run_live (a := { a with output := .text }) htext
  have hjson' : json = _ := Program.run_live (a := { a with output := .json }) hjson
  have hconfigure : ∀ output, Program.configure vars t cwd { a with output } =
      Program.configure vars t cwd a := fun _ => rfl
  rw [hconfigure] at htext' hjson'
  cases hconfig : Program.configure vars t cwd a with
  | error complaint =>
    rw [hconfig] at htext' hjson'
    dsimp only at htext' hjson'
    have htold : told = [] := by
      simp only [told, Program.started, hconfig, List.map_nil]
    have hcode := Program.configure_error_exitCode hconfig
    rw [hcommands, htext', hjson', htold]
    exact ⟨⟨rfl, rfl, rfl, rfl⟩, [], [], [.text (Program.complaintLine complaint)], rfl,
      fun _ => ⟨rfl, rfl⟩, fun _ => ⟨rfl, _, rfl, rfl, rfl, rfl⟩, fun h => absurd h hcode⟩
  | ok c =>
    rw [hconfig] at htext' hjson'
    dsimp only at htext' hjson'
    have hlines := execute_lines run cwd (a.step.plan c) (.start t state none) rfl
    have htold : told = (startedBy (a.step.plan c)
        (execute run cwd (a.step.plan c) (.start t state none)).1).map Action.echoLine := by
      simp only [told, Program.started, hconfig]
    rw [show Session.echoedLines (.start t state none) = [] from rfl, List.nil_append, ← htold]
      at hlines
    rcases hrun : execute run cwd (a.step.plan c) (.start t state none) with ⟨stop | done, left⟩
    · obtain ⟨hstopped, hstopped'⟩ := Program.release_stopped hrun elapsed later
      rw [hrun] at hlines
      have hcode : (Complaint.ofRelease a.step stop.error).exitCode ≠ 0 :=
        Complaint.exitCode_ne_zero stop.error.exitCode_ne_zero
      rw [hcommands, htext', hjson', hstopped, hstopped', left.echoed_eq, hlines,
        left.diagnosed_eq, left.written_eq]
      exact ⟨⟨rfl, rfl, rfl, rfl⟩, left.transcript, Program.warnings a.step c, _, hlines,
        fun logger => ⟨Program.noticed_append logger _ _ _, Program.noticed_append logger _ _ _⟩,
        fun _ => ⟨rfl, _, rfl, rfl, stop, rfl⟩, fun h => absurd h hcode⟩
    · obtain ⟨document, hdocument⟩ : ∃ document,
          Report.releaseJson a.step c done later = .ok document :=
        Program.releaseJson_eq (a := { a with dryRun := false, output := .json }) later hrun rfl rfl
          (hreport c hconfig)
      obtain ⟨hdone, hdone'⟩ := Program.release_done hrun hdocument elapsed
      rw [hrun] at hlines
      have hnames : ∀ r ∈ done.archives, ∃ name, r.path.fileName = some name := by
        intro r hr
        have hpath : r.path ∈ done.archives.map ArchiveRecord.path := List.mem_map_of_mem hr
        rw [(execute_counts hrun).2.2] at hpath
        exact Config.fileName_of_mem_archiveDests hpath
      rw [hcommands, htext', hjson', hdone, hdone', left.echoed_eq, hlines, left.diagnosed_eq,
        left.written_eq]
      exact ⟨⟨rfl, rfl, rfl, rfl⟩, left.transcript, Program.warnings a.step c, [], hlines,
        fun logger => ⟨Program.noticed_append logger _ _ _, Program.noticed_append logger _ _ _⟩,
        fun h => absurd rfl h, fun _ => ⟨rfl, c, done, _, document, rfl, rfl, rfl, rfl,
          Json.written_indented _, Report.tells_summaryLines a.step c elapsed hnames,
          Report.holds_releaseJson hdocument⟩⟩

/-- Version 1.0 is published: both formats come to the same tree, and the JSON report holds
the counts that the text report tells. -/
theorem published_version_reported :
    let run := Runner.rehearsing [] []
    let outcome := fun args =>
      Program.run run [] Settings.productionVars (.ofParts 0 0) args .empty []
    (outcome ["publish"]).code = 0 ∧
      (outcome ["-o", "json", "publish"]).tree = (outcome ["publish"]).tree ∧
      ∃ c told done summary document,
        (outcome ["publish"]).stdout =
          Program.lines [Report.banner c] ++ told ++ Program.lines summary ∧
        (outcome ["-o", "json", "publish"]).stdout = Program.lines [document.indented] ∧
        Report.Tells done summary ∧ Report.Holds done document := by
  intro run outcome
  let a : Arguments := ⟨.publish, none, ⟨"dist"⟩, false, .text, false⟩
  have htext : Request.ofArgs ["publish"] =
      .ok (.release { a with dryRun := false, output := .text }) := by
    decide +kernel
  have hjson : Request.ofArgs ["-o", "json", "publish"] =
      .ok (.release { a with dryRun := false, output := .json }) := by
    decide +kernel
  have hcode : (outcome ["publish"]).code = 0 := by decide +kernel
  have hreport : ∀ c, Program.configure Settings.productionVars FileTree.empty [] a = .ok c →
      Program.CanReport { a with dryRun := false, output := .json } c := by
    intro c hconfig
    refine Program.canReport_of_isText _ ?_
    rw [Program.distDir_of_configure hconfig]
    decide
  obtain ⟨⟨-, htree, -, -⟩, _, _, _, -, -, -, hend⟩ := format_changes_output_only run []
    Settings.productionVars (.ofParts 0 0) (.ofParts 0 0) .empty [] a ["publish"]
    ["-o", "json", "publish"] htext hjson hreport
  obtain ⟨-, c, done, summary, document, -, -, hout, hdocument, -, htells, hholds⟩ := hend hcode
  exact ⟨hcode, htree, c, _, done, summary, document, hout, hdocument, htells, hholds⟩

/-- A release whose archive has a path that is not text does everything that it is asked for and
says so as text; as JSON it cannot say so, and fails. -/
theorem unwritable_report_fails :
    let run := Runner.faithful Unit []
    let a : Arguments := ⟨.api, none, .byteNamed, false, .text, false⟩
    let dist := LocalPath.byteNamed.code
    let tree := ((FileTree.empty.put [dist] .dir).put ["1.0", dist] .dir).put ["apictl", "1.0", dist]
      (.file (.ofText "built before"))
    let args := fun format : String =>
      ([(.ofString "-o"), .ofString format, .ofString "--dist-dir", LocalPath.byteNamed.os,
        .ofString "api"] : List OsText)
    let outcome := fun format : String =>
      Program.run run [] Settings.productionVars (.ofParts 0 0) (args format) tree ()
    Request.ofArgs (args "text") = .ok (.release a) ∧
      Request.ofArgs (args "json") = .ok (.release { a with output := .json }) ∧
      (outcome "text").code = 0 ∧ (outcome "json").code = 1 ∧ (outcome "json").stdout = [] := by
  intro run a dist tree args outcome
  decide +kernel

end ReleaseKit
