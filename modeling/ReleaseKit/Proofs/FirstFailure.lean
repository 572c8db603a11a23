/-
ReleaseKit.Proofs.FirstFailure — a run ends at its first failure, and exactly
there.

Two things can stop a run: the echo takes no more, and an action fails. `stopAt`
says of a place in the list of actions whether and why the run has to stop there
if it gets there. `execute_ends_at_first_failure` says that the run stops at the
first such place and what it leaves: the files, the state of the runner, what the
runner was handed, and what was echoed.

  §1 The plain reading  — `effects`, `echoText`, `stopAt`, `firstStop`.
  §2 The run            — `execute_of_stop`, `execute_of_no_stop`.
  §3 The summary        — counts, and the archives as they stand in the tree.
  §4 The commands       — a runner that notes what it is handed.
  §5 Together           — `execute_ends_at_first_failure`.
-/
import ReleaseKit.Proofs.Location
import ReleaseKit.Proofs.Run

namespace ReleaseKit

variable {σ τ : Type} [FileSystem τ] {run : Runner σ τ} {cwd : Location} {a : Action}
  {actions rest : List Action} {world : τ × σ} {room : Option Nat} {s : Session σ τ}

/-! ## §1 The plain reading -/

/-- What actions do to the files and to the state of the runner, one after
another, each of them whether it fails or not. -/
def effects (run : Runner σ τ) (cwd : Location) (actions : List Action) (world : τ × σ) :
    τ × σ :=
  actions.foldl (fun world a => (a.effect run cwd world).2) world

/-- The lines of actions, one after another. -/
def echoText (actions : List Action) : List UInt8 := actions.flatMap Action.echoLine

/-- Whether and why a run that gets to a place in the list stops there: the echo
does not take the line of the action, or the action fails where those before it
have led. -/
def stopAt (run : Runner σ τ) (cwd : Location) (actions : List Action) (world : τ × σ)
    (room : Option Nat) (place : Nat) : Option Stopped :=
  match actions[place]? with
  | none => none
  | some a =>
    if Session.fits room (echoText (actions.take (place + 1))).length then
      match (a.effect run cwd (effects run cwd (actions.take place) world)).1 with
      | .error error => some ⟨place, a, true, error⟩
      | .ok _ => none
    else some ⟨place, a, false, .echo .echoClosed⟩

/-- The stop at the first place where a run has to stop. -/
def firstStop (run : Runner σ τ) (cwd : Location) (actions : List Action) (world : τ × σ)
    (room : Option Nat) : Option Stopped :=
  (List.range actions.length).findSome? (stopAt run cwd actions world room)

/-- How many actions were started before a stop. -/
def Stopped.begun (stop : Stopped) : Nat := if stop.started then stop.index + 1 else stop.index

@[simp] theorem Stopped.begun_later (stop : Stopped) : stop.later.begun = stop.begun + 1 := by
  unfold begun later
  split <;> rfl

@[simp] theorem echoText_cons : echoText (a :: rest) = a.echoLine ++ echoText rest := rfl

theorem effects_cons :
    effects run cwd (a :: rest) world = effects run cwd rest (a.effect run cwd world).2 := rfl

theorem stopAt_zero_of_not_fits (h : Session.fits room a.echoLine.length = false) :
    stopAt run cwd (a :: rest) world room 0 = some ⟨0, a, false, .echo .echoClosed⟩ := by
  simp [stopAt, echoText, h]

theorem stopAt_zero_of_fits (h : Session.fits room a.echoLine.length = true) :
    stopAt run cwd (a :: rest) world room 0 =
      match (a.effect run cwd world).1 with
      | .error error => some ⟨0, a, true, error⟩
      | .ok _ => none := by
  simp [stopAt, echoText, effects, h]

/-- A later place is the place in the rest of the list, for what the first action
has left. -/
theorem stopAt_succ (h : Session.fits room a.echoLine.length = true) (place : Nat) :
    stopAt run cwd (a :: rest) world room (place + 1) =
      (stopAt run cwd rest (a.effect run cwd world).2 (room.map (· - a.echoLine.length))
        place).map Stopped.later := by
  unfold stopAt
  rw [List.getElem?_cons_succ, List.take_succ_cons, echoText_cons, List.length_append,
    Session.fits_add h, List.take_succ_cons, effects_cons]
  cases rest[place]? with
  | none => rfl
  | some b =>
    dsimp only
    split
    · split <;> rfl
    · rfl

/-- Where the run of a list does not stop at its first action, that action is
echoed and succeeds. -/
theorem head_succeeds_of_no_stop (h : stopAt run cwd (a :: rest) world room 0 = none) :
    Session.fits room a.echoLine.length = true ∧
      ∃ done, (a.effect run cwd world).1 = .ok done := by
  cases hfits : Session.fits room a.echoLine.length with
  | false => simp [stopAt_zero_of_not_fits hfits] at h
  | true =>
    rw [stopAt_zero_of_fits hfits] at h
    split at h
    · cases h
    · rename_i done hdone
      exact ⟨rfl, done, hdone⟩

/-- Past the end of the list nothing stops a run. -/
theorem stopAt_of_length_le {place : Nat} (h : actions.length ≤ place) :
    stopAt run cwd actions world room place = none := by
  simp [stopAt, List.getElem?_eq_none h]

/-- The first stop is at a place where the run has to stop, and at no place before
does it have to. -/
theorem firstStop_eq_some {stop : Stopped}
    (h : firstStop run cwd actions world room = some stop) :
    ∃ place, stopAt run cwd actions world room place = some stop ∧
      ∀ i < place, stopAt run cwd actions world room i = none := by
  obtain ⟨before, place, after, hsplit, hstop, hbefore⟩ := List.findSome?_eq_some_iff.mp h
  refine ⟨place, hstop, fun i hi => ?_⟩
  -- the places before this one in the range are the smaller numbers
  have hplace : before.length = place := by
    have hget : (List.range actions.length)[before.length]? = some place := by simp [hsplit]
    simpa using (List.getElem?_eq_some_iff.mp hget).2
  apply hbefore
  have hrange : (List.range actions.length)[i]? = before[i]? := by
    rw [hsplit, List.getElem?_append_left (by omega)]
  have hlen : i < actions.length := by
    have := congrArg List.length hsplit
    simp at this
    omega
  rw [List.getElem?_range hlen] at hrange
  exact List.mem_of_getElem? hrange.symm

theorem firstStop_eq_none (h : firstStop run cwd actions world room = none) (place : Nat) :
    stopAt run cwd actions world room place = none := by
  rcases Nat.lt_or_ge place actions.length with hlt | hge
  · exact List.findSome?_eq_none_iff.mp h place (List.mem_range.mpr hlt)
  · exact stopAt_of_length_le hge

/-! ## §2 The run -/

/-- What a run leaves that has started the actions `begun`: what these do, and of
the lines of all actions a beginning with at least the lines of those started. -/
structure Leaves (run : Runner σ τ) (cwd : Location) (actions begun : List Action)
    (s last : Session σ τ) : Prop where
  world : (last.tree, last.state) = effects run cwd begun (s.tree, s.state)
  echoed : ∃ told, last.echoed = s.echoed ++ told ∧ told <+: echoText actions ∧
    echoText begun <+: told

/-- What is left after one more action before. -/
theorem Leaves.cons {begun : List Action} {left last : Session σ τ}
    (hworld : (left.tree, left.state) = (a.effect run cwd (s.tree, s.state)).2)
    (hecho : left.echoed = s.echoed ++ a.echoLine)
    (h : Leaves run cwd rest begun left last) :
    Leaves run cwd (a :: rest) (a :: begun) s last := by
  obtain ⟨hw, told, htold, hpre, hsuf⟩ := h
  refine ⟨by rw [hw, hworld, effects_cons], a.echoLine ++ told, ?_, ?_, ?_⟩
  · rw [htold, hecho, List.append_assoc]
  · exact List.prefix_append_right_inj _ |>.mpr hpre
  · exact List.prefix_append_right_inj _ |>.mpr hsuf

/-- A run stops at the first place where it has to. -/
theorem execute_of_stop {place : Nat} {stop : Stopped}
    (hstop : stopAt run cwd actions (s.tree, s.state) s.room place = some stop)
    (hfirst : ∀ i < place, stopAt run cwd actions (s.tree, s.state) s.room i = none) :
    ∃ last, execute run cwd actions s = (.error stop, last) ∧
      Leaves run cwd actions (actions.take stop.begun) s last := by
  induction actions generalizing s place stop with
  | nil => simp [stopAt] at hstop
  | cons a rest ih =>
    cases place with
    | zero =>
      cases hfits : Session.fits s.room a.echoLine.length with
      | false =>
        obtain ⟨left, taken, hp, hworld, hecho, htaken⟩ := Action.perform_of_not_fits run cwd hfits
        rw [stopAt_zero_of_not_fits hfits] at hstop
        obtain rfl := Option.some.inj hstop
        refine ⟨left, by simp only [execute, hp], hworld, taken, hecho, ?_, ?_⟩
        · exact htaken.trans (List.prefix_append _ _)
        · exact List.nil_prefix
      | true =>
        obtain ⟨left, hp, hworld, hecho, -⟩ := Action.perform_of_fits run cwd hfits
        rw [stopAt_zero_of_fits hfits] at hstop
        split at hstop
        · rename_i error herror
          obtain rfl := Option.some.inj hstop
          refine ⟨left, by simp only [execute, hp, herror], hworld, a.echoLine, hecho, ?_, ?_⟩
          · exact List.prefix_append _ _
          · simp [Stopped.begun, echoText]
        · cases hstop
    | succ place =>
      obtain ⟨hfits, done, hdone⟩ := head_succeeds_of_no_stop (hfirst 0 (by omega))
      obtain ⟨left, hp, hworld, hecho, hroom⟩ := Action.perform_of_fits run cwd hfits
      rw [stopAt_succ hfits, ← hroom, ← hworld] at hstop
      obtain ⟨stop', hstop', rfl⟩ := Option.map_eq_some_iff.mp hstop
      have hfirst' : ∀ i < place,
          stopAt run cwd rest (left.tree, left.state) left.room i = none := by
        intro i hi
        have := hfirst (i + 1) (by omega)
        rw [stopAt_succ hfits, ← hroom, ← hworld] at this
        exact Option.map_eq_none_iff.mp this
      obtain ⟨last, hrun, hleaves⟩ := ih hstop' hfirst'
      refine ⟨last, by simp only [execute, hp, hdone, hrun], ?_⟩
      rw [Stopped.begun_later, List.take_succ_cons]
      exact hleaves.cons hworld hecho

/-- A run that has to stop nowhere gets to its end. -/
theorem execute_of_no_stop
    (h : ∀ place, stopAt run cwd actions (s.tree, s.state) s.room place = none) :
    ∃ done last, execute run cwd actions s = (.ok done, last) ∧
      Leaves run cwd actions actions s last := by
  induction actions generalizing s with
  | nil => exact ⟨.empty, s, rfl, rfl, [], by simp, List.prefix_rfl, List.prefix_rfl⟩
  | cons a rest ih =>
    obtain ⟨hfits, done, hdone⟩ := head_succeeds_of_no_stop (h 0)
    obtain ⟨left, hp, hworld, hecho, hroom⟩ := Action.perform_of_fits run cwd hfits
    have hrest : ∀ place, stopAt run cwd rest (left.tree, left.state) left.room place = none := by
      intro place
      have := h (place + 1)
      rw [stopAt_succ hfits, ← hroom, ← hworld] at this
      exact Option.map_eq_none_iff.mp this
    obtain ⟨more, last, hrun, hleaves⟩ := ih hrest
    exact ⟨done ++ more, last, by simp only [execute, hp, hdone, hrun], hleaves.cons hworld hecho⟩

/-! ## §3 The summary -/

/-- Where an action packs to. -/
def Action.archiveDest? : Action → Option LocalPath
  | archive _ _ dest => some dest
  | _ => none

/-- Where actions pack to, in order. -/
def archiveDests (actions : List Action) : List LocalPath := actions.filterMap Action.archiveDest?

/-- The record of the archive that an action has written, going by the tree. -/
def Action.recordIn (cwd : Location) (t : τ) : Action → List ArchiveRecord
  | archive _ _ dest =>
    match FileSystem.read t cwd dest with
    | .ok contents => [⟨dest, contents.size⟩]
    | .error _ => []
  | _ => []

/-- The archives of a list of actions in order, each with the size that it has in
the tree when its action is done. -/
def recordsOf (run : Runner σ τ) (cwd : Location) :
    List Action → τ × σ → List ArchiveRecord
  | [], _ => []
  | a :: rest, world =>
    let left := (a.effect run cwd world).2
    a.recordIn cwd left.1 ++ recordsOf run cwd rest left

/-- What a run to the end has to report: how many actions there are, how many of
them run commands, and the archives. -/
def summaryOf (run : Runner σ τ) (cwd : Location) (actions : List Action) (world : τ × σ) :
    Summary :=
  ⟨actions.length, (actions.filterMap Action.command?).length, recordsOf run cwd actions world⟩

section Trees

variable {run : Runner σ} {world : FileTree × σ} {s : Session σ}

/-- An archive that has been written is there with the size that is reported. -/
theorem FileTree.read_of_writeArchive {t left : FileTree} {source dest : LocalPath}
    {entry : String} {size : Nat} (h : t.writeArchive cwd source entry dest = (.ok size, left)) :
    ∃ contents, left.read cwd dest = .ok contents ∧ contents.size = size := by
  unfold FileTree.writeArchive at h
  split at h
  · cases h
  · split at h
    · cases h
    · rename_i m hopen
      split at h
      · cases h
      · obtain ⟨hsize, rfl⟩ := Prod.mk.inj h
        exact ⟨_, FileTree.read_put_of_openNew hopen _, Except.ok.inj hsize⟩

/-- What an action that succeeds reports. -/
theorem Action.effect_ok {done : Summary} (h : (a.effect run cwd world).1 = .ok done) :
    done = ⟨1, a.command?.toList.length, a.recordIn cwd (a.effect run cwd world).2.1⟩ := by
  have hsettle : ∀ (path : LocalPath) (out : FileTree.Outcome) (s : Session σ),
      (settle s path out).1 = .ok done → done = ⟨1, 0, []⟩ := by
    rintro path ⟨_ | _, tree⟩ s hok
    · cases hok
    · exact (Except.ok.inj hok).symm
  unfold effect at h ⊢
  cases a with
  | resetDir path => exact hsettle _ _ _ h
  | createDir path => exact hsettle _ _ _ h
  | exec command =>
    simp only [apply] at h
    split at h
    · exact (Except.ok.inj h).symm
    · cases h
  | copyFile source dest =>
    simp only [apply_copyFile] at h
    split at h
    · exact (Except.ok.inj h).symm
    · cases h
  | archive source entry dest =>
    simp only [apply, FileTree.pack_eq] at h ⊢
    split at h
    · rename_i size tree hwritten
      obtain ⟨contents, hread, hsize⟩ := FileTree.read_of_writeArchive hwritten
      obtain rfl := (Except.ok.inj h).symm
      simp [recordIn, FileTree.read_eq, hread, hsize, record, command?]
    · cases h
  | writeFile path contents =>
    simp only [apply, FileTree.fileSystem_writeWithDirs] at h
    split at h
    · exact (Except.ok.inj h).symm
    · cases h

/-- What a run to the end reports. -/
theorem execute_summary {done : Summary} {last : Session σ}
    (h : execute run cwd actions s = (.ok done, last)) :
    done = summaryOf run cwd actions (s.tree, s.state) := by
  induction actions generalizing s done last with
  | nil => cases h; rfl
  | cons a rest ih =>
    rcases execute_cons_cases run cwd a rest s with
      ⟨left, hrun, -⟩ | ⟨error, left, hrun, -⟩ |
        ⟨one, left, result, final, hone, hworld, hrest, hrun⟩
    · rw [hrun] at h
      cases h
    · rw [hrun] at h
      cases h
    · rw [hrun] at h
      cases result with
      | error stop => cases h
      | ok more =>
        obtain rfl : one ++ more = done := by simpa [endAfter] using congrArg Prod.fst h
        rw [Action.effect_ok hone, ih hrest, hworld, Summary.append_def]
        cases hc : a.command? <;> simp [summaryOf, recordsOf, hc, Nat.add_comm]

end Trees

/-- What an action that succeeds reports, whatever the file system: itself, its command and
its archive. -/
theorem Action.effect_counts {done : Summary} (h : (a.effect run cwd world).1 = .ok done) :
    done.actions = 1 ∧ done.commands = a.command?.toList.length ∧
      done.archives.map ArchiveRecord.path = a.archiveDest?.toList := by
  have hsettle : ∀ (path : LocalPath) (out : Except Fault Unit × τ) (s : Session σ τ),
      (settle s path out).1 = .ok done → done = ⟨1, 0, []⟩ := by
    rintro path ⟨_ | _, tree⟩ s hok
    · cases hok
    · exact (Except.ok.inj hok).symm
  unfold effect at h
  cases a with
  | resetDir path => simp [hsettle _ _ _ h, command?, archiveDest?]
  | createDir path => simp [hsettle _ _ _ h, command?, archiveDest?]
  | copyFile source dest => simp [hsettle _ _ _ h, command?, archiveDest?]
  | exec command =>
    simp only [apply] at h
    split at h
    · obtain rfl := (Except.ok.inj h).symm
      simp [record, command?, archiveDest?]
    · cases h
  | archive source entry dest =>
    simp only [apply] at h
    split at h
    · obtain rfl := (Except.ok.inj h).symm
      simp [record, command?, archiveDest?]
    · cases h
  | writeFile path contents =>
    simp only [apply] at h
    split at h
    · obtain rfl := (Except.ok.inj h).symm
      simp [record, command?, archiveDest?]
    · cases h

/-- What a run to the end reports, whatever the file system: its actions, their commands and
where their archives are. -/
theorem execute_counts {done : Summary} {last : Session σ τ}
    (h : execute run cwd actions s = (.ok done, last)) :
    done.actions = actions.length ∧
      done.commands = (actions.filterMap Action.command?).length ∧
      done.archives.map ArchiveRecord.path = archiveDests actions := by
  induction actions generalizing s done last with
  | nil =>
    obtain rfl : Summary.empty = done := Except.ok.inj (congrArg Prod.fst h)
    exact ⟨rfl, rfl, rfl⟩
  | cons a rest ih =>
    rcases execute_cons_cases run cwd a rest s with
      ⟨left, hrun, -⟩ | ⟨error, left, hrun, -⟩ |
        ⟨one, left, result, final, hone, hworld, hrest, hrun⟩
    · cases congrArg Prod.fst (hrun.symm.trans h)
    · cases congrArg Prod.fst (hrun.symm.trans h)
    · rw [hrun] at h
      cases result with
      | error later => cases congrArg Prod.fst h
      | ok more =>
        obtain rfl : one ++ more = done := by simpa [endAfter] using congrArg Prod.fst h
        obtain ⟨hactions, hcommands, harchives⟩ := Action.effect_counts hone
        obtain ⟨hmore, hmore', hmore''⟩ := ih hrest
        refine ⟨?_, ?_, ?_⟩
        · simp [Summary.append_def, hactions, hmore, Nat.add_comm]
        · cases hc : a.command? <;> simp [Summary.append_def, hcommands, hmore', hc, Nat.add_comm]
        · rw [archiveDests] at hmore'' ⊢
          cases hc : a.archiveDest? <;> simp [Summary.append_def, harchives, hmore'', hc]

/-! ## §4 The commands -/

/-- A runner that notes each command it is handed, in order, and does with it what
another does. -/
def Runner.recording (run : Runner σ τ) : Runner (σ × List CommandLine) τ :=
  fun command state t =>
    let ran := run command state.1 t
    ⟨ran.result, (ran.state, state.2 ++ [command]), ran.tree, ran.diagnosis⟩

/-- Noting changes nothing of what an action does. -/
theorem Action.effect_recording (a : Action) (tree : τ) (state : σ)
    (log : List CommandLine) :
    a.effect run.recording cwd (tree, state, log) =
      ((a.effect run cwd (tree, state)).1, (a.effect run cwd (tree, state)).2.1,
        (a.effect run cwd (tree, state)).2.2, log ++ a.command?.toList) := by
  unfold effect
  cases a with
  | resetDir path => simp [apply, Session.start, command?]
  | createDir path => simp [apply, Session.start, command?]
  | exec command =>
    simp only [apply, Session.start, Runner.recording, command?]
    rcases run command state tree with ⟨_ | _, left, after, diagnosis⟩ <;> simp
  | copyFile source dest => simp [apply, Session.start, command?]
  | archive source entry dest =>
    simp only [apply, Session.start, command?]
    rcases FileSystem.pack tree cwd source entry dest with ⟨_ | _, left⟩ <;> simp
  | writeFile path contents =>
    simp only [apply, Session.start, command?]
    rcases FileSystem.writeWithDirs tree cwd path (.ofText contents) with ⟨_ | _, left⟩ <;> simp

/-- What is noted while actions are carried out: the commands among them. -/
theorem effects_recording (actions : List Action) (tree : τ) (state : σ)
    (log : List CommandLine) :
    effects run.recording cwd actions (tree, state, log) =
      ((effects run cwd actions (tree, state)).1, (effects run cwd actions (tree, state)).2,
        log ++ actions.filterMap Action.command?) := by
  induction actions generalizing tree state log with
  | nil => simp [effects]
  | cons a rest ih =>
    rw [effects_cons, effects_cons, Action.effect_recording, ih]
    cases hc : a.command? <;> simp [hc]

/-- Noting makes no run stop elsewhere. -/
theorem stopAt_recording (actions : List Action) (tree : τ) (state : σ)
    (log : List CommandLine) (room : Option Nat) :
    stopAt run.recording cwd actions (tree, state, log) room =
      stopAt run cwd actions (tree, state) room := by
  funext place
  simp only [stopAt, effects_recording, Action.effect_recording]

theorem firstStop_recording (actions : List Action) (tree : τ) (state : σ)
    (log : List CommandLine) (room : Option Nat) :
    firstStop run.recording cwd actions (tree, state, log) room =
      firstStop run cwd actions (tree, state) room := by
  rw [firstStop, firstStop, stopAt_recording]

/-- Noting changes nothing of what a run reports. -/
theorem summaryOf_recording (actions : List Action) (tree : τ) (state : σ)
    (log : List CommandLine) :
    summaryOf run.recording cwd actions (tree, state, log) =
      summaryOf run cwd actions (tree, state) := by
  have hrecords : recordsOf run.recording cwd actions (tree, state, log) =
      recordsOf run cwd actions (tree, state) := by
    induction actions generalizing tree state log with
    | nil => rfl
    | cons a rest ih =>
      simp only [recordsOf, Action.effect_recording]
      rw [ih]
  rw [summaryOf, summaryOf, hrecords]

/-! ## §5 Together -/

/-- The actions that a run starts which stops there, or nowhere. -/
def begunBy (actions : List Action) : Option Stopped → List Action
  | some stop => actions.take stop.begun
  | none => actions

/-- How a run ends that stops there, or nowhere. -/
def endOf (run : Runner σ τ) (cwd : Location) (actions : List Action) (world : τ × σ) :
    Option Stopped → Except Stopped Summary
  | some stop => .error stop
  | none => .ok (summaryOf run cwd actions world)

/-- A run stops where it first has to, and leaves what the actions do that it has
started. -/
theorem execute_stops (run : Runner σ τ) (cwd : Location) (actions : List Action)
    (s : Session σ τ) :
    ∃ result last, execute run cwd actions s = (result, last) ∧
      Leaves run cwd actions
        (begunBy actions (firstStop run cwd actions (s.tree, s.state) s.room)) s last ∧
      match firstStop run cwd actions (s.tree, s.state) s.room with
      | some stop => result = .error stop
      | none => ∃ done, result = .ok done := by
  cases hstop : firstStop run cwd actions (s.tree, s.state) s.room with
  | some stop =>
    obtain ⟨place, hplace, hbefore⟩ := firstStop_eq_some hstop
    obtain ⟨last, hrun, hleaves⟩ := execute_of_stop hplace hbefore
    exact ⟨_, last, hrun, hleaves, rfl⟩
  | none =>
    obtain ⟨done, last, hrun, hleaves⟩ := execute_of_no_stop (firstStop_eq_none hstop)
    exact ⟨_, last, hrun, hleaves, done, rfl⟩

/-- On a file tree, what is reported is what is there in the end. -/
theorem execute_eq (run : Runner σ) (cwd : Location) (actions : List Action) (s : Session σ) :
    ∃ last, execute run cwd actions s =
        (endOf run cwd actions (s.tree, s.state)
          (firstStop run cwd actions (s.tree, s.state) s.room), last) ∧
      Leaves run cwd actions
        (begunBy actions (firstStop run cwd actions (s.tree, s.state) s.room)) s last := by
  obtain ⟨result, last, hrun, hleaves, hresult⟩ := execute_stops run cwd actions s
  refine ⟨last, ?_, hleaves⟩
  cases hstop : firstStop run cwd actions (s.tree, s.state) s.room with
  | some stop =>
    rw [hstop] at hresult
    rw [hrun, hresult]
    rfl
  | none =>
    rw [hstop] at hresult
    obtain ⟨done, rfl⟩ := hresult
    rw [hrun, execute_summary hrun]
    rfl

/-- **The first failure ends a run, and exactly there.** Let `begun` be the actions
before the first place at which the echo or the action fails, and the action there
if it was echoed. The files and the runner are left as `begun` leaves them; the
echo has taken a beginning of all lines with the lines of `begun` whole; the
runner was handed the commands among `begun`, in order. Without such a place every
action is done and counted. -/
theorem execute_ends_at_first_failure (run : Runner σ) (cwd : Location) (actions : List Action)
    (tree : FileTree) (state : σ) (room : Option Nat) :
    let stop := firstStop run cwd actions (tree, state) room
    let result := endOf run cwd actions (tree, state) stop
    let begun := begunBy actions stop
    ∃ last noted,
      execute run cwd actions (.start tree state room) = (result, last) ∧
      (last.tree, last.state) = effects run cwd begun (tree, state) ∧
      last.echoed <+: echoText actions ∧ echoText begun <+: last.echoed ∧
      execute run.recording cwd actions (.start tree (state, []) room) = (result, noted) ∧
      noted.tree = last.tree ∧
      noted.state = (last.state, begun.filterMap Action.command?) := by
  intro stop result begun
  obtain ⟨last, hrun, hworld, told, htold, hpre, hsuf⟩ :=
    execute_eq run cwd actions (.start tree state room)
  obtain ⟨noted, hnoted, hlog, -⟩ :=
    execute_eq run.recording cwd actions (.start tree (state, []) room)
  rw [Session.echoed_start, List.nil_append] at htold
  simp only [Session.start, firstStop_recording, effects_recording, List.nil_append] at hlog
  have hresult : endOf run.recording cwd actions (tree, state, []) stop = result := by
    cases h : stop <;> simp [result, endOf, h, summaryOf_recording]
  refine ⟨last, noted, hrun, hworld, htold ▸ hpre, htold ▸ hsuf, ?_, ?_, ?_⟩
  · rw [hnoted, Session.start, firstStop_recording, hresult]
  · have htree := congrArg Prod.fst hlog
    exact htree.trans (congrArg Prod.fst hworld).symm
  · have hstate := congrArg Prod.snd hlog
    rw [show last.state = _ from congrArg Prod.snd hworld]
    exact hstate

end ReleaseKit
