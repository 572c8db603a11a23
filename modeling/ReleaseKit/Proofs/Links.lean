/-
ReleaseKit.Proofs.Links — disks without links.

A release asks the same of every file system. If one is found in another one, and each operation
does the same in both, then so does a run of actions and so does the whole program
(`execute_embedded`, `Program.run_embedded`). A file tree is a tree with links that has none
(`LinkedTree.embedding_ofTree`). So what is known of releases on file trees is known of releases
on disks without links (`execute_without_links`, `Program.run_without_links`).

  §1 Embeddings       — one file system in another.
  §2 Runs             — what an embedding makes of a run and of the program.
  §3 Without links    — a file tree among the trees with links.
-/
import ReleaseKit.LinkedTree
import ReleaseKit.Program

namespace ReleaseKit

variable {σ τ υ : Type}

/-! ## §1 Embeddings -/

/-- One file system in another: the operations do the same in both. -/
structure FileSystem.Embedding [FileSystem τ] [FileSystem υ] (f : τ → υ) : Prop where
  read : ∀ t cwd p, FileSystem.read (f t) cwd p = FileSystem.read t cwd p
  makeDirs : ∀ t cwd p, FileSystem.makeDirs (f t) cwd p = (FileSystem.makeDirs t cwd p).map id f
  removeDir : ∀ t cwd p, FileSystem.removeDir (f t) cwd p = (FileSystem.removeDir t cwd p).map id f
  writeFile : ∀ t cwd p contents, FileSystem.writeFile (f t) cwd p contents =
    (FileSystem.writeFile t cwd p contents).map id f
  copyFile : ∀ t cwd source dest, FileSystem.copyFile (f t) cwd source dest =
    (FileSystem.copyFile t cwd source dest).map id f
  pack : ∀ t cwd source entry dest, FileSystem.pack (f t) cwd source entry dest =
    (FileSystem.pack t cwd source entry dest).map id f

def Session.map (f : τ → υ) (s : Session σ τ) : Session σ υ :=
  ⟨f s.tree, s.state, s.transcript, s.room⟩

def Ran.map (f : τ → υ) (r : Ran σ τ) : Ran σ υ := ⟨r.result, r.state, f r.tree, r.diagnosis⟩

def Outcome.map (f : τ → υ) (o : Outcome σ τ) : Outcome σ υ :=
  ⟨o.code, o.stdout, o.notices, f o.tree, o.state⟩

theorem Session.echo_map (f : τ → υ) (s : Session σ τ) (bytes : List UInt8) :
    (s.map f).echo bytes = (s.echo bytes).map id (.map f) := by
  simp only [Session.echo, Session.map]
  cases s.room with
  | none => rfl
  | some room =>
    dsimp only
    split <;> rfl

theorem Program.dryRun_map (f : τ → υ) (a : Arguments) (c : Config) (t : τ) (state : σ) :
    dryRun a c (f t) state = (dryRun a c t state).map f := by
  simp only [dryRun]
  cases a.output with
  | json =>
    dsimp only
    cases Report.planJson a.step c (a.step.plan c) <;> rfl
  | text =>
    dsimp only
    split <;> rfl

/-- A runner that does in one file system what another one does in the file system that is
embedded there. -/
def Runner.Follows (follower : Runner σ υ) (run : Runner σ τ) (f : τ → υ) : Prop :=
  ∀ command state t, follower command state (f t) = (run command state t).map f

namespace FileSystem.Embedding

variable [FileSystem τ] [FileSystem υ] {f : τ → υ}

theorem readText (h : Embedding f) (t : τ) (cwd : Location) (p : LocalPath) :
    FileSystem.readText (f t) cwd p = FileSystem.readText t cwd p := by
  rw [FileSystem.readText, FileSystem.readText, h.read]

theorem resetDir (h : Embedding f) (t : τ) (cwd : Location) (p : LocalPath) :
    FileSystem.resetDir (f t) cwd p = (FileSystem.resetDir t cwd p).map id f := by
  simp only [FileSystem.resetDir, h.removeDir]
  rcases FileSystem.removeDir t cwd p with ⟨fault | -, left⟩
  · cases fault with
    | absent => exact h.makeDirs left cwd p
    | _ => rfl
  · exact h.makeDirs left cwd p

theorem writeWithDirs (h : Embedding f) (t : τ) (cwd : Location) (p : LocalPath)
    (contents : Contents) :
    FileSystem.writeWithDirs (f t) cwd p contents =
      (FileSystem.writeWithDirs t cwd p contents).map id f := by
  have hwrite : ∀ t : τ, FileSystem.writeWithDirs.write cwd p contents (f t) =
      (FileSystem.writeWithDirs.write cwd p contents t).map id f := by
    intro t
    simp only [FileSystem.writeWithDirs.write, h.writeFile]
    rcases FileSystem.writeFile t cwd p contents with ⟨fault | -, left⟩ <;> rfl
  simp only [FileSystem.writeWithDirs, hwrite, h.makeDirs]
  cases p.parent with
  | none => rfl
  | some parent =>
    dsimp only
    split
    · rfl
    · rcases FileSystem.makeDirs t cwd parent with ⟨fault | -, left⟩
      · rfl
      · exact hwrite left

end FileSystem.Embedding

/-! ## §2 Runs -/

section Runs

variable [FileSystem τ] [FileSystem υ] {f : τ → υ} {run : Runner σ τ} {follower : Runner σ υ}

/-- What an action does in the file system that is embedded, it does in the other one. -/
theorem Action.apply_embedded (h : FileSystem.Embedding f) (hrun : follower.Follows run f)
    (cwd : Location) (a : Action) (s : Session σ τ) :
    a.apply follower cwd (s.map f) = (a.apply run cwd s).map id (.map f) := by
  have hsettle : ∀ (path : LocalPath) (out : Except Fault Unit × τ),
      settle (s.map f) path (out.map id f) = (settle s path out).map id (.map f) := by
    rintro path ⟨_ | _, left⟩ <;> rfl
  cases a with
  | resetDir path => exact (congrArg _ (h.resetDir s.tree cwd path)).trans (hsettle path _)
  | createDir path => exact (congrArg _ (h.makeDirs s.tree cwd path)).trans (hsettle path _)
  | exec command =>
    have hran : follower command (s.map f).state (s.map f).tree =
        (run command s.state s.tree).map f := hrun command s.state s.tree
    simp only [apply, hran, Ran.map]
    cases (run command s.state s.tree).result <;> rfl
  | copyFile source dest =>
    exact (congrArg _ (h.copyFile s.tree cwd source dest)).trans (hsettle source _)
  | archive source entry dest =>
    have hpack := h.pack s.tree cwd source entry dest
    simp only [apply, Session.map] at hpack ⊢
    rw [hpack]
    rcases FileSystem.pack s.tree cwd source entry dest with ⟨_ | _, left⟩ <;> rfl
  | writeFile path contents =>
    have hwrite := h.writeWithDirs s.tree cwd path (.ofText contents)
    simp only [apply, Session.map] at hwrite ⊢
    rw [hwrite]
    rcases FileSystem.writeWithDirs s.tree cwd path (.ofText contents) with ⟨_ | _, left⟩ <;> rfl

theorem Action.perform_embedded (h : FileSystem.Embedding f) (hrun : follower.Follows run f)
    (cwd : Location) (a : Action) (s : Session σ τ) :
    a.perform follower cwd (s.map f) = (a.perform run cwd s).map id (.map f) := by
  rw [perform, perform, Session.echo_map]
  rcases s.echo a.echoLine with ⟨_ | _, told⟩
  · rfl
  · dsimp only [Prod.map, id]
    rw [apply_embedded h hrun]
    rcases a.apply run cwd told with ⟨_ | _, left⟩ <;> rfl

/-- **A run of actions does the same in both file systems.** The induction is on the actions. -/
theorem execute_embedded (h : FileSystem.Embedding f) (hrun : follower.Follows run f)
    (cwd : Location) (actions : List Action) (s : Session σ τ) :
    execute follower cwd actions (s.map f) = (execute run cwd actions s).map id (.map f) := by
  induction actions generalizing s with
  | nil => rfl
  | cons a rest ih =>
    rw [execute, execute, Action.perform_embedded h hrun]
    rcases a.perform run cwd s with ⟨_ | done, left⟩
    · rfl
    · dsimp only [Prod.map, id]
      rw [ih]
      rcases execute run cwd rest left with ⟨_ | more, last⟩ <;> rfl

namespace Program

theorem configure_embedded (h : FileSystem.Embedding f) (vars : String → Option ByteArray) (t : τ)
    (cwd : Location) (a : Arguments) : configure vars (f t) cwd a = configure vars t cwd a := by
  have hload : ∀ path, Manifest.load (f t) cwd path = Manifest.load t cwd path := fun path => by
    rw [Manifest.load, Manifest.load, h.readText]
  simp only [configure, hload]

theorem release_embedded (h : FileSystem.Embedding f) (hrun : follower.Follows run f)
    (cwd : Location) (elapsed : Duration) (a : Arguments) (c : Config) (t : τ) (state : σ) :
    release follower cwd elapsed a c (f t) state = (release run cwd elapsed a c t state).map f := by
  have hexecute : execute follower cwd (a.step.plan c) (.start (f t) state none) = _ :=
    execute_embedded h hrun cwd (a.step.plan c) (.start t state none)
  simp only [release, hexecute]
  rcases execute run cwd (a.step.plan c) (.start t state none) with ⟨stop | summary, left⟩
  · rfl
  · dsimp only [Prod.map, id]
    cases a.output with
    | text => rfl
    | json =>
      dsimp only
      cases Report.releaseJson a.step c summary elapsed <;> rfl

/-- **The program does the same in both file systems.** -/
theorem run_embedded (h : FileSystem.Embedding f) (hrun : follower.Follows run f) (cwd : Location)
    (vars : String → Option ByteArray) (elapsed : Duration) (args : List OsText) (t : τ) (state : σ) :
    Program.run follower cwd vars elapsed args (f t) state =
      (Program.run run cwd vars elapsed args t state).map f := by
  unfold Program.run
  split
  · rfl
  · rfl
  · rfl
  · rename_i a _
    rw [configure_embedded h]
    cases configure vars t cwd a with
    | error complaint => rfl
    | ok config =>
      dsimp only
      split
      · exact dryRun_map f a config t state
      · exact release_embedded h hrun cwd elapsed a config t state

end Program

end Runs

/-! ## §3 Without links -/

namespace LinkedTree

variable (t : FileTree) (cwd : Location)

@[simp] theorem link?_ofTree (l : Location) : (ofTree t).link? l = none := by
  unfold link?
  split <;> rfl

theorem firstLink?_ofTree (keepLast : Bool) (here : Location) (pieces : List String) :
    (ofTree t).firstLink? keepLast here pieces = none := by
  induction pieces generalizing here with
  | nil => rfl
  | cons piece rest ih =>
    unfold firstLink?
    split
    · cases FileTree.stepTo here piece with
      | error fault => rfl
      | ok there => simp [ih]
    · rfl

theorem expand_ofTree (keepLast : Bool) (budget : Nat) (p : LocalPath) :
    (ofTree t).expand keepLast budget cwd p = .ok p := by
  cases budget <;> simp [expand, firstLink?_ofTree]

@[simp] theorem through_ofTree (p : LocalPath) : (ofTree t).through cwd p = .ok p :=
  expand_ofTree t cwd false linkLimit p

@[simp] theorem upTo_ofTree (p : LocalPath) : (ofTree t).upTo cwd p = .ok p :=
  expand_ofTree t cwd true linkLimit p

@[simp] theorem endLink?_ofTree (p : LocalPath) : (ofTree t).endLink? cwd p = none := by
  unfold endLink?
  split
  · simp
  · rfl

theorem makeDir_ofTree (p : LocalPath) :
    (ofTree t).makeDir cwd p = (t.makeDir cwd p).map ofTree := by
  simp only [makeDir, upTo_ofTree, endLink?_ofTree]
  rfl

theorem isDir_ofTree (p : LocalPath) : (ofTree t).isDir cwd p = t.isDir cwd p := by
  simp only [isDir, through_ofTree]
  rfl

theorem makeDirsWith_ofTree (paths : List LocalPath) :
    FileSystem.makeDirsWith (·.makeDir cwd) (·.isDir cwd) paths (ofTree t) =
      (FileTree.makeDirsOf cwd paths t).map id ofTree := by
  induction paths generalizing t with
  | nil => rfl
  | cons p above ih =>
    rw [FileSystem.makeDirsWith, FileTree.makeDirsOf_cons, makeDir_ofTree, isDir_ofTree, ih]
    split
    · rfl
    · cases t.makeDir cwd p with
      | ok made => rfl
      | error fault =>
        cases fault with
        | absent =>
          rcases FileTree.makeDirsOf cwd above t with ⟨fault | -, left⟩
          · rfl
          · dsimp only [Except.map, Prod.map, id]
            rw [makeDir_ofTree, isDir_ofTree]
            cases left.makeDir cwd p <;> rfl
        | _ => rfl

theorem removeDir_ofTree (p : LocalPath) :
    (ofTree t).removeDir cwd p = (t.removeDir cwd p).map id ofTree := by
  have hbelow : (ofTree t).dropBelow cwd p = ofTree t := by
    unfold dropBelow
    split <;> rfl
  simp only [removeDir, upTo_ofTree, endLink?_ofTree, hbelow]
  rfl

theorem copyFile_ofTree (source dest : LocalPath) :
    (ofTree t).copyFile cwd source dest = (t.settled (t.copyFile cwd source dest)).map id ofTree := by
  simp only [copyFile, through_ofTree]
  change (ofTree t).settled (t.copyFile cwd source dest) = _
  cases t.copyFile cwd source dest <;> rfl

/-- **A file tree is a tree with links that has none.** -/
theorem embedding_ofTree : FileSystem.Embedding ofTree where
  read t cwd p := by
    change (ofTree t).read cwd p = t.read cwd p
    simp only [read, through_ofTree]
    rfl
  makeDirs t cwd p := makeDirsWith_ofTree t cwd p.ancestors
  removeDir := removeDir_ofTree
  writeFile t cwd p contents := by
    change (ofTree t).writeFile cwd p contents = _
    simp only [writeFile, through_ofTree]
    change (ofTree t).settled (t.writeFile cwd p contents) =
      (t.settled (t.writeFile cwd p contents)).map id ofTree
    cases t.writeFile cwd p contents <;> rfl
  copyFile := copyFile_ofTree
  pack t cwd source entry dest := by
    change (ofTree t).pack cwd source entry dest = (t.writeArchive cwd source entry dest).map id ofTree
    simp only [pack, through_ofTree]
    rfl

end LinkedTree

/-- A runner among links. It works on the files and directories, and leaves links as they are. -/
def Runner.amongLinks (run : Runner σ) : Runner σ LinkedTree := fun command state t =>
  (run command state t.tree).map t.withTree

theorem Runner.amongLinks_follows (run : Runner σ) :
    run.amongLinks.Follows run LinkedTree.ofTree := fun _ _ _ => rfl

/-- **Where there are no links, a run of actions is that on the file tree.** -/
theorem execute_without_links (run : Runner σ) (cwd : Location) (actions : List Action)
    (s : Session σ) :
    execute run.amongLinks cwd actions (s.map .ofTree) =
      (execute run cwd actions s).map id (.map .ofTree) :=
  execute_embedded LinkedTree.embedding_ofTree run.amongLinks_follows cwd actions s

/-- **Where there are no links, the program does what it does on the file tree.** -/
theorem Program.run_without_links (run : Runner σ) (cwd : Location)
    (vars : String → Option ByteArray) (elapsed : Duration) (args : List OsText) (t : FileTree)
    (state : σ) :
    Program.run run.amongLinks cwd vars elapsed args (.ofTree t) state =
      (Program.run run cwd vars elapsed args t state).map .ofTree :=
  run_embedded LinkedTree.embedding_ofTree run.amongLinks_follows cwd vars elapsed args t state

end ReleaseKit
