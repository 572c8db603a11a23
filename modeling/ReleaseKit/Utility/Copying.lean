/-
ReleaseKit.Utility.Copying — programs that copy and move files.

  §1 Targets  — where each source goes.
  §2 Copying  — `cp`.
  §3 Moving   — `mv`.
  §4 Placing  — `install`.
-/
import ReleaseKit.Utility.Files

namespace ReleaseKit.Utility

/-! ## §1 Targets -/

/-- The sources and where each of them goes. With more than one source, or a target
that is a directory, they go into it under their own names. -/
def targets (call : Call) (dir? : Option String) (single : Bool) (operands : List String) :
    Task (Except Nat (List (String × String))) := do
  let into (dir : String) (sources : List String) : List (String × String) :=
    sources.map fun s => (s, Loading.inDirectory dir (lastPiece s))
  match dir?, operands with
  | _, [] => return .error (← call.usage "missing file operand")
  | some dir, sources =>
    if ← Task.isDirAt dir then return .ok (into dir sources)
    else
      return .error (← call.fail
        ("target directory " ++ Quotes.always dir ++ ": No such file or directory"))
  | none, [one] =>
    return .error (← call.usage ("missing destination file operand after " ++ Quotes.always one))
  | none, operands =>
    let last := operands.getLastD ""
    let sources := operands.dropLast
    if single then
      match sources with
      | [source] => return .ok [(source, last)]
      | _ => return .error (← call.usage ("extra operand " ++ Quotes.always ((operands[2]?).getD "")))
    else if ← Task.isDirAt last then return .ok (into last sources)
    else if 1 < sources.length then
      let why := if (← Task.entryAt last false).isSome then "Not a directory"
        else "No such file or directory"
      return .error (← call.fail ("target " ++ Quotes.always last ++ ": " ++ why))
    else return .ok [(sources.headD "", last)]

/-! ## §2 Copying -/

/-- How `cp` copies. -/
structure CopyStyle where
  recursive : Bool
  /-- links are copied as what they lead to -/
  follows : Bool
  keepsMode : Bool
  keepsTime : Bool
  forces : Bool
  spares : Bool
  updates : Bool
  shows : Bool
  linksHard : Bool
  linksSoft : Bool

/-- Tells what is copied where. -/
def showCopy (s : CopyStyle) (source dest : String) : Task Unit := do
  if s.shows then Task.say (Quotes.always source ++ " -> " ++ Quotes.always dest ++ "\n")

/-- Gives a copy the permissions and the time of what it is a copy of. -/
def copyMarks (s : CopyStyle) (from? : Option Entry) (dest : String) : Task Unit := do
  match from?, ← Task.entryAt dest false with
  | some e, some (l, _) =>
    let d ← Task.disk
    let d := if s.keepsMode then d.chmod l (d.modeOf e) else d
    Task.setDisk (if s.keepsTime then d.stamp l (d.timeOf e) else d)
  | _, _ => return ()

/-- Copies one file that is no directory. -/
def copyFile (call : Call) (s : CopyStyle) (source dest : String) (e : Entry) : Task Nat := do
  let w ← get
  match e with
  | .link target =>
    if w.disk.find true w.self.cwd dest |>.toOption |>.isSome then
      let _ ← Task.change fun d cwd => d.unlink cwd dest
    match ← Task.change fun d cwd => d.symlink cwd target dest with
    | .ok () =>
      showCopy s source dest
      return 0
    | .error fault =>
      call.fail ("cannot create symbolic link " ++ Quotes.always dest ++ ": " ++ fault.reason)
  | _ =>
    if s.linksHard || s.linksSoft then
      if s.forces then
        let _ ← Task.change fun d cwd => d.unlink cwd dest
      let made ← Task.change fun d cwd =>
        if s.linksHard then d.hardLink cwd source dest else d.symlink cwd source dest
      match made with
      | .ok () =>
        showCopy s source dest
        return 0
      | .error fault =>
        call.fail ("cannot create " ++ (if s.linksHard then "hard" else "symbolic") ++ " link " ++
          Quotes.always dest ++ " to " ++ Quotes.always source ++ ": " ++ fault.reason)
    else
      let existed ← Task.entryAt dest true
      let dangling := (existed.map (·.2.isLink)).getD false && (← Task.entryAt dest false).isNone
      if dangling then
        if s.forces then
          let _ ← Task.change fun d cwd => d.unlink cwd dest
        else
          return ← call.fail ("not writing through dangling symlink " ++ Quotes.always dest)
      match ← call.readFile (if source = "-" then "./-" else source) with
      | .error fault =>
        call.fail ("cannot open " ++ Quotes.always source ++ " for reading: " ++ fault.reason)
      | .ok text =>
        match ← Task.openPath dest .writing with
        | .error fault =>
          let why := if dest.endsWith "/" && fault == .isDirectory then Fault.notDirectory else fault
          call.fail ("cannot create regular file " ++ Quotes.always dest ++ ": " ++ why.reason)
        | .ok index =>
          Task.assign 99 index
          let _ ← Task.write 99 text
          Task.close 99
          if existed.isNone || dangling then
            match ← Task.entryAt dest false with
            | some (l, _) =>
              let d ← Task.disk
              let mode := d.modeOf e % 512
              Task.setDisk (d.chmod l (mode - (mode &&& w.self.umask)))
            | none => pure ()
          copyMarks s (some e) dest
          showCopy s source dest
          return 0

/-- Whether two paths lead to the same thing. -/
def sameThing (a b : String) : Task Bool := do
  match ← Task.entryAt a false, ← Task.entryAt b false with
  | some (l, e), some (m, f) =>
    return l == m || (match e, f with
      | .file i, .file j => i == j
      | _, _ => false)
  | _, _ => return false

/-- Copies what a path leads to. `top` says that the path was asked for; `made` holds the
directories that this copy has made. -/
def copyTree (call : Call) (s : CopyStyle) : Nat → Bool → List Location → String → String → Task Nat
  | 0, _, _, _, _ => return 1
  | fuel + 1, top, made, source, dest => do
    let w ← get
    match w.disk.find (s.recursive && !s.follows) w.self.cwd source with
    | .error fault => call.fail ("cannot stat " ++ Quotes.always source ++ ": " ++ fault.reason)
    | .ok (l, e) =>
      let there := (w.disk.find false w.self.cwd dest).toOption
      let destDir := (there.map (·.2.isDir)).getD false
      if e.isDir then
        if !s.recursive then
          call.fail ("-r not specified; omitting directory " ++ Quotes.always source)
        else if made.contains l then
          call.fail ("cannot copy a directory, " ++ Quotes.always source ++ ", into itself, " ++
            Quotes.always dest)
        else if there.isSome && !destDir then
          call.fail ("cannot overwrite non-directory " ++ Quotes.always dest ++ " with directory " ++
            Quotes.always source)
        else
          let inside := match w.disk.resolve false w.self.cwd (Disk.bare dest) with
            | .ok m => Location.within l m
            | .error _ => false
          let children := w.disk.children l
          let mode := w.disk.modeOf e
          let made? ←
            if destDir then pure (.ok ())
            else Task.change fun d cwd =>
              d.makeDir cwd dest ((mode - (mode &&& w.self.umask)) ||| 0o300)
          match made? with
          | .error fault =>
            call.fail ("cannot create directory " ++ Quotes.always dest ++ ": " ++ fault.reason)
          | .ok () =>
            if !destDir then showCopy s source dest
            let here ← Task.entryAt dest false
            let known := made ++ (here.map (·.1)).toList
            let mut code := 0
            for (name, _) in children do
              let old := Loading.inDirectory source (Raw.ofName name)
              let new := Loading.inDirectory dest (Raw.ofName name)
              let child ← Task.entryAt old true
              if (child.map fun (m, _) => known.contains m).getD false then
                call.say ("cannot copy a directory, " ++ Quotes.always source ++ ", into itself, " ++
                  Quotes.always dest)
                code := 1
              else
                let one ← copyTree call s fuel false known old new
                code := max code one
            if inside && top && code = 0 then
              code ← call.fail ("cannot copy a directory, " ++ Quotes.always source ++
                ", into itself, " ++ Quotes.always dest)
            if !destDir then copyMarks s (some e) dest
            return code
      else if destDir then
        call.fail ("cannot overwrite directory " ++ Quotes.always dest ++ " with non-directory" ++
          (if top then "" else " " ++ Quotes.always source))
      else if (← sameThing source dest) && !(s.linksHard && s.forces) then
        if s.spares then return 0
        else if s.linksHard then return 0
        else
          call.fail (Quotes.always source ++ " and " ++ Quotes.always dest ++ " are the same file")
      else
        let present := (w.disk.find true w.self.cwd dest).toOption.isSome
        let older := match there with
          | some (_, f) => w.disk.timeOf e ≤ w.disk.timeOf f
          | none => false
        if present && s.spares || s.updates && older then return 0
        else copyFile call s source dest e

def cp : Utility := fun call => call.withOptions "aprRfniuvt:TlsdPLHxb\x01::\x02" [("archive", 'a'),
    ("recursive", 'r'), ("force", 'f'), ("no-clobber", 'n'), ("update", 'u'), ("verbose", 'v'),
    ("target-directory", 't'), ("no-target-directory", 'T'), ("link", 'l'), ("symbolic-link", 's'),
    ("no-dereference", 'P'), ("dereference", 'L'), ("preserve", '\x01'), ("parents", '\x02'),
    ("interactive", 'i')] 1 fun o => do
  match ← targets call (o.value? 't') (o.has 'T') o.operands with
  | .error code => return code
  | .ok pairs =>
    let style : CopyStyle := {
      recursive := o.has 'r' || o.has 'R' || o.has 'a'
      follows := o.has 'L' || (!(o.has 'r' || o.has 'R' || o.has 'a' || o.has 'd' || o.has 'P'))
      keepsMode := o.has 'p' || o.has 'a' || o.has '\x01'
      keepsTime := o.has 'p' || o.has 'a' || o.has '\x01'
      forces := o.has 'f'
      spares := o.has 'n' || o.has 'i'
      updates := o.has 'u'
      shows := o.has 'v'
      linksHard := o.has 'l'
      linksSoft := o.has 's' }
    let mut code := 0
    for (source, dest) in pairs do
      let dest ←
        if o.has '\x02' then do
          let full := Loading.inDirectory (o.operands.getLastD "") (Disk.bare source)
          let _ ← makeDirs call false none full (ancestors (directoryPart full))
          pure full
        else pure dest
      let keepsLink := (o.has 'd' || o.has 'P') && !style.recursive
      let one ←
        match ← Task.entryAt source true with
        | some (_, .link target) =>
          if keepsLink then copyFile call style source dest (.link target)
          else copyTree call style LinkedTree.deepest true [] source dest
        | _ => copyTree call style LinkedTree.deepest true [] source dest
      code := max code one
    return code

/-! ## §3 Moving -/

/-- Moves what one path leads to to another. -/
def moveOne (call : Call) (o : Options) (source dest : String) : Task Nat := do
  let w ← get
  match w.disk.find true w.self.cwd source with
  | .error fault => call.fail ("cannot stat " ++ Quotes.always source ++ ": " ++ fault.reason)
  | .ok (l, e) =>
    let there := (w.disk.find true w.self.cwd dest).toOption
    let older := match there with
      | some (_, f) => w.disk.timeOf e ≤ w.disk.timeOf f
      | none => false
    if (there.map (·.1)) == some l then
      call.fail (Quotes.always source ++ " and " ++ Quotes.always dest ++ " are the same file")
    else if there.isSome && o.has 'n' || o.has 'u' && older then return 0
    else
      let last := lastPiece source
      match there with
      | some (_, f) =>
        if f.isDir && !e.isDir then
          return ← call.fail ("cannot overwrite directory " ++ Quotes.always dest ++
            " with non-directory")
        if e.isDir && !f.isDir then
          return ← call.fail ("cannot overwrite non-directory " ++ Quotes.always dest ++
            " with directory " ++ Quotes.always source)
      | none => pure ()
      let moved ←
        if last = "." || last = ".." then pure (Except.error Fault.busy)
        else Task.change fun d cwd => d.rename cwd source dest
      match moved with
      | .ok () =>
        if o.has 'v' then
          Task.say ("renamed " ++ Quotes.always source ++ " -> " ++ Quotes.always dest ++ "\n")
        return 0
      | .error .invalid =>
        call.fail ("cannot move " ++ Quotes.always source ++ " to a subdirectory of itself, " ++
          Quotes.always dest)
      | .error fault =>
        let why := if dest.endsWith "/" && !e.isDir && fault == .absent then Fault.notDirectory
          else fault
        call.fail ("cannot move " ++ Quotes.always source ++ " to " ++ Quotes.always dest ++ ": " ++
          why.reason)

def mv : Utility := fun call => call.withOptions "finuvt:TZbS:" [("force", 'f'), ("no-clobber", 'n'),
    ("update", 'u'), ("verbose", 'v'), ("target-directory", 't'), ("no-target-directory", 'T'),
    ("interactive", 'i')] 1 fun o => do
  match ← targets call (o.value? 't') (o.has 'T') o.operands with
  | .error code => return code
  | .ok pairs =>
    let mut code := 0
    for (source, dest) in pairs do
      let one ← moveOne call o source dest
      code := max code one
    return code

/-! ## §4 Placing -/

def install : Utility := fun call => call.withOptions "dm:Dt:Tvcpo:g:sC" [("directory", 'd'),
    ("mode", 'm'), ("target-directory", 't'), ("no-target-directory", 'T'), ("verbose", 'v')] 1
    fun o => do
  let mode := ((o.value? 'm').bind (Mode.read false 0 0)).getD 0o755
  if o.has 'd' then
    let mut code := 0
    if o.operands.isEmpty then code ← call.usage "missing file operand"
    for path in o.operands do
      match ← makeDirs call (o.has 'v') (some mode) path (ancestors path) with
      | .ok () => pure ()
      | .error fault =>
        code ← call.fail ("cannot create directory " ++ Quotes.always path ++ ": " ++ fault.reason)
    return code
  else
    if o.has 'D' then
      let dir := (o.value? 't').getD (directoryPart (o.operands.getLastD ""))
      let _ ← makeDirs call false none dir (ancestors dir)
    match ← targets call (o.value? 't') (o.has 'T') o.operands with
    | .error code => return code
    | .ok pairs =>
      let style : CopyStyle :=
        ⟨false, true, false, false, true, false, false, o.has 'v', false, false⟩
      let mut code := 0
      for (source, dest) in pairs do
        if ← Task.isDirAt source then
          code ← call.fail ("omitting directory " ++ Quotes.always source)
        else if ← sameThing source dest then
          code ← call.fail
            (Quotes.always source ++ " and " ++ Quotes.always dest ++ " are the same file")
        else
          let one ← copyTree call style LinkedTree.deepest true [] source dest
          code := max code one
          match ← Task.entryAt dest false with
          | some (l, _) => if one = 0 then Task.setDisk ((← Task.disk).chmod l mode)
          | none => pure ()
      return code

end ReleaseKit.Utility
