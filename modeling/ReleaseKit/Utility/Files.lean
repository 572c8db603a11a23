/-
ReleaseKit.Utility.Files — programs that make, mark and remove files.

  §1 Directories  — `mkdir`, `rmdir`.
  §2 Removing     — `rm`, `unlink`.
  §3 Marking      — `touch`, `chmod`, `truncate`.
  §4 Links        — `ln`, `link`, `readlink`, `realpath`.
  §5 Others       — `mktemp`, `dd`.
-/
import ReleaseKit.Machine.Mode
import ReleaseKit.Utility.Columns
import ReleaseKit.Utility.Times

namespace ReleaseKit.Utility

/-! ## §1 Directories -/

/-- The paths of all directories that a path leads through, the outermost first. -/
def ancestors (path : String) : List String :=
  let pieces := (Disk.bare path).splitOn "/"
  ((List.range pieces.length).map fun i => String.intercalate "/" (pieces.take (i + 1))).filter
    (· != "")

/-- Makes a directory and those that it needs, and says so if asked. -/
def makeDirs (call : Call) (shown : Bool) (mode? : Option Nat) (path : String) :
    List String → Task (Except Fault Unit)
  | [] => return .ok ()
  | part :: rest => do
    let umask := (← get).self.umask
    let mode := if rest.isEmpty then mode?.getD (0o777 - umask) else (0o777 - umask) ||| 0o300
    match ← Task.change fun d cwd => d.makeDir cwd part mode with
    | .ok () =>
      if shown then Task.say (call.name ++ ": created directory " ++ Quotes.always part ++ "\n")
      makeDirs call shown mode? path rest
    | .error fault =>
      if ← Task.isDirAt part then makeDirs call shown mode? path rest
      else return .error (if fault == .occupied && !rest.isEmpty then .notDirectory else fault)

def mkdir : Utility := fun call => call.withOptions "pvm:Z" [("parents", 'p'), ("verbose", 'v'),
    ("mode", 'm')] 1 fun o => do
  let umask := (← get).self.umask
  let mode? := (o.value? 'm').bind (Mode.read true umask 0o777)
  if o.operands.isEmpty then call.usage "missing operand"
  else if o.has 'm' && mode?.isNone then
    call.fail ("invalid mode " ++ Quotes.always ((o.value? 'm').getD ""))
  else
    let mut code := 0
    for path in o.operands do
      let parts := if o.has 'p' && path != "" then ancestors path else [path]
      let result ←
        if o.has 'p' && path != "" then makeDirs call (o.has 'v') mode? path parts
        else do
          let made ← Task.change fun d cwd => d.makeDir cwd path (mode?.getD (0o777 - umask))
          if made.isOk && o.has 'v' then
            Task.say (call.name ++ ": created directory " ++ Quotes.always path ++ "\n")
          pure made
      match result with
      | .ok () => pure ()
      | .error fault =>
        call.say ("cannot create directory " ++ Quotes.always path ++ ": " ++ fault.reason)
        code := 1
    return code

def rmdir : Utility := fun call => call.withOptions "pv\x01" [("parents", 'p'), ("verbose", 'v'),
    ("ignore-fail-on-non-empty", '\x01')] 1 fun o => do
  if o.operands.isEmpty then call.usage "missing operand"
  else
    let mut code := 0
    for path in o.operands do
      for part in (if o.has 'p' then (ancestors path).reverse else [path]) do
        match ← Task.change fun d cwd => d.removeDir cwd part with
        | .ok () =>
          if o.has 'v' then
            Task.say (call.name ++ ": removing directory, " ++ Quotes.always part ++ "\n")
        | .error fault =>
          if !(o.has '\x01' && fault == .notEmpty) then
            call.say ("failed to remove " ++ Quotes.always part ++ ": " ++ fault.reason)
            code := 1
          break
    return code

/-! ## §2 Removing -/

/-- Removes what a location holds and all below it, and says so if asked. -/
def removeTree (shown : Bool) : Nat → String → Location → Task Unit
  | 0, _, _ => return ()
  | fuel + 1, path, l => do
    let d ← Task.disk
    let isDir := ((d.entry? l).map (·.isDir)).getD false
    for (name, _) in d.children l do
      removeTree shown fuel (Loading.inDirectory path (Raw.ofName name)) (name :: l)
    Task.setDisk ((← Task.disk).drop l)
    if shown then
      Task.say ("removed " ++ (if isDir then "directory " else "") ++ Quotes.always path ++ "\n")

/-- Removes what a path leads to; the result says why that cannot be done. -/
def removePath (o : Options) (path : String) : Task (Option String) := do
  let recursive := o.has 'r' || o.has 'R'
  let refused (fault : Fault) : Option String :=
    if o.has 'f' && (fault == .absent || fault == .notDirectory) then none
    else some ("cannot remove " ++ Quotes.always path ++ ": " ++ fault.reason)
  let w ← get
  match w.disk.find true w.self.cwd path with
  | .error fault => return refused fault
  | .ok (l, e) =>
    if e.isDir then
      let last := lastPiece path
      if recursive then
        if l = [] then return some "it is dangerous to operate recursively on '/'"
        else if last = "." || last = ".." then
          return some ("refusing to remove '.' or '..' directory: skipping " ++ Quotes.always path)
        else
          removeTree (o.has 'v') LinkedTree.deepest path l
          return none
      else if o.has 'd' then
        match ← Task.change fun d cwd => d.removeDir cwd path with
        | .ok () =>
          if o.has 'v' then Task.say ("removed directory " ++ Quotes.always path ++ "\n")
          return none
        | .error fault => return refused fault
      else return refused .isDirectory
    else
      match ← Task.change fun d cwd => d.unlink cwd path with
      | .ok () =>
        if o.has 'v' then Task.say ("removed " ++ Quotes.always path ++ "\n")
        return none
      | .error fault => return refused fault

def rm : Utility := fun call => call.withOptions "rRfdivI\x01" [("recursive", 'r'), ("force", 'f'),
    ("dir", 'd'), ("verbose", 'v'), ("interactive", 'i'), ("no-preserve-root", '\x01'),
    ("preserve-root", '\x01'), ("one-file-system", '\x01')] 1 fun o => do
  if o.operands.isEmpty then
    if o.has 'f' then return 0 else call.usage "missing operand"
  else
    let asks := (o.given.reverse.find? fun (c, _) => c == 'f' || c == 'i').map (·.1) == some 'i'
    let mut code := 0
    for path in o.operands do
      -- a question is answered by the input, which has to say yes
      let agreed ←
        if asks then do
          let answer ← Task.readLine 0 10
          pure (match answer with
            | .ok (some (line, _)) => line.startsWith "y" || line.startsWith "Y"
            | _ => false)
        else pure true
      if agreed then
        match ← removePath o path with
        | none => pure ()
        | some text =>
          call.say text
          code := 1
    return code

def unlink : Utility := fun call => call.withOptions "" [] 1 fun o => do
  match o.operands with
  | [] => call.usage "missing operand"
  | [path] =>
    match ← Task.change fun d cwd => d.unlink cwd path with
    | .ok () => return 0
    | .error fault => call.fail ("cannot unlink " ++ Quotes.always path ++ ": " ++ fault.reason)
  | _ :: extra :: _ => call.usage ("extra operand " ++ Quotes.always extra)

/-! ## §3 Marking -/

def touch : Utility := fun call => call.withOptions "acmd:t:r:hf" [("no-create", 'c'), ("date", 'd'),
    ("reference", 'r'), ("no-dereference", 'h'), ("time", '\x01')] 1 fun o => do
  if o.operands.isEmpty then call.usage "missing file operand"
  else
    let now ← Moment.now
    let w ← get
    let time? : Except String (Option Nat) :=
      match o.value? 'd', o.value? 't', o.value? 'r' with
      | some text, _, _ =>
        match Moment.read now text with
        | some t => .ok (some (t * 1000).toNat)
        | none => .error ("invalid date format " ++ Quotes.always text)
      | none, some text, _ =>
        match Moment.readStamp now text with
        | some t => .ok (some (t * 1000).toNat)
        | none => .error ("invalid date format " ++ Quotes.always text)
      | none, none, some path =>
        match w.disk.entryAt? w.self.cwd path with
        | some e => .ok (some (w.disk.timeOf e))
        | none => .error ("failed to get attributes of " ++ Quotes.always path ++
            ": No such file or directory")
      | none, none, none => .ok none
    match time? with
    | .error e => call.fail e
    | .ok time? =>
      let mut code := 0
      for path in o.operands do
        let there ← Task.entryAt path false
        let found? ← match there with
          | some (l, _) => pure (Except.ok (some l))
          | none =>
            if o.has 'c' then pure (Except.ok none)
            else if path.endsWith "/" then
              pure (Except.error ("setting times of " ++ Quotes.always path ++
                ": No such file or directory"))
            else do
              match ← Task.openPath path .appending with
              | .ok _ => pure (Except.ok ((← Task.entryAt path false).map (·.1)))
              | .error fault =>
                pure (Except.error ("cannot touch " ++ Quotes.always path ++ ": " ++ fault.reason))
        match found? with
        | .error e =>
          call.say e
          code := 1
        | .ok none => pure ()
        | .ok (some l) =>
          let d ← Task.disk
          Task.setDisk (d.stamp l (time?.getD d.clock)).tick
      return code

/-- Changes the permissions at a location, and if asked of all below it. -/
def chmodAt (call : Call) (o : Options) (text : String) : Nat → String → Location → Task Bool
  | 0, _, _ => return true
  | fuel + 1, path, l => do
    let w ← get
    match w.disk.entry? l with
    | none => return true
    | some (.link _) => return true
    | some e =>
      let mode := w.disk.modeOf e
      match Mode.read e.isDir w.self.umask mode text with
      | none => return false
      | some changed =>
        Task.setDisk (w.disk.chmod l changed)
        let octal (n : Nat) : String :=
          String.ofList (List.replicate (4 - (inBase 8 n).length) '0') ++ inBase 8 n
        let letters (n : Nat) : String := octal n ++ " (" ++ Mode.shown n ++ ")"
        if changed != mode && (o.has 'v' || o.has 'c') then
          Task.say ("mode of " ++ Quotes.always path ++ " changed from " ++ letters mode ++ " to " ++
            letters changed ++ "\n")
        else if o.has 'v' then
          Task.say ("mode of " ++ Quotes.always path ++ " retained as " ++ letters mode ++ "\n")
        if o.has 'R' && e.isDir then
          let mut fine := true
          for (name, _) in w.disk.children l do
            fine := (← chmodAt call o text fuel (Loading.inDirectory path (Raw.ofName name)) (name :: l)) && fine
          return fine
        else return true

/-- Whether an argument that starts like an option is a mode. -/
def isModeWord (word : String) : Bool :=
  match word.toList with
  | '-' :: c :: _ => ['r', 'w', 'x', 'X', 's', 't', 'u', 'g', 'o', 'a', '+', '=', ','].contains c ||
      c.isDigit
  | _ => false

def chmod : Utility := fun call => do
  let (words, rest) := call.args.partition isModeWord
  match Options.read "Rvcf" [("recursive", 'R'), ("verbose", 'v'), ("changes", 'c'),
      ("quiet", 'f'), ("silent", 'f'), ("reference", '\x01')] true rest with
  | .error e => call.usage e
  | .ok o =>
    let operands := words ++ o.operands
    match operands with
    | [] => call.usage "missing operand"
    | [text] => call.usage ("missing operand after " ++ Quotes.always text)
    | text :: paths =>
      if (Mode.read false 0 0 text).isNone then
        call.usage ("invalid mode: " ++ Quotes.always text)
      else
        let mut code := 0
        for path in paths do
          let w ← get
          match w.disk.find false w.self.cwd path with
          | .error fault =>
            if !o.has 'f' then
              call.say ("cannot access " ++ Quotes.always path ++ ": " ++ fault.reason)
            code := 1
          | .ok (l, _) => let _ ← chmodAt call o text LinkedTree.deepest path l
        return code

/-- A size that a number gives, with a sign that relates it to another one. -/
def relativeSize (size : Nat) (text : String) : Option Nat :=
  let rest := (text.drop 1).toString
  match text.toList with
  | '+' :: _ => (size? rest).map (size + ·)
  | '-' :: _ => (size? rest).map (size - ·)
  | '<' :: _ => (size? rest).map (min size ·)
  | '>' :: _ => (size? rest).map (max size ·)
  | '/' :: _ => (size? rest).bind fun n => if n = 0 then none else some (size / n * n)
  | '%' :: _ => (size? rest).bind fun n => if n = 0 then none else some ((size + n - 1) / n * n)
  | _ => size? text

/-- Bytes cut or filled up to a size. -/
def resized (bytes : ByteArray) (size : Nat) : ByteArray :=
  if size ≤ bytes.size then bytes.extract 0 size
  else Disk.splice bytes size ByteArray.empty

def truncate : Utility := fun call => call.withOptions "s:cr:o" [("size", 's'), ("no-create", 'c'),
    ("reference", 'r')] 1 fun o => do
  let w ← get
  let model? := (o.value? 'r').bind fun path =>
    (w.disk.entryAt? w.self.cwd path).map w.disk.sizeOf
  if o.operands.isEmpty then call.usage "missing file operand"
  else if !(o.has 's' || o.has 'r') then
    call.usage "you must specify either '--size' or '--reference'"
  else
    let text := (o.value? 's').getD ""
    if model?.isNone && (relativeSize 0 text).isNone then
      call.fail ("Invalid number: " ++ Quotes.always text)
    else
      let mut code := 0
      for path in o.operands do
        let exists? := (← Task.entryAt path false).isSome
        if exists? || !o.has 'c' then
          match ← Task.openPath path .appending with
          | .error fault =>
            call.say ("cannot open " ++ Quotes.always path ++ " for writing: " ++ fault.reason)
            code := 1
          | .ok _ =>
            match ← Task.entryAt path false with
            | some (_, .file id) =>
              let d ← Task.disk
              let bytes := d.bytesOf id
              let size := (model?.orElse fun _ => relativeSize bytes.size text).getD 0
              Task.setDisk (d.fill id (.plain (resized bytes size)))
            | _ => pure ()
      return code

/-! ## §4 Links -/

/-- Makes one link, and says why that cannot be done. -/
def linkOne (call : Call) (o : Options) (target path : String) : Task Nat := do
  let w ← get
  let symbolic := o.has 's'
  let kind := if symbolic then "symbolic link " else "hard link "
  let sameFile := (w.disk.find true w.self.cwd target).toOption.map (·.1) ==
    (w.disk.find true w.self.cwd path).toOption.map (·.1)
  if !symbolic && (w.disk.find true w.self.cwd target).toOption.isNone then
    call.fail ("failed to access " ++ Quotes.always target ++ ": No such file or directory")
  else if !symbolic && w.disk.isDirAt w.self.cwd target then
    call.fail (target ++ ": hard link not allowed for directory")
  else if o.has 'f' && !symbolic && sameFile then
    call.fail (Quotes.always target ++ " and " ++ Quotes.always path ++ " are the same file")
  else
    if o.has 'f' then
      let _ ← Task.change fun d cwd => d.unlink cwd path
    let result ←
      if symbolic then Task.change fun d cwd => d.symlink cwd target path
      else Task.change fun d cwd => d.hardLink cwd target path
    match result with
    | .ok () =>
      if o.has 'v' then
        Task.say (Quotes.always path ++ (if symbolic then " -> " else " => ") ++
          Quotes.always target ++ "\n")
      return 0
    | .error fault =>
      call.fail ("failed to create " ++ kind ++ Quotes.always path ++
        (if symbolic || fault == .occupied then "" else " => " ++ Quotes.always target) ++
        ": " ++ fault.reason)

def ln : Utility := fun call => call.withOptions "sfnvt:TrPLbi" [("symbolic", 's'), ("force", 'f'),
    ("no-dereference", 'n'), ("verbose", 'v'), ("target-directory", 't'),
    ("no-target-directory", 'T'), ("relative", 'r')] 1 fun o => do
  let inDir (dir : String) (targets : List String) : Task Nat := do
    let mut code := 0
    for target in targets do
      let one ← linkOne call o target (Loading.inDirectory dir (lastPiece target))
      code := max code one
    return code
  match o.value? 't', o.operands with
  | _, [] => call.usage "missing file operand"
  | some dir, targets => inDir dir targets
  | none, [target] => inDir "" [target]
  | none, operands =>
    let last := operands.getLastD ""
    let held ← Task.entryAt last true
    let isLink := (held.map (·.2.isLink)).getD false
    let intoDir := (← Task.isDirAt last) && !o.has 'T' && !(o.has 'n' && isLink)
    if intoDir then inDir last operands.dropLast
    else if 2 < operands.length then
      call.fail ("target " ++ Quotes.always last ++ ": No such file or directory")
    else linkOne call o (operands.headD "") last

def link : Utility := fun call => call.withOptions "" [] 1 fun o => do
  match o.operands with
  | [] => call.usage "missing operand"
  | [a] => call.usage ("missing operand after " ++ Quotes.always a)
  | [a, b] =>
    match ← Task.change fun d cwd => d.hardLink cwd a b with
    | .ok () => return 0
    | .error fault =>
      call.fail ("cannot create link " ++ Quotes.always b ++ " to " ++ Quotes.always a ++ ": " ++
        fault.reason)
  | _ :: _ :: extra :: _ => call.usage ("extra operand " ++ Quotes.always extra)

/-- The path from the root that a path leads to, without links and dots. With `whole`
there has to be something; with `loose` not even directories on the way. -/
def canonical (whole loose : Bool) (path : String) : Task (Except Fault String) := do
  let w ← get
  match w.disk.resolve false w.self.cwd (if whole then path else Disk.bare path) with
  | .ok l =>
    if whole && (w.disk.entry? l).isNone then return .error .absent
    else return .ok (Disk.pathOf l)
  | .error fault =>
    if loose && path != "" then
      let pieces := ((if path.startsWith "/" then path
        else Disk.pathOf w.self.cwd ++ "/" ++ path).splitOn "/").filter fun p => p != "" && p != "."
      let kept := pieces.foldl (fun (l : List String) p => if p = ".." then l.tail else p :: l) []
      return .ok ("/" ++ String.intercalate "/" kept.reverse)
    else return .error fault

def readlink : Utility := fun call => call.withOptions "femnqsvz" [("canonicalize", 'f'),
    ("canonicalize-existing", 'e'), ("canonicalize-missing", 'm'), ("no-newline", 'n'),
    ("zero", 'z'), ("quiet", 'q'), ("verbose", 'v'), ("silent", 's')] 1 fun o => do
  if o.operands.isEmpty then call.usage "missing operand"
  else
    let stop := if o.has 'z' then "\x00" else if o.has 'n' && o.operands.length = 1 then "" else "\n"
    let mut code := 0
    for path in o.operands do
      let found ←
        if o.has 'f' || o.has 'e' || o.has 'm' then canonical (o.has 'e') (o.has 'm') path
        else do
          match ← Task.entryAt path true with
          | some (_, .link target) => pure (.ok target)
          | some _ => pure (.error .invalid)
          | none => pure (.error .absent)
      match found with
      | .ok text => Task.say (text ++ stop)
      | .error fault =>
        if o.has 'v' then call.say (Quotes.inMessage path ++ ": " ++ fault.reason)
        code := 1
    return code

def realpath : Utility := fun call => call.withOptions "emsqz" [("canonicalize-existing", 'e'),
    ("canonicalize-missing", 'm'), ("strip", 's'), ("quiet", 'q'), ("zero", 'z'),
    ("no-symlinks", 's')] 1 fun o => do
  if o.operands.isEmpty then call.usage "missing operand"
  else
    let mut code := 0
    for path in o.operands do
      match ← canonical (o.has 'e') (o.has 'm') path with
      | .ok text => Task.say (text ++ (if o.has 'z' then "\x00" else "\n"))
      | .error fault =>
        if !o.has 'q' then call.say (Quotes.inMessage path ++ ": " ++ fault.reason)
        code := 1
    return code

/-! ## §5 Others -/

/-- Ten letters that differ from number to number. -/
def scrambled (count seed : Nat) : String :=
  let letters := "abcdefghijklmnopqrstuvwxyzABCDEFGHIJKLMNOPQRSTUVWXYZ0123456789".toList.toArray
  String.ofList ((List.range count).map fun i =>
    (letters[(seed * 6364136223846793005 + 1442695040888963407) / Nat.pow 62 (i + 3) % 62]?).getD 'x')

def mktemp : Utility := fun call => call.withOptions "dqup:t\x01:" [("directory", 'd'), ("quiet", 'q'),
    ("dry-run", 'u'), ("tmpdir", 'p'), ("suffix", '\x01')] 1 fun o => do
  let template := o.operands.headD "tmp.XXXXXXXXXX"
  let marks := (template.toList.reverse.dropWhile (· != 'X')).takeWhile (· == 'X')
  let stem := (template.toList.reverse.dropWhile (· != 'X')).dropWhile (· == 'X')
  let tail := template.toList.reverse.takeWhile (· != 'X')
  if marks.length < 3 then
    call.fail ("too few X's in template " ++ Quotes.always template)
  else
    let w ← get
    let name := String.ofList stem.reverse ++ scrambled marks.length (w.nextPid + w.disk.next) ++
      String.ofList tail.reverse ++ (o.value? '\x01').getD ""
    let dir? := if o.operands.isEmpty || o.has 'p' || o.has 't' then
      some ((o.value? 'p').getD ((call.vars.lookup "TMPDIR").getD "/tmp")) else none
    let path := match dir? with
      | some dir => Loading.inDirectory dir name
      | none => name
    set { w with nextPid := w.nextPid + 1 }
    let made ←
      if o.has 'u' then pure (.ok ())
      else if o.has 'd' then Task.change fun d cwd => d.makeDir cwd path 0o700
      else do
        match ← Task.openPath path .fresh with
        | .ok _ =>
          match ← Task.entryAt path true with
          | some (l, _) => Task.setDisk ((← Task.disk).chmod l 0o600)
          | none => pure ()
          pure (.ok ())
        | .error fault => pure (.error fault)
    match made with
    | .ok () => emit call (path ++ "\n")
    | .error fault =>
      call.fail ("failed to create " ++ (if o.has 'd' then "directory" else "file") ++
        " via template " ++ Quotes.always template ++ ": " ++ fault.reason)

/-- Copies bytes from one place to another, as its words say. -/
def dd : Utility := fun call => do
  let pairs := call.args.map fun word =>
    let name := word.toList.takeWhile (· != '=')
    (String.ofList name, String.ofList (word.toList.drop (name.length + 1)))
  let number (name : String) : Option Nat := (pairs.lookup name).bind size?
  match pairs.find? fun (n, _) =>
      !(["if", "of", "bs", "ibs", "obs", "count", "skip", "seek", "conv", "status", "iflag",
        "oflag"].contains n) with
  | some (n, _) => call.usage ("unrecognized operand " ++ Quotes.always n)
  | none =>
    let block := ((number "bs").orElse fun _ => number "ibs").getD 512
    let source? : Except String Nat ←
      match pairs.lookup "if" with
      | some path => do
        match ← Task.openPath path .reading with
        | .ok index => do
          Task.assign 98 index
          pure (.ok 98)
        | .error fault =>
          pure (.error ("failed to open " ++ Quotes.always path ++ ": " ++ fault.reason))
      | none => pure (.ok 0)
    match source? with
    | .error e => call.fail e
    | .ok source =>
      let flags := ((pairs.lookup "conv").getD "").splitOn ","
      let _ ← Task.readUpTo source (((number "skip").getD 0) * block)
      let wanted := match number "count" with
        | some n => n * block
        | none => Task.plenty
      match ← Task.readUpTo source wanted with
      | .error fault => call.fail ("error reading: " ++ fault.reason)
      | .ok bytes =>
        let text := Raw.ofBytes bytes
        let text :=
          if flags.contains "ucase" then text.map Char.toUpper
          else if flags.contains "lcase" then text.map Char.toLower
          else text
        let seek := ((number "seek").getD 0) * (((number "bs").orElse fun _ => number "obs").getD 512)
        let result ←
          match pairs.lookup "of" with
          | some path => do
            let keeps := flags.contains "notrunc"
            match ← Task.openPath path { OpenMode.writing with truncates := !keeps && seek = 0 } with
            | .error fault =>
              pure (Except.error ("failed to open " ++ Quotes.always path ++ ": " ++ fault.reason))
            | .ok index => do
              match ← Task.entryAt path false with
              | some (_, .file id) =>
                let d ← Task.disk
                if !keeps && 0 < seek then
                  Task.setDisk (d.fill id (.plain (resized (d.bytesOf id) seek)))
                Task.advance index seek
              | _ => pure ()
              Task.assign 99 index
              let r ← Task.write 99 text
              Task.close 99
              pure (r.mapError fun f => "error writing " ++ Quotes.always path ++ ": " ++ f.reason)
          | none => do
            let r ← Task.write 1 text
            pure (r.mapError fun f => "error writing 'standard output': " ++ f.reason)
        Task.close 98
        if pairs.lookup "status" != some "none" then
          let whole := if block = 0 then 0 else bytes.size / block
          let part := if block = 0 || bytes.size % block = 0 then 0 else 1
          let count := toString whole ++ "+" ++ toString part
          Task.complain (count ++ " records in\n" ++ count ++ " records out")
          if pairs.lookup "status" != some "noxfer" then
            Task.complain (toString bytes.size ++ (if bytes.size = 1 then " byte" else " bytes") ++
              " copied, 0.0001 s, 1.0 kB/s")
        match result with
        | .ok () => return 0
        | .error e => call.fail e

end ReleaseKit.Utility
