/-
ReleaseKit.Machine.World — what a running process can see and change.

Processes run one at a time: the one that starts another waits until it ends,
so that a pipe holds all that was written into it when it is read. Time passes
only while a process sleeps. What a process does is a `Task`: it changes the
world, and comes to a result or ends the process.

  §1 Open files   — channels, open files, pipes.
  §2 Worlds       — `Process`, `World`, `Task`.
  §3 Descriptors  — opening, copying and closing.
  §4 Reading      — `readUpTo`, `readAll`, `readLine`.
  §5 Writing      — `writeBytes`, `say`, `complain`.
  §6 Processes    — `child`, `sleepFor`.
-/
import ReleaseKit.Machine.Disk.Change
import ReleaseKit.Machine.Signal

namespace ReleaseKit

/-! ## §1 Open files -/

/-- What an open file leads to. -/
inductive Channel where
  | file (id : Nat)
  | dir (l : Location)
  | device (kind : Device)
  | pipe (number : Nat)
  | program (name : String)
deriving DecidableEq, Repr

/-- A file that has been opened, and how far it has been read or written. -/
structure OpenFile where
  channel : Channel
  offset : Nat
  reads : Bool
  writes : Bool
  appends : Bool

/-- What has been written into a pipe. Once it holds more than its room, its
reader counts as gone, which the next one to write into it finds out. -/
structure Pipe where
  data : ByteArray
  room : Option Nat

/-- Whether a pipe holds more than its room. -/
def Pipe.isFull (p : Pipe) : Bool :=
  match p.room with
  | some room => room < p.data.size
  | none => false

/-- How a file is to be opened. -/
structure OpenMode where
  reads : Bool := false
  writes : Bool := false
  creates : Bool := false
  truncates : Bool := false
  appends : Bool := false
  /-- refuse what is there -/
  exclusive : Bool := false

namespace OpenMode

def reading : OpenMode := { reads := true }
def writing : OpenMode := { writes := true, creates := true, truncates := true }
def appending : OpenMode := { writes := true, creates := true, appends := true }
def both : OpenMode := { reads := true, writes := true, creates := true }
def fresh : OpenMode := { writes := true, creates := true, exclusive := true }

end OpenMode

/-! ## §2 Worlds -/

/-- How a process ends. -/
inductive Ending where
  | exit (code : Nat)
  | killed (signal : Signal)
deriving DecidableEq, Repr

/-- What a shell calls the status of a process that has ended. -/
def Ending.status : Ending → Nat
  | exit code => code
  | killed signal => 128 + signal

/-- A running process. -/
structure Process where
  pid : Nat
  parent : Nat
  cwd : Location
  umask : Nat
  /-- descriptors, and the open files that they stand for -/
  fds : List (Nat × Nat)
  ignored : List Signal

/-- Everything that processes share, and the one that runs. -/
structure World where
  disk : Disk
  opened : Array OpenFile
  pipes : Array Pipe
  /-- milliseconds -/
  clock : Nat
  /-- when the process is to be ended -/
  deadline : Option Nat
  nextPid : Nat
  /-- the processes that wait for the one that runs -/
  waiting : List Nat
  /-- signals sent to processes that wait -/
  sent : List (Nat × Signal)
  self : Process

/-- What a process does. -/
abbrev Task := ExceptT Ending (StateM World)

namespace Task

def self : Task Process := do return (← get).self

def modifySelf (f : Process → Process) : Task Unit := modify fun w => { w with self := f w.self }

def disk : Task Disk := do return (← get).disk

def setDisk (d : Disk) : Task Unit := modify fun w => { w with disk := d }

/-- Ends the process. -/
def quit {α : Type} (code : Nat) : Task α := throw (.exit code)

/-- Does to the disk what may be refused. -/
def change (f : Disk → Location → Except Fault Disk) : Task (Except Fault Unit) := do
  let w ← get
  match f w.disk w.self.cwd with
  | .ok d =>
    set { w with disk := d }
    return .ok ()
  | .error fault => return .error fault

/-- What a path leads to. -/
def entryAt (path : String) (keepLast : Bool) : Task (Option (Location × Entry)) := do
  let w ← get
  return (w.disk.find keepLast w.self.cwd path).toOption

def isDirAt (path : String) : Task Bool := do
  let w ← get
  return w.disk.isDirAt w.self.cwd path

/-! ## §3 Descriptors -/

/-- The open file that a descriptor stands for. -/
def fileOf? (fd : Nat) : Task (Option Nat) := do return (← self).fds.lookup fd

/-- Makes a descriptor stand for an open file. -/
def assign (fd file : Nat) : Task Unit :=
  modifySelf fun p => { p with fds := (fd, file) :: p.fds.filter fun (n, _) => n != fd }

def close (fd : Nat) : Task Unit :=
  modifySelf fun p => { p with fds := p.fds.filter fun (n, _) => n != fd }

/-- Adds an open file. -/
def addOpen (file : OpenFile) : Task Nat := do
  let w ← get
  set { w with opened := w.opened.push file }
  return w.opened.size

/-- Adds a pipe, and gives its number. -/
def addPipe (room : Option Nat) : Task Nat := do
  let w ← get
  set { w with pipes := w.pipes.push ⟨ByteArray.empty, room⟩ }
  return w.pipes.size

/-- What an entry is opened as. -/
def channelOf : Entry → Channel
  | .dir _ _ => .dir []
  | .file id => .file id
  | .link _ => .device .null
  | .program name => .program name
  | .device kind => .device kind

/-- Opens what a path leads to. -/
def openPath (path : String) (m : OpenMode) : Task (Except Fault Nat) := do
  let w ← get
  match w.disk.resolve m.exclusive w.self.cwd path with
  | .error fault =>
    return .error (if m.creates && path.endsWith "/" && fault == .absent then .isDirectory
      else fault)
  | .ok l =>
    match w.disk.entry? l with
    | none =>
      if m.creates then
        let mode := freshFileMode - (freshFileMode &&& w.self.umask)
        let (d, id) := w.disk.create l mode .empty
        set { w with disk := d }
        return .ok (← addOpen ⟨.file id, 0, m.reads, m.writes, m.appends⟩)
      else return .error .absent
    | some e =>
      if m.exclusive then return .error .occupied
      else
        match e with
        | .dir _ _ =>
          if m.writes then return .error .isDirectory
          else return .ok (← addOpen ⟨.dir l, 0, true, false, false⟩)
        | .device .terminal => return .error (.other "No such device or address (os error 6)")
        | .device (.descriptor n) =>
          match w.self.fds.lookup n with
          | some file => return .ok file
          | none => return .error .absent
        | .file id =>
          if m.truncates then set { w with disk := w.disk.fill id .empty }
          return .ok (← addOpen ⟨.file id, 0, m.reads, m.writes, m.appends⟩)
        | e => return .ok (← addOpen ⟨channelOf e, 0, m.reads, m.writes, m.appends⟩)

/-! ## §4 Reading -/

/-- The refusal of a descriptor that stands for nothing. -/
def badDescriptor : Fault := .other "Bad file descriptor (os error 9)"

/-- How many bytes a pipe between two commands holds. -/
def pipeRoom : Nat := 262144

/-- The bytes of what an open file leads to, from its offset on and at most so
many. -/
def bytesFrom (w : World) (file : OpenFile) (count : Nat) : Except Fault ByteArray :=
  let part (bytes : ByteArray) : Except Fault ByteArray :=
    .ok (bytes.extract file.offset (min bytes.size (file.offset + count)))
  if !file.reads then .error badDescriptor
  else
    match file.channel with
    | .file id => part (w.disk.bytesOf id)
    | .pipe n => part ((w.pipes[n]?.map (·.data)).getD ByteArray.empty)
    | .dir _ => .error .isDirectory
    | .program name => part ("\x7fELF" ++ name).toUTF8
    | .device .zero => .ok ⟨(List.replicate (min count (pipeRoom + 1)) 0).toArray⟩
    | .device .full => .ok ⟨(List.replicate (min count (pipeRoom + 1)) 0).toArray⟩
    | .device _ => .ok ByteArray.empty

/-- Moves an open file on. -/
def advance (index count : Nat) : Task Unit := modify fun w =>
  { w with opened := w.opened.modify index fun f => { f with offset := f.offset + count } }

/-- The next bytes of a descriptor, at most so many. -/
def readUpTo (fd count : Nat) : Task (Except Fault ByteArray) := do
  match ← fileOf? fd with
  | none => return .error badDescriptor
  | some index =>
    let w ← get
    match w.opened[index]? with
    | none => return .error badDescriptor
    | some file =>
      match bytesFrom w file count with
      | .error fault => return .error fault
      | .ok bytes =>
        advance index bytes.size
        return .ok bytes

/-- More bytes than any file has. -/
def plenty : Nat := 1099511627776

/-- All that is left to read of a descriptor, as a raw text. -/
def readAll (fd : Nat) : Task (Except Fault String) := do
  return (← readUpTo fd plenty).map Raw.ofBytes

/-- The place of a byte, from an offset on; looking at most so far. -/
def indexFrom (bytes : ByteArray) (byte : UInt8) (offset : Nat) : Nat → Option Nat
  | 0 => none
  | left + 1 =>
    if h : offset < bytes.size then
      if bytes[offset] == byte then some offset else indexFrom bytes byte (offset + 1) left
    else none

/-- The next line of a descriptor, up to a byte that ends it, and whether that
was there; nothing at the end. -/
def readLine (fd : Nat) (stop : UInt8) : Task (Except Fault (Option (String × Bool))) := do
  match ← fileOf? fd with
  | none => return .error badDescriptor
  | some index =>
    let w ← get
    match w.opened[index]? with
    | none => return .error badDescriptor
    | some file =>
      match bytesFrom w { file with offset := 0 } plenty with
      | .error fault => return .error fault
      | .ok bytes =>
        if bytes.size ≤ file.offset then return .ok none
        else
          match indexFrom bytes stop file.offset (bytes.size - file.offset) with
          | some place =>
            advance index (place + 1 - file.offset)
            return .ok (some (Raw.ofBytes (bytes.extract file.offset place), true))
          | none =>
            advance index (bytes.size - file.offset)
            return .ok (some (Raw.ofBytes (bytes.extract file.offset bytes.size), false))

/-! ## §5 Writing -/

/-- The refusal of a device that has no room. -/
def noRoom : Fault := .other "No space left on device (os error 28)"

/-- Writes bytes to a descriptor. A pipe whose reader is gone ends the writer. -/
def writeBytes (fd : Nat) (bytes : ByteArray) : Task (Except Fault Unit) := do
  match ← fileOf? fd with
  | none => return .error badDescriptor
  | some index =>
    let w ← get
    match w.opened[index]? with
    | none => return .error badDescriptor
    | some file =>
      if !file.writes then return .error badDescriptor
      else
        match file.channel with
        | .file id =>
          let offset := if file.appends then (w.disk.bytesOf id).size else file.offset
          if bytes.size = 0 then return .ok ()
          else
            set { w with
              disk := w.disk.write id offset bytes
              opened := w.opened.modify index fun f => { f with offset := offset + bytes.size } }
            return .ok ()
        | .pipe n =>
          match w.pipes[n]? with
          | none => return .ok ()
          | some pipe =>
            if pipe.isFull then throw (.killed Signal.pipe)
            modify fun w => { w with pipes := w.pipes.modify n fun p =>
              { p with data := p.data ++ bytes } }
            return .ok ()
        | .device .full => return (if bytes.size = 0 then .ok () else .error noRoom)
        | _ => return .ok ()

/-- Writes a raw text to a descriptor. -/
def write (fd : Nat) (text : String) : Task (Except Fault Unit) := writeBytes fd (Raw.bytes text)

/-- Writes a raw text to standard output. What cannot be written is lost. -/
def say (text : String) : Task Unit := do
  let _ ← write 1 text

/-- Writes a line to standard error. -/
def complain (line : String) : Task Unit := do
  let _ ← write 2 (line ++ "\n")

/-! ## §6 Processes -/

/-- The number of the next process. -/
def takePid : Task Nat := do
  let w ← get
  set { w with nextPid := w.nextPid + 1 }
  return w.nextPid

/-- A child process of a number that runs to its end, and how it ended. -/
def childAs (pid : Nat) (task : Task Nat) : Task Ending := fun w =>
  let inner : World := { w with
    self := { w.self with pid := pid, parent := w.self.pid }
    waiting := w.self.pid :: w.waiting }
  let (outcome, after) := task inner
  let ending : Ending :=
    match outcome with
    | .ok code => .exit (code % 256)
    | .error (.exit code) => .exit (code % 256)
    | .error ending => ending
  (.ok ending, { after with self := w.self, waiting := w.waiting, deadline := w.deadline })

/-- A child process that runs to its end, and how it ended. -/
def child (task : Task Nat) : Task Ending := do childAs (← takePid) task

/-- Lets time pass. A process whose time is up before is ended. -/
def sleepFor (milliseconds : Nat) : Task Unit := do
  let w ← get
  let wake := w.clock + milliseconds
  match w.deadline with
  | some limit =>
    if limit < wake then
      set { w with clock := max w.clock limit }
      throw (.killed Signal.term)
    else set { w with clock := wake }
  | none => set { w with clock := wake }

/-- Takes the signals out that were sent to the process while it waited. -/
def takeSignals : Task (List Signal) := do
  let w ← get
  let (mine, others) := w.sent.partition fun (pid, _) => pid == w.self.pid
  if mine.isEmpty then return []
  else
    set { w with sent := others }
    return mine.map (·.2)

/-- Ends a process that minds no signals by the first of those sent to it. -/
def obeySignals : Task Unit := do
  let w ← get
  match (← takeSignals).find? fun s => !s.harmless && !w.self.ignored.contains s with
  | some signal => throw (.killed signal)
  | none => pure ()

end Task

end ReleaseKit
