/-
ReleaseKit.Installation — what is installed where a release runs.

A compiler and a tool for the object store are no part of it; scripts take their place. What is
installed is what such scripts are written with: shells and the small programs of a system, with
the options that scripts give them. Processes run one at a time, and nothing is read from
a terminal or a network.

  §1 Programs   — the table of programs, and how one is launched.
  §2 The disk   — what is there before anything has run.
-/
import ReleaseKit.Shell.Start
import ReleaseKit.Utility.Calculation
import ReleaseKit.Utility.Comparing
import ReleaseKit.Utility.Copying
import ReleaseKit.Utility.Digest
import ReleaseKit.Utility.Matching
import ReleaseKit.Utility.Records
import ReleaseKit.Utility.Release

namespace ReleaseKit.Installation

open Utility

/-! ## §1 Programs -/

/-- Programs that print, ask and start others. -/
def plainPrograms : List (String × Utility) :=
  [("echo", echo), ("printf", printf), ("yes", yes), ("seq", seq), ("true", succeed),
    ("false", failing), ("test", test), ("[", test), ("whoami", whoami), ("id", identity),
    ("uname", uname), ("tty", terminalName), ("pwd", physicalPath), ("basename", basename),
    ("dirname", dirname), ("env", env), ("printenv", printenv), ("sleep", sleep),
    ("timeout", timeout), ("nice", nice), ("nohup", runRest ""), ("stdbuf", runRest "i:o:e:"),
    ("setsid", runRest "fwc"), ("ionice", runRest "c:n:t"), ("xargs", xargs), ("which", which),
    ("date", date), ("sync", succeed), ("expr", expr), ("factor", factor)]

/-- Programs that read and write texts. -/
def textPrograms : List (String × Utility) :=
  [("cat", cat), ("tac", tac), ("rev", rev), ("tee", tee), ("head", head), ("tail", tail),
    ("wc", wc), ("nl", nl), ("fold", fold), ("expand", expand), ("sort", sort), ("uniq", uniq),
    ("comm", comm), ("join", join), ("cut", cut), ("paste", paste), ("tr", tr), ("split", split),
    ("shuf", shuf), ("od", od), ("base64", base64), ("cksum", cksum),
    ("md5sum", Digest.program Digest.md5), ("sha1sum", Digest.program Digest.sha1),
    ("sha224sum", Digest.program Digest.sha224), ("sha256sum", Digest.program Digest.sha256),
    ("sha384sum", Digest.program Digest.sha384), ("sha512sum", Digest.program Digest.sha512),
    ("cmp", cmp), ("diff", diff), ("grep", grep), ("egrep", egrep), ("fgrep", fgrep), ("sed", sed),
    ("awk", awk), ("mawk", awk)]

/-- Programs that work on files. -/
def filePrograms : List (String × Utility) :=
  [("mkdir", mkdir), ("rmdir", rmdir), ("rm", rm), ("unlink", unlink), ("touch", touch),
    ("chmod", chmod), ("chown", succeed), ("chgrp", succeed), ("truncate", truncate), ("ln", ln),
    ("link", link), ("readlink", readlink), ("realpath", realpath), ("mktemp", mktemp), ("dd", dd),
    ("cp", cp), ("mv", mv), ("install", install), ("ls", ls), ("dir", ls), ("stat", stat),
    ("find", find)]

/-- The shells. -/
def shells : List (String × Utility) :=
  [("sh", Shell.program .posix), ("dash", Shell.program .posix), ("bash", Shell.program .bash)]

/-- The programs of the system. -/
def programs : List (String × Utility) := shells ++ plainPrograms ++ textPrograms ++ filePrograms

/-- The refusal of a process too many. -/
def crowdedFault : Fault := .other "Resource temporarily unavailable (os error 11)"

/-- Launches what a path leads to. The number bounds how many programs can launch each
other. -/
def launcher : Nat → Launcher
  | 0 => fun _ _ _ => return .error crowdedFault
  | depth + 1 => fun path words vars => do
    let w ← get
    match Loading.load w.disk w.self.cwd Loading.scriptDepth path words with
    | .error fault => return .error fault
    | .ok (program, args) =>
      match (programs ++ [(Program.name, release)]).lookup program with
      | none => return .error .absent
      | some utility => return .ok (← utility ⟨args.headD "", args.drop 1, vars, launcher depth⟩)

/-- How many programs can launch each other. -/
def launchDepth : Nat := 200

/-! ## §2 The disk -/

/-- The location of a path from the root. -/
def locationOf (path : String) : Location := ((path.splitOn "/").filter (· != "")).reverse

/-- Where the program is that runs. -/
def self : Location := ["exe", toString Host.hostPid, "proc"]

/-- The directories that are there. -/
def directories : List String :=
  ["/dev", "/dev/fd", "/etc", "/home", "/opt", "/private", "/private/bin", "/proc", "/root", "/run",
    "/sbin", "/srv", "/sys", "/tmp", "/usr", "/usr/bin", "/usr/lib", "/usr/local", "/usr/local/bin",
    "/usr/sbin", "/usr/share", "/var", "/var/log", "/var/tmp"]

/-- The devices that are there. -/
def devices : List (String × Device) :=
  [("/dev/null", .null), ("/dev/zero", .zero), ("/dev/full", .full), ("/dev/tty", .terminal),
    ("/dev/urandom", .zero), ("/dev/random", .zero), ("/dev/stdin", .descriptor 0),
    ("/dev/stdout", .descriptor 1), ("/dev/stderr", .descriptor 2)] ++
    (List.range 10).map fun n => ("/dev/fd/" ++ toString n, .descriptor n)

/-- Links that are there. -/
def links : List (String × String) :=
  [("/bin", "usr/bin"), ("/lib", "usr/lib"), ("/usr/bin/sh", "dash"), ("/usr/bin/awk", "mawk")]

/-- Texts that are there. -/
def texts : List (String × String) :=
  [("/etc/passwd", "root:x:0:0:root:/root:/bin/bash\n"), ("/etc/group", "root:x:0:\n"),
    ("/etc/hostname", "localhost\n"), ("/etc/hosts", "127.0.0.1\tlocalhost\n")]

/-- The disk before anything has run. -/
def disk : Disk :=
  let start := Disk.blank
  let mode (path : String) : Nat := if path = "/tmp" || path = "/var/tmp" then 0o1777 else 0o755
  let d := directories.foldl (fun d path => d.put (locationOf path) (.dir (mode path) start.clock)) start
  let d := devices.foldl (fun d (path, kind) => d.put (locationOf path) (.device kind)) d
  let d := programs.foldl (fun d (name, _) => d.put [name, "bin", "usr"] (.program name)) d
  let d := (d.put self.tail (.dir 0o555 start.clock)).put self (.program Program.name)
  let d := texts.foldl (fun d (path, text) =>
    (d.create (locationOf path) 0o644 (.ofText text)).1) d
  links.foldl (fun d (path, target) => d.put (locationOf path) (.link target)) d

end ReleaseKit.Installation
