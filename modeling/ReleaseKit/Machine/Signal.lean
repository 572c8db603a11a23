/-
ReleaseKit.Machine.Signal — the signals that processes send each other.
-/

namespace ReleaseKit

/-- Signals, by their numbers. -/
abbrev Signal := Nat

namespace Signal

/-- The names of the signals that have a meaning. -/
def commonNames : List (String × Signal) :=
  [("HUP", 1), ("INT", 2), ("QUIT", 3), ("ILL", 4), ("TRAP", 5), ("ABRT", 6), ("BUS", 7),
    ("FPE", 8), ("KILL", 9), ("USR1", 10), ("SEGV", 11), ("USR2", 12), ("PIPE", 13), ("ALRM", 14),
    ("TERM", 15), ("STKFLT", 16), ("CHLD", 17), ("CONT", 18), ("STOP", 19), ("TSTP", 20),
    ("TTIN", 21), ("TTOU", 22), ("URG", 23), ("XCPU", 24), ("XFSZ", 25), ("VTALRM", 26),
    ("PROF", 27), ("WINCH", 28), ("IO", 29), ("PWR", 30), ("SYS", 31)]

/-- The names of the signals that programs give a meaning: the first half is counted
from the least, the second from the greatest. -/
def freeNames : List (String × Signal) :=
  let low := (List.range 15).map fun n => ("RTMIN+" ++ toString (n + 1), 35 + n)
  let high := (List.range 14).map fun n => ("RTMAX-" ++ toString (14 - n), 50 + n)
  ("RTMIN", 34) :: low ++ high ++ [("RTMAX", 64)]

/-- The names of the signals. -/
def names : List (String × Signal) := commonNames ++ freeNames

def kill : Signal := 9
def pipe : Signal := 13
def term : Signal := 15
def segv : Signal := 11

/-- The name of a signal. -/
def name? (signal : Signal) : Option String :=
  (names.find? fun (_, number) => number == signal).map (·.1)

/-- The signal of a number. -/
def ofNumber? (text : String) : Option Signal :=
  match text.toNat? with
  | some n => if n ≤ 64 then some n else none
  | none => none

/-- The signal of a name, in capital letters; it may begin with `SIG`. -/
def ofName? (text : String) : Option Signal :=
  let bare := if text.startsWith "SIG" then (text.drop 3).toString else text
  if bare = "POLL" then some 29
  else if bare = "IOT" then some 6
  else if bare = "CLD" then some 17
  else names.lookup bare

/-- Whether a process that does not care about a signal goes on. -/
def harmless (signal : Signal) : Bool := [0, 17, 18, 19, 20, 21, 22, 23, 28].contains signal

/-- Whether a process can do nothing about a signal. -/
def inescapable (signal : Signal) : Bool := signal == 9 || signal == 19

/-- What a shell says of a process that a signal has ended. -/
def obituary (signal : Signal) : String :=
  ([(1, "Hangup"), (3, "Quit"), (4, "Illegal instruction"), (5, "Trace/breakpoint trap"),
    (6, "Aborted"), (7, "Bus error"), (8, "Floating point exception"), (9, "Killed"),
    (10, "User defined signal 1"), (11, "Segmentation fault"), (12, "User defined signal 2"),
    (14, "Alarm clock"), (15, "Terminated"), (16, "Stack fault"), (24, "CPU time limit exceeded"),
    (25, "File size limit exceeded"), (26, "Virtual timer expired"), (27, "Profiling timer expired"),
    (29, "I/O possible"), (30, "Power failure"), (31, "Bad system call")].lookup signal).getD ""

end Signal

end ReleaseKit
