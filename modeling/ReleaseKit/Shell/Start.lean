/-
ReleaseKit.Shell.Start — the shells as programs.

A shell is started with options, then with a script: in an argument, in a file,
or on standard input.
-/
import ReleaseKit.Shell.Evaluation

namespace ReleaseKit.Shell

/-- How deep commands may stand in each other. -/
def commandDepth : Nat := 4000

/-- The variables that a shell starts with. -/
def startVariables (dialect : Dialect) (p : Process) (vars : List (String × String)) :
    List (String × Variable) :=
  let given := (vars.filter fun (name, _) => isName name && name != "IFS" && name != "OPTIND").map
    fun (name, text) => (name, ({ value := some (.text text), exported := true } : Variable))
  let plain (name text : String) : String × Variable := (name, { value := some (.text text) })
  let common :=
    [plain "IFS" " \t\n", plain "OPTIND" "1", plain "PS4" "+ ", plain "PPID" (toString p.parent)]
  let own :=
    match dialect with
    | .posix => common ++ [plain "PS1" "# ", plain "PS2" "> "]
    | .bash => common ++
      [plain "BASH" "/usr/bin/bash", plain "BASH_VERSION" "5.2.15(1)-release", plain "EUID" "0",
        plain "UID" "0", plain "HOSTNAME" "localhost", plain "HOSTTYPE" "x86_64",
        plain "MACHTYPE" "x86_64-pc-linux-gnu", plain "OPTERR" "1", plain "OSTYPE" "linux-gnu",
        plain "SHELL" "/bin/bash", plain "TERM" "dumb"]
  given ++ own.filter fun (name, _) => !given.any fun (other, _) => other == name

/-- A shell that has just been started. -/
def startState (dialect : Dialect) (call : Call) (w : World) : State :=
  let s : State :=
    { world := w, dialect, name := call.name, args := [],
      vars := startVariables dialect w.self call.vars, options := Setting.atStart dialect,
      mainPid := w.self.pid, launch := call.launch }
  let path := workingPath s
  let exported := ((s.bound? "PWD").map (·.exported)).getD (dialect == .bash)
  let pwd : Variable := { value := some (.text path), exported }
  let vars := ("PWD", pwd) :: s.vars.filter fun (name, _) => name != "PWD"
  let level := (((s.bound? "SHLVL").bind (·.value)).bind Value.scalar).getD "0"
  let shlvl : Variable := { value := some (.text (toString ((level.toInt?).getD 0 + 1))), exported := true }
  { s with vars :=
      if dialect = .bash then
        ("SHLVL", shlvl) :: vars.filter fun (name, _) => name != "SHLVL"
      else vars }

/-- Reads the arguments of a shell: its options first. -/
def readArguments : Nat → List String → Bool → Bool → Work (Option (List String × Bool × Bool))
  | 0, args, inText, fromInput => return some (args, inText, fromInput)
  | _ + 1, [], inText, fromInput => return some ([], inText, fromInput)
  | fuel + 1, arg :: rest, inText, fromInput => do
    let s ← get
    match arg.toList with
    | ['-', '-'] => return some (rest, inText, fromInput)
    | ['-'] => return some (rest, inText, fromInput)
    | '-' :: '-' :: _ =>
      if s.dialect = .bash then
        let takes := ["--rcfile", "--init-file"].contains arg
        readArguments fuel (if takes then rest.drop 1 else rest) inText fromInput
      else
        task (Task.complain (s.name ++ ": 0: Illegal option --"))
        return none
    | sign :: letters =>
      if (sign = '-' || sign = '+') && !letters.isEmpty then
        let plain := letters.filter fun c => !(['c', 's', 'o', 'i', 'l', 'm'].contains c)
        match ← switchLetters (sign == '-') plain with
        | some c =>
          task (Task.complain (if s.dialect = .posix then
              s.name ++ ": 0: Illegal option " ++ String.ofList [sign, c]
            else s.name ++ ": " ++ String.ofList [sign, c] ++ ": invalid option"))
          return none
        | none =>
          let rest ←
            if letters.contains 'o' then
              match rest with
              | option :: rest =>
                switch option (sign == '-')
                pure rest
              | [] => pure []
            else pure rest
          readArguments fuel rest (inText || letters.contains 'c') (fromInput || letters.contains 's')
      else return some (arg :: rest, inText, fromInput)
    | [] => return some (arg :: rest, inText, fromInput)

/-- What a shell does with its arguments. -/
def startWork (call : Call) : Work Unit := do
  let go := run commandDepth
  let s ← get
  match ← readArguments (call.args.length + 1) call.args false false with
  | none => throw (.exit 2)
  | some (rest, inText, fromInput) =>
    if inText then
      match rest with
      | [] =>
        task (Task.complain (if s.dialect = .posix then s.name ++ ": 0: -c requires an argument"
          else s.name ++ ": -c: option requires an argument"))
        throw (.exit 2)
      | text :: more =>
        modify fun s => { s with name := more.headD s.name, args := more.drop 1 }
        if s.dialect = .bash then switch "argument" true
        runText go (if s.dialect = .bash then "-c: " else "") text
    else if fromInput || rest.isEmpty then
      modify fun s => { s with args := rest }
      switch "stdin" true
      match ← task (Task.readAll 0) with
      | .ok text => runText go "" text
      | .error _ => pure ()
    else
      let path := rest.headD ""
      match ← scriptText path with
      | .error fault =>
        task (Task.complain (if s.dialect = .posix then
            s.name ++ ": 0: cannot open " ++ path ++ ": " ++ reasonOf false .posix fault
          else s.name ++ ": " ++ path ++ ": " ++ fault.reason))
        throw (.exit (if s.dialect = .posix then 2 else if fault == .isDirectory then 126 else 127))
      | .ok text =>
        modify fun s => { s with name := path, args := rest.drop 1 }
        runText go "" text

/-- A shell as a program. -/
def program (dialect : Dialect) : Utility := fun call w =>
  asProcess (run commandDepth) (startState dialect call w) (startWork call) w

end ReleaseKit.Shell
