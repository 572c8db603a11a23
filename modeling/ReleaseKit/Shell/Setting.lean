/-
ReleaseKit.Shell.Setting — the settings of a shell that are on or off.

A setting has a name and may have a letter. Each dialect has its own, and lists
them in an order of its own.

  §1 Letters  — `letters`, `ofLetter?`.
  §2 Names    — `names`, `row`.
-/
import ReleaseKit.Shell.Script

namespace ReleaseKit.Shell.Setting

/-! ## §1 Letters -/

/-- The letters of the settings, in the order in which `$-` shows them. -/
def letters : Dialect → List (String × Char)
  | .posix =>
    [("errexit", 'e'), ("noglob", 'f'), ("ignoreeof", 'I'), ("interactive", 'i'), ("monitor", 'm'),
      ("noexec", 'n'), ("stdin", 's'), ("xtrace", 'x'), ("verbose", 'v'), ("vi", 'V'),
      ("emacs", 'E'), ("noclobber", 'C'), ("allexport", 'a'), ("notify", 'b'), ("nounset", 'u')]
  | .bash =>
    [("allexport", 'a'), ("notify", 'b'), ("errexit", 'e'), ("noglob", 'f'), ("hashall", 'h'),
      ("interactive", 'i'), ("keyword", 'k'), ("monitor", 'm'), ("noexec", 'n'),
      ("privileged", 'p'), ("onecmd", 't'), ("nounset", 'u'), ("verbose", 'v'), ("xtrace", 'x'),
      ("braceexpand", 'B'), ("noclobber", 'C'), ("errtrace", 'E'), ("histexpand", 'H'),
      ("physical", 'P'), ("functrace", 'T'), ("argument", 'c'), ("stdin", 's')]

/-- The setting of a letter, if a script may change it. -/
def ofLetter? (dialect : Dialect) (c : Char) : Option String :=
  if dialect = .bash && ['i', 'c', 's'].contains c then none
  else ((letters dialect).find? fun (_, letter) => letter == c).map (·.1)

/-- The settings that are on when a shell starts. -/
def atStart : Dialect → List String
  | .posix => []
  | .bash => ["hashall", "braceexpand", "interactive-comments"]

/-! ## §2 Names -/

/-- The names that `set -o` knows, in the order of its list. -/
def names : Dialect → List String
  | .posix =>
    ["errexit", "noglob", "ignoreeof", "interactive", "monitor", "noexec", "stdin", "xtrace",
      "verbose", "vi", "emacs", "noclobber", "allexport", "notify", "nounset", "privileged", "nolog",
      "debug"]
  | .bash =>
    ["allexport", "braceexpand", "emacs", "errexit", "errtrace", "functrace", "hashall",
      "histexpand", "history", "ignoreeof", "interactive-comments", "keyword", "monitor",
      "noclobber", "noexec", "noglob", "nolog", "notify", "nounset", "onecmd", "physical",
      "pipefail", "posix", "privileged", "verbose", "vi", "xtrace"]

/-- A name and whether it is on, in columns. -/
def row (dialect : Dialect) (name : String) (on : Bool) : String :=
  let width := if dialect = .posix then 16 else 15
  name ++ String.ofList (List.replicate (width - name.length) ' ') ++
    (if dialect = .posix then "" else "\t") ++ (if on then "on" else "off") ++ "\n"

/-- The command that gives a setting the state that it has. -/
def command (name : String) (on : Bool) : String :=
  "set " ++ (if on then "-o " else "+o ") ++ name ++ "\n"

/-- What `set -o` prints, or `set +o`, with the settings that are on. -/
def listing (dialect : Dialect) (asCommands : Bool) (on : List String) : String :=
  let rows := (names dialect).map fun name =>
    if asCommands then command name (on.contains name) else row dialect name (on.contains name)
  (if dialect = .posix && !asCommands then "Current option settings\n" else "") ++ String.join rows

end ReleaseKit.Shell.Setting
