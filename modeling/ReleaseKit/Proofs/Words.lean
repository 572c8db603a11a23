/-
ReleaseKit.Proofs.Words — what is shown as typed reads back.

A command line is shown as it would be typed, so it should be read as a shell reads
it: blanks part words, what stands between single quotes is literal, and so is what
follows a backslash. The reader here takes one character after another and knows
nothing of how words are quoted. It stops at the first unquoted character that it
has no rule for. A quoted word then reads back whole, wherever it stands
(`scan_quote`), so the words of a command line neither merge nor part
(`typed_commands_read_back`).

  §1 Reading  — `scan`: the words of a text and where they end.
  §2 Quoting  — a quoted word, and what may stand after it.
  §3 Commands — `CommandLine.ofText?`: variables, a program and its arguments.
-/
import ReleaseKit.Toolchain

namespace ReleaseKit

/-! ## §1 Reading -/

namespace Typed

/-- How the next character is taken. -/
inductive Quoting where
  /-- outside quotes -/
  | bare
  /-- between single quotes -/
  | quoted
  /-- after a backslash -/
  | escaped
deriving DecidableEq, Repr

/-- The characters that need no quotes. -/
def isBare (c : Char) : Bool :=
  ('A' ≤ c && c ≤ 'Z') || ('a' ≤ c && c ≤ 'z') || ('0' ≤ c && c ≤ '9') ||
    "-_./=:@,+%".toList.contains c

/-- The characters that part words. -/
def isGap (c : Char) : Bool := c == ' ' || c == '\t'

/-- What has been read of a text: its words, and what is left from the first
unquoted character that no rule is for. A text that ends inside quotes or after a
backslash leaves nothing that could be read on. -/
structure Scan where
  words : List (List Char)
  left : Option (List Char)
deriving DecidableEq, Repr

/-- The same with the word in front that has been read before, if there is one. -/
def Scan.after (word : Option (List Char)) (s : Scan) : Scan :=
  { s with words := word.toList ++ s.words }

/-- Reads words. `word` is what has been read of the word that the text goes on
with, `none` between words: quotes with nothing in them are a word too. -/
def scan : Quoting → Option (List Char) → List Char → Scan
  | .bare, word, [] => ⟨word.toList, some []⟩
  | .quoted, word, [] => ⟨word.toList, none⟩
  | .escaped, word, [] => ⟨word.toList, none⟩
  | .bare, word, c :: rest =>
    if c = '\x27' then scan .quoted (some (word.getD [])) rest
    else if c = '\\' then scan .escaped (some (word.getD [])) rest
    else if isBare c then scan .bare (some (word.getD [] ++ [c])) rest
    else if isGap c then (scan .bare none rest).after word
    else ⟨word.toList, some (c :: rest)⟩
  | .quoted, word, c :: rest =>
    if c = '\x27' then scan .bare word rest
    else scan .quoted (some (word.getD [] ++ [c])) rest
  | .escaped, word, c :: rest => scan .bare (some (word.getD [] ++ [c])) rest

theorem scan_bare (word : Option (List Char)) (c : Char) (rest : List Char) :
    scan .bare word (c :: rest) =
      if c = '\x27' then scan .quoted (some (word.getD [])) rest
      else if c = '\\' then scan .escaped (some (word.getD [])) rest
      else if isBare c then scan .bare (some (word.getD [] ++ [c])) rest
      else if isGap c then (scan .bare none rest).after word
      else ⟨word.toList, some (c :: rest)⟩ := rfl

theorem scan_quoted (word : Option (List Char)) (c : Char) (rest : List Char) :
    scan .quoted word (c :: rest) =
      if c = '\x27' then scan .bare word rest
      else scan .quoted (some (word.getD [] ++ [c])) rest := rfl

theorem scan_escaped (word : Option (List Char)) (c : Char) (rest : List Char) :
    scan .escaped word (c :: rest) = scan .bare (some (word.getD [] ++ [c])) rest := rfl

/-! ## §2 Quoting -/

/-- Unquoted are left the characters that need no quotes. -/
theorem isPlain_eq_isBare (c : Char) : Shell.isPlain c = isBare c := by
  have hupper : c.isUpper = ('A' ≤ c && c ≤ 'Z') := Bool.decide_and _ _
  have halpha : c.isAlphanum =
      (('A' ≤ c && c ≤ 'Z') || ('a' ≤ c && c ≤ 'z') || ('0' ≤ c && c ≤ '9')) := by
    rw [← hupper]
    rfl
  rw [Shell.isPlain, isBare, halpha]
  rfl

theorem isBare_ne {c : Char} (h : isBare c = true) : c ≠ '\x27' ∧ c ≠ '\\' := by
  constructor <;> rintro rfl <;> exact absurd h (by decide)

theorem scan_bare_cons {c : Char} (h : isBare c = true) (word : Option (List Char))
    (rest : List Char) :
    scan .bare word (c :: rest) = scan .bare (some (word.getD [] ++ [c])) rest := by
  rw [scan_bare, if_neg (isBare_ne h).1, if_neg (isBare_ne h).2, if_pos h]

/-- Characters that need no quotes are read as they stand. -/
theorem scan_bare_append {l : List Char} (hne : l ≠ []) (h : ∀ c ∈ l, isBare c = true)
    (word : Option (List Char)) (rest : List Char) :
    scan .bare word (l ++ rest) = scan .bare (some (word.getD [] ++ l)) rest := by
  induction l generalizing word with
  | nil => exact absurd rfl hne
  | cons c l ih =>
    rw [List.cons_append, scan_bare_cons (h c (by simp))]
    by_cases hl : l = []
    · rw [hl, List.nil_append]
    · rw [ih hl fun d hd => h d (by simp [hd])]
      simp

/-- Between quotes every character is read as itself: a single quote leaves the
quotes, comes in after a backslash, and enters them again. -/
theorem scan_quoted_append (l word rest : List Char) :
    scan .quoted (some word) (l.flatMap Shell.quotedChar ++ '\x27' :: rest) =
      scan .bare (some (word ++ l)) rest := by
  induction l generalizing word with
  | nil => simp [scan_quoted]
  | cons c l ih =>
    rw [List.flatMap_cons, List.append_assoc, Shell.quotedChar]
    split
    · rename_i hc
      subst hc
      simp [scan_quoted, scan_bare, scan_escaped, ih]
    · rename_i hc
      simp [scan_quoted, hc, ih]

/-- **A quoted word reads back**, and what stands after it is read on from there:
in front may be nothing of a word or the beginning of one. -/
theorem scan_quote (word : Option (List Char)) (w : String) (rest : List Char) :
    scan .bare word ((Shell.quote w).toList ++ rest) =
      scan .bare (some (word.getD [] ++ w.toList)) rest := by
  unfold Shell.quote
  split
  · rename_i h
    obtain ⟨hne, hall⟩ := h
    have hbare : ∀ c ∈ w.toList, isBare c = true := fun c hc => by
      rw [← isPlain_eq_isBare]
      exact List.all_eq_true.mp hall c hc
    exact scan_bare_append (mt String.toList_eq_nil_iff.mp hne) hbare word rest
  · rw [String.toList_ofList, List.append_assoc, List.cons_append, scan_bare, if_pos rfl]
    exact scan_quoted_append w.toList (word.getD []) rest

/-- In `rest` no word goes on and none begins: reading stops before `left`. -/
def Stops (rest left : List Char) : Prop :=
  ∀ word, scan .bare word rest = ⟨word.toList, some left⟩

theorem stops_nil : Stops [] [] := fun _ => rfl

/-- An unquoted character that no rule is for is where reading stops. -/
theorem stops_cons {c : Char} (h : isBare c = false ∧ c ≠ '\x27' ∧ c ≠ '\\' ∧ isGap c = false)
    (rest : List Char) : Stops (c :: rest) (c :: rest) := by
  obtain ⟨hbare, hquote, hslash, hgap⟩ := h
  intro word
  simp [scan_bare, hbare, hquote, hslash, hgap]

theorem scan_space (word : Option (List Char)) (rest : List Char) :
    scan .bare word (' ' :: rest) = (scan .bare none rest).after word := by
  rw [scan_bare]
  simp [isBare, isGap]

theorem Stops.space {rest left : List Char} (h : Stops rest left) : Stops (' ' :: rest) left := by
  intro word
  rw [scan_space, h none]
  simp [Scan.after]

/-- Two quoted words can be told apart by what is shown, where no word goes on after
them, and so can what stands there. -/
theorem quote_append_cancel {v w : String} {s t left left' : List Char} (hs : Stops s left)
    (ht : Stops t left') (h : (Shell.quote v).toList ++ s = (Shell.quote w).toList ++ t) :
    v = w ∧ s = t := by
  have hscan := congrArg (fun l => (scan .bare none l).words) h
  simp only [scan_quote, hs _, ht _] at hscan
  obtain rfl : v = w := String.toList_inj.mp (by simpa using hscan)
  exact ⟨rfl, List.append_cancel_left h⟩

/-! ## §3 Commands -/

/-- The characters of the names of variables. -/
def isNameChar (c : Char) : Bool :=
  ('A' ≤ c && c ≤ 'Z') || ('a' ≤ c && c ≤ 'z') || ('0' ≤ c && c ≤ '9') || c == '_'

/-- The names that variables can have: they do not begin with a digit. -/
def isName (name : List Char) : Bool :=
  name.all isNameChar && name.head?.any fun c => !('0' ≤ c && c ≤ '9')

/-- A word that sets a variable: its name and its value. -/
def assignment? (word : List Char) : Option (String × String) :=
  match splitOnce '=' word with
  | some (name, value) => if isName name then some (.ofList name, .ofList value) else none
  | none => none

/-- The command that words make: the first word that sets no variable is the
program. -/
def commandOf? : List (List Char) → Option CommandLine
  | [] => none
  | word :: rest =>
    match assignment? word with
    | some var => (commandOf? rest).map fun c => { c with env := var :: c.env }
    | none => some ⟨.ofList word, rest.map .ofList, []⟩

end Typed

namespace CommandLine

/-- Reads a command line that has been typed. -/
def ofText? (text : String) : Option CommandLine :=
  match Typed.scan .bare none text.toList with
  | ⟨words, some []⟩ => Typed.commandOf? words
  | _ => none

/-- A command line that can be typed: what it sets are variables, and its program is
not taken for one. -/
structure Typeable (c : CommandLine) : Prop where
  names : ∀ var ∈ c.env, Typed.isName var.1.toList = true
  program : '=' ∉ c.program.toList

end CommandLine

/-- The commands of a release. -/
inductive Toolchain.Makes : CommandLine → Prop
  | goBuild (target : Target) (ldflags : String) (output : LocalPath) (sources : List String) :
    Makes (Toolchain.goBuild target ldflags output sources)
  | upload (source : LocalPath) (dest : String) : Makes (Toolchain.upload source dest)
  | uploadDir (source : LocalPath) (dest : String) : Makes (Toolchain.uploadDir source dest)
  | grantPublicRead (url : String) : Makes (Toolchain.grantPublicRead url)
  | grantPublicReadBelow (url : String) : Makes (Toolchain.grantPublicReadBelow url)

namespace Typed

theorem isBare_of_isNameChar {c : Char} (h : isNameChar c = true) : isBare c = true ∧ c ≠ '=' := by
  refine ⟨?_, by rintro rfl; exact absurd h (by decide)⟩
  rw [isNameChar, Bool.or_eq_true, beq_iff_eq] at h
  rw [isBare, Bool.or_eq_true]
  rcases h with h | rfl
  · exact .inl h
  · exact .inr (by decide)

theorem isBare_of_mem_name {name : List Char} (h : isName name = true) :
    ∀ c ∈ name, isBare c = true ∧ c ≠ '=' := by
  rw [isName, Bool.and_eq_true, List.all_eq_true] at h
  exact fun c hc => isBare_of_isNameChar (h.1 c hc)

/-- A variable that is set reads back as one word. -/
theorem scan_variable {name : String} (h : isName name.toList = true) (value : String)
    (rest : List Char) :
    scan .bare none ((name ++ "=" ++ Shell.quote value ++ " ").toList ++ rest) =
      (scan .bare none rest).after (some (name.toList ++ '=' :: value.toList)) := by
  have hbare : ∀ c ∈ name.toList ++ ['='], isBare c = true := by
    intro c hc
    rcases List.mem_append.mp hc with hc | hc
    · exact (isBare_of_mem_name h c hc).1
    · rw [List.mem_singleton.mp hc]
      decide
  have htext : (name ++ "=" ++ Shell.quote value ++ " ").toList ++ rest =
      (name.toList ++ ['=']) ++ ((Shell.quote value).toList ++ ' ' :: rest) := by
    simp
  rw [htext, scan_bare_append (by simp) hbare, scan_quote, scan_space]
  simp

/-- Arguments read back as words, one after another. -/
theorem scan_args {rest left : List Char} (h : Stops rest left) (word : List Char)
    (args : List String) :
    scan .bare (some word)
        ((String.join (args.map fun arg => " " ++ Shell.quote arg)).toList ++ rest) =
      ⟨word :: args.map String.toList, some left⟩ := by
  induction args generalizing word with
  | nil => exact h (some word)
  | cons arg args ih =>
    have htext :
        (String.join ((arg :: args).map fun arg => " " ++ Shell.quote arg)).toList ++ rest =
          ' ' :: ((Shell.quote arg).toList ++
            ((String.join (args.map fun arg => " " ++ Shell.quote arg)).toList ++ rest)) := by
      simp [String.toList_join]
    rw [htext, scan_space, scan_quote, Option.getD_none, List.nil_append, ih]
    rfl

/-- The words of a command line. -/
def wordsOf (c : CommandLine) : List (List Char) :=
  c.env.map (fun var => var.1.toList ++ '=' :: var.2.toList) ++
    c.program.toList :: c.args.map String.toList

/-- What is shown of a command line is read as its words. -/
theorem scan_render {c : CommandLine} (h : c.Typeable) {rest left : List Char}
    (hrest : Stops rest left) :
    scan .bare none (c.render.toList ++ rest) = ⟨wordsOf c, some left⟩ := by
  obtain ⟨program, args, env⟩ := c
  have hnames : ∀ var ∈ env, isName var.1.toList = true := h.names
  clear h
  induction env with
  | nil =>
    have htext : (CommandLine.render ⟨program, args, []⟩).toList ++ rest =
        (Shell.quote program).toList ++
          ((String.join (args.map fun arg => " " ++ Shell.quote arg)).toList ++ rest) := by
      simp [CommandLine.render]
    rw [htext, scan_quote, scan_args hrest]
    rfl
  | cons var env ih =>
    have htext : (CommandLine.render ⟨program, args, var :: env⟩).toList ++ rest =
        (var.1 ++ "=" ++ Shell.quote var.2 ++ " ").toList ++
          ((CommandLine.render ⟨program, args, env⟩).toList ++ rest) := by
      simp [CommandLine.render, String.toList_join]
    rw [htext, scan_variable (hnames var (by simp)), ih fun v hv => hnames v (by simp [hv])]
    rfl

theorem assignment?_of_not_mem {word : List Char} (h : '=' ∉ word) : assignment? word = none := by
  cases hsplit : splitOnce '=' word with
  | none => rw [assignment?, hsplit]
  | some parts =>
    obtain ⟨hword, -⟩ := splitOnce_eq_some hsplit
    exact absurd (by simp [hword]) h

theorem assignment?_of_isName {name : String} (h : isName name.toList = true) (value : String) :
    assignment? (name.toList ++ '=' :: value.toList) = some (name, value) := by
  have hsplit : splitOnce '=' (name.toList ++ '=' :: value.toList) =
      some (name.toList, value.toList) :=
    splitOnce_append fun hc => (isBare_of_mem_name h _ hc).2 rfl
  simp only [assignment?, hsplit, if_pos h, String.ofList_toList]

/-- The words of a command line make it again. -/
theorem commandOf?_wordsOf {c : CommandLine} (h : c.Typeable) :
    commandOf? (wordsOf c) = some c := by
  obtain ⟨program, args, env⟩ := c
  have hprogram : '=' ∉ program.toList := h.program
  have hnames : ∀ var ∈ env, isName var.1.toList = true := h.names
  clear h
  induction env with
  | nil =>
    simp [wordsOf, commandOf?, assignment?_of_not_mem hprogram, Function.comp_def]
  | cons var env ih =>
    have hwords : wordsOf ⟨program, args, var :: env⟩ =
        (var.1.toList ++ '=' :: var.2.toList) :: wordsOf ⟨program, args, env⟩ := rfl
    rw [hwords, commandOf?, assignment?_of_isName (hnames var (by simp)),
      ih fun v hv => hnames v (by simp [hv])]
    rfl

/-- Two command lines can be told apart by what is shown, where no word goes on after
them, and so can what stands there. -/
theorem render_append_cancel {c d : CommandLine} (hc : c.Typeable) (hd : d.Typeable)
    {s t left left' : List Char} (hs : Stops s left) (ht : Stops t left')
    (h : c.render.toList ++ s = d.render.toList ++ t) : c = d ∧ s = t := by
  have hscan := congrArg (fun l => (scan .bare none l).words) h
  simp only [scan_render hc hs, scan_render hd ht] at hscan
  have hcommand := congrArg commandOf? hscan
  rw [commandOf?_wordsOf hc, commandOf?_wordsOf hd, Option.some.injEq] at hcommand
  subst hcommand
  exact ⟨rfl, List.append_cancel_left h⟩

end Typed

/-- The commands of a release set nothing but `GOOS` and `GOARCH`, and run `go` or
`gsutil`. -/
theorem Toolchain.Makes.typeable {c : CommandLine} (h : Toolchain.Makes c) : c.Typeable := by
  have hos : Typed.isName "GOOS".toList = true := by decide
  have harch : Typed.isName "GOARCH".toList = true := by decide
  have hgo : '=' ∉ go.toList := by decide
  have hgsutil : '=' ∉ gsutil.toList := by decide
  cases h with
  | goBuild target ldflags output sources =>
    refine ⟨fun var hvar => ?_, hgo⟩
    rw [Toolchain.goBuild, List.mem_cons, List.mem_singleton] at hvar
    rcases hvar with rfl | rfl
    · exact hos
    · exact harch
  | upload | uploadDir | grantPublicRead | grantPublicReadBelow =>
    exact ⟨fun _ hvar => (nomatch hvar), hgsutil⟩

/-- **What is shown as typed reads back.** A command line that sets variables and
runs a program without `=` in its name is read from its text again: the same
variables in order, the same program, the same arguments, whatever they hold. Every
command of a release is of this kind. -/
theorem typed_commands_read_back :
    (∀ c : CommandLine, c.Typeable → CommandLine.ofText? c.render = some c) ∧
      ∀ c : CommandLine, Toolchain.Makes c → c.Typeable := by
  refine ⟨fun c hc => ?_, fun c hc => hc.typeable⟩
  have hscan := Typed.scan_render hc Typed.stops_nil
  rw [List.append_nil] at hscan
  unfold CommandLine.ofText?
  rw [hscan]
  exact Typed.commandOf?_wordsOf hc

example : CommandLine.ofText? "A=b  gs'u'til \\$x ''" = some ⟨"gsutil", ["$x", ""], [("A", "b")]⟩ :=
  by decide

example : CommandLine.ofText? "gsutil cp $x" = none ∧ CommandLine.ofText? "gsutil 'cp" = none := by
  decide

/-- A command line of words that are hard to type: quotes, blanks, what a shell would
expand, and nothing at all. -/
def CommandLine.thorny : CommandLine where
  program := "it's"
  args := ["", " \n\t", "$HOME #~\\", "'\\''", "größe"]
  env := [("_A1", "'"), ("B", ""), ("B", "x=y z")]

theorem thorny_command_reads_back :
    CommandLine.thorny.Typeable ∧
      CommandLine.ofText? CommandLine.thorny.render = some CommandLine.thorny := by
  have h : CommandLine.thorny.Typeable := by
    refine ⟨fun var hvar => ?_, by decide⟩
    rw [CommandLine.thorny, List.mem_cons, List.mem_cons, List.mem_singleton] at hvar
    rcases hvar with rfl | rfl | rfl <;> decide
  exact ⟨h, typed_commands_read_back.1 .thorny h⟩

end ReleaseKit
