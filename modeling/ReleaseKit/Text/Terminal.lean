/-
ReleaseKit.Text.Terminal — what of a text a plain listing shows.

A text from outside may hold the control sequences of terminals. Where it is
shown without styles, only what a terminal would print of it is kept: no
sequence, and no control character but those that are blanks. A blank inside a
sequence ends it.

  §1 Sequences  — `Mode`, `Mode.next`: where a reader of sequences stands.
  §2 Texts      — `shown`.
-/
import ReleaseKit.Text.Utf8

namespace ReleaseKit.Text

/-! ## §1 Sequences -/

/-- Where a reader of control sequences stands. -/
inductive Mode where
  /-- outside any sequence -/
  | ground
  | escape
  | escapeMiddle
  /-- a sequence with numbers, at its start -/
  | controlStart
  | controlNumbers
  | controlMiddle
  | controlSkipped
  /-- a string that a device gets, at its start -/
  | deviceStart
  | deviceNumbers
  | deviceMiddle
  | deviceSkipped
  | deviceText
  /-- a command of the window system -/
  | window
  /-- a string that nothing is done with -/
  | ignored
deriving DecidableEq, Repr

/-- What becomes of a character. -/
inductive Showing where
  | kept
  | dropped
deriving DecidableEq, Repr

/-- The control characters that are blanks: tab, line feed, form feed and
carriage return. -/
def isControlBlank (n : Nat) : Bool := n == 9 || n == 10 || n == 12 || n == 13

namespace Mode

/-- Whether control characters are acted on, rather than swallowed. -/
def executes : Mode → Bool
  | ground | escape | escapeMiddle | controlStart | controlNumbers | controlMiddle
  | controlSkipped => true
  | _ => false

/-- Where a printable character of ASCII leads to. -/
def onPrintable (m : Mode) (n : Nat) : Mode :=
  let middle := 0x20 ≤ n && n ≤ 0x2F
  let digit := 0x30 ≤ n && n ≤ 0x3B
  let mark := 0x3C ≤ n && n ≤ 0x3F
  match m with
  | ground => ground
  | escape =>
    if middle then escapeMiddle
    else if n = 0x5B then controlStart
    else if n = 0x5D then window
    else if n = 0x50 then deviceStart
    else if n = 0x58 ∨ n = 0x5E ∨ n = 0x5F then ignored
    else ground
  | escapeMiddle => if middle then escapeMiddle else ground
  | controlStart =>
    if middle then controlMiddle else if digit || mark then controlNumbers else ground
  | controlNumbers =>
    if middle then controlMiddle
    else if digit then controlNumbers
    else if mark then controlSkipped
    else ground
  | controlMiddle =>
    if middle then controlMiddle else if digit || mark then controlSkipped else ground
  | controlSkipped => if n < 0x40 then controlSkipped else ground
  | deviceStart =>
    if middle then deviceMiddle else if digit || mark then deviceNumbers else deviceText
  | deviceNumbers =>
    if middle then deviceMiddle
    else if digit then deviceNumbers
    else if mark then deviceSkipped
    else deviceText
  | deviceMiddle =>
    if middle then deviceMiddle else if digit || mark then deviceSkipped else deviceText
  | deviceSkipped => deviceSkipped
  | deviceText => deviceText
  | window => window
  | ignored => ignored

/-- What becomes of a character of ASCII, and where it leads to. -/
def next (m : Mode) (n : Nat) : Mode × Showing :=
  if n = 0x1B then (escape, .dropped)
  else if n = 0x18 ∨ n = 0x1A then (ground, .dropped)
  else if n < 0x20 then
    if m = .window ∧ n = 7 then (ground, .dropped)
    else if m.executes && isControlBlank n then (ground, .kept)
    else (m, .dropped)
  else if n = 0x7F then (m, .dropped)
  else if m = .ground then (ground, .kept)
  else (m.onPrintable n, .dropped)

end Mode

/-! ## §2 Texts -/

/-- What is shown of the characters from where a reader stands. A character
outside ASCII inside a sequence loses its first byte, and what is left of it is
no character any more. -/
def shownFrom : Mode → List Char → List Char
  | _, [] => []
  | m, c :: rest =>
    if c.toNat < 0x80 then
      match m.next c.toNat with
      | (after, .kept) => c :: shownFrom after rest
      | (after, .dropped) => shownFrom after rest
    else if m = .ground then c :: shownFrom .ground rest
    else List.replicate (c.utf8Size - 1) replacement ++ shownFrom .ground rest

/-- What is shown of a text. -/
def shown (s : String) : String := String.ofList (shownFrom .ground s.toList)

/-- Printable characters are shown as they are. -/
theorem shownFrom_ground_of_printable {l : List Char}
    (h : ∀ c ∈ l, 0x20 ≤ c.toNat ∧ c.toNat ≠ 0x7F) : shownFrom .ground l = l := by
  induction l with
  | nil => rfl
  | cons c rest ih =>
    have hc := h c List.mem_cons_self
    have hrest := ih fun d hd => h d (List.mem_cons_of_mem c hd)
    unfold shownFrom
    split
    · have h₁ : c.toNat ≠ 0x1B := by omega
      have h₂ : ¬ (c.toNat = 0x18 ∨ c.toNat = 0x1A) := by omega
      have h₃ : ¬ c.toNat < 0x20 := by omega
      simp [Mode.next, h₁, h₂, h₃, hc.2, hrest]
    · rw [if_pos rfl, hrest]

end ReleaseKit.Text
