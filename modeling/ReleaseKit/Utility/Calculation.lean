/-
ReleaseKit.Utility.Calculation — programs that compute with their arguments.

  §1 Values       — `expr` works on texts, some of which are numbers.
  §2 Expressions  — operators in the order in which they bind.
  §3 Programs     — `expr`, `factor`.
-/
import ReleaseKit.Text.Expression
import ReleaseKit.Utility.Order

namespace ReleaseKit.Utility

namespace Calculation

/-! ## §1 Values -/

/-- What went wrong: a text and an exit code. -/
abbrev Failure := String × Nat

/-- A text as an integer. -/
def integer? (text : String) : Option Int :=
  match text.toList with
  | '-' :: digits =>
    if !digits.isEmpty && digits.all Char.isDigit then some (-(Amount.ofDigits 10 digits : Int)) else none
  | digits =>
    if !digits.isEmpty && digits.all Char.isDigit then some (Amount.ofDigits 10 digits) else none

/-- Whether a value counts as nothing: an empty text, or a zero. -/
def isNothing (text : String) : Bool :=
  text = "" || (integer? text == some 0)

/-- A text matched from its start: what the first group took, or how much fitted. -/
def matched (text pattern : String) : Except Failure String :=
  match Regex.parse false pattern.toList with
  | .error e => .error (e, 2)
  | .ok (r, groups) =>
    let s : Regex.Subject := { chars := text.toList.toArray }
    match Regex.fitAt s r 0 with
    | some f =>
      .ok (if groups = 0 then toString (f.last - f.first) else String.ofList (f.group s 1))
    | none => .ok (if groups = 0 then "0" else "")

/-- Computes with two numbers. -/
def compute (op : String) (a b : String) : Except Failure String :=
  match integer? a, integer? b with
  | some m, some n =>
    match op with
    | "+" => .ok (toString (m + n))
    | "-" => .ok (toString (m - n))
    | "*" => .ok (toString (m * n))
    | _ =>
      if n = 0 then .error ("division by zero", 2)
      else if op = "/" then .ok (toString (Int.tdiv m n))
      else .ok (toString (Int.tmod m n))
  | _, _ => .error ("non-integer argument", 2)

/-- Compares two values: as numbers if both are, as texts if not. -/
def related (op : String) (a b : String) : String :=
  let order :=
    match integer? a, integer? b with
    | some m, some n => compare m n
    | _, _ => compareChars a.toList b.toList
  let holds : Bool :=
    match op with
    | "<" => order == .lt
    | "<=" => order != .gt
    | "=" => order == .eq
    | "==" => order == .eq
    | "!=" => order != .eq
    | ">=" => order != .lt
    | _ => order == .gt
  if holds then "1" else "0"

/-! ## §2 Expressions -/

/-- What has been read: a value, and what follows it. -/
abbrev Computed := Except Failure (String × List String)

/-- The operators of a level, the loosest first. -/
def levels : List (List String) :=
  [["|"], ["&"], ["<", "<=", "=", "==", "!=", ">=", ">"], ["+", "-"], ["*", "/", "%"], [":"]]

/-- What an operator does. -/
def operate (op a b : String) : Except Failure String :=
  if op = "|" then .ok (if !isNothing a then a else if !isNothing b then b else "0")
  else if op = "&" then .ok (if isNothing a || isNothing b then "0" else a)
  else if op = ":" then matched a b
  else if ["+", "-", "*", "/", "%"].contains op then compute op a b
  else .ok (related op a b)

/-- The failure of words that are no expression. -/
def wrongArgument (before : String) : Failure :=
  ("syntax error: missing argument after " ++ Quotes.always before, 2)

mutual

/-- An expression of operators of some levels. -/
def readLevel : Nat → List (List String) → List String → Computed
  | 0, _, _ => .error ("syntax error", 2)
  | fuel + 1, [], words => readPrimary fuel words
  | fuel + 1, ops :: tighter, words =>
    match readLevel fuel tighter words with
    | .error e => .error e
    | .ok (value, rest) => readMore fuel ops tighter value rest

/-- The operators of one level that follow a value. -/
def readMore : Nat → List String → List (List String) → String → List String → Computed
  | 0, _, _, _, _ => .error ("syntax error", 2)
  | fuel + 1, ops, tighter, value, words =>
    match words with
    | op :: rest =>
      if ops.contains op then
        if rest.isEmpty then .error (wrongArgument op)
        else
          match readLevel fuel tighter rest with
          | .error e => .error e
          | .ok (other, left) =>
            match operate op value other with
            | .error e => .error e
            | .ok result => readMore fuel ops tighter result left
      else .ok (value, words)
    | [] => .ok (value, [])

/-- A word, a function or an expression in parentheses. -/
def readPrimary : Nat → List String → Computed
  | 0, _ => .error ("syntax error", 2)
  | _ + 1, [] => .error ("syntax error: missing argument", 2)
  | fuel + 1, word :: rest =>
    let argument (rest : List String) : Computed :=
      if rest.isEmpty then .error (wrongArgument word) else readPrimary fuel rest
    match word with
    | "(" =>
      match readLevel fuel levels rest with
      | .error e => .error e
      | .ok (value, ")" :: left) => .ok (value, left)
      | .ok (_, other :: _) =>
        .error ("syntax error: expecting ')' instead of " ++ Quotes.always other, 2)
      | .ok (_, []) => .error ("syntax error: expecting ')' after " ++ Quotes.always (rest.getLastD ""), 2)
    | ")" => .error ("syntax error: unexpected ')'", 2)
    | "+" =>
      match rest with
      | next :: left => .ok (next, left)
      | [] => .error (wrongArgument word)
    | "length" =>
      match argument rest with
      | .ok (s, left) => .ok (toString s.length, left)
      | .error e => .error e
    | "match" =>
      match argument rest with
      | .error e => .error e
      | .ok (s, left) =>
        match argument left with
        | .error e => .error e
        | .ok (pattern, left) => (matched s pattern).map fun v => (v, left)
    | "index" =>
      match argument rest with
      | .error e => .error e
      | .ok (s, left) =>
        match argument left with
        | .error e => .error e
        | .ok (set, left) =>
          .ok (match s.toList.findIdx? set.toList.contains with
            | some i => toString (i + 1)
            | none => "0", left)
    | "substr" =>
      match argument rest with
      | .error e => .error e
      | .ok (s, left) =>
        match argument left with
        | .error e => .error e
        | .ok (first, left) =>
          match argument left with
          | .error e => .error e
          | .ok (count, left) =>
            let value :=
              match integer? first, integer? count with
              | some i, some n =>
                if i ≤ 0 || n ≤ 0 then ""
                else String.ofList ((s.toList.drop (i.toNat - 1)).take n.toNat)
              | _, _ => ""
            .ok (value, left)
    | other => .ok (other, rest)

end

/-! ## §3 Programs -/

/-- The value of words. -/
def evaluate (words : List String) : Except Failure String :=
  match readLevel (words.length * 10 + 20) levels words with
  | .error e => .error e
  | .ok (value, []) => .ok value
  | .ok (_, extra :: _) =>
    .error ("syntax error: unexpected argument " ++ Quotes.always extra, 2)

/-- The prime factors of a number, from a divisor on. -/
def primeFactors : Nat → Nat → Nat → List Nat
  | 0, n, _ => if n < 2 then [] else [n]
  | fuel + 1, n, d =>
    if n < 2 then []
    else if n < d * d then [n]
    else if n % d = 0 then d :: primeFactors fuel (n / d) d
    else primeFactors fuel n (d + 1)

end Calculation

def expr : Utility := fun call => do
  let words := match call.args with
    | "--" :: rest => rest
    | rest => rest
  if words.isEmpty then call.usage "missing operand" 2
  else
    match Calculation.evaluate words with
    | .error (text, code) => call.fail text code
    | .ok value => emit call (value ++ "\n") (if Calculation.isNothing value then 1 else 0)

def factor : Utility := fun call => do
  let words ←
    if call.args.isEmpty then do
      match ← Task.readAll 0 with
      | .ok text => pure (splitWords text)
      | .error _ => pure []
    else pure call.args
  let mut code := 0
  for word in words do
    match word.toNat? with
    | some n =>
      Task.say (word ++ ":" ++
        String.join ((Calculation.primeFactors 1000000 n 2).map fun p => " " ++ toString p) ++ "\n")
    | none => code ← call.fail (Quotes.always word ++ " is not a valid positive integer")
  return code

end ReleaseKit.Utility
