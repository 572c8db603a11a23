/-
ReleaseKit.Shell.Arithmetic — the value of an arithmetic expression.

Expressions are integers and variables, joined by the operators that C has, in
the same order of precedence. Integers have 64 bits and wrap around. A variable
may be given a value on the way; the values that were given are part of the
result.

  §1 Expressions  — `Expr`, `Fault`.
  §2 Reading      — `parse`.
  §3 Values       — `evaluate`.
-/
import ReleaseKit.Shell.Script
import ReleaseKit.Utility.Printf

namespace ReleaseKit.Shell.Arithmetic

/-! ## §1 Expressions -/

/-- Why an expression has no value. -/
inductive Fault where
  | noOperand
  | leftOver
  | noColon
  | noParenthesis
  | divisionByZero
  | notNumber (text : String)
  | tooDeep
deriving DecidableEq, Repr

/-- An operator on two integers. -/
structure Operator where
  text : String
  strength : Nat
  apply : Int → Int → Option Int

/-- What is said of an expression that has no value. -/
def Fault.message (dialect : Dialect) (expression : String) (fault : Fault) : String :=
  match dialect, fault with
  | _, .notNumber text =>
    if dialect = .posix then "Illegal number: " ++ text
    else text ++ ": value too great for base (error token is \"" ++ text ++ "\")"
  | .posix, fault =>
    let reason :=
      match fault with
      | .noOperand => "expecting primary"
      | .leftOver => "expecting EOF"
      | .noColon => "expecting ':'"
      | .noParenthesis => "expecting ')'"
      | .divisionByZero => "division by zero"
      | _ => "expression too deep"
    "arithmetic expression: " ++ reason ++ ": \"" ++ expression ++ "\""
  | .bash, .divisionByZero => expression ++ ": division by 0 (error token is \"0\")"
  | .bash, .noOperand =>
    expression ++ ": syntax error: operand expected (error token is \"" ++ expression ++ "\")"
  | .bash, _ => expression ++ ": syntax error in expression"

/-- An expression. -/
inductive Expr where
  | number (n : Int)
  | variable (name : String)
  | element (name : String) (index : Expr)
  | unary (op : Char) (e : Expr)
  | binary (op : Operator) (a b : Expr)
  | and (a b : Expr)
  | or (a b : Expr)
  | choose (c a b : Expr)
  | assign (target : Expr) (op : Option Operator) (e : Expr)
  /-- a variable moved by one, before or after its value is taken -/
  | moved (target : Expr) (step : Int) (after : Bool)
  | sequence (a b : Expr)

/-- An integer as 64 bits hold it. -/
def wrap (n : Int) : Int := (Int64.ofInt n).toInt

def truth (b : Bool) : Int := if b then 1 else 0

/-- The operators on two integers, those that start like others first. -/
def operators : List Operator :=
  let bits (f : Int64 → Int64 → Int64) (a b : Int) : Option Int :=
    some (f (Int64.ofInt a) (Int64.ofInt b)).toInt
  [⟨"**", 12, fun a b => if b < 0 then none else some (power a b.toNat)⟩,
    ⟨"<<", 9, fun a b => bits (fun x y => x <<< y) a (b % 64)⟩,
    ⟨">>", 9, fun a b => bits (fun x y => x >>> y) a (b % 64)⟩,
    ⟨"==", 7, fun a b => some (truth (a == b))⟩, ⟨"!=", 7, fun a b => some (truth (a != b))⟩,
    ⟨"<=", 8, fun a b => some (truth (a ≤ b))⟩, ⟨">=", 8, fun a b => some (truth (a ≥ b))⟩,
    ⟨"<", 8, fun a b => some (truth (a < b))⟩, ⟨">", 8, fun a b => some (truth (a > b))⟩,
    ⟨"|", 4, bits (fun x y => x ||| y)⟩, ⟨"^", 5, bits (fun x y => x ^^^ y)⟩,
    ⟨"&", 6, bits (fun x y => x &&& y)⟩,
    ⟨"+", 10, fun a b => some (a + b)⟩, ⟨"-", 10, fun a b => some (a - b)⟩,
    ⟨"*", 11, fun a b => some (a * b)⟩,
    ⟨"/", 11, fun a b => if b = 0 then none else some (a.tdiv b)⟩,
    ⟨"%", 11, fun a b => if b = 0 then none else some (a.tmod b)⟩]
where
  power (a : Int) : Nat → Int
    | 0 => 1
    | n + 1 => wrap (a * power a n)

/-! ## §2 Reading -/

/-- An expression or a fault, and what has not been read. -/
abbrev Parsed := Except Fault (Expr × List Char)

def skipBlanks (chars : List Char) : List Char := chars.dropWhile Char.isWhitespace

/-- The integer that a text starts with, and what follows it. One that is too great
is cut to the greatest by the smaller shell, and wraps around in the larger. -/
def readNumber (dialect : Dialect) (chars : List Char) : Except Fault (Int × List Char) :=
  let (base, digits, rest) := Printf.integerDigits chars
  let n := Amount.ofDigits base digits
  if dialect = .posix then .ok (min n (Printf.half - 1), rest)
  else
    let isWord (c : Char) : Bool := c.isAlphanum || c == '_'
    match rest with
    | '#' :: more =>
      let taken := more.takeWhile Char.isAlphanum
      .ok (wrap (Amount.ofDigits (Amount.ofDigits 10 digits) taken), more.drop taken.length)
    | c :: _ =>
      if isWord c then .error (.notNumber (String.ofList (chars.takeWhile isWord)))
      else .ok (wrap n, rest)
    | [] => .ok (wrap n, rest)

/-- The operators that give a variable a value, with what they compute first. -/
def assignments : List (String × Option Operator) :=
  ("=", none) :: ["*", "/", "%", "+", "-", "<<", ">>", "&", "^", "|"].map fun text =>
    (text ++ "=", operators.find? fun op => op.text == text)

/-- The operator that a text starts with, which is no assignment and no part of
another operator. -/
def findOperator (dialect : Dialect) (least : Nat) (chars : List Char) : Option Operator :=
  let starts (text : String) : Bool := text.toList.isPrefixOf chars
  let assigns : Bool :=
    assignments.any fun (text, op) => op.isSome && starts text
  if assigns || starts "&&" || starts "||" then none
  else
    match operators.find? fun op => starts op.text && (op.text != "**" || dialect == .bash) with
    | some op => if least ≤ op.strength then some op else none
    | none => none

/-- The assignment that a text starts with. -/
def findAssignment (chars : List Char) : Option (String × Option Operator) :=
  assignments.find? fun (text, op) =>
    text.toList.isPrefixOf chars && (op.isSome || !"==".toList.isPrefixOf chars)

mutual

/-- Expressions joined by commas. -/
def sequence (dialect : Dialect) : Nat → List Char → Parsed
  | 0, _ => .error .tooDeep
  | fuel + 1, chars => do
    let (a, rest) ← ternary dialect fuel chars
    match skipBlanks rest with
    | ',' :: rest =>
      if dialect = .bash then
        let (b, rest) ← sequence dialect fuel rest
        pure (.sequence a b, rest)
      else pure (a, ',' :: rest)
    | rest => pure (a, rest)

/-- A choice between two expressions, or something that binds more strongly. -/
def ternary (dialect : Dialect) : Nat → List Char → Parsed
  | 0, _ => .error .tooDeep
  | fuel + 1, chars => do
    let (c, rest) ← disjunction dialect fuel chars
    match skipBlanks rest with
    | '?' :: rest =>
      let (a, rest) ← ternary dialect fuel rest
      match skipBlanks rest with
      | ':' :: rest =>
        let (b, rest) ← ternary dialect fuel rest
        pure (.choose c a b, rest)
      | _ => .error .noColon
    | rest => pure (c, rest)

/-- Expressions joined by or. -/
def disjunction (dialect : Dialect) : Nat → List Char → Parsed
  | 0, _ => .error .tooDeep
  | fuel + 1, chars => do
    let (a, rest) ← conjunction dialect fuel chars
    match skipBlanks rest with
    | '|' :: '|' :: rest =>
      let (b, rest) ← disjunction dialect fuel rest
      pure (.or a b, rest)
    | rest => pure (a, rest)

/-- Expressions joined by and. -/
def conjunction (dialect : Dialect) : Nat → List Char → Parsed
  | 0, _ => .error .tooDeep
  | fuel + 1, chars => do
    let (a, rest) ← binary dialect fuel 4 chars
    match skipBlanks rest with
    | '&' :: '&' :: rest =>
      let (b, rest) ← conjunction dialect fuel rest
      pure (.and a b, rest)
    | rest => pure (a, rest)

/-- Operands joined by operators that bind at least as strongly as `least`. -/
def binary (dialect : Dialect) : Nat → Nat → List Char → Parsed
  | 0, _, _ => .error .tooDeep
  | fuel + 1, least, chars => do
    let (a, rest) ← operand dialect fuel chars
    continued dialect fuel least a rest

/-- An operand with the operators that follow it. -/
def continued (dialect : Dialect) : Nat → Nat → Expr → List Char → Parsed
  | 0, _, _, _ => .error .tooDeep
  | fuel + 1, least, a, chars =>
    let rest := skipBlanks chars
    match findOperator dialect least rest with
    | none => .ok (a, rest)
    | some op => do
      let next := if op.text = "**" then op.strength else op.strength + 1
      let (b, rest) ← binary dialect fuel next (rest.drop op.text.length)
      continued dialect fuel least (.binary op a b) rest

/-- An operand. -/
def operand (dialect : Dialect) : Nat → List Char → Parsed
  | 0, _ => .error .tooDeep
  | fuel + 1, chars =>
    let bash := dialect == .bash
    match skipBlanks chars with
    | [] => .error .noOperand
    | '(' :: rest => do
      let (e, rest) ← sequence dialect fuel rest
      match skipBlanks rest with
      | ')' :: rest => pure (e, rest)
      | _ => .error .noParenthesis
    | c :: rest =>
      let twice := bash && (c == '+' || c == '-') && rest.head? == some c
      if twice && ((skipBlanks (rest.drop 1)).head?.map fun d => d.isAlpha || d == '_') == some true then do
        let (e, rest) ← operand dialect fuel (rest.drop 1)
        pure (.moved e (if c = '+' then 1 else -1) false, rest)
      else if ['-', '+', '!', '~'].contains c then do
        let (e, rest) ← operand dialect fuel rest
        pure (.unary c e, rest)
      else if c.isDigit then do
        let (n, rest) ← readNumber dialect (c :: rest)
        pure (.number n, rest)
      else
        let (name, rest) := splitName (c :: rest)
        if name = "" then .error .noOperand
        else do
          let (target, rest) ←
            match rest with
            | '[' :: inside =>
              if bash then do
                let (index, left) ← sequence dialect fuel inside
                match skipBlanks left with
                | ']' :: left => pure (Expr.element name index, left)
                | _ => .error .noOperand
              else pure (Expr.variable name, rest)
            | _ => pure (Expr.variable name, rest)
          let left := skipBlanks rest
          match findAssignment left with
          | some (text, op) =>
            let (e, rest) ← ternary dialect fuel (left.drop text.length)
            pure (.assign target op e, rest)
          | none =>
            if bash && left.take 2 == ['+', '+'] then pure (.moved target 1 true, left.drop 2)
            else if bash && left.take 2 == ['-', '-'] then pure (.moved target (-1) true, left.drop 2)
            else pure (target, rest)

end

/-- The expression that a text is; nothing counts as zero. -/
def parse (dialect : Dialect) (chars : List Char) : Except Fault Expr :=
  if (skipBlanks chars).isEmpty then .ok (.number 0)
  else
    match sequence dialect (12 * chars.length + 20) chars with
    | .error fault => .error fault
    | .ok (e, rest) => if (skipBlanks rest).isEmpty then .ok e else .error .leftOver

/-! ## §3 Values -/

/-- A value that a variable, or an item of it, was given. -/
abbrev Given := String × Option Int × Int

/-- Computes with variables: the values given so far, the last first. -/
abbrev Computation := ExceptT Fault (StateM (List Given))

/-- What is known of variables: the text of each, and how a text is read as an
integer. -/
structure Variables where
  text : String → Option Int → String
  number : String → Except Fault Int

/-- The value of a variable. -/
def lookup (vars : Variables) (name : String) (index : Option Int) : Computation Int := do
  match (← get).find? fun (other, place, _) => other == name && place == index with
  | some (_, _, n) => return n
  | none =>
    match vars.number (vars.text name index) with
    | .ok n => return n
    | .error fault => throw fault

mutual

/-- The value of an expression. -/
def value (vars : Variables) : Expr → Computation Int
  | .number n => return n
  | .variable name => lookup vars name none
  | .element name index => do lookup vars name (some (← value vars index))
  | .unary op e => do
    let n ← value vars e
    return match op with
      | '-' => wrap (-n)
      | '!' => truth (n == 0)
      | '~' => -n - 1
      | _ => n
  | .binary op a b => do
    let m ← value vars a
    let n ← value vars b
    match op.apply m n with
    | some r => return wrap r
    | none => throw .divisionByZero
  | .and a b => do
    if (← value vars a) = 0 then return 0
    else return truth ((← value vars b) != 0)
  | .or a b => do
    if (← value vars a) != 0 then return 1
    else return truth ((← value vars b) != 0)
  | .choose c a b => do
    if (← value vars c) != 0 then value vars a else value vars b
  | .sequence a b => do
    let _ ← value vars a
    value vars b
  | .assign target op e => do
    let n ← value vars e
    let (name, index) ← place vars target
    match op with
    | none =>
      modify fun given => (name, index, n) :: given
      return n
    | some op =>
      match op.apply (← lookup vars name index) n with
      | some r =>
        modify fun given => (name, index, wrap r) :: given
        return wrap r
      | none => throw .divisionByZero
  | .moved target step after => do
    let (name, index) ← place vars target
    let n ← lookup vars name index
    modify fun given => (name, index, wrap (n + step)) :: given
    return if after then n else wrap (n + step)

/-- What an assignment is made to. -/
def place (vars : Variables) : Expr → Computation (String × Option Int)
  | .variable name => return (name, none)
  | .element name index => do return (name, some (← value vars index))
  | _ => throw .noOperand

end

/-- A text as the smaller shell reads it when it is the value of a variable: one
integer, with blanks around it. -/
def plainNumber (text : String) : Except Fault Int :=
  let trimmed := (skipBlanks text.toList.reverse).reverse
  if trimmed.isEmpty then .ok 0
  else
    match Printf.readInteger true trimmed with
    | (n, .none) => .ok n
    | _ => .error (.notNumber text)

/-- The value of a text as an expression. In the larger shell the values of
variables are expressions too, to a depth. -/
def evaluateWithin (dialect : Dialect) (text : String → Option Int → String) :
    Nat → List Char → Except Fault Int × List Given
  | 0, _ => (.error .tooDeep, [])
  | depth + 1, chars =>
    match parse dialect chars with
    | .error fault => (.error fault, [])
    | .ok e =>
      let number (s : String) : Except Fault Int :=
        if dialect = .bash then (evaluateWithin dialect text depth s.toList).1 else plainNumber s
      (value ⟨text, number⟩ e).run []

/-- The value of an expression, and the values that it gives variables, the first
one first. -/
def evaluate (dialect : Dialect) (text : String → Option Int → String) (chars : List Char) :
    Except Fault Int × List Given :=
  let (result, given) := evaluateWithin dialect text 64 chars
  (result, given.reverse)

end ReleaseKit.Shell.Arithmetic
