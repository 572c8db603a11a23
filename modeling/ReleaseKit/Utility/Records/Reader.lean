/-
ReleaseKit.Utility.Records.Reader — reading the scripts that are run for each record.

  §1 Reading     — a state of tokens, and the small steps.
  §2 Terms       — operators in the order in which they bind.
  §3 Statements  — what is done.
  §4 Scripts     — rules and functions.
-/
import ReleaseKit.Utility.Records.Script

namespace ReleaseKit.Utility.Records

/-! ## §1 Reading -/

/-- Something that is read of tokens. -/
abbrev Reading := StateT (List Token) (Except String)

namespace Reading

def wrong {α : Type} : Reading α := throw "syntax error"

/-- The next token, which stays. -/
def peek : Reading (Option Token) := do return (← get).head?

/-- Whether the next token is an operator. -/
def isNext (s : String) : Reading Bool := do return (← get).head? == some (.op s)

/-- Takes an operator if it comes next. -/
def take? (s : String) : Reading Bool := do
  match ← get with
  | .op t :: rest =>
    if t = s then
      set rest
      return true
    else return false
  | _ => return false

/-- Takes an operator that has to come next. -/
def expect (s : String) : Reading Unit := do
  if ← take? s then return () else wrong

/-- Takes a keyword if it comes next. -/
def takeWord? (s : String) : Reading Bool := do
  match ← get with
  | .word t :: rest =>
    if t = s then
      set rest
      return true
    else return false
  | _ => return false

def skipNewlines : Reading Unit := modify fun ts => ts.dropWhile (· == .newline)

/-- Passes over what may stand between statements. -/
def skipEnds : Reading Unit := modify fun ts => ts.dropWhile fun t => t == .newline || t == .op ";"

/-- Takes one of some operators. -/
def takeOne? (ops : List String) : Reading (Option String) := do
  match ← get with
  | .op t :: rest =>
    if ops.contains t then
      set rest
      return some t
    else return none
  | _ => return none

def nameOf : Reading String := do
  match ← get with
  | .name s :: rest =>
    set rest
    return s
  | .called s :: rest =>
    set rest
    return s
  | _ => wrong

end Reading

/-! ## §2 Terms -/

/-- Whether something can be assigned to. -/
def Term.isTarget : Term → Bool
  | name _ => true
  | field _ => true
  | element _ _ => true
  | _ => false

/-- Whether a token can begin an operand that is put behind another. -/
def beginsOperand : Option Token → Bool
  | some (.number _) => true
  | some (.text _) => true
  | some (.pattern _) => true
  | some (.name _) => true
  | some (.called _) => true
  | some (.builtin _) => true
  | some (.op s) => ["$", "!", "(", "-", "+", "++", "--"].contains s
  | _ => false

/-- What a term stands in: in the list of a `print` a greater sign is no operator, and
in the head of a loop `in` is none. -/
structure Place where
  printed : Bool := false
  head : Bool := false

open Reading

mutual

/-- A term. -/
def readTerm : Nat → Place → Reading Term
  | 0, _ => wrong
  | fuel + 1, p => do
    let c ← readOr fuel p
    if ← take? "?" then
      skipNewlines
      let a ← readTerm fuel p
      skipNewlines
      expect ":"
      skipNewlines
      let b ← readTerm fuel p
      return .choice c a b
    else if c.isTarget then
      match ← takeOne? ["=", "+=", "-=", "*=", "/=", "%=", "^="] with
      | some op =>
        skipNewlines
        let value ← readTerm fuel p
        return .assign ((op.dropEnd 1).toString) c value
      | none => return c
    else
      -- an assignment to the last operand of a comparison or of a negation
      match c with
      | .binary op a b =>
        if b.isTarget && ["&&", "||", "==", "!=", "<", "<=", ">=", ">", "~", "!~"].contains op then
          match ← takeOne? ["=", "+=", "-=", "*=", "/=", "%=", "^="] with
          | some assign =>
            let value ← readTerm fuel p
            return .binary op a (.assign ((assign.dropEnd 1).toString) b value)
          | none => return c
        else return c
      | .unary "!" b =>
        if b.isTarget then
          match ← takeOne? ["="] with
          | some _ =>
            let value ← readTerm fuel p
            return .unary "!" (.assign "" b value)
          | none => return c
        else return c
      | _ => return c

def readOr : Nat → Place → Reading Term
  | 0, _ => wrong
  | fuel + 1, p => do
    let a ← readAnd fuel p
    if ← take? "||" then
      skipNewlines
      return .binary "||" a (← readOr fuel p)
    else return a

def readAnd : Nat → Place → Reading Term
  | 0, _ => wrong
  | fuel + 1, p => do
    let a ← readIn fuel p
    if ← take? "&&" then
      skipNewlines
      return .binary "&&" a (← readAnd fuel p)
    else return a

def readIn : Nat → Place → Reading Term
  | 0, _ => wrong
  | fuel + 1, p => do
    let a ← readMatch fuel p
    readInMore fuel p a

def readInMore : Nat → Place → Term → Reading Term
  | 0, _, _ => wrong
  | fuel + 1, p, a => do
    if !p.head && (← takeWord? "in") then
      let array ← nameOf
      let subscripts := match a with
        | .grouped ts => ts
        | t => [t]
      readInMore fuel p (.within subscripts array)
    else return a

def readMatch : Nat → Place → Reading Term
  | 0, _ => wrong
  | fuel + 1, p => do
    let a ← readCompare fuel p
    readMatchMore fuel p a

def readMatchMore : Nat → Place → Term → Reading Term
  | 0, _, _ => wrong
  | fuel + 1, p, a => do
    match ← takeOne? ["~", "!~"] with
    | some op =>
      let b ← readCompare fuel p
      readMatchMore fuel p (.binary op a b)
    | none => return a

def readCompare : Nat → Place → Reading Term
  | 0, _ => wrong
  | fuel + 1, p => do
    let a ← readJoined fuel p
    let ops := ["<", "<=", "!=", "==", ">="] ++ (if p.printed then [] else [">"])
    match ← takeOne? ops with
    | some op =>
      let b ← readJoined fuel p
      readPipe fuel p (.binary op a b)
    | none => readPipe fuel p a

/-- What commands print, if a pipe to `getline` follows. -/
def readPipe : Nat → Place → Term → Reading Term
  | 0, _, _ => wrong
  | fuel + 1, p, a => do
    match ← get with
    | .op "|" :: .word "getline" :: rest =>
      set rest
      let target ← readTarget? fuel
      readPipe fuel p (.getlineOf a target)
    | _ => return a

/-- Operands put behind each other. -/
def readJoined : Nat → Place → Reading Term
  | 0, _ => wrong
  | fuel + 1, p => do
    let a ← readSum fuel p
    readJoinedMore fuel p a

def readJoinedMore : Nat → Place → Term → Reading Term
  | 0, _, _ => wrong
  | fuel + 1, p, a => do
    if beginsOperand (← peek) then
      let b ← readSum fuel p
      readJoinedMore fuel p (.binary " " a b)
    else return a

def readSum : Nat → Place → Reading Term
  | 0, _ => wrong
  | fuel + 1, p => do
    let a ← readProduct fuel p
    readSumMore fuel p a

def readSumMore : Nat → Place → Term → Reading Term
  | 0, _, _ => wrong
  | fuel + 1, p, a => do
    match ← takeOne? ["+", "-"] with
    | some op =>
      let b ← readProduct fuel p
      readSumMore fuel p (.binary op a b)
    | none => return a

def readProduct : Nat → Place → Reading Term
  | 0, _ => wrong
  | fuel + 1, p => do
    let a ← readSigned fuel p
    readProductMore fuel p a

def readProductMore : Nat → Place → Term → Reading Term
  | 0, _, _ => wrong
  | fuel + 1, p, a => do
    match ← takeOne? ["*", "/", "%"] with
    | some op =>
      let b ← readSigned fuel p
      readProductMore fuel p (.binary op a b)
    | none => return a

def readSigned : Nat → Place → Reading Term
  | 0, _ => wrong
  | fuel + 1, p => do
    match ← takeOne? ["!", "-", "+"] with
    | some op => return .unary op (← readSigned fuel p)
    | none => readPower fuel p

def readPower : Nat → Place → Reading Term
  | 0, _ => wrong
  | fuel + 1, p => do
    let a ← readPostfix fuel p
    if ← take? "^" then
      match ← takeOne? ["-", "+", "!"] with
      | some op => return .binary "^" a (.unary op (← readPower fuel p))
      | none => return .binary "^" a (← readPower fuel p)
    else return a

def readPostfix : Nat → Place → Reading Term
  | 0, _ => wrong
  | fuel + 1, p => do
    let a ← readPrimary fuel p
    if a.isTarget then
      match ← takeOne? ["++", "--"] with
      | some op => return .step false (if op = "++" then 1 else -1) a
      | none => return a
    else return a

/-- A list of terms up to what closes it. -/
def readList : Nat → Reading (List Term)
  | 0 => wrong
  | fuel + 1 => do
    skipNewlines
    let a ← readTerm fuel {}
    skipNewlines
    if ← take? "," then return a :: (← readList fuel) else return [a]

/-- What may stand behind `getline`: something that can be assigned to. -/
def readTarget? : Nat → Reading (Option Term)
  | 0 => wrong
  | fuel + 1 => do
    match ← peek with
    | some (.name _) => return some (← readPrimary fuel {})
    | some (.op "$") => return some (← readPrimary fuel {})
    | _ => return none

def readPrimary : Nat → Place → Reading Term
  | 0, _ => wrong
  | fuel + 1, p => do
    match ← get with
    | .number a :: rest =>
      set rest
      return .number a
    | .text s :: rest =>
      set rest
      return .text s
    | .pattern s :: rest =>
      set rest
      return .pattern s
    | .op "(" :: rest =>
      set rest
      let ts ← readList fuel
      expect ")"
      match ts with
      | [t] => return .grouped [t]
      | ts =>
        return .grouped ts
    | .op "$" :: rest =>
      set rest
      match ← takeOne? ["++", "--", "-", "+", "!"] with
      | some "++" => return .field (.step true 1 (← readPrimary fuel p))
      | some "--" => return .field (.step true (-1) (← readPrimary fuel p))
      | some op => return .field (.unary op (← readPrimary fuel p))
      | none => return .field (← readPrimary fuel p)
    | .op "++" :: rest =>
      set rest
      return .step true 1 (← readPrimary fuel p)
    | .op "--" :: rest =>
      set rest
      return .step true (-1) (← readPrimary fuel p)
    | .op "-" :: rest =>
      set rest
      return .unary "-" (← readPrimary fuel p)
    | .op "+" :: rest =>
      set rest
      return .unary "+" (← readPrimary fuel p)
    | .op "!" :: rest =>
      set rest
      return .unary "!" (← readPrimary fuel p)
    | .name s :: rest =>
      set rest
      if ← take? "[" then
        let ts ← readList fuel
        expect "]"
        return .element s ts
      else return .name s
    | .called s :: rest =>
      set rest
      expect "("
      if ← take? ")" then return .call s []
      else
        let ts ← readList fuel
        expect ")"
        return .call s ts
    | .builtin s :: rest =>
      set rest
      if ← take? "(" then
        skipNewlines
        if ← take? ")" then return .builtin s []
        else
          let ts ← readList fuel
          expect ")"
          return .builtin s ts
      else if s = "length" then return .builtin s []
      else wrong
    | .word "getline" :: rest =>
      set rest
      let target ← readTarget? fuel
      if ← take? "<" then return .getline target (some (← readPostfix fuel p))
      else return .getline target none
    | _ => wrong

end

/-! ## §3 Statements -/

/-- Whether a statement ends here. -/
def endsStatement : Option Token → Bool
  | none => true
  | some .newline => true
  | some (.op s) => [";", "\x7d"].contains s
  | _ => false

/-- Where a `print` prints. -/
def readOutlet (fuel : Nat) : Reading Outlet := do
  match ← takeOne? [">", ">>", "|"] with
  | some ">" => return .file false (← readJoined fuel { printed := true })
  | some ">>" => return .file true (← readJoined fuel { printed := true })
  | some _ => return .pipe (← readJoined fuel { printed := true })
  | none => return .standard

/-- The terms of a `print`, with or without parentheses around them. -/
def readPrinted (fuel : Nat) : Reading (List Term) := do
  let next ← peek
  if endsStatement next || next == some (.op ">") || next == some (.op ">>") || next == some (.op "|")
  then return []
  else
    let rec more : Nat → Reading (List Term)
      | 0 => wrong
      | n + 1 => do
        let a ← readTerm n { printed := true }
        if ← take? "," then
          skipNewlines
          return a :: (← more n)
        else return [a]
    match ← more fuel with
    | [.grouped ts] => return ts
    | ts => return ts

/-- A statement without a block. -/
def readSimple (fuel : Nat) : Reading Statement := do
  if ← takeWord? "print" then
    let ts ← readPrinted fuel
    return .print ts (← readOutlet fuel)
  else if ← takeWord? "printf" then
    let ts ← readPrinted fuel
    return .printf ts (← readOutlet fuel)
  else if ← takeWord? "delete" then
    let array ← nameOf
    if ← take? "[" then
      let ts ← readList fuel
      expect "]"
      return .delete array (some ts)
    else return .delete array none
  else return .evaluate (← readTerm fuel {})

/-- Takes the end of a statement. -/
def readEnd : Reading Unit := do
  match ← get with
  | .op ";" :: rest =>
    set rest
    skipNewlines
  | .newline :: _ => skipNewlines
  | .op "\x7d" :: _ => return ()
  | [] => return ()
  | _ => wrong

mutual

def readStatement : Nat → Reading Statement
  | 0 => wrong
  | fuel + 1 => do
    match ← get with
    | .op "\x7b" :: rest =>
      set rest
      let ss ← readStatements fuel
      expect "\x7d"
      skipEnds
      return .block ss
    | .op ";" :: rest =>
      set rest
      skipNewlines
      return .block []
    | .word "if" :: rest =>
      set rest
      expect "("
      let c ← readTerm fuel {}
      expect ")"
      skipNewlines
      let a ← readStatement fuel
      -- the end of the first branch may stand before `else`
      let before ← get
      skipEnds
      if ← takeWord? "else" then
        skipNewlines
        return .choose c a (some (← readStatement fuel))
      else
        set before
        return .choose c a none
    | .word "while" :: rest =>
      set rest
      expect "("
      let c ← readTerm fuel {}
      expect ")"
      if ← take? ";" then
        skipNewlines
        return .loop c (.block [])
      else
        skipNewlines
        return .loop c (← readStatement fuel)
    | .word "do" :: rest =>
      set rest
      skipNewlines
      let body ← readStatement fuel
      skipEnds
      if !(← takeWord? "while") then wrong
      expect "("
      let c ← readTerm fuel {}
      expect ")"
      readEnd
      return .doLoop body c
    | .word "for" :: .op "(" :: .name n :: .word "in" :: .name array :: .op ")" :: rest =>
      set rest
      skipNewlines
      return .each n array (← readStatement fuel)
    | .word "for" :: rest =>
      set rest
      expect "("
      let start ← if ← isNext ";" then pure none else do pure (some (← readSimple fuel))
      expect ";"
      skipNewlines
      let c ← if ← isNext ";" then pure none else do pure (some (← readTerm fuel {}))
      expect ";"
      skipNewlines
      let next ← if ← isNext ")" then pure none else do pure (some (← readSimple fuel))
      expect ")"
      if ← take? ";" then
        skipNewlines
        return .count start c next (.block [])
      else
        skipNewlines
        return .count start c next (← readStatement fuel)
    | .word w :: rest =>
      let plain : Option Statement :=
        match w with
        | "break" => some .leaveLoop
        | "continue" => some .nextTurn
        | "next" => some .nextRecord
        | "nextfile" => some .nextFile
        | _ => none
      match plain with
      | some s =>
        set rest
        readEnd
        return s
      | none =>
        if w = "exit" || w = "return" then
          set rest
          let t ← if endsStatement (← peek) then pure none else do pure (some (← readTerm fuel {}))
          readEnd
          return if w = "exit" then .exit t else .back t
        else
          let s ← readSimple fuel
          readEnd
          return s
    | _ =>
      let s ← readSimple fuel
      readEnd
      return s

/-- Statements up to a closing brace. -/
def readStatements : Nat → Reading (List Statement)
  | 0 => wrong
  | fuel + 1 => do
    skipEnds
    if (← isNext "\x7d") || (← get).isEmpty then return []
    else
      let s ← readStatement fuel
      return s :: (← readStatements fuel)

end

/-! ## §4 Scripts -/

/-- The names of parameters up to a closing parenthesis. -/
def readParameters : Nat → Reading (List String)
  | 0 => wrong
  | fuel + 1 => do
    skipNewlines
    if ← take? ")" then return []
    else
      let n ← nameOf
      skipNewlines
      if ← take? "," then return n :: (← readParameters fuel)
      else
        expect ")"
        return [n]

/-- A block with its braces. -/
def readBlock (fuel : Nat) : Reading Statement := do
  expect "\x7b"
  let ss ← readStatements fuel
  expect "\x7d"
  return .block ss

/-- The items of a script. -/
def readItems : Nat → Script → Reading Script
  | 0, _ => wrong
  | fuel + 1, s => do
    skipEnds
    match ← get with
    | [] => return s
    | .word w :: rest =>
      if w = "function" || w = "func" then
        set rest
        let name ← nameOf
        expect "("
        let parameters ← readParameters fuel
        skipNewlines
        let body ← readBlock fuel
        readItems fuel { s with functions := s.functions ++ [⟨name, parameters, body⟩] }
      else if w = "BEGIN" || w = "END" then
        set rest
        let body ← readBlock fuel
        readItems fuel
          { s with rules := s.rules ++ [⟨if w = "BEGIN" then .begin else .finish, some body⟩] }
      else
        readRule fuel s
    | .op "\x7b" :: _ =>
      let body ← readBlock fuel
      readItems fuel { s with rules := s.rules ++ [⟨.always, some body⟩] }
    | _ => readRule fuel s
where
  /-- A rule with a condition. -/
  readRule (fuel : Nat) (s : Script) : Reading Script := do
    let a ← readTerm fuel {}
    let trigger ←
      if ← take? "," then do
        skipNewlines
        pure (Trigger.range a (← readTerm fuel {}))
      else pure (Trigger.condition a)
    let body ← if ← isNext "\x7b" then do pure (some (← readBlock fuel)) else pure none
    readItems fuel { s with rules := s.rules ++ [⟨trigger, body⟩] }

/-- The script that a text is. -/
def readScript (text : String) : Except String Script := do
  let ts ← tokens text
  let (s, _) ← (readItems (ts.length * 30 + 200) ⟨[], []⟩).run ts
  return s

end ReleaseKit.Utility.Records
