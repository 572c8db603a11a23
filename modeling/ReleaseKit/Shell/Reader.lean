/-
ReleaseKit.Shell.Reader — reading the commands of a script.

A script is read one line of commands after the other, so that a line that
cannot be read does no harm to those before it. Reserved words count only where
a command may start.

  §1 Words that mean something  — reserved words, aliases, assignments.
  §2 Conditions                 — what stands between double brackets.
  §3 Commands                   — from the list of a line down to a word.
  §4 Scripts                    — `Source.next`, `Source.whole`.
-/
import ReleaseKit.Shell.Word

namespace ReleaseKit.Shell

open Reading

/-! ## §1 Words that mean something -/

/-- The words that end a list of commands. -/
def closers : List String := ["do", "done", "elif", "else", "esac", "fi", "then", "\x7d"]

/-- The words that start commands that are more than words. -/
def compoundWords : List String :=
  ["if", "while", "until", "for", "case", "select", "[[", "\x7b"]

/-- The builtin commands whose names no function may take. -/
def specialCommands : List String :=
  [".", ":", "break", "continue", "eval", "exec", "exit", "export", "readonly", "return", "set",
    "shift", "times", "trap", "unset"]

/-- The text of a token that is an unquoted word. -/
def Token.plain? : Token → Option String
  | .word _ plain => plain
  | _ => none

/-- Whether a token is a reserved word or an operator. -/
def Token.isText (t : Token) (text : String) : Bool :=
  match t with
  | .word _ plain => plain == some text
  | .operator op => op == text
  | _ => false

/-- Whether a token ends a list of commands where a command may start. -/
def Token.endsList : Token → Bool
  | .finish => true
  | .operator op => [")", ";;", ";&", ";;&"].contains op
  | .word _ (some text) => closers.contains text
  | _ => false

/-- The next token that is no break of a line. -/
def nextToken (nested : Nested) : Nat → Reading Token
  | 0 => fail .tooDeep
  | fuel + 1 => do
    match ← readToken nested with
    | .newline => nextToken nested fuel
    | token => return token

/-- The next token where a command may start: an alias is replaced by its text.
`skip` says that breaks of lines do not count. -/
def commandToken (nested : Nested) (skip : Bool) : Nat → Reading Token
  | 0 => fail .tooDeep
  | fuel + 1 => do
    let token ← if skip then nextToken nested ((← get).rest.length + 2) else readToken nested
    let s ← get
    match token.plain?.bind fun name => (s.aliases.lookup name).map fun text => (name, text) with
    | some (name, text) =>
      if s.expanding.any fun (other, mark) => other == name && mark ≤ s.rest.length then return token
      else
        set { s with
          rest := text.toList ++ s.rest
          expanding := (name, s.rest.length) :: s.expanding }
        commandToken nested skip fuel
    | none => return token

/-- The parts of an index up to the bracket that ends it, and those behind it. -/
def splitIndex : List Part → Option (List Part × List Part)
  | [] => none
  | .bare text :: rest =>
    let chars := text.toList
    let inside := chars.takeWhile (· != ']')
    match chars.drop inside.length with
    | _ :: after => some ([.bare (String.ofList inside)], .bare (String.ofList after) :: rest)
    | [] => (splitIndex rest).map fun (index, after) => (.bare text :: index, after)
  | part :: rest => (splitIndex rest).map fun (index, after) => (part :: index, after)

/-- Whether a value is added, and the value, if parts go on with an equals
sign. -/
def splitValue (dialect : Dialect) : List Part → Option (Bool × List Part)
  | .bare text :: rest =>
    let value (chars : List Char) : List Part :=
      if chars.isEmpty then rest else .bare (String.ofList chars) :: rest
    match text.toList with
    | '=' :: after => some (false, value after)
    | '+' :: '=' :: after => if dialect = .bash then some (true, value after) else none
    | _ => none
  | _ => none

/-- A word as an assignment, if it is one. -/
def assignment? (dialect : Dialect) : List Part → Option Assignment
  | .bare text :: rest =>
    let (name, after) := splitName text.toList
    if name = "" then none
    else
      let parts : List Part := .bare (String.ofList after) :: rest
      match after with
      | '[' :: inside =>
        if dialect = .bash then do
          let (index, parts) ← splitIndex (.bare (String.ofList inside) :: rest)
          let (append, value) ← splitValue dialect parts
          pure (.mk name (some index) append value none)
        else none
      | _ => (splitValue dialect parts).map fun (append, value) => .mk name none append value none
  | _ => none

/-- The delimiter that a word makes: its text without quotes, and whether any of
it was quoted. -/
def delimiterOf (parts : List Part) : String × Bool :=
  (String.join (parts.map text), parts.any quoted)
where
  text : Part → String
    | .bare t => t
    | .quoted t => t
    | .double inner => String.join (inner.map fun
      | .bare t => t
      | .quoted t => t
      | .value name _ _ => "$" ++ name
      | _ => "")
    | .value name _ _ => "$" ++ name
    | _ => ""
  quoted : Part → Bool
    | .quoted _ => true
    | .double _ => true
    | _ => false

/-- The redirection that an operator and the word behind it make. -/
def readRedirect (nested : Nested) (fd : Option Nat) (op : String) : Reading Redirect := do
  match ← readToken nested with
  | .word parts _ =>
    if op = "<<" || op = "<<-" then
      let (delimiter, literal) := delimiterOf parts
      let number ← announce delimiter literal (op == "<<-")
      return .mk fd (.document number) []
    else
      let direction : Direction :=
        ([("<", .input), (">", .output), (">|", .clobber), (">>", .append), ("<>", .both),
          ("<&", .copyInput), (">&", .copyOutput), ("<<<", .text), ("&>", .outputs),
          ("&>>", Direction.appends)].lookup op).getD .input
      return .mk fd direction parts
  | token => fail (.unexpected token none)

/-- The redirections that follow a command. -/
def readRedirects (nested : Nested) : Nat → Reading (List Redirect)
  | 0 => fail .tooDeep
  | fuel + 1 => do
    match ← readToken nested with
    | .redirect fd op =>
      let first ← readRedirect nested fd op
      return first :: (← readRedirects nested fuel)
    | token =>
      giveBack token
      return []

/-- The words up to a token that is none. -/
def readWords (nested : Nested) : Nat → Reading (List (List Part))
  | 0 => fail .tooDeep
  | fuel + 1 => do
    match ← readToken nested with
    | .word parts _ => return parts :: (← readWords nested fuel)
    | token =>
      giveBack token
      return []

/-- The items of an array up to the parenthesis that closes it. -/
def readItems (nested : Nested) : Nat → Reading (List (List Part))
  | 0 => fail .tooDeep
  | fuel + 1 => do
    match ← nextToken nested ((← get).rest.length + 2) with
    | .word parts _ => return parts :: (← readItems nested fuel)
    | .operator ")" => return []
    | token => fail (.unexpected token none)

/-! ## §2 Conditions -/

/-- The operators on two words. -/
def testOperators : List String :=
  ["=", "==", "!=", "=~", "<", ">", "-eq", "-ne", "-lt", "-le", "-gt", "-ge", "-nt", "-ot", "-ef"]

/-- The word that a regular expression is: it ends at a blank. -/
def readExpression (nested : Nested) : Reading (List Part) := do
  let _ ← takeWhile fun c => c == ' ' || c == '\t'
  wordText nested (fun c => [' ', '\t', '\n'].contains c) (2 * (← get).rest.length + 10) [] []

mutual

/-- Conditions joined by or. -/
def readOr (nested : Nested) : Nat → Reading Test
  | 0 => fail .tooDeep
  | fuel + 1 => do
    let a ← readAnd nested fuel
    let token ← nextToken nested ((← get).rest.length + 2)
    if token.isText "||" then return .or a (← readOr nested fuel)
    else
      giveBack token
      return a

/-- Conditions joined by and. -/
def readAnd (nested : Nested) : Nat → Reading Test
  | 0 => fail .tooDeep
  | fuel + 1 => do
    let a ← readTest nested fuel
    let token ← nextToken nested ((← get).rest.length + 2)
    if token.isText "&&" then return .and a (← readAnd nested fuel)
    else
      giveBack token
      return a

/-- One condition. -/
def readTest (nested : Nested) : Nat → Reading Test
  | 0 => fail .tooDeep
  | fuel + 1 => do
    let token ← nextToken nested ((← get).rest.length + 2)
    if token.isText "!" then return .not (← readTest nested fuel)
    else if token.isText "(" then
      let inner ← readOr nested fuel
      let close ← nextToken nested ((← get).rest.length + 2)
      if close.isText ")" then return inner else fail (.unexpected close none)
    else
      match token with
      | .word parts plain =>
        let second ← readToken nested
        let op :=
          match second with
          | .word _ (some text) => if testOperators.contains text then text else ""
          | .redirect none "<" => "<"
          | .redirect none ">" => ">"
          | _ => ""
        if op = "=~" then return .binary parts op (← readExpression nested)
        else if op != "" then
          match ← readToken nested with
          | .word right _ => return .binary parts op right
          | other => fail (.unexpected other none)
        else
          match second, plain with
          | .word right _, some text =>
            if !second.isText "]]" && text.startsWith "-" && text.length = 2 then
              return .unary text right
            else
              giveBack second
              return .word parts
          | _, _ =>
            giveBack second
            return .word parts
      | other => fail (.unexpected other none)

end

/-! ## §3 Commands -/

/-- What a token that had to be another says. -/
def unexpected {α : Type} (token : Token) (wanted : String) : Reading α :=
  fail (.unexpected token (some ("\"" ++ wanted ++ "\"")))

/-- Puts commands together. -/
def Command.ofList : List Command → Command
  | [] => .nothing
  | [c] => c
  | commands => .list commands

mutual

/-- The commands up to a token that ends a list, which is left. -/
def readList (fuel : Nat) (mayBeEmpty : Bool) : Reading Command :=
  match fuel with
  | 0 => fail .tooDeep
  | fuel + 1 => do
    let token ← commandToken (nestedOf fuel) true ((← get).rest.length + 2)
    giveBack token
    if mayBeEmpty && token.endsList then return .nothing
    else return .ofList (← readItemsOf fuel)

/-- The commands of a list, of which there is at least one more. -/
def readItemsOf : Nat → Reading (List Command)
  | 0 => fail .tooDeep
  | fuel + 1 => do
    let first ← readAndOr fuel
    let token ← readToken (nestedOf fuel)
    let item : Command :=
      match token with
      | .operator "&" => .background first
      | _ => first
    let separated : Bool :=
      match token with
      | .operator op => op == "&" || op == ";"
      | .newline => true
      | _ => false
    if separated then
      let next ← commandToken (nestedOf fuel) true ((← get).rest.length + 2)
      giveBack next
      if next.endsList then return [item] else return item :: (← readItemsOf fuel)
    else
      giveBack token
      return [item]

/-- Pipelines joined by and and or. -/
def readAndOr : Nat → Reading Command
  | 0 => fail .tooDeep
  | fuel + 1 => do
    let first ← readPipeline fuel
    readJoined fuel first

/-- What is joined to a command by and and or. -/
def readJoined : Nat → Command → Reading Command
  | 0, _ => fail .tooDeep
  | fuel + 1, first => do
    match ← readToken (nestedOf fuel) with
    | .operator "&&" =>
      skipNewlines fuel
      let second ← readPipeline fuel
      readJoined fuel (.and first second)
    | .operator "||" =>
      skipNewlines fuel
      let second ← readPipeline fuel
      readJoined fuel (.or first second)
    | token =>
      giveBack token
      return first

/-- Passes over breaks of lines. -/
def skipNewlines : Nat → Reading Unit
  | 0 => fail .tooDeep
  | fuel + 1 => do
    let token ← commandToken (nestedOf fuel) true ((← get).rest.length + 2)
    giveBack token

/-- Commands joined by pipes. -/
def readPipeline : Nat → Reading Command
  | 0 => fail .tooDeep
  | fuel + 1 => do
    let token ← commandToken (nestedOf fuel) false ((← get).rest.length + 2)
    let bash := (← get).dialect == .bash
    if token.isText "!" then
      if bash then
        match ← readPipeline fuel with
        | .pipeline negated stages => return .pipeline (!negated) stages
        | body => return .pipeline true [body]
      else
        let stages ← readStages fuel
        return .pipeline true stages
    else if bash && token.isText "time" then readPipeline fuel
    else
      giveBack token
      match ← readStages fuel with
      | [one] => return one
      | stages => return .pipeline false stages

/-- The commands of a pipeline. -/
def readStages : Nat → Reading (List Command)
  | 0 => fail .tooDeep
  | fuel + 1 => do
    let first ← readCommand fuel
    match ← readToken (nestedOf fuel) with
    | .operator "|" =>
      skipNewlines fuel
      return first :: (← readStages fuel)
    | .operator "|&" =>
      skipNewlines fuel
      let merge : Redirect := .mk (some 2) .copyOutput [.bare "1"]
      return .redirected 0 first [merge] :: (← readStages fuel)
    | token =>
      giveBack token
      return [first]

/-- A command, with the redirections that follow it. -/
def readCommand : Nat → Reading Command
  | 0 => fail .tooDeep
  | fuel + 1 => do
    let nested := nestedOf fuel
    let token ← commandToken nested false ((← get).rest.length + 2)
    let line := (← get).line
    let bash := (← get).dialect == .bash
    let close (wanted : String) (body : Command) : Reading Command := do
      let token ← readToken nested
      if !token.isText wanted then unexpected token wanted
      let redirects ← readRedirects nested ((← get).rest.length + 2)
      return if redirects.isEmpty then body else .redirected line body redirects
    match token with
    | .word _ (some "if") =>
      let body ← readChoice fuel
      close "fi" body
    | .word _ (some "while") =>
      let body ← readLoop fuel false
      close "done" body
    | .word _ (some "until") =>
      let body ← readLoop fuel true
      close "done" body
    | .word _ (some "for") =>
      let body ← readFor fuel
      close "done" body
    | .word _ (some "case") =>
      let body ← readCase fuel
      close "esac" body
    | .word _ (some "\x7b") =>
      let body ← readList fuel false
      close "\x7d" body
    | .operator "(" =>
      if bash && (← get).rest.head? == some '(' then
        drop 1
        let parts ← arithmeticText nested none (2 * (← get).rest.length + 10) 0 [] []
        return .arithmetic line parts
      else
        let body ← readList fuel false
        close ")" (.subshell body)
    | .word parts plain =>
      if bash && plain == some "[[" then
        let test ← readOr nested (2 * (← get).rest.length + 10)
        let last ← nextToken nested ((← get).rest.length + 2)
        if last.isText "]]" then return .test line test else fail (.unexpected last none)
      else if bash && plain == some "function" then
        match ← readToken nested with
        | .word _ (some name) =>
          match ← readToken nested with
          | .operator "(" =>
            let _ ← readToken nested
          | other => giveBack other
          return .define line name (← readBody fuel)
        | other => fail (.unexpected other none)
      else if (plain.map closers.contains).getD false then fail (.unexpected token none)
      else
        giveBack (.word parts plain)
        readSimple fuel
    | .redirect fd op =>
      giveBack (.redirect fd op)
      readSimple fuel
    | token => fail (.unexpected token none)

/-- The rest of a choice between commands, up to the word that ends it. -/
def readChoice : Nat → Reading Command
  | 0 => fail .tooDeep
  | fuel + 1 => do
    let condition ← readList fuel false
    let token ← readToken (nestedOf fuel)
    if !token.isText "then" then unexpected token "then"
    let body ← readList fuel false
    let token ← readToken (nestedOf fuel)
    if token.isText "elif" then return .choose condition body (← readChoice fuel)
    else if token.isText "else" then return .choose condition body (← readList fuel false)
    else
      giveBack token
      return .choose condition body .nothing

/-- The rest of a loop, up to the word that ends it. -/
def readLoop : Nat → Bool → Reading Command
  | 0, _ => fail .tooDeep
  | fuel + 1, until_ => do
    let condition ← readList fuel false
    let token ← readToken (nestedOf fuel)
    if !token.isText "do" then unexpected token "do"
    return .repeated until_ condition (← readList fuel false)

/-- The rest of a loop over words, up to the word that ends it. -/
def readFor : Nat → Reading Command
  | 0 => fail .tooDeep
  | fuel + 1 => do
    let nested := nestedOf fuel
    let line := (← get).line
    match ← readToken nested with
    | .word _ (some name) =>
      if !isName name then fail .badLoopVariable
      let token ← nextToken nested ((← get).rest.length + 2)
      let words ←
        if token.isText "in" then do
          let words ← readWords nested ((← get).rest.length + 2)
          match ← readToken nested with
          | .newline => pure (some words)
          | .operator ";" => pure (some words)
          | other => fail (.unexpected other none)
        else do
          if !token.isText ";" then giveBack token
          pure none
      let token ← nextToken nested ((← get).rest.length + 2)
      if (← get).dialect == .bash && token.isText "\x7b" then
        giveBack (.word [.bare "done"] (some "done"))
        fail (.unexpected token none)
      else
        if !token.isText "do" then unexpected token "do"
        return .each line name words (← readList fuel false)
    | .operator "(" =>
      if (← get).dialect == .bash && (← get).rest.head? == some '(' then
        drop 1
        let limit := 2 * (← get).rest.length + 10
        let start ← arithmeticText nested (some ';') limit 0 [] []
        let condition ← arithmeticText nested (some ';') limit 0 [] []
        let step ← arithmeticText nested none limit 0 [] []
        let token ← nextToken nested ((← get).rest.length + 2)
        let token ←
          if token.isText ";" then nextToken nested ((← get).rest.length + 2) else pure token
        if !token.isText "do" then unexpected token "do"
        return .counted start condition step (← readList fuel false)
      else fail .badLoopVariable
    | _ => fail .badLoopVariable

/-- The rest of a choice by patterns, up to the word that ends it. -/
def readCase : Nat → Reading Command
  | 0 => fail .tooDeep
  | fuel + 1 => do
    let nested := nestedOf fuel
    let line := (← get).line
    match ← readToken nested with
    | .word parts _ =>
      let token ← nextToken nested ((← get).rest.length + 2)
      if !token.isText "in" then unexpected token "in"
      return .select line parts (← readBranches fuel)
    | token => fail (.unexpected token (some "word"))

/-- The branches of a choice by patterns. -/
def readBranches : Nat → Reading (List Branch)
  | 0 => fail .tooDeep
  | fuel + 1 => do
    let nested := nestedOf fuel
    let token ← nextToken nested ((← get).rest.length + 2)
    if token.isText "esac" then
      giveBack token
      return []
    else
      let token ← if token.isText "(" then readToken nested else pure token
      let patterns ← readPatterns fuel token
      let body ← readList fuel true
      let last ← nextToken nested ((← get).rest.length + 2)
      match last with
      | .operator ";;" => return .mk patterns body .stop :: (← readBranches fuel)
      | .operator ";&" => return .mk patterns body .fall :: (← readBranches fuel)
      | .operator ";;&" => return .mk patterns body .test :: (← readBranches fuel)
      | token =>
        if token.isText "esac" then
          giveBack token
          return [.mk patterns body .stop]
        else unexpected token ";;"

/-- The patterns of a branch, the first of which has been read. -/
def readPatterns : Nat → Token → Reading (List (List Part))
  | 0, _ => fail .tooDeep
  | fuel + 1, token => do
    match token with
    | .word parts _ =>
      match ← readToken (nestedOf fuel) with
      | .operator "|" => return parts :: (← readPatterns fuel (← readToken (nestedOf fuel)))
      | .operator ")" => return [parts]
      | other => unexpected other ")"
    | other => unexpected other ")"

/-- A command that is made of words. -/
def readSimple : Nat → Reading Command
  | 0 => fail .tooDeep
  | fuel + 1 => do
    let line := (← get).line
    readSimpleItems fuel line [] [] [] []

/-- The rest of a command that is made of words. What has been read is given with
the last piece first; `later` are arrays for the names in its words. -/
def readSimpleItems : Nat → Nat → List Assignment → List (List Part) → List Redirect →
    List Assignment → Reading Command
  | 0, _, _, _, _, _ => fail .tooDeep
  | fuel + 1, line, assignments, words, redirects, later => do
    let nested := nestedOf fuel
    let finished (token : Token) : Reading Command := do
      giveBack token
      let command : Command := .simple line assignments.reverse words.reverse redirects.reverse
      return if later.isEmpty then command
        else .list [command, .simple line later.reverse [] []]
    let token ←
      if words.isEmpty then commandToken nested false ((← get).rest.length + 2)
      else readToken nested
    let s ← get
    match token with
    | .word parts plain =>
      let arrayName? : Option (String × Bool) :=
        if s.dialect == .bash && s.rest.head? == some '(' then
          match assignment? .bash parts with
          | some (.mk name none append [] none) => some (name, append)
          | _ => none
        else none
      match arrayName? with
      | some (name, append) =>
        let _ ← readToken nested
        let items ← readItems nested ((← get).rest.length + 2)
        let array : Assignment := .mk name none append [] (some items)
        if words.isEmpty then
          readSimpleItems fuel line (array :: assignments) words redirects later
        else
          readSimpleItems fuel line assignments ([.bare name] :: words) redirects (array :: later)
      | none =>
        match (if words.isEmpty then assignment? s.dialect parts else none) with
        | some a => readSimpleItems fuel line (a :: assignments) words redirects later
        | none =>
          match plain with
          | some text =>
            if words.isEmpty && assignments.isEmpty && redirects.isEmpty then
              match ← readToken nested with
              | .operator "(" => readFunction fuel line text
              | other =>
                giveBack other
                readSimpleItems fuel line assignments (parts :: words) redirects later
            else readSimpleItems fuel line assignments (parts :: words) redirects later
          | none => readSimpleItems fuel line assignments (parts :: words) redirects later
    | .redirect fd op =>
      let r ← readRedirect nested fd op
      readSimpleItems fuel line assignments words (r :: redirects) later
    | token => finished token

/-- The rest of a function behind its name and the first parenthesis. -/
def readFunction : Nat → Nat → String → Reading Command
  | 0, _, _ => fail .tooDeep
  | fuel + 1, line, name => do
    let token ← readToken (nestedOf fuel)
    if !token.isText ")" then unexpected token ")"
    if (← get).dialect == .posix && (!isName name || specialCommands.contains name) then
      fail .badFunctionName
    return .define line name (← readBody fuel)

/-- The body of a function. In the larger shell it is no plain command. -/
def readBody : Nat → Reading Command
  | 0 => fail .tooDeep
  | fuel + 1 => do
    skipNewlines fuel
    let token ← readToken (nestedOf fuel)
    let compound : Bool :=
      match token with
      | .operator "(" => true
      | .word _ (some text) => compoundWords.contains text
      | _ => false
    if (← get).dialect == .bash && !compound then fail (.unexpected token none)
    giveBack token
    readCommand fuel

/-- How scripts inside words are read. -/
def nestedOf : Nat → Nested
  | 0 => ⟨fail .tooDeep, fun _ => fail .tooDeep⟩
  | fuel + 1 =>
    { enclosed := do
        let s ← get
        set { s with pushed := none }
        let body ← readList fuel true
        let token ← readToken (nestedOf fuel)
        if !token.isText ")" then unexpected token ")"
        return body
      whole := fun text => within text do
        let body ← readList fuel true
        let token ← readToken (nestedOf fuel)
        if token.isFinish then return body else fail (.unexpected token none) }

end

/-! ## §4 Scripts -/

/-- How deep scripts may nest, given their length. -/
def depthOf (length : Nat) : Nat := 6 * length + 200

/-- The commands of the next line that holds any; nothing at the end. -/
def readLine : Nat → Reading (Option Command)
  | 0 => fail .tooDeep
  | fuel + 1 => do
    let depth := depthOf (← get).rest.length
    let token ← commandToken (nestedOf depth) false ((← get).rest.length + 2)
    match token with
    | .newline => readLine fuel
    | .finish => return none
    | token =>
      giveBack token
      return some (.ofList (← items depth depth))
where
  items (depth : Nat) : Nat → Reading (List Command)
    | 0 => fail .tooDeep
    | fuel + 1 => do
      let first ← readAndOr depth
      match ← readToken (nestedOf depth) with
      | .operator "&" => more depth fuel (.background first)
      | .operator ";" => more depth fuel first
      | .newline => return [first]
      | .finish =>
        giveBack .finish
        return [first]
      | token => fail (.unexpected token none)
  more (depth fuel : Nat) (item : Command) : Reading (List Command) :=
    match fuel with
    | 0 => fail .tooDeep
    | fuel + 1 => do
      match ← readToken (nestedOf depth) with
      | .newline => return [item]
      | .finish =>
        giveBack .finish
        return [item]
      | token =>
        giveBack token
        return item :: (← items depth fuel)

namespace Source

/-- A script that has not been read. -/
def ofText (dialect : Dialect) (text : String) : Source := { rest := text.toList, line := 1, dialect }

/-- Reads the next line of commands. -/
def next (s : Source) : Except SyntaxFault (Option Command) × Source :=
  (readLine (s.rest.length + 2)).run s

end Source

end ReleaseKit.Shell
