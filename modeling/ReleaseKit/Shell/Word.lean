/-
ReleaseKit.Shell.Word — reading words and the other tokens of a script.

A word ends at a blank or at an operator. Quotes and expansions nest inside each
other, and every kind of text has rules of its own on what a backslash and a
quote do in it. Expansions hold scripts; how these are read is given as a
`Nested`, since it needs tokens in turn.

  §1 Escapes   — `dollarQuoted`, what an escape between `$'` and `'` stands for.
  §2 Texts     — words, quoted texts, braces, here documents, arithmetic.
  §3 Tokens    — `readToken`, with the here documents that a line announces.
-/
import ReleaseKit.Shell.Source
import ReleaseKit.Utility.Printf

namespace ReleaseKit.Shell

open Reading

/-- How scripts inside words are read. -/
structure Nested where
  /-- the commands up to a closing parenthesis, which is taken too -/
  enclosed : Reading Command
  /-- the commands that a text is -/
  whole : List Char → Reading Command

/-! ## §1 Escapes -/

/-- The text between `$'` and the quote that ends it, escapes replaced. -/
def dollarQuoted : Nat → Reading (List Char)
  | 0 => fail .tooDeep
  | fuel + 1 => do
    match (← get).rest with
    | [] => fail (.openQuote '\x27')
    | '\x27' :: _ =>
      drop 1
      return []
    | '\\' :: 'c' :: c :: _ =>
      drop 3
      return Char.ofNat (c.toUpper.toNat % 32) :: (← dollarQuoted fuel)
    | '\\' :: rest =>
      drop 1
      if rest.head? = some '?' then
        drop 1
        return '?' :: (← dollarQuoted fuel)
      else
        match Printf.readEscape .bash false rest with
        | .ok (bytes, left) =>
          drop (rest.length - left.length)
          return bytes ++ (← dollarQuoted fuel)
        | .error _ => dollarQuoted fuel
    | c :: _ =>
      drop 1
      return c :: (← dollarQuoted fuel)

/-- The text between single quotes. -/
def singleQuoted : Reading String := do
  let text ← takeWhile (· != '\x27')
  match (← get).rest with
  | [] => fail (.openQuote '\x27')
  | _ =>
    drop 1
    return String.ofList text

/-- The text of a script between backquotes. -/
def backquoted (inDouble : Bool) : Nat → Reading (List Char)
  | 0 => fail .tooDeep
  | fuel + 1 => do
    match (← get).rest with
    | [] => fail .openBackquote
    | '\x60' :: _ =>
      drop 1
      return []
    | '\\' :: c :: _ =>
      drop 2
      let kept :=
        if c = '\n' then []
        else if ['\\', '$', '\x60'].contains c || (inDouble && c = '\x22') then [c]
        else ['\\', c]
      return kept ++ (← backquoted inDouble fuel)
    | c :: _ =>
      drop 1
      return c :: (← backquoted inDouble fuel)

/-! ## §2 Texts -/

/-- Parts, the last one first, with the characters that come after them, the last
one first. -/
def flush (acc : List Char) (parts : List Part) : List Part :=
  if acc.isEmpty then parts else .bare (String.ofList acc.reverse) :: parts

/-- The characters that end an unquoted word. -/
def endsWord (c : Char) : Bool :=
  [' ', '\t', '\n', ';', '&', '|', '<', '>', '(', ')'].contains c

/-- The parameters that a single character names. -/
def specials : List Char := ['@', '*', '#', '?', '-', '$', '!']

/-- A replacement without the mark that says where the pattern has to stand. -/
def scopeOf : List Char → Scope × Nat
  | '/' :: _ => (.all, 1)
  | '#' :: _ => (.start, 1)
  | '%' :: _ => (.finish, 1)
  | _ => (.first, 0)

mutual

/-- The rest of an unquoted word, up to a character that ends it. -/
def wordText (nested : Nested) (ends : Char → Bool) : Nat → List Char → List Part → Reading (List Part)
  | 0, _, _ => fail .tooDeep
  | fuel + 1, acc, parts => do
    match ← peek with
    | none => return (flush acc parts).reverse
    | some c =>
      if ends c then
        let next ← ahead 2
        if (c = '<' || c = '>') && next == [c, '('] && (← get).dialect == .bash then
          drop 2
          let body ← nested.enclosed
          wordText nested ends fuel [] (.process (c == '<') body :: flush acc parts)
        else return (flush acc parts).reverse
      else
        drop 1
        if c = '\x27' then
          let text ← singleQuoted
          wordText nested ends fuel [] (.quoted text :: flush acc parts)
        else if c = '\x22' then
          let inner ← doubleText nested fuel [] []
          wordText nested ends fuel [] (.double inner :: flush acc parts)
        else if c = '\\' then
          match (← get).rest with
          | [] => wordText nested ends fuel ('\\' :: acc) parts
          | d :: _ =>
            drop 1
            wordText nested ends fuel [] (.quoted (String.singleton d) :: flush acc parts)
        else if c = '$' then
          match ← dollar nested fuel false with
          | some part => wordText nested ends fuel [] (part :: flush acc parts)
          | none => wordText nested ends fuel ('$' :: acc) parts
        else if c = '\x60' then
          let body ← nested.whole (← backquoted false ((← get).rest.length + 1))
          wordText nested ends fuel [] (.command body :: flush acc parts)
        else wordText nested ends fuel (c :: acc) parts

/-- The rest of a text between double quotes. -/
def doubleText (nested : Nested) : Nat → List Char → List Part → Reading (List Part)
  | 0, _, _ => fail .tooDeep
  | fuel + 1, acc, parts => do
    match ← peek with
    | none => fail (.openQuote '\x22')
    | some c =>
      drop 1
      if c = '\x22' then return (flush acc parts).reverse
      else if c = '\\' then
        match (← get).rest with
        | [] => fail (.openQuote '\x22')
        | d :: _ =>
          if ['\\', '$', '\x60', '\x22'].contains d then
            drop 1
            doubleText nested fuel [] (.quoted (String.singleton d) :: flush acc parts)
          else doubleText nested fuel ('\\' :: acc) parts
      else if c = '$' then
        match ← dollar nested fuel true with
        | some part => doubleText nested fuel [] (part :: flush acc parts)
        | none => doubleText nested fuel ('$' :: acc) parts
      else if c = '\x60' then
        let body ← nested.whole (← backquoted true ((← get).rest.length + 1))
        doubleText nested fuel [] (.command body :: flush acc parts)
      else doubleText nested fuel (c :: acc) parts

/-- The rest of a word inside braces, up to a character that ends it, which is
taken. `soft` says that the braces stand between double quotes and that single
quotes are no quotes. -/
def braceText (nested : Nested) (soft : Bool) (stops : List Char) :
    Nat → List Char → List Part → Reading (List Part × Char)
  | 0, _, _ => fail .tooDeep
  | fuel + 1, acc, parts => do
    match ← peek with
    | none => fail .openBrace
    | some c =>
      drop 1
      if stops.contains c then return ((flush acc parts).reverse, c)
      else if c = '\x27' && !soft then
        let text ← singleQuoted
        braceText nested soft stops fuel [] (.quoted text :: flush acc parts)
      else if c = '\x22' then
        let inner ← doubleText nested fuel [] []
        braceText nested soft stops fuel [] (.double inner :: flush acc parts)
      else if c = '\\' then
        match (← get).rest with
        | [] => fail .openBrace
        | d :: _ =>
          if !soft || ['\\', '$', '\x60', '\x22', '\x7d'].contains d then
            drop 1
            braceText nested soft stops fuel [] (.quoted (String.singleton d) :: flush acc parts)
          else braceText nested soft stops fuel ('\\' :: acc) parts
      else if c = '$' then
        match ← dollar nested fuel soft with
        | some part => braceText nested soft stops fuel [] (part :: flush acc parts)
        | none => braceText nested soft stops fuel ('$' :: acc) parts
      else if c = '\x60' then
        let body ← nested.whole (← backquoted soft ((← get).rest.length + 1))
        braceText nested soft stops fuel [] (.command body :: flush acc parts)
      else braceText nested soft stops fuel (c :: acc) parts

/-- The rest of the body of a here document, to the end of the source. -/
def documentText (nested : Nested) : Nat → List Char → List Part → Reading (List Part)
  | 0, _, _ => fail .tooDeep
  | fuel + 1, acc, parts => do
    match ← peek with
    | none => return (flush acc parts).reverse
    | some c =>
      drop 1
      if c = '\\' then
        match (← get).rest with
        | [] => documentText nested fuel ('\\' :: acc) parts
        | d :: _ =>
          if ['\\', '$', '\x60'].contains d then
            drop 1
            documentText nested fuel (d :: acc) parts
          else documentText nested fuel ('\\' :: acc) parts
      else if c = '$' then
        match ← dollar nested fuel true with
        | some part => documentText nested fuel [] (part :: flush acc parts)
        | none => documentText nested fuel ('$' :: acc) parts
      else if c = '\x60' then
        let body ← nested.whole (← backquoted false ((← get).rest.length + 1))
        documentText nested fuel [] (.command body :: flush acc parts)
      else documentText nested fuel (c :: acc) parts

/-- The rest of an arithmetic expression up to the two parentheses that close it,
which are taken, or up to another character at its outermost level. -/
def arithmeticText (nested : Nested) (stop : Option Char) :
    Nat → Nat → List Char → List Part → Reading (List Part)
  | 0, _, _, _ => fail .tooDeep
  | fuel + 1, depth, acc, parts => do
    match ← peek with
    | none => fail .openArithmetic
    | some c =>
      drop 1
      if depth = 0 && stop == some c then return (flush acc parts).reverse
      else if c = '(' then arithmeticText nested stop fuel (depth + 1) (c :: acc) parts
      else if c = ')' then
        if 0 < depth then arithmeticText nested stop fuel (depth - 1) (c :: acc) parts
        else if (← peek) == some ')' then
          drop 1
          return (flush acc parts).reverse
        else fail .openArithmetic
      else if c = '\x22' then arithmeticText nested stop fuel depth acc parts
      else if c = '$' then
        match ← dollar nested fuel true with
        | some part => arithmeticText nested stop fuel depth [] (part :: flush acc parts)
        | none => arithmeticText nested stop fuel depth ('$' :: acc) parts
      else if c = '\x60' then
        let body ← nested.whole (← backquoted false ((← get).rest.length + 1))
        arithmeticText nested stop fuel depth [] (.command body :: flush acc parts)
      else arithmeticText nested stop fuel depth (c :: acc) parts

/-- The expansion behind a dollar sign, if there is one. -/
def dollar (nested : Nested) : Nat → Bool → Reading (Option Part)
  | 0, _ => fail .tooDeep
  | fuel + 1, inDouble => do
    match ← peek with
    | none => return none
    | some c =>
      if c = '(' then
        drop 1
        if (← peek) == some '(' then
          drop 1
          return some (.arithmetic (← arithmeticText nested none fuel 0 [] []))
        else return some (.command (← nested.enclosed))
      else if c = '\x7b' then
        drop 1
        return some (← braces nested fuel inDouble)
      else if c.isDigit || specials.contains c then
        drop 1
        return some (.value (String.singleton c) none .plain)
      else if c.isAlpha || c == '_' then
        return some (.value (String.ofList (← takeName ((← get).rest.length + 1))) none .plain)
      else if (← get).dialect == .bash && !inDouble && c = '\x27' then
        drop 1
        return some (.quoted (String.ofList (← dollarQuoted ((← get).rest.length + 1))))
      else if (← get).dialect == .bash && !inDouble && c = '\x22' then
        drop 1
        return some (.double (← doubleText nested fuel [] []))
      else return none

/-- The expansion inside braces; the opening one has been taken. -/
def braces (nested : Nested) : Nat → Bool → Reading Part
  | 0, _ => fail .tooDeep
  | fuel + 1, inDouble => do
    let bash := (← get).dialect == .bash
    let next ← ahead 3
    let bad (text : String) : Reading Part := do
      let _ ← braceText nested inDouble ['\x7d'] fuel [] []
      return .value text none (.bad text)
    match next with
    | '#' :: c :: d :: _ =>
      let isLength := c.isAlphanum || c == '_' || (specials.contains c && d == '\x7d')
      if isLength then
        drop 1
        let (name, index) ← subject nested fuel
        if (← peek) == some '\x7d' then
          drop 1
          return .value name index .length
        else bad name
      else
        drop 1
        usage nested fuel inDouble "#" none
    | '!' :: c :: _ =>
      if bash && (c.isAlpha || c == '_') then
        drop 1
        let (name, index) ← subject nested fuel
        match ← ahead 2 with
        | ['@', '\x7d'] =>
          drop 2
          return .value name none .names
        | ['*', '\x7d'] =>
          drop 2
          return .value name none .names
        | '\x7d' :: _ =>
          drop 1
          match index with
          | some [.bare "@"] => return .value name none .keys
          | some [.bare "*"] => return .value name none .keys
          | _ => return .value name index (.indirect .plain)
        | _ =>
          match ← usage nested fuel inDouble name index with
          | .value name index use => return .value name index (.indirect use)
          | part => return part
      else
        drop 1
        usage nested fuel inDouble "!" none
    | c :: _ =>
      if c.isAlphanum || c == '_' then
        let (name, index) ← subject nested fuel
        usage nested fuel inDouble name index
      else if specials.contains c then
        drop 1
        usage nested fuel inDouble (String.singleton c) none
      else bad (String.singleton c)
    | [] => fail .openBrace

/-- The parameter that braces are about, and which item of it. -/
def subject (nested : Nested) : Nat → Reading (String × Option (List Part))
  | 0 => fail .tooDeep
  | fuel + 1 => do
    match ← peek with
    | none => fail .openBrace
    | some c =>
      let name ←
        if c.isDigit then takeWhile Char.isDigit
        else if c.isAlpha || c == '_' then takeName ((← get).rest.length + 1)
        else do
          drop 1
          pure [c]
      if (← get).dialect == .bash && (← peek) == some '[' then
        drop 1
        let (index, _) ← braceText nested false [']'] fuel [] []
        return (String.ofList name, some index)
      else return (String.ofList name, none)

/-- What is wanted of a parameter inside braces. -/
def usage (nested : Nested) : Nat → Bool → String → Option (List Part) → Reading Part
  | 0, _, _, _ => fail .tooDeep
  | fuel + 1, inDouble, name, index => do
    let bash := (← get).dialect == .bash
    let done (use : Use) : Reading Part := return .value name index use
    let word (soft : Bool) : Reading (List Part) := do
      return (← braceText nested soft ['\x7d'] fuel [] []).1
    let fallback? (c : Char) : Option Fallback :=
      [('-', .use), ('=', .assign), ('?', .refuse), ('+', .replace)].lookup c
    let next ← ahead 2
    match next with
    | [] => fail .openBrace
    | '\x7d' :: _ =>
      drop 1
      done .plain
    | c :: more =>
      match fallback? c with
      | some kind =>
        drop 1
        done (.fallback false kind (← word inDouble))
      | none =>
        if c = ':' then
          drop 1
          match more.head?.bind fallback? with
          | some kind =>
            drop 1
            done (.fallback true kind (← word inDouble))
          | none =>
            if bash then
              let (offset, last) ← braceText nested inDouble [':', '\x7d'] fuel [] []
              if last = ':' then done (.slice offset (some (← word inDouble)))
              else done (.slice offset none)
            else
              let _ ← word inDouble
              done (.bad name)
        else if c = '#' || c = '%' then
          let longest := more.head? == some c
          drop (if longest then 2 else 1)
          done (.trim (c == '%') longest (← word false))
        else if bash && c = '/' then
          drop 1
          let (scope, taken) := scopeOf (← ahead 1)
          drop taken
          let (pattern, last) ← braceText nested false ['/', '\x7d'] fuel [] []
          if last = '/' then done (.replace scope pattern (← word false))
          else done (.replace scope pattern [])
        else if bash && (c = '^' || c = ',') then
          let all := more.head? == some c
          drop (if all then 2 else 1)
          let _ ← word false
          done (.recase (c == '^') all)
        else if bash && c = '@' then
          drop 1
          let _ ← word false
          done (.transform (more.headD 'Q'))
        else
          let _ ← word inDouble
          done (.bad name)

end

/-! ## §3 Tokens -/

/-- The lines of a here document up to the one that is its delimiter. -/
def documentLines (a : Awaited) : Nat → Reading (List Char)
  | 0 => return []
  | fuel + 1 => do
    let s ← get
    if s.rest.isEmpty then return []
    else
      let line := s.rest.takeWhile (· != '\n')
      let ended := line.length < s.rest.length
      drop (line.length + 1)
      let shown := if a.stripped then line.dropWhile (· == '\t') else line
      if String.ofList shown = a.delimiter then return []
      else
        return shown ++ (if ended then ['\n'] else []) ++ (← documentLines a fuel)

/-- A text read as something else than what is left of the source. -/
def within {α : Type} (text : List Char) (reading : Reading α) : Reading α := do
  let s ← get
  set { s with rest := text, pushed := none, awaited := [] }
  let result ← reading
  modify fun t => { t with
    rest := s.rest, line := s.line, pushed := s.pushed, awaited := s.awaited }
  return result

/-- Reads the bodies of the here documents that a line has announced. -/
def readDocuments (nested : Nested) : Reading Unit := do
  let s ← get
  set { s with awaited := [] }
  for a in s.awaited do
    let text ← documentLines a ((← get).rest.length + 1)
    let body ←
      if a.literal then pure [Part.quoted (String.ofList text)]
      else within text (documentText nested (text.length + 2) [] [])
    modify fun s => { s with documents := (a.number, body) :: s.documents }

/-- The operators, those that start like others last. -/
def operators (dialect : Dialect) : List String :=
  (if dialect = .bash then [";;&", ";&", "|&"] else []) ++
    ["&&", "||", ";;", "&", "|", ";", "(", ")"]

/-- The operators of redirections. -/
def redirections (dialect : Dialect) : List String :=
  (if dialect = .bash then ["<<<", "&>>", "&>"] else []) ++
    ["<<-", "<<", "<&", "<>", "<", ">>", ">&", ">|", ">"]

/-- The text of a word if nothing in it is quoted or expanded. -/
def plainText : List Part → Option String
  | [] => some ""
  | .bare text :: rest => (plainText rest).map (text ++ ·)
  | _ => none

/-- The next token. -/
def readToken (nested : Nested) : Reading Token := do
  let s ← get
  match s.pushed with
  | some token =>
    set { s with pushed := none }
    return token
  | none =>
    skipBlanks (s.rest.length + 1)
    let s ← get
    match s.rest with
    | [] =>
      readDocuments nested
      return .finish
    | '\n' :: _ =>
      drop 1
      readDocuments nested
      return .newline
    | c :: _ =>
      match (redirections s.dialect).find? fun op => op.toList.isPrefixOf s.rest with
      | some op =>
        if s.dialect == .bash && (c == '<' || c == '>') && s.rest.take 2 == [c, '('] then word s
        else
          drop op.length
          return .redirect none op
      | none =>
        match (operators s.dialect).find? fun op => op.toList.isPrefixOf s.rest with
        | some op =>
          drop op.length
          return .operator op
        | none => word s
where
  skipBlanks : Nat → Reading Unit
    | 0 => return ()
    | fuel + 1 => do
      match ← peek with
      | some c =>
        if c = ' ' || c = '\t' then
          drop 1
          skipBlanks fuel
        else if c = '#' then
          let _ ← takeWhile (· != '\n')
        else return ()
      | none => return ()
  word (s : Source) : Reading Token := do
    let parts ← wordText nested endsWord (2 * s.rest.length + 10) [] []
    let plain := plainText parts
    let text := plain.getD ""
    let next ← peek
    if text != "" && text.toList.all Char.isDigit && (next == some '<' || next == some '>') then
      let left := (← get).rest
      match (redirections s.dialect).find? fun op => op.toList.isPrefixOf left with
      | some op =>
        drop op.length
        return .redirect text.toNat? op
      | none => return .word parts plain
    else return .word parts plain

/-- Gives a token back. -/
def giveBack (token : Token) : Reading Unit := modify fun s => { s with pushed := some token }

/-- Announces a here document, and gives its number. -/
def announce (delimiter : String) (literal stripped : Bool) : Reading Nat := do
  let s : Source ← get
  set { s with
    nextDocument := s.nextDocument + 1
    awaited := s.awaited ++ [Awaited.mk s.nextDocument delimiter literal stripped] }
  return s.nextDocument

end ReleaseKit.Shell
