import CallChart.Shell.Word

namespace CallChart.Shell

open CallChart.Shell.Parser

structure Inner where
  body : Parser (List Statement)
  some? : Parser (List Statement)
  command : Parser Command

def reserved : List String :=
  ["!", "\x7b", "\x7d", "case", "do", "done", "elif", "else", "esac", "fi", "for", "if", "in",
    "then", "until", "while"]

section

variable (inner : Inner) (reach : Nat)

def skipComment : Nat → Parser Unit
  | 0 => pure ()
  | fuel + 1 => do
    let c ← next
    if c = some '\n' ∨ c = none then unread c else skipComment fuel

def readMarks (c : Char) (double : String) : Parser Token := do
  let d ← nextJoined reach
  if d = some c then setToken (.mark double)
  else
    unread d
    setToken (.mark c.toString)

def scan : Nat → Parser Token
  | 0 => setToken .ending
  | fuel + 1 => do
    let c ← nextJoined reach
    match c with
    | none => setToken .ending
    | some ' ' => scan fuel
    | some '\t' => scan fuel
    | some '#' =>
      skipComment reach
      scan fuel
    | some '\n' =>
      countLine
      setToken .newline
    | some '&' => readMarks reach '&' "&&"
    | some '|' => readMarks reach '|' "||"
    | some ';' => readMarks reach ';' ";;"
    | some '(' => setToken (.mark "(")
    | some ')' => setToken (.mark ")")
    | c => readWord inner.some? reach c

def rawToken : Parser Token := do
  let s ← get
  if s.again then
    set { s with again := false }
    pure s.token
  else scan inner reach reach

def skipNewlines : Nat → Token → Parser Token
  | fuel + 1, .newline => do
    readDocuments inner.some? reach
    setChecks .none
    skipNewlines fuel (← rawToken inner reach)
  | _, t => pure t

def readToken : Parser Token := do
  resolve reach (← get).checks
where
  resolve : Nat → Checks → Parser Token
    | 0, _ => setToken .ending
    | fuel + 1, checks => do
      let t ← rawToken inner reach
      let t ← if checks.newlines then skipNewlines inner reach reach t else pure t
      let s ← get
      let checks := { checks with aliases := checks.aliases || s.checks.aliases }
      setChecks .none
      if t ≠ .word ∨ s.quoted then pure t
      else
        match s.word.bare? with
        | none => pure t
        | some text =>
          let name := String.ofList text
          if checks.keywords ∧ reserved.contains name then setToken (.keyword name)
          else
            match if checks.aliases then s.alias? text else none with
            | some (name, []) =>
              let _ := name
              resolve fuel checks
            | some (name, text) =>
              modify (Source.insert name text)
              resolve fuel checks
            | none => pure t

def expect (t : Token) : Parser Unit := do
  if (← readToken inner reach) ≠ t then expecting t

def checkCommand : Parser Unit := setChecks ⟨true, true, true, false⟩

def readTarget : Parser Redirect := do
  let (channel, kind, tabs) := (← get).redirection
  if kind.isNone then setChecks ⟨false, false, false, true⟩
  if (← readToken inner reach) ≠ .word then unexpected
  let s ← get
  match kind with
  | some kind => pure (.file channel kind s.word)
  | none =>
    let number := s.documents.size
    set { s with
      documents := s.documents.push []
      awaited := s.awaited ++ [Awaited.mk number s.word.characters tabs s.quoted] }
    pure (.document channel number s.quoted)

def readRedirects : Nat → Parser (List Redirect)
  | 0 => pure []
  | fuel + 1 => do
    if (← readToken inner reach) = .redirection then
      let r ← readTarget inner reach
      let more ← readRedirects fuel
      pure (r :: more)
    else
      giveBack
      pure []

def isAssignment (w : Word) : Bool :=
  match w with
  | .char false c :: rest =>
    isNameStart c &&
      ((rest.dropWhile fun p => (p.bare?.map isNameChar).getD false).head?.bind Piece.bare?) ==
        some '='
  | _ => false

structure Parts where
  assignments : List Word
  words : List Word
  redirects : List Redirect

def readFunction (special : List String) (name : Word) : Parser Command := do
  expect inner reach (.mark ")")
  match name.bare? with
  | some cs =>
    let name := String.ofList cs
    if !isName cs ∨ special.contains name then fault "Bad function name"
    checkCommand
    pure (.function name (← inner.command))
  | none => fault "Bad function name"

def specialCommands : List String :=
  [".", ":", "break", "continue", "eval", "exec", "exit", "export", "local", "readonly", "return",
    "set", "shift", "times", "trap", "unset"]

def readParts (line : Nat) : Nat → Parts → Parser Command
  | 0, _ => unexpected
  | fuel + 1, p => do
    setChecks ⟨false, false, p.words.isEmpty, false⟩
    let t ← readToken inner reach
    match t, p.words with
    | .word, [] =>
      let w := (← get).word
      if isAssignment w then readParts line fuel { p with assignments := w :: p.assignments }
      else readParts line fuel { p with words := [w] }
    | .word, words => readParts line fuel { p with words := (← get).word :: words }
    | .redirection, _ =>
      let r ← readTarget inner reach
      readParts line fuel { p with redirects := r :: p.redirects }
    | .mark "(", [name] =>
      if p.assignments.isEmpty ∧ p.redirects.isEmpty then
        readFunction inner reach specialCommands name
      else finish p
    | _, _ => finish p
where
  finish (p : Parts) : Parser Command := do
    giveBack
    pure (.simple line p.assignments.reverse p.words.reverse p.redirects.reverse)

def readArms : Nat → Parser (List (List Statement × List Statement) × List Statement)
  | 0 => unexpected
  | fuel + 1 => do
    let condition ← inner.body
    expect inner reach (.keyword "then")
    let body ← inner.body
    match ← readToken inner reach with
    | .keyword "elif" =>
      let (arms, otherwise) ← readArms fuel
      pure ((condition, body) :: arms, otherwise)
    | .keyword "else" =>
      let otherwise ← inner.body
      pure ([(condition, body)], otherwise)
    | _ =>
      giveBack
      pure ([(condition, body)], [])

def readItems : Nat → Parser (List Word)
  | 0 => unexpected
  | fuel + 1 => do
    match ← readToken inner reach with
    | .word =>
      let w := (← get).word
      let more ← readItems fuel
      pure (w :: more)
    | t =>
      if t = .newline ∨ t = .mark ";" then pure [] else unexpected

def readEach (line : Nat) : Parser Command := do
  let t ← readToken inner reach
  let s ← get
  match if t ≠ .word ∨ s.quoted then none else s.word.bare? with
  | none => fault "Bad for loop variable"
  | some name =>
    if !isName name then fault "Bad for loop variable"
    checkCommand
    let t ← readToken inner reach
    let words ← if t = .keyword "in" then do pure (some (← readItems inner reach reach))
      else
        if t ≠ .mark ";" then giveBack
        pure none
    checkCommand
    expect inner reach (.keyword "do")
    let body ← inner.body
    expect inner reach (.keyword "done")
    pure (.each line (String.ofList name) words body)

def readPatterns : Nat → Parser (List Word)
  | 0 => unexpected
  | fuel + 1 => do
    let w := (← get).word
    let t ← readToken inner reach
    if t = .mark "|" then
      let _ ← readToken inner reach
      let more ← readPatterns fuel
      pure (w :: more)
    else if t = .mark ")" then pure [w]
    else expecting (.mark ")")

def readChoices : Nat → Parser (List (List Word × List Statement))
  | 0 => unexpected
  | fuel + 1 => do
    setChecks ⟨true, true, false, false⟩
    match ← readToken inner reach with
    | .keyword "esac" => pure []
    | t =>
      if t = .mark "(" then
        let _ ← readToken inner reach
      let patterns ← readPatterns inner reach reach
      let body ← inner.some?
      setChecks ⟨true, true, false, false⟩
      match ← readToken inner reach with
      | .keyword "esac" => pure [(patterns, body)]
      | .mark ";;" =>
        let more ← readChoices fuel
        pure ((patterns, body) :: more)
      | _ => expecting (.mark ";;")

def readChoice (line : Nat) : Parser Command := do
  if (← readToken inner reach) ≠ .word then expecting .word
  let subject := (← get).word
  checkCommand
  expect inner reach (.keyword "in")
  pure (.choice line subject (← readChoices inner reach reach))

def readLoop (untilSuccess : Bool) : Parser Command := do
  let condition ← inner.body
  expect inner reach (.keyword "do")
  let body ← inner.body
  expect inner reach (.keyword "done")
  pure (.loop untilSuccess condition body)

def withRedirects (line : Nat) (command : Command) : Parser Command := do
  setChecks ⟨false, true, true, false⟩
  let rs ← readRedirects inner reach reach
  pure <| match command with
    | .subshell line body _ => .subshell line body rs
    | command => if rs.isEmpty then command else .redirected line command rs

def readCommand : Parser Command := do
  let line := (← get).line
  match ← readToken inner reach with
  | .keyword "if" =>
    let (arms, otherwise) ← readArms inner reach reach
    expect inner reach (.keyword "fi")
    withRedirects inner reach line (.branch arms otherwise)
  | .keyword "while" => do withRedirects inner reach line (← readLoop inner reach false)
  | .keyword "until" => do withRedirects inner reach line (← readLoop inner reach true)
  | .keyword "for" => do withRedirects inner reach line (← readEach inner reach line)
  | .keyword "case" => do withRedirects inner reach line (← readChoice inner reach line)
  | .mark "(" =>
    let body ← inner.body
    expect inner reach (.mark ")")
    withRedirects inner reach line (.subshell line body [])
  | .keyword "\x7b" =>
    let body ← inner.body
    expect inner reach (.keyword "\x7d")
    withRedirects inner reach line (.group body)
  | .word => simple
  | .redirection => simple
  | _ => unexpected
where
  simple : Parser Command := do
    giveBack
    readParts inner reach (← get).line reach ⟨[], [], []⟩

def readCommands : Nat → Parser (List Command)
  | 0 => unexpected
  | fuel + 1 => do
    let command ← readCommand inner reach
    if (← readToken inner reach) = .mark "|" then
      checkCommand
      let more ← readCommands fuel
      pure (command :: more)
    else
      giveBack
      pure [command]

def readPipeline : Parser Pipeline := do
  let negated := (← readToken inner reach) = .keyword "!"
  if negated then setChecks ⟨false, true, true, false⟩ else giveBack
  pure (.mk negated (← readCommands inner reach reach))

def readJoined : Nat → Parser (List (Bool × Pipeline))
  | 0 => unexpected
  | fuel + 1 => do
    let t ← readToken inner reach
    if t = .mark "&&" ∨ t = .mark "||" then
      checkCommand
      let p ← readPipeline inner reach
      let more ← readJoined fuel
      pure ((t = .mark "&&", p) :: more)
    else
      giveBack
      pure []

inductive Place where
  | line
  | body
  | optional
  deriving DecidableEq, Repr

def readList (place : Place) : Nat → Bool → Parser (Option (List Statement))
  | 0, _ => unexpected
  | fuel + 1, first => do
    setChecks ⟨place ≠ .line, true, true, false⟩
    let t ← readToken inner reach
    if t = .newline then
      readDocuments inner.some? reach
      pure (some [])
    else if t = .ending then
      readDocuments inner.some? reach
      let _ ← setToken .ending
      giveBack
      pure (if first ∧ place = .line then none else some [])
    else
      giveBack
      let mayEnd := place = .optional ∨ (place = .body ∧ !first)
      if mayEnd ∧ t.endsList then pure (some [])
      else
        let p ← readPipeline inner reach
        let joined ← readJoined inner reach reach
        let t ← readToken inner reach
        let statement := Statement.mk p joined (t = .mark "&")
        if t = .newline ∨ t = .ending then
          giveBack
          more fuel statement
        else if t = .mark "&" ∨ t = .mark ";" then more fuel statement
        else if place = .line then unexpected
        else
          giveBack
          pure (some [statement])
where
  more (fuel : Nat) (statement : Statement) : Parser (Option (List Statement)) := do
    let rest ← readList place fuel false
    pure (some (statement :: rest.getD []))

end

def Inner.ofDepth (reach : Nat) : Nat → Inner
  | 0 => ⟨unexpected, unexpected, unexpected⟩
  | depth + 1 =>
    { body := fun s => statements .body (ofDepth reach depth) s
      some? := fun s => statements .optional (ofDepth reach depth) s
      command := fun s => readCommand (ofDepth reach depth) reach s }
where
  statements (place : Place) (inner : Inner) : Parser (List Statement) := do
    pure ((← readList inner reach place reach true).getD [])

namespace Source

def reach (s : Source) : Nat :=
  let known := (s.aliases.map fun a => a.2.length + 1).foldl (· + ·) 64
  (s.rest.length + 16) * known

def depth (s : Source) : Nat := s.rest.length + (s.aliases.map (·.2.length)).foldl (· + ·) 16

def command? (s : Source) : Except SyntaxFault (Option (List Statement) × Source) :=
  let reach := s.reach
  let inner := Inner.ofDepth reach s.depth
  (readList inner reach .line reach true).run
    { s with again := false, checks := .none, awaited := [], shown := [] }

def freeText (s : Source) : Except SyntaxFault (Word × Source) :=
  let reach := s.reach
  (readFreeText (Inner.ofDepth reach s.depth).some? reach).run s

end Source
end CallChart.Shell
