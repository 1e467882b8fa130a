import CallChart.Shell.Source

namespace CallChart.Shell

inductive Table where
  | base
  | double
  | single
  | arithmetic
  deriving DecidableEq, Repr

inductive Role where
  | plain
  | careful
  | newline
  | backslash
  | singleQuote
  | doubleQuote
  | endQuote
  | dollar
  | brace
  | backquote
  | openParen
  | closeParen
  | delimiter
  deriving DecidableEq, Repr

def isCareful (c : Char) : Bool := "!*?[=~:/-]".toList.contains c

def Table.role (t : Table) (c : Char) : Role :=
  if c = '\n' then .newline
  else
    match t with
    | .single => if c = '\'' then .endQuote else if isCareful c ∨ c = '\\' then .careful else .plain
    | .base =>
      match c with
      | '\\' => .backslash
      | '\'' => .singleQuote
      | '"' => .doubleQuote
      | '`' => .backquote
      | '$' => .dollar
      | '\x7d' => .brace
      | c => if "<>();&| \t".toList.contains c then .delimiter else .plain
    | .double =>
      match c with
      | '\\' => .backslash
      | '"' => .endQuote
      | '`' => .backquote
      | '$' => .dollar
      | '\x7d' => .brace
      | c => if isCareful c then .careful else .plain
    | .arithmetic =>
      match c with
      | '\\' => .backslash
      | '`' => .backquote
      | '$' => .dollar
      | '\x7d' => .brace
      | '(' => .openParen
      | ')' => .closeParen
      | _ => .plain

structure Frame where
  table : Table
  double : Bool
  inner : Bool
  own : Bool
  braces : Nat
  quotedBraces : Nat
  parens : Nat
  deriving Repr

def Frame.begin (table : Table) (double own : Bool) : Frame :=
  ⟨table, double, false, own, 0, 0, 0⟩

structure Opened where
  parameter : Option (String × Form)
  before : List Piece

structure Draft where
  frame : Frame
  outer : List Frame
  opened : List Opened
  pieces : List Piece
  quoted : Bool
  document : Option (List Char × Bool)
  free : Bool

namespace Draft

def add (d : Draft) (p : Piece) : Draft := { d with pieces := p :: d.pieces }

def char (d : Draft) (escaped : Bool) (c : Char) : Draft := d.add (.char escaped c)

def isText (d : Draft) : Bool := d.document.isSome || d.free

def enter (d : Draft) (f : Frame) : Draft := { d with frame := f, outer := d.frame :: d.outer }

def leave (d : Draft) : Draft :=
  match d.outer with
  | f :: outer => { d with frame := f, outer := outer }
  | [] => d

def openPlace (d : Draft) (parameter : Option (String × Form)) : Draft :=
  { d with opened := ⟨parameter, d.pieces⟩ :: d.opened, pieces := [] }

def closePlace (d : Draft) : Draft :=
  match d.opened with
  | o :: opened =>
    let text := d.pieces.reverse
    let piece := match o.parameter with
      | some (name, form) => Piece.parameter name form text
      | none => .arithmetic text
    { d with opened := opened, pieces := piece :: o.before }
  | [] => d

def quote (d : Draft) : Draft := if d.isText then d else d.add .quote

def doubleQuote (d : Draft) : Draft :=
  let d := if d.frame.braces = 0 then d
    else { d with frame := { d.frame with inner := !d.frame.inner } }
  d.quote

def endQuote (d : Draft) (c : Char) : Draft :=
  if d.isText ∧ d.frame.braces = 0 then d.char false c
  else
    let d := { d with quoted := true }
    let d := if d.frame.quotedBraces = 0 then
        { d with frame := { d.frame with table := .base, double := false } }
      else d
    if c = '"' then d.doubleQuote else d.quote

def closeBrace (d : Draft) : Draft :=
  if d.frame.inner ∨ d.frame.braces = 0 then d.char false '\x7d'
  else
    let f := { d.frame with braces := d.frame.braces - 1 }
    let d := { d with frame := f }
    let d := if f.braces = 0 ∧ f.own then d.leave
      else { d with frame := { f with quotedBraces := f.quotedBraces - 1 } }
    d.closePlace

def backslashed (d : Draft) (c : Char) : Draft :=
  let f := d.frame
  let keeps := f.double && c != '\\' && c != '`' && c != '$' &&
    (c != '"' || (d.isText && f.braces == 0)) && (c != '\x7d' || f.braces == 0)
  let d := if keeps then d.char true '\\' else d
  { d.char true c with quoted := true }

end Draft

open CallChart.Shell.Parser

def readWhile (p : Char → Bool) : Nat → Option Char → Parser (List Char × Option Char)
  | fuel + 1, some c => do
    if p c then
      let (cs, d) ← readWhile p fuel (← nextJoined fuel)
      pure (c :: cs, d)
    else pure ([], some c)
  | _, c => pure ([], c)

/-- What stands between a dollar sign and the text of a parameter: its name and the character
behind it, if that could be read, and whether its length is asked for. -/
structure Named where
  name : Option String
  behind : Option Char
  length : Bool

/-- The name of a parameter that begins with a character. `braced` tells that it stands in braces,
where a name may have several digits and a hash sign before it. -/
def readName (braced : Bool) (fuel : Nat) (c : Option Char) : Parser Named := do
  match c with
  | none =>
    let d ← nextJoined fuel
    pure ⟨none, d, false⟩
  | some c =>
    match ← plainName c false with
    | some n => pure n
    | none =>
      if c = '\x7d' then pure ⟨none, some c, false⟩
      else
        let d ← nextJoined fuel
        if c = '#' ∧ braced then
          match d with
          | some e =>
            match ← plainName e true with
            | some n => pure n
            | none =>
              let b ← nextJoined fuel
              if e = '\x7d' ∨ b ≠ some '\x7d' then
                unread b
                pure ⟨some "#", some e, false⟩
              else if isSpecial e then pure ⟨some e.toString, b, true⟩
              else pure ⟨none, b, false⟩
          | none => pure ⟨some "#", none, false⟩
        else if isSpecial c then pure ⟨some c.toString, d, false⟩
        else pure ⟨none, d, false⟩
where
  plainName (c : Char) (length : Bool) : Parser (Option Named) := do
    let taken (cs : List Char) (d : Option Char) : Named := ⟨some (String.ofList cs), d, length⟩
    if isNameStart c then
      let (cs, d) ← readWhile isNameChar fuel (some c)
      pure (some (taken cs d))
    else if c.isDigit then
      if braced then
        let (cs, d) ← readWhile Char.isDigit fuel (some c)
        pure (some (taken cs d))
      else
        let d ← nextJoined fuel
        pure (some (taken [c] d))
    else pure none

def readForm (fuel : Nat) (c : Option Char) : Parser Form := do
  match c with
  | some '%' => trim '%' Form.trimEnd
  | some '#' => trim '#' Form.trimStart
  | some ':' => pure (chosen true (← nextJoined fuel))
  | c => pure (chosen false c)
where
  trim (mark : Char) (form : Bool → Form) : Parser Form := do
    let d ← nextJoined fuel
    if d = some mark then pure (form true)
    else
      unread d
      pure (form false)
  chosen (empty : Bool) : Option Char → Form
    | some '-' => .standIn empty
    | some '=' => .assign empty
    | some '?' => .require empty
    | some '+' => .alternative empty
    | some '\x7d' => if empty then .wrong else .plain
    | _ => .wrong

def Draft.openParameter (d : Draft) (name : String) (form : Form) : Draft :=
  let trims := match form with
    | .trimStart _ => true
    | .trimEnd _ => true
    | _ => false
  let table := if trims then .base
    else if d.frame.table = .arithmetic then .double else d.frame.table
  let d := if table ≠ d.frame.table ∨ d.frame.inner then
      d.enter (Frame.begin table (table ≠ .base) true)
    else d
  let f := d.frame
  let f := { f with
    braces := f.braces + 1
    quotedBraces := if f.double then f.quotedBraces + 1 else f.quotedBraces }
  { d with frame := f }.openPlace (some (name, form))

def readBackquoted (double : Bool) : Nat → Parser (List Char)
  | 0 => fault "EOF in backquote substitution"
  | fuel + 1 => do
    match ← nextJoined fuel with
    | none => fault "EOF in backquote substitution"
    | some '`' => pure []
    | some '\\' =>
      match ← next with
      | none => fault "EOF in backquote substitution"
      | some c =>
        let more ← readBackquoted double fuel
        if c = '\\' ∨ c = '`' ∨ c = '$' ∨ (double ∧ c = '"') then pure (c :: more)
        else pure ('\\' :: c :: more)
    | some c =>
      if c = '\n' then countLine
      let more ← readBackquoted double fuel
      pure (c :: more)

def within {α : Type} (text : List Char) (p : Parser α) : Parser α := do
  let s ← get
  set { s with
    inserted := [], rest := text, line := 1, ended := [], again := false, checks := .none
    awaited := [], verbose := false }
  let a ← p
  modify fun t => { s with
    documents := t.documents, token := t.token, again := false, checks := t.checks }
  pure a

def aside {α : Type} (p : Parser α) : Parser α := do
  let awaited := (← get).awaited
  modify fun s => { s with awaited := [] }
  let a ← p
  modify fun s => { s with awaited := awaited }
  pure a

def readMark : List Char → Option Char → Parser Bool
  | [], c => do
    if c = some '\n' ∨ c = none then
      countLine
      pure true
    else pure false
  | m :: more, c => do
    if c = some m then
      let d ← next
      if ← readMark more d then pure true
      else
        unread d
        pure false
    else pure false

def skipTabs : Nat → Option Char → Parser (Option Char)
  | fuel + 1, some '\t' => do skipTabs fuel (← next)
  | _, c => pure c

def checkEnd (fuel : Nat) (document : Option (List Char × Bool)) (c : Option Char) :
    Parser (Option Char) := do
  match document with
  | none => pure c
  | some (mark, tabs) =>
    let c ← if tabs then skipTabs fuel c else pure c
    if ← readMark mark c then pure none else pure c

def readDollar (inner : Parser (List Statement)) (fuel : Nat) (d : Draft) : Parser Draft := do
  let c ← nextJoined fuel
  let begins := match c with
    | some c => c == '(' || c == '\x7b' || isNameStart c || isSpecial c
    | none => false
  if (← get).checks.mark ∨ !begins then
    unread c
    pure (d.char false '$')
  else if c = some '(' then
    let e ← nextJoined fuel
    if e = some '(' then
      pure ((d.openPlace none).enter (Frame.begin .arithmetic true false))
    else
      unread e
      let body ← aside do
        let body ← inner
        if (← get).token ≠ .mark ")" then expecting (.mark ")")
        modify fun s => { s with again := false, checks := .none }
        pure body
      pure (d.add (.output body))
  else
    let braced := c = some '\x7b'
    let first ← if braced then nextJoined fuel else pure c
    let n ← readName braced fuel first
    match n.name with
    | none =>
      unread n.behind
      pure (d.openParameter "" .wrong)
    | some name =>
      if !braced then
        unread n.behind
        pure (d.add (.parameter name .plain []))
      else if n.length then
        unread n.behind
        pure (d.openParameter name (if n.behind = some '\x7d' then .length else .wrong))
      else
        match ← readForm fuel n.behind with
        | .plain => pure (d.add (.parameter name .plain []))
        | form => pure (d.openParameter name form)

def readParen (fuel : Nat) (d : Draft) : Parser Draft := do
  let f := d.frame
  if f.parens ≠ 0 then pure ({ d with frame := { f with parens := f.parens - 1 } }.char false ')')
  else
    let e ← nextJoined fuel
    if e = some ')' then pure d.leave.closePlace
    else
      unread e
      pure (d.char false ')')

def readCharacter (inner : Parser (List Statement)) (fuel : Nat) (d : Draft) (c : Char) :
    Parser Draft := do
  let f := d.frame
  match f.table.role c with
  | .careful => pure (d.char (!d.isText || f.double) c)
  | .backslash =>
    match ← next with
    | none => pure (d.char true c)
    | some e => pure (d.backslashed e)
  | .singleQuote => pure { d with frame := { f with table := .single } }.quote
  | .doubleQuote =>
    pure { d with frame := { f with table := .double, double := true } }.doubleQuote
  | .endQuote => pure (d.endQuote c)
  | .dollar => readDollar inner fuel d
  | .brace => pure d.closeBrace
  | .backquote =>
    if (← get).checks.mark then pure (d.char false c)
    else
      let text ← readBackquoted f.double fuel
      pure (d.add (.output (← within text inner)))
  | .openParen => pure ({ d with frame := { f with parens := f.parens + 1 } }.char false c)
  | .closeParen => readParen fuel d
  | _ => pure (d.char false c)

def Draft.endsAt (d : Draft) (c : Char) : Bool :=
  let f := d.frame
  match f.table.role c with
  | .newline => f.table == .base && f.braces == 0
  | .delimiter => f.braces == 0
  | _ => false

def readDraft (inner : Parser (List Statement)) :
    Nat → Draft → Option Char → Parser (Draft × Option Char)
  | fuel + 1, d, some c => do
    if d.endsAt c then pure (d, some c)
    else
      let d ← readCharacter inner fuel d c
      let follow : Parser (Option Char) :=
        if d.frame.table = .single then next else nextJoined fuel
      if d.frame.table.role c = .newline then
        countLine
        readDraft inner fuel d (← checkEnd fuel d.document (← follow))
      else readDraft inner fuel d (← follow)
  | _, d, c => pure (d, c)

def Draft.finish (d : Draft) : Parser Word := do
  if d.frame.table = .arithmetic then fault "Missing '))'"
  if d.frame.table ≠ .base ∧ !d.isText then fault "Unterminated quoted string"
  if d.frame.braces ≠ 0 then fault "Missing '\x7d'"
  pure d.pieces.reverse

def Draft.start (table : Table) (document : Option (List Char × Bool)) (free : Bool) : Draft where
  frame := Frame.begin table (table = .double) false
  outer := []
  opened := []
  pieces := []
  quoted := false
  document := document
  free := free

def readOperator (fuel : Nat) (mark : Char) : Parser (Nat × Option RedirectKind × Bool) := do
  let c ← nextJoined fuel
  if mark = '>' then
    match c with
    | some '>' => pure (1, some .append, false)
    | some '|' => pure (1, some .force, false)
    | some '&' => pure (1, some .duplicate, false)
    | c =>
      unread c
      pure (1, some .output, false)
  else
    match c with
    | some '<' =>
      let d ← nextJoined fuel
      if d = some '-' then pure (0, none, true)
      else
        unread d
        pure (0, none, false)
    | some '&' => pure (0, some .duplicate, false)
    | some '>' => pure (0, some .both, false)
    | c =>
      unread c
      pure (0, some .input, false)

def readWord (inner : Parser (List Statement)) (fuel : Nat) (c : Option Char) : Parser Token := do
  let (d, behind) ← readDraft inner fuel (.start .base none false) c
  let w ← d.finish
  let channel : Option (Option Nat) := match w with
    | [] => some none
    | [.char false c] => if c.isDigit then some (some (c.toNat - '0'.toNat)) else none
    | _ => none
  match channel, behind with
  | some channel, some mark =>
    if (mark = '>' ∨ mark = '<') ∧ !d.quoted then
      let (usual, kind, tabs) ← readOperator fuel mark
      modify fun s => { s with redirection := (channel.getD usual, kind, tabs) }
      setToken .redirection
    else done d w behind
  | _, _ => done d w behind
where
  done (d : Draft) (w : Word) (behind : Option Char) : Parser Token := do
    unread behind
    modify fun s => { s with word := w, quoted := d.quoted }
    setToken .word

def readDocuments (inner : Parser (List Statement)) (fuel : Nat) : Parser Unit := do
  let awaited := (← get).awaited
  modify fun s => { s with awaited := [] }
  for a in awaited do
    let table := if a.literal then Table.single else .double
    let c ← if a.literal then next else nextJoined fuel
    let document := some (a.mark, a.tabs)
    let c ← checkEnd fuel document c
    let (d, _) ← readDraft inner fuel (.start table document false) c
    let w ← d.finish
    modify fun s => { s with documents := s.documents.setIfInBounds a.number w }

def readFreeText (inner : Parser (List Statement)) (fuel : Nat) : Parser Word := do
  let (d, _) ← readDraft inner fuel (.start .double none true) (← nextJoined fuel)
  d.finish

end CallChart.Shell
