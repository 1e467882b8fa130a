import CallChart.Shell.Syntax

namespace CallChart.Shell

structure Inserted where
  rest : List Char
  name : String
  blank : Bool

structure Checks where
  newlines : Bool
  keywords : Bool
  aliases : Bool
  mark : Bool
  deriving DecidableEq, Repr

def Checks.none : Checks := ⟨false, false, false, false⟩

inductive Token where
  | word
  | redirection
  | newline
  | ending
  | mark (text : String)
  | keyword (text : String)
  deriving DecidableEq, Repr

def Token.name : Token → String
  | .word => "word"
  | .redirection => "redirection"
  | .newline => "newline"
  | .ending => "end of file"
  | .mark text => "\"" ++ text ++ "\""
  | .keyword text => "\"" ++ text ++ "\""

def Token.endsList : Token → Bool
  | .ending => true
  | .mark text => [")", ";;"].contains text
  | .keyword text =>
    ["do", "done", "elif", "else", "esac", "fi", "then", "\x7d"].contains text
  | _ => false

/-- A text of the script that a redirection waits for: its number, the line that ends it, whether
tabs before its lines are left out, and whether it is taken as it stands. -/
structure Awaited where
  number : Nat
  mark : List Char
  tabs : Bool
  literal : Bool

structure Source where
  inserted : List Inserted
  rest : List Char
  line : Nat
  aliases : List (String × List Char)
  ended : List String
  token : Token
  again : Bool
  checks : Checks
  word : Word
  quoted : Bool
  redirection : Nat × Option RedirectKind × Bool
  awaited : List Awaited
  documents : Array Word
  verbose : Bool
  shown : List (List Char)
  fresh : Bool

structure SyntaxFault where
  line : Nat
  message : String
  shown : List (List Char)

abbrev Parser := StateT Source (Except SyntaxFault)

def Source.ofText (text : List Char) (aliases : List (String × List Char))
    (documents : Array Word) : Source where
  inserted := []
  rest := text
  line := 1
  aliases := aliases
  ended := []
  token := .newline
  again := false
  checks := .none
  word := []
  quoted := false
  redirection := (0, none, false)
  awaited := []
  documents := documents
  verbose := false
  shown := []
  fresh := true

namespace Source

def takeRest (s : Source) : Option Char × Source :=
  match s.rest with
  | [] => (none, s)
  | c :: rest =>
    let line := s.rest.takeWhile (· ≠ '\n')
    let s := if s.fresh ∧ s.verbose then
        { s with shown := s.rest.take (line.length + 1) :: s.shown }
      else s
    (some c, { s with rest := rest, fresh := c == '\n' })

def take (s : Source) : List Inserted → Option Char × Source
  | [] => { s with inserted := [] }.takeRest
  | i :: more =>
    match i.rest with
    | c :: rest => (some c, { s with inserted := { i with rest := rest } :: more })
    | [] =>
      take { s with
        ended := i.name :: s.ended
        checks := { s.checks with aliases := s.checks.aliases || i.blank } } more

def give (c : Char) (s : Source) : Source :=
  match s.inserted with
  | i :: more => { s with inserted := { i with rest := c :: i.rest } :: more }
  | [] => { s with rest := c :: s.rest, fresh := false }

def insert (name : String) (text : List Char) (s : Source) : Source :=
  let ending := text.getLast?
  { s with inserted := ⟨text, name, ending == some ' ' || ending == some '\t'⟩ :: s.inserted }

def alias? (s : Source) (name : List Char) : Option (String × List Char) :=
  let name := String.ofList name
  if s.ended.contains name ∨ (s.inserted.any fun i => i.name == name) then none
  else (s.aliases.lookup name).map (name, ·)

end Source

namespace Parser

def fault {α : Type} (message : String) : Parser α := fun s =>
  .error ⟨s.line, "Syntax error: " ++ message, s.shown⟩

def unexpected {α : Type} : Parser α := do
  fault ((← get).token.name ++ " unexpected")

def expecting {α : Type} (t : Token) : Parser α := do
  fault ((← get).token.name ++ " unexpected (expecting " ++ t.name ++ ")")

def next : Parser (Option Char) := fun s =>
  .ok ({ s with ended := [] }.take s.inserted)

def unread : Option Char → Parser Unit
  | some c => modify (Source.give c)
  | none => pure ()

def countLine : Parser Unit :=
  modify fun s => { s with line := s.line + 1 }

def nextJoined : Nat → Parser (Option Char)
  | 0 => next
  | fuel + 1 => do
    let c ← next
    if c = some '\\' then
      let d ← next
      if d = some '\n' then
        countLine
        nextJoined fuel
      else
        unread d
        pure c
    else pure c

def giveBack : Parser Unit :=
  modify fun s => { s with again := true }

def setToken (t : Token) : Parser Token := do
  modify fun s => { s with token := t }
  pure t

def setChecks (checks : Checks) : Parser Unit :=
  modify fun s => { s with checks := checks }

end Parser

def isNameStart (c : Char) : Bool := c.isAlpha || c == '_'

def isNameChar (c : Char) : Bool := c.isAlphanum || c == '_'

def isName (cs : List Char) : Bool :=
  match cs with
  | [] => false
  | c :: rest => isNameStart c && rest.all isNameChar

def isSpecial (c : Char) : Bool :=
  c.isDigit || ['?', '#', '@', '*', '-', '$', '!'].contains c

end CallChart.Shell
