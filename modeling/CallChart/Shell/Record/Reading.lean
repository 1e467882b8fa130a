import CallChart.Shell.Record.Token

namespace CallChart.Shell.Record

abbrev Use := String × Option Bool

structure Sketch where
  name : String
  parameters : Array Use
  body : Option Statement
  line : Nat
  deriving Inhabited

structure Handing where
  caller : Option Nat
  name : Name
  callee : Nat
  argument : Nat
  line : Nat

structure Reading where
  tokens : List Token
  shared : Array Use
  functions : Array Sketch
  current : Option Nat
  own : Array Use
  handings : List Handing
  calls : List (Nat × Nat × List Bool)
  loops : Nat
  aside : Bool
  printing : Bool

structure SyntaxFault where
  left : Nat
  line : Nat
  message : String
  deriving Inhabited

abbrev Parser := StateT Reading (Except SyntaxFault)

namespace Parser

def peek : Parser Token := do
  pure ((← get).tokens.headD ⟨.stop, [], 0⟩)

def advance : Parser Unit := modify fun s => { s with tokens := s.tokens.drop 1 }

def faultAt {α : Type} (line : Nat) (message : String) : Parser α := do
  throw ⟨(← get).tokens.length, line, message⟩

def fault {α : Type} (message : String) : Parser α := do
  faultAt (← peek).line message

def unexpected {α : Type} : Parser α := do
  let t ← peek
  faultAt t.line ("syntax error at or near " ++ textOf t.shown)

def sees (m : String) : Parser Bool := do
  pure ((← peek).isMark m)

def seesWord (w : String) : Parser Bool := do
  pure ((← peek).isWord w)

def accept (m : String) : Parser Bool := do
  if ← sees m then
    advance
    pure true
  else pure false

def expect (m : String) : Parser Unit := do
  if !(← accept m) then unexpected

def skipLines : Parser Unit := do
  modify fun s => { s with tokens := s.tokens.dropWhile fun t => match t.kind with
    | .newline => true
    | _ => false }

def withPrinting {α : Type} (printing : Bool) (p : Parser α) : Parser α := do
  let before := (← get).printing
  modify fun s => { s with printing := printing }
  let a ← p
  modify fun s => { s with printing := before }
  pure a

def resolve (name : String) (table : Option Bool) : Parser Name := do
  let s ← get
  let settle (use : Use) : Parser Use :=
    match use.2, table with
    | some true, some false => fault ("illegal reference to array " ++ name)
    | some false, some true => fault ("illegal reference to variable " ++ name)
    | none, known => pure (use.1, known)
    | known, _ => pure (use.1, known)
  match s.own.findIdx? (·.1 = name) with
  | some i =>
    let use ← settle ((s.own[i]?).getD (name, none))
    modify fun s => { s with own := s.own.setIfInBounds i use }
    pure (.own i)
  | none =>
    if s.functions.any (·.name = name) then unexpected
    else
      match s.shared.findIdx? (·.1 = name) with
      | some i =>
        let use ← settle ((s.shared[i]?).getD (name, none))
        modify fun s => { s with shared := s.shared.setIfInBounds i use }
        pure (.shared i)
      | none =>
        modify fun s => { s with shared := s.shared.push (name, table) }
        pure (.shared s.shared.size)

def functionOf (name : String) (line : Nat) : Parser Nat := do
  let s ← get
  match s.functions.findIdx? (·.name = name) with
  | some i => pure i
  | none =>
    if s.shared.any (·.1 = name) then fault ("illegal reference to variable " ++ name)
    else
      modify fun s => { s with functions := s.functions.push ⟨name, #[], none, line⟩ }
      pure s.functions.size

def patternOf (source : Bytes) : Parser Pattern := do
  match Pattern.read source with
  | .ok p => pure p
  | .error message => fault message

def asPattern (e : Expression) : Parser Expression := do
  match e with
  | .constant (.text source) => pure (.pattern (← patternOf source))
  | e => pure e

def assignments : List (String × Option Operation) := [("=", none), ("+=", some .add),
  ("-=", some .subtract), ("*=", some .multiply), ("/=", some .divide), ("%=", some .remainder),
  ("^=", some .power)]

def comparisons : List (String × Comparison) := [("==", .equal), ("!=", .unequal), ("<", .less),
  ("<=", .lessOrEqual), (">", .greater), (">=", .greaterOrEqual)]

def marked? {α : Type} (marks : List (String × α)) : Parser (Option α) := do
  match (← peek).kind with
  | .mark m => pure (marks.lookup m)
  | _ => pure none

def abilities : List (String × Ability × Nat × Nat) := [("index", .index, 2, 2),
  ("substr", .part, 2, 3), ("match", .search, 2, 2), ("sprintf", .layOut, 1, 255),
  ("sin", .sine, 1, 1), ("cos", .cosine, 1, 1), ("atan2", .arctangent, 2, 2),
  ("exp", .exponential, 1, 1), ("log", .logarithm, 1, 1), ("sqrt", .root, 1, 1),
  ("int", .whole, 1, 1), ("rand", .random, 0, 0), ("srand", .seed, 0, 1),
  ("close", .close, 1, 1), ("fflush", .flush, 0, 1), ("system", .system, 1, 1),
  ("toupper", .upper, 1, 1), ("tolower", .lower, 1, 1), ("systime", .now, 0, 0),
  ("strftime", .date, 0, 3), ("mktime", .time, 1, 1)]

def operandWords : List String :=
  ["getline", "length", "split", "sub", "gsub"] ++ abilities.map (·.1)

def startsOperand : Parser Bool := do
  pure <| match (← peek).kind with
    | .number _ => true
    | .text _ => true
    | .pattern _ => true
    | .name _ _ => true
    | .word w => operandWords.contains w
    | .mark m => ["(", "$", "!", "++", "--"].contains m
    | _ => false

def startsPlace : Parser Bool := do
  match (← peek).kind with
  | .name name called =>
    pure (!called && !((← get).functions.any (·.name = name)))
  | .mark m => pure (m == "$")
  | _ => pure false

def behindParenthesis : Nat → List Token → List Token
  | _, [] => []
  | depth, t :: rest =>
    if t.isMark "(" then behindParenthesis (depth + 1) rest
    else if t.isMark ")" then
      match depth with
      | 0 => rest
      | depth + 1 => behindParenthesis depth rest
    else behindParenthesis depth rest

def holdsAll : Parser Bool := do
  match (← get).tokens with
  | t :: rest =>
    if !t.isMark "(" then pure false
    else
      pure <| match behindParenthesis 0 rest with
        | [] => true
        | u :: _ =>
          match u.kind with
          | .newline => true
          | .stop => true
          | .mark m => [";", "\x7d", ">", ">>", "|"].contains m
          | _ => false
  | [] => pure false

end Parser
end CallChart.Shell.Record
