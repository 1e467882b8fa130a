import CallChart.Shell.Record.Reading

namespace CallChart.Shell.Record
namespace Parser

def fieldOf (e : Expression) : Expression := .value (.field e)

def wholeRecord : Expression := fieldOf (.constant (.number 0.0))

mutual

def expression : Nat → Nat → Parser Expression
  | 0, _ => unexpected
  | fuel + 1, level => do
    let e ← unit fuel
    climb fuel level e

def climb : Nat → Nat → Expression → Parser Expression
  | 0, _, _ => unexpected
  | fuel + 1, level, left => do
    let s ← get
    match (← peek).kind with
    | .word "in" =>
      if 5 < level then pure left
      else
        advance
        match (← peek).kind with
        | .name name _ =>
          let n ← resolve name (some true)
          advance
          climb fuel level (.member [left] n)
        | _ => unexpected
    | .mark m =>
      if m = "?" ∧ level ≤ 2 then
        advance
        let yes ← expression fuel 1
        expect ":"
        climb fuel level (.choice left yes (← expression fuel 2))
      else if m = "||" ∧ level ≤ 3 then
        advance
        climb fuel level (.either left (← expression fuel 4))
      else if m = "&&" ∧ level ≤ 4 then
        advance
        climb fuel level (.both left (← expression fuel 5))
      else if (m = "~" ∨ m = "!~") ∧ level ≤ 6 then
        advance
        let p ← asPattern (← expression fuel 7)
        climb fuel level (.matching (m == "!~") left p)
      else if level ≤ 7 ∧ !(m = ">" ∧ s.printing) then
        match comparisons.lookup m with
        | some c =>
          advance
          climb fuel level (.compare c left (← expression fuel 8))
        | none => pure left
      else pure left
    | _ => pure left

def unit : Nat → Parser Expression
  | 0 => unexpected
  | fuel + 1 => do
    let e ← sum fuel
    match e, ← marked? assignments with
    | .value p, some o =>
      advance
      pure (.assign p o (← expression fuel 1))
    | e, _ => joins fuel e

def joins : Nat → Expression → Parser Expression
  | 0, _ => unexpected
  | fuel + 1, left => do
    if ← startsOperand then joins fuel (.joined left (← sum fuel)) else pure left

def sum : Nat → Parser Expression
  | 0 => unexpected
  | fuel + 1 => do
    sums fuel (← product fuel)

def sums : Nat → Expression → Parser Expression
  | 0, _ => unexpected
  | fuel + 1, left => do
    match ← marked? [("+", Operation.add), ("-", .subtract)] with
    | some o =>
      advance
      sums fuel (.operate o left (← product fuel))
    | none => pure left

def product : Nat → Parser Expression
  | 0 => unexpected
  | fuel + 1 => do
    products fuel (← signed fuel)

def products : Nat → Expression → Parser Expression
  | 0, _ => unexpected
  | fuel + 1, left => do
    match ← marked? [("*", Operation.multiply), ("/", .divide), ("%", .remainder)] with
    | some o =>
      advance
      products fuel (.operate o left (← signed fuel))
    | none => pure left

def signed : Nat → Parser Expression
  | 0 => unexpected
  | fuel + 1 => do
    match ← marked? [("!", Expression.not), ("-", .negative), ("+", .positive)] with
    | some f =>
      advance
      pure (f (← signed fuel))
    | none => piped fuel

def piped : Nat → Parser Expression
  | 0 => unexpected
  | fuel + 1 => do
    let e ← power fuel
    pipes fuel e

def pipes : Nat → Expression → Parser Expression
  | 0, _ => unexpected
  | fuel + 1, left => do
    let s ← get
    match s.tokens with
    | bar :: word :: rest =>
      if bar.isMark "|" ∧ word.isWord "getline" ∧ !s.printing then
        set { s with tokens := rest }
        let target ← target? fuel
        pipes fuel (.nextOfCommand left target)
      else pure left
    | _ => pure left

def target? : Nat → Parser (Option Place)
  | 0 => unexpected
  | fuel + 1 => do
    if ← startsPlace then
      match ← atom fuel with
      | .value p => pure (some p)
      | _ => unexpected
    else pure none

def power : Nat → Parser Expression
  | 0 => unexpected
  | fuel + 1 => do
    let base ← counted fuel
    if ← accept "^" then pure (.operate .power base (← exponent fuel)) else pure base

def exponent : Nat → Parser Expression
  | 0 => unexpected
  | fuel + 1 => do
    match ← marked? [("!", Expression.not), ("-", .negative), ("+", .positive)] with
    | some f =>
      advance
      pure (f (← exponent fuel))
    | none => power fuel

def counted : Nat → Parser Expression
  | 0 => unexpected
  | fuel + 1 => do
    let e ← atom fuel
    match e, ← marked? [("++", true), ("--", false)] with
    | .value p, some up =>
      advance
      pure (.count p up false)
    | e, _ => pure e

def atom : Nat → Parser Expression
  | 0 => unexpected
  | fuel + 1 => do
    let t ← peek
    match t.kind with
    | .number x =>
      advance
      pure (.constant (.number x))
    | .text bs =>
      advance
      pure (.constant (.text bs))
    | .pattern source =>
      let p ← patternOf source
      advance
      pure (.pattern p)
    | .name name called =>
      let known := (← get).functions.any (·.name = name)
      let isOwn := (← get).own.any (·.1 = name)
      if !isOwn ∧ (called ∨ known) then
        if called ∧ !known ∧ (← get).shared.any (·.1 = name) then
          let n ← resolve name (some false)
          advance
          pure (.value (.variable n))
        else
          let f ← functionOf name t.line
          advance
          expect "("
          let es ← withPrinting false (arguments fuel ")")
          hand f es t.line
          pure (.call f es)
      else if ((← get).tokens.drop 1).head?.any (·.isMark "[") then
        let n ← resolve name (some true)
        advance
        advance
        let keys ← withPrinting false (arguments fuel "]")
        if keys.isEmpty then unexpected
        pure (.value (.element n keys))
      else
        let next := ((← get).tokens.drop 1).head?
        let alone := next.any fun u => u.isMark "," || u.isMark ")"
        let n ← resolve name (if alone then none else some false)
        advance
        pure (.value (.variable n))
    | .word w => ability fuel t w
    | .mark "(" =>
      advance
      let first ← withPrinting false (expression fuel 1)
      if ← sees "," then
        advance
        let rest ← withPrinting false (arguments fuel ")")
        if !(← seesWord "in") then unexpected
        advance
        match (← peek).kind with
        | .name name _ =>
          let n ← resolve name (some true)
          advance
          pure (.member (first :: rest) n)
        | _ => unexpected
      else
        expect ")"
        pure first
    | .mark "$" =>
      advance
      pure (fieldOf (← fieldIndex fuel))
    | .mark "++" =>
      advance
      before fuel true
    | .mark "--" =>
      advance
      before fuel false
    | _ => unexpected

def fieldIndex : Nat → Parser Expression
  | 0 => unexpected
  | fuel + 1 => do
    match (← peek).kind with
    | .name "NF" _ => counted fuel
    | .mark "-" =>
      advance
      pure (.negative (← fieldIndex fuel))
    | .mark "+" =>
      advance
      pure (.positive (← fieldIndex fuel))
    | .mark "!" =>
      advance
      pure (.not (← fieldIndex fuel))
    | _ => atom fuel

def before : Nat → Bool → Parser Expression
  | 0, _ => unexpected
  | fuel + 1, up => do
    match ← atom fuel with
    | .value p => pure (.count p up true)
    | _ => unexpected

def hand (f : Nat) (es : List Expression) (line : Nat) : Parser Unit := do
  let isName (e : Expression) : Bool := match e with
    | .value (.variable _) => true
    | _ => false
  modify fun s => { s with calls := (f, line, es.map isName) :: s.calls }
  for (e, i) in es.zipIdx do
    match e with
    | .value (.variable n) =>
      modify fun s => { s with handings := ⟨s.current, n, f, i, line⟩ :: s.handings }
    | _ => pure ()

def arguments : Nat → String → Parser (List Expression)
  | 0, _ => unexpected
  | fuel + 1, closing => do
    if ← accept closing then pure []
    else
      let e ← expression fuel 1
      if ← accept closing then pure [e]
      else
        expect ","
        if ← sees closing then unexpected
        pure (e :: (← arguments fuel closing))

def ability : Nat → Token → String → Parser Expression
  | 0, _, _ => unexpected
  | fuel + 1, t, w => do
    let wrong {α : Type} : Parser α :=
      faultAt t.line ("wrong number of arguments in call to " ++ w)
    match w with
    | "getline" =>
      advance
      let target ← target? fuel
      if ← accept "<" then pure (.nextOfFile (← power fuel) target) else pure (.next target)
    | "length" =>
      advance
      if ← accept "(" then
        if ← accept ")" then pure (.ability .length [wholeRecord])
        else
          let e ← withPrinting false (expression fuel 1)
          expect ")"
          pure (.ability .length [e])
      else pure (.ability .length [wholeRecord])
    | "split" =>
      advance
      expect "("
      let text ← withPrinting false (expression fuel 1)
      expect ","
      match (← peek).kind with
      | .name name _ =>
        let n ← resolve name (some true)
        advance
        if ← accept ")" then pure (.split text n none)
        else
          expect ","
          let separator ← withPrinting false (expression fuel 1)
          expect ")"
          pure (.split text n (some separator))
      | _ => unexpected
    | w =>
      if w = "sub" ∨ w = "gsub" then
        advance
        expect "("
        let pattern ← asPattern (← withPrinting false (expression fuel 1))
        expect ","
        let replacement ← withPrinting false (expression fuel 1)
        if ← accept ")" then
          pure (.substitute (w = "gsub") pattern replacement (.field (.constant (.number 0.0))))
        else
          expect ","
          let here := (← peek)
          match ← withPrinting false (counted fuel) with
          | .value p =>
            expect ")"
            pure (.substitute (w = "gsub") pattern replacement p)
          | _ => faultAt here.line ("syntax error at or near " ++ textOf here.shown)
      else
        match abilities.lookup w with
        | none => unexpected
        | some (a, low, high) =>
          advance
          expect "("
          let es ← withPrinting false (arguments fuel ")")
          if es.length < low ∨ high < es.length then wrong
          else
            match a, es with
            | .search, [text, p] => pure (.ability a [text, ← asPattern p])
            | _, es => pure (.ability a es)

end

end Parser
end CallChart.Shell.Record
