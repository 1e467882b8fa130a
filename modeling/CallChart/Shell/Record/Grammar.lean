import CallChart.Shell.Record.Term

namespace CallChart.Shell.Record
namespace Parser

def separator : Parser Unit := do
  match (← peek).kind with
  | .newline => skipLines
  | .stop => pure ()
  | .mark m =>
    if m = ";" then
      advance
      skipLines
    else if m ≠ "\x7d" then unexpected
  | _ => unexpected

def atSeparator : Parser Bool := do
  pure <| match (← peek).kind with
    | .newline => true
    | .stop => true
    | .mark m => m == ";" || m == "\x7d"
    | _ => false

def output (fuel : Nat) (formats : Bool) : Parser Statement := do
  let targets : List (String × Direction) := [(">", .file), (">>", .append), ("|", .command)]
  let line := (← peek).line
  let atEnd := (← atSeparator) || (← marked? targets).isSome
  let values ← if atEnd then pure []
    else if ← holdsAll then do
      advance
      withPrinting false (arguments fuel ")")
    else
      withPrinting true do
        let first ← expression fuel 1
        let rec more : Nat → Parser (List Expression)
          | 0 => pure []
          | n + 1 => do
            if ← accept "," then
              let e ← expression fuel 1
              pure (e :: (← more n))
            else pure []
        pure (first :: (← more fuel))
  if formats ∧ values.isEmpty then faultAt line "no arguments in call to printf"
  let target ← match ← marked? targets with
    | some d => do
      advance
      pure (some (d, ← withPrinting false (expression fuel 1)))
    | none => pure none
  pure (if formats then .layOut values target else .print values target)

def simple (fuel : Nat) : Parser Statement := do
  let t ← peek
  let optional : Parser (Option Expression) := do
    if ← atSeparator then pure none else pure (some (← expression fuel 1))
  match t.kind with
  | .word "print" =>
    advance
    output fuel false
  | .word "printf" =>
    advance
    output fuel true
  | .word "break" =>
    advance
    pure .leave
  | .word "continue" =>
    advance
    pure .again
  | .word "next" =>
    advance
    pure .nextRecord
  | .word "nextfile" =>
    advance
    pure .nextFile
  | .word "exit" =>
    advance
    pure (.exit (← optional))
  | .word "return" =>
    advance
    pure (.back (← optional))
  | .word "delete" =>
    advance
    match (← peek).kind with
    | .name name _ =>
      let n ← resolve name (some true)
      advance
      if ← accept "[" then
        let keys ← arguments fuel "]"
        if keys.isEmpty then unexpected
        pure (.remove n (some keys))
      else pure (.remove n none)
    | _ => unexpected
  | _ => pure (.evaluate (← expression fuel 1))

def misplaced? (s : Reading) : Statement → Option String
  | .leave => if s.loops = 0 then some "break statement outside of loop" else none
  | .again => if s.loops = 0 then some "continue statement outside of loop" else none
  | .nextRecord => if s.aside then some "improper use of next" else none
  | .nextFile => if s.aside then some "improper use of nextfile" else none
  | .back _ => if s.current.isNone then some "return outside function body" else none
  | _ => none

def condition (fuel : Nat) : Parser Expression := do
  expect "("
  let e ← expression fuel 1
  expect ")"
  pure e

def inLoop {α : Type} (p : Parser α) : Parser α := do
  modify fun s => { s with loops := s.loops + 1 }
  let a ← p
  modify fun s => { s with loops := s.loops - 1 }
  pure a

mutual

def statement : Nat → Parser Statement
  | 0 => unexpected
  | fuel + 1 => do
    let t ← peek
    match t.kind with
    | .mark "\x7b" => do
      let body ← block fuel
      skipLines
      pure body
    | .mark ";" =>
      advance
      skipLines
      pure .nothing
    | .word "if" =>
      advance
      let c ← condition fuel
      skipLines
      let yes ← statement fuel
      if ← seesWord "else" then
        advance
        skipLines
        pure (.choose c yes (← statement fuel))
      else pure (.choose c yes .nothing)
    | .word "while" =>
      advance
      let c ← condition fuel
      skipLines
      pure (.loop c .nothing (← inLoop (statement fuel)))
    | .word "do" =>
      advance
      skipLines
      let body ← inLoop (statement fuel)
      if !(← seesWord "while") then unexpected
      advance
      let c ← condition fuel
      separator
      pure (.loopOnce body c)
    | .word "for" =>
      advance
      forLoop fuel
    | _ =>
      let s ← simple fuel
      separator
      match misplaced? (← get) s with
      | some message => faultAt t.line message
      | none => pure s

def forLoop : Nat → Parser Statement
  | 0 => unexpected
  | fuel + 1 => do
    expect "("
    let kinds : List TokenKind := (← get).tokens.map (·.kind)
    match kinds with
    | .name name _ :: .word "in" :: .name table _ :: .mark ")" :: _ =>
      let n ← resolve name (some false)
      let a ← resolve table (some true)
      modify fun s => { s with tokens := s.tokens.drop 4 }
      skipLines
      pure (.each n a (← inLoop (statement fuel)))
    | _ =>
      let part (closing : String) : Parser (Option Expression) := do
        if ← accept closing then pure none
        else
          let e ← expression fuel 1
          expect closing
          pure (some e)
      let evaluated (e : Option Expression) : Statement := match e with
        | some e => .evaluate e
        | none => .nothing
      let start ← part ";"
      let c ← part ";"
      let next ← part ")"
      skipLines
      let body ← inLoop (statement fuel)
      pure (.block [evaluated start,
        .loop (c.getD (.constant (.number 1.0))) (evaluated next) body])

def block : Nat → Parser Statement
  | 0 => unexpected
  | fuel + 1 => do
    expect "\x7b"
    skipLines
    pure (.block (← statements fuel))

def statements : Nat → Parser (List Statement)
  | 0 => unexpected
  | fuel + 1 => do
    if ← accept "\x7d" then pure []
    else
      let s ← statement fuel
      pure (s :: (← statements fuel))

end

def parameters (function : String) : Nat → Parser (List String)
  | 0 => unexpected
  | fuel + 1 => do
    match (← peek).kind with
    | .name name _ =>
      if name = function then fault "function parameter cannot be the function"
      advance
      if ← accept ")" then pure [name]
      else
        expect ","
        let rest ← parameters function fuel
        if rest.contains name then fault (name ++ " is duplicated in argument list")
        pure (name :: rest)
    | _ => unexpected

def function (fuel : Nat) : Parser Unit := do
  let t ← peek
  match t.kind with
  | .name name _ =>
    let f ← functionOf name t.line
    if (((← get).functions[f]?).bind (·.body)).isSome then fault ("redefinition of " ++ name)
    advance
    expect "("
    let names ← do
      if ← accept ")" then pure [] else parameters name fuel
    skipLines
    let sketch (own : Array Use) (body : Option Statement) : Sketch := ⟨name, own, body, t.line⟩
    let own : Array Use := (names.map fun n => (n, none)).toArray
    modify fun s => { s with
      current := some f, own := own, aside := true
      functions := s.functions.setIfInBounds f (sketch own none) }
    let body ← block fuel
    modify fun s => { s with
      current := none, own := #[], aside := false
      functions := s.functions.setIfInBounds f (sketch s.own (some body)) }
  | _ => unexpected

def rule (fuel : Nat) : Parser (Occasion × Statement) := do
  let special (o : Occasion) : Parser (Occasion × Statement) := do
    advance
    modify fun s => { s with aside := true }
    let body ← block fuel
    modify fun s => { s with aside := false }
    pure (o, body)
  if ← seesWord "BEGIN" then special .first
  else if ← seesWord "END" then special .last
  else
    let occasion ← if ← sees "\x7b" then pure Occasion.always
      else do
        let e ← expression fuel 1
        if ← accept "," then pure (.range e (← expression fuel 1)) else pure (.when e)
    if ← sees "\x7b" then pure (occasion, ← block fuel)
    else if ← sees "\x7d" then unexpected
    else
      separator
      pure (occasion, .print [] none)

def rules (fuel : Nat) : Nat → Parser (List (Occasion × Statement))
  | 0 => pure []
  | n + 1 => do
    skipLines
    match (← peek).kind with
    | .stop => pure []
    | .word "function" =>
      advance
      function fuel
      rules fuel n
    | _ =>
      let r ← rule fuel
      pure (r :: (← rules fuel n))

def useOf (s : Reading) (caller : Option Nat) (n : Name) : Option Bool :=
  match n, caller with
  | .shared i, _ => (s.shared[i]?).bind (·.2)
  | .own i, some f => ((s.functions[f]?).bind (·.parameters[i]?)).bind (·.2)
  | .own _, none => none

def setUse (uses : Array Use) (i : Nat) (table : Bool) : Array Use :=
  uses.modify i fun u => (u.1, some table)

def note (s : Reading) (caller : Option Nat) (n : Name) (table : Bool) : Reading :=
  match n, caller with
  | .shared i, _ => { s with shared := setUse s.shared i table }
  | .own i, some f =>
    { s with functions := s.functions.modify f fun k =>
      { k with parameters := setUse k.parameters i table } }
  | .own _, none => s

def spread (s : Reading) : Nat → Reading
  | 0 => s
  | rounds + 1 =>
    spread (s.handings.foldl (fun s h =>
      match useOf s h.caller h.name, useOf s (some h.callee) (.own h.argument) with
      | some u, none => note s (some h.callee) (.own h.argument) u
      | none, some u => note s h.caller h.name u
      | _, _ => s) s) rounds

def callFaults (s : Reading) (lastLine : Nat) : List (Nat × String) :=
  let missing := s.functions.toList.filterMap fun f =>
    if f.body.isNone then some (lastLine, "function " ++ f.name ++ " never defined") else none
  let mismatch (line i : Nat) (callee : Sketch) (a b : Bool) : Nat × String :=
    let kind (table : Bool) : String := if table then "array" else "variable"
    (line, "type error in arg(" ++ toString (i + 1) ++ ") in call to " ++ callee.name ++
      " (actual local " ++ kind a ++ " vs local " ++ kind b ++ ")")
  let crowded := s.calls.reverse.filterMap fun (f, line, names) =>
    let callee := (s.functions[f]?).getD default
    if callee.body.isNone then none
    else if callee.parameters.size < names.length then
      some (line, "too many arguments in call to " ++ callee.name)
    else
      let isTable (i : Nat) : Bool := ((callee.parameters[i]?).bind (·.2)).getD false
      (names.zipIdx.find? fun (isName, i) => !isName && isTable i).map fun (_, i) =>
        mismatch line i callee false true
  let wrong := s.handings.reverse.filterMap fun h =>
    let callee := (s.functions[h.callee]?).getD default
    if callee.body.isNone then none
    else
      match useOf s h.caller h.name, useOf s (some h.callee) (.own h.argument) with
      | some a, some b =>
        if a = b then none else some (mismatch h.line h.argument callee a b)
      | _, _ => none
  missing ++ crowded ++ wrong

def program (source : Bytes) : Except (List (Nat × String × Bool)) Program :=
  let (tokens, complaints) := Token.all source
  let fuel := 40 * tokens.length + 100
  let start : Reading := ⟨tokens, (known.map fun (n, table) => (n, some table)).toArray, #[], none,
    #[], [], [], 0, false, false⟩
  let shown (c : Complaint) : Nat × String × Bool := (c.line, c.message, c.bare)
  match (rules fuel (tokens.length + 1)).run start, complaints with
  | .ok (rules, s), [] =>
    let s := spread s (s.handings.length + 1)
    match callFaults s ((tokens.getLast?.map (·.line)).getD 1) with
    | [] =>
      let table (u : Use) : Bool := u.2.getD false
      .ok ⟨s.shared.toList.map fun u => (u.1, table u),
        s.functions.map fun f =>
          ⟨f.name, f.parameters.toList.map table, f.body.getD .nothing⟩, rules⟩
    | faults => .error (faults.map fun (line, message) => (line, message, false))
  | .ok _, complaints => .error (complaints.map shown)
  | .error e, complaints =>
    let position := tokens.length - e.left
    let earlier := complaints.filter (·.position ≤ position)
    .error (if earlier.isEmpty then
        (e.line, e.message, false) :: (complaints.filter (·.last)).map shown
      else
        earlier.map shown ++ (complaints.filter fun c => position < c.position && c.last).map shown)

end Parser
end CallChart.Shell.Record
