import CallChart.Shell.Source

namespace CallChart.Shell.Arithmetic

inductive Token where
  | number (n : Int)
  | name (name : String)
  | mark (text : String)
  deriving DecidableEq, Repr

inductive Expr where
  | number (n : Int)
  | named (name : String)
  | unary (op : String) (e : Expr)
  | binary (op : String) (a b : Expr)
  | choice (condition a b : Expr)
  | assign (name : String) (op : Option String) (e : Expr)
  deriving DecidableEq, Repr

def wrap (n : Int) : Int := Int.bmod n (Nat.pow 2 64)

def digitValue (c : Char) : Nat :=
  if c.isDigit then c.toNat - '0'.toNat
  else if 'a' ≤ c ∧ c ≤ 'f' then c.toNat - 'a'.toNat + 10
  else if 'A' ≤ c ∧ c ≤ 'F' then c.toNat - 'A'.toNat + 10
  else 99

def largest : Int := Nat.pow 2 63 - 1

def numeral (base : Nat) (cs : List Char) : Int :=
  min largest (cs.foldl (fun n c => n * base + digitValue c) 0 : Nat)

def readNumber (cs : List Char) : Int × List Char :=
  match cs with
  | '0' :: x :: c :: rest =>
    if (x = 'x' ∨ x = 'X') ∧ digitValue c < 16 then
      let ds := (c :: rest).takeWhile (digitValue · < 16)
      (numeral 16 ds, (c :: rest).drop ds.length)
    else octal (x :: c :: rest)
  | '0' :: rest => octal rest
  | cs =>
    let ds := cs.takeWhile Char.isDigit
    (numeral 10 ds, cs.drop ds.length)
where
  octal (cs : List Char) : Int × List Char :=
    let ds := cs.takeWhile (digitValue · < 8)
    (numeral 8 ds, cs.drop ds.length)

def marks : List String :=
  ["<<=", ">>=", "<<", ">>", "<=", ">=", "==", "!=", "&&", "||", "+=", "-=", "*=", "/=", "%=",
    "&=", "^=", "|=", "+", "-", "*", "/", "%", "&", "^", "|", "<", ">", "!", "~", "?", ":", "=",
    "(", ")"]

def tokens : Nat → List Char → List Token
  | 0, _ => []
  | _, [] => []
  | fuel + 1, c :: rest =>
    if c = ' ' ∨ c = '\t' ∨ c = '\n' then tokens fuel rest
    else if c.isDigit then
      let (n, rest) := readNumber (c :: rest)
      .number n :: tokens fuel rest
    else if isNameStart c then
      .name (String.ofList ((c :: rest).takeWhile isNameChar)) ::
        tokens fuel (rest.dropWhile isNameChar)
    else
      match marks.find? fun m => m.toList.isPrefixOf (c :: rest) with
      | some m => .mark m :: tokens fuel ((c :: rest).drop m.length)
      | none => [.mark (String.ofList [c])]

def precedence? : String → Option Nat
  | "*" => some 0
  | "/" => some 0
  | "%" => some 0
  | "+" => some 1
  | "-" => some 1
  | "<<" => some 2
  | ">>" => some 2
  | "<" => some 3
  | "<=" => some 3
  | ">" => some 3
  | ">=" => some 3
  | "==" => some 4
  | "!=" => some 4
  | "&" => some 5
  | "^" => some 6
  | "|" => some 7
  | "&&" => some 8
  | "||" => some 9
  | _ => none

def assignment? : String → Option (Option String)
  | "=" => some none
  | "+=" => some (some "+")
  | "-=" => some (some "-")
  | "*=" => some (some "*")
  | "/=" => some (some "/")
  | "%=" => some (some "%")
  | "&=" => some (some "&")
  | "^=" => some (some "^")
  | "|=" => some (some "|")
  | "<<=" => some (some "<<")
  | ">>=" => some (some ">>")
  | _ => none

abbrev Read := Except String (Expr × List Token)

mutual

def readAssignment : Nat → List Token → Read
  | 0, _ => .error "expecting primary"
  | fuel + 1, ts =>
    match ts with
    | .name name :: .mark m :: rest =>
      match assignment? m with
      | some op => do
        let (e, rest) ← readAssignment fuel rest
        pure (.assign name op e, rest)
      | none => readChoice fuel ts
    | ts => readChoice fuel ts

def readChoice : Nat → List Token → Read
  | 0, _ => .error "expecting primary"
  | fuel + 1, ts => do
    let (a, rest) ← readPrimary fuel ts
    let (a, rest) ← readBinary fuel 10 a rest
    match rest with
    | .mark "?" :: rest =>
      let (b, rest) ← readAssignment fuel rest
      match rest with
      | .mark ":" :: rest =>
        let (c, rest) ← readChoice fuel rest
        pure (.choice a b c, rest)
      | _ => throw "expecting ':'"
    | rest => pure (a, rest)

def readBinary : Nat → Nat → Expr → List Token → Read
  | 0, _, _, _ => .error "expecting primary"
  | fuel + 1, bound, a, ts =>
    match ts with
    | .mark m :: rest =>
      match precedence? m with
      | some p =>
        if p < bound then do
          let (b, rest) ← readPrimary fuel rest
          let (b, rest) ← readBinary fuel p b rest
          readBinary fuel bound (.binary m a b) rest
        else pure (a, ts)
      | none => pure (a, ts)
    | ts => pure (a, ts)

def readPrimary : Nat → List Token → Read
  | 0, _ => .error "expecting primary"
  | fuel + 1, ts =>
    match ts with
    | .number n :: rest => pure (.number n, rest)
    | .name name :: rest => pure (.named name, rest)
    | .mark "(" :: rest => do
      let (e, rest) ← readAssignment fuel rest
      match rest with
      | .mark ")" :: rest => pure (e, rest)
      | _ => throw "expecting ')'"
    | .mark "+" :: rest => readPrimary fuel rest
    | .mark m :: rest =>
      if m = "-" ∨ m = "!" ∨ m = "~" then do
        let (e, rest) ← readPrimary fuel rest
        pure (.unary m e, rest)
      else throw "expecting primary"
    | [] => throw "expecting primary"

end

def Expr.ofText (cs : List Char) : Except String Expr := do
  let ts := tokens (cs.length + 1) cs
  let (e, rest) ← readAssignment (4 * ts.length + 4) ts
  if rest.isEmpty then pure e else throw "expecting EOF"

def ofBool (b : Bool) : Int := if b then 1 else 0

def bitwise (f : Nat → Nat → Nat) (a b : Int) : Int :=
  wrap (f (a % Nat.pow 2 64).toNat (b % Nat.pow 2 64).toNat)

def apply (op : String) (a b : Int) : Except String Int :=
  match op with
  | "*" => .ok (wrap (a * b))
  | "/" => if b = 0 then .error "division by zero" else .ok (wrap (a.tdiv b))
  | "%" => if b = 0 then .error "division by zero" else .ok (a.tmod b)
  | "+" => .ok (wrap (a + b))
  | "-" => .ok (wrap (a - b))
  | "<<" => .ok (wrap (a * Nat.pow 2 (b % 64).toNat))
  | ">>" => .ok (a / Nat.pow 2 (b % 64).toNat)
  | "<" => .ok (ofBool (a < b))
  | "<=" => .ok (ofBool (a ≤ b))
  | ">" => .ok (ofBool (b < a))
  | ">=" => .ok (ofBool (b ≤ a))
  | "==" => .ok (ofBool (a = b))
  | "!=" => .ok (ofBool (a ≠ b))
  | "&" => .ok (bitwise Nat.land a b)
  | "^" => .ok (bitwise Nat.xor a b)
  | "|" => .ok (bitwise Nat.lor a b)
  | _ => .error "syntax error"

structure Scope where
  assigned : List (String × Int)
  known : String → Except String Int

def Scope.value (s : Scope) (name : String) : Except String Int :=
  match s.assigned.lookup name with
  | some n => .ok n
  | none => s.known name

inductive Fault where
  | expression (message : String)
  | wording (message : String)
  deriving DecidableEq, Repr

abbrev Value := Except Fault (Int × Scope)

def Expr.eval (s : Scope) : Expr → Value
  | .number n => .ok (n, s)
  | .named name =>
    match s.value name with
    | .ok n => .ok (n, s)
    | .error e => .error (.wording e)
  | .unary op e => do
    let (n, s) ← e.eval s
    pure (if op = "-" then wrap (-n) else if op = "!" then ofBool (n = 0) else -n - 1, s)
  | .binary op a b => do
    let (m, s) ← a.eval s
    if op = "&&" then
      if m = 0 then pure (0, s)
      else
        let (n, s) ← b.eval s
        pure (ofBool (n ≠ 0), s)
    else if op = "||" then
      if m ≠ 0 then pure (1, s)
      else
        let (n, s) ← b.eval s
        pure (ofBool (n ≠ 0), s)
    else
      let (n, s) ← b.eval s
      match apply op m n with
      | .ok n => pure (n, s)
      | .error e => throw (.expression e)
  | .choice c a b => do
    let (n, s) ← c.eval s
    if n ≠ 0 then a.eval s else b.eval s
  | .assign name op e => do
    let (n, s) ← e.eval s
    let n ← match op with
      | none => pure n
      | some op =>
        match s.value name with
        | .error e => throw (.wording e)
        | .ok m =>
          match apply op m n with
          | .ok n => pure n
          | .error e => throw (.expression e)
    pure (n, { s with assigned := (name, n) :: s.assigned })

end CallChart.Shell.Arithmetic
