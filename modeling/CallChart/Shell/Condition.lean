import CallChart.Shell.Expansion

namespace CallChart.Shell.Condition

inductive Operator where
  | unary (letter : Char)
  | binary (name : String)
  | not
  | and
  | or
  | opening
  | closing
  deriving DecidableEq, Repr

def operator? (w : Bytes) : Option Operator :=
  match textOf w with
  | "!" => some .not
  | "-a" => some .and
  | "-o" => some .or
  | "(" => some .opening
  | ")" => some .closing
  | text =>
    if ["=", "==", "!=", "<", ">", "-eq", "-ne", "-ge", "-gt", "-le", "-lt", "-nt", "-ot",
        "-ef"].contains text ∧ text ≠ "==" then some (.binary text)
    else
      match text.toList with
      | ['-', c] => if "rwxefdcbpugkstznhOGLS".toList.contains c then some (.unary c) else none
      | _ => none

def isBinary : Option Operator → Bool
  | some (.binary _) => true
  | _ => false

structure World where
  file : Char → Bytes → Bool
  newer : Bytes → Bytes → Bool
  same : Bytes → Bytes → Bool

abbrev Reading := StateT Nat (Except String)

/-- The operator that a word is in its place: an operator before an operand, or at the end, is one
only if something can follow it. -/
def token (ws : Array Bytes) (i : Nat) : Option Operator :=
  match ws[i]? with
  | none => none
  | some w =>
    match operator? w with
    | some (.unary c) =>
      match ws[i + 1]?, ws[i + 2]? with
      | none, _ => none
      | some _, none => some (.unary c)
      | some next, some _ => if isBinary (operator? next) then none else some (.unary c)
    | some .opening => if ws[i + 1]?.isNone then none else some .opening
    | op => op

def integer (w : Bytes) : Except String Int :=
  let cs := (textOf w).toList.dropWhile fun c => c = ' ' ∨ c = '\t' ∨ c = '\n'
  let (negative, digits) := match cs with
    | '-' :: rest => (true, rest)
    | '+' :: rest => (false, rest)
    | rest => (false, rest)
  let ds := digits.takeWhile Char.isDigit
  let rest := digits.drop ds.length
  let n : Int := (ds.foldl (fun n c => n * 10 + (c.toNat - '0'.toNat)) 0 : Nat)
  let n := if negative then -n else n
  if ds.isEmpty ∨ !(rest.all fun c => c = ' ' ∨ c = '\t' ∨ c = '\n') ∨ Arithmetic.largest < n ∨
      n < -Arithmetic.largest - 1 then
    .error ("Illegal number: " ++ textOf w)
  else .ok n

def compare (world : World) (op : String) (a b : Bytes) : Except String Bool :=
  let numbers (f : Int → Int → Bool) : Except String Bool := do
    let m ← integer a
    let n ← integer b
    pure (f m n)
  match op with
  | "=" => .ok (a == b)
  | "!=" => .ok (a != b)
  | "<" => .ok (bytesLE a b && a != b)
  | ">" => .ok (bytesLE b a && a != b)
  | "-eq" => numbers fun m n => m == n
  | "-ne" => numbers fun m n => m != n
  | "-ge" => numbers fun m n => n ≤ m
  | "-gt" => numbers fun m n => n < m
  | "-le" => numbers fun m n => m ≤ n
  | "-lt" => numbers fun m n => m < n
  | "-nt" => .ok (world.newer a b)
  | "-ot" => .ok (world.newer b a)
  | _ => .ok (world.same a b)

def advance (n : Nat) : Reading Unit := modify (· + n)

def binary (world : World) (ws : Array Bytes) : Reading Bool := do
  let i ← get
  let name := textOf (ws[i + 1]?.getD [])
  advance 2
  match ws[i]?, ws[i + 2]? with
  | some a, some b => (compare world name a b : Except String Bool)
  | _, _ => throw (name ++ ": argument expected")

mutual

def either (world : World) (ws : Array Bytes) : Nat → Reading Bool
  | 0 => throw "closing paren expected"
  | fuel + 1 => do
    let a ← both world ws fuel
    if token ws ((← get) + 1) = some .or then
      advance 2
      let b ← either world ws fuel
      pure (a || b)
    else pure a

def both (world : World) (ws : Array Bytes) : Nat → Reading Bool
  | 0 => throw "closing paren expected"
  | fuel + 1 => do
    let a ← negated world ws fuel
    if token ws ((← get) + 1) = some .and then
      advance 2
      let b ← both world ws fuel
      pure (a && b)
    else pure a

def negated (world : World) (ws : Array Bytes) : Nat → Reading Bool
  | 0 => throw "closing paren expected"
  | fuel + 1 => do
    if token ws (← get) = some .not then
      if ws[(← get) + 1]?.isSome then
        advance 1
        let a ← negated world ws fuel
        pure !a
      else pure true
    else primary world ws fuel

def primary (world : World) (ws : Array Bytes) : Nat → Reading Bool
  | 0 => throw "closing paren expected"
  | fuel + 1 => do
    let i ← get
    match ws[i]? with
    | none => pure false
    | some w =>
      match token ws i with
      | some .opening =>
        advance 1
        if token ws (i + 1) = some .closing then pure false
        else
          let a ← either world ws fuel
          advance 1
          if token ws (← get) = some .closing then pure a else throw "closing paren expected"
      | some (.unary c) =>
        advance 1
        match ws[i + 1]? with
        | none => throw (textOf w ++ ": argument expected")
        | some x =>
          if c = 'z' then pure x.isEmpty
          else if c = 'n' then pure !x.isEmpty
          else if c = 't' then
            let _ ← (integer x : Except String Int)
            pure false
          else pure (world.file c x)
      | _ =>
        if isBinary (token ws (i + 1)) then binary world ws
        else pure !w.isEmpty

end

def check (world : World) : Nat → Bool → Array Bytes → Except String Bool
  | 0, _, _ => .ok false
  | fuel + 1, expected, ws =>
    let answer (b : Bool) : Bool := b == expected
    let whole (ws : Array Bytes) : Except String Bool := do
      let (b, i) ← (either world ws (4 * ws.size + 8)).run 0
      match ws[i]?, ws[i + 1]? with
      | some w, some _ => throw (textOf w ++ ": unexpected operator")
      | _, _ => pure (answer b)
    if ws.isEmpty then .ok !expected
    else if ws.size = 3 ∧ isBinary (ws[1]?.bind operator?) then do
      let (b, _) ← (binary world ws).run 0
      pure (answer b)
    else if ws.size = 3 ∨ ws.size = 4 then
      if ws[0]? = some (bytesOf "(") ∧ ws.back? = some (bytesOf ")") then
        whole (ws.extract 1 (ws.size - 1))
      else if ws[0]? = some (bytesOf "!") then check world fuel false (ws.extract 1 ws.size)
      else whole ws
    else whole ws

end CallChart.Shell.Condition
