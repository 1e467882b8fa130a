import CallChart.Shell.Pattern
import CallChart.Shell.Regex
import CallChart.Shell.Tool.Naming

namespace CallChart.Shell.Tool

open CallChart.Shell.Action

namespace Expression

def number? (bs : Bytes) : Option Int :=
  match bs with
  | 0x2D :: rest => (digits? rest).map fun n => -(n : Int)
  | bs => (digits? bs).map Int.ofNat

def isNull (bs : Bytes) : Bool :=
  let ds := if bs.head? = some 0x2D then bs.drop 1 else bs
  bs.isEmpty || (!ds.isEmpty && ds.all (· = 0x30))

def ofInt (n : Int) : Bytes := bytesOf (toString n)

def ofBool (b : Bool) : Bytes := if b then [0x31] else [0x30]

structure State where
  words : List Bytes
  latest : Bytes

abbrev Reader := StateT State (Except String)

def matched (text pattern : Bytes) : Except String Bytes := do
  let e ← Regex.read .basic pattern
  match e.regex.matchAt? ⟨text.toArray, false, false⟩ 0 with
  | none => pure (if e.groups = 0 then [0x30] else [])
  | some m =>
    if e.groups = 0 then pure (ofInt m.stop)
    else
      match m.captures.lookup 1 with
      | some (low, high) => pure ((text.take high).drop low)
      | none => pure []

def nextOf (ops : List String) : Reader (Option String) := do
  match (← get).words with
  | w :: rest =>
    match ops.find? fun op => bytesOf op == w with
    | some op =>
      set (⟨rest, w⟩ : State)
      pure (some op)
    | none => pure none
  | [] => pure none

def take : Reader Bytes := do
  let s ← get
  match s.words with
  | w :: rest =>
    set (⟨rest, w⟩ : State)
    pure w
  | [] => throw ("syntax error: missing argument after " ++ quote s.latest)

def compared (op : String) (a b : Bytes) : Bytes :=
  let order := match number? a, number? b with
    | some m, some n => compare m n
    | _, _ => Order.compareBytes a b
  ofBool (match op with
    | "<" => order == .lt
    | "<=" => order != .gt
    | "=" => order == .eq
    | "==" => order == .eq
    | "!=" => order != .eq
    | ">=" => order != .lt
    | _ => order == .gt)

def calculated (op : String) (a b : Bytes) : Except String Bytes :=
  match number? a, number? b with
  | some m, some n =>
    match op with
    | "+" => .ok (ofInt (m + n))
    | "-" => .ok (ofInt (m - n))
    | "*" => .ok (ofInt (m * n))
    | op =>
      if n = 0 then .error "division by zero"
      else .ok (ofInt (if op = "/" then m.tdiv n else m.tmod n))
  | _, _ => .error "non-integer argument"

def part (text start length : Bytes) : Bytes :=
  match number? start, number? length with
  | some i, some n => if i ≤ 0 ∨ n ≤ 0 then [] else (text.drop (i.toNat - 1)).take n.toNat
  | _, _ => []

inductive Level where
  | either
  | both
  | order
  | sum
  | product
  | pattern
  deriving DecidableEq

def Level.operators : Level → List String
  | .either => ["|"]
  | .both => ["&"]
  | .order => ["<", "<=", "=", "==", "!=", ">=", ">"]
  | .sum => ["+", "-"]
  | .product => ["*", "/", "%"]
  | .pattern => [":"]

def levels : List Level := [.either, .both, .order, .sum, .product, .pattern]

def apply (level : Level) (op : String) (a b : Bytes) : Except String Bytes :=
  match level with
  | .either => .ok (if !isNull a then a else if isNull b then [0x30] else b)
  | .both => .ok (if isNull a ∨ isNull b then [0x30] else a)
  | .order => .ok (compared op a b)
  | .sum => calculated op a b
  | .product => calculated op a b
  | .pattern => matched a b

mutual

def read (active : Bool) : Nat → List Level → Reader Bytes
  | 0, _ => throw "syntax error"
  | fuel + 1, [] => operand active fuel
  | fuel + 1, level :: tighter => do
    let a ← read active fuel tighter
    more active fuel level tighter a

def more (active : Bool) : Nat → Level → List Level → Bytes → Reader Bytes
  | 0, _, _, a => pure a
  | fuel + 1, level, tighter, a => do
    match ← nextOf level.operators with
    | none => pure a
    | some op =>
      let needed : Bool := active && match level with
        | .either => isNull a
        | .both => !isNull a
        | _ => true
      let b ← read needed fuel tighter
      let calculates := level ≠ .either ∧ level ≠ .both
      if calculates ∧ !active then more active fuel level tighter a
      else
        let c ← (apply level op a b : Except String Bytes)
        more active fuel level tighter c

def operand (active : Bool) : Nat → Reader Bytes
  | 0 => throw "syntax error"
  | fuel + 1 => do
    match ← nextOf ["+", "length", "match", "index", "substr", "(", ")"] with
    | some "+" => take
    | some "length" =>
      let a ← operand active fuel
      pure (ofInt a.length)
    | some "match" =>
      let a ← operand active fuel
      let b ← operand active fuel
      if active then (matched a b : Except String Bytes) else pure a
    | some "index" =>
      let a ← operand active fuel
      let b ← operand active fuel
      pure (ofInt ((a.findIdx? b.contains).elim 0 fun i => (i : Int) + 1))
    | some "substr" =>
      let a ← operand active fuel
      let i ← operand active fuel
      let n ← operand active fuel
      pure (part a i n)
    | some "(" =>
      let a ← read active fuel levels
      let s ← get
      match ← nextOf [")"] with
      | some _ => pure a
      | none =>
        match s.words with
        | w :: _ => throw ("syntax error: expecting ')' instead of " ++ quote w)
        | [] => throw ("syntax error: expecting ')' after " ++ quote s.latest)
    | some _ => throw "syntax error: unexpected ')'"
    | none => take

end

def evaluate (words : List Bytes) : Except String Bytes := do
  let (value, s) ← (read true (20 * words.length + 40) levels).run ⟨words, []⟩
  match s.words with
  | w :: _ => throw ("syntax error: unexpected argument " ++ quote w)
  | [] => pure value

end Expression

def expr : Tool := fun name words => do
  let words := if words.head? = some (bytesOf "--") then words.drop 1 else words
  if words.isEmpty then misuse name "missing operand" 2
  else
    match Expression.evaluate words with
    | .error message =>
      say name message
      pure 2
    | .ok value =>
      output (value ++ [0x0A])
      pure (if Expression.isNull value then 1 else 0)

end CallChart.Shell.Tool
