import CallChart.Shell.State

namespace CallChart.Shell

abbrev Marked := Bool × UInt8

inductive SetItem where
  | range (low high : UInt8)
  | named (name : String)
  deriving DecidableEq, Repr

inductive Pattern where
  | byte (b : UInt8)
  | any
  | many
  | set (negated : Bool) (items : List SetItem)
  deriving DecidableEq, Repr

namespace ByteClass

def isUpper (b : UInt8) : Bool := 0x41 ≤ b && b ≤ 0x5A

def isLower (b : UInt8) : Bool := 0x61 ≤ b && b ≤ 0x7A

def isDigit (b : UInt8) : Bool := 0x30 ≤ b && b ≤ 0x39

def isAlpha (b : UInt8) : Bool := isUpper b || isLower b

def isAlnum (b : UInt8) : Bool := isAlpha b || isDigit b

def isBlank (b : UInt8) : Bool := b == 0x20 || b == 0x09

def isSpace (b : UInt8) : Bool := b == 0x20 || (0x09 ≤ b && b ≤ 0x0D)

def isGraph (b : UInt8) : Bool := 0x21 ≤ b && b ≤ 0x7E

def isHex (b : UInt8) : Bool :=
  isDigit b || (0x41 ≤ b && b ≤ 0x46) || (0x61 ≤ b && b ≤ 0x66)

def isWord (b : UInt8) : Bool := isAlnum b || b == 0x5F

def byName : List (String × (UInt8 → Bool)) := [
  ("alnum", isAlnum), ("alpha", isAlpha), ("blank", isBlank),
  ("cntrl", fun b => b < 0x20 || b == 0x7F), ("digit", isDigit), ("graph", isGraph),
  ("lower", isLower), ("print", fun b => isGraph b || b == 0x20),
  ("punct", fun b => isGraph b && !isAlnum b), ("space", isSpace), ("upper", isUpper),
  ("xdigit", isHex)]

end ByteClass

def SetItem.holds (b : UInt8) : SetItem → Bool
  | .range low high => low ≤ b && b ≤ high
  | .named name => ((ByteClass.byName.lookup name).map (· b)).getD false

namespace Pattern

def namedClass? (ms : List Marked) : Option (String × List Marked) :=
  ByteClass.byName.findSome? fun (name, _) =>
    let text := bytesOf (":" ++ name ++ ":]")
    if text.isPrefixOf (ms.map (·.2)) then some (name, ms.drop text.length) else none

def items : Nat → Bool → List Marked → Option (List SetItem × List Marked)
  | 0, _, _ => none
  | fuel + 1, first, ms =>
    match ms with
    | [] => none
    | (quoted, b) :: rest =>
      if b = 0x5D ∧ !quoted ∧ !first then some ([], rest)
      else
        match if b = 0x5B ∧ !quoted then namedClass? rest else none with
        | some (name, rest) => add (.named name) (items fuel false rest)
        | none =>
          match rest with
          | (false, 0x2D) :: (q, high) :: more =>
            if high = 0x5D ∧ !q then add (.range b b) (items fuel false rest)
            else add (.range b high) (items fuel false more)
          | rest => add (.range b b) (items fuel false rest)
where
  add (item : SetItem) :
      Option (List SetItem × List Marked) → Option (List SetItem × List Marked)
    | some (more, rest) => some (item :: more, rest)
    | none => none

def reading : Nat → List Marked → List Pattern
  | 0, _ => []
  | _, [] => []
  | fuel + 1, (true, b) :: rest => .byte b :: reading fuel rest
  | fuel + 1, (false, b) :: rest =>
    if b = 0x2A then .many :: reading fuel rest
    else if b = 0x3F then .any :: reading fuel rest
    else if b = 0x5B then
      let (negated, body) := match rest with
        | (false, 0x21) :: body => (true, body)
        | body => (false, body)
      match items (body.length + 1) true body with
      | some (members, rest) => .set negated members :: reading fuel rest
      | none => .byte b :: reading fuel rest
    else .byte b :: reading fuel rest

def unescaped : List Marked → List Marked
  | (false, 0x5C) :: (_, b) :: rest => (true, b) :: unescaped rest
  | m :: rest => m :: unescaped rest
  | [] => []

def ofMarked (ms : List Marked) : List Pattern :=
  reading (ms.length + 1) (unescaped ms)

def ofBytes (bs : Bytes) : List Pattern :=
  let rec marked : Bytes → List Marked
    | 0x5C :: b :: rest => (true, b) :: marked rest
    | 0x5B :: 0x5E :: rest => (false, 0x5B) :: (false, 0x21) :: marked rest
    | b :: rest => (false, b) :: marked rest
    | [] => []
  reading (bs.length + 1) (marked bs)

def matchesAll : List Pattern → Bytes → Bool
  | [], bs => bs.isEmpty
  | .many :: ps, bs => (List.range (bs.length + 1)).any fun n => matchesAll ps (bs.drop n)
  | _ :: _, [] => false
  | .byte c :: ps, b :: bs => b == c && matchesAll ps bs
  | .any :: ps, _ :: bs => matchesAll ps bs
  | .set negated items :: ps, b :: bs =>
    (items.any (·.holds b) != negated) && matchesAll ps bs

def withoutStart (ps : List Pattern) (longest : Bool) (bs : Bytes) : Bytes :=
  let lengths := List.range (bs.length + 1)
  match (if longest then lengths.reverse else lengths).find? fun n =>
      matchesAll ps (bs.take n) with
  | some n => bs.drop n
  | none => bs

def withoutEnd (ps : List Pattern) (longest : Bool) (bs : Bytes) : Bytes :=
  let lengths := List.range (bs.length + 1)
  match (if longest then lengths else lengths.reverse).find? fun n =>
      matchesAll ps (bs.drop n) with
  | some n => bs.take n
  | none => bs

def isActive (ms : List Marked) : Bool :=
  (ofMarked ms).any fun p =>
    match p with
    | .byte _ => false
    | _ => true

def plain (ms : List Marked) : Bytes :=
  (ofMarked ms).filterMap fun p =>
    match p with
    | .byte b => some b
    | _ => none

end Pattern

namespace Order

def compareBytes (a b : Bytes) : Ordering :=
  match a, b with
  | [], [] => .eq
  | [], _ => .lt
  | _, [] => .gt
  | x :: a, y :: b => if x = y then compareBytes a b else if x < y then .lt else .gt

def upperByte (b : UInt8) : UInt8 := if ByteClass.isLower b then b - 0x20 else b

def weight : Bytes → Int
  | [] => -1
  | b :: _ =>
    if ByteClass.isDigit b then 0
    else if ByteClass.isAlpha b then b.toNat
    else if b = 0x7E then -2 else b.toNat + 256

def startsWithDigit (bs : Bytes) : Bool := (bs.head?.map ByteClass.isDigit).getD false

def compareWeights : Nat → Bytes → Bytes → Except Ordering (Bytes × Bytes)
  | 0, a, b => .ok (a, b)
  | fuel + 1, a, b =>
    if (a.isEmpty ∨ startsWithDigit a) ∧ (b.isEmpty ∨ startsWithDigit b) then .ok (a, b)
    else
      let c := compare (weight a) (weight b)
      if c = .eq then compareWeights fuel (a.drop 1) (b.drop 1) else .error c

def compareParts : Nat → Bytes → Bytes → Ordering
  | 0, _, _ => .eq
  | fuel + 1, a, b =>
    if a.isEmpty ∧ b.isEmpty then .eq
    else
      match compareWeights (a.length + b.length + 1) a b with
      | .error c => c
      | .ok (a, b) =>
        let a := a.dropWhile (· = 0x30)
        let b := b.dropWhile (· = 0x30)
        let m := a.takeWhile ByteClass.isDigit
        let n := b.takeWhile ByteClass.isDigit
        let c := (compare m.length n.length).then (compareBytes m n)
        if c = .eq then compareParts fuel (a.drop m.length) (b.drop n.length) else c

def stemLength (bs : Bytes) : Nat :=
  let isLead (b : UInt8) : Bool := ByteClass.isAlpha b || b == 0x7E
  let rec endings : Nat → Bytes → Bytes
    | 0, bs => bs
    | fuel + 1, bs =>
      match bs with
      | 0x2E :: b :: rest =>
        if isLead b then endings fuel (rest.dropWhile fun b => ByteClass.isAlnum b || b == 0x7E)
        else bs
      | bs => bs
  let rec go : Nat → Nat → Nat → Bytes → Nat
    | 0, stem, _, _ => stem
    | _, stem, _, [] => stem
    | fuel + 1, _, place, _ :: rest =>
      let after := endings (rest.length + 1) rest
      go fuel (place + 1) (place + 1 + (rest.length - after.length)) after
  go (bs.length + 1) 0 0 bs

def compareVersions (a b : Bytes) : Ordering :=
  if a.isEmpty ∨ b.isEmpty then compare a.length b.length
  else
    let rank (x : Bytes) : Nat :=
      if x = [0x2E] then 0 else if x = [0x2E, 0x2E] then 1
      else if x.head? = some 0x2E then 2 else 3
    if rank a ≠ rank b ∨ rank a < 2 then compare (rank a) (rank b)
    else
      let fuel := a.length + b.length + 2
      (compareParts fuel (a.take (stemLength a)) (b.take (stemLength b))).then
        (compareParts fuel a b)

end Order
end CallChart.Shell
