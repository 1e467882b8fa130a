import CallChart.Shell.Tool.Naming

namespace CallChart.Shell.Tool

open CallChart.Shell.Action

/-- An alphabet each letter of which stands for some bits. Letters come in groups, which padding
fills up; the counts tell behind how many letters of a group its bytes are complete. -/
structure Coding where
  letters : Bytes
  bits : Nat
  group : Nat
  least : Nat
  complete : List Nat
  lowFirst : Bool

namespace Coding

def capitals : String := "ABCDEFGHIJKLMNOPQRSTUVWXYZ"

def sixBits (last : String) : Coding :=
  ⟨bytesOf (capitals ++ "abcdefghijklmnopqrstuvwxyz0123456789" ++ last), 6, 4, 2, [2, 3, 4], false⟩

def fiveBits (letters : String) : Coding :=
  ⟨bytesOf letters, 5, 8, 8, [2, 4, 5, 7, 8], false⟩

def all : List (String × Coding) :=
  [("base64", sixBits "+/"), ("base64url", sixBits "-_"),
    ("base32", fiveBits (capitals ++ "234567")),
    ("base32hex", fiveBits "0123456789ABCDEFGHIJKLMNOPQRSTUV"),
    ("base16", ⟨bytesOf "0123456789ABCDEF", 4, 2, 2, [2], false⟩),
    ("base2msbf", ⟨bytesOf "01", 1, 8, 8, [8], false⟩),
    ("base2lsbf", ⟨bytesOf "01", 1, 8, 8, [8], true⟩)]

def byteBits (lowFirst : Bool) (b : UInt8) : List Bool :=
  let low := (List.range 8).map fun i => b.toNat / Nat.pow 2 i % 2 == 1
  if lowFirst then low else low.reverse

def value (bits : List Bool) : Nat := bits.foldl (fun n b => n * 2 + if b then 1 else 0) 0

def lettersFor (c : Coding) : Nat → List Bool → Bytes
  | 0, _ => []
  | _, [] => []
  | fuel + 1, bits =>
    let part := bits.take c.bits
    let part := part ++ List.replicate (c.bits - part.length) false
    (c.letters[value part]?).getD 0 :: lettersFor c fuel (bits.drop c.bits)

def encodeGroup (c : Coding) (bs : Bytes) : Bytes :=
  let letters := lettersFor c (8 * bs.length + 1) (bs.flatMap (byteBits c.lowFirst))
  letters ++ List.replicate (c.group - letters.length) 0x3D

def encode (c : Coding) : Nat → Bytes → List Bytes
  | 0, _ => []
  | _, [] => []
  | fuel + 1, bs =>
    let count := c.complete.length
    encodeGroup c (bs.take count) :: encode c fuel (bs.drop count)

def bitsOf? (c : Coding) (letters : Bytes) : Option (List Bool) :=
  (letters.mapM fun l => (c.letters.findIdx? (· = l)).map fun n =>
    ((List.range c.bits).map fun i => n / Nat.pow 2 i % 2 == 1).reverse).map List.flatten

def decodeGroup (c : Coding) (letters : Bytes) : Bytes × Bool :=
  let rec go (done : Bytes) : List Nat → Bytes × Bool
    | [] => (done.reverse, true)
    | n :: rest =>
      let before := if done.isEmpty then 0 else (c.complete[done.length - 1]?).getD 0
      let part := (letters.take n).drop before
      if !done.isEmpty ∧ part.head? = some 0x3D then
        (done.reverse, letters.length = c.group ∧ (letters.drop before).all (· = 0x3D))
      else if letters.length < n then (done.reverse, false)
      else
        match bitsOf? c (letters.take n) with
        | none => (done.reverse, false)
        | some bits =>
          let bits := (bits.drop (8 * done.length)).take 8
          let b := UInt8.ofNat (value (if c.lowFirst then bits.reverse else bits))
          go (b :: done) rest
  if letters.length < c.least then ([], false) else go [] c.complete

def decode (c : Coding) : Nat → Bytes → List Bytes × Bool
  | 0, _ => ([], true)
  | _, [] => ([], true)
  | fuel + 1, letters =>
    let (bs, sound) := decodeGroup c (letters.take c.group)
    if !sound then ([bs], false)
    else
      let (more, sound) := decode c fuel (letters.drop c.group)
      (bs :: more, sound)

def wrapped (width : Nat) : Nat → Bytes → Bytes
  | 0, _ => []
  | _, [] => []
  | fuel + 1, bs => bs.take width ++ 0x0A :: wrapped width fuel (bs.drop width)

end Coding

def recode (c : Coding) (name : String) (g : Given) : Action Nat := do
  let width := (g.value? 'w').map (countOf "")
  match width, g.operands with
  | some (.error fault), _ =>
    if fault = .tooLarge then recodeTo c name g 0
    else
      say name ("invalid wrap size: " ++ quote ((g.value? 'w').getD []))
      pure 1
  | _, _ :: w :: _ => extraOperand name w
  | width, _ => recodeTo c name g (((width.bind (·.toOption))).getD 76)
where
  recodeTo (c : Coding) (name : String) (g : Given) (width : Nat) : Action Nat := do
    let operand := g.operands.headD [0x2D]
    match ← opened name operand with
    | none => pure 1
    | some id =>
      match (← getWorld).unreadable? id with
      | some fault =>
        say name ("read error: " ++ fault.reason)
        pure 1
      | none =>
        let (bytes, ended) ← readReady id
        let sound ← if g.has 'd' then do
            let letters := bytes.filter fun b => b ≠ 0x0A ∧
              (!g.has 'i' ∨ c.letters.contains b ∨ b = 0x3D)
            let (parts, sound) := c.decode (letters.length + 1) letters
            output parts.flatten
            pure sound
          else do
            let letters := (c.encode (bytes.length + 1) bytes).flatten
            output (if width = 0 then letters
              else Coding.wrapped width (letters.length + 1) letters)
            pure true
        if !sound then
          say name "invalid input"
          pure 1
        else if ended then pure 0 else endless

def codingKnown (more : List (String × Char)) : Known :=
  ⟨"di", "w", [("decode", 'd'), ("ignore-garbage", 'i'), ("wrap=", 'w')] ++ more⟩

def codingTool (coding : String) : Tool := withOptions (codingKnown []) 1 fun name g =>
  recode ((Coding.all.lookup coding).getD (Coding.sixBits "+/")) name g

def basenc : Tool :=
  let letters := ((List.range 8).map fun i => Char.ofNat (2 + i))
  withOptions (codingKnown ((Coding.all.map (·.1)).zip letters)) 1 fun name g => do
    match (g.last? letters).bind fun c => ((letters.zip (Coding.all.map (·.2))).lookup c) with
    | some coding => recode coding name g
    | none => misuse name "missing encoding type" 1

end CallChart.Shell.Tool
