import CallChart.Packed.Block

namespace CallChart.Packed

inductive ReadFault where
  | ended
  | invalid
  deriving DecidableEq, Repr

def takeNumber (count : Nat) (bits : Bits) : Except ReadFault (Nat × Bits) :=
  let taken := bits.take count
  if taken.length < count then .error .ended else .ok (numberOf taken, bits.drop count)

structure Words where
  counts : Array Nat
  symbols : Array Nat

namespace Words

def ofLengths (lengths : Array Nat) : Words :=
  ⟨lengthCounts lengths, ((List.range 15).flatMap fun n =>
    (List.range lengths.size).filter fun s => lengths.getD s 0 = n + 1).toArray⟩

def missing? (w : Words) : Option Nat :=
  (List.range 15).foldl (fun left n =>
    left.bind fun left =>
      let count := w.counts.getD (n + 1) 0
      if 2 * left < count then none else some (2 * left - count)) (some 1)

def isUsable (w : Words) : Bool :=
  match w.missing? with
  | none => false
  | some 0 => true
  | some _ => w.symbols.isEmpty || (w.symbols.size == 1 && w.counts.getD 1 0 == 1)

/-- The symbol whose word begins some bits. The word so far is `code` behind the first word of its
length, and `index` words are shorter. -/
def symbol (w : Words) : Nat → Nat → Nat → Nat → Bits → Except ReadFault (Nat × Bits)
  | 0, _, _, _, _ => .error .invalid
  | _, _, _, _, [] => .error .ended
  | fuel + 1, length, code, index, b :: rest =>
    let code := 2 * code + b.toNat
    let count := w.counts.getD length 0
    if code < count then .ok (w.symbols.getD (index + code) 0, rest)
    else symbol w fuel (length + 1) (code - count) (index + count) rest

/-- The symbol whose word begins some bits. As many bits are looked at as the longest word has, or
at most a number of them, even if the word is shorter. -/
def read (w : Words) (looked : Nat) (bits : Bits) : Except ReadFault (Nat × Bits) :=
  let most := ((List.range 16).filter fun n => w.counts.getD n 0 ≠ 0).getLastD 0
  if (bits.take (min looked most)).length < min looked most then .error .ended
  else w.symbol 15 1 0 0 bits

end Words

def readRuns (w : Words) : Nat → Nat → Array Nat → Bits → Except ReadFault (Array Nat × Bits)
  | 0, _, lengths, bits => .ok (lengths, bits)
  | fuel + 1, count, lengths, bits => do
    if count ≤ lengths.size then pure (lengths, bits)
    else
      let (s, bits) ← w.read 7 bits
      if s < 16 then readRuns w fuel count (lengths.push s) bits
      else
        let (extra, least) := if s = 16 then (2, 3) else if s = 17 then (3, 3) else (7, 11)
        let (more, bits) ← takeNumber extra bits
        let value := if s = 16 then lengths.back? else some 0
        match value with
        | none => .error .invalid
        | some value =>
          if count < lengths.size + least + more then .error .invalid
          else readRuns w fuel count (lengths ++ Array.replicate (least + more) value) bits

def readCodes (bits : Bits) : Except ReadFault (Words × Words × Bits) := do
  let (mains, bits) ← takeNumber 5 bits
  let (distances, bits) ← takeNumber 5 bits
  let (count, bits) ← takeNumber 4 bits
  if 29 < mains ∨ 29 < distances then .error .invalid
  else
    let told := count + 4
    let lengths : Array Nat := (lengthOrder.take told).zipIdx.foldl (fun lengths (n, i) =>
      lengths.setIfInBounds n (numberOf ((bits.drop (3 * i)).take 3))) (Array.replicate 19 0)
    let (_, bits) ← takeNumber (3 * told) bits
    let short := Words.ofLengths lengths
    if !short.isUsable then .error .invalid
    else
      let total := mains + 257 + distances + 1
      let (all, bits) ← readRuns short (total + 1) total #[] bits
      let main := Words.ofLengths (all.extract 0 (mains + 257))
      let distance := Words.ofLengths (all.extract (mains + 257) total)
      if main.isUsable ∧ distance.isUsable then pure (main, distance, bits)
      else .error .invalid

structure Unpacked where
  bytes : Array UInt8
  rest : Except ReadFault Bits

def copied (bytes : Array UInt8) (distance : Nat) : Nat → Array UInt8
  | 0 => bytes
  | count + 1 => copied (bytes.push (bytes.getD (bytes.size - distance) 0)) distance count

def readPieces (main distance : Words) (looked : Nat) :
    Nat → Array UInt8 → Bits → Unpacked
  | 0, bytes, _ => ⟨bytes, .error .invalid⟩
  | fuel + 1, bytes, bits =>
    match main.read looked bits with
    | .error fault => ⟨bytes, .error fault⟩
    | .ok (s, bits) =>
      if s < stopSymbol then readPieces main distance looked fuel (bytes.push (UInt8.ofNat s)) bits
      else if s = stopSymbol then ⟨bytes, .ok bits⟩
      else
        let copy : Except ReadFault (Nat × Nat × Bits) := do
          match lengthSteps[s - 257]? with
          | none => .error .invalid
          | some (low, extra) =>
            let (more, bits) ← takeNumber extra bits
            let (d, bits) ← distance.read 6 bits
            match distanceSteps[d]? with
            | none => .error .invalid
            | some (near, extra) =>
              let (far, bits) ← takeNumber extra bits
              if bytes.size < near + far then .error .invalid
              else pure (low + more, near + far, bits)
        match copy with
        | .error fault => ⟨bytes, .error fault⟩
        | .ok (length, back, bits) =>
          readPieces main distance looked fuel (copied bytes back length) bits

def readPlain (bytes : Array UInt8) (bits : Bits) : Unpacked :=
  let bits := bits.drop (bits.length % 8)
  let size := numberOf (bits.take 16)
  let other := numberOf ((bits.drop 16).take 16)
  let behind := bits.drop 32
  if bits.length < 32 then ⟨bytes, .error .ended⟩
  else if size + other ≠ 65535 then ⟨bytes, .error .invalid⟩
  else
    let bytes := bytes ++ (bytesOfBits (behind.take (8 * (min size (behind.length / 8))))).toArray
    if behind.length < 8 * size then ⟨bytes, .error .ended⟩
    else ⟨bytes, .ok (behind.drop (8 * size))⟩

def readBlocks : Nat → Array UInt8 → Bits → Unpacked
  | 0, bytes, _ => ⟨bytes, .error .invalid⟩
  | fuel + 1, bytes, bits =>
    match bits with
    | last :: a :: b :: bits =>
      let block : Unpacked := match a, b with
        | false, false => readPlain bytes bits
        | true, false => readPieces (.ofLengths usualLengths) (.ofLengths usualDistanceLengths)
            7 (bits.length + 1) bytes bits
        | false, true =>
          match readCodes bits with
          | .ok (main, distance, bits) => readPieces main distance 9 (bits.length + 1) bytes bits
          | .error fault => ⟨bytes, .error fault⟩
        | true, true => ⟨bytes, .error .invalid⟩
      match block.rest with
      | .error _ => block
      | .ok bits => if last then block else readBlocks fuel block.bytes bits
    | _ => ⟨bytes, .error .ended⟩

def unpack (bytes : List UInt8) : List UInt8 × Except ReadFault (List UInt8) :=
  let bits := bitsOfBytes bytes
  let r := readBlocks (bits.length + 1) #[] bits
  (r.bytes.toList, r.rest.map fun rest => bytes.drop (bytes.length - rest.length / 8))

end CallChart.Packed
