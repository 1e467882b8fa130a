import CallChart.Packed.Code
import CallChart.Packed.Piece

namespace CallChart.Packed

def lengthSteps : List (Nat × Nat) :=
  [(3, 0), (4, 0), (5, 0), (6, 0), (7, 0), (8, 0), (9, 0), (10, 0), (11, 1), (13, 1), (15, 1),
    (17, 1), (19, 2), (23, 2), (27, 2), (31, 2), (35, 3), (43, 3), (51, 3), (59, 3), (67, 4),
    (83, 4), (99, 4), (115, 4), (131, 5), (163, 5), (195, 5), (227, 5), (258, 0)]

def distanceSteps : List (Nat × Nat) :=
  [(1, 0), (2, 0), (3, 0), (4, 0), (5, 1), (7, 1), (9, 2), (13, 2), (17, 3), (25, 3), (33, 4),
    (49, 4), (65, 5), (97, 5), (129, 6), (193, 6), (257, 7), (385, 7), (513, 8), (769, 8),
    (1025, 9), (1537, 9), (2049, 10), (3073, 10), (4097, 11), (6145, 11), (8193, 12), (12289, 12),
    (16385, 13), (24577, 13)]

def stepFor (steps : List (Nat × Nat)) (n : Nat) : Nat × Nat × Nat :=
  (steps.zipIdx.foldl (fun known (step, i) => if step.1 ≤ n then (i, step) else known) (0, 0, 0))

def stopSymbol : Nat := 256

def extraBits : Array Nat :=
  Array.replicate 257 0 ++ (lengthSteps.map (·.2)).toArray

def extraDistanceBits : Array Nat := (distanceSteps.map (·.2)).toArray

structure Symbols where
  main : Nat
  mainBits : Bits
  distance : Option (Nat × Bits)

def Piece.symbols : Piece → Symbols
  | .byte b => ⟨b.toNat, [], none⟩
  | .copy length distance =>
    let (i, low, bits) := stepFor lengthSteps length
    let (j, near, distanceBits) := stepFor distanceSteps distance
    ⟨257 + i, lowFirst bits (length - low),
      some (j, lowFirst distanceBits (distance - near))⟩

def usualLengths : Array Nat :=
  Array.replicate 144 8 ++ Array.replicate 112 9 ++ Array.replicate 24 7 ++ Array.replicate 8 8

def usualDistanceLengths : Array Nat := Array.replicate 30 5

def lengthOrder : List Nat := [16, 17, 18, 0, 8, 7, 9, 6, 10, 5, 11, 4, 12, 3, 13, 2, 14, 1, 15]

def runs (before : Option Nat) : Nat → List Nat → List (Nat × Bits)
  | 0, _ => []
  | _, [] => []
  | fuel + 1, n :: rest =>
    let most := if n = 0 then 138 else if before = some n then 6 else 7
    let count := ((n :: rest).takeWhile (· = n)).length
    let taken := min count most
    let rest := (n :: rest).drop taken
    let told : List (Nat × Bits) :=
      if taken < (if n = 0 ∨ before = some n then 3 else 4) then List.replicate taken (n, [])
      else if n ≠ 0 then
        if before = some n then [(16, lowFirst 2 (taken - 3))]
        else [(n, []), (16, lowFirst 2 (taken - 4))]
      else if taken ≤ 10 then [(17, lowFirst 3 (taken - 3))]
      else [(18, lowFirst 7 (taken - 11))]
    told ++ runs (some n) fuel rest

def trimmed (least : Nat) (lengths : Array Nat) : List Nat :=
  let used := (lengths.toList.reverse.dropWhile (· = 0)).length
  lengths.toList.take (max least used)

def codeHeader (mainLengths distanceLengths : Array Nat) : Bits :=
  let main := trimmed 257 mainLengths
  let distances := trimmed 1 distanceLengths
  let told := runs none (main.length + 1) main ++ runs none (distances.length + 1) distances
  let weights := told.foldl (fun (weights : Array Nat) t => weights.modify t.1 (· + 1))
    (Array.replicate 19 0)
  let lengths := lengthsOf 7 weights
  let words := wordsOf lengths
  let ordered := lengthOrder.map fun n => lengths.getD n 0
  let ordered := ordered.take (max 4 (ordered.reverse.dropWhile (· = 0)).length)
  lowFirst 5 (main.length - 257) ++ lowFirst 5 (distances.length - 1) ++
    lowFirst 4 (ordered.length - 4) ++ ordered.flatMap (lowFirst 3) ++
    told.flatMap fun t => words.getD t.1 [] ++ t.2

def written (words distanceWords : Array Bits) (symbols : List Symbols) : Bits :=
  symbols.flatMap (fun s =>
    words.getD s.main [] ++ s.mainBits ++
      match s.distance with
      | some (d, bits) => distanceWords.getD d [] ++ bits
      | none => []) ++ words.getD stopSymbol []

structure Block where
  pieces : List Piece
  bytes : Option (List UInt8)

def Block.bits (b : Block) (last : Bool) (size before : Nat) : Bits :=
  let symbols := b.pieces.map Piece.symbols
  let weights := symbols.foldl (fun (weights : Array Nat) s => weights.modify s.main (· + 1))
    ((Array.replicate 286 0).setIfInBounds stopSymbol 1)
  let distanceWeights := symbols.foldl (fun (weights : Array Nat) s =>
    match s.distance with
    | some (d, _) => weights.modify d (· + 1)
    | none => weights) (Array.replicate 30 0)
  let lengths := lengthsOf 15 weights
  let distanceLengths := lengthsOf 15 distanceWeights
  let header := codeHeader lengths distanceLengths
  let own := header.length + cost lengths extraBits weights +
    cost distanceLengths extraDistanceBits distanceWeights
  let usual := cost usualLengths extraBits weights +
    cost usualDistanceLengths extraDistanceBits distanceWeights
  let ownBytes := (own + 10) / 8
  let usualBytes := (usual + 10) / 8
  let least := min ownBytes usualBytes
  match if size + 4 ≤ least then b.bytes else none with
  | some bytes =>
    let place := (before + 3) % 8
    last :: false :: false :: List.replicate ((8 - place) % 8) false ++ lowFirst 16 size ++
      lowFirst 16 (65535 - size) ++ bitsOfBytes bytes
  | none =>
    if usualBytes ≤ ownBytes then
      last :: true :: false :: written (wordsOf usualLengths) (wordsOf usualDistanceLengths) symbols
    else
      last :: false :: true :: header ++ written (wordsOf lengths) (wordsOf distanceLengths) symbols

def blockLimit : Nat := 32767

/-- What is counted of a block while it grows: its pieces, latest first, how many there are and how
many of them are copies, how many bits the distances take, and how many bytes there are. -/
structure Growth where
  pieces : List Piece
  count : Nat
  copies : Nat
  distanceBits : Nat
  size : Nat

/-- Whether a block ends behind its pieces: it is full, or it pays for it to have its own code. Of
pieces that are cut lazily, one more byte was seen. -/
def Growth.ends (g : Growth) (level : Nat) : Bool :=
  let seen := match g.pieces with
    | p :: _ => g.size - p.length + if level ≤ 3 then 0 else 1
    | [] => 0
  let packed := (g.count * 8 + g.distanceBits) / 8
  (2 < level && g.count % 4096 == 0 && g.copies < g.count / 2 && packed < seen / 2) ||
    g.count == blockLimit

/-- All bits of pieces in blocks. A byte that was left for the end when pieces are cut lazily never
ends a block that is not the last one. -/
def packPieces (level : Nat) (text : Array UInt8) :
    Nat → Nat → Growth → Piece.Cut → List Bits → Bits
  | start, before, g, [], done =>
    let b : Block := ⟨g.pieces.reverse, some (text.extract start (start + g.size)).toList⟩
    (b.bits true g.size before :: done).reverse.flatten
  | start, before, g, (p, window) :: rest, done =>
    let g : Growth := ⟨p :: g.pieces, g.count + 1, g.copies + (match p with
        | .copy _ _ => 1
        | .byte _ => 0), g.distanceBits + (match p with
        | .copy _ distance => 5 + (stepFor distanceSteps distance).2.2
        | .byte _ => 0), g.size + p.length⟩
    if g.ends level && !(rest.isEmpty && 3 < level && p.length == 1) then
      let b : Block := ⟨g.pieces.reverse,
        if start < window then none else some (text.extract start (start + g.size)).toList⟩
      let bits := b.bits false g.size before
      packPieces level text (start + g.size) (before + bits.length) ⟨[], 0, 0, 0, 0⟩ rest
        (bits :: done)
    else packPieces level text start before g rest done

def pack (level : Nat) (bytes : List UInt8) : List UInt8 :=
  let text := bytes.toArray
  bytesOfBits (packPieces level text 0 0 ⟨[], 0, 0, 0, 0⟩ (Piece.cut level text) [])

end CallChart.Packed
