namespace CallChart.Packed

abbrev Bits := List Bool

def lowFirst : Nat → Nat → Bits
  | 0, _ => []
  | count + 1, n => (n % 2 == 1) :: lowFirst count (n / 2)

def highFirst (count n : Nat) : Bits := (lowFirst count n).reverse

def numberOf (bits : Bits) : Nat := bits.foldr (fun b n => 2 * n + b.toNat) 0

def bitsOfBytes (bytes : List UInt8) : Bits := bytes.flatMap fun b => lowFirst 8 b.toNat

def bytesOfBits : Bits → List UInt8
  | a :: b :: c :: d :: e :: f :: g :: h :: rest =>
    UInt8.ofNat (numberOf [a, b, c, d, e, f, g, h]) :: bytesOfBits rest
  | [] => []
  | rest => [UInt8.ofNat (numberOf rest)]

structure Forest where
  weights : Array Nat
  depths : Array Nat
  parents : Array Nat
  heap : Array Nat
  order : List Nat

namespace Forest

def weight (f : Forest) (n : Nat) : Nat := f.weights.getD n 0

def depth (f : Forest) (n : Nat) : Nat := f.depths.getD n 0

def node (f : Forest) (i : Nat) : Nat := f.heap.getD i 0

def count (f : Forest) : Nat := f.heap.size - 1

def isLighter (f : Forest) (a b : Nat) : Bool :=
  f.weight a < f.weight b || (f.weight a == f.weight b && f.depth a ≤ f.depth b)

def sink (f : Forest) (v : Nat) : Nat → Nat → Forest
  | 0, k => { f with heap := f.heap.setIfInBounds k v }
  | fuel + 1, k =>
    let left := 2 * k
    if f.count < left then { f with heap := f.heap.setIfInBounds k v }
    else
      let j := if left < f.count ∧ f.isLighter (f.node (left + 1)) (f.node left) then left + 1
        else left
      let other := f.node j
      if f.isLighter v other then { f with heap := f.heap.setIfInBounds k v }
      else sink { f with heap := f.heap.setIfInBounds k other } v fuel j

def sinkAt (f : Forest) (k : Nat) : Forest := f.sink (f.node k) f.heap.size k

def join (f : Forest) (root : Nat) : Forest :=
  let a := f.node 1
  let last := f.node f.count
  let f := { f with heap := f.heap.pop.setIfInBounds 1 last }
  let f := f.sinkAt 1
  let b := f.node 1
  let f := { f with
    order := b :: a :: f.order
    weights := f.weights.setIfInBounds root (f.weight a + f.weight b)
    depths := f.depths.setIfInBounds root (max (f.depth a) (f.depth b) + 1)
    parents := (f.parents.setIfInBounds a root).setIfInBounds b root
    heap := f.heap.setIfInBounds 1 root }
  f.sinkAt 1

def joinAll : Nat → Nat → Forest → Forest
  | 0, _, f => f
  | fuel + 1, root, f => if f.count < 2 then f else joinAll fuel (root + 1) (f.join root)

def ofWeights (weights : Array Nat) : Forest :=
  let size := weights.size
  let used := (List.range size).filter fun n => weights.getD n 0 ≠ 0
  let f : Forest := ⟨weights ++ Array.replicate size 0, Array.replicate (2 * size) 0,
    Array.replicate (2 * size) 0, (0 :: used).toArray, []⟩
  ((List.range (f.count / 2)).reverse).foldl (fun f k => f.sinkAt (k + 1)) f

end Forest

def filledWeights (weights : Array Nat) : Array Nat :=
  let used := (List.range weights.size).filter fun n => weights.getD n 0 ≠ 0
  match used with
  | [] => (weights.setIfInBounds 0 1).setIfInBounds 1 1
  | [n] => weights.setIfInBounds (if n < 2 then n + 1 else 0) 1
  | _ => weights

/-- Counts of words by length after the words that would be too long have been shortened: for each
two of them a shorter word gets longer. -/
def shortened (limit : Nat) : Nat → Nat → Array Nat → Array Nat
  | 0, _, counts => counts
  | fuel + 1, excess, counts =>
    if excess = 0 then counts
    else
      let from' := ((List.range limit).reverse.find? fun n => counts.getD n 0 ≠ 0).getD 0
      let counts := counts.modify from' (· - 1)
      let counts := counts.modify (from' + 1) (· + 2)
      shortened limit fuel (excess - 2) (counts.modify limit (· - 1))

def lengthsOf (limit : Nat) (given : Array Nat) : Array Nat :=
  let weights := filledWeights given
  let size := weights.size
  let f := (Forest.ofWeights weights).joinAll size size
  let f := { f with order := f.node 1 :: f.order }
  let (lengths, excess) := (f.order.drop 1).foldl (fun (lengths, excess) n =>
    let length := lengths.getD (f.parents.getD n 0) 0 + 1
    if limit < length then (lengths.setIfInBounds n limit, excess + 1)
    else (lengths.setIfInBounds n length, excess)) (Array.replicate (2 * size) 0, 0)
  if excess = 0 then lengths.extract 0 size
  else
    let leaves := f.order.reverse.filter (· < size)
    let counts := leaves.foldl (fun counts n => counts.modify (lengths.getD n 0) (· + 1))
      (Array.replicate (limit + 1) 0)
    let counts := shortened limit excess excess counts
    let words := (List.range limit).reverse.flatMap fun n =>
      List.replicate (counts.getD (n + 1) 0) (n + 1)
    (leaves.zip words).foldl (fun lengths (n, length) => lengths.setIfInBounds n length)
      (Array.replicate size 0)

def lengthCounts (lengths : Array Nat) : Array Nat :=
  lengths.foldl (fun counts n => if n = 0 then counts else counts.modify n (· + 1))
    (Array.replicate 16 0)

def wordsOf (lengths : Array Nat) : Array Bits :=
  let counts := lengthCounts lengths
  let firsts := (List.range 15).foldl (fun (firsts : Array Nat) n =>
    firsts.push ((firsts.getD n 0 + counts.getD n 0) * 2)) #[0]
  (lengths.foldl (fun (words, next) n =>
    (words.push (highFirst n (Array.getD next n 0)), next.modify n (· + 1)))
    ((#[] : Array Bits), firsts)).1

def cost (lengths extra weights : Array Nat) : Nat :=
  (List.range weights.size).foldl (fun sum n =>
    sum + weights.getD n 0 * (lengths.getD n 0 + extra.getD n 0)) 0

end CallChart.Packed
