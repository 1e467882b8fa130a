import CallChart.Digest.Sha256

namespace CallChart.Sha1

structure State where
  a : UInt32
  b : UInt32
  c : UInt32
  d : UInt32
  e : UInt32
  deriving DecidableEq, Repr

def initial : State := ⟨0x67452301, 0xefcdab89, 0x98badcfe, 0x10325476, 0xc3d2e1f0⟩

def rotateLeft (x n : UInt32) : UInt32 :=
  (x <<< n) ||| (x >>> (32 - n))

def mix (s : State) (i : Nat) : UInt32 × UInt32 :=
  match i / 20 with
  | 0 => ((s.b &&& s.c) ||| (~~~s.b &&& s.d), 0x5a827999)
  | 1 => (s.b ^^^ s.c ^^^ s.d, 0x6ed9eba1)
  | 2 => ((s.b &&& s.c) ||| (s.b &&& s.d) ||| (s.c &&& s.d), 0x8f1bbcdc)
  | _ => (s.b ^^^ s.c ^^^ s.d, 0xca62c1d6)

def round (s : State) (step : UInt32 × Nat) : State :=
  let (mixed, constant) := mix s step.2
  ⟨rotateLeft s.a 5 + mixed + s.e + constant + step.1, s.a, rotateLeft s.b 30, s.c, s.d⟩

def lengthen : Nat → List UInt32 → List UInt32
  | 0, words => words
  | n + 1, words =>
    let word (i : Nat) := words.getD i 0
    lengthen n (rotateLeft (word 2 ^^^ word 7 ^^^ word 13 ^^^ word 15) 1 :: words)

def compress (s : State) (block : List UInt32) : State :=
  let t := (lengthen 64 block.reverse).reverse.zipIdx.foldl round s
  ⟨s.a + t.a, s.b + t.b, s.c + t.c, s.d + t.d, s.e + t.e⟩

def run : Nat → State → List UInt32 → State
  | 0, s, _ => s
  | n + 1, s, ws => run n (compress s (ws.take 16)) (ws.drop 16)

def digest (message : List UInt8) : List UInt8 :=
  let ws := Sha256.words (Sha256.padded message)
  let s := run (ws.length / 16) initial ws
  [s.a, s.b, s.c, s.d, s.e].flatMap fun w => Sha256.bigEndian 4 w.toNat

end CallChart.Sha1

namespace CallChart.Md5

/-- The integral parts of `2 ^ 32` times the sines of 1 to 64, without signs. -/
def roundConstants : List UInt32 := [
  0xd76aa478, 0xe8c7b756, 0x242070db, 0xc1bdceee, 0xf57c0faf, 0x4787c62a, 0xa8304613, 0xfd469501,
  0x698098d8, 0x8b44f7af, 0xffff5bb1, 0x895cd7be, 0x6b901122, 0xfd987193, 0xa679438e, 0x49b40821,
  0xf61e2562, 0xc040b340, 0x265e5a51, 0xe9b6c7aa, 0xd62f105d, 0x02441453, 0xd8a1e681, 0xe7d3fbc8,
  0x21e1cde6, 0xc33707d6, 0xf4d50d87, 0x455a14ed, 0xa9e3e905, 0xfcefa3f8, 0x676f02d9, 0x8d2a4c8a,
  0xfffa3942, 0x8771f681, 0x6d9d6122, 0xfde5380c, 0xa4beea44, 0x4bdecfa9, 0xf6bb4b60, 0xbebfbc70,
  0x289b7ec6, 0xeaa127fa, 0xd4ef3085, 0x04881d05, 0xd9d4d039, 0xe6db99e5, 0x1fa27cf8, 0xc4ac5665,
  0xf4292244, 0x432aff97, 0xab9423a7, 0xfc93a039, 0x655b59c3, 0x8f0ccc92, 0xffeff47d, 0x85845dd1,
  0x6fa87e4f, 0xfe2ce6e0, 0xa3014314, 0x4e0811a1, 0xf7537e82, 0xbd3af235, 0x2ad7d2bb, 0xeb86d391]

structure State where
  a : UInt32
  b : UInt32
  c : UInt32
  d : UInt32
  deriving DecidableEq, Repr

def initial : State := ⟨0x67452301, 0xefcdab89, 0x98badcfe, 0x10325476⟩

def rotateLeft (x n : UInt32) : UInt32 :=
  (x <<< n) ||| (x >>> (32 - n))

def rotations (quarter : Nat) : List UInt32 :=
  [[7, 12, 17, 22], [5, 9, 14, 20], [4, 11, 16, 23], [6, 10, 15, 21]].getD quarter []

/-- How a quarter mixes three words, and which word of a block it takes in a round. -/
def mix (s : State) (i : Nat) : UInt32 × Nat :=
  match i / 16 with
  | 0 => ((s.b &&& s.c) ||| (~~~s.b &&& s.d), i)
  | 1 => ((s.d &&& s.b) ||| (~~~s.d &&& s.c), 5 * i + 1)
  | 2 => (s.b ^^^ s.c ^^^ s.d, 3 * i + 5)
  | _ => (s.c ^^^ (s.b ||| ~~~s.d), 7 * i)

def round (block : List UInt32) (s : State) (i : Nat) : State :=
  let (mixed, index) := mix s i
  let sum := s.a + mixed + roundConstants.getD i 0 + block.getD (index % 16) 0
  ⟨s.d, s.b + rotateLeft sum ((rotations (i / 16)).getD (i % 4) 0), s.b, s.c⟩

def compress (s : State) (block : List UInt32) : State :=
  let t := (List.range 64).foldl (round block) s
  ⟨s.a + t.a, s.b + t.b, s.c + t.c, s.d + t.d⟩

def littleEndian (count n : Nat) : List UInt8 := (Sha256.bigEndian count n).reverse

/-- A one bit, zeros, and the length in bits, up to a whole number of blocks. -/
def padded (message : List UInt8) : List UInt8 :=
  let zeros := (119 - message.length % 64) % 64
  message ++ 0x80 :: List.replicate zeros 0 ++ littleEndian 8 (message.length * 8)

def words : List UInt8 → List UInt32
  | a :: b :: c :: d :: rest =>
    (d.toUInt32 <<< 24 ||| c.toUInt32 <<< 16 ||| b.toUInt32 <<< 8 ||| a.toUInt32) :: words rest
  | _ => []

def run : Nat → State → List UInt32 → State
  | 0, s, _ => s
  | n + 1, s, ws => run n (compress s (ws.take 16)) (ws.drop 16)

def digest (message : List UInt8) : List UInt8 :=
  let ws := words (padded message)
  let s := run (ws.length / 16) initial ws
  [s.a, s.b, s.c, s.d].flatMap fun w => littleEndian 4 w.toNat

end CallChart.Md5

namespace CallChart.Checksum

def shift (crc : UInt32) : UInt32 :=
  if crc &&& 0x80000000 ≠ 0 then (crc <<< 1) ^^^ 0x04c11db7 else crc <<< 1

def addByte (crc : UInt32) (b : UInt8) : UInt32 :=
  (List.range 8).foldl (fun c _ => shift c) (crc ^^^ (b.toUInt32 <<< 24))

def lengthBytes : Nat → Nat → List UInt8
  | 0, _ => []
  | fuel + 1, n => if n = 0 then [] else UInt8.ofNat n :: lengthBytes fuel (n / 256)

def cyclic (bytes : List UInt8) : UInt32 :=
  ~~~((lengthBytes 8 bytes.length).foldl addByte (bytes.foldl addByte 0))

/-- One bit of a cyclic redundancy check that takes the lowest bit of a byte first. -/
def shiftDown (crc : UInt32) : UInt32 :=
  if crc &&& 1 ≠ 0 then (crc >>> 1) ^^^ 0xedb88320 else crc >>> 1

def cyclicLowFirst (bytes : List UInt8) : UInt32 :=
  ~~~(bytes.foldl (fun crc b =>
    (List.range 8).foldl (fun c _ => shiftDown c) (crc ^^^ b.toUInt32)) 0xffffffff)

def rotated (bytes : List UInt8) : Nat :=
  bytes.foldl (fun sum b => (sum / 2 + sum % 2 * 32768 + b.toNat) % 65536) 0

def folded (bytes : List UInt8) : Nat :=
  let sum := bytes.foldl (fun sum b => sum + b.toNat) 0 % 4294967296
  let once := sum % 65536 + sum / 65536
  once % 65536 + once / 65536

end CallChart.Checksum

namespace CallChart.Sha512

/-- The first 64 bits of the fractional parts of the cube roots of the first 80 primes. -/
def roundConstants : List UInt64 := [
  0x428a2f98d728ae22, 0x7137449123ef65cd, 0xb5c0fbcfec4d3b2f, 0xe9b5dba58189dbbc,
  0x3956c25bf348b538, 0x59f111f1b605d019, 0x923f82a4af194f9b, 0xab1c5ed5da6d8118,
  0xd807aa98a3030242, 0x12835b0145706fbe, 0x243185be4ee4b28c, 0x550c7dc3d5ffb4e2,
  0x72be5d74f27b896f, 0x80deb1fe3b1696b1, 0x9bdc06a725c71235, 0xc19bf174cf692694,
  0xe49b69c19ef14ad2, 0xefbe4786384f25e3, 0x0fc19dc68b8cd5b5, 0x240ca1cc77ac9c65,
  0x2de92c6f592b0275, 0x4a7484aa6ea6e483, 0x5cb0a9dcbd41fbd4, 0x76f988da831153b5,
  0x983e5152ee66dfab, 0xa831c66d2db43210, 0xb00327c898fb213f, 0xbf597fc7beef0ee4,
  0xc6e00bf33da88fc2, 0xd5a79147930aa725, 0x06ca6351e003826f, 0x142929670a0e6e70,
  0x27b70a8546d22ffc, 0x2e1b21385c26c926, 0x4d2c6dfc5ac42aed, 0x53380d139d95b3df,
  0x650a73548baf63de, 0x766a0abb3c77b2a8, 0x81c2c92e47edaee6, 0x92722c851482353b,
  0xa2bfe8a14cf10364, 0xa81a664bbc423001, 0xc24b8b70d0f89791, 0xc76c51a30654be30,
  0xd192e819d6ef5218, 0xd69906245565a910, 0xf40e35855771202a, 0x106aa07032bbd1b8,
  0x19a4c116b8d2d0c8, 0x1e376c085141ab53, 0x2748774cdf8eeb99, 0x34b0bcb5e19b48a8,
  0x391c0cb3c5c95a63, 0x4ed8aa4ae3418acb, 0x5b9cca4f7763e373, 0x682e6ff3d6b2b8a3,
  0x748f82ee5defb2fc, 0x78a5636f43172f60, 0x84c87814a1f0ab72, 0x8cc702081a6439ec,
  0x90befffa23631e28, 0xa4506cebde82bde9, 0xbef9a3f7b2c67915, 0xc67178f2e372532b,
  0xca273eceea26619c, 0xd186b8c721c0c207, 0xeada7dd6cde0eb1e, 0xf57d4f7fee6ed178,
  0x06f067aa72176fba, 0x0a637dc5a2c898a6, 0x113f9804bef90dae, 0x1b710b35131c471b,
  0x28db77f523047d84, 0x32caab7b40c72493, 0x3c9ebe0a15c9bebc, 0x431d67c49c100d4c,
  0x4cc5d4becb3e42b6, 0x597f299cfc657e2a, 0x5fcb6fab3ad6faec, 0x6c44198c4a475817]

structure State where
  a : UInt64
  b : UInt64
  c : UInt64
  d : UInt64
  e : UInt64
  f : UInt64
  g : UInt64
  h : UInt64
  deriving DecidableEq, Repr

/-- The first 64 bits of the fractional parts of the square roots of the first eight primes. -/
def initial : State :=
  ⟨0x6a09e667f3bcc908, 0xbb67ae8584caa73b, 0x3c6ef372fe94f82b, 0xa54ff53a5f1d36f1,
    0x510e527fade682d1, 0x9b05688c2b3e6c1f, 0x1f83d9abfb41bd6b, 0x5be0cd19137e2179⟩

def initialShort : State :=
  ⟨0xcbbb9d5dc1059ed8, 0x629a292a367cd507, 0x9159015a3070dd17, 0x152fecd8f70e5939,
    0x67332667ffc00b31, 0x8eb44a8768581511, 0xdb0c2e0d64f98fa7, 0x47b5481dbefa4fa4⟩

def rotateRight (x n : UInt64) : UInt64 :=
  (x >>> n) ||| (x <<< (64 - n))

def round (s : State) (word constant : UInt64) : State :=
  let sum1 := rotateRight s.e 14 ^^^ rotateRight s.e 18 ^^^ rotateRight s.e 41
  let choice := (s.e &&& s.f) ^^^ (~~~s.e &&& s.g)
  let t1 := s.h + sum1 + choice + constant + word
  let sum0 := rotateRight s.a 28 ^^^ rotateRight s.a 34 ^^^ rotateRight s.a 39
  let majority := (s.a &&& s.b) ^^^ (s.a &&& s.c) ^^^ (s.b &&& s.c)
  ⟨t1 + (sum0 + majority), s.a, s.b, s.c, s.d + t1, s.e, s.f, s.g⟩

def nextWord (recent : List UInt64) : UInt64 :=
  let word (i : Nat) := recent.getD i 0
  let s0 := rotateRight (word 14) 1 ^^^ rotateRight (word 14) 8 ^^^ (word 14 >>> 7)
  let s1 := rotateRight (word 1) 19 ^^^ rotateRight (word 1) 61 ^^^ (word 1 >>> 6)
  word 15 + s0 + word 6 + s1

def lengthen : Nat → List UInt64 → List UInt64
  | 0, words => words
  | n + 1, words => lengthen n (nextWord words :: words)

def schedule (block : List UInt64) : List UInt64 :=
  (lengthen 64 block.reverse).reverse

def State.add (s t : State) : State :=
  ⟨s.a + t.a, s.b + t.b, s.c + t.c, s.d + t.d, s.e + t.e, s.f + t.f, s.g + t.g, s.h + t.h⟩

def compress (s : State) (block : List UInt64) : State :=
  s.add (((schedule block).zip roundConstants).foldl (fun t (word, k) => round t word k) s)

/-- A one bit, zeros, and the length in bits, up to a whole number of blocks. -/
def padded (message : List UInt8) : List UInt8 :=
  let zeros := (239 - message.length % 128) % 128
  message ++ 0x80 :: List.replicate zeros 0 ++ Sha256.bigEndian 16 (message.length * 8)

def words : List UInt32 → List UInt64
  | a :: b :: rest => (a.toUInt64 <<< 32 ||| b.toUInt64) :: words rest
  | _ => []

def run : Nat → State → List UInt64 → State
  | 0, s, _ => s
  | n + 1, s, ws => run n (compress s (ws.take 16)) (ws.drop 16)

def State.bytes (s : State) : List UInt8 :=
  [s.a, s.b, s.c, s.d, s.e, s.f, s.g, s.h].flatMap fun w => Sha256.bigEndian 8 w.toNat

def digestFrom (start : State) (message : List UInt8) : List UInt8 :=
  let ws := words (Sha256.words (padded message))
  (run (ws.length / 16) start ws).bytes

def digest (message : List UInt8) : List UInt8 := digestFrom initial message

def digestShort (message : List UInt8) : List UInt8 := (digestFrom initialShort message).take 48

end CallChart.Sha512

namespace CallChart.Blake2b

def initial : List UInt64 :=
  let s := Sha512.initial
  [s.a, s.b, s.c, s.d, s.e, s.f, s.g, s.h]

def orders : List (List Nat) := [
  [0, 1, 2, 3, 4, 5, 6, 7, 8, 9, 10, 11, 12, 13, 14, 15],
  [14, 10, 4, 8, 9, 15, 13, 6, 1, 12, 0, 2, 11, 7, 5, 3],
  [11, 8, 12, 0, 5, 2, 15, 13, 10, 14, 3, 6, 7, 1, 9, 4],
  [7, 9, 3, 1, 13, 12, 11, 14, 2, 6, 5, 10, 4, 0, 15, 8],
  [9, 0, 5, 7, 2, 4, 10, 15, 14, 1, 11, 12, 6, 8, 3, 13],
  [2, 12, 6, 10, 0, 11, 8, 3, 4, 13, 7, 5, 15, 14, 1, 9],
  [12, 5, 1, 15, 14, 13, 4, 10, 0, 7, 6, 3, 9, 2, 8, 11],
  [13, 11, 7, 14, 12, 1, 3, 9, 5, 0, 15, 4, 8, 6, 2, 10],
  [6, 15, 14, 9, 11, 3, 0, 8, 12, 2, 13, 7, 1, 4, 10, 5],
  [10, 2, 8, 4, 7, 6, 1, 5, 15, 11, 9, 14, 3, 12, 13, 0]]

def mix (v : Array UInt64) (a b c d : Nat) (x y : UInt64) : Array UInt64 :=
  let at' (v : Array UInt64) (i : Nat) : UInt64 := v[i]?.getD 0
  let half (v : Array UInt64) (word rotationD rotationB : UInt64) : Array UInt64 :=
    let v := v.setIfInBounds a (at' v a + at' v b + word)
    let v := v.setIfInBounds d (Sha512.rotateRight (at' v d ^^^ at' v a) rotationD)
    let v := v.setIfInBounds c (at' v c + at' v d)
    v.setIfInBounds b (Sha512.rotateRight (at' v b ^^^ at' v c) rotationB)
  half (half v x 32 24) y 16 63

def quarters : List (Nat × Nat × Nat × Nat) :=
  [(0, 4, 8, 12), (1, 5, 9, 13), (2, 6, 10, 14), (3, 7, 11, 15),
    (0, 5, 10, 15), (1, 6, 11, 12), (2, 7, 8, 13), (3, 4, 9, 14)]

def round (block : Array UInt64) (v : Array UInt64) (number : Nat) : Array UInt64 :=
  let order := orders.getD (number % 10) []
  let word (i : Nat) : UInt64 := block[order.getD i 0]?.getD 0
  quarters.zipIdx.foldl (fun v ((a, b, c, d), i) =>
    mix v a b c d (word (2 * i)) (word (2 * i + 1))) v

def compress (h : List UInt64) (block : Array UInt64) (count : Nat) (last : Bool) :
    List UInt64 :=
  let v := (h ++ initial).toArray
  let v := v.modify 12 (· ^^^ UInt64.ofNat count)
  let v := if last then v.modify 14 (~~~·) else v
  let v := (List.range 12).foldl (round block) v
  h.zipIdx.map fun (word, i) => word ^^^ v[i]?.getD 0 ^^^ v[i + 8]?.getD 0

def words : List UInt32 → List UInt64
  | a :: b :: rest => (b.toUInt64 <<< 32 ||| a.toUInt64) :: words rest
  | _ => []

/-- Takes in blocks of 128 bytes; the last one may be shorter, but there is one always. -/
def run : Nat → List UInt64 → Nat → List UInt8 → List UInt64
  | 0, h, _, _ => h
  | fuel + 1, h, count, bytes =>
    let part := bytes.take 128
    let rest := bytes.drop 128
    let count := count + part.length
    let block := words (Md5.words (part ++ List.replicate (128 - part.length) 0))
    let h := compress h block.toArray count rest.isEmpty
    if rest.isEmpty then h else run fuel h count rest

def digest (length : Nat) (message : List UInt8) : List UInt8 :=
  let h := match initial with
    | first :: others => (first ^^^ 0x01010000 ^^^ UInt64.ofNat length) :: others
    | [] => []
  ((run (message.length + 1) h 0 message).flatMap fun w =>
    Md5.littleEndian 8 w.toNat).take length

end CallChart.Blake2b
