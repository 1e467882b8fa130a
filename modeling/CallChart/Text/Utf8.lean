namespace CallChart.Utf8

/-- The bytes of one character, with the code point's low bits six at a time in the tail bytes. -/
def encodeChar (c : Char) : List UInt8 :=
  let n := c.toNat
  if n < 0x80 then [UInt8.ofNat n]
  else if n < 0x800 then [UInt8.ofNat (0xC0 + n / 64), UInt8.ofNat (0x80 + n % 64)]
  else if n < 0x10000 then
    [UInt8.ofNat (0xE0 + n / 4096), UInt8.ofNat (0x80 + n / 64 % 64), UInt8.ofNat (0x80 + n % 64)]
  else
    [UInt8.ofNat (0xF0 + n / 262144), UInt8.ofNat (0x80 + n / 4096 % 64),
      UInt8.ofNat (0x80 + n / 64 % 64), UInt8.ofNat (0x80 + n % 64)]

def encodeChars (cs : List Char) : List UInt8 :=
  cs.flatMap encodeChar

def encode (s : String) : List UInt8 :=
  encodeChars s.toList

/-- A sequence read in part: `low` and `high` bound the next byte, `more` bytes follow that one,
and `value` is made of the bits seen so far. -/
structure Unfinished where
  low : Nat
  high : Nat
  more : Nat
  value : Nat

/-- What a byte that begins a sequence yields: a finished character, a gap, or a longer sequence. -/
def start (b : Nat) : List (Option Char) × Option Unfinished :=
  if b < 0x80 then ([some (Char.ofNat b)], none)
  else if b < 0xC2 then ([none], none)
  else if b < 0xE0 then ([], some ⟨0x80, 0xBF, 0, b - 0xC0⟩)
  else if b = 0xE0 then ([], some ⟨0xA0, 0xBF, 1, 0⟩)
  else if b = 0xED then ([], some ⟨0x80, 0x9F, 1, 0xD⟩)
  else if b < 0xF0 then ([], some ⟨0x80, 0xBF, 1, b - 0xE0⟩)
  else if b = 0xF0 then ([], some ⟨0x90, 0xBF, 2, 0⟩)
  else if b < 0xF4 then ([], some ⟨0x80, 0xBF, 2, b - 0xF0⟩)
  else if b = 0xF4 then ([], some ⟨0x80, 0x8F, 2, 4⟩)
  else ([none], none)

def step (pending : Option Unfinished) (byte : UInt8) : List (Option Char) × Option Unfinished :=
  let b := byte.toNat
  match pending with
  | none => start b
  | some p =>
    if p.low ≤ b ∧ b ≤ p.high then
      let value := p.value * 64 + (b - 0x80)
      match p.more with
      | 0 => ([some (Char.ofNat value)], none)
      | more + 1 => ([], some ⟨0x80, 0xBF, more, value⟩)
    else
      let (out, next) := start b
      (none :: out, next)

def scan (pending : Option Unfinished) : List UInt8 → List (Option Char)
  | [] => if pending.isSome then [none] else []
  | b :: rest => (step pending b).1 ++ scan (step pending b).2 rest

def scanned (bytes : List UInt8) : List (Option Char) :=
  scan none bytes

def decode? (bytes : List UInt8) : Option String :=
  ((scanned bytes).mapM id).map String.ofList

def decodeLossy (bytes : List UInt8) : String :=
  String.ofList ((scanned bytes).map (·.getD '\uFFFD'))

end CallChart.Utf8
