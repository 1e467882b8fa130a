import CallChart.Number.Reading
import CallChart.Shell.Pattern
import CallChart.Shell.Tool.Basic

namespace CallChart.Shell

inductive Amount where
  | nan
  | infinite (negative : Bool)
  | exact (negative : Bool) (num den : Nat)
  deriving DecidableEq, Repr

namespace Amount

def exponentLimit : Nat := 4932

def scaled (negative : Bool) (n base : Nat) (exponent : Int) (limit : Nat) : Amount :=
  if n = 0 then .exact negative 0 1
  else if (limit : Int) < exponent then .infinite negative
  else if 0 ≤ exponent then .exact negative (n * Nat.pow base exponent.toNat) 1
  else if exponent < -(2 * limit : Int) then .exact negative 0 1
  else .exact negative n (Nat.pow base (-exponent).toNat)

def hexDigit (b : UInt8) : Nat :=
  if ByteClass.isDigit b then b.toNat - 0x30
  else if ByteClass.isUpper b then b.toNat - 0x41 + 10 else b.toNat - 0x61 + 10

def number (base : Nat) (ds : Bytes) : Nat := ds.foldl (fun n b => n * base + hexDigit b) 0

def sign (bs : Bytes) : Bool × Bytes :=
  match bs with
  | 0x2D :: rest => (true, rest)
  | 0x2B :: rest => (false, rest)
  | bs => (false, bs)

def exponent (letter : UInt8) (bs : Bytes) : Int × Bytes :=
  match bs with
  | b :: rest =>
    if b = letter ∨ b + 0x20 = letter then
      let (negative, ds) := sign rest
      let digits := ds.takeWhile ByteClass.isDigit
      if digits.isEmpty then (0, bs)
      else
        let n := number 10 digits
        ((if negative then -(n : Int) else n), ds.drop digits.length)
    else (0, bs)
  | [] => (0, [])

def digits (isDigit : UInt8 → Bool) (base : Nat) (bs : Bytes) : Option (Nat × Nat × Bytes) :=
  let whole := bs.takeWhile isDigit
  let rest := bs.drop whole.length
  let (fraction, rest) := match rest with
    | 0x2E :: more =>
      let fraction := more.takeWhile isDigit
      if whole.isEmpty ∧ fraction.isEmpty then ([], rest) else (fraction, more.drop fraction.length)
    | rest => ([], rest)
  if whole.isEmpty ∧ fraction.isEmpty then none
  else some (number base (whole ++ fraction), fraction.length, rest)

def read? (bs : Bytes) : Option (Amount × Bytes) :=
  let (negative, body) := sign (bs.dropWhile ByteClass.isSpace)
  let lower := body.map fun b => if ByteClass.isUpper b then b + 0x20 else b
  let starts (word : String) : Bool := (bytesOf word).isPrefixOf lower
  let hex : Option (Amount × Bytes) :=
    if !starts "0x" then none
    else
      (digits ByteClass.isHex 16 (body.drop 2)).map fun (n, places, rest) =>
        let (e, rest) := exponent 0x70 rest
        (scaled negative n 2 (e - 4 * places) (4 * exponentLimit), rest)
  if starts "infinity" then some (.infinite negative, body.drop 8)
  else if starts "inf" then some (.infinite negative, body.drop 3)
  else if starts "nan" then some (.nan, body.drop 3)
  else
    hex <|> (digits ByteClass.isDigit 10 body).map fun (n, places, rest) =>
      let (e, rest) := exponent 0x65 rest
      (scaled negative n 10 (e - places) exponentLimit, rest)

def ofText? (bs : Bytes) : Option Amount :=
  match read? bs with
  | some (a, []) => some a
  | _ => none

def quotient? : Amount → Option (Int × Nat)
  | .exact negative num den => some (if negative then -(num : Int) else num, den)
  | _ => none

def compare (a b : Amount) : Ordering :=
  let rank : Amount → Nat
    | .nan => 0
    | .infinite true => 1
    | .exact .. => 2
    | .infinite false => 3
  match a.quotient?, b.quotient? with
  | some (m, d), some (n, e) => Ord.compare (m * e) (n * d)
  | _, _ => Ord.compare (rank a) (rank b)

end Amount
end CallChart.Shell

namespace CallChart.Shell.Tool

namespace Size

structure Scaled where
  amount : Nat
  tenths : Nat
  more : Bool
  exponent : Nat

def scale (base : Nat) : Nat → Scaled → Scaled
  | 0, s => s
  | fuel + 1, s =>
    if s.amount < base then s
    else
      let tenths := s.amount % base * 10 + s.tenths
      scale base fuel
        ⟨s.amount / base, tenths / base, s.more || tenths % base ≠ 0, s.exponent + 1⟩

def unitLetter (base exponent : Nat) : String :=
  if exponent = 0 then ""
  else if base = 1000 ∧ exponent = 1 then "k"
  else ((["K", "M", "G", "T", "P", "E", "Z", "Y"] : List String)[exponent - 1]?).getD ""

def readable (base n : Nat) : String :=
  let s := scale base 8 ⟨n, 0, false, 0⟩
  if s.exponent = 0 then toString n
  else
    let finish (amount exponent : Nat) : String := toString amount ++ unitLetter base exponent
    if s.amount < 10 then
      let tenths := s.tenths + if s.more then 1 else 0
      let (amount, tenths) := if tenths = 10 then (s.amount + 1, 0) else (s.amount, tenths)
      if amount < 10 then toString amount ++ "." ++ toString tenths ++ unitLetter base s.exponent
      else finish amount s.exponent
    else
      let amount := s.amount + if s.tenths ≠ 0 ∨ s.more then 1 else 0
      if amount = base then "1.0" ++ unitLetter base (s.exponent + 1)
      else finish amount s.exponent

inductive Style where
  | units (bytes : Nat) (letter : String)
  | readable (base : Nat)
  deriving DecidableEq

def Style.show (s : Style) (bytes : Nat) : String :=
  match s with
  | .units n letter => toString ((bytes + n - 1) / n) ++ letter
  | .readable base => Size.readable base bytes

def Style.read? (w : Bytes) : Option Style :=
  let text := textOf w
  if text = "human-readable" then some (.readable 1024)
  else if text = "si" then some (.readable 1000)
  else
    match countOf "EgGkKmMpPtTyYzZ" w with
    | .ok 0 => none
    | .ok n =>
      let digits := text.toList.takeWhile Char.isDigit
      some (.units n (if digits.isEmpty then text else ""))
    | .error _ => none

end Size
end CallChart.Shell.Tool
