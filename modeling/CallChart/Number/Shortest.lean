import CallChart.Number.Binary64

namespace CallChart

structure Decimal where
  digits : Nat
  position : Int
  deriving DecidableEq, Repr

namespace Decimal

def digitCount (n : Nat) : Nat :=
  if n = 0 then 0 else (Nat.toDigits 10 n).length

def quotient (digits : Nat) (exponent : Int) : Nat × Nat :=
  if 0 ≤ exponent then (digits * Nat.pow 10 exponent.toNat, 1)
  else (digits, Nat.pow 10 (-exponent).toNat)

def magnitude (digits : Nat) (exponent : Int) : Nat :=
  let (num, den) := quotient digits exponent
  Binary64.nearest (num * Binary64.unitsPerOne) den

/-- The position of the first digit: the least `p` with `num / den < 10^p`, for a positive quotient.
The estimate by lengths is one too small at most. -/
def leadingPosition (num den : Nat) : Int :=
  let estimate : Int := (digitCount num : Int) - (digitCount den : Int)
  let (scale, divisor) := quotient 1 estimate
  if num * divisor < scale * den then estimate else estimate + 1

inductive Tie where
  | even
  | up
  deriving DecidableEq, Repr

/-- The neighbours of `num / den` on the grid of this many digits, the better one first. -/
def neighbours (tie : Tie) (num den : Nat) (position : Int) (count : Nat) : Nat × Nat :=
  let (unit, divisor) := quotient 1 (position - count)
  let top := num * divisor
  let step := den * unit
  let below := top / step
  let rest := top % step
  if 2 * rest < step then (below, below + 1)
  else if step < 2 * rest then (below + 1, below)
  else if tie = .up ∨ below % 2 = 1 then (below + 1, below)
  else (below, below + 1)

def hit? (tie : Tie) (target num den : Nat) (position : Int) (count : Nat) : Option Nat :=
  let (better, other) := neighbours tie num den position count
  if magnitude better (position - count) = target then some better
  else if magnitude other (position - count) = target then some other
  else none

def dropZeros (n : Nat) : Nat :=
  if h : n ≠ 0 ∧ n % 10 = 0 then dropZeros (n / 10) else n
termination_by n
decreasing_by omega

def allDigits (places num den : Nat) : Decimal :=
  let digits := num * Nat.pow 10 places / den
  ⟨dropZeros digits, -(places : Int) + digitCount digits⟩

def candidate? (tie : Tie) (target num den : Nat) (position : Int) (count : Nat) : Option Decimal :=
  (hit? tie target num den position count).map fun digits =>
    ⟨dropZeros digits, position - count + digitCount digits⟩

/-- The shortest decimal that rounds to the magnitude with this number. Tries 1, 2, … 17 digits, then
every digit there is: in units of 2⁻¹⁰⁷⁴, 1074 places show the number exactly. -/
def shortest (tie : Tie) (target : Nat) : Decimal :=
  if target = 0 then ⟨0, 0⟩
  else
    let num := Binary64.scaled target
    let den := Binary64.unitsPerOne
    let candidate := candidate? tie target num den (leadingPosition num den)
    match (List.range' 1 17).findSome? candidate with
    | some decimal => decimal
    | none => allDigits 1074 num den

end Decimal

structure Layout where
  tie : Decimal.Tie
  positional : Int → Bool
  point : Bool
  nan : String
  infinity : String

namespace Layout

def digitChars (n : Nat) : List Char :=
  Nat.toDigits 10 n

def positionalChars (layout : Layout) (digits : List Char) (position : Int) : List Char :=
  if position ≤ 0 then
    '0' :: '.' :: List.replicate (-position).toNat '0' ++ digits
  else
    let before := position.toNat
    let ending := if layout.point then ['.', '0'] else []
    if digits.length ≤ before then
      digits ++ List.replicate (before - digits.length) '0' ++ ending
    else digits.take before ++ '.' :: digits.drop before

def exponentChars (digits : List Char) (position : Int) : List Char :=
  let exponent := position - 1
  let mantissa := match digits with
    | [] => ['0']
    | [d] => [d]
    | d :: rest => d :: '.' :: rest
  mantissa ++ 'e' :: (if exponent < 0 then '-' else '+') :: digitChars exponent.natAbs

def magnitudeChars (layout : Layout) (magnitude : Nat) : List Char :=
  if magnitude = 0 then '0' :: if layout.point then ['.', '0'] else []
  else
    let decimal := Decimal.shortest layout.tie magnitude
    let digits := digitChars decimal.digits
    if layout.positional decimal.position then
      layout.positionalChars digits decimal.position
    else exponentChars digits decimal.position

def signed (negative : Bool) (text : List Char) : List Char :=
  if negative then '-' :: text else text

def chars (layout : Layout) : Binary64 → List Char
  | .nan => layout.nan.toList
  | .infinite negative => signed negative layout.infinity.toList
  | .finite negative magnitude => signed negative (layout.magnitudeChars magnitude)

def text (layout : Layout) (x : Binary64) : String :=
  String.ofList (layout.chars x)

def plain : Layout where
  tie := .up
  positional _ := true
  point := false
  nan := "NaN"
  infinity := "inf"

end Layout
end CallChart
