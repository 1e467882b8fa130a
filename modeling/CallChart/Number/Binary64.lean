namespace CallChart

/-- The finite magnitudes are numbered in increasing order from 0, and the number of a magnitude is
its 63-bit encoding. -/
inductive Binary64 where
  | nan
  | infinite (negative : Bool)
  | finite (negative : Bool) (magnitude : Fin 0x7FF0000000000000)
  deriving DecidableEq, Repr

namespace Binary64

def scaled (magnitude : Nat) : Nat :=
  let exponent := magnitude / Nat.pow 2 52
  let fraction := magnitude % Nat.pow 2 52
  if exponent = 0 then fraction else (Nat.pow 2 52 + fraction) * Nat.pow 2 (exponent - 1)

def unitsPerOne : Nat := Nat.pow 2 1074

def ofMagnitude (negative : Bool) (magnitude : Nat) : Binary64 :=
  if h : magnitude < 0x7FF0000000000000 then .finite negative ⟨magnitude, h⟩
  else .infinite negative

/-- The number of the magnitude nearest to `num / den` units. The whole units are cut to 53 bits,
and what was cut off decides between this magnitude and the next. -/
def nearest (num den : Nat) : Nat :=
  let whole := num / den
  let shift := whole.log2 - 52
  let significand := whole / Nat.pow 2 shift
  let magnitude := shift * Nat.pow 2 52 + significand
  let step := den * Nat.pow 2 shift
  let rest := num - significand * step
  if step < 2 * rest ∨ (step = 2 * rest ∧ significand % 2 = 1) then magnitude + 1 else magnitude

def roundQuotient (negative : Bool) (num den : Nat) : Binary64 :=
  ofMagnitude negative (nearest (num * unitsPerOne) den)

def zero : Binary64 := .finite false ⟨0, by decide⟩

def isFinite : Binary64 → Bool
  | .finite .. => true
  | _ => false

def isInfinite : Binary64 → Bool
  | .infinite _ => true
  | _ => false

def isBelowZero : Binary64 → Bool
  | .nan => false
  | .infinite negative => negative
  | .finite negative magnitude => negative && magnitude.val != 0

def isZero : Binary64 → Bool
  | .finite _ magnitude => magnitude.val == 0
  | _ => false

def negate : Binary64 → Binary64
  | .nan => .nan
  | .infinite negative => .infinite (!negative)
  | .finite negative magnitude => .finite (!negative) magnitude

def ofNat (n : Nat) : Binary64 :=
  roundQuotient false n 1

def ofInt (n : Int) : Binary64 :=
  roundQuotient (n < 0) n.natAbs 1

def times (x : Binary64) (factor : Nat) : Binary64 :=
  match x with
  | .finite negative magnitude =>
    ofMagnitude negative (nearest (scaled magnitude * scaled factor) unitsPerOne)
  | x => x

def dividedBy (x : Binary64) (divisor : Nat) : Binary64 :=
  match x with
  | .finite negative magnitude =>
    ofMagnitude negative (nearest (scaled magnitude * unitsPerOne) (scaled divisor))
  | x => x

def powerOfTen (exponent : Nat) : Nat :=
  nearest (Nat.pow 10 exponent * unitsPerOne) 1

end Binary64
end CallChart
