import CallChart.Number.Binary64

namespace CallChart.Binary64

def ofBits (bits : UInt64) : Binary64 :=
  let negative := 0x8000000000000000 ≤ bits.toNat
  let magnitude := bits.toNat % 0x8000000000000000
  if magnitude ≤ 0x7FF0000000000000 then ofMagnitude negative magnitude else .nan

def toBits : Binary64 → UInt64
  | .nan => 0x7FF8000000000000
  | .infinite negative => if negative then 0xFFF0000000000000 else 0x7FF0000000000000
  | .finite negative magnitude =>
    UInt64.ofNat (magnitude.val + if negative then 0x8000000000000000 else 0)

def ofFloat (x : Float) : Binary64 := ofBits x.toBits

def toFloat (x : Binary64) : Float := Float.ofBits x.toBits

/-- What is left of a number when another one is taken away as often as possible. It has the sign
of the number. -/
def remainder (x y : Binary64) : Binary64 :=
  match x, y with
  | .finite negative a, .finite _ b =>
    if b.val = 0 then .nan
    else ofMagnitude negative (nearest (scaled a.val % scaled b.val) 1)
  | .finite .., .infinite _ => x
  | _, _ => .nan

end CallChart.Binary64

namespace CallChart.Wide

/-- Powers of two that make a positive quotient a number of 64 bits before the point. -/
def shift (num den : Nat) : Int :=
  let rough : Int := 63 - ((num.log2 : Int) - den.log2)
  if num * Nat.pow 2 rough.toNat < den * Nat.pow 2 (-rough).toNat * Nat.pow 2 63 then rough + 1
  else rough

def round (q : Rat) : Rat :=
  let num := q.num.natAbs
  if num = 0 then 0
  else
    let s := shift num q.den
    let top := num * Nat.pow 2 s.toNat
    let bottom := q.den * Nat.pow 2 (-s).toNat
    let low := top / bottom
    let rest := 2 * (top % bottom)
    let significand := if bottom < rest ∨ (rest = bottom ∧ low % 2 = 1) then low + 1 else low
    let size := mkRat (significand * Nat.pow 2 (-s).toNat) (Nat.pow 2 s.toNat)
    if q.num < 0 then -size else size

def add (x y : Rat) : Rat := round (x + y)

def sub (x y : Rat) : Rat := round (x - y)

def mul (x y : Rat) : Rat := round (x * y)

def div (x y : Rat) : Rat := round (x / y)

def power (base : Rat) (n : Nat) : Rat := (List.replicate n base).foldl mul 1

def truncate (x : Rat) : Int := Int.tdiv x.num x.den

def abs (x : Rat) : Rat := if x < 0 then -x else x

end CallChart.Wide
