import CallChart.Number.Shortest
import CallChart.Text.Split

namespace CallChart

def digitValue? (c : Char) : Option Nat :=
  if c.isDigit then some (c.toNat - '0'.toNat) else none

def ofDigits (digits : List Char) : Nat :=
  digits.foldl (fun n c => n * 10 + (c.toNat - '0'.toNat)) 0

inductive CountError where
  | empty
  | digit
  | large
  deriving DecidableEq, Repr

def CountError.message : CountError → String
  | .empty => "cannot parse integer from empty string"
  | .digit => "invalid digit found in string"
  | .large => "number too large to fit in target type"

/-- Digits are read up to the first fault: a wrong character, or a value that reaches the bound. -/
def countDigits (bound : Nat) (n : Nat) : List Char → Except CountError Nat
  | [] => .ok n
  | c :: rest =>
    match digitValue? c with
    | none => .error .digit
    | some d => if n * 10 + d < bound then countDigits bound (n * 10 + d) rest else .error .large

def count? (bound : Nat) (s : String) : Except CountError Nat :=
  match s.toList with
  | [] => .error .empty
  | ['+'] => .error .digit
  | '+' :: digits => countDigits bound 0 digits
  | digits => countDigits bound 0 digits

namespace Binary64

/-- `± digits × 10^exponent`, rounded once. Far outside the range the power of ten is not made. -/
def ofDecimal (negative : Bool) (digits : Nat) (exponent : Int) : Binary64 :=
  let position := exponent + Decimal.digitCount digits
  if digits = 0 ∨ position < -400 then ofMagnitude negative 0
  else if 400 < position then .infinite negative
  else ofMagnitude negative (Decimal.magnitude digits exponent)

def splitSign : List Char → Bool × List Char
  | '-' :: rest => (true, rest)
  | '+' :: rest => (false, rest)
  | rest => (false, rest)

def exponent? (cs : List Char) : Option Int :=
  let (negative, digits) := splitSign cs
  if digits ≠ [] ∧ digits.all Char.isDigit then
    some (if negative then -(ofDigits digits : Int) else ofDigits digits)
  else none

/-- A decimal with at least one digit, before or after the point, and an optional exponent. -/
def unsigned? (negative : Bool) (cs : List Char) : Option Binary64 :=
  let whole := cs.takeWhile Char.isDigit
  let afterWhole := cs.dropWhile Char.isDigit
  let (fraction, rest) := match afterWhole with
    | '.' :: more => (more.takeWhile Char.isDigit, more.dropWhile Char.isDigit)
    | more => ([], more)
  let digits := whole ++ fraction
  let value (exponent : Int) := ofDecimal negative (ofDigits digits) (exponent - fraction.length)
  if digits = [] then none
  else
    match rest with
    | [] => some (value 0)
    | c :: more => if c = 'e' ∨ c = 'E' then (exponent? more).map value else none

/-- A number as a person writes it: an optional sign, then a decimal, `inf`, `infinity` or `nan` in
any mixture of cases. -/
def ofText? (s : String) : Option Binary64 :=
  let (negative, rest) := splitSign s.toList
  match String.ofList (rest.map Char.toLower) with
  | "inf" => some (.infinite negative)
  | "infinity" => some (.infinite negative)
  | "nan" => some .nan
  | _ => unsigned? negative rest

end Binary64
end CallChart
