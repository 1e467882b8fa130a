import CallChart.Json.Value
import CallChart.Number.Reading
import CallChart.Text.Utf8

namespace CallChart.Json

abbrev Input := List (Option Char)

def isSpace : Option Char → Bool
  | some c => c == ' ' || c == '\n' || c == '\t' || c == '\r'
  | none => false

def skipSpace (input : Input) : Input :=
  input.dropWhile isSpace

def afterWord? : List Char → Input → Option Input
  | [], input => some input
  | c :: word, some d :: input => if c = d then afterWord? word input else none
  | _ :: _, _ => none

inductive Piece where
  | plain (c : Option Char)
  | unit (n : Nat)

def hexValue? (c : Char) : Option Nat :=
  if c.isDigit then some (c.toNat - '0'.toNat)
  else if 'a' ≤ c ∧ c ≤ 'f' then some (c.toNat - 'a'.toNat + 10)
  else if 'A' ≤ c ∧ c ≤ 'F' then some (c.toNat - 'A'.toNat + 10)
  else none

def hexUnit? (a b c d : Option Char) : Option Nat := do
  let a ← hexValue? (← a)
  let b ← hexValue? (← b)
  let c ← hexValue? (← c)
  let d ← hexValue? (← d)
  pure (((a * 16 + b) * 16 + c) * 16 + d)

def escaped? : Char → Option Char
  | '"' => some '"'
  | '\\' => some '\\'
  | '/' => some '/'
  | 'b' => some '\x08'
  | 'f' => some '\x0C'
  | 'n' => some '\n'
  | 'r' => some '\r'
  | 't' => some '\t'
  | _ => none

def pieces? : Input → Option (List Piece × Input)
  | [] => none
  | some '"' :: rest => some ([], rest)
  | some '\\' :: some 'u' :: a :: b :: c :: d :: rest => do
    let unit ← hexUnit? a b c d
    let (others, rest) ← pieces? rest
    pure (.unit unit :: others, rest)
  | some '\\' :: some e :: rest => do
    let c ← escaped? e
    let (others, rest) ← pieces? rest
    pure (.plain (some c) :: others, rest)
  | some '\\' :: _ => none
  | some c :: rest =>
    if c.toNat < 0x20 then none
    else do
      let (others, rest) ← pieces? rest
      pure (.plain (some c) :: others, rest)
  | none :: rest => do
    let (others, rest) ← pieces? rest
    pure (.plain none :: others, rest)

/-- The text of the pieces: two units that are a surrogate pair make one character, and a
surrogate alone makes none. -/
def joined? : List Piece → Option (List Char)
  | [] => some []
  | .plain c :: rest => do
    let c ← c
    let others ← joined? rest
    pure (c :: others)
  | .unit high :: .unit low :: rest =>
    if 0xD800 ≤ high ∧ high ≤ 0xDBFF then
      if 0xDC00 ≤ low ∧ low ≤ 0xDFFF then do
        let others ← joined? rest
        pure (Char.ofNat (0x10000 + (high - 0xD800) * 0x400 + (low - 0xDC00)) :: others)
      else none
    else if 0xDC00 ≤ high ∧ high ≤ 0xDFFF then none
    else do
      let others ← joined? (.unit low :: rest)
      pure (Char.ofNat high :: others)
  | .unit unit :: rest =>
    if 0xD800 ≤ unit ∧ unit ≤ 0xDFFF then none
    else do
      let others ← joined? rest
      pure (Char.ofNat unit :: others)

def text? (input : Input) : Option (Option String × Input) := do
  let (pieces, rest) ← pieces? input
  pure ((joined? pieces).map String.ofList, rest)

def digits : Input → List Char × Input
  | some c :: rest =>
    if c.isDigit then
      let (more, rest) := digits rest
      (c :: more, rest)
    else ([], some c :: rest)
  | input => ([], input)

structure Numeral where
  negative : Bool
  integer : List Char
  fraction : List Char
  exponent : Option (Bool × List Char)

/-- Digits taken into the significand while it stays below 2⁶⁴, and the number of digits left. -/
def absorb (significand : Nat) : List Char → Nat × Nat
  | [] => (significand, 0)
  | c :: rest =>
    let next := significand * 10 + (c.toNat - '0'.toNat)
    if next < Nat.pow 2 64 then absorb next rest else (significand, rest.length + 1)

def exponentLimit : Nat := Nat.pow 2 31

def shrink (x : Binary64) (exponent : Nat) : Binary64 :=
  if exponent ≤ 308 then x.dividedBy (Binary64.powerOfTen exponent)
  else if x.isZero then x
  else shrink (x.dividedBy (Binary64.powerOfTen 308)) (exponent - 308)
termination_by exponent

def scale? (significand : Nat) (exponent : Int) : Option Binary64 :=
  let x := Binary64.ofNat significand
  if exponent < 0 then some (shrink x exponent.natAbs)
  else if exponent ≤ 308 then
    let y := x.times (Binary64.powerOfTen exponent.natAbs)
    if y.isInfinite then none else some y
  else if x.isZero then some x
  else none

def addExponents (a b : Int) : Int :=
  max (-exponentLimit) (min (exponentLimit - 1) (a + b))

namespace Numeral

/-- The magnitude of a number with point or exponent, or of a whole number with too many digits. -/
def magnitude? (numeral : Numeral) : Option Binary64 :=
  let (significand, left) := absorb 0 numeral.integer
  let (significand, unread) := absorb significand numeral.fraction
  let start : Int := left - (numeral.fraction.length - unread : Nat)
  match numeral.exponent with
  | none => scale? significand start
  | some (negative, digits) =>
    let exponent := ofDigits digits
    if exponent < exponentLimit then
      scale? significand (addExponents start (if negative then -exponent else exponent))
    else if significand = 0 ∨ negative then some .zero
    else none

/-- What the numeral denotes. A negative whole number below the 64-bit range is real, and so is
negative zero. -/
def value? (numeral : Numeral) : Option Number :=
  let signed (x : Binary64) : Number := .real (if numeral.negative then x.negate else x)
  let (significand, left) := absorb 0 numeral.integer
  if numeral.fraction = [] ∧ numeral.exponent = none ∧ left = 0 then
    if ¬ numeral.negative then some (.whole significand)
    else if 0 < significand ∧ significand ≤ Nat.pow 2 63 then some (.whole (-significand))
    else some (signed (.ofNat significand))
  else numeral.magnitude?.map signed

end Numeral

def fraction? : Input → Option (List Char × Input)
  | some '.' :: rest =>
    let (ds, rest) := digits rest
    if ds = [] then none else some (ds, rest)
  | input => some ([], input)

def exponent? : Input → Option (Option (Bool × List Char) × Input)
  | some c :: rest =>
    if c = 'e' ∨ c = 'E' then
      let (negative, rest) := match rest with
        | some '-' :: more => (true, more)
        | some '+' :: more => (false, more)
        | more => (false, more)
      let (ds, rest) := digits rest
      if ds = [] then none else some (some (negative, ds), rest)
    else some (none, some c :: rest)
  | input => some (none, input)

/-- A number without its sign. The integer part is a zero or begins with another digit. -/
def numeral? (negative : Bool) (input : Input) : Option (Numeral × Input) := do
  let (integer, rest) := digits input
  if integer = [] ∨ (integer.head? = some '0' ∧ integer.length ≠ 1) then none
  else do
    let (fraction, rest) ← fraction? rest
    let (exponent, rest) ← exponent? rest
    pure (⟨negative, integer, fraction, exponent⟩, rest)

def number? (negative : Bool) (input : Input) : Option (Json × Input) := do
  let (numeral, rest) ← numeral? negative input
  pure (.number numeral.value?, rest)

mutual

def value? : Nat → Input → Option (Json × Input)
  | 0, _ => none
  | fuel + 1, input =>
    match skipSpace input with
    | some '"' :: rest => do
      let (s, rest) ← text? rest
      pure (.text s, rest)
    | some '[' :: rest =>
      match skipSpace rest with
      | some ']' :: rest => some (.array [], rest)
      | rest => do
        let (items, rest) ← items? fuel rest
        pure (.array items, rest)
    | some '\x7b' :: rest =>
      match skipSpace rest with
      | some '\x7d' :: rest => some (.object [], rest)
      | rest => do
        let (members, rest) ← members? fuel rest
        pure (.object members, rest)
    | some 'n' :: rest => (afterWord? "ull".toList rest).map (.null, ·)
    | some 't' :: rest => (afterWord? "rue".toList rest).map (.bool true, ·)
    | some 'f' :: rest => (afterWord? "alse".toList rest).map (.bool false, ·)
    | some '-' :: rest => number? true rest
    | rest => number? false rest

def items? : Nat → Input → Option (List Json × Input)
  | 0, _ => none
  | fuel + 1, input => do
    let (item, rest) ← value? fuel input
    match skipSpace rest with
    | some ']' :: rest => pure ([item], rest)
    | some ',' :: rest =>
      let (others, rest) ← items? fuel rest
      pure (item :: others, rest)
    | _ => none

def members? : Nat → Input → Option (List (Option String × Json) × Input)
  | 0, _ => none
  | fuel + 1, input =>
    match skipSpace input with
    | some '"' :: rest => do
      let (key, rest) ← text? rest
      match skipSpace rest with
      | some ':' :: rest =>
        let (item, rest) ← value? fuel rest
        match skipSpace rest with
        | some '\x7d' :: rest => pure ([(key, item)], rest)
        | some ',' :: rest =>
          let (others, rest) ← members? fuel rest
          pure ((key, item) :: others, rest)
        | _ => none
      | _ => none
    | _ => none

end

/-- The document, if the input is one value with nothing but space around it. Two steps for each
character are enough. -/
def parseInput? (input : Input) : Option Json := do
  let (j, rest) ← value? (2 * input.length + 2) input
  if skipSpace rest = [] then some j else none

def parseBytes? (bytes : List UInt8) : Option Json :=
  parseInput? (Utf8.scanned bytes)

def parse? (s : String) : Option Json :=
  parseInput? (s.toList.map some)

end CallChart.Json
