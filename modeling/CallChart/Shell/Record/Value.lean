import CallChart.Number.Machine
import CallChart.Shell.Format
import CallChart.Shell.Regex

namespace CallChart.Shell.Record

inductive Value where
  | unset
  | number (x : Float)
  | text (bytes : Bytes)
  | given (bytes : Bytes)
  deriving Inhabited

def isBlank (b : UInt8) : Bool := b == 0x20 || b == 0x09 || b == 0x0A

def digitOf (b : UInt8) : Nat :=
  if ByteClass.isDigit b then b.toNat - 0x30 else (Regex.lower b).toNat - 0x57

def isHexDigit (b : UInt8) : Bool :=
  ByteClass.isDigit b || (0x61 ≤ Regex.lower b && Regex.lower b ≤ 0x66)

def valueOf (base : Nat) (ds : Bytes) : Nat := ds.foldl (fun n b => n * base + digitOf b) 0

def scaledFloat (digits : Nat) (exponent : Int) : Float :=
  if exponent = 0 ∧ digits < 9007199254740992 then Float.ofNat digits
  else (Binary64.ofDecimal false digits exponent).toFloat

def exponentPart (bs : Bytes) : Int × Bytes :=
  match bs with
  | e :: rest =>
    if e ≠ 0x65 ∧ e ≠ 0x45 then (0, bs)
    else
      let (negative, more) := match rest with
        | 0x2D :: more => (true, more)
        | 0x2B :: more => (false, more)
        | more => (false, more)
      let ds := more.takeWhile ByteClass.isDigit
      if ds.isEmpty then (0, bs)
      else
        let n : Int := valueOf 10 ds
        (if negative then -n else n, more.drop ds.length)
  | [] => (0, bs)

def decimal? (bs : Bytes) : Option (Float × Bytes) :=
  let whole := bs.takeWhile ByteClass.isDigit
  let rest := bs.drop whole.length
  let (fraction, rest) := match rest with
    | 0x2E :: more =>
      let ds := more.takeWhile ByteClass.isDigit
      (ds, if whole.isEmpty ∧ ds.isEmpty then rest else more.drop ds.length)
    | rest => ([], rest)
  if whole.isEmpty ∧ fraction.isEmpty then none
  else
    let (exponent, rest) := exponentPart rest
    some (scaledFloat (valueOf 10 (whole ++ fraction)) (exponent - fraction.length), rest)

def magnitude? (bs : Bytes) : Option (Float × Bytes) :=
  let starts (word : String) : Bool := (bytesOf word).isPrefixOf (bs.map Regex.lower)
  match bs with
  | 0x30 :: x :: more =>
    let ds := more.takeWhile isHexDigit
    if Regex.lower x = 0x78 ∧ !ds.isEmpty then
      some (Float.ofNat (valueOf 16 ds), more.drop ds.length)
    else decimal? bs
  | bs =>
    if starts "infinity" then some (1.0 / 0.0, bs.drop 8)
    else if starts "inf" then some (1.0 / 0.0, bs.drop 3)
    else if starts "nan" then some (0.0 / 0.0, bs.drop 3)
    else decimal? bs

def leading? (bs : Bytes) : Option (Float × Bytes) :=
  match bs.dropWhile ByteClass.isSpace with
  | 0x2D :: rest => (magnitude? rest).map fun (x, rest) => (-x, rest)
  | 0x2B :: rest => magnitude? rest
  | rest => magnitude? rest

def looksLike? (bs : Bytes) : Option Float :=
  let body := ((bs.dropWhile isBlank).reverse.dropWhile isBlank).reverse
  let mayStart (b : UInt8) : Bool := ByteClass.isDigit b || (bytesOf "+-.").contains b
  let mayStop (b : UInt8) : Bool := ByteClass.isDigit b || b == 0x2E
  if (body.head?.map mayStart).getD false && (body.getLast?.map mayStop).getD false then
    match leading? body with
    | some (x, []) => if x.isInf then none else some x
    | _ => none
  else none

def largestWhole : Float := 9223372036854775807.0

def isWhole (x : Float) : Bool := x.abs ≤ largestWhole && x == x.floor

def wholeOf (x : Float) : Int :=
  if largestWhole ≤ x then 9223372036854775807
  else if x ≤ -largestWhole then -9223372036854775807
  else x.toInt64.toInt

def truncated (x : Float) : Float := if x < 0.0 then x.ceil else x.floor

namespace Layout

inductive Fault where
  | tooFew
  | improper (slot : Nat)
  deriving DecidableEq, Repr

structure Slot where
  flags : Bytes
  width : Option Format.Measure
  precision : Option Format.Measure
  kind : UInt8

def slot? (bs : Bytes) : Option (Slot × Bytes) :=
  let flags := bs.takeWhile Format.flagBytes.contains
  let (width, rest) := Format.readMeasure (bs.drop flags.length)
  let (precision, rest) := match rest with
    | 0x2E :: more =>
      match Format.readMeasure more with
      | (none, more) => (some (Format.Measure.given 0), more)
      | found => found
    | rest => (none, rest)
  match rest.dropWhile fun b => b = 0x6C ∨ b = 0x68 with
  | kind :: rest =>
    if (bytesOf "csdiouxXeEfFgG").contains kind then some (⟨flags, width, precision, kind⟩, rest)
    else none
  | [] => none

def fraction (kind : UInt8) (flags : Bytes) (width : Int) (precision : Option Nat) (x : Float) :
    Bytes :=
  if x.isNaN then
    Format.padded flags width (bytesOf (if kind < 0x61 then "-NAN" else "-nan"))
  else Format.fraction kind flags width precision (.ofFloat x)

end Layout

def formatted (format : Bytes) (x : Float) : Bytes :=
  let before := format.takeWhile (· ≠ 0x25)
  match format.drop before.length with
  | [] => before
  | _ :: rest =>
    match Layout.slot? rest with
    | none => format
    | some (slot, rest) =>
      let measure (m : Option Format.Measure) : Option Nat := m.bind fun m => match m with
        | .given n => some n
        | .argument => none
      let width : Int := (measure slot.width).getD 0
      before ++ (if (bytesOf "eEfFgG").contains slot.kind then
          Layout.fraction slot.kind slot.flags width (measure slot.precision) x
        else Format.integer slot.kind slot.flags width (measure slot.precision) (wholeOf x)) ++ rest

def numberText (format : Bytes) (x : Float) : Bytes :=
  if isWhole x then bytesOf (toString (wholeOf x)) else formatted format x

namespace Value

def toNumber : Value → Float
  | .unset => 0.0
  | .number x => x
  | .text bs => ((leading? bs).map (·.1)).getD 0.0
  | .given bs => ((leading? bs).map (·.1)).getD 0.0

def toText (format : Bytes) : Value → Bytes
  | .unset => []
  | .number x => numberText format x
  | .text bs => bs
  | .given bs => bs

def likeNumber? : Value → Option Float
  | .unset => some 0.0
  | .number x => some x
  | .text _ => none
  | .given bs => looksLike? bs

def isTrue : Value → Bool
  | .unset => false
  | .number x => x != 0.0
  | .text bs => !bs.isEmpty
  | .given bs =>
    match looksLike? bs with
    | some x => x != 0.0
    | none => !bs.isEmpty

def ofBool (b : Bool) : Value := .number (if b then 1.0 else 0.0)

def ofNat (n : Nat) : Value := .number (Float.ofNat n)

end Value

def orderTexts : Bytes → Bytes → Ordering
  | [], [] => .eq
  | [], _ => .lt
  | _, [] => .gt
  | a :: as, b :: bs => if a < b then .lt else if b < a then .gt else orderTexts as bs

def orderValues (format : Bytes) (a b : Value) : Ordering :=
  match a.likeNumber?, b.likeNumber? with
  | some x, some y => if x < y then .lt else if y < x then .gt else .eq
  | _, _ => orderTexts (a.toText format) (b.toText format)

namespace Layout

structure Filling where
  pieces : List Bytes
  values : List Value
  slots : Nat

def measure (f : Filling) : Option Format.Measure → Option (Option Int × Filling)
  | none => some (none, f)
  | some (.given n) => some (some n, f)
  | some .argument =>
    match f.values with
    | [] => none
    | v :: rest => some (some (wholeOf v.toNumber), { f with values := rest })

def filled (format : Bytes) (slot : Slot) (width : Int) (precision : Option Nat) (v : Value) :
    Bytes :=
  if slot.kind = 0x63 then
    let first (bs : Bytes) : UInt8 := bs.headD 0
    let ofNumber (x : Float) : UInt8 := UInt8.ofNat (wholeOf x % 256).toNat
    let b := match v with
      | .number x => ofNumber x
      | .given bs =>
        match looksLike? bs with
        | some x => ofNumber x
        | none => first bs
      | .text bs => first bs
      | .unset => 0
    Format.padded slot.flags width [b]
  else if slot.kind = 0x73 then
    let bs := v.toText format
    Format.padded slot.flags width (match precision with
      | some n => bs.take n
      | none => bs)
  else if (bytesOf "eEfFgG").contains slot.kind then
    fraction slot.kind slot.flags width precision v.toNumber
  else
    let x := v.toNumber
    let n : Int := if (bytesOf "ouxX").contains slot.kind ∧ largestWhole ≤ x then
        (x.toUInt64.toNat : Int)
      else wholeOf x
    Format.integer slot.kind slot.flags width precision n

def fill (numbers : Bytes) : Nat → Bytes → Filling → Bytes × Option Fault
  | 0, _, f => (f.pieces.reverse.flatten, none)
  | fuel + 1, bs, f =>
    let done (fault : Option Fault) : Bytes × Option Fault := (f.pieces.reverse.flatten, fault)
    match bs with
    | [] => done none
    | 0x25 :: 0x25 :: rest => fill numbers fuel rest { f with pieces := [0x25] :: f.pieces }
    | 0x25 :: rest =>
      match slot? rest with
      | none => done (some (if f.values.isEmpty then .tooFew else .improper (f.slots + 1)))
      | some (slot, rest) =>
        match measure f slot.width with
        | none => done (some .tooFew)
        | some (width, f) =>
          match measure f slot.precision with
          | none => done (some .tooFew)
          | some (precision, f) =>
            match f.values with
            | [] => (f.pieces.reverse.flatten, some .tooFew)
            | v :: values =>
              let precision : Option Nat := precision.bind fun n =>
                if n < 0 then none else some n.toNat
              fill numbers fuel rest
                ⟨filled numbers slot (width.getD 0) precision v :: f.pieces, values, f.slots + 1⟩
    | bs =>
      let plain := bs.takeWhile (· ≠ 0x25)
      fill numbers fuel (bs.drop plain.length) { f with pieces := plain :: f.pieces }

end Layout

def layOut (numbers format : Bytes) (values : List Value) : Bytes × Option Layout.Fault :=
  Layout.fill numbers (format.length + 1) format ⟨[], values, 0⟩

end CallChart.Shell.Record
