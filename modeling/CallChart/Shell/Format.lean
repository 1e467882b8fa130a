import CallChart.Number.Reading
import CallChart.Shell.Expansion

namespace CallChart.Shell.Format

def octal? (b : UInt8) : Option Nat :=
  if 0x30 ≤ b ∧ b ≤ 0x37 then some (b.toNat - 0x30) else none

def octals : Nat → Nat → Bytes → Nat × Bytes
  | 0, n, bs => (n, bs)
  | _, n, [] => (n, [])
  | k + 1, n, b :: rest =>
    match octal? b with
    | some d => octals k (n * 8 + d) rest
    | none => (n, b :: rest)

def escaped? (b : UInt8) : Option UInt8 :=
  [(0x61, 0x07), (0x62, 0x08), (0x65, 0x1B), (0x66, 0x0C), (0x6E, 0x0A), (0x72, 0x0D),
    (0x74, 0x09), (0x76, 0x0B), (0x5C, 0x5C)].lookup b

/-- A text with its escapes taken back, and whether it says that all output ends with it. `zero`
tells that a zero stands before the octal digits of a byte. -/
def unescape (zero : Bool) : Nat → Bytes → Bytes × Bool
  | 0, bs => (bs, false)
  | _, [] => ([], false)
  | fuel + 1, b :: rest =>
    if b ≠ 0x5C then add [b] (unescape zero fuel rest)
    else
      match rest with
      | [] => ([b], false)
      | c :: more =>
        if c = 0x63 ∧ zero then ([], true)
        else if c = 0x30 ∧ zero then
          let (n, more) := octals 3 0 more
          add [UInt8.ofNat n] (unescape zero fuel more)
        else
          match octal? c, escaped? c with
          | some _, _ =>
            let (n, more) := octals 3 0 rest
            add [UInt8.ofNat n] (unescape zero fuel more)
          | none, some e => add [e] (unescape zero fuel more)
          | none, none => add [b, c] (unescape zero fuel more)
where
  add (bs : Bytes) (rest : Bytes × Bool) : Bytes × Bool := (bs ++ rest.1, rest.2)

def echoed (words : List Bytes) : Bytes :=
  let newline := words.head? ≠ some [0x2D, 0x6E]
  let text := List.intercalate [0x20] (if newline then words else words.drop 1)
  let (text, ends) := unescape true (text.length + 1) text
  if ends ∨ !newline then text else text ++ [0x0A]

inductive Measure where
  | given (n : Nat)
  | argument
  deriving DecidableEq, Repr

inductive Directive where
  | text (bytes : Bytes)
  | slot (flags : Bytes) (width precision : Option Measure) (kind : UInt8)
  | unknown (text : Bytes)
  | unfinished
  deriving DecidableEq, Repr

def isDigit (b : UInt8) : Bool := 0x30 ≤ b && b ≤ 0x39

def readMeasure (bs : Bytes) : Option Measure × Bytes :=
  match bs with
  | 0x2A :: rest => (some .argument, rest)
  | bs =>
    let ds := bs.takeWhile isDigit
    (if ds.isEmpty then none
      else some (.given (ds.foldl (fun n b => n * 10 + (b.toNat - 0x30)) 0)), bs.drop ds.length)

def kinds : Bytes := bytesOf "bcsdiouxXeEfFgG"

def flagBytes : Bytes := bytesOf "#-+ 0"

def readSlot (bs : Bytes) : Directive × Bytes :=
  let flags := bs.takeWhile flagBytes.contains
  let (width, rest) := readMeasure (bs.drop flags.length)
  let (precision, rest) := match rest with
    | 0x2E :: more =>
      match readMeasure more with
      | (none, more) => (some (.given 0), more)
      | found => found
    | rest => (none, rest)
  match rest with
  | [] => (.unfinished, [])
  | kind :: more =>
    if kinds.contains kind then (.slot flags width precision kind, more)
    else (.unknown (0x25 :: bs.take (bs.length - more.length)), more)

def directives : Nat → Bytes → List Directive
  | 0, _ => []
  | _, [] => []
  | fuel + 1, b :: rest =>
    if b = 0x25 then
      match rest with
      | 0x25 :: more => .text [0x25] :: directives fuel more
      | rest =>
        let (d, more) := readSlot rest
        d :: directives fuel more
    else if b = 0x5C then
      match rest with
      | [] => [.text [b]]
      | c :: more =>
        match octal? c with
        | some _ =>
          let (n, more) := octals 3 0 rest
          .text [UInt8.ofNat n] :: directives fuel more
        | none =>
          .text (match escaped? c with
            | some e => [e]
            | none => [b, c]) :: directives fuel more
    else .text [b] :: directives fuel rest

inductive Fault where
  | missing
  | followed
  | range
  deriving DecidableEq, Repr

def Fault.message (text : Bytes) : Fault → String
  | .missing => textOf text ++ ": expected numeric value"
  | .followed => textOf text ++ ": not completely converted"
  | .range => textOf text ++ ": Numerical result out of range"

def wholeNumber (signed : Bool) (text : Bytes) : Int × Option Fault :=
  match text with
  | [] => (0, none)
  | q :: rest =>
    if q = 0x22 ∨ q = 0x27 then ((rest.headD 0).toNat, none)
    else
      let body := (textOf text).toList.dropWhile fun c => c = ' ' ∨ c = '\t' ∨ c = '\n'
      let (negative, digits) := match body with
        | '-' :: more => (true, more)
        | '+' :: more => (false, more)
        | more => (false, more)
      let (_, rest) := Arithmetic.readNumber digits
      let size := exact (digits.take (digits.length - rest.length))
      let n : Int := if negative then -size else size
      let low : Int := if signed then -Arithmetic.largest - 1 else -(2 * Arithmetic.largest + 1)
      let high : Int := if signed then Arithmetic.largest else 2 * Arithmetic.largest + 1
      if !(digits.headD ' ').isDigit then (0, some .missing)
      else
        (if high < n then high else if n < low then (if signed then low else high) else n,
          if !rest.isEmpty then some .followed
          else if high < n ∨ n < low then some .range else none)
where
  exact (cs : List Char) : Nat :=
    match cs with
    | '0' :: x :: rest =>
      if x = 'x' ∨ x = 'X' then inBase 16 rest else inBase 8 (x :: rest)
    | cs => inBase 10 cs
  inBase (base : Nat) (cs : List Char) : Nat :=
    cs.foldl (fun n c => n * base + Arithmetic.digitValue c) 0

def padded (flags : Bytes) (width : Int) (text : Bytes) : Bytes :=
  let blanks := List.replicate (width.natAbs - text.length) 0x20
  if width < 0 ∨ flags.contains 0x2D then text ++ blanks else blanks ++ text

def paddedNumber (flags : Bytes) (width : Int) (zeros : Bool) (sign digits : Bytes) : Bytes :=
  if zeros ∧ flags.contains 0x30 ∧ !flags.contains 0x2D ∧ 0 ≤ width then
    sign ++ List.replicate (width.natAbs - sign.length - digits.length) 0x30 ++ digits
  else padded flags width (sign ++ digits)

def signBytes (flags : Bytes) (negative : Bool) : Bytes :=
  if negative then [0x2D] else if flags.contains 0x2B then [0x2B]
  else if flags.contains 0x20 then [0x20] else []

def digitBytes (base : Nat) (upper : Bool) (least : Option Nat) (n : Nat) : Bytes :=
  let ds := bytesOf (String.ofList (Nat.toDigits base n))
  let ds := if upper then ds.map fun b => if 0x61 ≤ b then b - 0x20 else b else ds
  let ds := if least = some 0 ∧ n = 0 then [] else ds
  List.replicate (least.getD 1 - ds.length) 0x30 ++ ds

def integer (kind : UInt8) (flags : Bytes) (width : Int) (precision : Option Nat) (n : Int) :
    Bytes :=
  let plain := precision.isNone
  let unsigned := (n % Nat.pow 2 64).toNat
  let alternate := flags.contains 0x23
  if kind = 0x64 ∨ kind = 0x69 then
    paddedNumber flags width plain (signBytes flags (n < 0))
      (digitBytes 10 false precision n.natAbs)
  else if kind = 0x75 then
    paddedNumber flags width plain [] (digitBytes 10 false precision unsigned)
  else if kind = 0x6F then
    let ds := digitBytes 8 false precision unsigned
    paddedNumber flags width plain []
      (if alternate ∧ ds.head? ≠ some 0x30 then 0x30 :: ds else ds)
  else
    let mark : Bytes := if alternate ∧ unsigned ≠ 0 then [0x30, kind] else []
    paddedNumber flags width plain mark (digitBytes 16 (kind = 0x58) precision unsigned)

def rounded (num den : Nat) : Nat :=
  let q := num / den
  let r := 2 * (num % den)
  if den < r ∨ (r = den ∧ q % 2 = 1) then q + 1 else q

def decimalBytes (n : Nat) : Bytes := bytesOf (toString n)

def fixed (num den places : Nat) : Bytes :=
  let ds := digitBytes 10 false (some (places + 1)) (rounded (num * Nat.pow 10 places) den)
  let whole := ds.take (ds.length - places)
  if places = 0 then whole else whole ++ 0x2E :: ds.drop (ds.length - places)

def exponentOf (num den : Nat) : Int :=
  if den ≤ num then (Nat.toDigits 10 (num / den)).length - 1
  else
    match (List.range 400).find? fun k => den ≤ num * Nat.pow 10 k with
    | some k => -(k : Int)
    | none => 0

def scientific (num den places : Nat) : Nat × Int :=
  if num = 0 then (0, 0)
  else
    let e := exponentOf num den
    let shift : Int := places - e
    let n := if 0 ≤ shift then rounded (num * Nat.pow 10 shift.toNat) den
      else rounded num (den * Nat.pow 10 (-shift).toNat)
    if Nat.pow 10 (places + 1) ≤ n then (n / 10, e + 1) else (n, e)

def exponentBytes (mark : UInt8) (e : Int) : Bytes :=
  mark :: (if e < 0 then 0x2D else 0x2B) :: digitBytes 10 false (some 2) e.natAbs

def withoutZeros (bs : Bytes) : Bytes :=
  if bs.contains 0x2E then
    let bs := (bs.reverse.dropWhile (· = 0x30)).reverse
    if bs.getLast? = some 0x2E then bs.dropLast else bs
  else bs

def significand (places n : Nat) : Bytes :=
  let ds := digitBytes 10 false (some (places + 1)) n
  if places = 0 then ds else ds.take 1 ++ 0x2E :: ds.drop 1

def magnitudeText (kind : UInt8) (alternate : Bool) (precision : Option Nat) (num den : Nat) :
    Bytes :=
  let upper := kind < 0x61
  let mark : UInt8 := if upper then 0x45 else 0x65
  let places := precision.getD 6
  if kind = 0x66 ∨ kind = 0x46 then fixed num den places
  else if kind = 0x65 ∨ kind = 0x45 then
    let (n, e) := scientific num den places
    significand places n ++ exponentBytes mark e
  else
    let digits := max places 1
    let (n, e) := scientific num den (digits - 1)
    let trim (bs : Bytes) : Bytes := if alternate then bs else withoutZeros bs
    if e < -4 ∨ (digits : Int) ≤ e then
      trim (significand (digits - 1) n) ++ exponentBytes mark e
    else trim (fixed num den (digits - 1 - e).toNat)

def fraction (kind : UInt8) (flags : Bytes) (width : Int) (precision : Option Nat)
    (x : Binary64) : Bytes :=
  let named (negative : Bool) (name : String) : Bytes :=
    padded flags width (signBytes flags negative ++
      bytesOf (if kind < 0x61 then String.ofList (name.toList.map Char.toUpper) else name))
  match x with
  | .nan => named false "nan"
  | .infinite negative => named negative "inf"
  | .finite negative magnitude =>
    paddedNumber flags width true (signBytes flags negative)
      (magnitudeText kind (flags.contains 0x23) precision
        (Binary64.scaled magnitude.val) Binary64.unitsPerOne)

def fractional (text : Bytes) : Binary64 × Option Fault :=
  let s := textOf text
  if s = "" then (Binary64.zero, none)
  else
    match Binary64.ofText? (String.ofList (s.toList.dropWhile (· = ' '))) with
    | some x => (x, none)
    | none =>
      let cs := s.toList
      match (List.range cs.length).reverse.findSome? fun n =>
          Binary64.ofText? (String.ofList (cs.take n)) with
      | some x => (x, some .followed)
      | none => (Binary64.zero, some .missing)

structure Printed where
  arguments : List Bytes
  output : List Bytes
  complaints : List String
  status : Nat
  ended : Bool

namespace Printed

def put (p : Printed) (bytes : Bytes) : Printed := { p with output := bytes :: p.output }

def complain (p : Printed) (message : Option String) : Printed :=
  match message with
  | some m => { p with complaints := m :: p.complaints, status := 1 }
  | none => p

def next (p : Printed) : Option Bytes × Printed :=
  match p.arguments with
  | [] => (none, p)
  | a :: rest => (some a, { p with arguments := rest })

def measure (p : Printed) : Option Measure → Option Int × Printed
  | none => (none, p)
  | some (.given n) => (some n, p)
  | some .argument =>
    let (a, p) := p.next
    let (n, fault) := wholeNumber true (a.getD [])
    (some n, p.complain (fault.map (·.message (a.getD []))))

def stop (p : Printed) (message : String) : Printed :=
  { p with complaints := message :: p.complaints, status := 2, ended := true }

def fill (p : Printed) (d : Directive) : Printed :=
  if p.ended then p
  else
    match d with
    | .text bytes => p.put bytes
    | .unknown text => p.stop (textOf text ++ ": invalid directive")
    | .unfinished => p.stop "missing format character"
    | .slot flags width precision kind =>
      let (width, p) := p.measure width
      let (precision, p) := p.measure precision
      let width := width.getD 0
      let precision : Option Nat := match precision with
        | some n => if n < 0 then none else some n.toNat
        | none => none
      let (a, p) := p.next
      let cut (bytes : Bytes) : Bytes := match precision with
        | some n => bytes.take n
        | none => bytes
      if kind = 0x73 then p.put (padded flags width (cut (a.getD [])))
      else if kind = 0x63 then p.put (padded flags width [(a.getD []).headD 0])
      else if kind = 0x62 then
        let (text, ends) := unescape true ((a.getD []).length + 1) (a.getD [])
        { p.put (padded flags width (cut text)) with ended := ends }
      else if (bytesOf "eEfFgG").contains kind then
        let (x, fault) := fractional (a.getD [])
        (p.complain (fault.map (·.message (a.getD [])))).put (fraction kind flags width precision x)
      else
        let (n, fault) := wholeNumber (kind = 0x64 || kind = 0x69) (a.getD [])
        (p.complain (fault.map (·.message (a.getD [])))).put (integer kind flags width precision n)

def rounds (ds : List Directive) : Nat → Printed → Printed
  | 0, p => p
  | fuel + 1, p =>
    let q := ds.foldl fill p
    if q.ended ∨ q.arguments.isEmpty ∨ q.arguments.length = p.arguments.length then q
    else rounds ds fuel q

end Printed

def takesArguments (format : Bytes) : Bool :=
  (directives (format.length + 1) format).any fun d => match d with
    | .slot .. => true
    | _ => false

def print (format : Bytes) (arguments : List Bytes) : Bytes × List String × Nat :=
  let p := Printed.rounds (directives (format.length + 1) format) (arguments.length + 1)
    ⟨arguments, [], [], 0, false⟩
  (p.output.reverse.flatten, p.complaints.reverse, p.status)

end CallChart.Shell.Format
