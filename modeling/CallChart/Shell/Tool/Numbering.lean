import CallChart.Shell.Format
import CallChart.Shell.Regex
import CallChart.Shell.Tool.Amount
import CallChart.Shell.Tool.Copy
import CallChart.Shell.Tool.Naming

namespace CallChart.Shell.Tool

open CallChart.Shell.Action

namespace Numbering

inductive Style where
  | all
  | full
  | none
  | matching (r : Regex)

inductive Part where
  | head
  | body
  | foot
  deriving DecidableEq

def Style.read (w : Bytes) : Except (Option String) Style :=
  match w with
  | [0x61] => .ok .all
  | [0x74] => .ok .full
  | [0x6E] => .ok .none
  | 0x70 :: pattern =>
    match Regex.read .editor pattern with
    | .ok e => .ok (.matching e.regex)
    | .error message => .error (some message)
  | _ => .error Option.none

structure Wanted where
  style : Part → Style
  delimiter : Bytes
  start : Int
  step : Int
  joined : Nat
  format : Bytes
  width : Nat
  separator : Bytes
  restarts : Bool

structure State where
  part : Part
  number : Int
  blanks : Nat

def Wanted.lead (w : Wanted) (n : Int) : Bytes :=
  let digits := toString n.natAbs
  let sign := if n < 0 then "-" else ""
  let room := w.width - digits.length - sign.length
  let fill (c : Char) : String := String.ofList (List.replicate room c)
  let text := if w.format = bytesOf "ln" then sign ++ digits ++ fill ' '
    else if w.format = bytesOf "rz" then sign ++ fill '0' ++ digits
    else fill ' ' ++ sign ++ digits
  bytesOf text ++ w.separator

def Wanted.part? (w : Wanted) (line : Bytes) : Option Part :=
  if w.delimiter.isEmpty ∨ line.isEmpty then Option.none
  else if line = w.delimiter ++ w.delimiter ++ w.delimiter then some .head
  else if line = w.delimiter ++ w.delimiter then some .body
  else if line = w.delimiter then some .foot
  else Option.none

def Wanted.line (w : Wanted) (s : State) (line : Bytes) : State × Bytes :=
  match w.part? line with
  | some part =>
    ({ s with part := part, number := if w.restarts then w.start else s.number }, [0x0A])
  | Option.none =>
    let plain := List.replicate (w.width + w.separator.length) 0x20 ++ line ++ [0x0A]
    let numbered : State × Bytes :=
      ({ s with number := s.number + w.step, blanks := 0 }, w.lead s.number ++ line ++ [0x0A])
    match w.style s.part with
    | .all =>
      if 1 < w.joined ∧ line.isEmpty ∧ s.blanks + 1 ≠ w.joined then
        ({ s with blanks := s.blanks + 1 }, plain)
      else numbered
    | .full => if line.isEmpty then (s, plain) else numbered
    | .none => (s, plain)
    | .matching r =>
      if (r.find? ⟨line.toArray, false, false⟩ 0).isSome then numbered else (s, plain)

def Wanted.lines (w : Wanted) (bytes : Bytes) (s : State) : State × Bytes :=
  let (s, out) := (linesOf bytes).foldl (fun (t : State × List Bytes) line =>
    let (s, bs) := w.line t.1 line
    (s, bs :: t.2)) (s, [])
  (s, out.reverse.flatten)

def integer? (w : Bytes) : Option Int :=
  let (negative, ds) := Amount.sign w
  (digits? ds).map fun n => if negative then -(n : Int) else n

end Numbering

def nl : Tool := withOptions ⟨"p", "bdfhilnsvw", [("body-numbering=", 'b'),
    ("footer-numbering=", 'f'), ("header-numbering=", 'h'), ("join-blank-lines=", 'l'),
    ("line-increment=", 'i'), ("no-renumber", 'p'), ("number-format=", 'n'),
    ("number-separator=", 's'), ("number-width=", 'w'), ("section-delimiter=", 'd'),
    ("starting-line-number=", 'v')]⟩ 1 fun name g => do
  let style (c : Char) (usual : Numbering.Style) : Except (Option String) Numbering.Style :=
    (g.value? c).elim (.ok usual) Numbering.Style.read
  let wrongStyles := [('h', "header"), ('b', "body"), ('f', "footer")].filterMap fun (c, part) =>
    match style c .none with
    | .error message => some ((g.value? c).getD [], part, message)
    | .ok _ => none
  let formats := ["ln", "rn", "rz"].map bytesOf
  let format := (g.value? 'n').getD (bytesOf "rn")
  let number (c : Char) (least : Int) : Option Int :=
    match g.value? c with
    | none => some 0
    | some w => (Numbering.integer? w).filter (least ≤ ·)
  let wrongNumber := [('v', "starting line number", -(countLimit : Int)),
    ('i', "line number increment", -(countLimit : Int)), ('l', "line number of blank lines", 1),
    ('w', "line number field width", 1)].find?
    fun ((c, _, least) : Char × String × Int) => (number c least).isNone
  match wrongNumber, wrongStyles with
  | some (c, what, _), _ =>
    let range : Bool := ((Numbering.integer? ((g.value? c).getD [])).isSome : Bool)
    say name ("invalid " ++ what ++ ": " ++ quote ((g.value? c).getD []) ++
      if range then ": Numerical result out of range" else "")
    pure 1
  | none, (_, _, some message) :: _ =>
    say name message
    pure 1
  | none, (w, part, none) :: _ =>
    say name ("invalid " ++ part ++ " numbering style: " ++ quote w)
    sayTry name
    pure 1
  | none, [] =>
    if !formats.contains format then
      say name ("invalid line numbering format: " ++ quote format)
      sayTry name
      pure 1
    else
      let styleOf (c : Char) (usual : Numbering.Style) : Numbering.Style :=
        (style c usual).toOption.getD usual
      let value (c : Char) (usual : Int) : Int :=
        (((g.value? c).bind Numbering.integer?)).getD usual
      let delimiter := match g.value? 'd' with
        | some [b] => [b, 0x3A]
        | some w => w
        | none => [0x5C, 0x3A]
      let w : Numbering.Wanted := ⟨fun
        | .head => styleOf 'h' .none
        | .body => styleOf 'b' .full
        | .foot => styleOf 'f' .none, delimiter, value 'v' 1, value 'i' 1, (value 'l' 1).toNat,
        format, (value 'w' 6).toNat, (g.value? 's').getD [0x09], !g.has 'p'⟩
      let r ← readAll name (sources g)
      filtered r (w.lines r.bytes ⟨.body, w.start, 0⟩).2

namespace Counting

/-- A number as it was written: its value, how wide it is, and how many digits it has behind the
point, if that can be told. -/
structure Operand where
  value : Amount
  width : Int
  places : Option Nat

def Operand.ofText? (w : Bytes) : Option Operand := do
  let value ← Amount.ofText? w
  let body := w.dropWhile fun b => ByteClass.isSpace b || b == 0x2B
  let has (b : UInt8) : Bool := body.contains b
  let bare : Option Nat := if !has 0x2E ∧ !has 0x70 then some 0 else none
  match value.quotient? with
  | none => pure ⟨value, 0, bare⟩
  | some _ =>
    if has 0x78 ∨ has 0x58 then pure ⟨value, 0, bare⟩
    else
      let isMark (b : UInt8) : Bool := b == 0x65 || b == 0x45
      let mantissa := body.takeWhile (!isMark ·)
      let point := mantissa.contains 0x2E
      let whole := mantissa.takeWhile (· ≠ 0x2E)
      let fraction := (mantissa.drop whole.length).drop 1
      let width : Int := mantissa.length + (if !point then 0
        else if fraction.isEmpty then -1
        else if (whole.getLast?.map ByteClass.isDigit).getD false then 0 else 1)
      if mantissa.length = body.length then pure ⟨value, width, some fraction.length⟩
      else
        let (e, _) := Amount.exponent 0x65 (body.drop mantissa.length)
        let places : Nat := if e < 0 then fraction.length + e.natAbs
          else fraction.length - min fraction.length e.natAbs
        let width := if e < 0 then
            width + (if !point ∨ fraction.isEmpty then 1 else 0) + e.natAbs
          else
            width - (if point ∧ places = 0 ∧ !fraction.isEmpty then 1 else 0) +
              (e.natAbs - min fraction.length e.natAbs : Nat)
        pure ⟨value, width, some places⟩

structure Layout where
  before : Bytes
  flags : Bytes
  width : Nat
  precision : Option Nat
  kind : UInt8
  behind : Bytes

def Layout.show (l : Layout) (a : Amount) : Bytes :=
  let named (negative : Bool) (word : String) : Bytes :=
    Format.padded l.flags l.width (Format.signBytes l.flags negative ++ bytesOf
      (if l.kind < 0x61 then String.ofList (word.toList.map Char.toUpper) else word))
  let text := match a with
    | .nan => named false "nan"
    | .infinite negative => named negative "inf"
    | .exact negative num den =>
      Format.paddedNumber l.flags l.width true (Format.signBytes l.flags negative)
        (Format.magnitudeText l.kind (l.flags.contains 0x23) l.precision num den)
  l.before ++ text ++ l.behind

def literal : Nat → Bytes → Bytes × Bytes
  | 0, bs => ([], bs)
  | _, [] => ([], [])
  | fuel + 1, 0x25 :: 0x25 :: rest =>
    let (text, rest) := literal fuel rest
    (0x25 :: text, rest)
  | _, 0x25 :: rest => ([], 0x25 :: rest)
  | fuel + 1, b :: rest =>
    let (text, rest) := literal fuel rest
    (b :: text, rest)

def Layout.read (w : Bytes) : Except String Layout :=
  let (before, rest) := literal (w.length + 1) w
  match rest with
  | [] => .error ("format " ++ quote w ++ " has no % directive")
  | _ :: rest =>
    let flags := rest.takeWhile (bytesOf "-+#0 '").contains
    let rest := rest.drop flags.length
    let width := rest.takeWhile ByteClass.isDigit
    let rest := rest.drop width.length
    let (precision, rest) := match rest with
      | 0x2E :: more =>
        let ds := more.takeWhile ByteClass.isDigit
        (some (Amount.number 10 ds), more.drop ds.length)
      | rest => (none, rest)
    let rest := if rest.head? = some 0x4C then rest.drop 1 else rest
    match rest with
    | [] => .error ("format " ++ quote w ++ " ends in %")
    | kind :: rest =>
      if !(bytesOf "efgaEFGA").contains kind then
        .error ("format " ++ quote w ++ " has unknown %" ++ textOf [kind] ++ " directive")
      else
        let (behind, rest) := literal (rest.length + 1) rest
        if !rest.isEmpty then .error ("format " ++ quote w ++ " has too many % directives")
        else .ok ⟨before, flags.filter (· ≠ 0x27), Amount.number 10 width, precision, kind, behind⟩

def Layout.usual (first step last : Operand) (equal : Bool) : Layout :=
  match first.places, step.places, last.places with
  | some p, some q, some r =>
    let places := max p q
    let firstWidth := first.width + (places - p : Nat) + if p = 0 ∧ places ≠ 0 then 1 else 0
    let lastWidth := last.width + ((places : Int) - r) + (if r ≠ 0 ∧ places = 0 then -1 else 0) +
      if r = 0 ∧ places ≠ 0 then 1 else 0
    if equal then ⟨[], [0x30], (max firstWidth lastWidth).toNat, some places, 0x66, []⟩
    else ⟨[], [], 0, some places, 0x66, []⟩
  | _, _, _ => ⟨[], [], 0, none, 0x67, []⟩

def advance (first step : Int × Nat) (i : Nat) : Amount :=
  let num := first.1 * step.2 + i * step.1 * first.2
  .exact (num < 0) num.natAbs (first.2 * step.2)

def countTo (first step : Int × Nat) (last : Amount) : Option Nat :=
  match last.quotient? with
  | none =>
    match last with
    | .infinite negative => if (step.1 < 0) = negative then none else some 0
    | _ => some 0
  | some (m, d) =>
    let distance := m * first.2 - first.1 * d
    let (distance, pace) := if step.1 < 0 then (-distance, -step.1) else (distance, step.1)
    if distance < 0 then some 0
    else some (((distance * step.2) / (d * first.2 * pace)).toNat + 1)

end Counting

def seq : Tool := fun name words => do
  let isNumber (w : Bytes) : Bool :=
    match w with
    | 0x2D :: b :: _ => ByteClass.isDigit b || b == 0x2E
    | _ => false
  let known : Known := ⟨"w", "fs", [("equal-width", 'w'), ("format=", 'f'), ("separator=", 's')]⟩
  /- Options end at the first number, negative ones too. -/
  let rec split : Bool → List Bytes → List Bytes
    | _, [] => []
    | true, w :: rest => w :: split false rest
    | false, w :: rest =>
      if isNumber w then bytesOf "--" :: w :: rest
      else if w = bytesOf "--" then w :: rest
      else if w.head? ≠ some 0x2D ∨ w = [0x2D] then w :: rest
      else w :: split ([bytesOf "-f", bytesOf "-s", bytesOf "--format",
        bytesOf "--separator"].contains w) rest
  withLeadingOptions known 1 (fun name g => do
    match g.operands with
    | [] => misuse name "missing operand" 1
    | _ :: _ :: _ :: w :: _ => misuse name ("extra operand " ++ quoted w) 1
    | operands =>
      let layout := (g.value? 'f').map Counting.Layout.read
      match layout, operands.find? fun w => (Counting.Operand.ofText? w).isNone with
      | some (.error message), _ =>
        say name message
        pure 1
      | _, some w =>
        misuse name ("invalid floating point argument: " ++ quote w) 1
      | layout, none =>
        match operands.find? fun w => Amount.ofText? w = some .nan with
        | some w => misuse name ("invalid " ++ quote (bytesOf "not-a-number") ++ " argument: " ++
            quote w) 1
        | none =>
          let one : Counting.Operand := ⟨.exact false 1 1, 1, some 0⟩
          let numbers := operands.filterMap Counting.Operand.ofText?
          let (first, step, last) := match numbers with
            | [a] => (one, one, a)
            | [a, b] => (a, one, b)
            | [a, b, c] => (a, b, c)
            | _ => (one, one, one)
          let zero := (step.value.quotient?.map fun (m, _) => m == 0).getD false
          if zero then
            misuse name ("invalid Zero increment value: " ++ quote (operands.getD 1 [])) 1
          else if layout.isSome ∧ g.has 'w' then
            misuse name ("format string may not be specified" ++
              " when printing equal width strings") 1
          else
            let layout := (layout.bind (·.toOption)).getD (.usual first step last (g.has 'w'))
            let separator := (g.value? 's').getD [0x0A]
            match first.value.quotient?, step.value.quotient? with
            | some a, some b =>
              let count := Counting.countTo a b last.value
              let shown (i : Nat) : Bytes := layout.show (Counting.advance a b i)
              let many := (endlessLength / ((shown 0).length + separator.length + 1)) + 1
              let texts := (List.range (count.getD many)).map shown
              /- A number just behind the last one still counts if it looks like that. -/
              let extra : List Bytes := match count with
                | none => []
                | some 0 => []
                | some n =>
                  let next := shown n
                  let body := (next.drop layout.before.length).take
                    (next.length - layout.before.length - layout.behind.length)
                  match Amount.ofText? body with
                  | some v =>
                    if v.compare last.value = .eq ∧ next ≠ shown (n - 1) then [next] else []
                  | none => []
              let all := texts ++ extra
              if !all.isEmpty then
                output (List.intercalate separator all ++
                  if count.isSome then [0x0A] else separator)
              if count.isSome then pure 0 else endless
            | _, _ =>
              output ((List.replicate 10000 (layout.show first.value ++ separator)).flatten)
              endless) name (split false words)

end CallChart.Shell.Tool
