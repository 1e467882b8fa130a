import CallChart.Number.Machine
import CallChart.Shell.Tool.Columns

namespace CallChart.Shell.Tool.Rescaling

open CallChart.Shell.Action

inductive Scaling where
  | plain
  | auto
  | thousands
  | binary
  | marked
  deriving DecidableEq, Repr

namespace Scaling

def base : Scaling → Nat
  | .binary => 1024
  | .marked => 1024
  | _ => 1000

def words : List (String × Scaling) :=
  [("none", .plain), ("auto", .auto), ("si", .thousands), ("iec", .binary), ("iec-i", .marked)]

end Scaling

inductive Rounding where
  | up
  | down
  | fromZero
  | towardsZero
  | nearest
  deriving DecidableEq, Repr

def Rounding.words : List (String × Rounding) :=
  [("up", .up), ("down", .down), ("from-zero", .fromZero), ("towards-zero", .towardsZero),
    ("nearest", .nearest)]

inductive Tolerance where
  | abort
  | fail
  | warn
  | ignore
  deriving DecidableEq, Repr

def Tolerance.words : List (String × Tolerance) :=
  [("abort", .abort), ("fail", .fail), ("warn", .warn), ("ignore", .ignore)]

structure Settings where
  source : Scaling
  target : Scaling
  sourceUnit : Nat
  targetUnit : Nat
  rounding : Rounding
  tolerance : Tolerance
  padding : Option (Nat × Bool)
  fields : Option (List Range)
  delimiter : Option UInt8
  suffix : Option Bytes
  header : Nat
  grouping : Bool
  format : Option Bytes
  before : Bytes
  behind : Bytes
  zeros : Nat
  places : Option Nat
  ending : UInt8
  auditing : Bool

def Settings.usual : Settings :=
  ⟨.plain, .plain, 1, 1, .fromZero, .abort, none, none, none, none, 0, false, none, [], [], 0, none,
    0x0A, false⟩

inductive Flaw where
  | tooLarge
  | notNumber
  | forbidden
  | badSuffix
  | unmarked
  | trailing (rest : Bytes)
  deriving DecidableEq, Repr

def Flaw.message (text : Bytes) : Flaw → String
  | .tooLarge => "value too large to be converted: " ++ quote text
  | .notNumber => "invalid number: " ++ quote text
  | .forbidden => "rejecting suffix in input: " ++ quote text ++ " (consider using --from)"
  | .badSuffix => "invalid suffix in input: " ++ quote text
  | .unmarked => "missing 'i' suffix in input: " ++ quote text ++ " (e.g Ki/Mi/Gi)"
  | .trailing rest => "invalid suffix in input " ++ quote text ++ ": " ++ quote rest

def exactDigits : Nat := 18

def mostDigits : Nat := 27

def letters : List Char := ['K', 'M', 'G', 'T', 'P', 'E', 'Z', 'Y']

structure Number where
  value : Rat
  lossy : Bool
  places : Nat
  rest : Bytes

def digitRun (bs : Bytes) : Except Flaw Number :=
  let digits := bs.takeWhile ByteClass.isDigit
  let rest := bs.drop digits.length
  let counted := (digits.dropWhile (· = 0x30)).length
  if mostDigits < counted then .error .tooLarge
  else if digits.isEmpty ∧ rest.head? ≠ some 0x2E then .error .notNumber
  else
    let value := digits.foldl (fun (v : Rat) b =>
      Wide.add (Wide.mul v 10) ((b.toNat - 0x30 : Nat) : Rat)) 0
    .ok ⟨value, exactDigits < counted, digits.length, rest⟩

def decimal (bs : Bytes) : Except Flaw Number := do
  let negative := bs.head? = some 0x2D
  let whole ← digitRun (if negative then bs.drop 1 else bs)
  match whole.rest with
  | 0x2E :: more =>
    if more.head? = some 0x2D then
      let _ ← digitRun (more.drop 1)
      .error .notNumber
    else
      let part ← digitRun more
      let value := Wide.add whole.value (Wide.div part.value (Wide.power 10 part.places))
      pure ⟨if negative then -value else value, whole.lossy || part.lossy, part.places, part.rest⟩
  | rest => pure ⟨if negative then -whole.value else whole.value, whole.lossy, 0, rest⟩

def read (scaling : Scaling) (bs : Bytes) : Except Flaw Number := do
  let n ← decimal bs
  let (power, base, n) ← match n.rest with
    | [] => pure (0, scaling.base, n)
    | rest =>
      match rest.dropWhile ByteClass.isBlank with
      | [] => .error .badSuffix
      | b :: rest =>
        match letters.findIdx? fun c => c.toNat = b.toNat with
        | none => .error .badSuffix
        | some i =>
          if scaling = .plain then .error .forbidden
          else
            match decide (scaling = .auto), rest with
            | true, 0x69 :: rest => pure (i + 1, 1024, { n with places := 0, rest := rest })
            | _, rest => pure (i + 1, scaling.base, { n with places := 0, rest := rest })
  let rest ← match decide (scaling = .marked), n.rest with
    | true, 0x69 :: rest => pure rest
    | true, _ => .error .unmarked
    | false, rest => pure rest
  if !rest.isEmpty then .error (.trailing rest)
  else pure { n with value := Wide.mul n.value (Wide.power (base : Rat) power), rest := [] }

def shrunk (base : Rat) : Nat → Rat → Rat × Nat
  | 0, v => (v, 0)
  | fuel + 1, v =>
    if base ≤ Wide.abs v then
      let (v, n) := shrunk base fuel (Wide.div v base)
      (v, n + 1)
    else (v, 0)

def divisionLimit : Nat := 1000

def Rounding.whole (r : Rounding) (v : Rat) : Int :=
  match r with
  | .up => v.ceil
  | .down => v.floor
  | .fromZero => if v < 0 then v.floor else v.ceil
  | .towardsZero => Wide.truncate v
  | .nearest =>
    Wide.truncate (if v < 0 then Wide.sub v (mkRat 1 2) else Wide.add v (mkRat 1 2))

def Rounding.apply (r : Rounding) (v : Rat) : Rat :=
  let most : Rat := ((Nat.pow 2 63 - 1 : Nat) : Rat)
  let times : Rat := (Wide.truncate (Wide.div v most) : Rat)
  let rest := Wide.sub v (Wide.mul most times)
  Wide.add (Wide.mul most times) (r.whole rest : Rat)

def Rounding.places (r : Rounding) (places : Nat) (v : Rat) : Rat :=
  let unit := Wide.power 10 places
  Wide.div (r.apply (Wide.mul v unit)) unit

def written (zeros places : Nat) (v : Rat) : Bytes :=
  let digits := Format.fixed v.num.natAbs v.den places
  let sign : Bytes := if v < 0 then [0x2D] else []
  sign ++ List.replicate (zeros - (sign.length + digits.length)) 0x30 ++ digits

def Settings.text (s : Settings) (v : Rat) (places : Nat) : Bytes :=
  if s.target = .plain then written s.zeros places (s.rounding.places places v)
  else
    let base : Rat := (s.target.base : Rat)
    let (v, power) := shrunk base divisionLimit v
    let kept := match s.places with
      | some n => min (power * 3) n
      | none => if Wide.abs v < 10 then 1 else 0
    let v := s.rounding.places kept v
    let (v, power) := if base ≤ Wide.abs v then (Wide.div v base, power + 1) else (v, power)
    let pointed := v ≠ 0 ∧ Wide.abs v < 10 ∧ 0 < power
    let letter : Bytes := match power with
      | 0 => []
      | n + 1 => match letters[n]? with
        | some c => bytesOf c.toString
        | none => bytesOf "(error)"
    written s.zeros (s.places.getD (if pointed then 1 else 0)) v ++ letter ++
      if s.target = .marked ∧ 0 < power then [0x69] else []

def sketch (v : Rat) : String :=
  (if v < 0 then "-" else "") ++
    textOf (Format.magnitudeText 0x67 false none v.num.natAbs v.den)

def Settings.number (s : Settings) (v : Rat) (places : Nat) : Except String Bytes :=
  let places := s.places.getD places
  let size := (shrunk 10 divisionLimit v).2
  if s.target = .plain ∧ exactDigits < size + places then
    .error (if places = 0 then
        "value too large to be printed: '" ++ sketch v ++ "' (consider using --to)"
      else "value/precision too large to be printed: '" ++ sketch v ++ "/" ++ toString places ++
        "' (consider using --to)")
  else if mostDigits - 1 < size then
    .error ("value too large to be printed: '" ++ sketch v ++ "' (cannot handle values > 999Y)")
  else .ok (s.text v places ++ s.suffix.getD [])

def nextField (delimiter : Option UInt8) (line : Bytes) : Bytes × Bytes :=
  match delimiter with
  | some d => (line.takeWhile (· ≠ d), line.dropWhile (· ≠ d))
  | none =>
    let separates (b : UInt8) : Bool := ByteClass.isBlank b || b == 0x0A
    let blanks := line.takeWhile separates
    let rest := line.drop blanks.length
    let word := rest.takeWhile fun b => !separates b
    (blanks ++ word, rest.drop word.length)

inductive Standing where
  | good
  | bad
  | ended
  deriving DecidableEq, Repr

def Standing.and : Standing → Standing → Standing
  | .ended, _ => .ended
  | _, .ended => .ended
  | .bad, _ => .bad
  | .good, t => t

def refuse (name : String) (s : Settings) (message : String) (text : Bytes) : Action Standing := do
  if s.tolerance ≠ .ignore then say name message
  if s.tolerance = .abort then pure .ended
  else
    output text
    pure .bad

def field (name : String) (s : Settings) (text : Bytes) (index : Nat) : Action Standing := do
  let wanted := match s.fields with
    | none => index == 1
    | some ranges => ranges.any (·.holds index)
  if !wanted then
    output text
    pure .good
  else
    let trimmed := match s.suffix with
      | some suffix =>
        if suffix.length < text.length ∧ suffix.isSuffixOf text then
          text.take (text.length - suffix.length)
        else text
      | none => text
    let body := trimmed.dropWhile ByteClass.isBlank
    let padding := match s.padding with
      | some p => some p
      | none =>
        if s.delimiter.isNone ∧ (body.length < trimmed.length ∨ 1 < index) then
          some (trimmed.length, false)
        else none
    match read s.source body with
    | .error flaw => refuse name s (flaw.message body) trimmed
    | .ok n =>
      if n.lossy ∧ s.auditing then
        say name ("large input value " ++ quote body ++ ": possible precision loss")
      let value := if s.sourceUnit = 1 ∧ s.targetUnit = 1 then n.value
        else Wide.div (Wide.mul n.value (s.sourceUnit : Rat)) (s.targetUnit : Rat)
      match s.number value n.places with
      | .error message => refuse name s message trimmed
      | .ok bytes =>
        let (width, atLeft) := padding.getD (0, false)
        let blanks := List.replicate (width - bytes.length) 0x20
        output (s.before ++ (if atLeft then bytes ++ blanks else blanks ++ bytes) ++ s.behind)
        pure .good

def line (name : String) (s : Settings) : Nat → Nat → Bytes → Action Standing
  | 0, _, _ => pure .good
  | fuel + 1, index, bytes => do
    let (text, rest) := nextField s.delimiter bytes
    let standing ← field name s text index
    match decide (standing = .ended), rest with
    | false, _ :: rest =>
      output [s.delimiter.getD 0x20]
      pure (standing.and (← line name s fuel (index + 1) rest))
    | _, _ => pure standing

def lines (name : String) (s : Settings) : List (Bytes × Bool) → Action Standing
  | [] => pure .good
  | (bytes, ended) :: rest => do
    let text := bytes.takeWhile (· ≠ 0)
    let standing ← line name s (text.length + 1) 1 text
    if standing = .ended then pure .ended
    else
      if ended then output [s.ending]
      pure (standing.and (← lines name s rest))

def chosen {α : Type} (option : String) (choices : List (String × α)) (given : Bytes) :
    Except Refusal α :=
  match (choice? (choices.map (·.1)) given).bind fun c => choices.lookup c with
  | some v => .ok v
  | none => .error (.word option (choices.map (·.1)) given)

def unit (w : Bytes) : Except Refusal Nat :=
  let bare := match w.getLast? with
    | some 0x69 =>
      if 2 ≤ w.length ∧ !(w.dropLast.getLast?.map ByteClass.isDigit).getD true then w.dropLast
      else w ++ [0x42]
    | some b => if ByteClass.isDigit b then w else w ++ [0x42]
    | none => w
  match countOf "KMGTPEZY" bare with
  | .ok 0 => .error (.plain ("invalid unit size: " ++ quote w))
  | .ok n => .ok n
  | .error _ => .error (.plain ("invalid unit size: " ++ quote w))

def formatFlags (bs : Bytes) : Bool × Bool × Bytes :=
  let flags := bs.takeWhile fun b => b = 0x20 || b = 0x27 || b = 0x30
  (flags.contains 0x27, flags.contains 0x30, bs.drop flags.length)

/-- The text before the slot of a format: how many characters it has, a doubled percent sign
counting once, and what is behind the sign of the slot. -/
def formatStart : Bytes → Nat → Option (Nat × Bytes)
  | [], _ => none
  | 0x25 :: 0x25 :: rest, n => formatStart rest (n + 1)
  | 0x25 :: rest, n => some (n, rest)
  | _ :: rest, n => formatStart rest (n + 1)

def widthLimit : Nat := 9223372036854775807

def Settings.formatted (s : Settings) (format : Bytes) : Except Refusal Settings := do
  let refuse {α : Type} (message : String) : Except Refusal α := .error (.plain message)
  match formatStart format 0 with
  | none => refuse ("format " ++ quote format ++ " has no % directive")
  | some (before, rest) =>
    let (grouping, zeros, rest) := formatFlags rest
    let blanks := rest.takeWhile ByteClass.isSpace
    let (negative, signed) := Amount.sign (rest.drop blanks.length)
    let digits := signed.takeWhile ByteClass.isDigit
    let width := Amount.number 10 digits
    if widthLimit < width then refuse ("invalid format " ++ quote format ++ " (width overflow)")
    let rest := if digits.isEmpty then rest else signed.drop digits.length
    let s := { s with
      before := format.take before, grouping := s.grouping || grouping
      zeros := if zeros ∧ !negative ∧ width ≠ 0 then width else s.zeros
      padding := if width = 0 ∨ (zeros ∧ !negative) then s.padding else some (width, negative) }
    if rest.isEmpty then refuse ("format " ++ quote format ++ " ends in %")
    let (s, rest) ← match rest with
      | 0x2E :: more =>
        let digits := more.takeWhile ByteClass.isDigit
        let places := Amount.number 10 digits
        let bad : Bool := match more with
          | b :: _ => ByteClass.isBlank b || b == 0x2B
          | [] => false
        let (negative, body) := Amount.sign more
        let below := negative && 0 < Amount.number 10 (body.takeWhile ByteClass.isDigit)
        if bad ∨ below ∨ widthLimit < places then
          refuse ("invalid precision in format " ++ quote format)
        else pure ({ s with places := some places }, more.drop digits.length)
      | rest => pure (s, rest)
    match rest with
    | 0x66 :: behind =>
      if (formatStart behind 0).isSome then
        refuse ("format " ++ quote format ++ " has too many % directives")
      else pure { s with behind := behind }
    | _ => refuse ("invalid format " ++ quote format ++
        ", directive must be %[0]['][-][N][.][N]f")

def known : Known := ⟨"z", "d", [("from=", '\x02'), ("from-unit=", '\x03'), ("to=", '\x04'),
  ("to-unit=", '\x05'), ("round=", '\x06'), ("padding=", '\x07'), ("suffix=", '\x08'),
  ("grouping", '\x09'), ("delimiter=", 'd'), ("field=", '\x0b'), ("debug", '\x0c'),
  ("header?", '\x0e'), ("format=", '\x0f'), ("invalid=", '\x10'), ("zero-terminated", 'z')]⟩

def Settings.adopt (s : Settings) (o : Char × Bytes) : Except Refusal Settings := do
  let value := o.2
  match o.1 with
  | '\x02' => pure { s with source := ← chosen "--from" Scaling.words value }
  | '\x03' => pure { s with sourceUnit := ← unit value }
  | '\x04' =>
    let words := Scaling.words.filter (·.2 ≠ .auto)
    pure { s with target := ← chosen "--to" words value }
  | '\x05' => pure { s with targetUnit := ← unit value }
  | '\x06' => pure { s with rounding := ← chosen "--round" Rounding.words value }
  | '\x07' =>
    let (negative, digits) := Amount.sign (value.dropWhile ByteClass.isSpace)
    match digits? digits with
    | some n =>
      if n = 0 ∨ widthLimit < n then .error (.plain ("invalid padding value " ++ quote value))
      else pure { s with padding := some (n, negative) }
    | none => .error (.plain ("invalid padding value " ++ quote value))
  | '\x08' => pure { s with suffix := some value }
  | '\x09' => pure { s with grouping := true }
  | 'd' =>
    if 1 < value.length then .error (.plain "the delimiter must be a single character")
    else pure { s with delimiter := some (value.headD 0) }
  | '\x0b' =>
    if s.fields.isSome then .error (.plain "multiple field specifications")
    else if value = [0x2D] then pure { s with fields := some [⟨1, none⟩] }
    else
      match Range.read Range.fieldWords false value with
      | .ok ranges => pure { s with fields := some ranges }
      | .error message => .error (.usage message)
  | '\x0c' => pure { s with auditing := true }
  | '\x0e' =>
    if value.isEmpty then pure { s with header := 1 }
    else
      match countOf "" value with
      | .ok n =>
        if n = 0 then .error (.plain ("invalid header value " ++ quote value))
        else pure { s with header := n }
      | .error _ => .error (.plain ("invalid header value " ++ quote value))
  | '\x0f' => pure { s with format := some value }
  | '\x10' => pure { s with tolerance := ← chosen "--invalid" Tolerance.words value }
  | _ => pure { s with ending := 0 }

def Settings.ofOptions (options : List (Char × Bytes)) : Except Refusal Settings := do
  let s ← options.foldlM Settings.adopt Settings.usual
  if s.format.isSome ∧ s.grouping then
    .error (.plain "--grouping cannot be combined with --format")
  else
    let s ← match s.format with
      | some format => s.formatted format
      | none => pure s
    if s.grouping ∧ s.target ≠ .plain then
      .error (.plain "grouping cannot be combined with --to")
    else pure s

end Rescaling

open CallChart.Shell.Action

def numfmt : Tool := withOptions Rescaling.known 1 fun name g => do
  match Rescaling.Settings.ofOptions g.options with
  | .error refusal => refusal.tell name
  | .ok s =>
    let idle := s.source = .plain ∧ s.target = .plain ∧ !s.grouping ∧ s.padding.isNone ∧
      s.format.isNone
    if s.auditing ∧ idle then say name "no conversion option specified"
    if s.auditing ∧ s.grouping then say name "grouping has no effect in this locale"
    let (standing, ended) ←
      if !g.operands.isEmpty then
        if s.auditing ∧ s.header ≠ 0 then say name "--header ignored with command-line input"
        pure (← Rescaling.lines name s (g.operands.map fun w => (w, true)), true)
      else
        let r ← readAll name [[0x2D]]
        let whole := r.bytes.isEmpty ∨ r.bytes.getLast? = some s.ending
        let texts := linesBy s.ending r.bytes
        let marked := texts.zipIdx.map fun (text, i) => (text, whole || i + 1 ≠ texts.length)
        for (text, ended) in marked.take s.header do
          let shown := text.takeWhile (· ≠ 0)
          output (shown ++ if ended ∧ shown.length = text.length ∧ s.ending ≠ 0 then [s.ending]
            else [])
        pure (← Rescaling.lines name s (marked.drop s.header), r.ended)
    if standing = .ended then pure 2
    else
      if s.auditing ∧ standing = .bad then
        say name "failed to convert some of the input numbers"
      if !ended then endless
      else
        pure (if standing = .good ∨ s.tolerance = .warn ∨ s.tolerance = .ignore then 0 else 2)

end CallChart.Shell.Tool
