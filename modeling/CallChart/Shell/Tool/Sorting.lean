import CallChart.Shell.Pattern
import CallChart.Shell.Tool.Amount
import CallChart.Shell.Tool.Count

namespace CallChart.Shell.Tool

open CallChart.Shell.Action

namespace Sorting

structure Manner where
  kinds : List Char
  dictionary : Bool
  printing : Bool
  folded : Bool
  reversed : Bool
  startBlanks : Bool
  endBlanks : Bool
  deriving DecidableEq, Repr

namespace Manner

def plain : Manner := ⟨[], false, false, false, false, false, false⟩

def add (m : Manner) (start stop : Bool) (c : Char) : Option Manner :=
  match c with
  | 'b' => some { m with
      startBlanks := m.startBlanks || start, endBlanks := m.endBlanks || stop }
  | 'd' => some { m with dictionary := true }
  | 'f' => some { m with folded := true }
  | 'i' => some { m with printing := true }
  | 'r' => some { m with reversed := true }
  | c => if ['g', 'h', 'M', 'n', 'R', 'V'].contains c then
      some { m with kinds := m.kinds ++ if m.kinds.contains c then [] else [c] } else none

def clash? (m : Manner) : Option String :=
  let ignores := m.dictionary || m.printing
  let kinds := m.kinds.filter fun c => c ≠ 'V' ∧ c ≠ 'R'
  let others : Bool := m.kinds.contains 'V' ∨ m.kinds.contains 'R' ∨ ignores
  let groups := kinds.length + if others then 1 else 0
  if groups ≤ 1 then none
  else
    let letters := [('d', m.dictionary), ('f', m.folded), ('g', m.kinds.contains 'g'),
      ('h', m.kinds.contains 'h'), ('i', m.printing && !m.dictionary),
      ('M', m.kinds.contains 'M'), ('n', m.kinds.contains 'n'), ('R', m.kinds.contains 'R'),
      ('V', m.kinds.contains 'V')]
    some (String.ofList ((letters.filter (·.2)).map (·.1)))

def decimal (bs : Bytes) : Bool × Bytes × Bytes × Bytes :=
  let bs := bs.dropWhile ByteClass.isBlank
  let (negative, bs) := match bs with
    | 0x2D :: rest => (true, rest)
    | bs => (false, bs)
  let whole := bs.takeWhile ByteClass.isDigit
  let rest := bs.drop whole.length
  let fraction := match rest with
    | 0x2E :: more => more.takeWhile ByteClass.isDigit
    | _ => []
  (negative, whole, fraction, if fraction.isEmpty then rest else rest.drop (fraction.length + 1))

def compareDecimals (a b : Bytes) : Ordering :=
  let (m, whole, fraction, _) := decimal a
  let (n, whole', fraction', _) := decimal b
  let places := max fraction.length fraction'.length
  let value (negative : Bool) (whole fraction : Bytes) : Int :=
    let ds := whole ++ fraction ++ List.replicate (places - fraction.length) 0x30
    let v := Amount.number 10 ds
    if negative then -(v : Int) else v
  compare (value m whole fraction) (value n whole' fraction')

def unitOf (bs : Bytes) : Int :=
  let (negative, whole, fraction, rest) := decimal bs
  if (whole ++ fraction).all (· = 0x30) then 0
  else
    let order : Int := match rest.head? with
      | some b =>
        if b = 0x6B then 1
        else ((bytesOf "KMGTPEZY").findIdx? (· = b)).elim 0 fun i => (i : Int) + 1
      | none => 0
    if negative then -order else order

def months : List String :=
  ["JAN", "FEB", "MAR", "APR", "MAY", "JUN", "JUL", "AUG", "SEP", "OCT", "NOV", "DEC"]

def monthOf (bs : Bytes) : Nat :=
  let start := ((bs.dropWhile ByteClass.isBlank).take 3).map Order.upperByte
  (months.findIdx? fun m => bytesOf m == start).elim 0 (· + 1)

def compareAmounts (a b : Bytes) : Ordering :=
  match Amount.read? a, Amount.read? b with
  | none, none => .eq
  | none, some _ => .lt
  | some _, none => .gt
  | some (x, _), some (y, _) => x.compare y

def compare (m : Manner) (a b : Bytes) : Ordering :=
  let keep (c : UInt8) : Bool :=
    if m.dictionary then ByteClass.isBlank c || c == 0x0A || ByteClass.isAlnum c
    else !m.printing || isPrintable c
  let prepared (bs : Bytes) : Bytes :=
    let bs := bs.filter keep
    if m.folded then bs.map Order.upperByte else bs
  let a := prepared a
  let b := prepared b
  let has (c : Char) : Bool := m.kinds.contains c
  let order :=
    if has 'n' then compareDecimals a b
    else if has 'g' then compareAmounts a b
    else if has 'h' then (Ord.compare (unitOf a) (unitOf b)).then (compareDecimals a b)
    else if has 'M' then Ord.compare (monthOf a) (monthOf b)
    else if has 'V' then Order.compareVersions a b
    else Order.compareBytes a b
  if m.reversed then order.swap else order

end Manner

/-- A part of lines, which begins in a field at a byte and ends in a field at a byte. Both fields
are counted from zero, and the whole line has no fields to skip. -/
structure Key where
  startField : Option Nat
  startByte : Nat
  endField : Option Nat
  endByte : Nat
  manner : Manner

def skipField (separator : Option UInt8) (whole : Bool) (bs : Bytes) : Bytes :=
  match separator with
  | some s =>
    let rest := bs.dropWhile (· ≠ s)
    if whole then rest.drop 1 else rest
  | none =>
    let blank (b : UInt8) : Bool := ByteClass.isBlank b || b == 0x0A
    (bs.dropWhile blank).dropWhile (!blank ·)

def skipFields (separator : Option UInt8) (whole' : Bool) : Nat → Bytes → Bytes
  | 0, bs => bs
  | n + 1, bs =>
    if bs.isEmpty then []
    else skipFields separator whole' n (skipField separator (n ≠ 0 || whole') bs)

def skipBlanks (bs : Bytes) : Bytes := bs.dropWhile fun b => ByteClass.isBlank b || b == 0x0A

def Key.textIn (k : Key) (separator : Option UInt8) (line : Bytes) : Bytes :=
  let start := match k.startField with
    | some n => skipFields separator true n line
    | none => line
  let start := if k.manner.startBlanks then skipBlanks start else start
  let start := start.drop k.startByte
  let stop := match k.endField with
    | none => []
    | some n =>
      let behind := skipFields separator (k.endByte ≠ 0) (if k.endByte = 0 then n + 1 else n) line
      if k.endByte = 0 then behind
      else (if k.manner.endBlanks then skipBlanks behind else behind).drop k.endByte
  start.take (start.length - stop.length)

def leadingCount (what : String) (bs : Bytes) : Except String (Nat × Bytes) :=
  let ds := bs.takeWhile ByteClass.isDigit
  if ds.isEmpty then .error (what ++ ": invalid count at start of " ++ quote bs)
  else .ok (Amount.number 10 ds, bs.drop ds.length)

def letters (start stop : Bool) : Nat → Manner → Bytes → Manner × Bytes
  | 0, m, bs => (m, bs)
  | _, m, [] => (m, [])
  | fuel + 1, m, b :: rest =>
    match m.add start stop (Char.ofNat b.toNat) with
    | some m => letters start stop fuel m rest
    | none => (m, b :: rest)

def readKey (bs : Bytes) : Except String Key := do
  let wrong {α : Type} (message : String) : Except String α :=
    .error (message ++ ": invalid field specification " ++ quote bs)
  let (field, rest) ← leadingCount "invalid number at field start" bs
  if field = 0 then wrong "field number is zero"
  let (byte, rest) ← match rest with
    | 0x2E :: more => leadingCount "invalid number after '.'" more
    | rest => pure (1, rest)
  if byte = 0 then wrong "character offset is zero"
  let (manner, rest) := letters true false (rest.length + 1) .plain rest
  let first : Key := ⟨if field = 1 ∧ byte = 1 then none else some (field - 1), byte - 1, none, 0,
    manner⟩
  match rest with
  | [] => pure first
  | 0x2C :: more =>
    let (field, rest) ← leadingCount "invalid number after ','" more
    if field = 0 then wrong "field number is zero"
    let (byte, rest) ← match rest with
      | 0x2E :: more => leadingCount "invalid number after '.'" more
      | rest => pure (0, rest)
    let (manner, rest) := letters false true (rest.length + 1) manner rest
    if !rest.isEmpty then wrong "stray character in field spec"
    pure { first with endField := some (field - 1), endByte := byte, manner := manner }
  | _ => wrong "stray character in field spec"

structure Rule where
  keys : List Key
  separator : Option UInt8
  stable : Bool
  reversed : Bool

def Rule.compare (r : Rule) (a b : Bytes) : Ordering :=
  let byKeys := r.keys.foldl (fun (o : Ordering) k =>
    if o = .eq then k.manner.compare (k.textIn r.separator a) (k.textIn r.separator b) else o) .eq
  if byKeys ≠ .eq ∨ (r.stable ∧ !r.keys.isEmpty) then byKeys
  else
    let order := Order.compareBytes a b
    if r.reversed then order.swap else order

def Rule.places (r : Rule) (a b : Bytes) : Bool := r.compare a b != .gt

def distinct (same : Bytes → Bytes → Bool) (lines : List Bytes) : List Bytes :=
  (lines.foldl (fun (kept : List Bytes) line =>
    match kept with
    | before :: _ => if same before line then kept else line :: kept
    | [] => [line]) []).reverse

def disorder? (wrong : Bytes → Bytes → Bool) : Nat → List Bytes → Option (Nat × Bytes)
  | n, a :: b :: rest => if wrong a b then some (n + 1, b) else disorder? wrong (n + 1) (b :: rest)
  | _, _ => none

def known : Known := ⟨"bcCdfghimMnrRsuVz", "koStTy", [("batch-size=", '\x02'),
  ("buffer-size=", 'S'), ("check?", 'c'), ("compress-program=", '\x03'), ("debug", '\x04'),
  ("dictionary-order", 'd'), ("field-separator=", 't'), ("files0-from=", '\x05'),
  ("general-numeric-sort", 'g'), ("human-numeric-sort", 'h'), ("ignore-case", 'f'),
  ("ignore-leading-blanks", 'b'), ("ignore-nonprinting", 'i'), ("key=", 'k'), ("merge", 'm'),
  ("month-sort", 'M'), ("numeric-sort", 'n'), ("output=", 'o'), ("parallel=", '\x06'),
  ("random-sort", 'R'), ("random-source=", '\x07'), ("reverse", 'r'), ("sort=", '\x08'),
  ("stable", 's'), ("temporary-directory=", 'T'), ("unique", 'u'), ("version-sort", 'V'),
  ("zero-terminated", 'z')]⟩

def kindWords : List (String × Char) :=
  [("general-numeric", 'g'), ("human-numeric", 'h'), ("month", 'M'), ("numeric", 'n'),
    ("random", 'R'), ("version", 'V')]

def separatorOf (w : Bytes) : Except String UInt8 :=
  match w with
  | [] => .error "empty tab"
  | [b] => .ok b
  | [0x5C, 0x30] => .ok 0
  | w => .error ("multi-character tab " ++ quote w)

def oneSeparator (ws : List Bytes) : Except String (Option UInt8) := do
  let all ← ws.mapM separatorOf
  match all with
  | [] => pure none
  | b :: rest => if rest.all (· = b) then pure (some b) else throw "incompatible tabs"

def ruleOf (g : Given) : Except String Rule := do
  let separator ← oneSeparator (g.values 't')
  let letterOf (o : Char × Bytes) : Option Char :=
    if o.1 = '\x08' then (choice? (kindWords.map (·.1)) o.2).bind (fun w => kindWords.lookup w)
    else some o.1
  let whole := (g.options.filterMap letterOf).foldl (fun m c => (m.add true true c).getD m) .plain
  let keys ← (g.values 'k').mapM readKey
  let bare (m : Manner) : Bool := { m with reversed := false } == Manner.plain
  let keys := keys.map fun k =>
    if k.manner == Manner.plain then { k with manner := whole } else k
  let keys := if keys.isEmpty ∧ !bare whole then [⟨none, 0, none, 0, whole⟩] else keys
  for k in keys do
    match k.manner.clash? with
    | some letters => throw ("options '-" ++ letters ++ "' are incompatible")
    | none => pure ()
  pure ⟨keys, separator, g.has 's' || g.has 'u', whole.reversed⟩

def stop {α : Type} (name message : String) : Action (Except Nat α) := do
  say name message
  pure (.error 2)

def load (name : String) (w : Bytes) : Action (Except Nat Bytes) := do
  let source ← if w = [0x2D] then
      match ← streamOf 0 with
      | some id => pure (.ok id)
      | none => pure (.error FileFault.badDescriptor)
    else openInput (textOf w)
  match source with
  | .error fault => stop name ((if w = [0x2D] then "read failed: " else "open failed: ") ++
      named w ++ ": " ++ fault.reason)
  | .ok id =>
    match (← getWorld).unreadable? id with
    | some fault => stop name ("read failed: " ++ named w ++ ": " ++ fault.reason)
    | none => pure (.ok (← readStream id))

def loadAll (name : String) : List Bytes → Action (Except Nat (List Bytes))
  | [] => pure (.ok [])
  | w :: rest => do
    match ← load name w with
    | .error status => pure (.error status)
    | .ok bytes =>
      match ← loadAll name rest with
      | .error status => pure (.error status)
      | .ok more => pure (.ok (bytes :: more))

def missing? (operands : List Bytes) : Action (Option (Bytes × FileFault)) :=
  operands.findSomeM? fun w => do
    if w = [0x2D] then pure none
    else
      match ← entryAt (textOf w) with
      | .error fault => pure (some (w, fault))
      | .ok (_, none) => pure (some (w, .notFound))
      | .ok (_, some _) => pure none

def order (name : String) (g : Given) (rule : Rule) (operands : List Bytes) : Action Nat := do
  let ending : UInt8 := if g.has 'z' then 0 else 0x0A
  match ← missing? operands with
  | some (w, fault) =>
    say name ("cannot read: " ++ named w ++ ": " ++ fault.reason)
    pure 2
  | none =>
    let target : Except (Bytes × FileFault) (Option (Bytes × Nat)) ← match g.value? 'o' with
      | none => pure (.ok none)
      | some w =>
        match ← openOutput (textOf w) .keep with
        | .ok id => pure (.ok (some (w, id)))
        | .error fault => pure (.error (w, fault))
    match target with
    | .error (w, fault) =>
      say name ("open failed: " ++ named w ++ ": " ++ fault.reason)
      pure 2
    | .ok target =>
      match ← loadAll name operands with
      | .error status => pure status
      | .ok inputs =>
        let lists := inputs.map (linesBy ending)
        let lines := if g.has 'm' then
            lists.foldl (fun merged lines => List.merge merged lines rule.places) []
          else lists.flatten.mergeSort rule.places
        let lines := if g.has 'u' then distinct (fun a b => rule.compare a b = .eq) lines
          else lines
        let bytes := unlinesBy ending lines
        match target with
        | none => output bytes
        | some (w, _) =>
          match ← openOutput (textOf w) .empty with
          | .ok id => let _ ← writeStream id bytes
          | .error _ => pure ()
        pure 0

def check (name : String) (g : Given) (rule : Rule) (quiet : Bool) (w : Bytes) : Action Nat := do
  let ending : UInt8 := if g.has 'z' then 0 else 0x0A
  match ← load name w with
  | .error status => pure status
  | .ok bytes =>
    let wrong (a b : Bytes) : Bool :=
      let o := rule.compare a b
      o == .gt || (g.has 'u' && o == .eq)
    match disorder? wrong 1 (linesBy ending bytes) with
    | none => pure 0
    | some (n, line) =>
      if !quiet then
        writeText 2 (name ++ ": " ++ textOf w ++ ":" ++ toString n ++ ": disorder: ")
        let _ ← write 2 (line ++ [ending])
      pure 1

end Sorting

def newKey? (w : Bytes) (next : Option Bytes) : Option (Bytes × Bool) :=
  let place (bs : Bytes) : Option (Nat × Option Nat × Bytes) :=
    match Sorting.leadingCount "" bs with
    | .error _ => none
    | .ok (field, 0x2E :: more) =>
      match Sorting.leadingCount "" more with
      | .ok (byte, rest) => some (field, some byte, rest)
      | .error _ => none
    | .ok (field, rest) => some (field, none, rest)
  let good (rest : Bytes) : Bool := rest.all fun b => (bytesOf "bdfghiMnrRV").contains b
  match w with
  | 0x2B :: body =>
    match place body with
    | none => none
    | some (field, byte, rest) =>
      if !good rest then none
      else
        let first := bytesOf (toString (field + 1) ++ "." ++ toString (byte.getD 0 + 1)) ++ rest
        match next with
        | some (0x2D :: d :: more) =>
          if !ByteClass.isDigit d then some (first, false)
          else
            match place (d :: more) with
            | some (field, byte, rest) =>
              if !good rest then some (first, false)
              else
                let stop := match byte with
                  | none => toString field
                  | some 0 => toString field
                  | some n => toString (field + 1) ++ "." ++ toString n
                some (first ++ 0x2C :: bytesOf stop ++ rest, true)
            | none => some (first, false)
        | _ => some (first, false)
  | _ => none

def withNewKeys : Nat → List Bytes → List Bytes
  | 0, ws => ws
  | _, [] => []
  | fuel + 1, w :: rest =>
    if w = bytesOf "--" then w :: rest
    else
      match newKey? w rest.head? with
      | some (key, both) =>
        bytesOf "-k" :: key :: withNewKeys fuel (if both then rest.drop 1 else rest)
      | none => w :: withNewKeys fuel rest

def sort : Tool := fun name words =>
  withOptions Sorting.known 2 (fun name g => do
    let modes := ["diagnose-first", "quiet", "silent"]
    let kinds := Sorting.kindWords.map (·.1)
    let wrongMode := (g.values 'c').find? fun w => !w.isEmpty && (choice? modes w).isNone
    let wrongKind := (g.values '\x08').find? fun w => (choice? kinds w).isNone
    match wrongMode, wrongKind, Sorting.ruleOf g with
    | some w, _, _ =>
      wrongWord name "--check" [["quiet", "silent"], ["diagnose-first"]] w 2
    | none, some w, _ => wrongChoice name "--sort" kinds w 2
    | none, none, .error message =>
      say name message
      pure 2
    | none, none, .ok rule =>
      let quietly := g.has 'C' || (g.values 'c').any fun w =>
        !w.isEmpty && choice? modes w != some "diagnose-first"
      let loudly := (g.values 'c').any fun w =>
        w.isEmpty || choice? modes w == some "diagnose-first"
      let outputs := (g.values 'o')
      let clash (letters : String) : Action Nat := do
        say name ("options '-" ++ letters ++ "' are incompatible")
        pure 2
      if outputs.any (· ≠ outputs.headD []) then
        say name "multiple output files specified"
        pure 2
      else if quietly ∧ loudly then clash "cC"
      else if quietly ∨ loudly then
        if g.has 'o' then clash (if loudly then "co" else "Co")
        else
          match g.operands with
          | _ :: w :: _ =>
            say name ("extra operand " ++ quoted w ++ " not allowed with -" ++
              if loudly then "c" else "C")
            pure 2
          | operands => Sorting.check name g rule quietly (operands.headD [0x2D])
      else
        match g.value? '\x05' with
        | none => Sorting.order name g rule (sources g)
        | some file =>
          match g.operands with
          | w :: _ =>
            say name ("extra operand " ++ quoted w)
            writeText 2 "file operands cannot be combined with --files0-from\n"
            sayTry name
            pure 2
          | [] =>
            match ← namesIn name file with
            | none => pure 2
            | some [] =>
              say name ("no input from " ++ quoted file)
              pure 2
            | some names => Sorting.order name g rule names) name
    (withNewKeys (words.length + 1) words)

end CallChart.Shell.Tool
