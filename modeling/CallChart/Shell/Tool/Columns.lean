import CallChart.Shell.Format
import CallChart.Shell.Tool.Amount
import CallChart.Shell.Tool.Naming

namespace CallChart.Shell.Tool

open CallChart.Shell.Action

def splitBytes (separator : UInt8) (bs : Bytes) : List Bytes :=
  bs.foldr (fun b (parts : List Bytes) =>
    if b = separator then [] :: parts
    else
      match parts with
      | [] => [[b]]
      | part :: rest => (b :: part) :: rest) [[]]

structure Range where
  low : Nat
  high : Option Nat
  deriving DecidableEq, Repr

namespace Range

def holds (r : Range) (n : Nat) : Bool :=
  r.low ≤ n && match r.high with
    | some high => n ≤ high
    | none => true

structure State where
  low : Nat
  value : Nat
  hasLow : Bool
  hasHigh : Bool
  dash : Bool
  digits : Option Bytes

def fresh : State := ⟨1, 0, false, false, false, none⟩

structure Words where
  fromOne : String
  badRange : String
  badValue : String
  tooLarge : String
  missing : String

def fieldWords : Words :=
  ⟨"fields are numbered from 1", "invalid field range", "invalid field value ",
    "field number ", "missing list of fields"⟩

def byteWords : Words :=
  ⟨"byte/character positions are numbered from 1", "invalid byte or character range",
    "invalid byte/character position ", "byte/character offset ",
    "missing list of byte/character positions"⟩

def closed (words : Words) (s : State) : Except String Range :=
  if s.dash then
    if !s.hasLow ∧ !s.hasHigh then .error "invalid range with no endpoint: -"
    else if !s.hasHigh then .ok ⟨s.low, none⟩
    else if s.value < s.low then .error "invalid decreasing range"
    else .ok ⟨s.low, some s.value⟩
  else if s.value = 0 then .error words.fromOne
  else .ok ⟨s.value, some s.value⟩

def readFrom (words : Words) (s : State) : Bytes → Except String (List Range)
  | [] => (closed words s).map ([·])
  | b :: rest =>
    if b = 0x2D then
      if s.dash then .error words.badRange
      else if s.hasLow ∧ s.value = 0 then .error words.fromOne
      else readFrom words { s with
        dash := true, low := if s.hasLow then s.value else 1, value := 0, digits := none } rest
    else if b = 0x2C ∨ ByteClass.isBlank b then do
      let r ← closed words s
      let more ← readFrom words fresh rest
      pure (r :: more)
    else if ByteClass.isDigit b then
      let digits := s.digits.getD (b :: rest)
      let value := s.value * 10 + (b.toNat - 0x30)
      if countLimit ≤ value then
        .error (words.tooLarge ++ quote (digits.takeWhile ByteClass.isDigit) ++ " is too large")
      else readFrom words { s with
        value := value, digits := some digits, hasLow := s.hasLow || !s.dash
        hasHigh := s.hasHigh || s.dash } rest
    else .error (words.badValue ++ quote (b :: rest))

def merged (rs : List Range) : List Range :=
  let sorted := rs.mergeSort fun a b => a.low ≤ b.low
  (sorted.foldl (fun (done : List Range) r =>
    match done with
    | last :: before =>
      if last.holds r.low then
        ⟨last.low, match last.high, r.high with
          | some a, some b => some (max a b)
          | _, _ => none⟩ :: before
      else r :: done
    | [] => [r]) []).reverse

def complement (rs : List Range) : List Range :=
  let (next, done) := (merged rs).foldl (fun (s : Option Nat × List Range) r =>
    match s.1 with
    | none => s
    | some next =>
      (r.high.map (· + 1), if next < r.low then ⟨next, some (r.low - 1)⟩ :: s.2 else s.2))
    (some 1, [])
  match next with
  | some n => (⟨n, none⟩ :: done).reverse
  | none => done.reverse

def read (words : Words) (negated : Bool) (bs : Bytes) : Except String (List Range) :=
  (readFrom words fresh bs).map fun rs => if negated then complement rs else merged rs

end Range

def cut : Tool := withOptions
    ⟨"nsz", "bcdf", [("bytes=", 'b'), ("characters=", 'c'), ("complement", '\x02'),
      ("delimiter=", 'd'), ("fields=", 'f'), ("only-delimited", 's'),
      ("output-delimiter=", '\x03'), ("zero-terminated", 'z')]⟩ 1 fun name g => do
  let lists := g.options.filter fun o => ['b', 'c', 'f'].contains o.1
  let given := g.value? 'd'
  if 1 < lists.length then misuse name "only one list may be specified" 1
  else if (g.values 'd').any fun w => 1 < w.length then
    misuse name "the delimiter must be a single character" 1
  else
    match lists.head? with
    | none => misuse name "you must specify a list of bytes, characters, or fields" 1
    | some (kind, list) =>
      let byFields := kind == 'f'
      if !byFields ∧ given.isSome then
        misuse name "an input delimiter may be specified only when operating on fields" 1
      else if !byFields ∧ g.has 's' then
        misuse name ("suppressing non-delimited lines makes sense\n" ++
          "\tonly when operating on fields") 1
      else
        match Range.read (if byFields then Range.fieldWords else Range.byteWords) (g.has '\x02')
            list with
        | .error message => misuse name message 1
        | .ok ranges =>
          let separator := (given.getD [0x09]).headD 0
          let between := (g.value? '\x03').getD (if byFields then [separator] else [])
          let between := if between.isEmpty ∧ g.has '\x03' then [0] else between
          let chosen (n : Nat) : Bool := ranges.any (·.holds n)
          let fields (line : Bytes) : Bytes :=
            List.intercalate between
              ((((splitBytes separator line).zipIdx 1).filter fun p => chosen p.2).map (·.1))
          let bytes (line : Bytes) : Bytes :=
            let kept := (line.zipIdx 1).filter fun p => chosen p.2
            ((kept.zipIdx).map fun ((b, n), i) =>
              if i ≠ 0 ∧ ranges.any (·.low = n) then between ++ [b] else [b]).flatten
          let ending : UInt8 := if g.has 'z' then 0 else 0x0A
          let r ← readAll name (sources g)
          filtered r (unlinesBy ending ((linesBy ending r.bytes).filterMap fun line =>
            if !byFields then some (bytes line)
            else if !line.contains separator then if g.has 's' then none else some line
            else some (fields line)))

def delimiterList : Bytes → Except Unit (List Bytes)
  | [] => .ok []
  | [0x5C] => .error ()
  | 0x5C :: c :: rest =>
    let part : Bytes := match c with
      | 0x30 => []
      | 0x62 => [0x08]
      | 0x66 => [0x0C]
      | 0x6E => [0x0A]
      | 0x72 => [0x0D]
      | 0x74 => [0x09]
      | 0x76 => [0x0B]
      | c => [c]
    (delimiterList rest).map (part :: ·)
  | b :: rest => (delimiterList rest).map ([b] :: ·)

/-- Inputs by their number, in the order in which they are used, with their lines. All that read
the standard input share its lines. -/
structure PasteInputs where
  order : List Nat
  lines : Array (List Bytes)
  standard : Option Nat
  ended : Bool

def pasteInputs (name : String) (ending : UInt8) :
    List Bytes → PasteInputs → Action (Option PasteInputs)
  | [], s => pure (some s)
  | w :: rest, s => do
    match if w = [0x2D] then s.standard else none with
    | some i => pasteInputs name ending rest { s with order := s.order ++ [i] }
    | none =>
      let r ← readAll name [w]
      if !r.whole then pure none
      else
        let i := s.lines.size
        pasteInputs name ending rest ⟨s.order ++ [i], s.lines.push (linesBy ending r.bytes),
          if w = [0x2D] then some i else s.standard, s.ended && r.ended⟩

/-- Lines of several inputs next to each other, as long as one of them has any. Inputs that share
their lines take them in turn. -/
def pasteRows (order : List Nat) : Nat → Array (List Bytes) → List (List Bytes)
  | 0, _ => []
  | fuel + 1, lists =>
    let step (s : Array (List Bytes) × List (Option Bytes)) (i : Nat) :
        Array (List Bytes) × List (Option Bytes) :=
      match (s.1[i]?).getD [] with
      | line :: rest => (s.1.setIfInBounds i rest, some line :: s.2)
      | [] => (s.1, none :: s.2)
    let (lists, cells) := order.foldl step (lists, [])
    if cells.all Option.isNone then []
    else cells.reverse.map (·.getD []) :: pasteRows order fuel lists

def paste : Tool := withOptions ⟨"sz", "d", [("delimiters=", 'd'), ("serial", 's'),
    ("zero-terminated", 'z')]⟩ 1 fun name g => do
  let given := (g.value? 'd').getD [0x09]
  match delimiterList (if given.isEmpty then bytesOf "\\0" else given) with
  | .error () =>
    say name ("delimiter list ends with an unescaped backslash: " ++ textOf given)
    pure 1
  | .ok delimiters =>
    let delimiter (i : Nat) : Bytes := (delimiters[i % delimiters.length]?).getD []
    let ending : UInt8 := if g.has 'z' then 0 else 0x0A
    let joined (cells : List Bytes) : Bytes :=
      (cells.zipIdx.map fun (cell, i) =>
        (if i = 0 then [] else delimiter (i - 1)) ++ cell).flatten ++ [ending]
    if g.has 's' then
      let mut whole := true
      let mut ended := true
      for operand in sources g do
        let r ← readAll name [operand]
        if r.whole then output (joined (linesBy ending r.bytes)) else whole := false
        if !r.ended then ended := false
      if ended then pure (statusOf whole) else endless
    else
      match ← pasteInputs name ending (sources g) ⟨[], #[], none, true⟩ with
      | none => pure 1
      | some inputs =>
        let count := (inputs.lines.toList.map List.length).foldl max 0
        output ((pasteRows inputs.order (count + 1) inputs.lines).map joined).flatten
        if inputs.ended then pure 0 else endless

def columnAfter (column : Nat) (b : UInt8) : Nat :=
  if b = 0x08 then column - 1
  else if b = 0x0D then 0
  else if b = 0x09 then column + 8 - column % 8
  else column + 1

/-- Cuts a line into pieces of some width, after the last blank of a piece if wanted. `next` tells
the column after a byte, and `kept` is the piece at hand backwards, which ends at `column`. -/
def foldLine (next : Nat → UInt8 → Nat) (width : Nat) (atBlanks : Bool) :
    Nat → Nat → Bytes → Bytes → List Bytes
  | 0, _, kept, bs => [kept.reverse ++ bs]
  | _, _, kept, [] => [kept.reverse]
  | fuel + 1, column, kept, b :: rest =>
    let after := next column b
    let tail := kept.takeWhile (!ByteClass.isBlank ·)
    if after ≤ width ∨ kept.isEmpty then
      foldLine next width atBlanks fuel after (b :: kept) rest
    else if atBlanks ∧ tail.length < kept.length then
      (kept.drop tail.length).reverse ::
        foldLine next width atBlanks fuel (tail.reverse.foldl next 0) tail (b :: rest)
    else
      kept.reverse :: foldLine next width atBlanks fuel 0 [] (b :: rest)

def fold : Tool := withOptions ⟨"bs0123456789", "w", [("bytes", 'b'), ("spaces", 's'),
    ("width=", 'w')]⟩ 1 fun name g => do
  let short := (g.options.map (·.1)).filter Char.isDigit
  let text := if short.isEmpty then (g.value? 'w').getD (bytesOf "80") else Utf8.encodeChars short
  let refused (why : String) : Action Nat := do
    say name ("invalid number of columns: " ++ quote text ++ why)
    pure 1
  match countOf "" text with
  | .error .tooLarge => refused ": Value too large for defined data type"
  | .error _ => refused ""
  | .ok 0 => refused ": Numerical result out of range"
  | .ok width =>
    if countLimit - 9 < width then refused ": Numerical result out of range"
    else
      let next := if g.has 'b' then fun column _ => column + 1 else columnAfter
      let r ← readAll name (sources g)
      filtered r (overLines (fun lines => lines.flatMap fun line =>
        foldLine next width (g.has 's') (2 * line.length + 1) 0 [] line) r.bytes)

structure TabStops where
  columns : List Nat
  size : Option Nat
  increment : Option Nat

namespace TabStops

def after? (t : TabStops) (column : Nat) : Option Nat :=
  match t.columns.find? (column < ·) with
  | some c => some c
  | none =>
    match t.size, t.increment with
    | some n, _ => some (column + (n - column % n))
    | none, some n =>
      let last := t.columns.getLastD 0
      some (column + (n - (column - last) % n))
    | none, none => none

/-- Numbers with commas or blanks between them. The last one may have a mark in front of it, which
tells what becomes of the columns behind it. -/
def read (ws : List Bytes) : Except String TabStops := do
  let parts := ws.flatMap fun w => (splitBytes 0x2C (w.map fun b =>
    if ByteClass.isBlank b then 0x2C else b)).filter (!·.isEmpty)
  let mut t : TabStops := ⟨[], none, none⟩
  for part in parts do
    let (mark, ds) := match part with
      | 0x2F :: rest => (some '/', rest)
      | 0x2B :: rest => (some '+', rest)
      | ds => (none, ds)
    let digits := ds.takeWhile ByteClass.isDigit
    let rest := ds.drop digits.length
    if !rest.isEmpty then
      match rest with
      | 0x2F :: _ =>
        throw ("'/' specifier not at start of number: " ++ quote rest)
      | 0x2B :: _ =>
        throw ("'+' specifier not at start of number: " ++ quote rest)
      | _ => throw ("tab size contains invalid character(s): " ++ quote rest)
    let n := Amount.number 10 digits
    if countLimit ≤ n then throw ("tab stop is too large " ++ quote digits)
    match mark with
    | some '/' =>
      if t.size.isSome then throw "'/' specifier only allowed with the last value"
      t := { t with size := if n = 0 then none else some n }
    | some _ =>
      if t.increment.isSome then throw "'+' specifier only allowed with the last value"
      t := { t with increment := if n = 0 then none else some n }
    | none => t := { t with columns := t.columns ++ [n] }
  if t.columns.contains 0 then throw "tab size cannot be 0"
  if !(t.columns.zip (t.columns.drop 1)).all fun (a, b) => a < b then
    throw "tab sizes must be ascending"
  if t.size.isSome ∧ t.increment.isSome then
    throw "'/' specifier is mutually exclusive with '+'"
  match t.columns, t.size, t.increment with
  | [], none, none => pure ⟨[], some 8, none⟩
  | [n], none, none => pure ⟨[], some n, none⟩
  | [], none, some n => pure ⟨[], some n, none⟩
  | _, _, _ => pure t

end TabStops

def expandLine (t : TabStops) (first : Bool) : Bool → Nat → Bytes → List Bytes
  | _, _, [] => []
  | active, column, b :: rest =>
    if !active then [b :: rest]
    else if b = 0x09 then
      let next := (t.after? column).getD (column + 1)
      List.replicate (next - column) 0x20 :: expandLine t first active next rest
    else
      let column := if b = 0x08 then column - 1 else column + 1
      [b] :: expandLine t first (!first || ByteClass.isBlank b) column rest

def tabStopsOf (g : Given) : Except String TabStops :=
  let digits := (g.options.map (·.1)).filter fun c => c.isDigit ∨ c = ','
  TabStops.read (g.values 't' ++ if digits.isEmpty then [] else [Utf8.encodeChars digits])

def expand : Tool := withOptions ⟨"i0123456789,", "t", [("initial", 'i'), ("tabs=", 't')]⟩ 1
    fun name g => do
  match tabStopsOf g with
  | .error message =>
    say name message
    pure 1
  | .ok t =>
    let r ← readAll name (sources g)
    let expanded (line : Bytes) : Bytes := (expandLine t (g.has 'i') true 0 line).flatten
    filtered r (overLines (·.map expanded) r.bytes)

/-- What is known of blanks while they are read: the column, those that may still become a tab,
whether the first of them came just before a stop, whether there was a blank before, and whether
blanks count at all. -/
structure BlankRun where
  column : Nat
  pending : Bytes
  oneBefore : Bool
  afterBlank : Bool
  active : Bool

def BlankRun.left (s : BlankRun) : Bytes :=
  if 1 < s.pending.length ∧ s.oneBefore then 0x09 :: s.pending.drop 1 else s.pending

def unexpandLine (t : TabStops) (all : Bool) : BlankRun → Bytes → List Bytes
  | s, [] => [s.left]
  | s, b :: rest =>
    if !s.active then [s.left, b :: rest]
    else if ByteClass.isBlank b then
      match t.after? s.column with
      | none => [s.left, b :: rest]
      | some next =>
        let column := if b = 0x09 then next else s.column + 1
        if b = 0x20 ∧ !(s.afterBlank ∧ column = next) then
          unexpandLine t all { s with
            column := column, pending := s.pending ++ [b]
            oneBefore := s.oneBefore || column == next, afterBlank := true } rest
        else
          (if s.oneBefore then [0x09, 0x09] else [0x09]) ::
            unexpandLine t all ⟨column, [], false, true, true⟩ rest
    else
      let column := if b = 0x08 then s.column - 1 else s.column + 1
      s.left :: [b] :: unexpandLine t all ⟨column, [], false, false, all⟩ rest

def unexpand : Tool := withOptions ⟨"a0123456789,", "t", [("all", 'a'), ("first-only", '\x02'),
    ("tabs=", 't')]⟩ 1 fun name g => do
  match tabStopsOf g with
  | .error message =>
    say name message
    pure 1
  | .ok t =>
    let all := (g.has 'a' || g.has 't' || g.options.any (·.1.isDigit)) && !g.has '\x02'
    let r ← readAll name (sources g)
    filtered r (overLines (·.map fun line =>
      (unexpandLine t all ⟨0, [], false, true, true⟩ line).flatten) r.bytes)

end CallChart.Shell.Tool
