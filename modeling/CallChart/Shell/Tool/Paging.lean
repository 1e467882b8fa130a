import CallChart.Shell.Tool.Amount
import CallChart.Shell.Tool.Calendar
import CallChart.Shell.Tool.Naming
import CallChart.Shell.Tool.Sheet

namespace CallChart.Shell.Tool.Paging

open CallChart.Shell.Action Sheet

structure Settings where
  firstPage : Option Nat
  lastPage : Option Nat
  columns : Option Nat
  digits : Bytes
  across : Bool
  parallel : Bool
  carets : Bool
  escapes : Bool
  double : Bool
  date : Option Bytes
  expanding : Bool
  tabIn : UInt8
  tabInWidth : Nat
  packing : Bool
  tabOut : UInt8
  tabOutWidth : Nat
  feeds : Bool
  title : Option Bytes
  joined : Bool
  length : Nat
  numbered : Bool
  numberMark : UInt8
  numberDigits : Nat
  firstNumber : Option Int
  margin : Nat
  tolerant : Bool
  short : Bool
  separator : Bytes
  separated : Bool
  headed : Bool
  keepFeeds : Bool
  narrow : Bool
  width : Nat
  truncated : Bool

def Settings.usual : Settings where
  firstPage := none
  lastPage := none
  columns := none
  digits := []
  across := false
  parallel := false
  carets := false
  escapes := false
  double := false
  date := none
  expanding := false
  tabIn := 0x09
  tabInWidth := 8
  packing := false
  tabOut := 0x09
  tabOutWidth := 8
  feeds := false
  title := none
  joined := false
  length := 66
  numbered := false
  numberMark := 0x09
  numberDigits := 5
  firstNumber := none
  margin := 0
  tolerant := false
  short := false
  separator := []
  separated := false
  headed := true
  keepFeeds := false
  narrow := false
  width := 72
  truncated := false

def most : Int := 2147483647

def number (what : String) (least : Int) (w : Bytes) : Except Refusal Int :=
  let (negative, digits) := Amount.sign (w.dropWhile ByteClass.isSpace)
  let refused (reason : String) : Except Refusal Int :=
    .error (.plain (what ++ ": " ++ quote w ++ reason))
  match digits? digits with
  | none => refused ""
  | some n =>
    let n : Int := if negative then -(n : Int) else n
    if most / 2 < n ∧ most < n ∨ n < -(most / 2) ∧ n < least then
      refused ": Value too large for defined data type"
    else if n < least then refused ": Numerical result out of range"
    else .ok n

def markAndNumber (option : Char) (mark : UInt8) (usual : Nat) (w : Bytes) :
    Except Refusal (UInt8 × Nat) :=
  let (mark, rest) := match w with
    | b :: rest => if ByteClass.isDigit b then (mark, w) else (b, rest)
    | [] => (mark, [])
  if rest.isEmpty then .ok (mark, usual)
  else
    let refused (reason : String) : Except Refusal (UInt8 × Nat) :=
      .error (.usage ("'-" ++ option.toString ++
        "' extra characters or invalid number in the argument: " ++ quote rest ++ reason))
    let (negative, digits) := Amount.sign (rest.dropWhile ByteClass.isSpace)
    match digits? digits with
    | some n =>
      if negative ∨ n = 0 then refused ""
      else if most < n then refused ": Value too large for defined data type"
      else .ok (mark, n)
    | none => refused ""

def leadingNumber (option : String) (whole w : Bytes) : Except Refusal (Nat × Bytes) :=
  let (negative, body) := Amount.sign (w.dropWhile ByteClass.isSpace)
  let digits := body.takeWhile ByteClass.isDigit
  match digits? digits with
  | none => .error (.plain ("invalid " ++ option ++ " argument " ++ quote whole))
  | some n =>
    if negative then .error (.plain ("invalid " ++ option ++ " argument " ++ quote whole))
    else if countLimit < n then
      .error (.plain (option ++ " argument " ++ quote whole ++ " too large"))
    else .ok (n, body.drop digits.length)

def pages (option : String) (w : Bytes) : Except Refusal (Option (Nat × Option Nat)) := do
  let (first, rest) ← leadingNumber option w w
  match decide (first = 0), rest with
  | false, [] => pure (some (first, none))
  | false, 0x3A :: more =>
    let (last, rest) ← leadingNumber option w more
    if !rest.isEmpty then
      .error (.plain ("invalid suffix in " ++ option ++ " argument " ++ quote w))
    else pure (if last < first then none else some (first, some last))
  | _, _ => pure none

def Settings.withColumns (s : Settings) (w : Bytes) : Except Refusal Settings := do
  let n ← number "invalid number of columns" 1 w
  pure { s with columns := some n.toNat }

def Settings.adopt (s : Settings) (o : Char × Bytes) : Except Refusal Settings := do
  let value := o.2
  if o.1.isDigit then pure { s with digits := s.digits ++ bytesOf o.1.toString }
  else
    match o.1 with
    | '\x02' =>
      match ← pages "--pages" value with
      | some (first, last) => pure { s with firstPage := some first, lastPage := last }
      | none => .error (.plain ("invalid page range " ++ quote value))
    | '\x03' => Settings.withColumns { s with digits := [] } value
    | 'a' => pure { s with across := true }
    | 'c' => pure { s with carets := true }
    | 'd' => pure { s with double := true }
    | 'D' => pure { s with date := some value }
    | 'e' =>
      let (mark, width) ← markAndNumber 'e' s.tabIn s.tabInWidth value
      pure { s with expanding := true, tabIn := mark, tabInWidth := width }
    | 'f' => pure { s with feeds := true }
    | 'F' => pure { s with feeds := true }
    | 'h' => pure { s with title := some value }
    | 'i' =>
      let (mark, width) ← markAndNumber 'i' s.tabOut s.tabOutWidth value
      pure { s with packing := true, tabOut := mark, tabOutWidth := width }
    | 'J' => pure { s with joined := true }
    | 'l' =>
      let n ← number "'-l PAGE_LENGTH' invalid number of lines" 1 value
      pure { s with length := n.toNat }
    | 'm' => pure { s with parallel := true }
    | 'n' =>
      let (mark, width) ← markAndNumber 'n' s.numberMark s.numberDigits value
      pure { s with numbered := true, numberMark := mark, numberDigits := width }
    | 'N' =>
      let n ← number "'-N NUMBER' invalid starting line number" (-most - 1) value
      pure { s with firstNumber := some n }
    | 'o' =>
      let n ← number "'-o MARGIN' invalid line offset" 0 value
      pure { s with margin := n.toNat }
    | 'r' => pure { s with tolerant := true }
    | 's' =>
      let s := { s with short := true }
      pure (if !s.separated ∧ !value.isEmpty then { s with separator := value } else s)
    | 'S' => pure { s with short := false, separated := true, separator := value }
    | 't' => pure { s with headed := false, keepFeeds := true }
    | 'T' => pure { s with headed := false, keepFeeds := false }
    | 'v' => pure { s with escapes := true }
    | 'w' =>
      let n ← number "'-w PAGE_WIDTH' invalid number of characters" 1 value
      pure { s with narrow := true, width := if s.truncated then s.width else n.toNat }
    | 'W' =>
      let n ← number "'-W PAGE_WIDTH' invalid number of characters" 1 value
      pure { s with narrow := false, truncated := true, width := n.toNat }
    | _ => pure s

def Settings.withOperands (s : Settings) : List Bytes → Except Refusal (Settings × List Bytes)
  | [] => .ok (s, [])
  | w :: rest => do
    let range ← match w.head?, s.firstPage with
      | some 0x2B, none => pages "+" (w.drop 1)
      | _, _ => pure none
    match range with
    | some (first, last) =>
      Settings.withOperands { s with firstPage := some first, lastPage := last } rest
    | none =>
      let (s, files) ← s.withOperands rest
      pure (s, w :: files)

def Settings.ofOptions (options : List (Char × Bytes)) : Except Refusal Settings := do
  let s ← options.foldlM Settings.adopt Settings.usual
  let s ← if s.digits.isEmpty then pure s else s.withColumns s.digits
  if s.parallel ∧ s.columns.isSome then
    .error (.plain "cannot specify number of columns when printing in parallel")
  else if s.parallel ∧ s.across then
    .error (.plain "cannot specify both printing across and printing in parallel")
  else
    let several := s.parallel || s.columns.isSome
    pure (
      if s.narrow then
        if several then { s with truncated := true, separated := s.separated || s.short }
        else { s with joined := true }
      else if !s.separated ∧ s.short ∧ several then
        if s.truncated then { s with separated := true }
        else { s with joined := true, separated := !s.separator.isEmpty }
      else s)

def Settings.layout (s : Settings) (parallel : Bool) (columns bound : Nat) (date title : Bytes) :
    Option Sheet.Layout :=
  let short := s.length ≤ 10
  let headed := s.headed && !short
  let lines := if headed then s.length - 10 else s.length
  let several := 1 < columns
  let separator : Option Bytes :=
    if several then
      if !s.separated then some [if s.joined then 0x09 else 0x20]
      else if !s.joined ∧ s.separator = [0x09] then some [0x20]
      else some s.separator
    else if s.separated then some s.separator
    else none
  let truncated := (s.truncated || several) && !s.joined
  let expanding := s.expanding || (several && separator ≠ some [0x09])
  let numberWidth := if s.numberMark = 0x09 then s.numberDigits + (8 - s.numberDigits % 8)
    else s.numberDigits + 1
  let taken := if s.numbered ∧ parallel then numberWidth else 0
  let room : Int := s.width - taken - (columns - 1) * (separator.getD s.separator).length
  let columnWidth := Int.tdiv room columns
  if columnWidth < 1 then none
  else some {
    columns := columns
    parallel := parallel
    storing := several && !s.across && !s.parallel
    body := if s.double then max 1 (lines / 2) else lines
    headed := headed
    footer := 5
    keepFeeds := s.keepFeeds || short
    feeds := s.feeds
    double := s.double
    truncated := truncated
    margin := s.margin
    columnWidth := columnWidth
    separator := separator
    expanding := expanding
    tabIn := s.tabIn
    tabInWidth := s.tabInWidth
    packing := s.packing || several
    tabOut := s.tabOut
    tabOutWidth := s.tabOutWidth
    numbered := s.numbered
    numberMark := s.numberMark
    numberDigits := s.numberDigits
    numberWidth := numberWidth
    counting := s.firstNumber.isNone
    escapes := s.escapes
    carets := s.carets
    date := date
    title := title
    width := s.width
    lastPage := s.lastPage
    bound := bound }

structure Source where
  input : Input
  modified : Option Int
  ended : Bool
  standard : Bool

def source (name : String) (s : Settings) (w : Bytes) : Action (Option Source) := do
  let read (label : Bytes) (modified : Option Int) (id : Nat) : Action (Option Source) := do
    match (← getWorld).unreadable? id with
    | some fault => pure (some ⟨⟨label, [], some fault.reason⟩, modified, true, modified.isNone⟩)
    | none =>
      let (bytes, ended) ← readReady id
      pure (some ⟨⟨label, bytes, none⟩, modified, ended, modified.isNone⟩)
  if w = [0x2D] then
    match ← streamOf 0 with
    | some id => read (bytesOf "standard input") none id
    | none =>
      pure (some ⟨⟨bytesOf "standard input", [], some "Bad file descriptor"⟩, none, true, true⟩)
  else
    match ← openInput (textOf w) with
    | .error fault =>
      if !s.tolerant then sayOf name w fault.reason
      pure none
    | .ok id =>
      let modified := match ← present true (textOf w) with
        | .ok (_, n) => some n.modified
        | .error _ => none
      read w modified id

def printSources (name : String) (s : Settings) (parallel : Bool) (count : Nat)
    (label : Bytes) (inputs : List Source) (press : Press) : Action (Option Press) := do
  let now := (← getWorld).now
  let written := (inputs.head?.bind Source.modified).filter fun _ => !parallel
  let format := (s.date.map textOf).getD "%Y-%m-%d %H:%M"
  let date := bytesOf (Calendar.format (written.getD now) format.toList)
  let title := s.title.getD (if written.isSome then label else [])
  let columns := if parallel then count else s.columns.getD 1
  let bound := (inputs.map fun i => i.input.bytes.length + 1).foldl (· + ·) 0 + 1
  match s.layout parallel columns bound date title with
  | none =>
    say name "page width too narrow"
    pure none
  | some l =>
    let l : Sheet.Layout := { l with columns := if parallel then inputs.length else l.columns }
    /- All columns of the standard input share what there is to read. -/
    let first := (inputs.findIdx? (·.standard)).getD 0
    let shared (i : Nat) : Nat :=
      if !parallel then 0 else if ((inputs[i]?).map Source.standard).getD false then first else i
    let column (i : Nat) : Column := ⟨shared i, .ready, 0, false, 0, 0, 0, false⟩
    let press := { press with
      inputs := (inputs.map (·.input)).toArray
      columns := ((List.range l.columns).map column).toArray
      waiting := if parallel then inputs.length else 1
      count := if l.numbered then s.firstNumber.getD 1 else press.count
      printed := [] }
    let (result, press) := (Sheet.print l (s.firstPage.getD 1)).run press
    output press.printed.reverse
    match result with
    | .error message =>
      say name message
      pure none
    | .ok missing =>
      match missing with
      | some n =>
        say name ("starting page number " ++ toString (s.firstPage.getD 1) ++
          " exceeds page count " ++ toString n)
      | none => pure ()
      if inputs.all (·.ended) then pure (some press) else endless

def run (name : String) (s : Settings) (files : List Bytes) : Action Nat := do
  if files.isEmpty then
    match ← source name s [0x2D] with
    | none => pure 1
    | some i => pure (statusOf (← printSources name s false 1 [] [i] .fresh).isSome)
  else if s.parallel then
    let inputs ← files.filterMapM (source name s)
    let whole := inputs.length = files.length
    if inputs.isEmpty then pure 1
    else
      let done ← printSources name s true files.length [] inputs .fresh
      pure (statusOf (done.isSome ∧ whole))
  else
    let mut press : Sheet.Press := .fresh
    let mut whole := true
    for w in files do
      match ← source name s w with
      | none => whole := false
      | some i =>
        match ← printSources name s false 1 w [i] press with
        | none => return 1
        | some next => press := next
    pure (statusOf whole)

end Paging

open CallChart.Shell.Action

def pr : Tool := withOptions ⟨"0123456789FJTabcdfmrtv", "De?hi?ln?Nos?S?wW", [("pages=", '\x02'),
    ("columns=", '\x03'), ("across", 'a'), ("show-control-chars", 'c'), ("double-space", 'd'),
    ("date-format=", 'D'), ("expand-tabs?", 'e'), ("form-feed", 'f'), ("header=", 'h'),
    ("output-tabs?", 'i'), ("join-lines", 'J'), ("length=", 'l'), ("merge", 'm'),
    ("number-lines?", 'n'), ("first-line-number=", 'N'), ("indent=", 'o'),
    ("no-file-warnings", 'r'), ("separator?", 's'), ("sep-string?", 'S'), ("omit-header", 't'),
    ("omit-pagination", 'T'), ("show-nonprinting", 'v'), ("width=", 'w'), ("page-width=", 'W')]⟩
    1 fun name g => do
  match Paging.Settings.ofOptions g.options with
  | .error refusal => refusal.tell name
  | .ok s =>
    match s.withOperands g.operands with
    | .error refusal => refusal.tell name
    | .ok (s, files) => Paging.run name s files

end CallChart.Shell.Tool
