import CallChart.Shell.Tool.Basic

namespace CallChart.Shell.Tool.Sheet

inductive Progress where
  | ready
  | held
  | pageEnd
  | closed
  deriving DecidableEq, Repr

structure Column where
  input : Nat
  progress : Progress
  start : Int
  numbered : Bool
  stored : Nat
  left : Int
  current : Nat
  full : Bool

structure Layout where
  columns : Nat
  parallel : Bool
  storing : Bool
  body : Nat
  headed : Bool
  footer : Nat
  keepFeeds : Bool
  feeds : Bool
  double : Bool
  truncated : Bool
  margin : Nat
  columnWidth : Int
  separator : Option Bytes
  expanding : Bool
  tabIn : UInt8
  tabInWidth : Nat
  packing : Bool
  tabOut : UInt8
  tabOutWidth : Nat
  numbered : Bool
  numberMark : UInt8
  numberDigits : Nat
  numberWidth : Nat
  counting : Bool
  escapes : Bool
  carets : Bool
  date : Bytes
  title : Bytes
  width : Nat
  lastPage : Option Nat
  bound : Nat

structure Input where
  name : Bytes
  bytes : Bytes
  fault : Option String

structure Press where
  inputs : Array Input
  columns : Array Column
  printed : Bytes
  position : Int
  blanks : Int
  separators : Int
  padding : Int
  inputPosition : Int
  headerDue : Bool
  feedDue : Bool
  filling : Bool
  aligning : Bool
  emptyLine : Bool
  feedOnly : Bool
  waiting : Int
  page : Nat
  number : Int
  count : Int
  lines : Array (Bytes × Int)
  line : Bytes
  lastLine : Bool

def Press.fresh : Press :=
  ⟨#[], #[], [], 0, 0, 0, 0, 0, false, false, false, false, true, false, 0, 1, 1, 1, #[], [], false⟩

abbrev Printing := ExceptT String (StateM Press)

def column (i : Nat) : Printing Column := do
  pure (((← get).columns[i]?).getD ⟨0, .closed, 0, false, 0, 0, 0, false⟩)

def change (i : Nat) (f : Column → Column) : Printing Unit :=
  modify fun s => { s with columns := s.columns.modify i f }

def changeAll (f : Column → Column) : Printing Unit :=
  modify fun s => { s with columns := s.columns.map f }

def next (input : Nat) : Printing (Option UInt8) := do
  match (((← get).inputs[input]?).map Input.bytes).getD [] with
  | [] => pure none
  | b :: rest =>
    modify fun s => { s with inputs := s.inputs.modify input fun i => { i with bytes := rest } }
    pure (some b)

def skipLineEnd (input : Nat) : Printing Unit :=
  modify fun s => { s with inputs := s.inputs.modify input fun i =>
    { i with bytes := if i.bytes.head? = some 0x0A then i.bytes.drop 1 else i.bytes } }

def close (l : Layout) (i : Nat) : Printing Unit := do
  let c ← column i
  if c.progress ≠ .closed then
    match (← get).inputs[c.input]? with
    | some ⟨name, _, some fault⟩ => throw (named name ++ ": " ++ fault)
    | _ => pure ()
    if l.parallel then change i fun c => { c with progress := .closed, left := 0 }
    else changeAll fun c =>
      { c with progress := .closed, left := if c.stored = 0 then 0 else c.left }
    modify fun s => { s with waiting := s.waiting - 1 }

def hold (l : Layout) (i : Nat) : Printing Unit := do
  if l.parallel then change i fun c => { c with progress := .held }
  else changeAll fun c => { c with progress := if l.storing then .pageEnd else .held }
  change i fun c => { c with left := 0 }
  modify fun s => { s with waiting := s.waiting - 1 }

def resume (l : Layout) : Printing Unit := do
  let held := ((← get).columns.toList.filter (·.progress = .held)).length
  changeAll fun c => { c with progress := if c.progress = .held then .ready else c.progress }
  modify fun s => { s with waiting := s.waiting + held }
  if l.storing then
    let ended := (← column 0).progress = .closed
    modify fun s => { s with waiting := if ended then 0 else 1 }

def readyColumns (l : Layout) : Printing Nat := do
  pure ((← get).columns.toList.filter fun c => c.progress = .ready ∨ c.progress = .pageEnd ∨
    (l.storing ∧ 0 < c.stored ∧ 0 < c.left)).length

def put (bytes : Bytes) : Printing Unit :=
  modify fun s => { s with printed := bytes.reverse ++ s.printed }

def afterTab (width : Nat) (position : Int) : Int :=
  position + (width - Int.tmod position width)

def whiteSpace (tab : UInt8) (width : Nat) (goal : Int) : Nat → Int → Bytes
  | 0, _ => []
  | fuel + 1, here =>
    if goal ≤ here then []
    else
      let there := afterTab width here
      if 1 < goal - here ∧ there ≤ goal then tab :: whiteSpace tab width goal fuel there
      else List.replicate (goal - here).toNat 0x20

def putWhiteSpace (l : Layout) : Printing Unit := do
  let s ← get
  let goal := s.position + s.blanks
  put (whiteSpace l.tabOut l.tabOutWidth goal (s.blanks.toNat + 1) s.position)
  modify fun s => { s with position := goal, blanks := 0 }

def putByte (l : Layout) (b : UInt8) : Printing Unit := do
  if !l.packing then put [b]
  else if b = 0x20 then modify fun s => { s with blanks := s.blanks + 1 }
  else
    if 0 < (← get).blanks then putWhiteSpace l
    let step : Int := if isPrintable b then 1 else if b = 0x08 then -1 else 0
    modify fun s => { s with position := s.position + step }
    put [b]

def place (l : Layout) (b : UInt8) : Printing Unit :=
  if l.storing then modify fun s => { s with line := b :: s.line } else putByte l b

def goTo (l : Layout) (position : Int) : Printing Unit := do
  let s ← get
  if l.packing then modify fun s => { s with blanks := position - s.position }
  else
    put (List.replicate (position - s.position).toNat 0x20)
    modify fun s => { s with position := position }

def putSeparator (l : Layout) : Printing Unit := do
  if (← get).separators ≤ 0 then
    if 0 < (← get).blanks then putWhiteSpace l
  else
    for b in l.separator.getD [] do
      if b = 0x20 then modify fun s => { s with blanks := s.blanks + 1 }
      else
        if 0 < (← get).blanks then putWhiteSpace l
        put [b]
        modify fun s => { s with position := s.position + 1 }
    if 0 < (← get).blanks then putWhiteSpace l
    modify fun s => { s with separators := 0 }

def separatorLength (l : Layout) : Int := (l.separator.getD []).length

def toColumn (l : Layout) : Printing Unit := do
  let padding := (← get).padding
  if separatorLength l < padding then
    goTo l (padding - separatorLength l)
    modify fun s => { s with padding := 0 }
  if l.separator.isSome then putSeparator l

def lineNumber (l : Layout) : Printing Unit := do
  let number := (← get).number
  modify fun s => { s with number := s.number + 1 }
  let text := bytesOf (padLeft l.numberDigits (toString number))
  for b in text.drop (text.length - l.numberDigits) do place l b
  if 1 < l.columns then
    if l.numberMark = 0x09 then
      for b in List.replicate (l.numberWidth - l.numberDigits) (0x20 : UInt8) do place l b
    else place l l.numberMark
  else
    place l l.numberMark
    if l.numberMark = 0x09 then
      modify fun s => { s with position := afterTab l.tabOutWidth s.position }
  if l.truncated ∧ !l.parallel then
    modify fun s => { s with inputPosition := s.inputPosition + l.numberWidth }

def alignColumn (l : Layout) (i : Nat) : Printing Unit := do
  let c ← column i
  modify fun s => { s with padding := c.start }
  toColumn l
  if c.numbered then lineNumber l

def roomOf (bytes : Bytes) : Nat := (bytes.filter fun b => !(b < 0x20 || b == 0x7F)).length

def header (l : Layout) : Printing Unit := do
  modify fun s => { s with position := 0 }
  goTo l l.margin
  putWhiteSpace l
  let page := bytesOf ("Page " ++ toString (← get).page)
  let room := l.width - roomOf l.date - roomOf l.title - roomOf page
  let blanks (n : Nat) : Bytes := List.replicate (max 1 n) 0x20
  put ([0x0A, 0x0A] ++ List.replicate l.margin 0x20 ++ l.date ++ blanks (room / 2) ++ l.title ++
    blanks (room - room / 2) ++ page ++ [0x0A, 0x0A, 0x0A])
  modify fun s => { s with headerDue := false, position := 0 }

def shown (l : Layout) (position : Int) (b : UInt8) : Bytes × Int :=
  let octal : Bytes := 0x5C :: [b / 64, b / 8 % 8, b % 8].map (· + 0x30)
  if b = l.tabIn ∨ b = 0x09 then
    let width := afterTab (if b = l.tabIn then l.tabInWidth else 8) position - position
    (if l.expanding then List.replicate width.toNat 0x20 else [b], width)
  else if isPrintable b then ([b], 1)
  else if l.escapes then (octal, 4)
  else if l.carets then if b < 0x80 then ([0x5E, b ^^^ 0x40], 2) else (octal, 4)
  else ([b], if b = 0x08 then -1 else 0)

def clump (l : Layout) (b : UInt8) : Printing Bytes := do
  let position := (← get).inputPosition
  let (bytes, width) := shown l position b
  if width < 0 ∧ position = 0 then pure []
  else
    modify fun s => { s with
      inputPosition := if width < 0 ∧ position ≤ -width then 0 else position + width }
    pure bytes

def overflows (l : Layout) : Printing Bool := do
  pure (l.truncated && l.columnWidth < (← get).inputPosition)

def feedFound (l : Layout) (i : Nat) : Printing Unit := do
  skipLineEnd (← column i).input
  if l.keepFeeds then modify fun s => { s with feedDue := true }
  hold l i

def dropLine (l : Layout) (i : Nat) : Nat → Printing Unit
  | 0 => pure ()
  | fuel + 1 => do
    match ← next (← column i).input with
    | some 0x0A => pure ()
    | some 0x0C => feedFound l i
    | some _ => dropLine l i fuel
    | none => close l i

def readOn (l : Layout) (i : Nat) : Nat → Printing Bool
  | 0 => pure true
  | fuel + 1 => do
    match ← next (← column i).input with
    | some 0x0A => pure true
    | some 0x0C =>
      feedFound l i
      pure true
    | none =>
      close l i
      pure true
    | some b =>
      let before := (← get).inputPosition
      let bytes ← clump l b
      if ← overflows l then
        modify fun s => { s with inputPosition := before }
        pure false
      else
        for b in bytes do place l b
        readOn l i fuel

def beforeLine (l : Layout) (i : Nat) : Printing Unit := do
  modify fun s => { s with filling := true }
  if (← get).headerDue ∧ !l.storing then header l
  if l.parallel ∧ (← get).aligning then
    let before := (← get).separators.toNat
    modify fun s => { s with separators := 0 }
    for j in List.range before do
      alignColumn l j
      modify fun s => { s with separators := s.separators + 1 }
    let c ← column i
    modify fun s => { s with
      padding := c.start, blanks := if l.truncated then l.columnWidth else 0, aligning := false }
  toColumn l

def readLine (l : Layout) (i : Nat) : Printing Bool := do
  let c ← column i
  let before := (← get).inputPosition
  let first ← next c.input
  let first ← if first = some 0x0C ∧ c.full then
      match ← next c.input with
      | some 0x0A => next c.input
      | b => pure b
    else pure first
  change i fun c => { c with full := false }
  match first with
  | some 0x0C =>
    skipLineEnd c.input
    modify fun s => { s with feedOnly := true }
    if (← get).headerDue ∧ !l.storing then
      modify fun s => { s with filling := true }
      header l
    else if l.keepFeeds then modify fun s => { s with feedDue := true }
    hold l i
    pure true
  | none =>
    close l i
    pure true
  | some b =>
    let bytes ← if b = 0x0A then pure [] else clump l b
    if ← overflows l then
      modify fun s => { s with inputPosition := before }
      pure false
    else
      if !l.storing then beforeLine l i
      if (← column i).numbered then lineNumber l
      modify fun s => { s with emptyLine := false }
      if b = 0x0A then pure true
      else
        for b in bytes do place l b
        readOn l i l.bound

def skipLine (l : Layout) (i : Nat) : Printing Unit := do
  let c ← column i
  let first ← next c.input
  let first ← if first = some 0x0C ∧ c.full then
      match ← next c.input with
      | some 0x0A => next c.input
      | b => pure b
    else pure first
  let last := (← get).lastLine
  change i fun c => { c with full := last }
  let rec go : Nat → Option UInt8 → Printing Unit
    | 0, _ => pure ()
    | fuel + 1, b => do
      match b with
      | some 0x0A => pure ()
      | some 0x0C =>
        if last then
          if l.parallel then change i fun c => { c with full := false }
          else changeAll fun c => { c with full := false }
        skipLineEnd c.input
        hold l i
      | none => close l i
      | some _ => go fuel (← next c.input)
  go l.bound first
  if l.counting ∧ (!l.parallel ∨ i = 0) ∧ first ≠ some 0x0C then
    modify fun s => { s with count := s.count + 1 }

def storeLines (l : Layout) : Printing Unit := do
  changeAll fun c => { c with stored := 0 }
  modify fun s => { s with lines := #[], line := [] }
  for i in List.range l.columns do
    for _ in List.range (min l.body l.bound) do
      if 0 < (← get).waiting ∧ (← column i).progress = .ready then
        modify fun s => { s with inputPosition := 0 }
        if !(← readLine l i) then dropLine l i l.bound
        let s ← get
        if (← column i).progress = .ready ∨ !s.line.isEmpty then
          change i fun c => { c with stored := c.stored + 1 }
          modify fun s => { s with
            lines := s.lines.push (s.line.reverse, s.inputPosition), line := [] }
  let total := (← get).lines.size
  let mut first := 0
  for i in List.range l.columns do
    let share := total / l.columns + if i < total % l.columns then 1 else 0
    let here := first
    change i fun c => { c with stored := share, current := here }
    first := first + share

def printStored (l : Layout) (i : Nat) : Printing Unit := do
  let c ← column i
  let (bytes, ends) := ((← get).lines[c.current]?).getD ([], 0)
  change i fun c => { c with current := c.current + 1 }
  modify fun s => { s with filling := true }
  if (← get).headerDue then header l
  let alone ← if c.progress = .pageEnd then do
      changeAll fun c => { c with progress := .held }
      pure (decide ((← column 0).left ≤ 0))
    else pure false
  if alone then
    if !l.headed then modify fun s => { s with filling := false }
  else
    toColumn l
    for b in bytes do putByte l b
    if (← get).blanks = 0 then
      let position := c.start + ends
      let position := if c.start - separatorLength l = l.margin then position - separatorLength l
        else position
      modify fun s => { s with position := position }

def printCell (l : Layout) (i : Nat) : Printing Bool := do
  modify fun s => { s with inputPosition := 0 }
  let c ← column i
  let ended ← if 0 < c.left ∨ c.progress = .pageEnd then do
      modify fun s => { s with feedOnly := false, padding := c.start }
      if l.storing then printStored l i
      else if !(← readLine l i) then dropLine l i l.bound
      change i fun c => { c with left := c.left - 1 }
      let c ← column i
      if c.left ≤ 0 ∧ (← readyColumns l) = 0 then pure true
      else
        let s ← get
        if l.parallel ∧ c.progress ≠ .ready then
          if s.emptyLine then modify fun s => { s with aligning := true }
          else if c.progress = .closed ∨ (c.progress = .held ∧ s.feedOnly) then alignColumn l i
        pure false
    else do
      if l.parallel then
        if (← get).emptyLine then modify fun s => { s with aligning := true } else alignColumn l i
      pure false
  if !ended ∧ l.separator.isSome then
    modify fun s => { s with separators := s.separators + 1 }
  pure ended

def printCells (l : Layout) : List Nat → Bool → Printing Bool
  | [], printed => pure printed
  | i :: rest, printed => do
    let ended ← printCell l i
    let printed := printed || (← get).filling
    if ended then pure printed else printCells l rest printed

def printLines (l : Layout) : Nat → Int → Bool → Printing (Int × Bool)
  | 0, room, printed => pure (room, printed)
  | fuel + 1, room, printed => do
    if room ≤ 0 ∨ (← readyColumns l) = 0 then pure (room, printed)
    else
      modify fun s => { s with
        position := 0, blanks := 0, separators := 0, filling := false, aligning := false
        emptyLine := true }
      let printed ← printCells l (List.range l.columns) printed
      let filling := (← get).filling
      if filling then put [0x0A]
      let room := if filling then room - 1 else room
      if (← readyColumns l) = 0 ∧ !l.headed then pure (room, printed)
      else if l.double ∧ printed then
        put [0x0A]
        printLines l fuel (room - 1) printed
      else printLines l fuel room printed

def printPage (l : Layout) : Printing Bool := do
  if l.storing then
    storeLines l
    changeAll fun c => { c with left := c.stored }
  else changeAll fun c => { c with left := if c.progress = .ready then l.body else 0 }
  if (← readyColumns l) = 0 then pure false
  else
    if l.headed then modify fun s => { s with headerDue := true }
    modify fun s => { s with filling := false }
    let room : Int := if l.double then 2 * l.body else l.body
    let (room, printed) ← printLines l (2 * l.body + l.columns + 2) room false
    if room = 0 then
      changeAll fun c => { c with full := if c.progress = .ready then true else c.full }
    modify fun s => { s with filling := printed }
    if printed ∧ l.headed then
      put (if l.feeds then [0x0C] else List.replicate (room + l.footer).toNat 0x0A)
    else if l.keepFeeds ∧ (← get).feedDue then
      put [0x0C]
      modify fun s => { s with feedDue := false }
    modify fun s => { s with page := s.page + 1 }
    let page := (← get).page
    if (l.lastPage.map fun last => decide (last < page)).getD false then pure false
    else
      resume l
      pure true

def printPages (l : Layout) : Nat → Printing Unit
  | 0 => pure ()
  | fuel + 1 => do
    if ← printPage l then printPages l fuel else pure ()

def skipTo (l : Layout) (page : Nat) : Nat → Nat → Printing (Option Nat)
  | 0, _ => pure none
  | fuel + 1, n => do
    if page ≤ n then pure none
    else
      let skipRow : Printing Unit := do
        for i in List.range l.columns do
          if (← column i).progress = .ready then skipLine l i
      for _ in List.range (min (l.body - 1) l.bound) do
        if 0 < (← get).waiting then skipRow
      modify fun s => { s with lastLine := true }
      skipRow
      if l.storing then
        changeAll fun c =>
          { c with progress := if c.progress = .closed then .closed else .held }
      resume l
      modify fun s => { s with lastLine := false }
      if (← get).waiting < 1 then pure (some n) else skipTo l page fuel (n + 1)

def starts (l : Layout) : List Int :=
  let length := separatorLength l
  let first : Int := l.margin + length
  if !l.truncated then first :: List.replicate (l.columns - 1) 0
  else
    let number : Int := if l.parallel ∧ l.numbered then l.numberWidth else 0
    let stop : Int := l.margin + l.columnWidth + number
    first :: (List.range (l.columns - 1)).map fun (i : Nat) =>
      stop + ((i : Int) + 1) * length + (i : Int) * l.columnWidth

def print (l : Layout) (firstPage : Nat) : Printing (Option Nat) := do
  let places := starts l
  modify fun s => { s with columns := s.columns.mapIdx fun i c => { c with
    start := (places[i]?).getD 0, numbered := l.numbered && (!l.parallel || i == 0) } }
  let missing ← if 1 < firstPage then skipTo l firstPage firstPage 1 else pure none
  if missing.isSome then pure missing
  else
    modify fun s => { s with page := firstPage, number := s.count }
    printPages l l.bound
    pure none

end CallChart.Shell.Tool.Sheet
