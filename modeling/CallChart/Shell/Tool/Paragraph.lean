import CallChart.Shell.Tool.Columns

namespace CallChart.Shell.Tool

open CallChart.Shell.Action

namespace Paragraph

structure Piece where
  text : Bytes
  space : Nat
  opens : Bool
  stops : Bool
  punct : Bool
  final : Bool
  deriving Inhabited

def Piece.ofText (text : Bytes) : Piece :=
  let last := text.getLastD 0
  let body := text.take 1 ++ ((text.drop 1).reverse.dropWhile (bytesOf ")]'\"").contains).reverse
  ⟨text, 0, (bytesOf "(['\x60\"").contains (text.headD 0),
    (bytesOf ".?!").contains (body.getLastD 0),
    ByteClass.isGraph last && !ByteClass.isAlnum last, false⟩

structure Wanted where
  width : Int
  goal : Int
  crown : Bool
  tagged : Bool
  split : Bool
  uniform : Bool
  lead : Nat
  mark : Bytes
  fullLength : Nat

def square (n : Int) : Int := n * n

def shortCost (n : Int) : Int := square (n * 10)

def raggedCost (n : Int) : Int := shortCost n / 2

structure Break where
  cost : Int
  next : Nat
  length : Int
  deriving Inhabited

def baseCost (words : Array Piece) (i : Nat) : Int :=
  let word := (words[i]?).getD default
  let before := (words[i - 1]?).getD default
  let cost : Int := 4900
  let cost :=
    if i = 0 then cost
    else if before.stops then if before.final then cost - 2500 else cost + 360000
    else if before.punct then cost - 1600
    else if 1 < i ∧ ((words[i - 2]?).getD default).final then
      cost + 40000 / (before.text.length + 2)
    else cost
  if word.opens then cost - 1600
  else if word.final then cost + 22500 / (word.text.length + 2)
  else cost

def lineCost (w : Wanted) (count next : Nat) (breaks : Array Break) (length : Int) : Int :=
  if next = count then 0
  else
    let b := (breaks[next]?).getD default
    shortCost (w.goal - length) + if b.next ≠ count then raggedCost (length - b.length) else 0

def bestLine (w : Wanted) (words : Array Piece) (breaks : Array Break) (latest : Int)
    (start : Nat) :
    Nat → Nat → Int → Option Break → Option Break
  | 0, _, _, best => best
  | fuel + 1, next, length, best =>
    let count := words.size
    let rest := if next = count then 0 else ((breaks[next]?).getD default).cost
    let cost := lineCost w count next breaks length + rest +
      if start = 0 ∧ 0 < latest then raggedCost (length - latest) else 0
    let best := match best with
      | some b => if cost < b.cost then some ⟨cost, next, length⟩ else best
      | none => some ⟨cost, next, length⟩
    if next = count then best
    else
      let word := (words[next]?).getD default
      let length := length + ((words[next - 1]?).getD default).space + word.text.length
      if length < w.width then bestLine w words breaks latest start fuel (next + 1) length best
      else best

def breaksOf (w : Wanted) (words : Array Piece) (first other latest : Int) : Array Break :=
  (List.range words.size).reverse.foldl (fun breaks start =>
    let indent := if start = 0 then first else other
    let length := indent + ((words[start]?).getD default).text.length
    match bestLine w words breaks latest start (words.size + 1) (start + 1) length none with
    | some b => breaks.setIfInBounds start { b with cost := b.cost + baseCost words start }
    | none => breaks) (Array.replicate words.size default)

structure State where
  input : Bytes
  column : Nat
  indent : Nat
  markIndent : Nat
  firstIndent : Nat
  otherIndent : Nat
  tabs : Bool
  latest : Int
  words : Array Piece
  output : List Bytes

def skipSpace : Nat → State → State
  | 0, s => s
  | fuel + 1, s =>
    match s.input with
    | 0x20 :: rest => skipSpace fuel { s with input := rest, column := s.column + 1 }
    | 0x09 :: rest =>
      skipSpace fuel { s with input := rest, column := (s.column / 8 + 1) * 8, tabs := true }
    | _ => s

def beginLine (w : Wanted) (s : State) : State :=
  let s := skipSpace (s.input.length + 1) { s with column := 0 }
  if w.mark.isEmpty then { s with indent := min w.lead s.column }
  else
    let indent := s.column
    let rec behind : Bytes → State → Option State × State
      | [], s => (some s, s)
      | m :: ms, s =>
        match s.input with
        | b :: rest =>
          if b = m then behind ms { s with input := rest, column := s.column + 1 } else (none, s)
        | [] => (none, s)
    match behind w.mark { s with indent := indent } with
    | (some s, _) => skipSpace (s.input.length + 1) s
    | (none, s) => s

def atLineEnd (s : State) : Bool := s.input.isEmpty || s.input.head? == some 0x0A

def samePart (w : Wanted) (s : State) : Bool :=
  s.indent == s.markIndent && s.indent + w.fullLength ≤ s.column && !atLineEnd s

def spaces (tabs : Bool) (column width : Nat) : Bytes :=
  let target := column + width
  let tabTarget := target / 8 * 8
  if tabs ∧ column + 1 < tabTarget then
    List.replicate (tabTarget / 8 - column / 8) 0x09 ++ List.replicate (target - tabTarget) 0x20
  else List.replicate width 0x20

def readWords (w : Wanted) : Nat → State → State
  | 0, s => s
  | fuel + 1, s =>
    let text := s.input.take 1 ++ (s.input.drop 1).takeWhile (!ByteClass.isSpace ·)
    let start := s.column + text.length
    let s := skipSpace (s.input.length + 1)
      { s with input := s.input.drop text.length, column := start }
    let piece := Piece.ofText text
    let space := s.column - start
    let final := s.input.isEmpty || (piece.stops && (s.input.head? == some 0x0A || 1 < space))
    let space := if atLineEnd s ∨ w.uniform then if final then 2 else 1 else space
    let s := { s with words := s.words.push { piece with space := space, final := final } }
    if atLineEnd s then beginLine w { s with input := s.input.drop 1 }
    else readWords w fuel s

def readLine (w : Wanted) (s : State) : State := readWords w (s.input.length + 1) s

def settleIndent (w : Wanted) (same : Bool) (s : State) : State :=
  let other :=
    if w.split then s.firstIndent
    else if w.crown then if same then s.column else s.firstIndent
    else if w.tagged then
      if same ∧ s.column ≠ s.firstIndent then s.column
      else if s.otherIndent = s.firstIndent then if s.firstIndent = 0 then 3 else 0
      else s.otherIndent
    else s.firstIndent
  { s with otherIndent := other }

def readMore (w : Wanted) : Nat → State → State
  | 0, s => s
  | fuel + 1, s =>
    if samePart w s ∧ s.column = s.otherIndent then readMore w fuel (readLine w s) else s

def fill (w : Wanted) (s : State) : State :=
  let words := s.words
  let words := words.modify (words.size - 1) fun p => { p with stops := true, final := true }
  let breaks := breaksOf w words s.firstIndent s.otherIndent s.latest
  let line (start stop indent : Nat) : Bytes × Int :=
    let lead := spaces s.tabs 0 s.markIndent ++ w.mark
    let column := s.markIndent + w.mark.length
    let lead := lead ++ spaces s.tabs column (indent - column)
    let column := max column indent
    let (bytes, column) := (List.range (stop - start)).foldl (fun (t : Bytes × Nat) k =>
      let p := (words[start + k]?).getD default
      let column := t.2 + p.text.length
      if start + k + 1 = stop then (t.1 ++ p.text, column)
      else (t.1 ++ p.text ++ spaces s.tabs column p.space, column + p.space)) (lead, column)
    (bytes ++ [0x0A], column)
  let rec lines : Nat → Nat → Nat → List Bytes → Int → List Bytes × Int
    | 0, _, _, out, latest => (out, latest)
    | fuel + 1, start, indent, out, latest =>
      if words.size ≤ start then (out, latest)
      else
        let stop := ((breaks[start]?).getD default).next
        let (bytes, length) := line start stop indent
        lines fuel stop s.otherIndent (bytes :: out) length
  let (out, latest) := lines (words.size + 1) 0 s.firstIndent s.output s.latest
  { s with output := out, latest := latest, words := #[] }

def copyLine (w : Wanted) (s : State) : State :=
  let rest := s.input.takeWhile (· ≠ 0x0A)
  let ended := rest.length < s.input.length
  let isEmpty := rest.isEmpty
  let lead : Bytes :=
    if s.indent < s.column ∨ !isEmpty then
      let mark := w.mark.take (s.column - s.indent)
      spaces s.tabs 0 s.indent ++ mark ++
        (if isEmpty then [] else
          spaces s.tabs (s.indent + mark.length) (s.column - (s.indent + mark.length))) ++
        if !ended ∧ isEmpty ∧ s.indent + w.mark.length ≤ s.column then [0x0A] else []
    else []
  { s with
    input := s.input.drop rest.length
    output := (lead ++ rest ++ if ended then [0x0A] else []) :: s.output }

def run (w : Wanted) : Nat → State → State
  | 0, s => s
  | fuel + 1, s =>
    if atLineEnd s ∨ s.indent < w.lead ∨ s.column < s.indent + w.fullLength then
      let s := copyLine w s
      if s.input.isEmpty then s
      else run w fuel (beginLine w { s with input := s.input.drop 1, latest := 0 })
    else
      let s := { s with markIndent := s.indent, firstIndent := s.column, latest := 0 }
      let s := readLine w s
      let s := settleIndent w (samePart w s) s
      let s :=
        if w.split then s
        else if w.crown then
          if samePart w s then readMore w fuel (readLine w s) else s
        else if w.tagged then
          if samePart w s ∧ s.column ≠ s.firstIndent then readMore w fuel (readLine w s) else s
        else readMore w fuel s
      run w fuel (fill w s)

def filled (w : Wanted) (bytes : Bytes) : Bytes :=
  let s := beginLine w ⟨bytes, 0, 0, 0, 0, 0, false, 0, #[], []⟩
  (run w (2 * bytes.length + 2) s).output.reverse.flatten

end Paragraph

def fmt : Tool := fun name words => do
  let words := match words with
    | (0x2D :: d :: ds) :: rest =>
      if ByteClass.isDigit d then bytesOf "-w" :: (d :: ds) :: rest else words
    | words => words
  withOptions ⟨"cstu0123456789", "gpw", [("crown-margin", 'c'), ("goal=", 'g'), ("prefix=", 'p'),
      ("split-only", 's'), ("tagged-paragraph", 't'), ("uniform-spacing", 'u'),
      ("width=", 'w')]⟩ 1 (fun name g => do
    match (g.options.map (·.1)).find? Char.isDigit with
    | some c =>
      misuse name ("invalid option -- " ++ c.toString ++
        "; -WIDTH is recognized only when it is the first\noption; use -w N instead") 1
    | none =>
      let limited (most : Nat) (w : Bytes) : Except String Nat :=
        match countOf "" w with
        | .ok n => if most < n then .error ": Numerical result out of range" else .ok n
        | .error .tooLarge => .error ": Numerical result out of range"
        | .error _ => .error ""
      let width := (g.value? 'w').map (limited 2500)
      let goal := (g.value? 'g').map
        (limited (((width.bind (·.toOption)).getD (if width.isSome then 0 else 75))))
      match width, goal with
      | some (.error why), _ =>
        say name ("invalid width: " ++ quote ((g.value? 'w').getD []) ++ why)
        pure 1
      | _, some (.error why) =>
        say name ("invalid width: " ++ quote ((g.value? 'g').getD []) ++ why)
        pure 1
      | width, goal =>
        let goal := goal.bind (·.toOption)
        let width := (width.bind (·.toOption)).getD ((goal.map (· + 10)).getD 75)
        let goal := goal.getD (width * 187 / 200)
        let given := (g.value? 'p').getD []
        let body := given.dropWhile (· = 0x20)
        let mark := (body.reverse.dropWhile (· = 0x20)).reverse
        let w : Paragraph.Wanted := ⟨width, goal, g.has 'c', g.has 't', g.has 's', g.has 'u',
          given.length - body.length, mark, body.length⟩
        let mut whole := true
        for operand in sources g do
          let source ← if operand = [0x2D] then opened name operand
            else
              match ← openInput (textOf operand) with
              | .ok id => pure (some id)
              | .error fault => do
                say name ("cannot open " ++ quoted operand ++ " for reading: " ++ fault.reason)
                pure none
          match source with
          | none => whole := false
          | some id =>
            match (← getWorld).unreadable? id with
            | some _ =>
              say name "read error"
              whole := false
            | none => output (Paragraph.filled w (← readStream id))
        pure (statusOf whole)) name words

end CallChart.Shell.Tool
