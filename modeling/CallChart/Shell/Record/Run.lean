import CallChart.Shell.Record.Memory
import CallChart.Shell.Tool.Calendar

namespace CallChart.Shell.Record

open CallChart.Shell.Action

namespace Run

inductive Spot where
  | variable (n : Name)
  | element (table : Nat) (key : Table.Query)
  | field (index : Nat)

def read : Spot → Run Value
  | .variable n => variable' n
  | .element i key => modifyTable i fun t => t.get key .unset
  | .field i => field i

def put (s : Spot) (v : Value) : Run Unit := do
  match s with
  | .variable n => putVariable n v
  | .element i key => modifyTable i fun t => ((), t.set key v)
  | .field i => putField i v

def keyOf (vs : List Value) : Run Table.Query := do
  match vs with
  | [.number x] =>
    if x == truncated x ∧ x.abs < 2147483648.0 then pure (.number (wholeOf x))
    else pure (.text (← textOfValue (.number x)))
  | [v] => pure (.text (← textOfValue v))
  | vs =>
    let separator ← knownText Known.keySeparator
    pure (.text (separator.intercalate (← vs.mapM textOfValue)))

def calculate (o : Operation) (x y : Float) : Float :=
  match o with
  | .add => x + y
  | .subtract => x - y
  | .multiply => x * y
  | .divide => x / y
  | .remainder => ((Binary64.ofFloat x).remainder (.ofFloat y)).toFloat
  | .power => Float.pow x y

def holds (c : Comparison) (o : Ordering) : Bool :=
  match c with
  | .equal => o == .eq
  | .unequal => o != .eq
  | .less => o == .lt
  | .lessOrEqual => o != .gt
  | .greater => o == .gt
  | .greaterOrEqual => o != .lt

def indexOf (needle : Bytes) : Bytes → Nat → Nat
  | [], _ => 0
  | b :: rest, place =>
    if needle.isPrefixOf (b :: rest) then place else indexOf needle rest (place + 1)

def rounded (x : Float) : Float :=
  let low := x.floor
  let d := x - low
  if d < 0.5 then low else if 0.5 < d then low + 1.0
  else if low / 2.0 == (low / 2.0).floor then low else low + 1.0

def partOf (text : Bytes) (start : Float) (count : Option Float) : Bytes :=
  let first := rounded start
  let stop : Float := match count with
    | some n => rounded (start + n)
    | none => 1.0 / 0.0
  let size := Float.ofNat text.length
  let low := max first 1.0
  let high := min stop (size + 1.0)
  if high ≤ low || low.isNaN || high.isNaN then []
  else (text.drop (low.toUInt64.toNat - 1)).take (high - low).toUInt64.toNat

def replacementFor (matched : Bytes) : Bytes → List Bytes
  | [] => []
  | 0x5C :: 0x5C :: 0x26 :: rest => [0x5C] :: matched :: replacementFor matched rest
  | 0x5C :: 0x26 :: rest => [0x26] :: replacementFor matched rest
  | 0x26 :: rest => matched :: replacementFor matched rest
  | b :: rest => [b] :: replacementFor matched rest

/-- Replaces matches from a place on: the text in pieces, and how many there were. An empty match
right behind another one does not count. -/
def substituted (p : Pattern) (all : Bool) (replacement : Bytes) (text : Array UInt8) :
    Nat → Nat → Option Nat → List Bytes × Nat
  | 0, place, _ => ([(text.extract place text.size).toList], 0)
  | fuel + 1, place, previous =>
    let tail (place : Nat) : Bytes := (text.extract place text.size).toList
    match p.find? text place with
    | none => ([tail place], 0)
    | some m =>
      let before := (text.extract place m.start).toList
      let one := (text.extract m.start (m.start + 1)).toList
      let empty := m.start = m.stop
      if empty ∧ previous = some m.start then
        if m.start < text.size then
          let (rest, n) := substituted p all replacement text fuel (m.start + 1) none
          (before :: one :: rest, n)
        else ([before], 0)
      else
        let piece := (replacementFor (text.extract m.start m.stop).toList replacement).flatten
        if !all then ([before, piece, tail m.stop], 1)
        else if empty then
          if m.start < text.size then
            let (rest, n) := substituted p all replacement text fuel (m.start + 1) none
            (before :: piece :: one :: rest, n + 1)
          else ([before, piece], 1)
        else
          let (rest, n) := substituted p all replacement text fuel m.stop (some m.stop)
          (before :: piece :: rest, n + 1)

def laidOut (who : String) (vs : List Value) : Run (Bytes × Option Bytes) := do
  match vs with
  | [] => pure ([], none)
  | v :: rest =>
    let format ← textOfValue v
    let (bytes, fault) := layOut (← numberFormat) format rest
    let quoted : Bytes := bytesOf (who ++ "(\"") ++ format ++ bytesOf "\")"
    pure (bytes, fault.map fun f => match f with
      | .tooFew => bytesOf "not enough arguments passed to " ++ quoted
      | .improper n => bytesOf ("improper conversion(number " ++ toString n ++ ") in ") ++ quoted)

def numeric? : Ability → Option (Float → Float)
  | .sine => some Float.sin
  | .cosine => some Float.cos
  | .exponential => some Float.exp
  | .logarithm => some Float.log
  | .root => some Float.sqrt
  | .whole => some truncated
  | _ => none

def sowed (given : Option Value) : Run Value := do
  let before := (← get).seed
  let seed ← match given with
    | some v => pure v
    | none => do pure (Value.number (Float.ofInt ((← act getWorld).now / 1000)))
  let word := (wholeOf seed.toNumber % 4294967296).toNat
  modify fun m => { m with seed := seed, random := seeded (UInt32.ofNat word) }
  pure before

def secondsOf (numbers : List Int) : Int :=
  match numbers with
  | year :: month :: day :: hour :: minute :: second :: _ =>
    let months := year * 12 + (month - 1)
    let first := Tool.Calendar.dayNumber (months / 12) (months % 12 + 1).toNat 1
    (first + day - 1) * 86400 + hour * 3600 + minute * 60 + second
  | _ => -1

def received (target : Option Spot) (line : Option Bytes) : Run Value := do
  match line with
  | none => pure (.number 0.0)
  | some bytes =>
    match target with
    | some s => put s (.given bytes)
    | none => putRecord bytes
    pure (.number 1.0)

def able (perform : Perform) (a : Ability) (vs : List Value) : Run Value := do
  let number (n : Int) : Value := .number (Float.ofInt n)
  match a, vs with
  | .length, [v] => pure (.ofNat (← textOfValue v).length)
  | .index, [text, needle] =>
    let needle ← textOfValue needle
    if needle.isEmpty then pure (.number 1.0)
    else pure (.ofNat (indexOf needle (← textOfValue text) 1))
  | .part, [text, start] =>
    pure (.text (partOf (← textOfValue text) start.toNumber none))
  | .part, [text, start, count] =>
    pure (.text (partOf (← textOfValue text) start.toNumber (some count.toNumber)))
  | .layOut, vs =>
    match ← laidOut "sprintf" vs with
    | (bytes, none) => pure (.text bytes)
    | (_, some fault) => brokenHere fault
  | .upper, [v] => pure (.text ((← textOfValue v).map Regex.upper))
  | .lower, [v] => pure (.text ((← textOfValue v).map Regex.lower))
  | .arctangent, [y, x] => pure (.number (Float.atan2 y.toNumber x.toNumber))
  | .random, _ => pure (.number (← random))
  | .seed, vs => sowed vs.head?
  | .close, [v] => pure (number (← close perform (← textOfValue v)))
  | .flush, _ =>
    drainAll
    pure (.number 0.0)
  | .system, [v] =>
    drainAll
    pure (number (endingNumber (← started perform (← textOfValue v))))
  | .now, _ => pure (number ((← act getWorld).now / 1000))
  | .date, vs =>
    let format ← match vs.head? with
      | some v => textOfValue v
      | none => pure (bytesOf "%c")
    let seconds ← match vs[1]? with
      | some v => pure (wholeOf v.toNumber)
      | none => do pure ((← act getWorld).now / 1000)
    pure (.text (bytesOf (Tool.Calendar.format (seconds * 1000) (textOf format).toList)))
  | .time, [v] =>
    let numbers := (words ((← textOfValue v).length + 1) (← textOfValue v)).map fun w =>
      wholeOf (Value.text w).toNumber
    pure (number (secondsOf numbers))
  | a, [v] =>
    match numeric? a with
    | some f => pure (.number (f v.toNumber))
    | none => pure .unset
  | _, _ => pure .unset

def callLimit : Nat := 1000

mutual

def evaluate (perform : Perform) : Nat → Expression → Run Value
  | 0, _ => act endless
  | fuel + 1, e => do
    match e with
    | .constant v => pure v
    | .pattern p => do
      pure (.ofBool (p.matches? (← textOfValue (← record))))
    | .value p => do
      read (← locate perform fuel p)
    | .assign p o e =>
      let spot ← locate perform fuel p
      let v ← evaluate perform fuel e
      let v ← match o with
        | none => pure v
        | some o => do
          pure (Value.number (calculate o (← read spot).toNumber v.toNumber))
      put spot v
      pure v
    | .count p up before =>
      let spot ← locate perform fuel p
      let x := (← read spot).toNumber
      let y := if up then x + 1.0 else x - 1.0
      put spot (.number y)
      pure (.number (if before then y else x))
    | .choice c yes no =>
      if (← evaluate perform fuel c).isTrue then evaluate perform fuel yes
      else evaluate perform fuel no
    | .both a b =>
      if (← evaluate perform fuel a).isTrue then
        pure (.ofBool (← evaluate perform fuel b).isTrue)
      else pure (.ofBool false)
    | .either a b =>
      if (← evaluate perform fuel a).isTrue then pure (.ofBool true)
      else pure (.ofBool (← evaluate perform fuel b).isTrue)
    | .not e => do
      pure (.ofBool (!(← evaluate perform fuel e).isTrue))
    | .negative e => do
      pure (.number (-(← evaluate perform fuel e).toNumber))
    | .positive e => do
      pure (.number (← evaluate perform fuel e).toNumber)
    | .operate o a b =>
      let x ← evaluate perform fuel a
      let y ← evaluate perform fuel b
      pure (.number (calculate o x.toNumber y.toNumber))
    | .compare c a b =>
      let x ← evaluate perform fuel a
      let y ← evaluate perform fuel b
      pure (.ofBool (holds c (orderValues (← numberFormat) x y)))
    | .joined a b =>
      let x ← textOfValue (← evaluate perform fuel a)
      let y ← textOfValue (← evaluate perform fuel b)
      pure (.text (x ++ y))
    | .matching negated a b =>
      let text ← textOfValue (← evaluate perform fuel a)
      let p ← patternIn perform fuel b
      pure (.ofBool (p.matches? text != negated))
    | .member keys table =>
      let key ← keyOf (← evaluateAll perform fuel keys)
      pure (.ofBool (← modifyTable (← tableOf table) fun t => t.has key))
    | .call f arguments => invoke perform fuel f arguments
    | .ability .length [.value (.variable n)] =>
      match ← slot n with
      | .table i => pure (.ofNat (((← get).tables[i]?).getD .empty).count)
      | .value _ => able perform .length [← variable' n]
    | .ability .search [text, pattern] =>
      let text ← textOfValue (← evaluate perform fuel text)
      let p ← patternIn perform fuel pattern
      let (start, length) : Int × Int := match p.find? text.toArray 0 with
        | some m => (m.start + 1, m.stop - m.start)
        | none => (0, -1)
      putKnown Known.matchStart (.number (Float.ofInt start))
      putKnown Known.matchLength (.number (Float.ofInt length))
      pure (.number (Float.ofInt start))
    | .ability a arguments => able perform a (← evaluateAll perform fuel arguments)
    | .substitute all pattern replacement target =>
      let p ← patternIn perform fuel pattern
      let replacement ← textOfValue (← evaluate perform fuel replacement)
      let spot ← locate perform fuel target
      let text := (← textOfValue (← read spot)).toArray
      let (pieces, n) := substituted p all replacement text (text.size + 2) 0 none
      if 0 < n then put spot (.text pieces.flatten)
      pure (.ofNat n)
    | .split text table separator =>
      let text ← textOfValue (← evaluate perform fuel text)
      let s ← match separator with
        | none => separatorOf (← knownText Known.separator)
        | some (.pattern p) => pure (if p.source.isEmpty then .each else .pattern p)
        | some e => separatorOf (← textOfValue (← evaluate perform fuel e))
      let values := ((parts s text).map Value.given).toArray
      let i ← tableOf table
      modify fun m => { m with tables := m.tables.setIfInBounds i (.ofRow values) }
      pure (.ofNat values.size)
    | .next target =>
      let spot ← locate? perform fuel target
      received spot (← nextRecord readLimit)
    | .nextOfFile file target =>
      let spot ← locate? perform fuel target
      match ← fileFeed (← textOfValue (← evaluate perform fuel file)) with
      | none => pure (.number (-1.0))
      | some f => received spot (← nextOfFeed f)
    | .nextOfCommand command target =>
      let text ← textOfValue (← evaluate perform fuel command)
      let spot ← locate? perform fuel target
      received spot (← nextOfFeed (← commandFeed perform text))

def evaluateAll (perform : Perform) : Nat → List Expression → Run (List Value)
  | 0, _ => act endless
  | _, [] => pure []
  | fuel + 1, e :: rest => do
    let v ← evaluate perform fuel e
    pure (v :: (← evaluateAll perform fuel rest))

def patternIn (perform : Perform) : Nat → Expression → Run Pattern
  | 0, _ => act endless
  | fuel + 1, e => do
    match e with
    | .pattern p => pure p
    | e => patternOf (← textOfValue (← evaluate perform fuel e))

def locate (perform : Perform) : Nat → Place → Run Spot
  | 0, _ => act endless
  | fuel + 1, p => do
    match p with
    | .variable n => pure (.variable n)
    | .element table keys =>
      let key ← keyOf (← evaluateAll perform fuel keys)
      let i ← tableOf table
      let _ ← modifyTable i fun t => t.get key .unset
      pure (.element i key)
    | .field e => do
      pure (.field (← fieldIndex (← evaluate perform fuel e)))

def locate? (perform : Perform) : Nat → Option Place → Run (Option Spot)
  | 0, _ => act endless
  | fuel + 1, p => do
    match p with
    | none => pure none
    | some p => pure (some (← locate perform fuel p))

def slots (perform : Perform) : Nat → List Bool → List Expression → Run (List Slot)
  | 0, _, _ => act endless
  | _, [], _ => pure []
  | fuel + 1, table :: tables, es => do
    let s ← match table, es with
      | true, .value (.variable n) :: _ => do pure (Slot.table (← tableOf n))
      | true, _ =>
        let m ← get
        set { m with tables := m.tables.push .empty }
        pure (.table m.tables.size)
      | false, e :: _ => do pure (.value (← evaluate perform fuel e))
      | false, [] => pure (.value .unset)
    pure (s :: (← slots perform fuel tables (es.drop 1)))

def invoke (perform : Perform) : Nat → Nat → List Expression → Run Value
  | 0, _, _ => act endless
  | fuel + 1, f, arguments => do
    let m ← get
    let callee := (m.program.functions[f]?).getD default
    if callLimit ≤ m.depth then
      if callee.tables.isEmpty then act (throw (.killed 11))
      else broken (bytesOf "program limit exceeded: eval stack size=1024")
    let own ← slots perform fuel callee.tables arguments
    let before ← get
    set { before with own := own.toArray, depth := before.depth + 1 }
    let restore : Run Unit := modify fun t => { t with
      own := m.own, depth := m.depth, tables := t.tables.extract 0 m.tables.size }
    try
      execute perform fuel callee.body
      restore
      pure .unset
    catch
      | .back v =>
        restore
        pure v
      | l =>
        restore
        throw l

def targetOf (perform : Perform) : Nat → Option (Direction × Expression) →
    Run (Option (Direction × Bytes))
  | 0, _ => act endless
  | fuel + 1, target => do
    match target with
    | none => pure none
    | some (d, e) => pure (some (d, ← textOfValue (← evaluate perform fuel e)))

def execute (perform : Perform) : Nat → Statement → Run Unit
  | 0, _ => act endless
  | fuel + 1, s => do
    match s with
    | .nothing => pure ()
    | .evaluate e =>
      let _ ← evaluate perform fuel e
    | .print values target =>
      let values ← if values.isEmpty then do pure [← record] else evaluateAll perform fuel values
      let target ← targetOf perform fuel target
      let format ← knownText Known.outputFormat
      let separator ← knownText Known.outputSeparator
      let texts ← values.mapM fun v => match v with
        | .number x => pure (numberText format x)
        | v => textOfValue v
      emit target (separator.intercalate texts ++ (← knownText Known.outputEnd))
    | .layOut values target =>
      let values ← evaluateAll perform fuel values
      let target ← targetOf perform fuel target
      let (bytes, fault) ← laidOut "printf" values
      emit target bytes
      match fault with
      | some message => brokenHere message
      | none => pure ()
    | .choose c yes no =>
      if (← evaluate perform fuel c).isTrue then execute perform fuel yes
      else execute perform fuel no
    | .loop c next body => loop perform fuel c next body
    | .loopOnce body c =>
      if ← turn perform fuel body then
        loop perform fuel c .nothing body
    | .each n table body =>
      let i ← tableOf table
      let keys ← modifyTable i fun t => t.keys
      overKeys perform fuel n keys body
    | .block body => executeAll perform fuel body
    | .leave => throw .leave
    | .again => throw .again
    | .nextRecord => throw .nextRecord
    | .nextFile => throw .nextFile
    | .exit status =>
      match status with
      | some e =>
        let n := wholeOf (← evaluate perform fuel e).toNumber
        modify fun m => { m with status := (n % 256).toNat }
      | none => pure ()
      throw .exit
    | .back value =>
      match value with
      | some e => throw (.back (← evaluate perform fuel e))
      | none => throw (.back .unset)
    | .remove table keys =>
      let i ← tableOf table
      match keys with
      | none => modify fun m => { m with tables := m.tables.setIfInBounds i .empty }
      | some keys =>
        let key ← keyOf (← evaluateAll perform fuel keys)
        modifyTable i fun t => ((), t.remove key)

def executeAll (perform : Perform) : Nat → List Statement → Run Unit
  | 0, _ => act endless
  | _, [] => pure ()
  | fuel + 1, s :: rest => do
    execute perform fuel s
    executeAll perform fuel rest

def turn (perform : Perform) : Nat → Statement → Run Bool
  | 0, _ => act endless
  | fuel + 1, body => do
    try
      execute perform fuel body
      pure true
    catch
      | .leave => pure false
      | .again => pure true
      | l => throw l

def loop (perform : Perform) : Nat → Expression → Statement → Statement → Run Unit
  | 0, _, _, _ => act endless
  | fuel + 1, c, next, body => do
    if (← evaluate perform fuel c).isTrue then
      if ← turn perform fuel body then
        execute perform fuel next
        loop perform fuel c next body

def overKeys (perform : Perform) : Nat → Name → List Bytes → Statement → Run Unit
  | 0, _, _, _ => act endless
  | _, _, [], _ => pure ()
  | fuel + 1, n, key :: rest, body => do
    putVariable n (.text key)
    if ← turn perform fuel body then overKeys perform fuel n rest body

end

def stepLimit : Nat := 10000000

def runRule (perform : Perform) (index : Nat) (rule : Occasion × Statement) : Run Unit := do
  let body : Run Unit := execute perform stepLimit rule.2
  let isTrue (e : Expression) : Run Bool := do
    pure (← evaluate perform stepLimit e).isTrue
  match rule.1 with
  | .first => pure ()
  | .last => pure ()
  | .always => body
  | .when c => if ← isTrue c then body
  | .range start stop =>
    let on := (← get).ranges.contains index
    if on || (← isTrue start) then
      let ends ← isTrue stop
      modify fun m => { m with
        ranges := (if ends then [] else [index]) ++ m.ranges.filter (· ≠ index) }
      body

def runRecords (perform : Perform) (rules : List ((Occasion × Statement) × Nat)) : Nat → Run Unit
  | 0 => act endless
  | fuel + 1 => do
    match ← nextRecord readLimit with
    | none => pure ()
    | some line =>
      putRecord line
      try
        for (rule, index) in rules do
          runRule perform index rule
      catch
        | .nextRecord => pure ()
        | .nextFile => modify fun m => { m with main := none }
        | l => throw l
      runRecords perform rules fuel

def runAside (perform : Perform) (rules : List (Occasion × Statement)) : Run Unit := do
  for (_, body) in rules do
    execute perform stepLimit body

def isFirst : Occasion → Bool
  | .first => true
  | _ => false

def isLast : Occasion → Bool
  | .last => true
  | _ => false

def runProgram (perform : Perform) : Run Unit := do
  let rules := (← get).program.rules
  let last := rules.filter (isLast ·.1)
  let records := (rules.filter fun r => !isFirst r.1 && !isLast r.1).zipIdx
  try
    runAside perform (rules.filter (isFirst ·.1))
    if !(records.isEmpty && last.isEmpty) then runRecords perform records stepLimit
  catch
    | .exit => pure ()
    | l => throw l
  runAside perform last

end Run

def Memory.start (program : Program) (name : String) (separator : Option Bytes)
    (arguments : List Bytes) (environment : List (Bytes × Bytes)) : Memory :=
  let first (i : Nat) : Value :=
    if i = Known.separator then .text (separator.getD [0x20])
    else if i = Known.outputSeparator then .text [0x20]
    else if i = Known.recordSeparator then .text [0x0A]
    else if i = Known.outputEnd then .text [0x0A]
    else if i = Known.keySeparator then .text [0x1C]
    else if i = Known.numberFormat then .text (bytesOf "%.6g")
    else if i = Known.outputFormat then .text (bytesOf "%.6g")
    else if i = Known.argumentCount then .ofNat (arguments.length + 1)
    else if i = Known.record ∨ i = Known.fileRecord then .number 0.0
    else if i = Known.matchStart then .number 0.0
    else if i = Known.matchLength then .number (-1.0)
    else .unset
  let slots := program.globals.zipIdx.map fun ((_, table), i) =>
    if table then Slot.table i else .value (first i)
  let given : Table Value := ((bytesOf name :: arguments).zipIdx).foldl (fun t (w, i) =>
    t.set (.number i) (.given w)) .empty
  let outside : Table Value := environment.foldl (fun t (k, v) => t.set (.text k) (.given v)) .empty
  let tables := program.globals.zipIdx.map fun (_, i) =>
    if i = Known.arguments then given else if i = Known.environment then outside else .empty
  { program := program, name := name, shared := slots.toArray, own := #[]
    tables := tables.toArray, row := ⟨.unset, none⟩, patterns := [], sinks := [], feeds := []
    main := none, argument := 1, named := false, ranges := [], random := Run.seeded 1
    seed := .number 0.0, depth := 0, status := 0 }

def Memory.run (m : Memory) (perform : Perform) (given : List (String × Bytes)) : Action Nat := do
  let body : Run Unit := do
    for (name, value) in given do
      Run.assignOutside name value
    Run.runProgram perform
  let (_, m) ← (body.run).run m
  let (_, m) ← ((Run.closeAll perform).run).run m
  pure m.status

end CallChart.Shell.Record
