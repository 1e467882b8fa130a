import CallChart.Shell.Record.Grammar
import CallChart.Shell.Record.Table
import CallChart.Shell.Tool.Basic

namespace CallChart.Shell.Record

open CallChart.Shell.Action

inductive Slot where
  | value (v : Value)
  | table (index : Nat)
  deriving Inhabited

structure Sink where
  name : Bytes
  direction : Direction
  stream : Option Nat
  pending : List Bytes

structure Feed where
  name : Bytes
  ending : Option Ending
  rest : Bytes
  stream : Option Nat

structure Row where
  text : Value
  fields : Option (Array Value)

structure Memory where
  program : Program
  name : String
  shared : Array Slot
  own : Array Slot
  tables : Array (Table Value)
  row : Row
  patterns : List (Bytes × Pattern)
  sinks : List Sink
  feeds : List Feed
  main : Option Feed
  argument : Nat
  named : Bool
  ranges : List Nat
  random : Array UInt32
  seed : Value
  depth : Nat
  status : Nat

inductive Leave where
  | leave
  | again
  | nextRecord
  | nextFile
  | exit
  | back (v : Value)
  | broken

abbrev Run := ExceptT Leave (StateT Memory Action)

namespace Run

def act {α : Type} (a : Action α) : Run α := liftM (m := Action) a

def slot (n : Name) : Run Slot := do
  let m ← get
  pure <| match n with
    | .shared i => (m.shared[i]?).getD default
    | .own i => (m.own[i]?).getD default

def putSlot (n : Name) (s : Slot) : Run Unit :=
  modify fun m => match n with
    | .shared i => { m with shared := m.shared.setIfInBounds i s }
    | .own i => { m with own := m.own.setIfInBounds i s }

def known (i : Nat) : Run Value := do
  match ((← get).shared[i]?).getD default with
  | .value v => pure v
  | .table _ => pure .unset

def putKnown (i : Nat) (v : Value) : Run Unit :=
  modify fun m => { m with shared := m.shared.setIfInBounds i (.value v) }

def numberFormat : Run Bytes := do
  match ← known Known.numberFormat with
  | .number _ => pure (bytesOf "%.6g")
  | v => pure (v.toText [])

def textOfValue (v : Value) : Run Bytes := do
  match v with
  | .number x => pure (numberText (← numberFormat) x)
  | v => pure (v.toText [])

def knownText (i : Nat) : Run Bytes := do
  textOfValue (← known i)

def tableOf (n : Name) : Run Nat := do
  match ← slot n with
  | .table i => pure i
  | .value _ =>
    let m ← get
    let i := m.tables.size
    set { m with tables := m.tables.push .empty }
    putSlot n (.table i)
    pure i

def modifyTable {α : Type} (i : Nat) (f : Table Value → α × Table Value) : Run α := do
  let m ← get
  let t := (m.tables[i]?).getD .empty
  -- the table is taken out, so that it is changed in place
  set { m with tables := m.tables.setIfInBounds i .empty }
  let (a, t) := f t
  modify fun m => { m with tables := m.tables.setIfInBounds i t }
  pure a

def broken {α : Type} (message : Bytes) : Run α := do
  let name := (← get).name
  let _ ← act (write 2 (bytesOf (name ++ ": ") ++ message ++ [0x0A]))
  modify fun m => { m with status := 2 }
  throw .broken

def brokenHere {α : Type} (message : Bytes) : Run α := do
  let number (i : Nat) : Run String := do
    pure (toString (wholeOf (← known i).toNumber))
  broken (bytesOf "run time error: " ++ message ++ bytesOf "\n\tFILENAME=\"" ++
    (← knownText Known.file) ++ bytesOf ("\" FNR=" ++ (← number Known.fileRecord) ++ " NR=" ++
      (← number Known.record)))

def patternOf (source : Bytes) : Run Pattern := do
  match (← get).patterns.lookup source with
  | some p => pure p
  | none =>
    match Pattern.read source with
    | .ok p =>
      modify fun m => { m with patterns := (source, p) :: m.patterns }
      pure p
    | .error message => brokenHere (bytesOf message)

inductive Separator where
  | blanks
  | each
  | byte (b : UInt8)
  | pattern (p : Pattern)

def separatorOf (text : Bytes) : Run Separator := do
  match text with
  | [] => pure .each
  | [0x20] => pure .blanks
  | [b] => pure (.byte b)
  | source => pure (.pattern (← patternOf source))

def words : Nat → Bytes → List Bytes
  | 0, _ => []
  | fuel + 1, bs =>
    match bs.dropWhile isBlank with
    | [] => []
    | bs =>
      let word := bs.takeWhile fun b => !isBlank b
      word :: words fuel (bs.drop word.length)

def solid? (p : Pattern) (text : Array UInt8) : Nat → Nat → Option Regex.Match
  | 0, _ => none
  | fuel + 1, place =>
    match p.find? text place with
    | none => none
    | some m => if m.start < m.stop then some m else solid? p text fuel (m.start + 1)

def between (p : Pattern) (text : Array UInt8) : Nat → Nat → List Bytes
  | 0, place => [(text.extract place text.size).toList]
  | fuel + 1, place =>
    match solid? p text (text.size + 1 - place) place with
    | none => [(text.extract place text.size).toList]
    | some m => (text.extract place m.start).toList :: between p text fuel m.stop

def parts (s : Separator) (text : Bytes) : List Bytes :=
  if text.isEmpty then []
  else
    match s with
    | .blanks => words (text.length + 1) text
    | .each => text.map ([·])
    | .byte b =>
      let cut := text.foldr (fun c (s : Bytes × List Bytes) =>
        if c = b then ([], s.1 :: s.2) else (c :: s.1, s.2)) (([] : Bytes), ([] : List Bytes))
      cut.1 :: cut.2
    | .pattern p => between p text.toArray (text.length + 1) 0

def record : Run Value := do
  pure (← get).row.text

def fields : Run (Array Value) := do
  match (← get).row.fields with
  | some fields => pure fields
  | none =>
    let text ← textOfValue (← get).row.text
    let separator ← separatorOf (← knownText Known.separator)
    let fields := ((parts separator text).map Value.given).toArray
    modify fun m => { m with row := { m.row with fields := some fields } }
    pure fields

def putRecord (text : Bytes) : Run Unit :=
  modify fun m => { m with row := ⟨.given text, none⟩ }

def putFields (fields : Array Value) : Run Unit := do
  let text ← if fields.size = 1 then pure ((fields[0]?).getD .unset)
    else do
      let separator ← knownText Known.outputSeparator
      pure (Value.given (separator.intercalate (← fields.toList.mapM textOfValue)))
  modify fun m => { m with row := ⟨text, some fields⟩ }

def fieldLimit : Float := 2147483647.0

def fieldIndex (v : Value) : Run Nat := do
  let x := v.toNumber
  if x < 0.0 then
    brokenHere (bytesOf "negative field index $" ++ numberText (bytesOf "%.6g") (truncated x))
  else pure (min x fieldLimit).toUInt64.toNat

def field (i : Nat) : Run Value := do
  if i = 0 then record else pure (((← fields)[i - 1]?).getD .unset)

def widened (fields : Array Value) (count : Nat) : Array Value :=
  fields ++ Array.replicate (count - fields.size) (Value.text [])

def putField (i : Nat) (v : Value) : Run Unit := do
  if i = 0 then putRecord (← textOfValue v)
  else putFields ((widened (← fields) i).setIfInBounds (i - 1) v)

def putFieldCount (v : Value) : Run Unit := do
  let x := v.toNumber
  if x < 0.0 then brokenHere (bytesOf "negative value assigned to NF")
  else
    let n := (min x fieldLimit).toUInt64.toNat
    putFields ((widened (← fields) n).extract 0 n)

def variable' (n : Name) : Run Value := do
  if n = .shared Known.fields then pure (.ofNat (← fields).size)
  else
    match ← slot n with
    | .value v => pure v
    | .table _ => pure .unset

def putVariable (n : Name) (v : Value) : Run Unit := do
  if n = .shared Known.fields then putFieldCount v else putSlot n (.value v)

def isStandardOutput (name : Bytes) : Bool := name == bytesOf "/dev/stdout"

def drain (s : Sink) : Run Sink := do
  match s.stream with
  | none => pure s
  | some id =>
    match ← act (writeStream id s.pending.reverse.flatten) with
    | none => pure { s with pending := [] }
    | some fault =>
      broken (bytesOf "close failed on file \"" ++ s.name ++ bytesOf ("\" (" ++ fault ++ ")"))

def drainAll : Run Unit := do
  act flush
  let sinks ← (← get).sinks.mapM drain
  modify fun m => { m with sinks := sinks }

def started (perform : Perform) (text : Bytes) : Run Ending :=
  act (Tool.waited perform "/bin/sh" [bytesOf "/bin/sh", bytesOf "-c", text])

def fed (perform : Perform) (s : Sink) : Run Ending := do
  let bytes := s.pending.reverse.flatten
  let ready := (← act getWorld).elapsed
  let before ← act (streamOf 0)
  act (connect 0 (some (← act (openStream (.input bytes ready true)))))
  let e ← started perform s.name
  act (connect 0 before)
  pure e

def closeSink (perform : Perform) (s : Sink) : Run Int := do
  match s.direction with
  | .command => pure ((← fed perform s).code : Int)
  | _ =>
    let _ ← drain s
    pure 0

def sink (d : Direction) (name : Bytes) : Run Unit := do
  let m ← get
  let same (s : Sink) : Bool := s.name == name && (s.direction == .command) == (d == .command)
  match m.sinks.find? same with
  | some s => set { m with sinks := s :: m.sinks.filter fun t => !same t }
  | none =>
    match d with
    | .command =>
      drainAll
      modify fun m => { m with sinks := ⟨name, d, none, []⟩ :: m.sinks }
    | d =>
      match ← act (openOutput (textOf name) (if d = .append then .append else .empty)) with
      | .ok id => modify fun m => { m with sinks := ⟨name, d, some id, []⟩ :: m.sinks }
      | .error fault =>
        broken (bytesOf "cannot open \"" ++ name ++
          bytesOf ("\" for output (" ++ fault.reason ++ ")"))

def emit (target : Option (Direction × Bytes)) (bytes : Bytes) : Run Unit := do
  match target with
  | none => act (output bytes)
  | some (d, name) =>
    if d ≠ .command ∧ isStandardOutput name then act (output bytes)
    else if d ≠ .command ∧ name = bytesOf "/dev/stderr" then
      let _ ← act (write 2 bytes)
    else
      sink d name
      modify fun m => match m.sinks with
        | s :: rest => { m with sinks := { s with pending := bytes :: s.pending } :: rest }
        | [] => m

def closeAll (perform : Perform) : Run Unit := do
  let sinks := (← get).sinks
  modify fun m => { m with sinks := [] }
  for s in sinks do
    let _ ← closeSink perform s

def chunkSize : Nat := 4096

def chunk (id : Nat) : Action (Option Bytes) := do
  let w ← getWorld
  let bytes := match w.stream id with
    | .zeros => List.replicate chunkSize 0
    | .full => List.replicate chunkSize 0
    | _ => (w.readable id).take chunkSize
  if bytes.isEmpty ∧ !w.ends id then endless
  else
    modifyWorld (·.consume id bytes.length)
    pure (if bytes.isEmpty then none else some bytes)

def more (f : Feed) : Run Feed := do
  match f.stream with
  | none => pure f
  | some id =>
    match (← act getWorld).unreadable? id with
    | some fault => broken (bytesOf ("read error (" ++ fault.reason ++ ")"))
    | none =>
      match ← act (chunk id) with
      | none => pure { f with stream := none }
      | some bytes => pure { f with rest := f.rest ++ bytes }

inductive Cut where
  | at (stop next : Nat)
  | unclear
  deriving Repr

def cutByte (b : UInt8) (bs : Bytes) : Cut :=
  let line := bs.takeWhile (· ≠ b)
  if line.length < bs.length then .at line.length (line.length + 1) else .unclear

def cutPattern (p : Pattern) (ended : Bool) (bs : Bytes) : Cut :=
  let text := bs.toArray
  match solid? p text (text.size + 1) 0 with
  | some m => if m.stop = text.size ∧ !ended then .unclear else .at m.start m.stop
  | none => .unclear

def paragraphLength : Bytes → Nat
  | 0x0A :: 0x0A :: _ => 0
  | [] => 0
  | _ :: rest => paragraphLength rest + 1

def cutParagraph (ended : Bool) (bs : Bytes) : Cut :=
  let length := paragraphLength bs
  let behind := bs.drop length
  let gap := (behind.takeWhile (· = 0x0A)).length
  if length = bs.length ∨ (gap = behind.length ∧ !ended) then .unclear
  else .at length (length + gap)

inductive Division where
  | byte (b : UInt8)
  | paragraphs
  | pattern (p : Pattern)

def division : Run Division := do
  match ← knownText Known.recordSeparator with
  | [] => pure .paragraphs
  | [b] => pure (.byte b)
  | source => pure (.pattern (← patternOf source))

def cut (d : Division) (f : Feed) : Cut :=
  match d with
  | .byte b => cutByte b f.rest
  | .paragraphs => cutParagraph f.stream.isNone f.rest
  | .pattern p => cutPattern p f.stream.isNone f.rest

def readLimit : Nat := 1000000

def nextOf (d : Division) : Nat → Feed → Run (Option Bytes × Feed)
  | 0, _ => act endless
  | fuel + 1, f => do
    let f : Feed := match d with
      | .paragraphs => { f with rest := f.rest.dropWhile (· = 0x0A) }
      | _ => f
    match if f.rest.isEmpty then Cut.unclear else cut d f with
    | .at stop next => pure (some (f.rest.take stop), { f with rest := f.rest.drop next })
    | .unclear =>
      if f.stream.isSome then nextOf d fuel (← more f)
      else if f.rest.isEmpty then pure (none, f)
      else
        let last := match d with
          | .paragraphs => (f.rest.reverse.dropWhile (· = 0x0A)).reverse
          | _ => f.rest
        pure (some last, { f with rest := [] })

def countUp (i : Nat) : Run Unit := do
  putKnown i (.number ((← known i).toNumber + 1.0))

def assignment? (bs : Bytes) : Option (String × Bytes) :=
  let name := bs.takeWhile ByteClass.isWord
  match bs.drop name.length with
  | 0x3D :: value =>
    if (name.head?.map Token.isNameStart).getD false then some (textOf name, value) else none
  | _ => none

def assignOutside (name : String) (value : Bytes) : Run Unit := do
  match (← get).program.globals.findIdx? (·.1 = name) with
  | none => pure ()
  | some i =>
    match ← slot (.shared i) with
    | .table _ => pure ()
    | .value _ =>
      putVariable (.shared i) (.given (Token.unescaped (value.length + 1) value))

def openNext : Nat → Run Bool
  | 0 => pure false
  | fuel + 1 => do
    let m ← get
    let count := (← known Known.argumentCount).toNumber
    if Float.ofNat m.argument < count then
      set { m with argument := m.argument + 1 }
      let i ← tableOf (.shared Known.arguments)
      let query : Table.Query := .number m.argument
      let given ← modifyTable i fun t =>
        match t.has query with
        | (true, t) => t.get query .unset
        | (false, t) => (.unset, t)
      let word ← textOfValue given
      match word, assignment? word with
      | [], _ => openNext fuel
      | word, some (name, value) =>
        if word.head? = some 0x2D then openNext fuel
        else
          assignOutside name value
          openNext fuel
      | word, none =>
        putKnown Known.file (.text word)
        putKnown Known.fileRecord (.number 0.0)
        modify fun m => { m with named := true }
        let opened : Except FileFault (Option Nat) ← if word = [0x2D] then do
            pure (.ok (← act (streamOf 0)))
          else do pure ((← act (openInput (textOf word))).map some)
        match opened with
        | .ok (some id) =>
          modify fun m => { m with main := some ⟨word, none, [], some id⟩ }
          pure true
        | .ok none => broken (bytesOf "read error (Bad file descriptor)")
        | .error fault =>
          broken (bytesOf "cannot open \"" ++ word ++ bytesOf ("\" (" ++ fault.reason ++ ")"))
    else if m.named then pure false
    else
      set { m with named := true }
      putKnown Known.file (.text [0x2D])
      match ← act (streamOf 0) with
      | some id =>
        modify fun m => { m with main := some ⟨[0x2D], none, [], some id⟩ }
        pure true
      | none => broken (bytesOf "read error (Bad file descriptor)")

def nextRecord : Nat → Run (Option Bytes)
  | 0 => pure none
  | fuel + 1 => do
    match (← get).main with
    | none =>
      if ← openNext (2 * (← get).argument + wholeOf (← known Known.argumentCount).toNumber |>.toNat)
      then nextRecord fuel
      else pure none
    | some f =>
      let (line, f) ← nextOf (← division) readLimit f
      match line with
      | some line =>
        modify fun m => { m with main := some f }
        countUp Known.record
        countUp Known.fileRecord
        pure (some line)
      | none =>
        modify fun m => { m with main := none }
        nextRecord fuel

def nextOfFeed (f : Feed) : Run (Option Bytes) := do
  let (line, f) ← nextOf (← division) readLimit f
  modify fun m => { m with
    feeds := f :: m.feeds.filter fun g =>
      !(g.name == f.name && g.ending.isSome == f.ending.isSome) }
  pure line

def fileFeed (name : Bytes) : Run (Option Feed) := do
  match (← get).feeds.find? fun f => f.name == name && f.ending.isNone with
  | some f => pure (some f)
  | none =>
    let opened : Except FileFault (Option Nat) ← if name = [0x2D] then do
        pure (.ok (← act (streamOf 0)))
      else do pure ((← act (openInput (textOf name))).map some)
    match opened with
    | .ok (some id) => pure (some ⟨name, none, [], some id⟩)
    | _ => pure none

def commandFeed (perform : Perform) (text : Bytes) : Run Feed := do
  match (← get).feeds.find? fun f => f.name == text && f.ending.isSome with
  | some f => pure f
  | none =>
    drainAll
    let before ← act (streamOf 1)
    let id ← act (openStream (.output []))
    act (connect 1 (some id))
    let e ← started perform text
    act (connect 1 before)
    act (modifyWorld fun w => { w with elapsed := max w.elapsed (w.heldUntil id) })
    pure ⟨text, some e, (← act getWorld).written id, none⟩

def endingNumber : Ending → Int
  | .status n => n
  | .signal n => 256 + n

def close (perform : Perform) (name : Bytes) : Run Int := do
  let m ← get
  let sinks := m.sinks.filter (·.name == name)
  let feeds := m.feeds.filter (·.name == name)
  set { m with
    sinks := m.sinks.filter (·.name != name), feeds := m.feeds.filter (·.name != name) }
  let mut result : Int := -1
  for s in sinks do
    result ← match s.direction with
      | .command => do pure (endingNumber (← fed perform s))
      | _ => closeSink perform s
  for f in feeds do
    result := (f.ending.map endingNumber).getD 0
  pure result

def seeded (seed : UInt32) : Array UInt32 :=
  let seed := if seed = 0 then 1 else seed
  let signed (n : UInt32) : Int :=
    if n.toNat < 2147483648 then n.toNat else (n.toNat : Int) - 4294967296
  let next (n : UInt32) : UInt32 :=
    let r := Int.tmod (16807 * signed n) 2147483647
    UInt32.ofNat (if r < 0 then r + 2147483647 else r).toNat
  let first := (List.range 30).foldl (fun (a : Array UInt32) _ => a.push (next (a.back?.getD 1)))
    #[seed]
  let first := (List.range 3).foldl (fun (a : Array UInt32) i => a.push ((a[i]?).getD 0)) first
  let words := (List.range 310).foldl (fun (a : Array UInt32) _ =>
    a.push ((a[a.size - 31]?).getD 0 + (a[a.size - 3]?).getD 0)) first
  words.extract (words.size - 31) words.size

def random : Run Float := do
  let a := (← get).random
  let word := (a[0]?).getD 0 + (a[28]?).getD 0
  modify fun m => { m with random := (a.extract 1 31).push word }
  pure (Float.ofNat (word / 2).toNat / 2147483647.0)

end Run
end CallChart.Shell.Record
