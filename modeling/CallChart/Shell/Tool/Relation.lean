import CallChart.Shell.Pattern
import CallChart.Shell.Tool.Copy
import CallChart.Shell.Tool.Naming

namespace CallChart.Shell.Tool

open CallChart.Shell.Action

inductive OrderCheck where
  | never
  | always
  | unpaired
  deriving DecidableEq

def OrderCheck.ofGiven (g : Given) (check nocheck : Char) : OrderCheck :=
  match g.last? [check, nocheck] with
  | some c => if c = check then .always else .never
  | none => .unpaired

def twoOperands (name : String) (g : Given) : Action (Except Nat (Bytes × Bytes)) := do
  match g.operands with
  | [] => pure (.error (← missingTwo "missing operand"))
  | [w] => pure (.error (← missingTwo ("missing operand after " ++ quoted w)))
  | [a, b] => pure (.ok (a, b))
  | _ :: _ :: w :: _ => pure (.error (← missingTwo ("extra operand " ++ quoted w)))
where
  missingTwo (message : String) : Action Nat := misuse name message 1

namespace Common

structure State where
  first : List Bytes
  second : List Bytes
  before : Option Bytes × Option Bytes
  unpaired : Bool
  warned : Bool × Bool
  output : List Bytes
  totals : Nat × Nat × Nat

structure Wanted where
  first : Bool
  second : Bool
  both : Bool
  separator : Bytes
  ending : UInt8
  check : OrderCheck

/-- The two lines to be compared when one is behind: the one before and the next one, or at the end
the latest two. -/
def outOfOrder (before : Option Bytes) (lines : List Bytes) : Bool :=
  match before, lines with
  | some a, b :: _ => Order.compareBytes a b == .gt
  | _, _ => false

def Wanted.step (w : Wanted) (s : State) : State × List Nat :=
  let order : Ordering := match s.first, s.second with
    | [], _ => .gt
    | _, [] => .lt
    | a :: _, b :: _ => Order.compareBytes a b
  let line := (if order = .gt then s.second.head? else s.first.head?).getD []
  let lead (n : Nat) : Bytes := (List.replicate n w.separator).flatten
  let columns (b : Bool) : Nat := if b then 1 else 0
  let shown : Bytes := match order with
    | .lt => if w.first then line ++ [w.ending] else []
    | .gt => if w.second then lead (columns w.first) ++ line ++ [w.ending] else []
    | .eq => if w.both then lead (columns w.first + columns w.second) ++ line ++ [w.ending]
      else []
  let unpaired := s.unpaired || order != .eq
  let checks : Bool := w.check = .always ∨ (w.check = .unpaired ∧ unpaired)
  let takesFirst := order != .gt
  let takesSecond := order != .lt
  let rest (takes : Bool) (lines : List Bytes) := if takes then lines.drop 1 else lines
  let faulty (takes warned : Bool) (before : Option Bytes) (lines : List Bytes) : Bool :=
    takes && checks && !warned &&
      (if (lines.drop 1).isEmpty then outOfOrder before lines
        else outOfOrder lines.head? (lines.drop 1))
  let one := faulty takesFirst s.warned.1 s.before.1 s.first
  let two := faulty takesSecond s.warned.2 s.before.2 s.second
  let (x, y, z) := s.totals
  (⟨rest takesFirst s.first, rest takesSecond s.second,
    (if takesFirst then s.first.head? else s.before.1,
      if takesSecond then s.second.head? else s.before.2),
    unpaired, (s.warned.1 || one, s.warned.2 || two), shown :: s.output,
    match order with
    | .lt => (x + 1, y, z)
    | .gt => (x, y + 1, z)
    | .eq => (x, y, z + 1)⟩, (if one then [1] else []) ++ if two then [2] else [])

end Common

def comm : Tool := withOptions ⟨"123z", "", [("check-order", '\x02'), ("nocheck-order", '\x03'),
    ("output-delimiter=", '\x04'), ("total", '\x05'), ("zero-terminated", 'z')]⟩ 1 fun name g => do
  match ← twoOperands name g with
  | .error status => pure status
  | .ok (a, b) =>
    match ← contents name a with
    | none => pure 1
    | some one =>
      match ← contents name b with
      | none => pure 1
      | some two =>
        let separator := (g.value? '\x04').getD [0x09]
        let separator := if separator.isEmpty then [0] else separator
        let w : Common.Wanted := ⟨!g.has '1', !g.has '2', !g.has '3', separator,
          if g.has 'z' then 0 else 0x0A, .ofGiven g '\x02' '\x03'⟩
        let mut s : Common.State :=
          ⟨linesBy w.ending one, linesBy w.ending two, (none, none), false,
          (false, false), [], (0, 0, 0)⟩
        let mut stopped := false
        for _ in List.range (s.first.length + s.second.length) do
          if !stopped ∧ !(s.first.isEmpty ∧ s.second.isEmpty) then
            let (next, faults) := w.step s
            s := { next with output := [] }
            output next.output.reverse.flatten
            for file in faults do
              if !stopped then
                say name ("file " ++ toString file ++ " is not in sorted order")
                stopped := w.check = .always
        if stopped then pure 1
        else
          if g.has '\x05' then
            let (x, y, z) := s.totals
            output (List.intercalate separator
              [bytesOf (toString x), bytesOf (toString y), bytesOf (toString z),
                bytesOf "total"] ++ [w.ending])
          if s.warned.1 ∨ s.warned.2 then
            say name "input is not in sorted order"
            pure 1
          else pure 0

namespace Join

structure Row where
  text : Bytes
  fields : List Bytes

inductive Column where
  | shared
  | field (second : Bool) (index : Nat)

structure Wanted where
  fields : Nat × Nat
  separator : Option UInt8
  whole : Bool
  fold : Bool
  filler : Bytes
  columns : Option (List Column)
  automatic : Bool
  unpaired : Bool × Bool
  paired : Bool
  ending : UInt8
  check : OrderCheck

def Wanted.row (w : Wanted) (line : Bytes) : Row :=
  let split (s : UInt8) : List Bytes :=
    line.foldr (fun b (parts : List Bytes) =>
      if b = s then [] :: parts
      else
        match parts with
        | [] => [[b]]
        | part :: rest => (b :: part) :: rest) [[]]
  let blank (b : UInt8) : Bool := ByteClass.isBlank b || b == 0x0A
  let rec words : Nat → Bytes → List Bytes
    | 0, _ => []
    | fuel + 1, bs =>
      let word := bs.takeWhile (!blank ·)
      let rest := bs.drop word.length
      if rest.isEmpty then [word] else word :: words fuel (rest.dropWhile blank)
  if w.whole then ⟨line, [line]⟩
  else
    match w.separator with
    | some s => ⟨line, if line.isEmpty then [] else split s⟩
    | none =>
      let body := line.dropWhile blank
      ⟨line, if body.isEmpty then [] else words (line.length + 1) body⟩

def Row.field (r : Row) (i : Nat) : Bytes := (r.fields[i]?).getD []

def Wanted.compare (w : Wanted) (a b : Bytes) : Ordering :=
  if w.fold then Order.compareBytes (a.map Order.upperByte) (b.map Order.upperByte)
  else Order.compareBytes a b

def Wanted.joined (w : Wanted) (counts : Nat × Nat) (a b : Option Row) : Bytes :=
  let between : Bytes := [w.separator.getD 0x20]
  let shared : Bytes := match a with
    | some r => r.field w.fields.1
    | none => (b.map (·.field w.fields.2)).getD []
  let shown (bs : Bytes) : Bytes := if bs.isEmpty then w.filler else bs
  let others (r : Option Row) (field count : Nat) : List Bytes :=
    let all := (r.map (·.fields)).getD []
    let count := if w.automatic then count else all.length
    ((List.range count).filter (· ≠ field)).map fun i => shown ((all[i]?).getD [])
  let cells := match w.columns with
    | some columns => columns.map fun
      | .shared => shown shared
      | .field second i => shown (((if second then b else a).map (·.field i)).getD [])
    | none => shown shared :: (others a w.fields.1 counts.1 ++ others b w.fields.2 counts.2)
  List.intercalate between cells ++ [w.ending]

/-- A file as it is read: the lines ahead, the number of the latest one and that line, and whether
it was found out of order. -/
structure Reading where
  rows : List Row
  number : Nat
  latest : Option Row
  warned : Bool

structure State where
  first : Reading
  second : Reading
  unpaired : Bool
  events : List (Bytes ⊕ String)
  stopped : Bool

def State.put (s : State) (bs : Bytes) : State := { s with events := .inl bs :: s.events }

def Wanted.advance (w : Wanted) (label : String) (second : Bool) (s : State) : State :=
  let r := if second then s.second else s.first
  let field := if second then w.fields.2 else w.fields.1
  let put (s : State) (r : Reading) : State :=
    if second then { s with second := r } else { s with first := r }
  match r.rows with
  | [] => s
  | _ :: rest =>
    let s := put s { r with rows := rest }
    let r := { r with rows := rest, number := r.number + 1 }
    match r.latest, rest with
    | some before, next :: _ =>
      let checks : Bool := w.check = .always ∨ (w.check = .unpaired ∧ s.unpaired)
      let wrong := checks && !r.warned &&
        w.compare (before.field field) (next.field field) == .gt
      let s := put s { r with latest := some next, warned := r.warned || wrong }
      if wrong then
        { s with
          events := .inr (label ++ ":" ++ toString (r.number + 1) ++ ": is not sorted: " ++
            textOf next.text) :: s.events
          stopped := w.check = .always }
      else s
    | _, _ => put s { r with latest := rest.head? }

def Wanted.alike (w : Wanted) (label : String) (second : Bool) (key : Bytes) :
    Nat → State → List Row × State
  | 0, s => ([], s)
  | fuel + 1, s =>
    let r := if second then s.second else s.first
    let field := if second then w.fields.2 else w.fields.1
    match r.rows with
    | row :: _ =>
      if w.compare (row.field field) key = .eq then
        let (rows, s) := w.alike label second key fuel (w.advance label second s)
        (row :: rows, s)
      else ([], s)
    | [] => ([], s)

def Wanted.run (w : Wanted) (labels : String × String) (counts : Nat × Nat) :
    Nat → State → State
  | 0, s => s
  | fuel + 1, s =>
    if s.stopped then s
    else
      match s.first.rows, s.second.rows with
      | [], [] => s
      | a :: _, [] =>
        let s := if w.unpaired.1 then s.put (w.joined counts (some a) none) else s
        if w.unpaired.1 ∨ w.check ≠ .never then
          w.run labels counts fuel (w.advance labels.1 false s)
        else s
      | [], b :: _ =>
        let s := if w.unpaired.2 then s.put (w.joined counts none (some b)) else s
        if w.unpaired.2 ∨ w.check ≠ .never then
          w.run labels counts fuel (w.advance labels.2 true s)
        else s
      | a :: more, b :: others =>
        match w.compare (a.field w.fields.1) (b.field w.fields.2) with
        | .lt =>
          let s := if w.unpaired.1 then s.put (w.joined counts (some a) none) else s
          let s := w.advance labels.1 false s
          w.run labels counts fuel
            { s with unpaired := true }
        | .gt =>
          let s := if w.unpaired.2 then s.put (w.joined counts none (some b)) else s
          let s := w.advance labels.2 true s
          w.run labels counts fuel
            { s with unpaired := true }
        | .eq =>
          let key := b.field w.fields.2
          let (rows, s) := w.alike labels.1 false key (more.length + 1) s
          let (rows', s) := w.alike labels.2 true key (others.length + 1) s
          let s := if w.paired ∧ !s.stopped then
              s.put (rows.flatMap fun a => rows'.flatMap fun b => w.joined counts (some a) (some b))
            else s
          w.run labels counts fuel s

def fieldOf (w : Bytes) : Except String Nat :=
  match countOf "" w with
  | .ok 0 => .error ("invalid field number: " ++ quote w)
  | .ok n => .ok (n - 1)
  | .error .tooLarge => .ok countLimit
  | .error _ => .error ("invalid field number: " ++ quote w)

def columnOf (w : Bytes) : Except String Column :=
  match w with
  | [0x30] => .ok .shared
  | 0x30 :: _ => .error ("invalid field specifier: " ++ quote w)
  | 0x31 :: 0x2E :: rest => (fieldOf rest).map (.field false)
  | 0x32 :: 0x2E :: rest => (fieldOf rest).map (.field true)
  | 0x31 :: _ => .error ("invalid field specifier: " ++ quote w)
  | 0x32 :: _ => .error ("invalid field specifier: " ++ quote w)
  | w => .error ("invalid file number in field spec: " ++ quote w)

def columnsOf (w : Bytes) : Except String (List Column) :=
  let parts := w.foldr (fun b (parts : List Bytes) =>
    if b = 0x2C ∨ b = 0x20 ∨ b = 0x09 then [] :: parts
    else
      match parts with
      | [] => [[b]]
      | part :: rest => (b :: part) :: rest) [[]]
  parts.mapM columnOf

def fileOf (w : Bytes) : Except String Nat :=
  match countOf "" w with
  | .ok 1 => .ok 1
  | .ok 2 => .ok 2
  | _ => .error ("invalid field number: " ++ quote w)

def wantedOf (g : Given) : Except String Wanted := do
  let field (c : Char) : Except String (Option Nat) := do
    match (← (g.values c).mapM fieldOf).getLast? with
    | some n => pure (some n)
    | none => pure none
  let one ← field '1'
  let two ← field '2'
  let both ← field 'j'
  match one, both with
  | some m, some n =>
    if m ≠ n then throw ("incompatible join fields " ++ toString m ++ ", " ++ toString n)
  | _, _ => pure ()
  let unpaired ← (g.values 'a').mapM fileOf
  let alone ← (g.values 'v').mapM fileOf
  let files := unpaired ++ alone
  let columns ← ((g.values 'o').filter (· ≠ bytesOf "auto")).mapM columnsOf
  let (separator, whole) ← match g.value? 't' with
    | none => pure (none, false)
    | some [] => pure (some 0x0A, true)
    | some [b] => pure (some b, false)
    | some [0x5C, 0x30] => pure (some 0, false)
    | some w => throw ("multi-character tab " ++ quote w)
  pure ⟨((one <|> both).getD 0, (two <|> both).getD 0), separator, whole, g.has 'i',
    (g.value? 'e').getD [], if columns.isEmpty then none else some columns.flatten,
    (g.values 'o').contains (bytesOf "auto"), (files.contains 1, files.contains 2),
    alone.isEmpty, if g.has 'z' then 0 else 0x0A, .ofGiven g '\x02' '\x03'⟩

end Join

def join : Tool := withOptions ⟨"iz", "12aejotv", [("check-order", '\x02'), ("header", '\x04'),
    ("ignore-case", 'i'), ("nocheck-order", '\x03'), ("zero-terminated", 'z')]⟩ 1 fun name g => do
  match Join.wantedOf g with
  | .error message =>
    say name message
    pure 1
  | .ok w =>
    match ← twoOperands name g with
    | .error status => pure status
    | .ok (a, b) =>
      if a = [0x2D] ∧ b = [0x2D] then
        say name "both files cannot be standard input"
        pure 1
      else
        match ← contents name a with
        | none => pure 1
        | some one =>
          match ← contents name b with
          | none => pure 1
          | some two =>
            let rows (bs : Bytes) : List Join.Row := (linesBy w.ending bs).map w.row
            let reading (rows : List Join.Row) : Join.Reading := ⟨rows, 0, rows.head?, false⟩
            let one := rows one
            let two := rows two
            let count (rows : List Join.Row) : Nat := ((rows.head?).map (·.fields.length)).getD 0
            let counts := (count one, count two)
            let s : Join.State := ⟨reading one, reading two, false, [], false⟩
            let labels := (named a, named b)
            let s := if g.has '\x04' ∧ !(one.isEmpty ∧ two.isEmpty) then
                let s := s.put (w.joined counts one.head? two.head?)
                let skip (r : Join.Reading) : Join.Reading :=
                  ⟨r.rows.drop 1, 1, (r.rows.drop 1).head?, false⟩
                { s with first := skip s.first, second := skip s.second }
              else s
            let s := w.run labels counts (one.length + two.length + 2) s
            for event in s.events.reverse do
              match event with
              | .inl bs => output bs
              | .inr message => say name message
            if s.stopped then pure 1
            else if s.first.warned ∨ s.second.warned then
              say name "input is not in sorted order"
              pure 1
            else pure 0

namespace Precedence

structure Item where
  name : Bytes
  behind : List Nat
  count : Nat
  printed : Bool
  deriving Inhabited

structure State where
  items : Array Item
  output : List Bytes

def item (s : State) (i : Nat) : Item := (s.items[i]?).getD default

def release : Nat → List Nat → State → State
  | 0, _, s => s
  | _, [], s => s
  | fuel + 1, i :: queue, s =>
    let x := item s i
    let items := s.items.setIfInBounds i { x with printed := true }
    let (items, freed) := x.behind.foldl (fun (t : Array Item × List Nat) j =>
      let y := (t.1[j]?).getD default
      let y := { y with count := y.count - 1 }
      (t.1.setIfInBounds j y, if y.count = 0 then t.2 ++ [j] else t.2)) (items, [])
    release fuel (queue ++ freed) ⟨items, x.name :: s.output⟩

/-- Follows a chain back until it closes. `chain` is the latest item first, and the result names
the loop and the relation to be dropped. -/
def findLoop (s : State) : Nat → List Nat → Option (List Nat × Nat × Nat)
  | 0, _ => none
  | fuel + 1, chain =>
    let walk (r : List Nat × Option (List Nat × Nat × Nat)) (k : Nat) :
        List Nat × Option (List Nat × Nat × Nat) :=
      if r.2.isSome then r
      else
        let x := item s k
        if x.count = 0 then r
        else
          match r.1 with
          | [] => ([k], none)
          | latest :: _ =>
            if !x.behind.contains latest then r
            else if r.1.dropLast.contains k then
              (r.1, some ((r.1.takeWhile (· ≠ k)) ++ [k], k, latest))
            else (k :: r.1, none)
    let (chain, found) := (List.range s.items.size).foldl walk (chain, none)
    match found with
    | some f => some f
    | none => findLoop s fuel chain

def unrelate (s : State) (a b : Nat) : State :=
  let x := item s a
  let items := s.items.setIfInBounds a { x with behind := x.behind.erase b }
  let y := (items[b]?).getD default
  { s with items := items.setIfInBounds b { y with count := y.count - 1 } }

def ofPairs (pairs : List (Bytes × Bytes)) : State :=
  let names := ((pairs.flatMap fun (a, b) => [a, b]).mergeSort fun a b =>
    Order.compareBytes a b != .gt).eraseReps
  let index (w : Bytes) : Nat := names.idxOf w
  let items := (names.map fun w => (⟨w, [], 0, false⟩ : Item)).toArray
  ⟨pairs.foldl (fun (items : Array Item) (a, b) =>
    if a = b then items
    else
      let items := items.modify (index a) fun x => { x with behind := index b :: x.behind }
      items.modify (index b) fun y => { y with count := y.count + 1 }) items, []⟩

def ready (s : State) : List Nat :=
  (List.range s.items.size).filter fun i => !(item s i).printed && (item s i).count == 0

def isDone (s : State) : Bool := s.items.all (·.printed)

end Precedence

def tsort : Tool := withOptions ⟨"", "", []⟩ 1 fun name g => do
  match g.operands with
  | _ :: w :: _ => extraOperand name w
  | operands =>
    let file := operands.headD [0x2D]
    match ← contents name file with
    | none => pure 1
    | some bytes =>
      let words := (bytes.foldr (fun b (s : Bytes × List Bytes) =>
        if b = 0x20 ∨ b = 0x09 ∨ b = 0x0A then
          ([], if s.1.isEmpty then s.2 else s.1 :: s.2)
        else (b :: s.1, s.2)) (([] : Bytes), ([] : List Bytes)))
      let words := if words.1.isEmpty then words.2 else words.1 :: words.2
      let rec pairs : List Bytes → Option (List (Bytes × Bytes))
        | a :: b :: rest => (pairs rest).map ((a, b) :: ·)
        | [_] => none
        | [] => some []
      match pairs words with
      | none =>
        say name (named file ++ ": input contains an odd number of tokens")
        pure 1
      | some ps =>
        let mut s := Precedence.ofPairs ps
        let mut sound := true
        for _ in List.range (ps.length + 1) do
          if !Precedence.isDone s then
            s := Precedence.release (s.items.size + 1) (Precedence.ready s) s
            output (unlines s.output.reverse)
            s := { s with output := [] }
            if !Precedence.isDone s then
              sound := false
              say name (named file ++ ": input contains a loop:")
              match Precedence.findLoop s (s.items.size + 1) [] with
              | some (chain, a, b) =>
                for i in chain do
                  say name (textOf (Precedence.item s i).name)
                s := Precedence.unrelate s a b
              | none => pure ()
        pure (statusOf sound)

def mixed {α : Type} : Nat → Nat → List α → List α
  | 0, _, items => items
  | fuel + 1, seed, items =>
    let i := seed % max items.length 1
    match items.drop i with
    | [] => []
    | a :: behind =>
      a :: mixed fuel ((seed * 25214903917 + 11) % 281474976710656) (items.take i ++ behind)

def numberRange? (w : Bytes) : Option (Nat × Nat) :=
  let low := w.takeWhile ByteClass.isDigit
  match w.drop low.length with
  | 0x2D :: high =>
    match digits? low, digits? high with
    | some a, some b => if a ≤ b + 1 then some (a, b) else none
    | _, _ => none
  | _ => none

def shuf : Tool := withOptions ⟨"erz", "ino", [("echo", 'e'), ("head-count=", 'n'),
    ("input-range=", 'i'), ("output=", 'o'), ("random-source=", '\x02'), ("repeat", 'r'),
    ("zero-terminated", 'z')]⟩ 1 fun name g => do
  let ending : UInt8 := if g.has 'z' then 0 else 0x0A
  let count := (g.value? 'n').map (countOf "")
  let range := (g.value? 'i').map numberRange?
  match range, count with
  | some none, _ =>
    say name ("invalid input range: " ++ quote ((g.value? 'i').getD []))
    pure 1
  | _, some (.error .invalid) =>
    say name ("invalid line count: " ++ quote ((g.value? 'n').getD []))
    pure 1
  | _, some (.error .suffix) =>
    say name ("invalid line count: " ++ quote ((g.value? 'n').getD []))
    pure 1
  | range, count =>
    if g.has 'e' ∧ g.has 'i' then misuse name "cannot combine -e and -i options" 1
    else
      match g.has 'e', g.has 'i', g.operands with
      | false, true, w :: _ => extraOperand name w
      | false, false, _ :: w :: _ => extraOperand name w
      | _, _, operands =>
        let items ← if g.has 'e' then pure (some operands)
          else
            match range with
            | some (some (a, b)) =>
              pure (some ((List.range (b + 1 - a)).map fun i => bytesOf (toString (a + i))))
            | _ => do
              match ← contents name (operands.headD [0x2D]) with
              | some bytes => pure (some (linesBy ending bytes))
              | none => pure none
        match items with
        | none => pure 1
        | some items =>
          let all := mixed items.length (43112609 + items.length) items
          let limit := match count with
            | some (.ok n) => some n
            | _ => none
          if g.has 'r' ∧ items.isEmpty ∧ limit ≠ some 0 then
            say name "no lines to repeat"
            pure 1
          else
            let shown := match g.has 'r', limit with
              | true, some n => (List.range n).filterMap fun i => all[i * 7 % all.length]?
              | true, none => (List.range 10000).filterMap fun i => all[i * 7 % all.length]?
              | false, some n => all.take n
              | false, none => all
            let bytes := unlinesBy ending shown
            match g.value? 'o' with
            | some path =>
              match ← openOutput (textOf path) .empty with
              | .ok id => let _ ← writeStream id bytes
              | .error fault => sayOf name path fault.reason
            | none => output bytes
            if g.has 'r' ∧ limit.isNone then endless
            pure 0

end CallChart.Shell.Tool
