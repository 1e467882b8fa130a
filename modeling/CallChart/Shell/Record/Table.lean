import CallChart.Shell.Disk

namespace CallChart.Shell.Record

structure Key where
  text : Option Bytes
  number : Option Int
  deriving DecidableEq, Repr

abbrev Chains := Array (List Nat)

structure Table (α : Type) where
  entries : Array (Option (Key × Nat × α))
  size : Nat
  texts : Chains
  numbers : Chains
  spelled : Bool
  row : Option (Array α)

namespace Table

variable {α : Type}

def firstChains : Nat := 64

def chainLength : Nat := 12

def empty : Table α :=
  ⟨#[], 0, Array.replicate firstChains [], Array.replicate firstChains [], false, none⟩

instance : Inhabited (Table α) := ⟨empty⟩

def mix (text : Bytes) : Nat :=
  (text.foldl (fun (h : UInt32) b => (h ^^^ b.toUInt32) * 16777619) 2166136261).toNat

def numberText (n : Int) : Bytes := bytesOf (toString n)

def placeOf (chains : Chains) (n : Int) : Nat := (n % (chains.size : Int)).toNat

def chain (chains : Chains) (place : Nat) : List Nat := (chains[place]?).getD []

def toFront (chains : Chains) (place entry : Nat) : Chains :=
  chains.setIfInBounds place (entry :: (chain chains place).filter (· ≠ entry))

def without (chains : Chains) (place entry : Nat) : Chains :=
  chains.setIfInBounds place ((chain chains place).filter (· ≠ entry))

def lookup? (t : Table α) (i : Nat) : Option (Key × Nat × α) := ((t.entries[i]?).getD none)

def split (chains : Chains) (label : Nat → Int) : Chains :=
  let count := 2 * chains.size
  let part (upper : Bool) (i : Nat) : List Nat :=
    (chain chains i).filter fun e =>
      decide ((label e % (count : Int)).toNat = if upper then i + chains.size else i)
  Array.ofFn fun (i : Fin count) =>
    if i.val < chains.size then part false i.val else part true (i.val - chains.size)

def grow (t : Table α) : Table α :=
  let mixOf (e : Nat) : Int := ((t.lookup? e).map (·.2.1)).getD 0
  let numberOf (e : Nat) : Int := ((t.lookup? e).bind (·.1.number)).getD 0
  { t with texts := split t.texts mixOf, numbers := split t.numbers numberOf }

def push (t : Table α) (key : Key) (mix : Nat) (a : α) : Nat × Table α :=
  let t := { t with entries := t.entries.push (some (key, mix, a)), size := t.size + 1 }
  (t.entries.size - 1, if t.texts.size * chainLength < t.size then t.grow else t)

def chainCount (size : Nat) : Nat → Nat → Nat
  | 0, count => count
  | fuel + 1, count =>
    if count * chainLength < size then chainCount size fuel (2 * count) else count

def unrolled (t : Table α) : Table α :=
  match t.row with
  | none => t
  | some values =>
    let count := chainCount values.size 64 firstChains
    let start : Table α := { (empty : Table α) with
      texts := Array.replicate count [], numbers := Array.replicate count [] }
    values.toList.zipIdx.foldl (fun (t : Table α) (a, i) =>
      let number : Int := (i + 1 : Nat)
      { t with
        entries := t.entries.push (some (⟨none, some number⟩, 0, a)), size := t.size + 1
        numbers := toFront t.numbers (placeOf t.numbers number) i }) start

def spelledOut (t : Table α) : Table α :=
  let t := t.unrolled
  if t.spelled then t
  else
    let order := (List.range t.numbers.size).flatMap (chain t.numbers)
    let t := order.foldl (fun (t : Table α) e =>
      match t.lookup? e with
      | some (⟨none, some n⟩, _, a) =>
        let text := numberText n
        let m := mix text
        { t with
          entries := t.entries.setIfInBounds e (some (⟨some text, some n⟩, m, a))
          texts := toFront t.texts (placeOf t.texts m) e }
      | _ => t) t
    { t with spelled := true }

def entryOfText (t : Table α) (text : Bytes) (fresh : Option α) : Option Nat × Table α :=
  if t.size = 0 ∧ t.row.isNone ∧ fresh.isNone then (none, t)
  else
    let t := t.spelledOut
    let m := mix text
    let place := placeOf t.texts m
    let found := (chain t.texts place).find? fun e =>
      decide (((t.lookup? e).bind (·.1.text)) = some text)
    match found, fresh with
    | some e, _ => (some e, { t with texts := toFront t.texts place e })
    | none, none => (none, t)
    | none, some a =>
      let (e, t) := t.push ⟨some text, none⟩ m a
      (some e, { t with texts := toFront t.texts (placeOf t.texts m) e })

def entryOfNumber (t : Table α) (n : Int) (fresh : Option α) : Option Nat × Table α :=
  if t.size = 0 ∧ t.row.isNone ∧ fresh.isNone then (none, t)
  else
    let t := t.unrolled
    let place := placeOf t.numbers n
    let found := (chain t.numbers place).find? fun e =>
      decide (((t.lookup? e).bind (·.1.number)) = some n)
    match found with
    | some e => (some e, { t with numbers := toFront t.numbers place e })
    | none =>
      let (e, t) := if t.spelled then t.entryOfText (numberText n) fresh
        else
          match fresh with
          | none => (none, t)
          | some a =>
            let (e, t) := t.push ⟨none, some n⟩ 0 a
            (some e, t)
      match e with
      | none => (none, t)
      | some e =>
        let entries := match t.lookup? e with
          | some (key, m, a) =>
            t.entries.setIfInBounds e (some ({ key with number := some n }, m, a))
          | none => t.entries
        (some e, { t with
          entries := entries, numbers := toFront t.numbers (placeOf t.numbers n) e })

inductive Query where
  | text (bytes : Bytes)
  | number (n : Int)
  deriving DecidableEq, Repr

def inRow? (t : Table α) (q : Query) : Option Nat :=
  match t.row, q with
  | some values, .number n => if 1 ≤ n ∧ n ≤ values.size then some (n - 1).toNat else none
  | _, _ => none

def entry (t : Table α) (q : Query) (fresh : Option α) : Option Nat × Table α :=
  match q with
  | .text bytes => t.entryOfText bytes fresh
  | .number n => t.entryOfNumber n fresh

def count (t : Table α) : Nat :=
  match t.row with
  | some values => values.size
  | none => t.size

def has (t : Table α) (q : Query) : Bool × Table α :=
  match t.inRow? q with
  | some _ => (true, t)
  | none =>
    let (e, t) := t.entry q none
    (e.isSome, t)

def get (t : Table α) (q : Query) (fresh : α) : α × Table α :=
  match t.inRow? q, t.row with
  | some i, some values => ((values[i]?).getD fresh, t)
  | _, _ =>
    let (e, t) := t.entry q (some fresh)
    (((e.bind t.lookup?).map (·.2.2)).getD fresh, t)

def set (t : Table α) (q : Query) (a : α) : Table α :=
  match t.inRow? q, t.row with
  | some i, some values => { t with row := some (values.setIfInBounds i a) }
  | _, _ =>
    let (e, t) := t.entry q (some a)
    match e with
    | none => t
    | some e =>
      match t.lookup? e with
      | some (key, m, _) => { t with entries := t.entries.setIfInBounds e (some (key, m, a)) }
      | none => t

def remove (t : Table α) (q : Query) : Table α :=
  let outside := match t.row, q with
    | some _, .number _ => (t.inRow? q).isNone
    | _, _ => false
  if outside || t.count == 0 then t
  else
    let (e, t) := t.entry q none
    match e with
    | none => t
    | some e =>
      match t.lookup? e with
      | none => t
      | some (key, m, _) =>
        let t := { t with entries := t.entries.setIfInBounds e none, size := t.size - 1 }
        if t.size = 0 then empty
        else
          { t with
            texts := if key.text.isSome then without t.texts (placeOf t.texts m) e else t.texts
            numbers := match key.number with
              | some n => without t.numbers (placeOf t.numbers n) e
              | none => t.numbers }

def keys (t : Table α) : List Bytes × Table α :=
  if t.count = 0 then ([], t)
  else
    let t := t.spelledOut
    let order := (List.range t.texts.size).flatMap (chain t.texts)
    (order.filterMap fun e => (t.lookup? e).bind (·.1.text), t)

def ofRow (values : Array α) : Table α :=
  if values.isEmpty then empty else { (empty : Table α) with row := some values }

end Table
end CallChart.Shell.Record
