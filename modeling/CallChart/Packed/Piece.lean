namespace CallChart.Packed

inductive Piece where
  | byte (b : UInt8)
  | copy (length distance : Nat)
  deriving DecidableEq, Repr

def Piece.length : Piece → Nat
  | .byte _ => 1
  | .copy length _ => length

namespace Piece

structure Effort where
  good : Nat
  lazy : Nat
  nice : Nat
  chain : Nat
  deriving DecidableEq, Repr

def Effort.ofLevel (level : Nat) : Effort :=
  match level with
  | 1 => ⟨4, 4, 8, 4⟩
  | 2 => ⟨4, 5, 16, 8⟩
  | 3 => ⟨4, 6, 32, 32⟩
  | 4 => ⟨4, 4, 16, 16⟩
  | 5 => ⟨8, 16, 32, 32⟩
  | 6 => ⟨8, 16, 128, 128⟩
  | 7 => ⟨8, 32, 128, 256⟩
  | 8 => ⟨32, 128, 258, 1024⟩
  | _ => ⟨32, 258, 258, 4096⟩

def shortest : Nat := 3

def longest : Nat := 258

def half : Nat := 32768

def ahead : Nat := 262

def reach : Nat := half - ahead

def tooFar : Nat := 4096

/-- The bytes, the latest place for each way to look, and for each place the one before it that
looks alike. Places that the window has left do not count. -/
structure Places where
  text : Array UInt8
  latest : Array Nat
  before : Array Nat
  window : Nat
  complete : Bool

namespace Places

def start (text : Array UInt8) : Places :=
  ⟨text, Array.replicate 32768 0, Array.replicate text.size 0, 0, false⟩

def byteAt (p : Places) (i : Nat) : UInt8 := p.text.getD i 0

def look (p : Places) (i : Nat) : Nat :=
  ((p.byteAt i).toNat * 1024 ^^^ (p.byteAt (i + 1)).toNat * 32 ^^^ (p.byteAt (i + 2)).toNat) % 32768

def note (p : Places) (i : Nat) : Nat × Places :=
  let key := p.look i
  let found := p.latest.getD key 0
  (found, { p with
    latest := p.latest.setIfInBounds key i, before := p.before.setIfInBounds i found })

def noteAll (p : Places) (i : Nat) : Nat → Places
  | 0 => p
  | count + 1 => noteAll (p.note i).2 (i + 1) count

def agreement (p : Places) (i j : Nat) : Nat → Nat
  | 0 => 0
  | fuel + 1 => if p.byteAt i = p.byteAt j then agreement p (i + 1) (j + 1) fuel + 1 else 0

/-- The best copy for a place among those that look alike, as its length and its source. Only one
that is longer than what is known counts, and of equal ones the nearest. -/
def best (p : Places) (e : Effort) (place limit : Nat) : Nat → Nat → Nat × Nat → Nat × Nat
  | 0, _, known => known
  | chain + 1, source, (length, known) =>
    let fits := p.byteAt (source + length) = p.byteAt (place + length) ∧
      p.byteAt (source + length - 1) = p.byteAt (place + length - 1)
    let found := if fits then p.agreement source place longest else 0
    let (length, known) := if length < found then (found, source) else (length, known)
    if e.nice ≤ length ∧ source = known then (length, known)
    else
      let next := p.before.getD source 0
      if limit < next then best p e place limit chain next (length, known) else (length, known)

def allows (p : Places) (place source : Nat) : Bool :=
  p.window < source && place - source ≤ reach && place - p.window ≤ 2 * half - ahead

def search (p : Places) (e : Effort) (place source length known : Nat) : Nat × Nat :=
  let limit := if reach < place - p.window then place - reach else p.window
  let chain := if e.good ≤ length then e.chain / 4 else e.chain
  let (found, known) := p.best e place limit chain source (length, known)
  (min found (p.text.size - place), known)

def moved (p : Places) (place : Nat) : Places :=
  let stop := min p.text.size (p.window + 2 * half)
  if p.complete ∨ ahead ≤ stop - place then p
  else
    let p := if half + reach ≤ place - p.window then
        { p with
          window := p.window + half
          latest := p.latest.map fun i => if p.window + half ≤ i then i else 0 }
      else p
    { p with complete := stop = p.text.size }

end Places

abbrev Cut := List (Piece × Nat)

def cutAtOnce (e : Effort) : Nat → Places → Nat → Nat → Cut → Cut
  | 0, _, _, _, done => done.reverse
  | fuel + 1, p, place, known, done =>
    if p.text.size ≤ place then done.reverse
    else
      let (source, p) := p.note place
      let (length, known) := if p.allows place source then
          p.search e place source (shortest - 1) known else (0, known)
      if shortest ≤ length then
        let p := if length ≤ e.lazy then p.noteAll (place + 1) (length - 1) else p
        let done := (.copy length (place - known), p.window) :: done
        cutAtOnce e fuel (p.moved (place + length)) (place + length) known done
      else
        let done := (.byte (p.byteAt place), p.window) :: done
        cutAtOnce e fuel (p.moved (place + 1)) (place + 1) known done

/-- Cuts bytes and takes a copy only if the next place has no longer one. `length` and `known` are
what was found one place before, which is still to be cut if `waits`. -/
def cutLazily (e : Effort) : Nat → Places → Nat → Bool → Nat → Nat → Cut → Cut
  | 0, _, _, _, _, _, done => done.reverse
  | fuel + 1, p, place, waits, length, known, done =>
    if p.text.size ≤ place then
      (if waits then (.byte (p.byteAt (place - 1)), p.window) :: done else done).reverse
    else
      let (source, p) := p.note place
      let (found, source) :=
        if length < e.lazy ∧ p.allows place source then
          let (found, source) := p.search e place source length known
          (if found = shortest ∧ tooFar < place - source then found - 1 else found, source)
        else (shortest - 1, known)
      if shortest ≤ length ∧ found ≤ length then
        let stop := place - 1 + length
        let done := (.copy length (place - 1 - known), p.window) :: done
        let p := p.noteAll (place + 1) (length - 2)
        cutLazily e fuel (p.moved stop) stop false (shortest - 1) source done
      else
        let done := if waits then (.byte (p.byteAt (place - 1)), p.window) :: done else done
        cutLazily e fuel (p.moved (place + 1)) (place + 1) true found source done

def cut (level : Nat) (text : Array UInt8) : Cut :=
  let e := Effort.ofLevel level
  let p := Places.start text
  if level ≤ 3 then cutAtOnce e (text.size + 1) p 0 0 []
  else cutLazily e (text.size + 2) p 0 false (shortest - 1) 0 []

end Piece
end CallChart.Packed
