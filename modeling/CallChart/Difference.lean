namespace CallChart.Difference

/-- A run of changes: where it begins in both sequences, and how many lines go and come. -/
structure Change where
  old : Nat
  new : Nat
  deleted : Nat
  inserted : Nat
  deriving DecidableEq, Repr

/-- Whether a line is compared: it is kept, it occurs nowhere else, or it occurs so often that it
may be set aside among others. -/
inductive Aside where
  | kept
  | sure
  | perhaps
  deriving DecidableEq, Repr

def occurrences (lines : Array Nat) : Array Nat :=
  lines.foldl (fun counts n =>
    (if n < counts.size then counts else counts ++ Array.replicate (n + 1 - counts.size) 0).modify n
      (· + 1)) #[]

def doubled : Nat → Nat → Nat → Nat
  | 0, _, n => n
  | fuel + 1, bound, n => if bound / 4 = 0 then n else doubled fuel (bound / 4) (2 * n)

/-- What may be set aside of lines, given how often lines occur in the other sequence. -/
def asideBy (lines counts : Array Nat) : Array Aside :=
  let many := doubled lines.size (lines.size / 64) 5
  lines.map fun n =>
    let count := counts.getD n 0
    if count = 0 then .sure else if many < count then .perhaps else .kept

abbrev Asides := Array Aside

def Asides.mark (m : Asides) (i : Nat) : Aside := m.getD i .kept

def Asides.keep (m : Asides) (i : Nat) : Asides := m.setIfInBounds i .kept

def runEnd (m : Asides) : Nat → Nat → Nat
  | 0, i => i
  | fuel + 1, i => if m.mark i = .kept then i else runEnd m fuel (i + 1)

/-- Keeps lines at the end of a run that may only perhaps be set aside, and gives the new end. -/
def trimRun (m : Asides) (start : Nat) : Nat → Nat → Asides × Nat
  | 0, stop => (m, stop)
  | fuel + 1, stop =>
    if start < stop ∧ m.mark (stop - 1) = .perhaps then
      trimRun (m.keep (stop - 1)) start fuel (stop - 1)
    else (m, stop)

def keepStretch (m : Asides) (start count : Nat) : Asides :=
  (List.range count).foldl (fun m k =>
    if m.mark (start + k) = .perhaps then m.keep (start + k) else m) m

/-- Keeps stretches of a run that are at least so long and may only perhaps be set aside. -/
def keepStretches (m : Asides) (least stop : Nat) : Nat → Nat → Asides
  | 0, _ => m
  | fuel + 1, i =>
    if stop ≤ i then m
    else if m.mark i ≠ .perhaps then keepStretches m least stop fuel (i + 1)
    else
      let count := ((List.range (stop - i)).takeWhile fun k => m.mark (i + k) = .perhaps).length
      let m := if least ≤ count then keepStretch m i count else m
      keepStretches m least stop fuel (i + count)

/-- Goes from one end of a run along its places, and keeps what may only perhaps be set aside, up to
three sure lines in a row or a sure one behind eight others. -/
def keepEnd (m : Asides) (placeAt : Nat → Nat) (length : Nat) : Nat → Nat → Nat → Asides
  | 0, _, _ => m
  | fuel + 1, k, row =>
    if length ≤ k then m
    else
      match m.mark (placeAt k) with
      | .sure =>
        if 8 ≤ k ∨ row = 2 then m else keepEnd m placeAt length fuel (k + 1) (row + 1)
      | .perhaps => keepEnd (m.keep (placeAt k)) placeAt length fuel (k + 1) 0
      | .kept => keepEnd m placeAt length fuel (k + 1) 0

/-- Decides about lines that may perhaps be set aside: they stay so only within runs of others. -/
def decided : Nat → Nat → Asides → Asides
  | 0, _, m => m
  | fuel + 1, i, m =>
    if m.size ≤ i then m
    else
      match m.mark i with
      | .kept => decided fuel (i + 1) m
      | .perhaps => decided fuel (i + 1) (m.keep i)
      | .sure =>
        let (m, stop) := trimRun m i m.size (runEnd m m.size i)
        let length := stop - i
        let unsure := (List.range length).countP fun k => m.mark (i + k) = .perhaps
        if length < unsure * 4 then decided fuel (i + 1) (keepStretch m i length)
        else
          let least := doubled length (length / 4) 1 + 1
          let m := keepStretches m least stop length i
          let m := keepEnd m (i + ·) length length 0 0
          let m := keepEnd m (stop - 1 - ·) length length 0 0
          decided fuel stop m

def compared (lines counts : Array Nat) : Array Nat :=
  let m := decided (lines.size + 1) 0 (asideBy lines counts)
  ((List.range lines.size).filter fun i => m.mark i = .kept).toArray

structure Part where
  left : Nat
  right : Nat
  top : Nat
  bottom : Nat

/-- The furthest points that were reached on diagonals, which are shifted to be indices, and the
range of the diagonals. -/
structure Front where
  points : Array Int
  shift : Int
  low : Int
  high : Int

namespace Front

def reached (f : Front) (d : Int) : Int := f.points.getD (d + f.shift).toNat 0

def set (f : Front) (d x : Int) : Front :=
  { f with points := f.points.setIfInBounds (d + f.shift).toNat x }

/-- Makes the range wider by one diagonal on each side; where there is none it gets narrower. New
neighbours count as not reached. -/
def widened (f : Front) (least most unreached : Int) : Front :=
  let f := if least < f.low then { f.set (f.low - 2) unreached with low := f.low - 1 }
    else { f with low := f.low + 1 }
  if f.high < most then { f.set (f.high + 2) unreached with high := f.high + 1 }
  else { f with high := f.high - 1 }

end Front

def slideDown (a b : Array Nat) (p : Part) : Nat → Int → Int → Int
  | 0, x, _ => x
  | fuel + 1, x, y =>
    if x < p.right ∧ y < p.bottom ∧ a.getD x.toNat 0 = b.getD y.toNat 0 then
      slideDown a b p fuel (x + 1) (y + 1)
    else x

def slideUp (a b : Array Nat) (p : Part) : Nat → Int → Int → Int
  | 0, x, _ => x
  | fuel + 1, x, y =>
    if p.left < x ∧ p.top < y ∧ a.getD (x.toNat - 1) 0 = b.getD (y.toNat - 1) 0 then
      slideUp a b p fuel (x - 1) (y - 1)
    else x

def stepDown (a b : Array Nat) (p : Part) (meets : Bool) (back : Front) :
    Nat → Int → Front → Front × Option (Int × Int)
  | 0, _, f => (f, none)
  | count + 1, d, f =>
    let low := f.reached (d - 1)
    let high := f.reached (d + 1)
    let start := if low < high then high else low + 1
    let x := slideDown a b p (a.size + 1) start (start - d)
    let f := f.set d x
    if meets ∧ back.low ≤ d ∧ d ≤ back.high ∧ back.reached d ≤ x then (f, some (x, x - d))
    else stepDown a b p meets back count (d - 2) f

def stepUp (a b : Array Nat) (p : Part) (meets : Bool) (front : Front) :
    Nat → Int → Front → Front × Option (Int × Int)
  | 0, _, f => (f, none)
  | count + 1, d, f =>
    let low := f.reached (d - 1)
    let high := f.reached (d + 1)
    let start := if low < high then low else high - 1
    let x := slideUp a b p (a.size + 1) start (start - d)
    let f := f.set d x
    if meets ∧ front.low ≤ d ∧ d ≤ front.high ∧ x ≤ front.reached d then (f, some (x, x - d))
    else stepUp a b p meets front count (d - 2) f

/-- A point on a shortest way through a part: where the ways from both of its corners meet. -/
def middle (a b : Array Nat) (p : Part) : Nat → Front → Front → Nat × Nat
  | 0, _, _ => (p.left, p.top)
  | fuel + 1, front, back =>
    let least : Int := (p.left : Int) - p.bottom
    let most : Int := (p.right : Int) - p.top
    let isOdd := ((p.left : Int) - p.top - (p.right - p.bottom)) % 2 ≠ 0
    let count (f : Front) : Nat := ((f.high - f.low) / 2 + 1).toNat
    let front := front.widened least most (-1)
    match stepDown a b p isOdd back (count front) front.high front with
    | (_, some (x, y)) => (x.toNat, y.toNat)
    | (front, none) =>
      let back := back.widened least most (a.size + b.size + 2)
      match stepUp a b p (!isOdd) front (count back) back.high back with
      | (_, some (x, y)) => (x.toNat, y.toNat)
      | (back, none) => middle a b p fuel front back

def trimmed (a b : Array Nat) (p : Part) : Part :=
  let down := slideDown a b p (a.size + 1) p.left p.top
  let gone := down.toNat - p.left
  let p := { p with left := p.left + gone, top := p.top + gone }
  let up := slideUp a b p (a.size + 1) p.right p.bottom
  let gone := p.right - up.toNat
  { p with right := p.right - gone, bottom := p.bottom - gone }

def changes (a b : Array Nat) : Nat → Part → List Nat × List Nat
  | 0, p => ((List.range (p.right - p.left)).map (p.left + ·),
      (List.range (p.bottom - p.top)).map (p.top + ·))
  | fuel + 1, p =>
    let p := trimmed a b p
    if p.left = p.right then ([], (List.range (p.bottom - p.top)).map (p.top + ·))
    else if p.top = p.bottom then ((List.range (p.right - p.left)).map (p.left + ·), [])
    else
      let shift : Int := b.size + 2
      let points : Array Int := Array.replicate (a.size + b.size + 5) 0
      let start (x y : Nat) : Front :=
        let d : Int := (x : Int) - y
        Front.set ⟨points, shift, d, d⟩ d x
      let (x, y) := middle a b p (a.size + b.size + 2) (start p.left p.top)
        (start p.right p.bottom)
      let (deleted, inserted) := changes a b fuel { p with right := x, bottom := y }
      let (deleted', inserted') := changes a b fuel { p with left := x, top := y }
      (deleted ++ deleted', inserted ++ inserted')

def isMarked (m : Array Bool) (i : Nat) : Bool := m.getD i false

/-- A run of changes in one sequence, and the place in the other one that belongs to its end. -/
structure Run where
  marks : Array Bool
  start : Nat
  stop : Nat
  place : Nat

def behindMarks (m : Array Bool) : Nat → Nat → Nat
  | 0, i => i
  | fuel + 1, i => if isMarked m i then behindMarks m fuel (i + 1) else i

def beforeMarks (m : Array Bool) : Nat → Nat → Nat
  | 0, i => i
  | fuel + 1, i => if 0 < i ∧ isMarked m (i - 1) then beforeMarks m fuel (i - 1) else i

def placeBefore (m : Array Bool) (i : Nat) : Nat := beforeMarks m (i + 1) i - 1

def Run.up (r : Run) (other : Array Bool) : Run :=
  ⟨(r.marks.setIfInBounds (r.start - 1) true).setIfInBounds (r.stop - 1) false, r.start - 1,
    r.stop - 1, placeBefore other r.place⟩

/-- Moves a run up as long as that changes nothing but its place; runs that it meets join it. -/
def Run.raised (lines : Array Nat) (other : Array Bool) : Nat → Run → Run
  | 0, r => r
  | fuel + 1, r =>
    if 0 < r.start ∧ lines.getD (r.start - 1) 0 = lines.getD (r.stop - 1) 0 then
      let r := r.up other
      raised lines other fuel { r with start := beforeMarks r.marks (r.start + 1) r.start }
    else r

/-- Moves a run down likewise, and tells its latest end that belongs to a run of the other
sequence. -/
def Run.lowered (lines : Array Nat) (other : Array Bool) : Nat → Run → Nat → Run × Nat
  | 0, r, latest => (r, latest)
  | fuel + 1, r, latest =>
    if r.stop < lines.size ∧ lines.getD r.start 0 = lines.getD r.stop 0 then
      let marks := (r.marks.setIfInBounds r.start false).setIfInBounds r.stop true
      let stop := behindMarks marks (marks.size + 1) (r.stop + 1)
      let place := behindMarks other (other.size + 1) (r.place + 1)
      let latest := if place = r.place + 1 then latest else stop
      lowered lines other fuel ⟨marks, r.start + 1, stop, place⟩ latest
    else (r, latest)

def Run.settled (lines : Array Nat) (other : Array Bool) : Nat → Run → Run × Nat
  | 0, r => (r, lines.size)
  | fuel + 1, r =>
    let length := r.stop - r.start
    let r := r.raised lines other (lines.size + 1)
    let latest := if 0 < r.place ∧ isMarked other (r.place - 1) then r.stop else lines.size
    let (r, latest) := r.lowered lines other (lines.size + 1) latest
    if r.stop - r.start = length then (r, latest) else settled lines other fuel r

def Run.returned (other : Array Bool) (latest : Nat) : Nat → Run → Run
  | 0, r => r
  | fuel + 1, r => if latest < r.stop then returned other latest fuel (r.up other) else r

/-- Moves all runs of changes of one sequence to their best places. `i` and `j` are places in both
sequences that belong to each other. -/
def shifted (lines : Array Nat) (other : Array Bool) : Nat → Nat → Nat → Array Bool → Array Bool
  | 0, _, _, m => m
  | fuel + 1, i, j, m =>
    if lines.size ≤ i then m
    else if !isMarked m i then
      shifted lines other fuel (i + 1) (behindMarks other (other.size + 1) j + 1) m
    else
      let r : Run := ⟨m, i, behindMarks m (m.size + 1) i, behindMarks other (other.size + 1) j⟩
      let (r, latest) := r.settled lines other (lines.size + 1)
      let r := r.returned other latest (lines.size + 1)
      shifted lines other fuel r.stop r.place r.marks

def collected (a b : Array Bool) : Nat → Nat → Nat → List Change
  | 0, _, _ => []
  | fuel + 1, i, j =>
    if a.size ≤ i ∧ b.size ≤ j then []
    else if isMarked a i ∨ isMarked b j then
      let stop := behindMarks a (a.size + 1) i
      let stop' := behindMarks b (b.size + 1) j
      ⟨i, j, stop - i, stop' - j⟩ :: collected a b fuel stop stop'
    else collected a b fuel (i + 1) (j + 1)

def between (old new : Array Nat) : List Change :=
  let places := compared old (occurrences new)
  let places' := compared new (occurrences old)
  let a := places.map fun i => old.getD i 0
  let b := places'.map fun i => new.getD i 0
  let (deleted, inserted) := changes a b (a.size + b.size + 1) ⟨0, a.size, 0, b.size⟩
  let mark (size : Nat) (places : Array Nat) (changed : List Nat) : Array Bool :=
    let m := places.foldl (fun m i => m.setIfInBounds i false) (Array.replicate size true)
    changed.foldl (fun m k => m.setIfInBounds (places.getD k 0) true) m
  let m := mark old.size places deleted
  let m' := mark new.size places' inserted
  let m := shifted old m' (old.size + 1) 0 0 m
  let m' := shifted new m (new.size + 1) 0 0 m'
  collected m m' (old.size + new.size + 1) 0 0

end CallChart.Difference
