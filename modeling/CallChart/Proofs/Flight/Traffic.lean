import CallChart.Cache.Flight
import Mathlib.Tactic.Common

namespace CallChart.Flight

def Stage.flight? : Stage → Option Nat
  | .board f | .inspect f | .start f | .compute f => some f
  | .store f _ | .fill f _ | .leave f _ => some f
  | .look | .join | .done _ => none

def Stage.leads? : Stage → Option Nat
  | .inspect f | .start f | .compute f | .store f _ | .fill f _ => some f
  | .look | .join | .board _ | .leave .. | .done _ => none

def Stage.result? : Stage → Option Result
  | .store _ a => some (.ok a)
  | .fill _ r | .leave _ r | .done r => some r
  | .look | .join | .board _ | .inspect _ | .start _ | .compute _ => none

/-- A call is in progress from its first step to its result. -/
def Stage.InProgress : Stage → Prop
  | .look | .done _ => False
  | _ => True

theorem Stage.flight?_of_leads? {s : Stage} {f : Nat} (leads : s.leads? = some f) :
    s.flight? = some f := by
  cases s <;> simp_all [Stage.leads?, Stage.flight?]

theorem Stage.inProgress_of_flight? {s : Stage} {f : Nat} (aboard : s.flight? = some f) :
    s.InProgress := by
  cases s <;> simp_all [Stage.flight?, Stage.InProgress]

namespace Traffic

inductive Moves (t : Traffic) (i : Nat) (c : Caller) : Traffic → Prop
  | hit (a : Artifact) (stage : c.stage = .look)
      (stored : t.cache.stored? c.fingerprint c.refresh t.files = some a) :
      Moves t i c (t.setStage i (.done (.ok a)))
  | miss (stage : c.stage = .look)
      (absent : t.cache.stored? c.fingerprint c.refresh t.files = none) :
      Moves t i c (t.setStage i .join)
  | share (f : Nat) (stage : c.stage = .join) (listed : t.flights.lookup c.fingerprint = some f) :
      Moves t i c (t.setStage i (.board f))
  | launch (stage : c.stage = .join) (unlisted : t.flights.lookup c.fingerprint = none) :
      Moves t i c ({ t with
        flights := (c.fingerprint, t.cells.length) :: t.flights
        cells := t.cells ++ [Cell.free] }.setStage i (.board t.cells.length))
  | lead (f : Nat) (stage : c.stage = .board f) (free : t.cells[f]? = some .free) :
      Moves t i c ((t.setCell f .taken).setStage i
        (if c.refresh then .start f else .inspect f))
  | follow (f : Nat) (r : Result) (stage : c.stage = .board f)
      (filled : t.cells[f]? = some (.filled r)) :
      Moves t i c (t.setStage i (.leave f r))
  | find (f : Nat) (a : Artifact) (stage : c.stage = .inspect f)
      (stored : t.cache.load c.fingerprint t.files = some a) :
      Moves t i c (t.setStage i (.fill f (.ok a)))
  | lack (f : Nat) (stage : c.stage = .inspect f)
      (absent : t.cache.load c.fingerprint t.files = none) :
      Moves t i c (t.setStage i (.start f))
  | start (f : Nat) (stage : c.stage = .start f) :
      Moves t i c ({ t with computed := c.fingerprint :: t.computed }.setStage i (.compute f))
  | succeed (f : Nat) (a : Artifact) (stage : c.stage = .compute f) (outcome : c.outcome = .ok a) :
      Moves t i c (t.setStage i (.store f a))
  | fail (f : Nat) (e : Failure) (stage : c.stage = .compute f) (outcome : c.outcome = .error e) :
      Moves t i c (t.setStage i (.fill f (.error e)))
  | store (f : Nat) (a : Artifact) (stage : c.stage = .store f a) :
      Moves t i c ({ t with files := t.cache.store a t.files }.setStage i (.fill f (.ok a)))
  | fill (f : Nat) (r : Result) (stage : c.stage = .fill f r) :
      Moves t i c ((t.setCell f (.filled r)).setStage i (.leave f r))
  | leave (f : Nat) (r : Result) (stage : c.stage = .leave f r) :
      Moves t i c ({ t with
        flights := t.flights.filter (· ≠ (c.fingerprint, f)) }.setStage i (.done r))

theorem act_moves (t : Traffic) (i : Nat) (c : Caller) :
    t.act i c c.stage = t ∨ Moves t i c (t.act i c c.stage) := by
  generalize at_stage : c.stage = s
  cases s with
  | look =>
    cases stored : t.cache.stored? c.fingerprint c.refresh t.files with
    | some a => simpa only [act, stored] using .inr (.hit a at_stage stored)
    | none => simpa only [act, stored] using .inr (.miss at_stage stored)
  | join =>
    cases listed : t.flights.lookup c.fingerprint with
    | some f => simpa only [act, listed] using .inr (.share f at_stage listed)
    | none => simpa only [act, listed] using .inr (.launch at_stage listed)
  | board f =>
    cases cell : t.cells[f]? with
    | none => exact .inl (by simp only [act, cell])
    | some content =>
      cases content with
      | free => simpa only [act, cell] using .inr (.lead f at_stage cell)
      | taken => exact .inl (by simp only [act, cell])
      | filled r => simpa only [act, cell] using .inr (.follow f r at_stage cell)
  | inspect f =>
    cases stored : t.cache.load c.fingerprint t.files with
    | some a => simpa only [act, stored] using .inr (.find f a at_stage stored)
    | none => simpa only [act, stored] using .inr (.lack f at_stage stored)
  | start f => exact .inr (.start f at_stage)
  | compute f =>
    cases outcome : c.outcome with
    | ok a => simpa only [act, outcome] using .inr (.succeed f a at_stage outcome)
    | error e => simpa only [act, outcome] using .inr (.fail f e at_stage outcome)
  | store f a => exact .inr (.store f a at_stage)
  | fill f r => exact .inr (.fill f r at_stage)
  | leave f r => exact .inr (.leave f r at_stage)
  | done r => exact .inl rfl

theorem advance_moves (t : Traffic) (i : Nat) :
    t.advance i = t ∨ ∃ c, t.callers[i]? = some c ∧ Moves t i c (t.advance i) := by
  unfold advance
  cases there : t.callers[i]? with
  | none => exact .inl rfl
  | some c =>
    rcases t.act_moves i c with same | moves
    · exact .inl same
    · exact .inr ⟨c, rfl, moves⟩

theorem Moves.cache {t u : Traffic} {i : Nat} {c : Caller} (moves : Moves t i c u) :
    u.cache = t.cache := by
  cases moves <;> rfl

theorem Moves.callers {t u : Traffic} {i : Nat} {c : Caller} (moves : Moves t i c u) :
    ∃ s, u.callers = (t.setStage i s).callers := by
  cases moves <;> exact ⟨_, rfl⟩

theorem callers_setStage (t : Traffic) (i j : Nat) (s : Stage) :
    (t.setStage i s).callers[j]? =
      if i = j then t.callers[j]?.map fun c => { c with stage := s } else t.callers[j]? := by
  simp only [setStage, List.getElem?_modify]
  by_cases same : i = j
  · simp only [same, ↓reduceIte]
    rfl
  · simp only [same, ↓reduceIte]
    cases t.callers[j]? <;> rfl

@[simp] theorem setStage_cells (t : Traffic) (i : Nat) (s : Stage) :
    (t.setStage i s).cells = t.cells := rfl

@[simp] theorem setStage_flights (t : Traffic) (i : Nat) (s : Stage) :
    (t.setStage i s).flights = t.flights := rfl

@[simp] theorem setStage_files (t : Traffic) (i : Nat) (s : Stage) :
    (t.setStage i s).files = t.files := rfl

@[simp] theorem setStage_cache (t : Traffic) (i : Nat) (s : Stage) :
    (t.setStage i s).cache = t.cache := rfl

@[simp] theorem setStage_computed (t : Traffic) (i : Nat) (s : Stage) :
    (t.setStage i s).computed = t.computed := rfl

@[simp] theorem setCell_callers (t : Traffic) (f : Nat) (cell : Cell) :
    (t.setCell f cell).callers = t.callers := rfl

@[simp] theorem setCell_flights (t : Traffic) (f : Nat) (cell : Cell) :
    (t.setCell f cell).flights = t.flights := rfl

@[simp] theorem setCell_cells (t : Traffic) (f : Nat) (cell : Cell) :
    (t.setCell f cell).cells = t.cells.set f cell := rfl

end Traffic
end CallChart.Flight
