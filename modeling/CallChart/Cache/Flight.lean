import CallChart.Cache

namespace CallChart.Flight

abbrev Result := Except Failure Artifact

inductive Cell where
  | free
  | taken
  | filled (result : Result)

inductive Stage where
  | look
  | join
  | board (flight : Nat)
  | inspect (flight : Nat)
  | start (flight : Nat)
  | compute (flight : Nat)
  | store (flight : Nat) (artifact : Artifact)
  | fill (flight : Nat) (result : Result)
  | leave (flight : Nat) (result : Result)
  | done (result : Result)

structure Caller where
  fingerprint : Fingerprint
  refresh : Bool
  outcome : Result
  stage : Stage

def Caller.ofRequest (fp : Fingerprint) (refresh : Bool) (outcome : Result) : Caller :=
  ⟨fp, refresh, outcome, .look⟩

/-- All callers and what they share. `computed` lists the fingerprints of the computations begun so
far, latest first. -/
structure Traffic where
  cache : Cache
  files : Files
  flights : List (Fingerprint × Nat)
  cells : List Cell
  callers : List Caller
  computed : List Fingerprint

namespace Traffic

def begin (cache : Cache) (files : Files) (callers : List Caller) : Traffic :=
  ⟨cache, files, [], [], callers, []⟩

def setStage (t : Traffic) (i : Nat) (stage : Stage) : Traffic :=
  { t with callers := t.callers.modify i fun c => { c with stage := stage } }

def setCell (t : Traffic) (flight : Nat) (cell : Cell) : Traffic :=
  { t with cells := t.cells.set flight cell }

def act (t : Traffic) (i : Nat) (c : Caller) : Stage → Traffic
  | .look =>
    match t.cache.stored? c.fingerprint c.refresh t.files with
    | some a => t.setStage i (.done (.ok a))
    | none => t.setStage i .join
  | .join =>
    match t.flights.lookup c.fingerprint with
    | some flight => t.setStage i (.board flight)
    | none =>
      { t with
        flights := (c.fingerprint, t.cells.length) :: t.flights
        cells := t.cells ++ [Cell.free] }.setStage i (.board t.cells.length)
  | .board flight =>
    match t.cells[flight]? with
    | some .free =>
      (t.setCell flight .taken).setStage i (if c.refresh then .start flight else .inspect flight)
    | some (.filled result) => t.setStage i (.leave flight result)
    | _ => t
  | .inspect flight =>
    match t.cache.load c.fingerprint t.files with
    | some a => t.setStage i (.fill flight (.ok a))
    | none => t.setStage i (.start flight)
  | .start flight =>
    { t with computed := c.fingerprint :: t.computed }.setStage i (.compute flight)
  | .compute flight =>
    match c.outcome with
    | .ok a => t.setStage i (.store flight a)
    | .error e => t.setStage i (.fill flight (.error e))
  | .store flight a =>
    { t with files := t.cache.store a t.files }.setStage i (.fill flight (.ok a))
  | .fill flight result =>
    (t.setCell flight (.filled result)).setStage i (.leave flight result)
  | .leave flight result =>
    { t with
      flights := t.flights.filter (· ≠ (c.fingerprint, flight)) }.setStage i (.done result)
  | .done _ => t

/-- One step of the caller at `i`. One that waits or has its result stays where it is. -/
def advance (t : Traffic) (i : Nat) : Traffic :=
  match t.callers[i]? with
  | none => t
  | some c => t.act i c c.stage

def run (t : Traffic) (schedule : List Nat) : Traffic :=
  schedule.foldl advance t

def longestWay : Nat := 9

/-- A schedule that lets all callers take their steps in turn until each is done: the ones that
wait follow right behind the one that computes. -/
def inTurn (callers : Nat) : List Nat :=
  (List.replicate (longestWay + 2) (List.range callers)).flatten

def results (t : Traffic) : List Result :=
  t.callers.filterMap fun c =>
    match c.stage with
    | .done result => some result
    | _ => none

end Traffic
end CallChart.Flight
