import CallChart.Proofs.Service.Generations
import CallChart.Service

namespace CallChart

namespace OptionsStore

def requested (store : OptionsStore) (query : List (String × String)) :
    Except Failure Options × OptionsStore :=
  if Service.lastSet "reset" query then store.reset (Service.overrides query)
  else store.change (Service.overrides query)

theorem settle_ok {store : OptionsStore} {result : Except Failure Options} {o : Options}
    (done : (store.settle result).1 = .ok o) : (store.settle result).2.current = o := by
  cases result with
  | ok next =>
    cases done
    rfl
  | error e => cases done

theorem requested_ok (store : OptionsStore) (query : List (String × String)) {o : Options}
    (done : (store.requested query).1 = .ok o) : (store.requested query).2.current = o := by
  unfold requested at done ⊢
  split at done <;> rename_i reset
  · rw [if_pos reset]
    exact settle_ok done
  · rw [if_neg reset]
    exact settle_ok done

end OptionsStore

theorem Service.triggered_eq (s : Service) (query : List (String × String)) (now : Timestamp) :
    s.triggered query now =
      match s.options.requested query with
      | (.error e, _) => (.ofFailure e, s)
      | (.ok o, options) =>
        (.redirect s.viewer,
          { s with options := options }.trigger o (lastSet "refresh" query) now) := by
  simp only [triggered, OptionsStore.requested]
  generalize (if lastSet "reset" query = true then s.options.reset (overrides query)
    else s.options.change (overrides query)) = outcome
  rcases outcome with ⟨e | o, options⟩ <;> rfl

/-- The store and the renders, the snapshots whose renders have not begun, oldest first, and the
snapshots of all renders with their generations, latest first. -/
structure Requests where
  options : OptionsStore
  renders : Renders
  held : List Options
  begun : List (Nat × Options)

namespace Requests

def new (defaults : Options) : Requests := ⟨.new defaults, .new, [], []⟩

def change (s : Requests) (query : List (String × String)) : Requests :=
  match s.options.requested query with
  | (.error _, _) => s
  | (.ok o, options) => { s with options := options, held := s.held ++ [o] }

def begin (s : Requests) (place : Nat) : Requests :=
  match s.held[place]? with
  | none => s
  | some o =>
    { s with
      renders := s.renders.begin
      held := s.held.eraseIdx place
      begun := (s.renders.board.next, o) :: s.begun }

inductive Event where
  | change (query : List (String × String))
  | begin (place : Nat)
  | finish (generation : Nat)

/-- Whether the first to change the store is the first to begin. -/
def Event.InOrder : Event → Prop
  | .begin place => place = 0
  | _ => True

def finish (render : Options → Except Failure Rendering) (s : Requests) (generation : Nat) :
    Requests :=
  match s.begun.lookup generation with
  | none => s
  | some o => { s with renders := s.renders.finish generation (render o) }

def step (render : Options → Except Failure Rendering) (s : Requests) : Event → Requests
  | .change query => s.change query
  | .begin place => s.begin place
  | .finish generation => s.finish render generation

def run (render : Options → Except Failure Rendering) (s : Requests) (events : List Event) :
    Requests :=
  events.foldl (step render) s

def taken (s : Requests) : List Options :=
  (s.begun.map (·.2)).reverse ++ s.held

/-- Every result is that of its snapshot, and the latest snapshot is that of the newest render. -/
structure Faithful (render : Options → Except Failure Rendering) (s : Requests) : Prop where
  ordered : s.renders.Ordered
  newest {g : Nat} {o : Options} {rest : List (Nat × Options)} : s.begun = (g, o) :: rest →
    0 < g ∧ g = s.renders.board.begun
  result {g : Nat} {r : Except Failure Rendering} : (g, r) ∈ s.renders.results →
    ∃ o, s.begun.lookup g = some o ∧ r = render o

namespace Faithful

theorem new (render : Options → Except Failure Rendering) (defaults : Options) :
    Faithful render (.new defaults) :=
  ⟨.new, nofun, nofun⟩

theorem change {render : Options → Except Failure Rendering} {s : Requests}
    (faithful : Faithful render s) (query : List (String × String)) :
    Faithful render (s.change query) := by
  unfold Requests.change
  split
  · exact faithful
  · exact ⟨faithful.ordered, faithful.newest, faithful.result⟩

theorem begin {render : Options → Except Failure Rendering} {s : Requests}
    (faithful : Faithful render s) (place : Nat) : Faithful render (s.begin place) := by
  unfold Requests.begin
  split
  · exact faithful
  rename_i o _
  constructor
  case ordered => exact faithful.ordered.begin
  case newest =>
    rintro g q rest ⟨⟩
    exact ⟨Nat.succ_pos _, rfl⟩
  case result =>
    intro g r within
    obtain ⟨q, there, rfl⟩ := faithful.result within
    have bound := (faithful.ordered.ended within).2.1
    have earlier : (g == s.renders.board.next) = false := by
      simp only [StatusBoard.next, beq_eq_false_iff_ne]
      omega
    exact ⟨q, by rw [List.lookup_cons, earlier]; exact there, rfl⟩

theorem finish {render : Options → Except Failure Rendering} {s : Requests}
    (faithful : Faithful render s) (generation : Nat) :
    Faithful render (s.finish render generation) := by
  unfold Requests.finish
  split
  · exact faithful
  rename_i o snapshot
  have begun : (s.renders.finish generation (render o)).board.begun = s.renders.board.begun := by
    unfold Renders.finish
    split <;> simp
  refine ⟨faithful.ordered.finish _ _, fun first => ?_, fun within => ?_⟩
  · rw [begun]
    exact faithful.newest first
  · unfold Renders.finish at within
    split at within
    · rcases List.mem_cons.mp within with same | within
      · cases same
        exact ⟨o, snapshot, rfl⟩
      · exact faithful.result within
    · exact faithful.result within

theorem step {render : Options → Except Failure Rendering} {s : Requests}
    (faithful : Faithful render s) (event : Event) :
    Faithful render (s.step render event) := by
  cases event with
  | change query => exact faithful.change query
  | begin place => exact faithful.begin place
  | finish generation => exact faithful.finish generation

theorem run {render : Options → Except Failure Rendering} {s : Requests}
    (faithful : Faithful render s) (events : List Event) :
    Faithful render (s.run render events) := by
  induction events generalizing s with
  | nil => exact faithful
  | cons event events ih => exact ih (faithful.step event)

end Faithful

def Current (s : Requests) : Prop :=
  ∀ o, s.taken.getLast? = some o → o = s.options.current

theorem Current.new (defaults : Options) : Current (.new defaults) := by
  simp [Current, taken, Requests.new]

theorem Current.step {render : Options → Except Failure Rendering} {s : Requests}
    (current : Current s) {event : Event} (order : event.InOrder) :
    Current (s.step render event) := by
  cases event with
  | change query =>
    simp only [Requests.step, Requests.change]
    split
    · exact current
    · rename_i o options outcome
      intro q last
      have same : o = q := by simpa [taken] using last
      have taken : (s.options.requested query).1 = .ok o := by rw [outcome]
      have held := s.options.requested_ok query taken
      rw [outcome] at held
      exact same.symm.trans held.symm
  | begin place =>
    obtain rfl : place = 0 := order
    simp only [Requests.step, Requests.begin]
    split
    · exact current
    · rename_i o first
      cases held : s.held with
      | nil => simp [held] at first
      | cons q rest =>
        obtain rfl : q = o := by simpa [held] using first
        intro p last
        refine current p ?_
        simpa [taken, held] using last
  | finish generation =>
    simp only [Requests.step, Requests.finish]
    split <;> exact current

theorem Current.run {render : Options → Except Failure Rendering} {s : Requests}
    (current : Current s) {events : List Event} (order : ∀ event ∈ events, event.InOrder) :
    Current (s.run render events) := by
  induction events generalizing s with
  | nil => exact current
  | cons event events ih =>
    obtain ⟨first, rest⟩ := List.forall_mem_cons.mp order
    exact ih (current.step first) rest

/-- When all renders have ended, the status is the outcome of the snapshot of the request that began
last. That one is what the store holds, if requests begin in the order in which they changed the
store and none is left between its steps. -/
theorem run_serves_last_begun (render : Options → Except Failure Rendering) (defaults : Options)
    (events : List Event) (stopped : (run render (.new defaults) events).renders.running = [])
    (accepted : (run render (.new defaults) events).begun ≠ []) :
    let s := run render (.new defaults) events
    ∃ o, s.begun.head? = some (s.renders.board.begun, o) ∧
      s.renders.board.latest = .ofResult s.renders.board.begun (render o) ∧
      (s.held = [] → (∀ event ∈ events, event.InOrder) → o = s.options.current) := by
  intro s
  have faithful : Faithful render s := (Faithful.new render defaults).run events
  cases begun : s.begun with
  | nil => exact (accepted begun).elim
  | cons first rest =>
    obtain ⟨g, o⟩ := first
    obtain ⟨positive, newest⟩ := faithful.newest begun
    rw [newest] at positive begun
    obtain ⟨r, ended⟩ := faithful.ordered.known positive (Nat.le_refl _) (by simp [s, stopped])
    obtain ⟨q, there, outcome⟩ := faithful.result ended
    have same : o = q := by simpa [begun] using there
    rw [outcome, ← same] at ended
    refine ⟨o, by rw [newest, List.head?_cons], faithful.ordered.settled ended, ?_⟩
    intro free order
    have current : Current s := (Current.new defaults).run order
    exact current o (by simp [taken, begun, free])

def lost (o : Options) : Except Failure Rendering :=
  .error (.focusNotFound o.focus)

def oneByOne : List Event :=
  [.change [("focus", "a")], .begin 0, .change [("focus", "b")], .begin 0, .finish 2, .finish 1]

theorem oneByOne_serves_current :
    let s := run lost (.new .default) oneByOne
    s.options.current.focus = "b" ∧ s.renders.board.latest = .failed 2 (.focusNotFound "b") := by
  have stopped : (run lost (.new .default) oneByOne).renders.running = [] := by decide +kernel
  have accepted : (run lost (.new .default) oneByOne).begun ≠ [] := by decide +kernel
  have served := run_serves_last_begun lost .default oneByOne stopped accepted
  have free : (run lost (.new .default) oneByOne).held = [] := by decide +kernel
  have order : ∀ event ∈ oneByOne, event.InOrder := by simp [oneByOne, Event.InOrder]
  have newest : (run lost (.new .default) oneByOne).renders.board.begun = 2 := by decide +kernel
  have focus : (run lost (.new .default) oneByOne).options.current.focus = "b" := by
    decide +kernel
  generalize run lost (.new .default) oneByOne = s at served free newest focus ⊢
  obtain ⟨o, -, served, current⟩ := served
  refine ⟨focus, ?_⟩
  rw [served, newest, current free order, lost, focus]
  rfl

def overtaking : List Event :=
  [.change [("focus", "a")], .change [("focus", "b")], .begin 1, .begin 0, .finish 1, .finish 2]

/-- What is served is not what the store holds: the first request changed the store first and began
its render last. -/
theorem overtaking_serves_stale :
    let s := run lost (.new .default) overtaking
    s.held = [] ∧ s.renders.running = [] ∧ s.begun ≠ [] ∧
      ∀ generation, s.renders.board.latest ≠ .ofResult generation (lost s.options.current) := by
  intro s
  have served : s.renders.board.latest = .failed 2 (.focusNotFound "a") := by decide +kernel
  have focus : s.options.current.focus = "b" := by decide +kernel
  refine ⟨by decide +kernel, by decide +kernel, by decide +kernel, fun generation => ?_⟩
  rw [served, lost, focus]
  simp [RenderStatus.ofResult]

end Requests
end CallChart
