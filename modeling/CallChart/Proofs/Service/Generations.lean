import CallChart.Service.Status
import Mathlib.Tactic.Common

namespace CallChart

namespace StatusBoard

@[simp] theorem begun_begin (b : StatusBoard) : b.begin.begun = b.begun + 1 := rfl

@[simp] theorem begun_finish (b : StatusBoard) (generation : Nat)
    (result : Except Failure Rendering) : (b.finish generation result).begun = b.begun := by
  unfold finish
  split <;> rfl

theorem finish_older {b : StatusBoard} {generation : Nat} (older : generation < b.latest.generation)
    (result : Except Failure Rendering) : b.finish generation result = b :=
  if_pos older

end StatusBoard

@[simp] theorem RenderStatus.generation_ofResult (generation : Nat)
    (result : Except Failure Rendering) : (ofResult generation result).generation = generation := by
  cases result <;> rfl

theorem RenderStatus.ofResult_ne_pending (generation other : Nat)
    (result : Except Failure Rendering) : ofResult generation result ≠ .pending other := by
  cases result <;> simp [ofResult]

/-- The board, the generations of the renders that have not ended, and what the others brought,
latest first. -/
structure Renders where
  board : StatusBoard
  running : List Nat
  results : List (Nat × Except Failure Rendering)

namespace Renders

def new : Renders := ⟨.new, [], []⟩

def begin (s : Renders) : Renders :=
  { s with board := s.board.begin, running := s.board.next :: s.running }

def finish (s : Renders) (generation : Nat) (result : Except Failure Rendering) : Renders :=
  if generation ∈ s.running then
    ⟨s.board.finish generation result, s.running.erase generation,
      (generation, result) :: s.results⟩
  else s

inductive Event where
  | begin
  | finish (generation : Nat) (result : Except Failure Rendering)

def step (s : Renders) : Event → Renders
  | .begin => s.begin
  | .finish generation result => s.finish generation result

def run (s : Renders) (events : List Event) : Renders :=
  events.foldl step s

def Event.isBegin : Event → Bool
  | .begin => true
  | .finish .. => false

/-- Generations count from one, those that run are apart from those that ended, and the board shows
the newest one: as pending while it runs, and with its result after that. -/
structure Ordered (s : Renders) : Prop where
  shown : s.board.latest.generation = s.board.begun
  apart : s.running.Nodup
  running {g : Nat} : g ∈ s.running → 0 < g ∧ g ≤ s.board.begun
  ended {g : Nat} {r : Except Failure Rendering} : (g, r) ∈ s.results →
    0 < g ∧ g ≤ s.board.begun ∧ g ∉ s.running
  once {g : Nat} {r q : Except Failure Rendering} : (g, r) ∈ s.results → (g, q) ∈ s.results → r = q
  known {g : Nat} : 0 < g → g ≤ s.board.begun → g ∉ s.running → ∃ r, (g, r) ∈ s.results
  idle : s.board.begun = 0 → s.board.latest = .idle
  pending : s.board.begun ∈ s.running → s.board.latest = .pending s.board.begun
  settled {r : Except Failure Rendering} : (s.board.begun, r) ∈ s.results →
    s.board.latest = .ofResult s.board.begun r

namespace Ordered

theorem new : Ordered .new where
  shown := rfl
  apart := List.nodup_nil
  running := nofun
  ended := nofun
  once := nofun
  known := by
    intro g positive small
    simp only [Renders.new, StatusBoard.new] at small
    omega
  idle _ := rfl
  pending := nofun
  settled := nofun

theorem begin {s : Renders} (ordered : Ordered s) : Ordered s.begin where
  shown := rfl
  apart := List.nodup_cons.mpr ⟨fun within => by
    have bound := (ordered.running within).2
    simp only [StatusBoard.next] at bound
    omega, ordered.apart⟩
  running := by
    intro g within
    simp only [Renders.begin, StatusBoard.begun_begin]
    rcases List.mem_cons.mp within with rfl | within
    · simp [StatusBoard.next]
    · have bounds := ordered.running within
      omega
  ended := by
    intro g r within
    obtain ⟨positive, small, stopped⟩ := ordered.ended within
    simp only [Renders.begin, StatusBoard.begun_begin, StatusBoard.next, List.mem_cons, not_or]
    exact ⟨positive, by omega, by omega, stopped⟩
  once := ordered.once
  known := by
    intro g positive small stopped
    simp only [Renders.begin, StatusBoard.begun_begin, StatusBoard.next, List.mem_cons,
      not_or] at small stopped
    exact ordered.known positive (by omega) stopped.2
  idle empty := by simp [Renders.begin] at empty
  pending _ := rfl
  settled := by
    intro r within
    have bound := (ordered.ended within).2.1
    simp only [Renders.begin, StatusBoard.begun_begin] at bound
    omega

theorem board_finish_older {s : Renders} {g : Nat} (ordered : Ordered s) (within : g ∈ s.running)
    (older : g ≠ s.board.begun) (r : Except Failure Rendering) : s.board.finish g r = s.board := by
  have bound := (ordered.running within).2
  have shown := ordered.shown
  exact StatusBoard.finish_older (by omega) r

theorem board_finish_newest {s : Renders} (ordered : Ordered s) (r : Except Failure Rendering) :
    s.board.finish s.board.begun r = ⟨s.board.begun, .ofResult s.board.begun r⟩ := by
  simp [StatusBoard.finish, ordered.shown]

theorem finish {s : Renders} (ordered : Ordered s) (g : Nat) (r : Except Failure Rendering) :
    Ordered (s.finish g r) := by
  unfold Renders.finish
  split
  case isFalse => exact ordered
  rename_i within
  obtain ⟨positive, small⟩ := ordered.running within
  have gone : g ∉ s.running.erase g := fun still => (ordered.apart.mem_erase_iff.mp still).1 rfl
  constructor
  case shown =>
    by_cases newest : g = s.board.begun
    · rw [newest, ordered.board_finish_newest]
      simp
    · rw [ordered.board_finish_older within newest]
      exact ordered.shown
  case apart => exact ordered.apart.erase g
  case running =>
    intro h still
    simpa using ordered.running (List.mem_of_mem_erase still)
  case ended =>
    intro h q member
    simp only [StatusBoard.begun_finish]
    rcases List.mem_cons.mp member with same | member
    · cases same
      exact ⟨positive, small, gone⟩
    · obtain ⟨positive', small', stopped⟩ := ordered.ended member
      exact ⟨positive', small', fun still => stopped (List.mem_of_mem_erase still)⟩
  case once =>
    intro h q q' member member'
    rcases List.mem_cons.mp member with same | member <;>
      rcases List.mem_cons.mp member' with same' | member'
    · cases same
      cases same'
      rfl
    · cases same
      exact ((ordered.ended member').2.2 within).elim
    · cases same'
      exact ((ordered.ended member).2.2 within).elim
    · exact ordered.once member member'
  case known =>
    intro h positive' small' stopped
    simp only [StatusBoard.begun_finish] at small'
    by_cases same : h = g
    · subst same
      exact ⟨r, List.mem_cons_self⟩
    · obtain ⟨q, member⟩ := ordered.known positive' small'
        fun still => stopped ((List.mem_erase_of_ne same).mpr still)
      exact ⟨q, List.mem_cons_of_mem _ member⟩
  case idle =>
    intro empty
    simp only [StatusBoard.begun_finish] at empty
    omega
  case pending =>
    intro still
    simp only [StatusBoard.begun_finish] at still ⊢
    rw [ordered.board_finish_older within]
    · exact ordered.pending (List.mem_of_mem_erase still)
    · rintro rfl
      exact gone still
  case settled =>
    intro q member
    simp only [StatusBoard.begun_finish] at member ⊢
    rcases List.mem_cons.mp member with same | earlier
    · cases same
      rw [ordered.board_finish_newest]
    · rw [ordered.board_finish_older within]
      · exact ordered.settled earlier
      · rintro rfl
        exact (ordered.ended earlier).2.2 within

theorem step {s : Renders} (ordered : Ordered s) (event : Event) : Ordered (s.step event) := by
  cases event with
  | begin => exact ordered.begin
  | finish g r => exact ordered.finish g r

theorem run {s : Renders} (ordered : Ordered s) (events : List Event) : Ordered (s.run events) := by
  induction events generalizing s with
  | nil => exact ordered
  | cons event events ih => exact ih (ordered.step event)

theorem board_run {s : Renders} (ordered : Ordered s) (stopped : s.board.begun ∉ s.running)
    {events : List Event} (ends : ∀ event ∈ events, event.isBegin = false) :
    (s.run events).board = s.board := by
  induction events generalizing s with
  | nil => rfl
  | cons event events ih =>
    obtain ⟨first, rest⟩ := List.forall_mem_cons.mp ends
    cases event with
    | begin => cases first
    | finish g r =>
      have kept : (s.finish g r).board = s.board ∧ s.board.begun ∉ (s.finish g r).running := by
        unfold Renders.finish
        split
        case isFalse => exact ⟨rfl, stopped⟩
        rename_i within
        refine ⟨?_, fun still => stopped (List.mem_of_mem_erase still)⟩
        apply ordered.board_finish_older within
        rintro rfl
        exact stopped within
      have later := ih (ordered.finish g r) (by rw [kept.1]; exact kept.2) rest
      exact later.trans kept.1

end Ordered

theorem begun_run (s : Renders) (events : List Event) :
    (s.run events).board.begun = s.board.begun + events.countP Event.isBegin := by
  induction events generalizing s with
  | nil => rfl
  | cons event events ih =>
    simp only [run, List.foldl_cons] at ih ⊢
    rw [ih, List.countP_cons]
    cases event with
    | begin =>
      simp only [step, begin, StatusBoard.begun_begin, Event.isBegin, ↓reduceIte]
      omega
    | finish g r =>
      simp only [step, finish, Event.isBegin, Bool.false_eq_true, ↓reduceIte, Nat.add_zero]
      split <;> simp

/-- The protocol of generations, for renders that begin and end in any order: the status has the
generation of the newest render, is pending just while that one runs, and shows its result after
that; the end of an older render changes nothing, and once the newest one has ended nothing changes
the status before another render begins. -/
theorem run_newest (events : List Event) :
    let s := run .new events
    let newest := events.countP Event.isBegin
    s.board.latest.generation = newest ∧
    (newest = 0 → s.board.latest = .idle) ∧
    ((∃ g, s.board.latest = .pending g) ↔ newest ∈ s.running) ∧
    (0 < newest → newest ∉ s.running → ∃ r, (newest, r) ∈ s.results) ∧
    (∀ r, (newest, r) ∈ s.results → s.board.latest = .ofResult newest r) ∧
    (∀ g r, g ≠ newest → (s.finish g r).board = s.board) ∧
    (newest ∉ s.running → ∀ later, (∀ event ∈ later, event.isBegin = false) →
      (s.run later).board = s.board) := by
  intro s newest
  have ordered : Ordered s := Ordered.new.run events
  have begun : s.board.begun = newest := by
    exact (begun_run .new events).trans (Nat.zero_add _)
  rw [← begun]
  refine ⟨ordered.shown, ordered.idle, ⟨?_, fun within => ⟨_, ordered.pending within⟩⟩, ?_,
    fun r => ordered.settled, ?_, fun stopped later => ordered.board_run stopped⟩
  · rintro ⟨g, pending⟩
    by_contra stopped
    by_cases empty : s.board.begun = 0
    · simp [ordered.idle empty] at pending
    · obtain ⟨r, member⟩ := ordered.known (by omega) (Nat.le_refl _) stopped
      exact RenderStatus.ofResult_ne_pending _ _ r ((ordered.settled member).symm.trans pending)
  · intro positive stopped
    exact ordered.known positive (Nat.le_refl _) stopped
  · intro g r older
    unfold finish
    split
    · rename_i within
      exact ordered.board_finish_older within older r
    · rfl

end Renders
end CallChart
