import CallChart.Rendering

namespace CallChart

inductive RenderStatus where
  | idle
  | pending (generation : Nat)
  | ready (generation : Nat) (rendering : Rendering)
  | failed (generation : Nat) (failure : Failure)
  deriving DecidableEq, Repr

namespace RenderStatus

def generation : RenderStatus → Nat
  | .idle => 0
  | .pending g => g
  | .ready g _ => g
  | .failed g _ => g

def label : RenderStatus → String
  | .idle => "idle"
  | .pending _ => "pending"
  | .ready .. => "ready"
  | .failed .. => "failed"

def failure? : RenderStatus → Option Failure
  | .failed _ e => some e
  | _ => none

def ofResult (generation : Nat) : Except Failure Rendering → RenderStatus
  | .ok rendering => .ready generation rendering
  | .error e => .failed generation e

end RenderStatus

structure StatusBoard where
  begun : Nat
  latest : RenderStatus
  deriving DecidableEq, Repr

namespace StatusBoard

def new : StatusBoard := ⟨0, .idle⟩

def next (b : StatusBoard) : Nat :=
  b.begun + 1

def begin (b : StatusBoard) : StatusBoard :=
  ⟨b.next, .pending b.next⟩

def finish (b : StatusBoard) (generation : Nat) (result : Except Failure Rendering) :
    StatusBoard :=
  if generation < b.latest.generation then b
  else { b with latest := .ofResult generation result }

end StatusBoard
end CallChart
