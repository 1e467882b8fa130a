import CallChart.Dot.Document
import Mathlib.Tactic.Common

namespace CallChart.Dot

structure Frame where
  id : String
  settings : List Attribute
  deriving DecidableEq, Repr

def Statement.setting? : Statement → Option Attribute
  | .setting a => some a
  | _ => none

def frameOf (id : String) (body : List Statement) : Frame :=
  ⟨id, body.filterMap Statement.setting?⟩

structure Part where
  around : List Frame
  statement : Statement

mutual

def Statement.parts (around : List Frame) : Statement → List Part
  | .subgraph id body =>
    ⟨around, .subgraph id body⟩ :: bodyParts (around ++ [frameOf id body]) body
  | s => [⟨around, s⟩]

def bodyParts (around : List Frame) : List Statement → List Part
  | [] => []
  | s :: rest => s.parts around ++ bodyParts around rest

end

def gather {α : Type} (pick : Part → Option α) (around : List Frame) (body : List Statement) :
    List α :=
  (bodyParts around body).filterMap pick

structure NodePart where
  around : List Frame
  name : String
  attributes : List Attribute
  deriving DecidableEq, Repr

def Part.node? : Part → Option NodePart
  | ⟨around, .node name attributes⟩ => some ⟨around, name, attributes⟩
  | _ => none

structure EdgePart where
  source : String
  target : String
  attributes : List Attribute
  deriving DecidableEq, Repr

def Part.edge? : Part → Option EdgePart
  | ⟨_, .edge source target attributes⟩ => some ⟨source, target, attributes⟩
  | _ => none

def Part.frame? : Part → Option Frame
  | ⟨_, .subgraph id body⟩ => some (frameOf id body)
  | _ => none

def Statement.isMinor : Statement → Bool
  | .setting _ => true
  | .defaults .. => true
  | .space => true
  | _ => false

def Ignores {α : Type} (pick : Part → Option α) : Prop :=
  ∀ around s, s.isMinor = true → pick ⟨around, s⟩ = none

theorem ignores_node : Ignores Part.node? := by
  intro around s minor
  cases s <;> first | rfl | cases minor

theorem ignores_edge : Ignores Part.edge? := by
  intro around s minor
  cases s <;> first | rfl | cases minor

theorem ignores_frame : Ignores Part.frame? := by
  intro around s minor
  cases s <;> first | rfl | cases minor

def Document.nodes (d : Document) : List NodePart :=
  gather Part.node? [] d.body

def Document.edges (d : Document) : List EdgePart :=
  gather Part.edge? [] d.body

def Document.frames (d : Document) : List Frame :=
  gather Part.frame? [] d.body

theorem bodyParts_append {around : List Frame} (first second : List Statement) :
    bodyParts around (first ++ second) = bodyParts around first ++ bodyParts around second := by
  induction first with
  | nil => rfl
  | cons s rest ih => simp [bodyParts, ih]

theorem gather_eq_nil_iff {α : Type} {pick : Part → Option α} {around : List Frame}
    {body : List Statement} :
    gather pick around body = [] ↔ ∀ p ∈ bodyParts around body, pick p = none :=
  List.filterMap_eq_nil_iff

theorem gather_append {α : Type} {pick : Part → Option α} {around : List Frame}
    (first second : List Statement) :
    gather pick around (first ++ second) = gather pick around first ++ gather pick around second := by
  rw [gather, bodyParts_append, List.filterMap_append]
  rfl

theorem gather_cons {α : Type} {pick : Part → Option α} {around : List Frame} (s : Statement)
    (rest : List Statement) :
    gather pick around (s :: rest) = gather pick around [s] ++ gather pick around rest :=
  gather_append [s] rest

theorem gather_subgraph {α : Type} {pick : Part → Option α} {around : List Frame} (id : String)
    (body : List Statement) :
    gather pick around [.subgraph id body] =
      (pick ⟨around, .subgraph id body⟩).toList ++
        gather pick (around ++ [frameOf id body]) body := by
  simp only [gather, bodyParts, Statement.parts, List.append_nil, List.filterMap_cons]
  cases pick ⟨around, .subgraph id body⟩ <;> rfl

def Statement.isLeaf : Statement → Bool
  | .subgraph .. => false
  | _ => true

theorem Statement.parts_leaf {around : List Frame} {s : Statement} (leaf : s.isLeaf = true) :
    s.parts around = [⟨around, s⟩] := by
  cases s with
  | subgraph => cases leaf
  | _ => rfl

theorem gather_leaves {α : Type} {pick : Part → Option α} {around : List Frame}
    {body : List Statement} (leaves : ∀ s ∈ body, s.isLeaf = true) :
    gather pick around body = body.filterMap fun s => pick ⟨around, s⟩ := by
  have parts : bodyParts around body = body.map (Part.mk around) := by
    induction body with
    | nil => rfl
    | cons s rest ih =>
      obtain ⟨leaf, others⟩ := List.forall_mem_cons.mp leaves
      rw [bodyParts, Statement.parts_leaf leaf, ih others]
      rfl
  rw [gather, parts, List.filterMap_map]
  rfl

theorem gather_minor {α : Type} {pick : Part → Option α} {around : List Frame}
    (ignores : Ignores pick) {body : List Statement} (minor : ∀ s ∈ body, s.isMinor = true) :
    gather pick around body = [] := by
  rw [gather_leaves, List.filterMap_eq_nil_iff]
  · exact fun s within => ignores around s (minor s within)
  · intro s within
    have plain := minor s within
    cases s <;> first | rfl | cases plain

end CallChart.Dot
