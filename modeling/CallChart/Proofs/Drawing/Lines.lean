import CallChart.Describe
import CallChart.Proofs.Dot.Document

namespace CallChart

open Dot

/-- A body with nothing but plain text outside of its literals, and the braces that it has there. -/
structure NeatBody (body : List Statement) (braces : List Char) : Prop where
  neat : areNeat body = true
  braces : bodyBraces body = braces

namespace NeatBody

theorem append {body body' : List Statement} {braces braces' : List Char}
    (first : NeatBody body braces) (second : NeatBody body' braces') :
    NeatBody (body ++ body') (braces ++ braces') where
  neat := by rw [areNeat_append, first.neat, second.neat, Bool.and_self]
  braces := by rw [bodyBraces_append, first.braces, second.braces]

theorem subgraph {body : List Statement} {braces : List Char} (id : String)
    (inside : NeatBody body braces) :
    NeatBody [.subgraph id body] ('\x7b' :: braces ++ ['\x7d']) where
  neat := by simpa [areNeat, Statement.isNeat] using inside.neat
  braces := by simp [bodyBraces, Statement.braces, inside.braces]

theorem space : NeatBody [.space] [] := ⟨rfl, rfl⟩

theorem ofLines {body : List Statement} (neat : ∀ s ∈ body, s.isNeat = true ∧ s.braces = []) :
    NeatBody body [] := by
  refine ⟨areNeat_iff.mpr fun s within => (neat s within).1, ?_⟩
  induction body with
  | nil => rfl
  | cons s rest ih =>
    obtain ⟨first, others⟩ := List.forall_mem_cons.mp neat
    rw [bodyBraces, first.2, ih others, List.nil_append]

end NeatBody

namespace Cluster

mutual

def braces : Cluster → List Char
  | mk _ _ _ _ inner => '\x7b' :: bracesOf inner ++ ['\x7d']

def bracesOf : List Cluster → List Char
  | [] => []
  | c :: rest => braces c ++ bracesOf rest

end

mutual

theorem balanced_braces (c : Cluster) (depth : Nat) (rest : List Char) :
    balanced depth (c.braces ++ rest) = balanced depth rest := by
  cases c with
  | mk key label std members inner =>
    simp only [braces, List.cons_append, List.append_assoc, List.nil_append, balanced]
    rw [balanced_bracesOf inner, balanced]

theorem balanced_bracesOf (clusters : List Cluster) (depth : Nat) (rest : List Char) :
    balanced depth (bracesOf clusters ++ rest) = balanced depth rest := by
  cases clusters with
  | nil => rfl
  | cons c others =>
    rw [bracesOf, List.append_assoc, balanced_braces c, balanced_bracesOf others]

end

end Cluster

namespace Clustering

theorem eq_of_mem_nodes (c : Clustering) {ids : List Nat} {s : Statement}
    (within : s ∈ c.nodes ids) :
    ∃ id f, s = .node f.name (c.nodeAttributes id f) := by
  obtain ⟨id, -, written⟩ := List.mem_filterMap.mp within
  obtain ⟨f, -, rfl⟩ := Option.map_eq_some_iff.mp written
  exact ⟨id, f, rfl⟩

theorem eq_of_mem_edgeStatements (c : Clustering) {s : Statement} (within : s ∈ c.edgeStatements) :
    ∃ e caller callee, s = edgeStatement e caller callee := by
  obtain ⟨e, -, written⟩ := List.mem_filterMap.mp within
  simp only [Option.bind_eq_bind, Option.bind_eq_some_iff, Option.pure_def,
    Option.some.injEq] at written
  obtain ⟨caller, -, callee, -, rfl⟩ := written
  exact ⟨e, caller, callee, rfl⟩

theorem neat_nodes (c : Clustering) (ids : List Nat) : NeatBody (c.nodes ids) [] := by
  refine .ofLines fun s within => ?_
  obtain ⟨id, f, rfl⟩ := c.eq_of_mem_nodes within
  refine ⟨?_, rfl⟩
  simp only [Statement.isNeat, nodeAttributes, nodeFill, List.all_append, List.all_cons]
  split
  · decide
  · split <;> decide

theorem neat_clusterSettings (key : ClusterKey) (label : String) (std nested : Bool) :
    NeatBody (clusterSettings key label std nested) [] :=
  .ofLines (by simp [clusterSettings, Statement.isNeat, Statement.braces]; decide)

mutual

theorem neat_clusterStatement (c : Clustering) (nested : Bool) (id : String) (cluster : Cluster) :
    NeatBody [c.clusterStatement nested id cluster] cluster.braces := by
  cases cluster with
  | mk key label std members inner =>
    have own := (neat_clusterSettings key label std nested).append
      (NeatBody.space.append (c.neat_nodes members))
    have body := own.append (c.neat_innerStatements id 0 inner)
    rw [← List.append_assoc] at body
    exact body.subgraph id

theorem neat_innerStatements (c : Clustering) (id : String) (n : Nat) (clusters : List Cluster) :
    NeatBody (c.innerStatements id n clusters) (Cluster.bracesOf clusters) := by
  cases clusters with
  | nil => exact ⟨rfl, rfl⟩
  | cons cluster rest =>
    exact NeatBody.space.append
      ((c.neat_clusterStatement true (innerId id n) cluster).append
        (c.neat_innerStatements id (n + 1) rest))

end

theorem neat_clusterStatements (c : Clustering) (n : Nat) (clusters : List Cluster) :
    NeatBody (c.clusterStatements n clusters) (Cluster.bracesOf clusters) := by
  induction clusters generalizing n with
  | nil => exact ⟨rfl, rfl⟩
  | cons cluster rest ih =>
    exact (c.neat_clusterStatement false (innerId "cluster" n) cluster).append
      (NeatBody.space.append (ih (n + 1)))

theorem neat_ungroupedStatements (c : Clustering) : NeatBody c.ungroupedStatements [] := by
  unfold ungroupedStatements
  split
  · exact ⟨rfl, rfl⟩
  · exact (c.neat_nodes c.ungrouped).append .space

theorem neat_edgeStatements (c : Clustering) : NeatBody c.edgeStatements [] := by
  refine .ofLines fun s within => ?_
  obtain ⟨e, caller, callee, rfl⟩ := c.eq_of_mem_edgeStatements within
  refine ⟨?_, rfl⟩
  simp only [edgeStatement, Statement.isNeat, List.cons_append, List.all_append, List.all_cons]
  split <;> split <;> decide

theorem neat_headStatements (style : Style) : NeatBody (headStatements style) [] :=
  .ofLines (by simp [headStatements, Statement.isNeat, Statement.braces]; decide)

theorem neat_body (c : Clustering) (style : Style) :
    NeatBody (c.document style).body (Cluster.bracesOf c.clusters) := by
  have whole := (((neat_headStatements style).append (c.neat_clusterStatements 0 c.clusters)).append
    c.neat_ungroupedStatements).append c.neat_edgeStatements
  simpa [document] using whole

theorem neat_lines (c : Clustering) (style : Style) : NeatLines (c.document style).lines
    ('\x7b' :: Cluster.bracesOf c.clusters ++ ['\x7d']) := by
  have body := c.neat_body style
  have opening : Neat "digraph callvis \x7b".toList ['\x7b'] := ⟨by decide, by decide, by decide⟩
  have closing : Neat ['\x7d'] ['\x7d'] := ⟨by decide, by decide, by decide⟩
  have inside := body_neat_lines 1 (c.document style).body body.neat
  rw [body.braces] at inside
  have first : ("digraph ".toList ++ "callvis".toList ++ " \x7b".toList) =
      "digraph callvis \x7b".toList := by decide
  rw [← first] at opening
  exact ((NeatLines.single opening).append inside).append (.single closing)

end Clustering

namespace CallGraph

theorem describe_eq_ok_iff {g : CallGraph} {o : Options} {text : String} : g.describe o = .ok text ↔
    o.normalized.check = .ok () ∧ ∃ s, g.select o.normalized = .ok s ∧
      text = ((s.clustered o.group).document o.style).text := by
  simp only [describe, drawing, bind, Except.bind, pure, Except.pure]
  cases o.normalized.check with
  | error => simp
  | ok =>
    cases g.select o.normalized with
    | error => simp
    | ok s => simp [Clustering.render, Options.normalized, eq_comm]

/-- A text that has the lines of a drawing and no others. At line breaks and at the end no literal is
open, and outside of literals there is one pair of braces around everything and one for each cluster. -/
structure WellFormed (c : Clustering) (style : Style) (text : String) : Prop where
  lines : Text.splitChars '\n' text.toList = (c.document style).lines ++ [[]]
  closed (before rest : List Char) : text.toList = before ++ '\n' :: rest →
    Reader.outside.after before = .outside
  ended : Reader.outside.after text.toList = .outside
  braces : (Reader.outside.bare text.toList).filter isBrace =
    '\x7b' :: Cluster.bracesOf c.clusters ++ ['\x7d']
  balanced : balanced 0 ((Reader.outside.bare text.toList).filter isBrace) = true

/-- Descriptions are well-formed whatever the names and styles are. -/
theorem describe_wellFormed {g : CallGraph} {o : Options} {text : String}
    (described : g.describe o = .ok text) :
    ∃ s, g.select o.normalized = .ok s ∧ WellFormed (s.clustered o.group) o.style text := by
  obtain ⟨-, s, selected, rfl⟩ := describe_eq_ok_iff.mp described
  have neat := (s.clustered o.group).neat_lines o.style
  have chars : ((s.clustered o.group).document o.style).text.toList =
      NeatLines.joined ((s.clustered o.group).document o.style).lines := String.toList_ofList
  obtain ⟨closed, braces⟩ := neat.joined_neat
  refine ⟨s, selected, ?_, ?_, ?_, ?_, ?_⟩
  · rw [chars, neat.split_joined]
  · intro before rest cut
    rw [chars] at cut
    exact neat.closed_at_break cut
  · rw [chars, closed]
  · rw [chars, braces]
  · rw [chars, braces, List.cons_append, Dot.balanced, Cluster.balanced_bracesOf]
    rfl

def tangled : CallGraph where
  packages := [⟨"a\"\x7b", "main\\", false⟩]
  functions := [⟨"f\\", "\"];\n\x7d", "a\"\x7b", none, true, false, false⟩,
    ⟨"g\"", "g", "a\"\x7b", some ⟨"T\x7d\\", true⟩, false, false, false⟩]
  edges := [⟨0, 1, 1, 1⟩]

def tangledOptions : Options :=
  { Options.default with
    focus := "", group := .packageType, nointer := false
    style := { Style.default with nodeshape := "b\\\"\x7b\n" } }

theorem tangled_wellFormed : ∃ text s, tangled.describe tangledOptions = .ok text ∧
    tangled.select tangledOptions.normalized = .ok s ∧ s.edges = [0] ∧
    WellFormed (s.clustered .packageType) tangledOptions.style text := by
  have checked : tangledOptions.normalized.check = .ok () := by decide +kernel
  have selected : tangled.select tangledOptions.normalized = .ok ⟨tangled, [0, 1], [0], []⟩ := by
    decide +kernel
  have described := describe_eq_ok_iff.mpr ⟨checked, _, selected, rfl⟩
  obtain ⟨s, selected', wellFormed⟩ := describe_wellFormed described
  obtain rfl := Except.ok.inj (selected.symm.trans selected')
  exact ⟨_, _, described, selected, rfl, wellFormed⟩

end CallGraph
end CallChart
