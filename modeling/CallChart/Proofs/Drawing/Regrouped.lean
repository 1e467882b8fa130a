import CallChart.Proofs.Dot.Reading
import CallChart.Proofs.Drawing.Partition

namespace CallChart

namespace Dot

def isDrawn (line : List Char) : Bool :=
  (readNode? line).isSome || (readEdge? line).isSome || line.getLast?.any isBrace

def headLines : List (List Char) → List (List Char)
  | [] => []
  | first :: rest => first :: rest.takeWhile fun line => !isDrawn line

theorem mem_bodyLines {level : Nat} {body : List Statement} {line : List Char} :
    line ∈ bodyLines level body ↔ ∃ s ∈ body, line ∈ s.lines level := by
  induction body with
  | nil => simp [bodyLines]
  | cons s rest ih => simp [bodyLines, ih]

namespace Statement

theorem not_drawn {s : Statement} (minor : s.isMinor = true) (neat : s.isNeat = true)
    (level : Nat) :
    ∀ line ∈ s.lines level, isDrawn line = false := by
  intro line within
  have unread := s.unread minor neat level line within
  have leaf : s.isLeaf = true := by cases s <;> first | rfl | cases minor
  have ending := s.ending leaf level line within
  have brace : line.getLast?.any isBrace = false := by
    rcases ending with rfl | ⟨cs, rfl⟩
    · rfl
    · simp [isBrace]
  simp [isDrawn, readNode?, readEdge?, unread, brace]

theorem drawn_first {s : Statement} (major : s.isMinor = false) (level : Nat) :
    ∃ line rest, s.lines level = line :: rest ∧ isDrawn line = true := by
  cases s with
  | node name attributes =>
    refine ⟨_, _, rfl, ?_⟩
    have read : readNode? (indentation level ++ (literal name ++ attributeList attributes)) = _ :=
      readNode?_chars level ⟨[], name, attributes⟩
    rw [List.append_assoc, isDrawn, read]
    rfl
  | edge source target attributes =>
    refine ⟨_, _, rfl, ?_⟩
    have read := readEdge?_chars level ⟨source, target, attributes⟩
    simp only [EdgePart.chars, ← List.append_assoc] at read
    rw [isDrawn, read, Option.isSome_some, Bool.or_true, Bool.true_or]
  | subgraph id body =>
    refine ⟨_, _, rfl, ?_⟩
    have brace : " \x7b".toList = [' '] ++ ['\x7b'] := rfl
    rw [isDrawn, brace, ← List.append_assoc, List.getLast?_concat]
    exact Bool.or_true _
  | setting => cases major
  | defaults => cases major
  | space => cases major

end Statement

inductive Drawn : List Statement → Prop where
  | none : Drawn []
  | first {s : Statement} {rest : List Statement} : s.isMinor = false → Drawn (s :: rest)

theorem headLines_body {head rest : List Statement} (minor : ∀ s ∈ head, s.isMinor = true)
    (neat : areNeat head = true) (drawn : Drawn rest) (first : List Char) (more : List (List Char)) :
    headLines (first :: bodyLines 1 (head ++ rest) ++ ['\x7d'] :: more) =
      first :: bodyLines 1 head := by
  have said : ∀ line ∈ bodyLines 1 head, (!isDrawn line) = true := by
    intro line within
    obtain ⟨s, said, within⟩ := mem_bodyLines.mp within
    rw [s.not_drawn (minor s said) (areNeat_iff.mp neat s said) 1 line within, Bool.not_false]
  have stops :
      (bodyLines 1 rest ++ ['\x7d'] :: more).takeWhile (fun line => !isDrawn line) = [] := by
    cases drawn with
    | none => rfl
    | @first s rest major =>
      obtain ⟨line, more, lines, drawn⟩ := s.drawn_first major 1
      simp [bodyLines, lines, drawn]
  rw [bodyLines_append, List.cons_append, List.append_assoc, headLines,
    List.takeWhile_append_of_pos said, stops, List.append_nil]

end Dot

open Dot

namespace Clustering

theorem function_of_mem_ungrouped {s : Selection} (within : s.Within s.graph) {mode : GroupMode}
    {id : Nat} (member : id ∈ (s.clustered mode).ungrouped) :
    ∃ f, (s.clustered mode).selection.graph.functions[id]? = some f := by
  have members := (within.allMembers_clustered mode).mem_iff (a := id)
  have inside := within.inside id (members.mp (List.mem_append_right _ member))
  rw [s.clustered_selection]
  exact ⟨_, List.getElem?_eq_getElem inside⟩

theorem drawn_body {s : Selection} (within : s.Within s.graph) (mode : GroupMode) :
    let c := s.clustered mode
    Drawn (c.clusterStatements 0 c.clusters ++ (c.ungroupedStatements ++ c.edgeStatements)) := by
  intro c
  cases clusters : c.clusters with
  | cons cluster rest =>
    refine .first ?_
    cases cluster
    rw [clusterStatement]
    rfl
  | nil =>
    rw [clusterStatements, List.nil_append, ungroupedStatements]
    cases ungrouped : c.ungrouped with
    | cons id rest =>
      obtain ⟨f, there⟩ := function_of_mem_ungrouped within (ungrouped ▸ List.mem_cons_self)
      rw [List.isEmpty_cons, if_neg Bool.false_ne_true, nodes, List.filterMap_cons, there]
      exact .first rfl
    | nil =>
      cases edges : c.edgeStatements with
      | nil => exact .none
      | cons e rest =>
        obtain ⟨_, _, _, rfl⟩ := c.eq_of_mem_edgeStatements (edges ▸ List.mem_cons_self)
        exact .first rfl

theorem headLines_document {s : Selection} (within : s.Within s.graph) (mode : GroupMode)
    (style : Style) :
    headLines (textLines ((s.clustered mode).document style).text) =
      "digraph callvis \x7b".toList :: bodyLines 1 (headStatements style) := by
  have minor : ∀ h ∈ headStatements style, h.isMinor = true := by
    simp [headStatements, Statement.isMinor]
  have neat := (neat_headStatements style).neat
  have head := headLines_body minor neat (drawn_body within mode) "digraph callvis \x7b".toList [[]]
  rw [← head, textLines_document, Document.lines, document]
  simp only [List.append_assoc]
  rfl

theorem edges_clustered (s : Selection) (mode mode' : GroupMode) (style : Style) :
    ((s.clustered mode).document style).edges = ((s.clustered mode').document style).edges := by
  rw [edges_document, edges_document]
  rfl

theorem drawn_chars (s : Selection) (mode mode' : GroupMode) (seats seats' : Function → List Frame)
    (id : Nat) : ((s.clustered mode).drawn seats id).map NodePart.chars =
      ((s.clustered mode').drawn seats' id).map NodePart.chars := by
  simp only [drawn, Option.map_map, nodeAttributes, nodeFill, s.clustered_selection]
  rfl

theorem nodeLines_unindented (c : Clustering) (style : Style) :
    (nodeLines (textLines (c.document style).text)).map unindented =
      (c.document style).nodes.map NodePart.chars := by
  rw [nodeLines_document, List.map_map]
  refine List.map_congr_left fun n _ => ?_
  rw [Function.comp, unindented_indentation, NodePart.chars, unindented_literal]

theorem nodes_clustered {s : Selection} (within : s.Within s.graph) (mode mode' : GroupMode)
    (style : Style) :
    ((nodeLines (textLines ((s.clustered mode).document style).text)).map unindented).Perm
      ((nodeLines (textLines ((s.clustered mode').document style).text)).map unindented) := by
  have drawn (mode : GroupMode) :=
    (nodes_document within.once within.inside mode style).map NodePart.chars
  simp only [nodeLines_unindented]
  refine (drawn mode).trans (.trans (.of_eq ?_) (drawn mode').symm)
  rw [List.map_filterMap, List.map_filterMap]
  exact List.filterMap_congr fun id _ => drawn_chars s mode mode' _ _ id

end Clustering

/-- Texts that say the same about the drawing as a whole, about edges and about nodes, wherever the
nodes stand. -/
structure Regrouped (text text' : String) : Prop where
  head : headLines (textLines text) = headLines (textLines text')
  edges : edgeLines (textLines text) = edgeLines (textLines text')
  nodes : ((nodeLines (textLines text)).map unindented).Perm
    ((nodeLines (textLines text')).map unindented)

theorem Selection.Within.regrouped {s : Selection} {g : CallGraph} (within : s.Within g)
    (mode mode' : GroupMode) (style : Style) :
    Regrouped ((s.clustered mode).document style).text
      ((s.clustered mode').document style).text := by
  obtain rfl := within.graph
  constructor
  case head =>
    rw [Clustering.headLines_document within, Clustering.headLines_document within]
  case edges =>
    rw [Clustering.edgeLines_document, Clustering.edgeLines_document,
      Clustering.edges_clustered s mode mode']
  case nodes => exact Clustering.nodes_clustered within mode mode' style

namespace CallGraph

theorem describe_eq (g : CallGraph) (o : Options) : g.describe o =
    o.normalized.check.bind fun _ => (g.select o.normalized).map fun s =>
      ((s.clustered o.group).document o.style).text := by
  simp only [describe, drawing, bind, Except.bind, pure, Except.pure]
  cases o.normalized.check with
  | error => simp
  | ok => cases g.select o.normalized <;> simp [Except.map, Clustering.render, Options.normalized]

theorem check_group (o : Options) (mode : GroupMode) :
    ({ o with group := mode } : Options).normalized.check = o.normalized.check := by
  have style : ({ o with group := mode } : Options).normalized.style = o.normalized.style := rfl
  simp only [Options.check, style]

theorem select_group (g : CallGraph) (o : Options) (mode : GroupMode) :
    g.select ({ o with group := mode } : Options).normalized = g.select o.normalized := by
  have kept : g.keeps ({ o with group := mode } : Options).normalized =
      g.keeps o.normalized := by
    funext retained id f
    simp only [keeps, Options.normalized]
  simp only [select, kept]
  rfl

theorem describe_regrouped (g : CallGraph) (o : Options) (mode : GroupMode) :
    (∃ failure, g.describe o = .error failure ∧
      g.describe { o with group := mode } = .error failure) ∨
    ∃ text text', g.describe o = .ok text ∧ g.describe { o with group := mode } = .ok text' ∧
      Regrouped text text' := by
  rw [describe_eq g o, describe_eq g { o with group := mode }, check_group o mode,
    select_group g o mode]
  cases o.normalized.check with
  | error failure => exact .inl ⟨failure, rfl, rfl⟩
  | ok =>
    cases selected : g.select o.normalized with
    | error failure => exact .inl ⟨failure, rfl, rfl⟩
    | ok s => exact .inr ⟨_, _, rfl, rfl, (within_of_select selected).regrouped o.group mode o.style⟩

end CallGraph
end CallChart
