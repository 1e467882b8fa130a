import CallChart.Proofs.Drawing.Nodes
import CallChart.Proofs.Graph.Built
import CallChart.Proofs.Graph.Drawing

namespace CallChart

open Dot

namespace Export

def drawnCalls (x : Export) (f k : CallChart.Function) : EdgePart :=
  let calls := x.callsBetween f.name k.name
  let count := if 1 < calls.length then " (" ++ toString calls.length ++ " call sites)" else ""
  { source := f.name
    target := k.name
    attributes := ("tooltip", f.name ++ " --> " ++ k.name ++ count) ::
      (if calls.any (·.dynamic) then [("style", "dashed")] else []) ++
      (if f.package ≠ k.package then [("color", "saddlebrown")] else []) }

theorem keys_drawnCalls (x : Export) (f k : CallChart.Function) :
    ∀ a ∈ (x.drawnCalls f k).attributes, '=' ∉ a.1.toList := by
  simp only [drawnCalls]
  split <;> split <;> simp

end Export

namespace CallGraph

theorem select_eq_ok {g : CallGraph} {o : Options} {s : Selection} (selected : g.select o = .ok s) :
    ∃ focus, s = g.selection o focus := by
  rw [select_eq] at selected
  cases found : g.resolveFocus o.focus with
  | error failure => simp [found, Except.map] at selected
  | ok focus =>
    rw [found] at selected
    exact ⟨focus, (Except.ok.inj selected).symm⟩

theorem mem_keptEdges {g : CallGraph} {o : Options} {focus : List Nat} {e : Edge} :
    e ∈ (g.selection o focus).keptEdges ↔
    e ∈ g.edges ∧ e.caller ∈ (g.selection o focus).nodes ∧
      e.callee ∈ (g.selection o focus).nodes := by
  rw [keptEdges_selection, List.mem_filter, joinsKept, Bool.and_eq_true, List.contains_iff_mem,
    List.contains_iff_mem]
  rfl

end CallGraph

namespace Clustering

theorem drawn_edge {x : Export} {entry : String} {g : CallGraph} (builds : x.Builds entry g)
    {i j : Nat} {f k : Function} (caller : g.functions[i]? = some f)
    (callee : g.functions[j]? = some k) (around : List Frame) :
    Part.edge? ⟨around, edgeStatement (CallGraph.edgeBetween g.edges i j) f k⟩ =
      some (x.drawnCalls f k) := by
  obtain ⟨-, sites, dynamic⟩ := builds.edgeBetween caller callee
  simp only [edgeStatement, edgeTooltip, Part.edge?, Export.drawnCalls, sites, dynamic]

theorem mem_ends_iff {c : Clustering} {x : Export} {entry : String} {g : CallGraph} {o : Options}
    {focus : List Nat} (builds : x.Builds entry g) (selected : c.selection = g.selection o focus)
    {p : Nat × Nat} : p ∈ c.sortedEdges.map Edge.ends ↔
      p.1 ∈ c.selection.nodes ∧ p.2 ∈ c.selection.nodes ∧ ∃ f k, g.functions[p.1]? = some f ∧
        g.functions[p.2]? = some k ∧ x.callsBetween f.name k.name ≠ [] := by
  simp only [sortedEdges_eq, List.mem_map, List.mem_mergeSort, selected, CallGraph.mem_keptEdges]
  constructor
  · rintro ⟨e, ⟨there, first, second⟩, rfl⟩
    obtain ⟨called, between⟩ := builds.well.mem_iff.mp there
    obtain ⟨inside, inside'⟩ := builds.well.inside there
    have caller := List.getElem?_eq_getElem inside
    have callee := List.getElem?_eq_getElem inside'
    -- A kept edge is the one edge of its pair, so it counts all calls between its functions.
    obtain ⟨-, sites, -⟩ := builds.edgeBetween caller callee
    rw [between] at sites
    rw [sites] at called
    exact ⟨first, second, _, _, caller, callee, List.ne_nil_of_length_pos called⟩
  · rintro ⟨first, second, f, k, caller, callee, called⟩
    obtain ⟨ends, sites, -⟩ := builds.edgeBetween caller callee
    obtain ⟨callers, callees⟩ := Prod.mk.inj ends
    refine ⟨_, ⟨?_, ?_, ?_⟩, ends⟩
    · rw [builds.well.mem_iff, callers, callees, sites]
      exact ⟨List.length_pos_of_ne_nil called, rfl⟩
    · rwa [callers]
    · rwa [callees]

theorem mem_of_mem_sortedEdges {c : Clustering} {g : CallGraph} {o : Options} {focus : List Nat}
    (selected : c.selection = g.selection o focus) {e : Edge} (drawn : e ∈ c.sortedEdges) :
    e ∈ g.edges := by
  rw [sortedEdges_eq, List.mem_mergeSort, selected] at drawn
  exact (CallGraph.mem_keptEdges.mp drawn).1

theorem sortedEdges_increasing {c : Clustering} {x : Export} {entry : String} {g : CallGraph}
    {o : Options} {focus : List Nat} (builds : x.Builds entry g)
    (selected : c.selection = g.selection o focus) :
    c.sortedEdges.Pairwise fun e d => edgeRank g e < edgeRank g d := by
  have once : c.sortedEdges.Nodup := by
    rw [sortedEdges_eq, (List.mergeSort_perm _ _).nodup_iff, selected,
      CallGraph.keptEdges_selection]
    exact builds.well.single.of_map.filter _
  have within {e : Edge} (drawn : e ∈ c.sortedEdges) := mem_of_mem_sortedEdges selected drawn
  have ordered : c.sortedEdges.Pairwise fun e d => edgeRank g e ≤ edgeRank g d := by
    rw [sortedEdges_eq, selected]
    exact mergeSort_increasing _ _
  -- Names tell edges apart, so none of the sorted edges has the rank of the next one.
  refine (ordered.and once).imp_of_mem fun first second ⟨below, other⟩ => ?_
  exact lt_of_le_of_ne below fun same =>
    other (edgeRank_inj builds.apart builds.well (within first) (within second) same)

theorem edges_selected {c : Clustering} {x : Export} {entry : String} {g : CallGraph} {o : Options}
    {focus : List Nat} (builds : x.Builds entry g) (selected : c.selection = g.selection o focus)
    (style : Style) : List.Forall₂ (fun drawn p => ∃ f k, g.functions[p.1]? = some f ∧
        g.functions[p.2]? = some k ∧ drawn = x.drawnCalls f k)
      (c.document style).edges (c.sortedEdges.map Edge.ends) := by
  let calls (p : Nat × Nat) : Option EdgePart :=
    g.functions[p.1]?.bind fun f => g.functions[p.2]?.map fun k => x.drawnCalls f k
  have graph : c.selection.graph = g := by rw [selected]; rfl
  have there {e : Edge} (drawn : e ∈ c.sortedEdges) := mem_of_mem_sortedEdges selected drawn
  have edges : (c.document style).edges = (c.sortedEdges.map Edge.ends).filterMap calls := by
    rw [edges_document, gather_edgeStatements, List.filterMap_map, graph]
    refine List.filterMap_congr fun e drawn => ?_
    obtain ⟨inside, inside'⟩ := builds.well.inside (there drawn)
    have caller := List.getElem?_eq_getElem inside
    have callee := List.getElem?_eq_getElem inside'
    have edge := drawn_edge builds caller callee []
    rw [(builds.well.mem_iff.mp (there drawn)).2] at edge
    simp [calls, Edge.ends, caller, callee, edge]
  rw [edges]
  refine (forall₂_filterMap fun p member => ?_).imp fun drawn p made => ?_
  · obtain ⟨e, drawn, rfl⟩ := List.mem_map.mp member
    obtain ⟨inside, inside'⟩ := builds.well.inside (there drawn)
    simp [calls, Edge.ends, inside, inside']
  · obtain ⟨f, caller, made⟩ := Option.bind_eq_some_iff.mp made
    obtain ⟨k, callee, same⟩ := Option.map_eq_some_iff.mp made
    exact ⟨f, k, caller, callee, same.symm⟩

end Clustering

/-- The line of a function's node, in the subgraphs of its clusters. -/
def DrawsNode (s : Selection) (mode : GroupMode) (node : List ReadFrame × List Char) (id : Nat) : Prop :=
  ∃ f written, s.graph.functions[id]? = some f ∧ node.1 = (s.seats mode f).map Frame.readBack ∧
    nodeLiteral? node.2 = some (literal f.name) ∧
    readNode? node.2 = some (withoutReturns f.name, written) ∧
    readAttributes? written = some (((s.clustered mode).nodeAttributes id f).map readBack)

/-- The line of the edge between two functions, with what their calls make of it. -/
def DrawsEdge (x : Export) (s : Selection) (line : List Char) (ends : Nat × Nat) : Prop :=
  ∃ f k written, s.graph.functions[ends.1]? = some f ∧ s.graph.functions[ends.2]? = some k ∧
    edgeLiterals? line = some (literal f.name, literal k.name) ∧
    readEdge? line = some (withoutReturns f.name, withoutReturns k.name, written) ∧
    readAttributes? written = some ((x.drawnCalls f k).attributes.map readBack)

/-- A text with one node for each selected function, in the subgraphs of its clusters, and one edge for
each two of them with calls from the first to the second, in the order of their names. -/
structure Complete (x : Export) (s : Selection) (mode : GroupMode) (text : String) (ids : List Nat)
    (pairs : List (Nat × Nat)) : Prop where
  once : s.nodes.Nodup
  selected : ids.Perm s.nodes
  nodes : List.Forall₂ (DrawsNode s mode) (placedNodes (textLines text)) ids
  called (p : Nat × Nat) : p ∈ pairs ↔ p.1 ∈ s.nodes ∧ p.2 ∈ s.nodes ∧ ∃ f k,
    s.graph.functions[p.1]? = some f ∧ s.graph.functions[p.2]? = some k ∧
      x.callsBetween f.name k.name ≠ []
  ordered : pairs.Pairwise fun p q => toLex (s.graph.nameOf p.1, s.graph.nameOf p.2) <
    toLex (s.graph.nameOf q.1, s.graph.nameOf q.2)
  edges : List.Forall₂ (DrawsEdge x s) (edgeLines (textLines text)) pairs

theorem Export.Builds.complete {x : Export} {entry : String} {g : CallGraph} {o : Options}
    {s : Selection} (builds : x.Builds entry g) (selected : g.select o = .ok s) (mode : GroupMode)
    (style : Style) : ∃ ids pairs,
      Complete x s mode ((s.clustered mode).document style).text ids pairs := by
  obtain ⟨focus, chosen⟩ := CallGraph.select_eq_ok selected
  have clustered : (s.clustered mode).selection = g.selection o focus := chosen
  have graph : s.graph = g := by
    rw [chosen]
    rfl
  have once : s.nodes.Nodup := by
    rw [chosen]
    exact List.nodup_range.filter _
  have inside : ∀ id ∈ s.nodes, id < s.graph.functions.length := by
    intro id within
    rw [chosen] at within ⊢
    exact CallGraph.lt_of_any (List.mem_filter.mp within).2
  obtain ⟨ids, perm, nodes⟩ := Clustering.nodes_selected once inside mode style
  refine ⟨ids, (s.clustered mode).sortedEdges.map Edge.ends, once, perm, ?_, fun p => ?_, ?_, ?_⟩
  case refine_1 =>
    rw [Clustering.placedNodes_document, List.forall₂_map_left_iff]
    refine nodes.imp fun n id drawn => ?_
    obtain ⟨f, there, rfl⟩ := drawn
    exact ⟨f, _, there, rfl, nodeLiteral?_chars _ _, readNode?_chars _ _,
      readAttributes?_joined (List.cons_ne_nil _ _) (Clustering.keys_nodeAttributes _ id f)⟩
  case refine_2 =>
    rw [graph]
    exact Clustering.mem_ends_iff builds clustered
  case refine_3 =>
    rw [List.pairwise_map, graph]
    exact Clustering.sortedEdges_increasing builds clustered
  case refine_4 =>
    rw [Clustering.edgeLines_document, List.forall₂_map_left_iff]
    refine (Clustering.edges_selected builds clustered style).imp fun e p drawn => ?_
    obtain ⟨f, k, caller, callee, rfl⟩ := drawn
    exact ⟨f, k, _, graph ▸ caller, graph ▸ callee, edgeLiterals?_chars _ _, readEdge?_chars _ _,
      readAttributes?_joined (List.cons_ne_nil _ _) (x.keys_drawnCalls f k)⟩

namespace Analysis

theorem exists_described {x : Export} {entry : String} {tests : Bool} {o : Options} {g : CallGraph}
    {s : Selection} (chosen : x.graphFor entry tests = .ok g)
    (checked : o.normalized.check = .ok ()) (selected : g.select o.normalized = .ok s)
    (bytes : List UInt8) :
    ∃ a, resolve x bytes entry tests = .ok a ∧ a.graph = g ∧
      a.graph.describe o = .ok ((s.clustered o.group).document o.style).text := by
  obtain ⟨a, resolved, rfl⟩ := resolve_of_graphFor chosen bytes
  exact ⟨a, resolved, rfl, CallGraph.describe_eq_ok_iff.mpr ⟨checked, s, selected, rfl⟩⟩

def everyFunction : Options :=
  { Options.default with focus := "", group := .packageType, nointer := false }

theorem check_everyFunction : everyFunction.normalized.check = .ok () := by decide +kernel

def exchange : Export where
  packages := [⟨"app", "main", none⟩, ⟨"lib", "lib", some false⟩]
  functions := [⟨"lib.Do", "lib", none, some ⟨"Job", true⟩, none, false, false⟩,
    ⟨"app.main", "app", none, none, none, false, false⟩,
    ⟨"app.init", "app", none, none, none, true, false⟩,
    ⟨"lib.New", "lib", none, none, none, false, false⟩]
  calls := [⟨"app.main", "lib.Do", false⟩, ⟨"lib.Do", "lib.New", true⟩,
    ⟨"app.init", "lib.New", false⟩, ⟨"app.main", "lib.Do", true⟩]

end Analysis
end CallChart
