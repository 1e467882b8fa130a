import CallChart.Proofs.Dot.Literal
import CallChart.Proofs.Drawing.Complete

namespace CallChart

open Dot

/-- No two selected functions have names that differ in carriage returns only. -/
def Selection.Distinct (s : Selection) : Prop :=
  ∀ i ∈ s.nodes, ∀ j ∈ s.nodes,
    withoutReturns (s.graph.nameOf i) = withoutReturns (s.graph.nameOf j) → i = j

instance (s : Selection) : Decidable s.Distinct :=
  inferInstanceAs (Decidable (∀ i ∈ s.nodes, _))

def nodesOf (text : String) (ids : List Nat) : List (List Char × Nat) :=
  (nodeLines (textLines text)).zip ids

/-- A literal that is the identifier of a function's node, and of no other node. -/
def Names (text : String) (ids : List Nat) (id : Nat) (literal : List Char) : Prop :=
  id ∈ ids ∧ ∀ node ∈ nodesOf text ids, nodeLiteral? node.1 = some literal ↔ node.2 = id

/-- Node identifiers are all different, and the ends of an edge are the identifiers of its caller's node
and of its callee's node, and of no others. -/
structure Identified (text : String) (ids : List Nat) (pairs : List (Nat × Nat)) : Prop where
  apart : ((nodeLines (textLines text)).map nodeLiteral?).Nodup
  ends : List.Forall₂ (fun line p => ∃ source target, edgeLiterals? line = some (source, target) ∧
      Names text ids p.1 source ∧ Names text ids p.2 target)
    (edgeLines (textLines text)) pairs

namespace Complete

theorem nodeLiterals {x : Export} {s : Selection} {mode : GroupMode} {text : String} {ids : List Nat}
    {pairs : List (Nat × Nat)} (complete : Complete x s mode text ids pairs) :
    List.Forall₂ (fun line id => nodeLiteral? line = some (literal (s.graph.nameOf id)))
      (nodeLines (textLines text)) ids := by
  rw [← placedNodes_lines, List.forall₂_map_left_iff]
  refine complete.nodes.imp fun node id drawn => ?_
  obtain ⟨f, -, there, -, written, -⟩ := drawn
  rw [written, CallGraph.nameOf, there]
  rfl

theorem nodeLiteral?_eq {x : Export} {s : Selection} {mode : GroupMode} {text : String}
    {ids : List Nat} {pairs : List (Nat × Nat)} (complete : Complete x s mode text ids pairs)
    {node : List Char × Nat} (within : node ∈ nodesOf text ids) :
    nodeLiteral? node.1 = some (literal (s.graph.nameOf node.2)) :=
  (List.forall₂_iff_zip.mp complete.nodeLiterals).2 within

theorem exists_node {x : Export} {s : Selection} {mode : GroupMode} {text : String} {ids : List Nat}
    {pairs : List (Nat × Nat)} (complete : Complete x s mode text ids pairs) {i : Nat}
    (selected : i ∈ s.nodes) : ∃ n ∈ nodesOf text ids,
      n.2 = i ∧ nodeLiteral? n.1 = some (literal (s.graph.nameOf i)) := by
  have all : (nodesOf text ids).map (·.2) = ids :=
    List.map_snd_zip complete.nodeLiterals.length_eq.ge
  have drawn : i ∈ (nodesOf text ids).map (·.2) := by
    rw [all]
    exact complete.selected.mem_iff.mpr selected
  obtain ⟨n, within, rfl⟩ := List.mem_map.mp drawn
  exact ⟨n, within, rfl, complete.nodeLiteral?_eq within⟩

theorem apart_iff {x : Export} {s : Selection} {mode : GroupMode} {text : String} {ids : List Nat}
    {pairs : List (Nat × Nat)} (complete : Complete x s mode text ids pairs) :
    ((nodeLines (textLines text)).map nodeLiteral?).Nodup ↔ s.Distinct := by
  have literals : (nodeLines (textLines text)).map nodeLiteral? =
      ids.map fun id => some (literal (s.graph.nameOf id)) := by
    rw [← List.forall₂_eq_eq_eq, List.forall₂_map_left_iff, List.forall₂_map_right_iff]
    exact complete.nodeLiterals
  rw [literals, (complete.selected.map _).nodup_iff, List.nodup_map_iff_inj_on complete.once]
  simp only [Option.some.injEq, literal_eq_iff, Selection.Distinct]

theorem names {x : Export} {s : Selection} {mode : GroupMode} {text : String} {ids : List Nat}
    {pairs : List (Nat × Nat)} (complete : Complete x s mode text ids pairs) (distinct : s.Distinct)
    {id : Nat} (selected : id ∈ s.nodes) : Names text ids id (literal (s.graph.nameOf id)) := by
  refine ⟨complete.selected.mem_iff.mpr selected, fun node within => ?_⟩
  have drawn : node.2 ∈ s.nodes := complete.selected.mem_iff.mp (List.of_mem_zip within).2
  rw [complete.nodeLiteral?_eq within, Option.some.injEq, literal_eq_iff]
  constructor
  · exact distinct _ drawn _ selected
  · intro same
    rw [same]

theorem identified_iff {x : Export} {s : Selection} {mode : GroupMode} {text : String}
    {ids : List Nat} {pairs : List (Nat × Nat)} (complete : Complete x s mode text ids pairs) :
    Identified text ids pairs ↔ s.Distinct := by
  rw [← complete.apart_iff]
  refine ⟨fun identified => identified.apart, fun apart => ⟨apart, ?_⟩⟩
  have distinct := complete.apart_iff.mp apart
  refine List.forall₂_iff_zip.mpr ⟨complete.edges.length_eq, fun {line p} within => ?_⟩
  obtain ⟨first, second, -⟩ := (complete.called p).mp (List.of_mem_zip within).2
  obtain ⟨f, k, -, caller, callee, written, -⟩ := (List.forall₂_iff_zip.mp complete.edges).2 within
  have source := complete.names distinct first
  have target := complete.names distinct second
  rw [CallGraph.nameOf, caller] at source
  rw [CallGraph.nameOf, callee] at target
  exact ⟨_, _, written, source, target⟩

end Complete

namespace Analysis

/-- Two nodes of a description have the same identifier just if their names agree without carriage
returns, and where no two do, identifiers tell all nodes and the ends of all edges. -/
theorem describe_identities {x : Export} {bytes : List UInt8} {entry text : String} {tests : Bool}
    {a : Analysis} {o : Options} (resolved : resolve x bytes entry tests = .ok a)
    (described : a.graph.describe o = .ok text) :
    ∃ s ids pairs, a.graph.select o.normalized = .ok s ∧ Complete x s o.group text ids pairs ∧
      (∀ n ∈ nodesOf text ids, ∀ n' ∈ nodesOf text ids, nodeLiteral? n.1 = nodeLiteral? n'.1 ↔
        withoutReturns (s.graph.nameOf n.2) = withoutReturns (s.graph.nameOf n'.2)) ∧
      (Identified text ids pairs ↔ s.Distinct) := by
  obtain ⟨-, s, selected, rfl⟩ := CallGraph.describe_eq_ok_iff.mp described
  obtain ⟨ids, pairs, complete⟩ := (resolve_builds resolved).complete selected o.group o.style
  refine ⟨s, ids, pairs, selected, complete, fun n within n' within' => ?_, complete.identified_iff⟩
  rw [complete.nodeLiteral?_eq within, complete.nodeLiteral?_eq within', Option.some.injEq,
    literal_eq_iff]

def lookalikes : Export where
  packages := [⟨"app", "main", none⟩]
  functions := [⟨"app.n\"", "app", none, none, none, false, false⟩,
    ⟨"app.n\\\"", "app", none, none, none, false, false⟩,
    ⟨"app.\n", "app", none, none, none, false, false⟩,
    ⟨"app.\\n", "app", none, none, none, false, false⟩]
  calls := [⟨"app.\n", "app.\\n", false⟩, ⟨"app.n\"", "app.n\\\"", true⟩]

theorem lookalikes_identified : ∃ a text s ids pairs,
    resolve lookalikes [] "app" false = .ok a ∧ a.graph.describe everyFunction = .ok text ∧
    a.graph.select everyFunction.normalized = .ok s ∧ s.nodes = [0, 1, 2, 3] ∧
    Complete lookalikes s .packageType text ids pairs ∧
    (∀ n ∈ nodesOf text ids, ∀ n' ∈ nodesOf text ids, nodeLiteral? n.1 = nodeLiteral? n'.1 ↔
      withoutReturns (s.graph.nameOf n.2) = withoutReturns (s.graph.nameOf n'.2)) ∧
    Identified text ids pairs := by
  have chosen : lookalikes.graphFor "app" false = .ok (lookalikes.built "app") := by decide +kernel
  have selected : (lookalikes.built "app").select everyFunction.normalized =
      .ok ⟨lookalikes.built "app", [0, 1, 2, 3], [0, 1], []⟩ := by decide +kernel
  obtain ⟨a, resolved, graph, described⟩ := exists_described chosen check_everyFunction selected []
  obtain ⟨s, ids, pairs, selected', complete, literals, identified⟩ :=
    describe_identities resolved described
  rw [graph, selected] at selected'
  obtain rfl := Except.ok.inj selected'
  have distinct : Selection.Distinct ⟨lookalikes.built "app", [0, 1, 2, 3], [0, 1], []⟩ := by
    decide +kernel
  exact ⟨a, _, _, ids, pairs, resolved, described, graph ▸ selected, rfl, complete, literals,
    identified.mpr distinct⟩

def twins : Export where
  packages := [⟨"app", "main", none⟩]
  functions := [⟨"app.n", "app", none, none, none, false, false⟩,
    ⟨"app.n\r", "app", none, none, none, false, false⟩]
  calls := [⟨"app.n", "app.n\r", false⟩]

/-- Without the carriage return, the nodes of two functions have one identifier. -/
theorem twins_share_node : ∃ a text s ids pairs,
    resolve twins [] "app" false = .ok a ∧ a.graph.describe everyFunction = .ok text ∧
    a.graph.select everyFunction.normalized = .ok s ∧ s.nodes = [0, 1] ∧
    a.graph.functions.map (·.name) = ["app.n", "app.n\r"] ∧
    Complete twins s .packageType text ids pairs ∧
    ∃ n ∈ nodesOf text ids, ∃ n' ∈ nodesOf text ids, n.2 = 0 ∧ n'.2 = 1 ∧
      nodeLiteral? n.1 = some "\"app.n\"".toList ∧ nodeLiteral? n'.1 = some "\"app.n\"".toList := by
  have chosen : twins.graphFor "app" false = .ok (twins.built "app") := by decide +kernel
  have selected : (twins.built "app").select everyFunction.normalized =
      .ok ⟨twins.built "app", [0, 1], [0], []⟩ := by decide +kernel
  obtain ⟨a, resolved, graph, described⟩ := exists_described chosen check_everyFunction selected []
  obtain ⟨ids, pairs, complete⟩ := (graph ▸ resolve_builds resolved).complete selected .packageType
    everyFunction.style
  obtain ⟨n, there, first, written⟩ := complete.exists_node (i := 0) (by decide)
  obtain ⟨n', there', second, written'⟩ := complete.exists_node (i := 1) (by decide)
  refine ⟨a, _, _, ids, pairs, resolved, described, graph ▸ selected, rfl, ?_, complete, n, there,
    n', there', first, second, ?_, ?_⟩
  · rw [graph]
    decide +kernel
  · rw [written]
    decide +kernel
  · rw [written']
    decide +kernel

end Analysis
end CallChart
