import CallChart.Describe
import CallChart.Proofs.Graph.Gathering
import CallChart.Proofs.Graph.Renumbered

namespace CallChart

namespace CallGraph

theorem lt_of_any {g : CallGraph} {p : Function → Bool} {id : Nat}
    (holds : g.functions[id]?.any p = true) :
    id < g.functions.length := by
  by_contra outside
  simp [outside] at holds

theorem nameOf_inj {g : CallGraph} (apart : g.NamesApart) {i j : Nat}
    (first : i < g.functions.length) (second : j < g.functions.length)
    (same : g.nameOf i = g.nameOf j) : i = j := by
  refine apart (List.getElem?_eq_getElem first) (List.getElem?_eq_getElem second) ?_
  simpa [nameOf, first, second] using same

namespace Renumbered

theorem sortedByName {move : Equiv.Perm Nat} {g g' : CallGraph} {ids ids' : List Nat}
    (same : Renumbered move g g') (perm : ids'.Perm (ids.map move))
    (within : ∀ i ∈ ids, i < g.functions.length) :
    g'.sortedByName ids' = (g.sortedByName ids).map move :=
  mergeSort_map perm same.nameOf fun i first j second =>
    nameOf_inj same.apart (within i first) (within j second)

theorem filter_perm {move : Equiv.Perm Nat} {g g' : CallGraph} {ids ids' : List Nat}
    (same : Renumbered move g g') (perm : ids'.Perm (ids.map move)) (p : Function → Bool) :
    (ids'.filter fun id => g'.functions[id]?.any p).Perm
      ((ids.filter fun id => g.functions[id]?.any p).map move) := by
  refine (perm.filter _).trans (List.Perm.of_eq ?_)
  rw [List.filter_map]
  congr 1
  refine List.filter_congr fun i _ => ?_
  simp only [Function.comp, same.function]

theorem keyed {move : Equiv.Perm Nat} {g g' : CallGraph} {ids ids' : List Nat}
    (same : Renumbered move g g') (perm : ids'.Perm (ids.map move)) (key : Function → ClusterKey)
    (k : ClusterKey) :
    (g'.keyed ids' key k).Perm ((g.keyed ids key k).map move) :=
  same.filter_perm perm fun f => key f = k

theorem methods {move : Equiv.Perm Nat} {g g' : CallGraph} {ids ids' : List Nat}
    (same : Renumbered move g g') (perm : ids'.Perm (ids.map move)) :
    (g'.methods ids').Perm ((g.methods ids).map move) :=
  same.filter_perm perm fun f => f.receiver.isSome

theorem membersWhere {move : Equiv.Perm Nat} {g g' : CallGraph} {ids ids' : List Nat}
    (same : Renumbered move g g') (perm : ids'.Perm (ids.map move)) (p : Function → Bool) :
    g'.membersWhere ids' p = (g.membersWhere ids p).map move := by
  exact same.sortedByName (same.filter_perm perm p) fun i within =>
    lt_of_any (List.mem_filter.mp within).2

theorem keysOf {move : Equiv.Perm Nat} {g g' : CallGraph} {ids ids' : List Nat}
    (same : Renumbered move g g') (perm : ids'.Perm (ids.map move)) (key : Function → ClusterKey) :
    g'.keysOf ids' key = g.keysOf ids key := by
  refine ClusterKey.sorted_perm ((perm.filterMap _).trans (List.Perm.of_eq ?_))
  rw [List.filterMap_map]
  refine List.filterMap_congr fun i _ => ?_
  rw [Function.comp, same.function]

theorem clusterLabel {move : Equiv.Perm Nat} {g g' : CallGraph} (same : Renumbered move g g')
    (key : ClusterKey) : g'.clusterLabel key = g.clusterLabel key := by
  cases key <;> simp only [CallGraph.clusterLabel, same.package?]

theorem clusterStd {move : Equiv.Perm Nat} {g g' : CallGraph} (same : Renumbered move g g')
    (key : ClusterKey) : g'.clusterStd key = g.clusterStd key := by
  cases key <;> simp only [CallGraph.clusterStd, same.isStandard]

end Renumbered
end CallGraph

namespace Clustering

theorem innerStatements_map {c c' : Clustering} {keys : List ClusterKey}
    {f f' : ClusterKey → Cluster}
    (equal : ∀ k nested id,
      c'.clusterStatement nested id (f' k) = c.clusterStatement nested id (f k)) (id : String)
    (n : Nat) :
    c'.innerStatements id n (keys.map f') = c.innerStatements id n (keys.map f) := by
  induction keys generalizing n with
  | nil => simp [innerStatements]
  | cons k rest ih => simp only [List.map_cons, innerStatements, equal, ih]

theorem clusterStatements_map {c c' : Clustering} {keys : List ClusterKey}
    {f f' : ClusterKey → Cluster}
    (equal : ∀ k nested id,
      c'.clusterStatement nested id (f' k) = c.clusterStatement nested id (f k)) (n : Nat) :
    c'.clusterStatements n (keys.map f') = c.clusterStatements n (keys.map f) := by
  induction keys generalizing n with
  | nil => rfl
  | cons k rest ih => simp only [List.map_cons, clusterStatements, equal, ih]

theorem nodes_moved {move : Equiv.Perm Nat} {c c' : Clustering}
    (same : c.selection.Renumbered move c'.selection) (ids : List Nat) :
    c'.nodes (ids.map move) = c.nodes ids := by
  unfold nodes
  rw [List.filterMap_map]
  refine List.filterMap_congr fun i _ => ?_
  simp only [Function.comp, same.graph.function, nodeAttributes, nodeFill, same.focus.contains]

theorem flatCluster_moved {move : Equiv.Perm Nat} {c c' : Clustering} {ids ids' : List Nat}
    (same : c.selection.Renumbered move c'.selection) (perm : ids'.Perm (ids.map move))
    (key : Function → ClusterKey) (k : ClusterKey) (nested : Bool) (id : String) :
    let g := c.selection.graph
    let g' := c'.selection.graph
    c'.clusterStatement nested id (.mk k (g'.clusterLabel k) (g'.clusterStd k)
        (g'.membersWhere ids' fun f => key f = k) []) =
      c.clusterStatement nested id (.mk k (g.clusterLabel k) (g.clusterStd k)
        (g.membersWhere ids fun f => key f = k) []) := by
  simp only [clusterStatement, innerStatements, same.graph.clusterLabel, same.graph.clusterStd,
    same.graph.membersWhere perm, nodes_moved same]

theorem innerStatements_flat {move : Equiv.Perm Nat} {c c' : Clustering} {ids ids' : List Nat}
    (same : c.selection.Renumbered move c'.selection) (perm : ids'.Perm (ids.map move))
    (key : Function → ClusterKey) (id : String) (n : Nat) :
    c'.innerStatements id n (c'.selection.graph.flatClusters ids' key) =
      c.innerStatements id n (c.selection.graph.flatClusters ids key) := by
  rw [CallGraph.flatClusters, CallGraph.flatClusters, same.graph.keysOf perm]
  exact innerStatements_map (flatCluster_moved same perm key) id n

theorem clusterStatements_flat {move : Equiv.Perm Nat} {c c' : Clustering} {ids ids' : List Nat}
    (same : c.selection.Renumbered move c'.selection) (perm : ids'.Perm (ids.map move))
    (key : Function → ClusterKey) (n : Nat) :
    c'.clusterStatements n (c'.selection.graph.flatClusters ids' key) =
      c.clusterStatements n (c.selection.graph.flatClusters ids key) := by
  rw [CallGraph.flatClusters, CallGraph.flatClusters, same.graph.keysOf perm]
  exact clusterStatements_map (flatCluster_moved same perm key) n

theorem clusterStatements_nested {move : Equiv.Perm Nat} {c c' : Clustering} {ids ids' : List Nat}
    (same : c.selection.Renumbered move c'.selection) (perm : ids'.Perm (ids.map move)) (n : Nat) :
    c'.clusterStatements n (c'.selection.graph.nestedClusters ids') =
      c.clusterStatements n (c.selection.graph.nestedClusters ids) := by
  rw [CallGraph.nestedClusters, CallGraph.nestedClusters, same.graph.keysOf perm]
  refine clusterStatements_map (fun k nested id => ?_) n
  have own := same.graph.keyed perm CallGraph.packageKey k
  have inner := innerStatements_flat same (same.graph.methods own) CallGraph.typeKey id 0
  have members := same.graph.membersWhere own fun f => f.receiver.isNone
  simp only [clusterStatement, same.graph.clusterLabel, same.graph.clusterStd, members,
    nodes_moved same, inner]

def edgeRank (g : CallGraph) (e : Edge) : String ×ₗ String :=
  toLex (g.nameOf e.caller, g.nameOf e.callee)

theorem edgeRank_inj {g : CallGraph} (apart : g.NamesApart)
    (well : CallGraph.EdgesWell g.functions.length g.edges) {e d : Edge} (first : e ∈ g.edges)
    (second : d ∈ g.edges) (names : edgeRank g e = edgeRank g d) : e = d := by
  obtain ⟨callers, callees⟩ := Prod.mk.inj (toLex.injective names)
  have caller := CallGraph.nameOf_inj apart (well.inside first).1 (well.inside second).1 callers
  have callee := CallGraph.nameOf_inj apart (well.inside first).2 (well.inside second).2 callees
  exact List.inj_on_of_nodup_map well.single first second (Prod.ext caller callee)

theorem sortedEdges_eq (c : Clustering) : c.sortedEdges =
    c.selection.keptEdges.mergeSort fun a b =>
      decide (edgeRank c.selection.graph a ≤ edgeRank c.selection.graph b) := by
  refine congrArg (fun le => c.selection.keptEdges.mergeSort le) ?_
  funext a b
  rw [Bool.eq_iff_iff]
  simp [edgeRank, Prod.Lex.toLex_le_toLex]

theorem sortedEdges_moved {move : Equiv.Perm Nat} {c c' : Clustering}
    (same : c.selection.Renumbered move c'.selection) :
    c'.sortedEdges = c.sortedEdges.map (Edge.moved move) := by
  rw [sortedEdges_eq, sortedEdges_eq]
  refine mergeSort_map same.edges (fun e => ?_) fun e first d second names => ?_
  · simp only [edgeRank, Edge.moved, same.graph.nameOf]
  · exact edgeRank_inj same.graph.apart same.graph.well (same.drawn first) (same.drawn second) names

theorem edgeStatements_moved {move : Equiv.Perm Nat} {c c' : Clustering}
    (same : c.selection.Renumbered move c'.selection) : c'.edgeStatements = c.edgeStatements := by
  simp only [edgeStatements, sortedEdges_moved same, List.filterMap_map]
  refine List.filterMap_congr fun e _ => ?_
  simp only [Function.comp, Edge.moved, same.graph.function]
  rfl

theorem document_moved {move : Equiv.Perm Nat} {c c' : Clustering}
    (same : c.selection.Renumbered move c'.selection)
    (clusters : c'.clusterStatements 0 c'.clusters = c.clusterStatements 0 c.clusters)
    (ungrouped : c'.ungrouped = c.ungrouped.map move) (style : Style) :
    c'.document style = c.document style := by
  simp only [document, clusters, edgeStatements_moved same, ungroupedStatements, ungrouped,
    List.isEmpty_map, nodes_moved same]

end Clustering

theorem Selection.Renumbered.render {move : Equiv.Perm Nat} {s s' : Selection}
    (same : s.Renumbered move s') (mode : GroupMode) (style : Style) :
    (s'.clustered mode).render style = (s.clustered mode).render style := by
  have divided (mode : GroupMode) :
      (s.divided mode).selection.Renumbered move (s'.divided mode).selection := by
    cases mode <;> exact same
  rw [s.clustered_eq, s'.clustered_eq]
  refine congrArg Dot.Document.text ?_
  cases mode with
  | none =>
    exact Clustering.document_moved (divided .none) rfl
      (same.graph.membersWhere same.nodes fun _ => true) style
  | package =>
    exact Clustering.document_moved (divided .package)
      (Clustering.clusterStatements_flat (divided .package) same.nodes _ 0) rfl style
  | type =>
    exact Clustering.document_moved (divided .type)
      (Clustering.clusterStatements_flat (divided .type) same.nodes _ 0) rfl style
  | packageType =>
    exact Clustering.document_moved (divided .packageType)
      (Clustering.clusterStatements_nested (divided .packageType) same.nodes 0) rfl style

namespace CallGraph.Renumbered

theorem drawing {move : Equiv.Perm Nat} {g g' : CallGraph} (same : Renumbered move g g')
    (o : Options) : g'.drawing o = g.drawing o := by
  unfold CallGraph.drawing
  rcases same.select o with ⟨failure, lost, lost'⟩ | ⟨s, s', chosen, chosen', moved⟩
  · rw [lost, lost']
  · rw [chosen, chosen']
    exact congrArg Except.ok (moved.render o.group o.style)

theorem describe {move : Equiv.Perm Nat} {g g' : CallGraph} (same : Renumbered move g g')
    (o : Options) : g'.describe o = g.describe o := by
  simp only [CallGraph.describe, same.drawing]

end CallGraph.Renumbered
end CallChart
