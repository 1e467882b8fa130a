import CallChart.Proofs.Drawing.Clusters
import CallChart.Proofs.Graph.Gathering
import CallChart.Proofs.Graph.Renumbered

namespace CallChart

open Dot Clustering

theorem flatMap_numbered {α β γ : Type} [DecidableEq α] {l : List α} (once : l.Nodup) (make : α → β)
    (h : β → Nat → List γ) :
    ((l.map make).zipIdx.flatMap fun p => h p.1 p.2) =
      l.flatMap fun a => h (make a) (l.idxOf a) := by
  have numbered : l.zipIdx = l.map fun a => (a, l.idxOf a) := by
    refine List.ext_getElem (by simp) fun n small _ => ?_
    have place := once.idxOf_getElem n (by simpa using small)
    simp [place]
  rw [List.zipIdx_map, numbered, List.map_map, List.flatMap_map]
  rfl

namespace CallGraph

theorem keyed_perm {g : CallGraph} {ids : List Nat} (once : ids.Nodup)
    (inside : ∀ id ∈ ids, id < g.functions.length) (key : Function → ClusterKey) :
    ((g.keysOf ids key).flatMap (g.keyed ids key)).Perm ids := by
  have apart : ((g.keysOf ids key).flatMap (g.keyed ids key)).Nodup := by
    rw [List.nodup_flatMap]
    refine ⟨fun k _ => once.filter _, keysOf_nodup.imp fun other => ?_⟩
    intro id first second
    obtain ⟨-, f, there, rfl⟩ := mem_keyed.mp first
    obtain ⟨-, d, there', rfl⟩ := mem_keyed.mp second
    exact other (congrArg key (Option.some.inj (there.symm.trans there')))
  rw [List.perm_ext_iff_of_nodup apart once]
  intro id
  simp only [List.mem_flatMap, mem_keyed]
  constructor
  · rintro ⟨k, -, within, -⟩
    exact within
  · intro within
    have there := List.getElem?_eq_getElem (inside id within)
    exact ⟨_, mem_keysOf.mpr ⟨id, within, _, there, rfl⟩, within, _, there, rfl⟩

theorem receivers_perm {g : CallGraph} {ids : List Nat}
    (inside : ∀ id ∈ ids, id < g.functions.length) :
    ((ids.filter fun id => g.functions[id]?.any fun f => f.receiver.isNone) ++
      ids.filter fun id => g.functions[id]?.any fun f => f.receiver.isSome).Perm ids := by
  have others : (ids.filter fun id => g.functions[id]?.any fun f => f.receiver.isSome) =
      ids.filter fun id => !g.functions[id]?.any fun f => f.receiver.isNone := by
    refine List.filter_congr fun id within => ?_
    simp [List.getElem?_eq_getElem (inside id within)]
  rw [others]
  exact List.filter_append_perm _ ids

theorem membersWhere_perm {g : CallGraph} (ids : List Nat) (p : Function → Bool) :
    (g.membersWhere ids p).Perm (ids.filter fun id => g.functions[id]?.any p) :=
  List.mergeSort_perm _ _

theorem membersWhere_all {g : CallGraph} {ids : List Nat}
    (inside : ∀ id ∈ ids, id < g.functions.length) :
    (g.membersWhere ids fun _ => true).Perm ids := by
  have all : (ids.filter fun id => g.functions[id]?.any fun _ => true) = ids := by
    refine List.filter_eq_self.mpr fun id within => ?_
    rw [List.getElem?_eq_getElem (inside id within), Option.any_some]
  exact (membersWhere_perm ids _).trans (List.Perm.of_eq all)

def seat (g : CallGraph) (keys : List ClusterKey) (parent : String) (nested : Bool)
    (k : ClusterKey) : Frame :=
  ⟨innerId parent (keys.idxOf k), clusterAttributes k (g.clusterLabel k) (g.clusterStd k) nested⟩

def nestedSeats (g : CallGraph) (ids : List Nat) (f : Function) : List Frame :=
  let package := g.seat (g.keysOf ids packageKey) "cluster" false (packageKey f)
  let types := g.keysOf (g.methods (g.keyed ids packageKey (packageKey f))) typeKey
  package :: if f.receiver.isNone then [] else [g.seat types package.id true (typeKey f)]

end CallGraph

def Selection.seats (s : Selection) (mode : GroupMode) (f : Function) : List Frame :=
  let single (key : Function → ClusterKey) : List Frame :=
    [s.graph.seat (s.graph.keysOf s.nodes key) "cluster" false (key f)]
  match mode with
  | .none => []
  | .package => single CallGraph.packageKey
  | .type => single CallGraph.typeKey
  | .packageType => s.graph.nestedSeats s.nodes f

namespace Clustering

def drawn (c : Clustering) (seats : Function → List Frame) (id : Nat) : Option NodePart :=
  c.selection.graph.functions[id]?.map fun f => ⟨seats f, f.name, c.nodeAttributes id f⟩

theorem keys_nodeAttributes (c : Clustering) (id : Nat) (f : Function) :
    ∀ a ∈ c.nodeAttributes id f, '=' ∉ a.1.toList := by
  simp only [nodeAttributes, nodeFill]
  split
  · simp
  · split <;> simp

theorem nodes_nodes (c : Clustering) {around : List Frame} (ids : List Nat) :
    gather Part.node? around (c.nodes ids) = ids.filterMap (c.drawn fun _ => around) := by
  rw [gather_nodes]
  refine List.filterMap_congr fun id _ => ?_
  cases h : c.selection.graph.functions[id]? <;> simp [drawn, h, Part.node?]

theorem drawn_congr {c : Clustering} {seats seats' : Function → List Frame} {id : Nat}
    (same : ∀ f, c.selection.graph.functions[id]? = some f → seats f = seats' f) :
    c.drawn seats id = c.drawn seats' id := by
  unfold drawn
  cases there : c.selection.graph.functions[id]? with
  | none => rfl
  | some f => rw [Option.map_some, Option.map_some, same f there]

theorem nodes_cluster (c : Clustering) {around : List Frame} (nested : Bool) (id : String)
    (key : ClusterKey) (label : String) (std : Bool) (members : List Nat) (inner : List Cluster) :
    let frame : Frame := ⟨id, clusterAttributes key label std nested⟩
    gather Part.node? around [c.clusterStatement nested id (.mk key label std members inner)] =
      members.filterMap (c.drawn fun _ => around ++ [frame]) ++
        gather Part.node? (around ++ [frame]) (c.innerStatements id 0 inner) := by
  have none : Part.node? ⟨around, c.clusterStatement nested id (.mk key label std members inner)⟩ =
      none := by
    rw [clusterStatement]
    rfl
  rw [gather_cluster c ignores_node, none, nodes_nodes, Option.toList_none, List.nil_append]

theorem nodes_flat (c : Clustering) {ids : List Nat} (once : ids.Nodup)
    (inside : ∀ id ∈ ids, id < c.selection.graph.functions.length) (around : List Frame)
    (nested : Bool) (parent : String) (key : Function → ClusterKey) :
    let g := c.selection.graph
    ((g.flatClusters ids key).zipIdx.flatMap fun p =>
      gather Part.node? around [c.clusterStatement nested (innerId parent p.2) p.1]).Perm
      (ids.filterMap (c.drawn fun f =>
        around ++ [g.seat (g.keysOf ids key) parent nested (key f)])) := by
  intro g
  let seats (f : Function) : List Frame :=
    around ++ [g.seat (g.keysOf ids key) parent nested (key f)]
  have cluster (k : ClusterKey) : (gather Part.node? around [c.clusterStatement nested
      (innerId parent ((g.keysOf ids key).idxOf k)) (.mk k (g.clusterLabel k) (g.clusterStd k)
        (g.membersWhere ids fun f => key f = k) [])]).Perm
      ((g.keyed ids key k).filterMap (c.drawn seats)) := by
    rw [nodes_cluster, innerStatements]
    simp only [gather, bodyParts, List.filterMap_nil, List.append_nil]
    -- Members are in the order of their names, so their nodes are only a permutation.
    refine ((CallGraph.membersWhere_perm ids _).filterMap _).trans (List.Perm.of_eq ?_)
    refine List.filterMap_congr fun id within => drawn_congr fun f there => ?_
    obtain ⟨-, _, there', rfl⟩ := CallGraph.mem_keyed.mp within
    rw [Option.some.inj (there'.symm.trans there)]
    rfl
  rw [CallGraph.flatClusters, flatMap_numbered CallGraph.keysOf_nodup _ fun cluster n =>
    gather Part.node? around [c.clusterStatement nested (innerId parent n) cluster]]
  refine (List.Perm.flatMap_left _ fun k _ => cluster k).trans ?_
  rw [← List.filterMap_flatMap]
  exact (CallGraph.keyed_perm once inside key).filterMap _

theorem nodes_package (c : Clustering) {ids : List Nat} (once : ids.Nodup)
    (inside : ∀ id ∈ ids, id < c.selection.graph.functions.length) (k : ClusterKey) :
    let g := c.selection.graph
    let own := g.keyed ids CallGraph.packageKey k
    (gather Part.node? [] [c.clusterStatement false
      (innerId "cluster" ((g.keysOf ids CallGraph.packageKey).idxOf k))
      (.mk k (g.clusterLabel k) (g.clusterStd k) (g.membersWhere own fun f => f.receiver.isNone)
        (g.flatClusters (g.methods own) CallGraph.typeKey))]).Perm
      (own.filterMap (c.drawn (g.nestedSeats ids))) := by
  intro g own
  have ownInside : ∀ id ∈ own, id < g.functions.length := fun id within =>
    inside id (List.mem_of_mem_filter within)
  have ofPackage {id : Nat} {f : Function} (within : id ∈ own)
      (there : g.functions[id]? = some f) : CallGraph.packageKey f = k := by
    obtain ⟨-, d, there', mine⟩ := CallGraph.mem_keyed.mp within
    rwa [Option.some.inj (there'.symm.trans there)] at mine
  have plain := CallGraph.membersWhere_perm (g := g) own fun f => f.receiver.isNone
  have methodsOnce : (g.methods own).Nodup := (once.filter _).filter _
  have methods := c.nodes_flat methodsOnce
    (fun id within => ownInside id (List.mem_of_mem_filter within))
    [g.seat (g.keysOf ids CallGraph.packageKey) "cluster" false k] true
    (innerId "cluster" ((g.keysOf ids CallGraph.packageKey).idxOf k)) CallGraph.typeKey
  rw [nodes_cluster, gather_innerStatements c ignores_node]
  refine ((plain.filterMap _).append methods).trans ?_
  -- Both halves of the package have the subgraphs that `nestedSeats` says.
  have split := (CallGraph.receivers_perm ownInside).filterMap (c.drawn (g.nestedSeats ids))
  rw [List.filterMap_append] at split
  refine (List.Perm.of_eq ?_).trans split
  refine congr (congrArg _ ?_) ?_
  · refine List.filterMap_congr fun id within => drawn_congr
      fun f (there : g.functions[id]? = some f) => ?_
    obtain ⟨member, without⟩ := List.mem_filter.mp within
    have alone : f.receiver.isNone = true := by simpa [there] using without
    rw [CallGraph.nestedSeats, ofPackage member there, alone]
    rfl
  · refine List.filterMap_congr fun id within => drawn_congr
      fun f (there : g.functions[id]? = some f) => ?_
    obtain ⟨member, without⟩ := List.mem_filter.mp within
    have method : f.receiver.isNone = false := by simpa [there] using without
    rw [CallGraph.nestedSeats, ofPackage member there, method]
    rfl

theorem nodes_nested (c : Clustering) {ids : List Nat} (once : ids.Nodup)
    (inside : ∀ id ∈ ids, id < c.selection.graph.functions.length) :
    let g := c.selection.graph
    ((g.nestedClusters ids).zipIdx.flatMap fun p =>
      gather Part.node? [] [c.clusterStatement false (innerId "cluster" p.2) p.1]).Perm
      (ids.filterMap (c.drawn (g.nestedSeats ids))) := by
  intro g
  rw [CallGraph.nestedClusters, flatMap_numbered CallGraph.keysOf_nodup _ fun cluster n =>
    gather Part.node? [] [c.clusterStatement false (innerId "cluster" n) cluster]]
  refine (List.Perm.flatMap_left _ fun k _ => c.nodes_package once inside k).trans ?_
  rw [← List.filterMap_flatMap]
  exact (CallGraph.keyed_perm once inside CallGraph.packageKey).filterMap _

theorem nodes_document {s : Selection} (once : s.nodes.Nodup)
    (inside : ∀ id ∈ s.nodes, id < s.graph.functions.length) (mode : GroupMode) (style : Style) :
    let c := s.clustered mode
    (c.document style).nodes.Perm (s.nodes.filterMap (c.drawn (s.seats mode))) := by
  rw [s.clustered_eq]
  intro c
  have whole : (c.document style).nodes = gather Part.node? [] (c.clusterStatements 0 c.clusters) ++
      c.ungrouped.filterMap (c.drawn fun _ => []) := by
    have edges : gather Part.node? [] c.edgeStatements = [] := by
      rw [gather_edgeStatements]
      simp [Part.node?, edgeStatement]
    rw [Document.nodes, gather_document c ignores_node, edges, nodes_nodes, List.append_nil]
  rw [whole, gather_clusterStatements c ignores_node]
  cases mode with
  | none => exact (CallGraph.membersWhere_all inside).filterMap (c.drawn fun _ => [])
  | package =>
    refine (List.Perm.of_eq (List.append_nil _)).trans ?_
    exact c.nodes_flat once inside [] false "cluster" CallGraph.packageKey
  | type =>
    refine (List.Perm.of_eq (List.append_nil _)).trans ?_
    exact c.nodes_flat once inside [] false "cluster" CallGraph.typeKey
  | packageType =>
    refine (List.Perm.of_eq (List.append_nil _)).trans ?_
    exact c.nodes_nested once inside

theorem forall₂_filterMap {α β : Type} {f : α → Option β} {l : List α}
    (some : ∀ a ∈ l, (f a).isSome) : List.Forall₂ (fun b a => f a = .some b) (l.filterMap f) l := by
  induction l with
  | nil => exact .nil
  | cons a rest ih =>
    obtain ⟨first, others⟩ := List.forall_mem_cons.mp some
    obtain ⟨b, made⟩ := Option.isSome_iff_exists.mp first
    rw [List.filterMap_cons_some made]
    exact .cons made (ih others)

theorem nodes_selected {s : Selection} (once : s.nodes.Nodup)
    (inside : ∀ id ∈ s.nodes, id < s.graph.functions.length) (mode : GroupMode) (style : Style) :
    ∃ ids, ids.Perm s.nodes ∧ List.Forall₂ (fun n id => ∃ f, s.graph.functions[id]? = some f ∧
        n = ⟨s.seats mode f, f.name, (s.clustered mode).nodeAttributes id f⟩)
      ((s.clustered mode).document style).nodes ids := by
  have drawn : List.Forall₂ (fun n id => (s.clustered mode).drawn (s.seats mode) id = some n)
      (s.nodes.filterMap ((s.clustered mode).drawn (s.seats mode))) s.nodes := by
    refine forall₂_filterMap fun id member => ?_
    rw [drawn, s.clustered_selection, Option.isSome_map]
    simpa using inside id member
  obtain ⟨ids, each, perm⟩ := List.perm_comp_forall₂ (nodes_document once inside mode style) drawn
  refine ⟨ids, perm, each.imp fun n id drawn => ?_⟩
  obtain ⟨f, there, rfl⟩ := Option.map_eq_some_iff.mp drawn
  exact ⟨f, there, rfl⟩

end Clustering
end CallChart
