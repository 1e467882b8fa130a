import CallChart.Proofs.Graph.Edges
import CallChart.Proofs.Graph.Sorted

namespace CallChart

namespace Cluster

theorem entry_map {content content' : ClusterKey → Cluster} {fresh : Cluster}
    {change : Cluster → Cluster} {keys : List ClusterKey} (keyed : ∀ k, (content k).key = k)
    (sorted : keys.Pairwise fun a b => a.rank < b.rank)
    (absent : fresh.key ∉ keys → content fresh.key = fresh)
    (here : content' fresh.key = change (content fresh.key))
    (elsewhere : ∀ k, k ≠ fresh.key → content' k = content k) :
    entry fresh change (keys.map content) = (ClusterKey.insert fresh.key keys).map content' := by
  have rule := ClusterKey.insert_insertsBy
  induction keys with
  | nil =>
    rw [rule.first, List.map_singleton, here, absent List.not_mem_nil]
    rfl
  | cons k rest ih =>
    obtain ⟨least, others⟩ := List.pairwise_cons.mp sorted
    have kept (apart : ∀ j ∈ rest, j ≠ fresh.key) : rest.map content' = rest.map content :=
      List.map_congr_left fun j within => elsewhere j (apart j within)
    rw [List.map_cons, entry, keyed k]
    rcases lt_trichotomy fresh.key.rank k.rank with less | same | more
    · have above (j : ClusterKey) (within : j ∈ k :: rest) : j ≠ fresh.key := by
        rintro rfl
        rcases List.mem_cons.mp within with same | within
        · exact absurd (congrArg ClusterKey.rank same) less.ne
        · exact absurd (least _ within) less.not_gt
      have missing : fresh.key ∉ k :: rest := fun within => above _ within rfl
      rw [if_pos (ClusterKey.before_iff.mpr less), rule.before _ less, List.map_cons, List.map_cons,
        here, absent missing, elsewhere k (above k List.mem_cons_self),
        kept fun j within => above j (List.mem_cons_of_mem _ within)]
    · obtain rfl := ClusterKey.rank_injective same
      have apart (j : ClusterKey) (within : j ∈ rest) : j ≠ fresh.key := fun equal =>
        absurd (equal ▸ least j within) (lt_irrefl _)
      rw [if_neg fun before => lt_irrefl _ (ClusterKey.before_iff.mp before), if_pos rfl,
        rule.replaces _ rfl, List.map_cons, here, kept apart]
    · have other : fresh.key ≠ k := fun equal => more.ne' (congrArg ClusterKey.rank equal)
      have later : fresh.key ∉ rest → content fresh.key = fresh := fun missing =>
        absent (List.not_mem_cons_of_ne_of_not_mem other missing)
      rw [if_neg fun before => more.asymm (ClusterKey.before_iff.mp before), if_neg other,
        rule.behind _ more, List.map_cons, ih others later, elsewhere k other.symm]

theorem put_map {content content' : ClusterKey → Cluster} {fresh : Cluster} {id : Nat}
    {keys : List ClusterKey} (keyed : ∀ k, (content k).key = k) (once : keys.Nodup)
    (absent : fresh.key ∉ keys → content fresh.key = fresh)
    (here : content' fresh.key = (content fresh.key).withMember id)
    (elsewhere : ∀ k, k ≠ fresh.key → content' k = content k) :
    put fresh id (keys.map content) =
      (if fresh.key ∈ keys then keys else keys ++ [fresh.key]).map content' := by
  induction keys with
  | nil => simp [put, here, absent List.not_mem_nil]
  | cons k rest ih =>
    obtain ⟨first, others⟩ := List.nodup_cons.mp once
    rw [List.map_cons, put, keyed k]
    by_cases same : k = fresh.key
    · have kept : rest.map content' = rest.map content := by
        refine List.map_congr_left fun j within => elsewhere j ?_
        rintro rfl
        exact first (same ▸ within)
      rw [if_pos same, if_pos (by simp [same]), List.map_cons, kept, same, here]
    · have later : fresh.key ∉ rest → content fresh.key = fresh := fun missing =>
        absent (List.not_mem_cons_of_ne_of_not_mem (Ne.symm same) missing)
      have within : fresh.key ∈ k :: rest ↔ fresh.key ∈ rest := by simp [Ne.symm same]
      rw [if_neg same, ih others later]
      by_cases member : fresh.key ∈ rest
      · rw [if_pos member, if_pos (within.mpr member), List.map_cons, elsewhere k same]
      · rw [if_neg member, if_neg (mt within.mp member), List.cons_append, List.map_cons,
          elsewhere k same]

theorem sort_map (content : ClusterKey → Cluster) {keys keys' : List ClusterKey}
    (keyed : ∀ k, (content k).key = k) (perm : keys.Perm keys')
    (sorted : keys'.Pairwise fun a b => a.rank < b.rank) :
    ((keys.map content).mergeSort fun a b => !b.key.before a.key) = keys'.map content := by
  have order : (fun a b : Cluster => !b.key.before a.key) =
      fun a b => decide (a.key.rank ≤ b.key.rank) := by
    funext a b
    rw [Bool.eq_iff_iff, Bool.not_eq_true', decide_eq_true_eq, ← not_lt, ← ClusterKey.before_iff,
      Bool.not_eq_true]
  have sorts := List.mergeSort_perm (keys.map content) fun a b => decide (a.key.rank ≤ b.key.rank)
  rw [order]
  refine List.Perm.eq_of_pairwise ?_ (mergeSort_increasing (fun c : Cluster => c.key.rank) _) ?_
    (sorts.trans (perm.map content))
  · intro a b first second (below : a.key.rank ≤ b.key.rank) (above : b.key.rank ≤ a.key.rank)
    obtain ⟨j, -, rfl⟩ := List.mem_map.mp (sorts.mem_iff.mp first)
    obtain ⟨k, -, rfl⟩ := List.mem_map.mp second
    rw [keyed, keyed] at below above
    rw [ClusterKey.rank_injective (le_antisymm below above)]
  · rw [List.pairwise_map]
    exact sorted.imp fun less => by rw [keyed, keyed]; exact less.le

end Cluster

namespace CallGraph

def packageKey (f : Function) : ClusterKey :=
  .package f.package

def typeKey (f : Function) : ClusterKey :=
  match f.receiver with
  | none => .package f.package
  | some r => .type f.package r.typeName

def clusterLabel (g : CallGraph) : ClusterKey → String
  | .package path => path
  | .type path typeName =>
    ((g.package? path).map (·.name)).getD path ++ "." ++ typeName

def clusterStd (g : CallGraph) : ClusterKey → Bool
  | .package path => g.isStandard path
  | .type path _ => g.isStandard path

def membersWhere (g : CallGraph) (ids : List Nat) (p : Function → Bool) : List Nat :=
  g.sortedByName (ids.filter fun id => g.functions[id]?.any p)

def keysOf (g : CallGraph) (ids : List Nat) (key : Function → ClusterKey) : List ClusterKey :=
  ClusterKey.sorted (ids.filterMap fun id => g.functions[id]?.map key)

def keyed (g : CallGraph) (ids : List Nat) (key : Function → ClusterKey) (k : ClusterKey) :
    List Nat :=
  ids.filter fun id => g.functions[id]?.any fun f => key f = k

def methods (g : CallGraph) (ids : List Nat) : List Nat :=
  ids.filter fun id => g.functions[id]?.any fun f => f.receiver.isSome

def flatClusters (g : CallGraph) (ids : List Nat) (key : Function → ClusterKey) : List Cluster :=
  (g.keysOf ids key).map fun k =>
    .mk k (g.clusterLabel k) (g.clusterStd k) (g.membersWhere ids fun f => key f = k) []

def nestedClusters (g : CallGraph) (ids : List Nat) : List Cluster :=
  (g.keysOf ids packageKey).map fun k =>
    let own := g.keyed ids packageKey k
    .mk k (g.clusterLabel k) (g.clusterStd k)
      (g.membersWhere own fun f => f.receiver.isNone) (g.flatClusters (g.methods own) typeKey)

theorem mem_keysOf {g : CallGraph} {ids : List Nat} {key : Function → ClusterKey} {k : ClusterKey} :
    k ∈ g.keysOf ids key ↔ ∃ id ∈ ids, ∃ f, g.functions[id]? = some f ∧ key f = k := by
  simp [keysOf, ClusterKey.mem_sorted]

theorem keysOf_nodup {g : CallGraph} {ids : List Nat} {key : Function → ClusterKey} :
    (g.keysOf ids key).Nodup :=
  ClusterKey.sorted_nodup _

theorem mem_keyed {g : CallGraph} {ids : List Nat} {key : Function → ClusterKey} {id : Nat}
    {k : ClusterKey} :
    id ∈ g.keyed ids key k ↔ id ∈ ids ∧ ∃ f, g.functions[id]? = some f ∧ key f = k := by
  simp only [keyed, List.mem_filter, Option.any_eq_true, decide_eq_true_eq]

theorem keyed_eq_nil {g : CallGraph} {ids : List Nat} {key : Function → ClusterKey} {k : ClusterKey}
    (missing : k ∉ g.keysOf ids key) : g.keyed ids key k = [] := by
  rw [List.eq_nil_iff_forall_not_mem]
  intro id within
  obtain ⟨member, f, there, same⟩ := mem_keyed.mp within
  exact missing (mem_keysOf.mpr ⟨id, member, f, there, same⟩)

def fresh (g : CallGraph) (k : ClusterKey) : Cluster :=
  .mk k (g.clusterLabel k) (g.clusterStd k) [] []

theorem packageCluster_eq (g : CallGraph) (path : String) :
    g.packageCluster path = g.fresh (.package path) := by
  cases found : g.package? path with
  | none => simp [packageCluster, fresh, clusterLabel, clusterStd, isStandard, found]
  | some p =>
    have named : p.path = path := by simpa using List.find?_some found
    simp [packageCluster, fresh, clusterLabel, clusterStd, isStandard, found, named]

theorem typeCluster_eq (g : CallGraph) (path typeName : String) :
    g.typeCluster path typeName = g.fresh (.type path typeName) := by
  cases found : g.package? path <;>
    simp [typeCluster, fresh, clusterLabel, clusterStd, isStandard, found]

theorem receiverCluster_eq (g : CallGraph) (f : Function) :
    g.receiverCluster f = g.fresh (typeKey f) := by
  cases receiver : f.receiver <;>
    simp [receiverCluster, typeKey, receiver, typeCluster_eq, packageCluster_eq]

theorem keysOf_concat {g : CallGraph} {ids : List Nat} {id : Nat} {f : Function}
    {key : Function → ClusterKey} (there : g.functions[id]? = some f) :
    g.keysOf (ids ++ [id]) key = ClusterKey.insert (key f) (g.keysOf ids key) := by
  rw [keysOf, List.filterMap_append, List.filterMap_cons_some (by rw [there]; rfl), List.filterMap_nil]
  exact ClusterKey.sorted_perm (List.perm_append_singleton _ _)

theorem keyed_concat {g : CallGraph} {ids : List Nat} {id : Nat} {f : Function}
    {key : Function → ClusterKey} (there : g.functions[id]? = some f) (k : ClusterKey) :
    g.keyed (ids ++ [id]) key k = g.keyed ids key k ++ if key f = k then [id] else [] := by
  by_cases same : key f = k <;> simp [keyed, there, same]

def unsorted (g : CallGraph) (ids : List Nat) (key : Function → ClusterKey) (k : ClusterKey) :
    Cluster :=
  .mk k (g.clusterLabel k) (g.clusterStd k) (g.keyed ids key k) []

theorem unsorted_absent {g : CallGraph} {ids : List Nat} {key : Function → ClusterKey}
    {k : ClusterKey} (missing : k ∉ g.keysOf ids key) :
    g.unsorted ids key k = g.fresh k := by
  rw [unsorted, keyed_eq_nil missing, fresh]

theorem unsorted_here {g : CallGraph} {ids : List Nat} {id : Nat} {f : Function}
    {key : Function → ClusterKey} (there : g.functions[id]? = some f) :
    g.unsorted (ids ++ [id]) key (key f) = (g.unsorted ids key (key f)).withMember id := by
  rw [unsorted, keyed_concat there, if_pos rfl]
  rfl

theorem unsorted_elsewhere {g : CallGraph} {ids : List Nat} {id : Nat} {f : Function}
    {key : Function → ClusterKey} (there : g.functions[id]? = some f) {k : ClusterKey}
    (other : k ≠ key f) :
    g.unsorted (ids ++ [id]) key k = g.unsorted ids key k := by
  rw [unsorted, keyed_concat there, if_neg other.symm, List.append_nil, unsorted]

theorem entry_unsorted {g : CallGraph} {ids : List Nat} {id : Nat} {f : Function}
    (key : Function → ClusterKey) (there : g.functions[id]? = some f) :
    Cluster.entry (g.fresh (key f)) (.withMember id)
        ((g.keysOf ids key).map (g.unsorted ids key)) =
      (g.keysOf (ids ++ [id]) key).map (g.unsorted (ids ++ [id]) key) := by
  rw [keysOf_concat there]
  exact Cluster.entry_map (fun _ => rfl) (ClusterKey.sorted_increasing _) unsorted_absent
    (unsorted_here there) fun _ => unsorted_elsewhere there

def typesOf (g : CallGraph) (ids : List Nat) : List ClusterKey :=
  (ids.filterMap fun id => g.functions[id]?.map typeKey).eraseDups

theorem typesOf_perm (g : CallGraph) (ids : List Nat) : (g.typesOf ids).Perm (g.keysOf ids typeKey) := by
  refine (List.perm_ext_iff_of_nodup (eraseDups_nodup _) keysOf_nodup).mpr fun k => ?_
  rw [List.mem_eraseDups, keysOf, ClusterKey.mem_sorted]

theorem put_unsorted {g : CallGraph} {ids : List Nat} {id : Nat} {f : Function}
    (there : g.functions[id]? = some f) :
    Cluster.put (g.fresh (typeKey f)) id ((g.typesOf ids).map (g.unsorted ids typeKey)) =
      (g.typesOf (ids ++ [id])).map (g.unsorted (ids ++ [id]) typeKey) := by
  have types : g.typesOf (ids ++ [id]) =
      if typeKey f ∈ g.typesOf ids then g.typesOf ids else g.typesOf ids ++ [typeKey f] := by
    rw [typesOf, List.filterMap_append, List.filterMap_cons_some (by rw [there]; rfl),
      List.filterMap_nil, eraseDups_concat]
    simp only [typesOf, List.mem_eraseDups, List.contains_iff_mem]
  have absent (missing : typeKey f ∉ g.typesOf ids) :
      g.unsorted ids typeKey (typeKey f) = g.fresh (typeKey f) :=
    unsorted_absent (mt (g.typesOf_perm ids).mem_iff.mpr missing)
  rw [types]
  exact Cluster.put_map (fun _ => rfl) (eraseDups_nodup _) absent (unsorted_here there)
    fun _ (other : _ ≠ typeKey f) => unsorted_elsewhere there other

def unsortedPackage (g : CallGraph) (ids : List Nat) (k : ClusterKey) : Cluster :=
  let own := g.keyed ids packageKey k
  .mk k (g.clusterLabel k) (g.clusterStd k)
    (own.filter fun id => g.functions[id]?.any fun f => f.receiver.isNone)
    ((g.typesOf (g.methods own)).map (g.unsorted (g.methods own) typeKey))

theorem unsortedPackage_congr {g : CallGraph} {ids ids' : List Nat} {k : ClusterKey}
    (same : g.keyed ids packageKey k = g.keyed ids' packageKey k) :
    g.unsortedPackage ids k = g.unsortedPackage ids' k := by
  rw [unsortedPackage, unsortedPackage, same]

theorem unsortedPackage_plain {g : CallGraph} {ids : List Nat} {id : Nat} {f : Function}
    (there : g.functions[id]? = some f) (alone : f.receiver = none) :
    g.unsortedPackage (ids ++ [id]) (packageKey f) =
      (g.unsortedPackage ids (packageKey f)).withMember id := by
  have methods : g.methods (g.keyed ids packageKey (packageKey f) ++ [id]) =
      g.methods (g.keyed ids packageKey (packageKey f)) := by
    simp [CallGraph.methods, there, alone]
  simp only [unsortedPackage, keyed_concat there, if_pos, methods]
  simp [Cluster.withMember, there, alone]

theorem unsortedPackage_method {g : CallGraph} {ids : List Nat} {id : Nat} {f : Function}
    (there : g.functions[id]? = some f) {r : Receiver} (receiver : f.receiver = some r) :
    g.unsortedPackage (ids ++ [id]) (packageKey f) =
      Cluster.withMethod (g.fresh (typeKey f)) id (g.unsortedPackage ids (packageKey f)) := by
  have methods : g.methods (g.keyed ids packageKey (packageKey f) ++ [id]) =
      g.methods (g.keyed ids packageKey (packageKey f)) ++ [id] := by
    simp [CallGraph.methods, there, receiver]
  simp only [unsortedPackage, keyed_concat there, if_pos, methods, Cluster.withMethod,
    put_unsorted there]
  simp [there, receiver]

theorem entry_unsortedPackage {g : CallGraph} {ids : List Nat} {id : Nat} {f : Function}
    (there : g.functions[id]? = some f) {change : Cluster → Cluster}
    (here : g.unsortedPackage (ids ++ [id]) (packageKey f) =
      change (g.unsortedPackage ids (packageKey f))) :
    Cluster.entry (g.fresh (packageKey f)) change
        ((g.keysOf ids packageKey).map (g.unsortedPackage ids)) =
      (g.keysOf (ids ++ [id]) packageKey).map (g.unsortedPackage (ids ++ [id])) := by
  have absent (missing : packageKey f ∉ g.keysOf ids packageKey) :
      g.unsortedPackage ids (packageKey f) = g.fresh (packageKey f) := by
    rw [unsortedPackage, keyed_eq_nil missing]
    rfl
  rw [keysOf_concat there]
  refine Cluster.entry_map (fun _ => rfl) (ClusterKey.sorted_increasing _) absent here ?_
  intro k (other : k ≠ packageKey f)
  refine unsortedPackage_congr ?_
  rw [keyed_concat there, if_neg other.symm, List.append_nil]

def gathered (g : CallGraph) (mode : GroupMode) (ids : List Nat) : Gathered :=
  match mode with
  | .none => ⟨[], ids.filter fun id => g.functions[id]?.isSome⟩
  | .package => ⟨(g.keysOf ids packageKey).map (g.unsorted ids packageKey), []⟩
  | .type => ⟨(g.keysOf ids typeKey).map (g.unsorted ids typeKey), []⟩
  | .packageType => ⟨(g.keysOf ids packageKey).map (g.unsortedPackage ids), []⟩

theorem place_gathered {g : CallGraph} (ids : List Nat) {id : Nat} {f : Function}
    (there : g.functions[id]? = some f) (mode : GroupMode) :
    g.place mode (g.gathered mode ids) id f = g.gathered mode (ids ++ [id]) := by
  cases mode with
  | none => simp [place, gathered, there]
  | package =>
    simp only [place, gathered, packageCluster_eq]
    exact congrArg (Gathered.mk · []) (entry_unsorted packageKey there)
  | type =>
    simp only [place, gathered, receiverCluster_eq]
    exact congrArg (Gathered.mk · []) (entry_unsorted typeKey there)
  | packageType =>
    simp only [place, gathered, packageCluster_eq]
    refine congrArg (Gathered.mk · []) (entry_unsortedPackage there ?_)
    cases receiver : f.receiver with
    | none => exact unsortedPackage_plain there receiver
    | some r =>
      have type : typeKey f = .type f.package r.typeName := by rw [typeKey, receiver]
      show _ = Cluster.withMethod (g.typeCluster f.package r.typeName) id _
      rw [typeCluster_eq, ← type]
      exact unsortedPackage_method there receiver

theorem gathered_outside {g : CallGraph} {id : Nat} (outside : g.functions[id]? = none)
    (mode : GroupMode) (ids : List Nat) : g.gathered mode (ids ++ [id]) = g.gathered mode ids := by
  have keys (key : Function → ClusterKey) : g.keysOf (ids ++ [id]) key = g.keysOf ids key := by
    simp [keysOf, outside]
  have keyed (key : Function → ClusterKey) (k : ClusterKey) :
      g.keyed (ids ++ [id]) key k = g.keyed ids key k := by
    simp [CallGraph.keyed, outside]
  cases mode with
  | none => simp [gathered, outside]
  | packageType =>
    rw [gathered, gathered, keys]
    exact congrArg (Gathered.mk · []) (List.map_congr_left fun k _ => unsortedPackage_congr (keyed _ k))
  | _ =>
    rw [gathered, gathered, keys]
    refine congrArg (Gathered.mk · []) (List.map_congr_left fun k _ => ?_)
    rw [unsorted, unsorted, keyed]

theorem gatherFrom_gathered (g : CallGraph) (mode : GroupMode) (ids rest : List Nat) :
    g.gatherFrom mode (g.gathered mode ids) rest = g.gathered mode (ids ++ rest) := by
  induction rest generalizing ids with
  | nil => rw [gatherFrom, List.append_nil]
  | cons id rest ih =>
    rw [gatherFrom, List.append_cons]
    cases there : g.functions[id]? with
    | none =>
      have next := ih (ids ++ [id])
      rwa [gathered_outside there] at next
    | some f =>
      have step := place_gathered ids there mode
      simp only [step, ih]

theorem finished_unsorted (g : CallGraph) (ids : List Nat) (key : Function → ClusterKey)
    (k : ClusterKey) : (g.finished (g.unsorted ids key k)).ordered =
      .mk k (g.clusterLabel k) (g.clusterStd k) (g.membersWhere ids fun f => key f = k) [] := by
  simp [finished, named, unsorted, Cluster.ordered, membersWhere, keyed]

theorem finished_unsortedPackage (g : CallGraph) (ids : List Nat) (k : ClusterKey) :
    let own := g.keyed ids packageKey k
    (g.finished (g.unsortedPackage ids k)).ordered =
      .mk k (g.clusterLabel k) (g.clusterStd k)
        (g.membersWhere own fun f => f.receiver.isNone) (g.flatClusters (g.methods own) typeKey) := by
  intro own
  have types := Cluster.sort_map (fun k => g.named (g.unsorted (g.methods own) typeKey k))
    (fun _ => rfl) (g.typesOf_perm (g.methods own)) (ClusterKey.sorted_increasing _)
  simp only [unsortedPackage, finished, named, Cluster.ordered, List.map_map]
  exact congrArg (Cluster.mk _ _ _ _) types

end CallGraph

namespace Selection

def divided (s : Selection) (mode : GroupMode) : Clustering :=
  match mode with
  | .none => ⟨s, [], s.graph.membersWhere s.nodes fun _ => true⟩
  | .package => ⟨s, s.graph.flatClusters s.nodes CallGraph.packageKey, []⟩
  | .type => ⟨s, s.graph.flatClusters s.nodes CallGraph.typeKey, []⟩
  | .packageType => ⟨s, s.graph.nestedClusters s.nodes, []⟩

theorem clustered_selection (s : Selection) (mode : GroupMode) : (s.clustered mode).selection = s :=
  rfl

theorem clustered_eq (s : Selection) (mode : GroupMode) : s.clustered mode = s.divided mode := by
  have start : (⟨[], []⟩ : CallGraph.Gathered) = s.graph.gathered mode [] := by
    cases mode <;> rfl
  rw [clustered, start, s.graph.gatherFrom_gathered, List.nil_append]
  cases mode with
  | none =>
    simp only [CallGraph.gathered, divided, CallGraph.membersWhere, Option.any_true]
    rfl
  | packageType =>
    simp only [CallGraph.gathered, divided, CallGraph.nestedClusters, List.map_map]
    congr 1
    · exact List.map_congr_left fun k _ => s.graph.finished_unsortedPackage s.nodes k
    · exact List.mergeSort_nil
  | _ =>
    simp only [CallGraph.gathered, divided, CallGraph.flatClusters, List.map_map]
    congr 1
    · exact List.map_congr_left fun k _ => s.graph.finished_unsorted s.nodes _ k
    · exact List.mergeSort_nil

end Selection
end CallChart
