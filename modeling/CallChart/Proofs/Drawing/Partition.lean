import CallChart.Proofs.Drawing.Complete

namespace CallChart

namespace ClusterKey

def path : ClusterKey → String
  | .package path => path
  | .type path _ => path

/-- Whether a function is of the package or of the type that a key names. -/
def Fits : ClusterKey → Function → Prop
  | .package path, f => f.package = path
  | .type path typeName, f => f.package = path ∧ ∃ r, f.receiver = some r ∧ r.typeName = typeName

structure Ordered (keys : List ClusterKey) : Prop where
  increasing : keys.Pairwise fun a b => a.before b = true
  apart : keys.Nodup

theorem Fits.package {k : ClusterKey} {f : Function} (fits : k.Fits f) : f.package = k.path := by
  cases k with
  | package path => exact fits
  | type path typeName => exact fits.1

theorem fits_packageKey (f : Function) : (CallGraph.packageKey f).Fits f := rfl

theorem fits_typeKey (f : Function) : (CallGraph.typeKey f).Fits f := by
  cases receiver : f.receiver <;> simp [CallGraph.typeKey, Fits, receiver]

theorem ordered_sorted (keys : List ClusterKey) : Ordered (sorted keys) where
  increasing := (sorted_increasing keys).imp before_iff.mpr
  apart := sorted_nodup keys

end ClusterKey

namespace Cluster

/-- There are members, in the order of their names, and the key fits all of them. The cluster counts as
standard just if all of them are in packages of the standard library. -/
structure Sound (g : CallGraph) (k : Cluster) : Prop where
  inhabited : k.allMembers ≠ []
  ordered : k.members.Pairwise fun i j => g.nameOf i < g.nameOf j
  fits : ∀ id ∈ k.allMembers, ∃ f, g.functions[id]? = some f ∧ k.key.Fits f
  std_iff : k.std = true ↔ ∀ id ∈ k.allMembers,
    ∃ f p, g.functions[id]? = some f ∧ g.package? f.package = some p ∧ p.std = true

/-- Inside are clusters of types of the package, and nothing inside these. -/
structure Nests (k : Cluster) : Prop where
  types : ∀ t ∈ k.inner, ∃ path typeName,
    k.key = .package path ∧ t.key = .type path typeName ∧ t.inner = []
  keys : ClusterKey.Ordered (k.inner.map key)

def Plain (g : CallGraph) (k : Cluster) : Prop :=
  ∀ id ∈ k.members, ∃ f, g.functions[id]? = some f ∧ f.receiver = none

theorem allMembersOf_eq (clusters : List Cluster) :
    allMembersOf clusters = clusters.flatMap allMembers := by
  induction clusters with
  | nil => rfl
  | cons cluster rest ih => rw [allMembersOf, ih, List.flatMap_cons]

theorem allOf_flat {clusters : List Cluster} (flat : ∀ k ∈ clusters, k.inner = []) :
    allOf clusters = clusters := by
  induction clusters with
  | nil => rfl
  | cons cluster rest ih =>
    obtain ⟨first, others⟩ := List.forall_mem_cons.mp flat
    cases cluster with
    | mk key label std members inner =>
      obtain rfl : inner = [] := first
      rw [allOf, ih others, all, allOf]
      rfl

theorem nests_flat {k : Cluster} (flat : k.inner = []) : k.Nests where
  types := by simp [flat]
  keys := by
    rw [flat]
    exact ⟨.nil, .nil⟩

theorem sound_mk {g : CallGraph} {key : ClusterKey} {label : String} {members : List Nat}
    {inner : List Cluster} (inhabited : members ++ allMembersOf inner ≠ [])
    (ordered : members.Pairwise fun i j => g.nameOf i < g.nameOf j)
    (fits : ∀ id ∈ members ++ allMembersOf inner, ∃ f, g.functions[id]? = some f ∧ key.Fits f) :
    (mk key label (g.clusterStd key) members inner).Sound g where
  inhabited := inhabited
  ordered := ordered
  fits := fits
  std_iff := by
    have standard : g.clusterStd key = true ↔ ∃ p, g.package? key.path = some p ∧ p.std = true := by
      cases key <;>
        simp [CallGraph.clusterStd, CallGraph.isStandard, ClusterKey.path, Option.any_eq_true]
    rw [std, standard]
    constructor
    · rintro ⟨p, known, std⟩ id within
      obtain ⟨f, there, fits⟩ := fits id within
      exact ⟨f, p, there, fits.package ▸ known, std⟩
    · intro all
      obtain ⟨id, within⟩ := List.exists_mem_of_ne_nil _ inhabited
      obtain ⟨f, p, there, known, std⟩ := all id within
      obtain ⟨f', there', fits⟩ := fits id within
      obtain rfl := Option.some.inj (there.symm.trans there')
      exact ⟨p, fits.package ▸ known, std⟩

end Cluster

namespace CallGraph

theorem mem_membersWhere {g : CallGraph} {ids : List Nat} {p : Function → Bool} {id : Nat} :
    id ∈ g.membersWhere ids p ↔
    id ∈ ids ∧ ∃ f, g.functions[id]? = some f ∧ p f = true := by
  rw [(membersWhere_perm ids p).mem_iff, List.mem_filter, Option.any_eq_true]

theorem sortedByName_increasing {g : CallGraph} {ids : List Nat} (apart : g.NamesApart)
    (once : ids.Nodup) (inside : ∀ id ∈ ids, id < g.functions.length) :
    (g.sortedByName ids).Pairwise fun i j => g.nameOf i < g.nameOf j := by
  have perm := List.mergeSort_perm ids fun a b => decide (g.nameOf a ≤ g.nameOf b)
  have ordered := mergeSort_increasing g.nameOf ids
  refine (ordered.and (perm.nodup_iff.mpr once)).imp_of_mem fun first second ⟨below, other⟩ => ?_
  refine lt_of_le_of_ne below fun same => other ?_
  exact nameOf_inj apart (inside _ (perm.mem_iff.mp first)) (inside _ (perm.mem_iff.mp second)) same

theorem membersWhere_increasing {g : CallGraph} {ids : List Nat} (apart : g.NamesApart)
    (once : ids.Nodup) (inside : ∀ id ∈ ids, id < g.functions.length) (p : Function → Bool) :
    (g.membersWhere ids p).Pairwise fun i j => g.nameOf i < g.nameOf j :=
  sortedByName_increasing apart (once.filter _) fun id within =>
    inside id (List.mem_of_mem_filter within)

theorem keys_flatClusters {g : CallGraph} {ids : List Nat} {key : Function → ClusterKey} :
    (g.flatClusters ids key).map Cluster.key = g.keysOf ids key := by
  rw [flatClusters, List.map_map]
  exact List.map_id _

theorem inner_flatClusters {g : CallGraph} {ids : List Nat} {key : Function → ClusterKey}
    {k : Cluster} (within : k ∈ g.flatClusters ids key) : k.inner = [] := by
  obtain ⟨_, -, rfl⟩ := List.mem_map.mp within
  rfl

theorem members_flatClusters {g : CallGraph} {ids : List Nat} {key : Function → ClusterKey}
    (once : ids.Nodup) (inside : ∀ id ∈ ids, id < g.functions.length) :
    (Cluster.allMembersOf (g.flatClusters ids key)).Perm ids := by
  rw [Cluster.allMembersOf_eq, flatClusters, List.flatMap_map]
  refine (List.Perm.flatMap_left _ fun k _ => ?_).trans (keyed_perm once inside key)
  simp only [Cluster.allMembers, Cluster.allMembersOf, List.append_nil]
  exact membersWhere_perm ids _

theorem sound_flatClusters {g : CallGraph} {ids : List Nat} {key : Function → ClusterKey}
    {k : Cluster} (apart : g.NamesApart) (once : ids.Nodup)
    (inside : ∀ id ∈ ids, id < g.functions.length) (fits : ∀ f, (key f).Fits f)
    (within : k ∈ g.flatClusters ids key) : k.Sound g := by
  obtain ⟨k', there, rfl⟩ := List.mem_map.mp within
  refine Cluster.sound_mk ?_ (membersWhere_increasing apart once inside _) ?_
  · obtain ⟨id, member, f, named, same⟩ := mem_keysOf.mp there
    refine List.ne_nil_of_mem (List.mem_append_left _ (mem_membersWhere.mpr ⟨member, f, named, ?_⟩))
    exact decide_eq_true same
  · simp only [Cluster.allMembersOf, List.append_nil]
    intro id member
    obtain ⟨-, f, named, same⟩ := mem_membersWhere.mp member
    exact ⟨f, named, of_decide_eq_true same ▸ fits f⟩

theorem package_of_mem_keysOf {g : CallGraph} {ids : List Nat} {k : ClusterKey}
    (within : k ∈ g.keysOf ids packageKey) :
    ∃ path, k = .package path := by
  obtain ⟨_, -, f, -, rfl⟩ := mem_keysOf.mp within
  exact ⟨f.package, rfl⟩

theorem package_of_mem_flatClusters {g : CallGraph} {ids : List Nat} {k : Cluster}
    (within : k ∈ g.flatClusters ids packageKey) :
    ∃ path, k.key = .package path := by
  obtain ⟨_, there, rfl⟩ := List.mem_map.mp within
  exact package_of_mem_keysOf there

theorem plain_flatClusters {g : CallGraph} {ids : List Nat} {k : Cluster}
    (within : k ∈ g.flatClusters ids typeKey) {path : String} (package : k.key = .package path) :
    k.Plain g := by
  obtain ⟨k', -, rfl⟩ := List.mem_map.mp within
  obtain rfl : k' = .package path := package
  intro id member
  obtain ⟨-, f, there, same⟩ := mem_membersWhere.mp member
  refine ⟨f, there, ?_⟩
  have same := of_decide_eq_true same
  cases receiver : f.receiver with
  | none => rfl
  | some r => simp [typeKey, receiver] at same

theorem keys_nestedClusters {g : CallGraph} {ids : List Nat} :
    (g.nestedClusters ids).map Cluster.key = g.keysOf ids packageKey := by
  rw [nestedClusters, List.map_map]
  exact List.map_id _

theorem members_package {g : CallGraph} {ids : List Nat} (once : ids.Nodup)
    (inside : ∀ id ∈ ids, id < g.functions.length) (k : ClusterKey) :
    let own := g.keyed ids packageKey k
    ((g.membersWhere own fun f => f.receiver.isNone) ++
      Cluster.allMembersOf (g.flatClusters (g.methods own) typeKey)).Perm own := by
  intro own
  have ownInside : ∀ id ∈ own, id < g.functions.length := fun id within =>
    inside id (List.mem_of_mem_filter within)
  have methods :
      (Cluster.allMembersOf (g.flatClusters (g.methods own) typeKey)).Perm (g.methods own) :=
    members_flatClusters ((once.filter _).filter _) fun id within =>
      ownInside id (List.mem_of_mem_filter within)
  exact ((membersWhere_perm own _).append methods).trans (receivers_perm ownInside)

theorem members_nestedClusters {g : CallGraph} {ids : List Nat} (once : ids.Nodup)
    (inside : ∀ id ∈ ids, id < g.functions.length) :
    (Cluster.allMembersOf (g.nestedClusters ids)).Perm ids := by
  rw [Cluster.allMembersOf_eq, nestedClusters, List.flatMap_map]
  refine (List.Perm.flatMap_left _ fun k _ => ?_).trans (keyed_perm once inside packageKey)
  rw [Cluster.allMembers]
  exact members_package once inside k

theorem sound_nestedClusters {g : CallGraph} {ids : List Nat} {k : Cluster} (apart : g.NamesApart)
    (once : ids.Nodup) (inside : ∀ id ∈ ids, id < g.functions.length)
    (within : k ∈ Cluster.allOf (g.nestedClusters ids)) : k.Sound g := by
  obtain ⟨cluster, made, within⟩ := Cluster.mem_allOf.mp within
  obtain ⟨k', there, rfl⟩ := List.mem_map.mp made
  have ownOnce : (g.keyed ids packageKey k').Nodup := once.filter _
  have ownInside : ∀ id ∈ g.keyed ids packageKey k', id < g.functions.length := fun id within =>
    inside id (List.mem_of_mem_filter within)
  rcases List.mem_cons.mp within with rfl | within
  · have members := members_package once inside k'
    refine Cluster.sound_mk ?_ (membersWhere_increasing apart ownOnce ownInside _) ?_
    · obtain ⟨id, member, f, named, same⟩ := mem_keysOf.mp there
      exact List.ne_nil_of_mem (members.mem_iff.mpr (mem_keyed.mpr ⟨member, f, named, same⟩))
    · intro id member
      obtain ⟨-, f, named, same⟩ := mem_keyed.mp (members.mem_iff.mp member)
      exact ⟨f, named, same ▸ ClusterKey.fits_packageKey f⟩
  · rw [Cluster.allOf_flat fun _ => inner_flatClusters] at within
    exact sound_flatClusters apart (ownOnce.filter _)
      (fun id within => ownInside id (List.mem_of_mem_filter within)) ClusterKey.fits_typeKey within

theorem plain_nestedClusters {g : CallGraph} {ids : List Nat} {k : Cluster}
    (within : k ∈ g.nestedClusters ids) : k.Plain g := by
  obtain ⟨k', -, rfl⟩ := List.mem_map.mp within
  intro id member
  obtain ⟨-, f, there, alone⟩ := mem_membersWhere.mp member
  exact ⟨f, there, Option.isNone_iff_eq_none.mp alone⟩

theorem package_of_mem_nestedClusters {g : CallGraph} {ids : List Nat} {k : Cluster}
    (within : k ∈ g.nestedClusters ids) :
    ∃ path, k.key = .package path := by
  obtain ⟨_, there, rfl⟩ := List.mem_map.mp within
  exact package_of_mem_keysOf there

theorem nests_nestedClusters {g : CallGraph} {ids : List Nat} {k : Cluster}
    (within : k ∈ g.nestedClusters ids) : k.Nests := by
  obtain ⟨k', there, rfl⟩ := List.mem_map.mp within
  constructor
  case types =>
    intro t inside
    obtain ⟨k, made, rfl⟩ := List.mem_map.mp inside
    obtain ⟨id, method, f, named, rfl⟩ := mem_keysOf.mp made
    obtain ⟨own, isMethod⟩ := List.mem_filter.mp method
    obtain ⟨-, f', named', rfl⟩ := mem_keyed.mp own
    obtain rfl := Option.some.inj (named.symm.trans named')
    -- The cluster is made for a method, so the receiver is there.
    obtain ⟨r, receiver⟩ : ∃ r, f.receiver = some r := by
      simpa [named, Option.isSome_iff_exists] using isMethod
    exact ⟨f.package, r.typeName, rfl, by simp [Cluster.key, typeKey, receiver], rfl⟩
  case keys =>
    exact keys_flatClusters ▸ ClusterKey.ordered_sorted _

end CallGraph

/-- What a mode says of the clusters there are: which of them are packages, which have methods among
their own members, and which have clusters inside. -/
def GroupMode.Shapes (g : CallGraph) : GroupMode → Clustering → Prop
  | .none, c => c.clusters = []
  | .package, c => c.ungrouped = [] ∧ ∀ k ∈ c.clusters, (∃ path, k.key = .package path) ∧ k.inner = []
  | .type, c => c.ungrouped = [] ∧
      ∀ k ∈ c.clusters, (∀ path, k.key = .package path → k.Plain g) ∧ k.inner = []
  | .packageType, c => c.ungrouped = [] ∧
      ∀ k ∈ c.clusters, (∃ path, k.key = .package path) ∧ k.Plain g

structure Selection.Within (s : Selection) (g : CallGraph) : Prop where
  graph : s.graph = g
  increasing : s.nodes.Pairwise (· < ·)
  inside : ∀ id ∈ s.nodes, id < g.functions.length

/-- Clusters that divide a selection, each function in the one place that the mode has for it. -/
structure Partitioned (s : Selection) (mode : GroupMode) (c : Clustering) : Prop where
  once : c.allMembers.Nodup
  members (id : Nat) : id ∈ c.allMembers ↔ id ∈ s.nodes
  keys : ClusterKey.Ordered (c.clusters.map Cluster.key)
  sound : ∀ k ∈ Cluster.allOf c.clusters, k.Sound s.graph
  nests : ∀ k ∈ c.clusters, k.Nests
  ungrouped : c.ungrouped.Pairwise fun i j => s.graph.nameOf i < s.graph.nameOf j
  shapes : mode.Shapes s.graph c

namespace Selection

theorem keys_clustered (s : Selection) (mode : GroupMode) :
    ClusterKey.Ordered ((s.clustered mode).clusters.map Cluster.key) := by
  rw [s.clustered_eq]
  cases mode with
  | none => exact ⟨.nil, .nil⟩
  | package => exact CallGraph.keys_flatClusters ▸ ClusterKey.ordered_sorted _
  | type => exact CallGraph.keys_flatClusters ▸ ClusterKey.ordered_sorted _
  | packageType => exact CallGraph.keys_nestedClusters ▸ ClusterKey.ordered_sorted _

theorem nests_clustered (s : Selection) (mode : GroupMode) :
    ∀ k ∈ (s.clustered mode).clusters, k.Nests := by
  rw [s.clustered_eq]
  cases mode with
  | none => exact nofun
  | package => exact fun k made => Cluster.nests_flat (CallGraph.inner_flatClusters made)
  | type => exact fun k made => Cluster.nests_flat (CallGraph.inner_flatClusters made)
  | packageType => exact fun k made => CallGraph.nests_nestedClusters made

theorem shapes_clustered (s : Selection) (mode : GroupMode) :
    mode.Shapes s.graph (s.clustered mode) := by
  rw [s.clustered_eq]
  cases mode with
  | none => rfl
  | package =>
    exact ⟨rfl, fun k made =>
      ⟨CallGraph.package_of_mem_flatClusters made, CallGraph.inner_flatClusters made⟩⟩
  | type =>
    exact ⟨rfl, fun k made =>
      ⟨fun _ package => CallGraph.plain_flatClusters made package, CallGraph.inner_flatClusters made⟩⟩
  | packageType =>
    exact ⟨rfl, fun k made =>
      ⟨CallGraph.package_of_mem_nestedClusters made, CallGraph.plain_nestedClusters made⟩⟩

namespace Within

theorem once {s : Selection} {g : CallGraph} (within : s.Within g) :
    s.nodes.Nodup := within.increasing.imp Nat.ne_of_lt

theorem allMembers_clustered {s : Selection} {g : CallGraph} (within : s.Within g)
    (mode : GroupMode) : (s.clustered mode).allMembers.Perm s.nodes := by
  obtain rfl := within.graph
  rw [s.clustered_eq]
  unfold Clustering.allMembers
  cases mode with
  | none => exact CallGraph.membersWhere_all within.inside
  | package =>
    rw [Selection.divided, List.append_nil]
    exact CallGraph.members_flatClusters within.once within.inside
  | type =>
    rw [Selection.divided, List.append_nil]
    exact CallGraph.members_flatClusters within.once within.inside
  | packageType =>
    rw [Selection.divided, List.append_nil]
    exact CallGraph.members_nestedClusters within.once within.inside

theorem sound_clustered {s : Selection} {g : CallGraph} (within : s.Within g) (apart : g.NamesApart)
    (mode : GroupMode) :
    ∀ k ∈ Cluster.allOf (s.clustered mode).clusters, k.Sound g := by
  obtain rfl := within.graph
  have flat {key : Function → ClusterKey} (fits : ∀ f, (key f).Fits f) :
      ∀ k ∈ Cluster.allOf (s.graph.flatClusters s.nodes key), k.Sound s.graph := by
    intro k made
    rw [Cluster.allOf_flat fun _ => CallGraph.inner_flatClusters] at made
    exact CallGraph.sound_flatClusters apart within.once within.inside fits made
  rw [s.clustered_eq]
  cases mode with
  | none => exact nofun
  | package => exact flat ClusterKey.fits_packageKey
  | type => exact flat ClusterKey.fits_typeKey
  | packageType =>
    exact fun k made => CallGraph.sound_nestedClusters apart within.once within.inside made

theorem ungrouped_clustered {s : Selection} {g : CallGraph} (within : s.Within g)
    (apart : g.NamesApart) (mode : GroupMode) :
    (s.clustered mode).ungrouped.Pairwise fun i j => g.nameOf i < g.nameOf j := by
  obtain rfl := within.graph
  rw [s.clustered_eq]
  cases mode with
  | none => exact CallGraph.membersWhere_increasing apart within.once within.inside _
  | package => exact .nil
  | type => exact .nil
  | packageType => exact .nil

theorem partitioned {s : Selection} {g : CallGraph} (within : s.Within g) (apart : g.NamesApart)
    (mode : GroupMode) :
    Partitioned s mode (s.clustered mode) := by
  have members := within.allMembers_clustered mode
  have sound := within.sound_clustered apart mode
  have ungrouped := within.ungrouped_clustered apart mode
  rw [← within.graph] at sound ungrouped
  exact ⟨members.nodup_iff.mpr within.once, fun _ => members.mem_iff, s.keys_clustered mode, sound,
    s.nests_clustered mode, ungrouped, s.shapes_clustered mode⟩

end Within
end Selection

theorem CallGraph.within_of_select {g : CallGraph} {o : Options} {s : Selection}
    (selected : g.select o = .ok s) : s.Within g := by
  obtain ⟨focus, rfl⟩ := select_eq_ok selected
  refine ⟨rfl, List.pairwise_lt_range.filter _, fun id kept => ?_⟩
  obtain ⟨f, there, -⟩ := mem_keptNodes.mp kept
  exact (List.getElem?_eq_some_iff.mp there).1

namespace Analysis

/-- In every mode the clusters divide whatever is selected from a resolved graph. -/
theorem clustered_partitioned {x : Export} {bytes : List UInt8} {entry : String} {tests : Bool}
    {a : Analysis} (resolved : resolve x bytes entry tests = .ok a) :
    (∀ o s, a.graph.select o = .ok s → s.Within a.graph) ∧
    ∀ s, s.Within a.graph → ∀ mode, Partitioned s mode (s.clustered mode) :=
  ⟨fun _ _ => CallGraph.within_of_select,
    fun _ within mode => within.partitioned (resolve_builds resolved).apart mode⟩

/-- In the finest mode, the selection of three functions has a cluster inside of a cluster. -/
theorem exchange_partitioned : ∃ a s, resolve exchange [] "app" false = .ok a ∧
    a.graph.select everyFunction = .ok s ∧ s.nodes = [0, 1, 3] ∧
    (Cluster.allOf (s.clustered .packageType).clusters).map (fun k => (k.key, k.members)) =
      [(.package "app", [1]), (.package "lib", [3]), (.type "lib" "Job", [0])] ∧
    ∀ mode, Partitioned s mode (s.clustered mode) := by
  have chosen : exchange.graphFor "app" false = .ok (exchange.built "app") := by decide +kernel
  have selected : (exchange.built "app").select everyFunction =
      .ok ⟨exchange.built "app", [0, 1, 3], [0, 1], []⟩ := by decide +kernel
  obtain ⟨a, resolved, graph⟩ := resolve_of_graphFor chosen []
  rw [← graph] at selected
  obtain ⟨selects, divides⟩ := clustered_partitioned resolved
  refine ⟨a, _, resolved, selected, rfl, ?_, divides _ (selects _ _ selected)⟩
  rw [graph]
  decide +kernel

end Analysis
end CallChart
