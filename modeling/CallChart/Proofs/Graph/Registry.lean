import CallChart.Proofs.Graph.Built
import Mathlib.Algebra.Order.BigOperators.Group.List

namespace CallChart

open CallGraph (Fault insertPackage)

namespace Registry

structure Node where
  id : UInt32
  function : Function
  deriving DecidableEq, Repr

structure Link where
  id : UInt32
  caller : UInt32
  callee : UInt32
  staticSites : UInt32
  dynamicSites : UInt32
  deriving DecidableEq, Repr

namespace Link

def sites (l : Link) : UInt32 :=
  l.staticSites + l.dynamicSites

def joins (l : Link) (caller callee : UInt32) : Bool :=
  l.caller == caller && l.callee == callee

def record (l : Link) (dynamic : Bool) : Link :=
  if dynamic then { l with dynamicSites := l.dynamicSites + 1 }
  else { l with staticSites := l.staticSites + 1 }

end Link
end Registry

structure Registry where
  nodes : List Registry.Node
  links : List Registry.Link
  index : List (String × UInt32)
  packages : List Package
  deriving DecidableEq, Repr

namespace Registry

def new : Registry := ⟨[], [], [], []⟩

def find? (r : Registry) (name : String) : Option UInt32 :=
  r.index.lookup name

def addPackage (p : Package) : EStateM Fault Registry Unit :=
  modify fun r => { r with packages := insertPackage p r.packages }

def addFunction (f : Function) : EStateM Fault Registry UInt32 := do
  let r ← get
  if (r.find? f.name).isSome then throw (.duplicateFunction f.name)
  if (r.packages.find? (·.path = f.package)).isNone then throw (.unknownPackage f.name f.package)
  let id := UInt32.ofNat r.nodes.length
  modify fun r => { r with index := (f.name, id) :: r.index }
  modify fun r => { r with nodes := r.nodes ++ [⟨id, f⟩] }
  return id

def addCall (caller callee : UInt32) (dynamic : Bool) : EStateM Fault Registry UInt32 := do
  let r ← get
  match r.links.findIdx? (·.joins caller callee) with
  | some i =>
    modify fun r => { r with links := r.links.modify i (·.record dynamic) }
    return UInt32.ofNat i
  | none =>
    let id := UInt32.ofNat r.links.length
    let fresh := Link.record ⟨id, caller, callee, 0, 0⟩ dynamic
    modify fun r => { r with links := r.links ++ [fresh] }
    return id

inductive Operation where
  | package (p : Package)
  | function (f : Function)
  | call (caller callee : UInt32) (dynamic : Bool)
  deriving DecidableEq, Repr

namespace Operation

def isFunction : Operation → Bool
  | .function _ => true
  | _ => false

def isCall : Operation → Bool
  | .call .. => true
  | _ => false

def perform : Operation → EStateM Fault Registry (Option UInt32)
  | .package p => do
    addPackage p
    return none
  | .function f => some <$> addFunction f
  | .call caller callee dynamic => some <$> addCall caller callee dynamic

/-- The same on a graph in which ids are positions. -/
def apply (g : CallGraph) : Operation → CallGraph
  | .package p => g.addPackage p
  | .function f =>
    match g.addFunction f with
    | .ok (g, _) => g
    | .error _ => g
  | .call caller callee dynamic => (g.addCall caller.toNat callee.toNat dynamic).1

/-- Whether the ids in an operation are ids of functions. -/
def Issued (r : Registry) : Operation → Prop
  | .call caller callee _ => caller ∈ r.nodes.map (·.id) ∧ callee ∈ r.nodes.map (·.id)
  | _ => True

instance (r : Registry) : DecidablePred (Issued r)
  | .package _ => isTrue trivial
  | .function _ => isTrue trivial
  | .call caller callee _ =>
    inferInstanceAs (Decidable (caller ∈ r.nodes.map (·.id) ∧ callee ∈ r.nodes.map (·.id)))

end Operation

def after {α : Type} : EStateM.Result Fault Registry α → Registry
  | .ok _ r => r
  | .error _ r => r

def run (r : Registry) (ops : List Operation) : Registry :=
  ops.foldl (fun r op => after (op.perform r)) r

/-- Operations whose calls are between functions that are there when the call is added. -/
def Proper (r : Registry) : List Operation → Prop
  | [] => True
  | op :: rest => op.Issued r ∧ Proper (after (op.perform r)) rest

def decideProper (r : Registry) : (ops : List Operation) → Decidable (Proper r ops)
  | [] => isTrue trivial
  | op :: rest =>
    have := decideProper (after (op.perform r)) rest
    inferInstanceAs (Decidable (op.Issued r ∧ Proper (after (op.perform r)) rest))

instance (r : Registry) (ops : List Operation) : Decidable (Proper r ops) :=
  decideProper r ops

theorem addFunction_eq (f : Function) (r : Registry) : addFunction f r =
    if (r.find? f.name).isSome then .error (.duplicateFunction f.name) r
    else if (r.packages.find? (·.path = f.package)).isNone then
      .error (.unknownPackage f.name f.package) r
    else
      let id := UInt32.ofNat r.nodes.length
      .ok id { r with nodes := r.nodes ++ [⟨id, f⟩], index := (f.name, id) :: r.index } := by
  have here : (EStateM.get : EStateM Fault Registry Registry) r = .ok r r := rfl
  simp only [addFunction, bind, EStateM.bind, get, getThe, MonadStateOf.get, here]
  split
  · rfl
  · simp only [pure]
    split <;> rfl

theorem addCall_eq (caller callee : UInt32) (dynamic : Bool) (r : Registry) :
    addCall caller callee dynamic r =
      match r.links.findIdx? (·.joins caller callee) with
      | some i => .ok (UInt32.ofNat i) { r with links := r.links.modify i (·.record dynamic) }
      | none =>
        let id := UInt32.ofNat r.links.length
        .ok id { r with links := r.links ++ [Link.record ⟨id, caller, callee, 0, 0⟩ dynamic] } := by
  have here : (EStateM.get : EStateM Fault Registry Registry) r = .ok r r := rfl
  simp only [addCall, bind, EStateM.bind, get, getThe, MonadStateOf.get, here]
  cases r.links.findIdx? (·.joins caller callee) <;> rfl

end Registry

namespace CallGraph

/-- What holds of a graph after so many calls between its functions. -/
structure Sound (g : CallGraph) (calls : Nat) : Prop where
  names : (g.functions.map (·.name)).Nodup
  registered {f : Function} : f ∈ g.functions → (g.package? f.package).isSome
  edges : EdgesWell g.functions.length g.edges
  total : (g.edges.map Edge.sites).sum = calls
  paths : g.packages.Pairwise (·.path < ·.path)

namespace Sound

theorem empty : CallGraph.empty.Sound 0 :=
  ⟨List.nodup_nil, nofun, .nil 0, rfl, .nil⟩

theorem addPackage {g : CallGraph} {calls : Nat} (sound : g.Sound calls) (p : Package) :
    (g.addPackage p).Sound calls where
  names := sound.names
  registered := by
    intro f within
    have known := sound.registered within
    rw [package?] at known
    rw [CallGraph.addPackage, package?, find?_insertPackage]
    split
    · rfl
    · exact known
  edges := sound.edges
  total := sound.total
  paths := insertPackage_insertsBy.sorted_insert sound.paths

theorem addFunction {g : CallGraph} {calls : Nat} (sound : g.Sound calls) {f : Function}
    (fresh : g.find? f.name = none) (known : (g.package? f.package).isSome) :
    ({ g with functions := g.functions ++ [f] } : CallGraph).Sound calls where
  names := by
    have fresh : f.name ∉ g.functions.map (·.name) := by
      rw [← find?_isSome_iff, fresh]
      exact Bool.false_ne_true
    rw [List.map_append]
    exact sound.names.append (List.nodup_singleton _) (by simpa using fresh)
  registered := by
    intro d within
    rcases List.mem_append.mp within with within | within
    · exact sound.registered within
    · obtain rfl := List.mem_singleton.mp within
      exact known
  edges := by
    refine ⟨sound.edges.single, sound.edges.called, fun within => ?_⟩
    obtain ⟨caller, callee⟩ := sound.edges.inside within
    rw [List.length_append]
    exact ⟨Nat.lt_add_right 1 caller, Nat.lt_add_right 1 callee⟩
  total := sound.total
  paths := sound.paths

theorem addCall {g : CallGraph} {calls : Nat} (sound : g.Sound calls) {caller callee : Nat}
    (first : caller < g.functions.length) (second : callee < g.functions.length) (dynamic : Bool) :
    (g.addCall caller callee dynamic).1.Sound (calls + 1) where
  names := sound.names
  registered := sound.registered
  edges := sound.edges.recordCall first second dynamic
  total := by rw [CallGraph.addCall, sites_recordCall, sound.total]
  paths := sound.paths

theorem sites_le {g : CallGraph} {calls : Nat} (sound : g.Sound calls) {e : Edge}
    (within : e ∈ g.edges) : e.sites ≤ calls := by
  rw [← sound.total]
  exact List.le_sum_of_mem (List.mem_map_of_mem within)

theorem edges_le {g : CallGraph} {calls : Nat} (sound : g.Sound calls) :
    g.edges.length ≤ calls := by
  rw [← sound.total, ← List.length_map (f := Edge.sites)]
  refine List.length_le_sum_of_one_le _ (List.forall_mem_map.mpr fun e within => ?_)
  exact sound.edges.called within

end Sound
end CallGraph

namespace Registry

namespace Link

def edge (l : Link) : Edge :=
  ⟨l.caller.toNat, l.callee.toNat, l.staticSites.toNat, l.dynamicSites.toNat⟩

theorem joins_edge (l : Link) (caller callee : UInt32) :
    l.edge.joins caller.toNat callee.toNat = l.joins caller callee := by
  rw [Bool.eq_iff_iff]
  simp [edge, Edge.joins, joins, UInt32.toNat_inj]

theorem edge_record (l : Link) (dynamic : Bool) (room : l.edge.sites + 1 < 2 ^ 32) :
    (l.record dynamic).edge = l.edge.record dynamic := by
  have next (n : UInt32) (room : n.toNat + 1 < 2 ^ 32) : (n + 1).toNat = n.toNat + 1 := by
    rw [UInt32.toNat_add]
    exact Nat.mod_eq_of_lt room
  simp only [Edge.sites, edge] at room
  cases dynamic
  · simp [record, edge, Edge.record, next l.staticSites (by omega)]
  · simp [record, edge, Edge.record, next l.dynamicSites (by omega)]

theorem sites_edge (l : Link) (room : l.edge.sites < 2 ^ 32) : l.sites.toNat = l.edge.sites := by
  rw [sites, UInt32.toNat_add]
  exact Nat.mod_eq_of_lt room

end Link

theorem map_modify {α β : Type} (f : α → β) {change : α → α} (change' : β → β) {l : List α}
    (i : Nat) (same : ∀ a ∈ l, f (change a) = change' (f a)) :
    (l.modify i change).map f = (l.map f).modify i change' := by
  induction l generalizing i with
  | nil => cases i <;> rfl
  | cons a rest ih =>
    obtain ⟨first, others⟩ := List.forall_mem_cons.mp same
    cases i with
    | zero => simp [first]
    | succ i => simp [ih i others]

/-- Ids are positions, the index finds what a search would find, and everything else is the same. -/
structure Tracks (r : Registry) (g : CallGraph) : Prop where
  functions : r.nodes.map (·.function) = g.functions
  nodeIds : r.nodes.map (·.id.toNat) = List.range r.nodes.length
  found (name : String) : (r.find? name).map UInt32.toNat = g.find? name
  edges : r.links.map Link.edge = g.edges
  linkIds : r.links.map (·.id.toNat) = List.range r.links.length
  packages : r.packages = g.packages

namespace Tracks

theorem new : Tracks new .empty := ⟨rfl, rfl, fun _ => rfl, rfl, rfl, rfl⟩

theorem length_nodes {r : Registry} {g : CallGraph} (tracks : Tracks r g) :
    r.nodes.length = g.functions.length := by
  rw [← tracks.functions, List.length_map]

theorem length_links {r : Registry} {g : CallGraph} (tracks : Tracks r g) :
    r.links.length = g.edges.length := by
  rw [← tracks.edges, List.length_map]

theorem addPackage {r : Registry} {g : CallGraph} (tracks : Tracks r g) (p : Package) :
    Tracks { r with packages := insertPackage p r.packages } (g.addPackage p) where
  functions := tracks.functions
  nodeIds := tracks.nodeIds
  found := tracks.found
  edges := tracks.edges
  linkIds := tracks.linkIds
  packages := congrArg (insertPackage p) tracks.packages

theorem addFunction {r : Registry} {g : CallGraph} {f : Function} (tracks : Tracks r g)
    (fresh : g.find? f.name = none) (room : r.nodes.length < 2 ^ 32) :
    let id := UInt32.ofNat r.nodes.length
    Tracks { r with nodes := r.nodes ++ [⟨id, f⟩], index := (f.name, id) :: r.index }
      { g with functions := g.functions ++ [f] } where
  functions := by rw [List.map_append, tracks.functions]; rfl
  nodeIds := by
    rw [List.map_append, tracks.nodeIds, List.length_append, List.length_singleton,
      List.range_succ, List.map_singleton, UInt32.toNat_ofNat_of_lt' room]
  found name := by
    have before := tracks.found name
    simp only [Registry.find?, CallGraph.find?] at before fresh ⊢
    rw [List.findIdx?_append, List.lookup_cons]
    by_cases named : name = f.name
    · rw [named, fresh, beq_self_eq_true, List.findIdx?_cons]
      rw [tracks.length_nodes] at room ⊢
      simp [UInt32.toNat_ofNat_of_lt' room]
    · rw [beq_false_of_ne named, before, List.findIdx?_cons]
      simp [Ne.symm named]
  edges := tracks.edges
  linkIds := tracks.linkIds
  packages := tracks.packages

theorem findIdx?_links {r : Registry} {g : CallGraph} (tracks : Tracks r g)
    (caller callee : UInt32) :
    g.edges.findIdx? (·.joins caller.toNat callee.toNat) =
      r.links.findIdx? (·.joins caller callee) := by
  rw [← tracks.edges, List.findIdx?_map]
  simp only [Function.comp_def, Link.joins_edge]

theorem addCall {r : Registry} {g : CallGraph} {calls : Nat} (tracks : Tracks r g)
    (sound : g.Sound calls) (room : calls + 1 < 2 ^ 32) (caller callee : UInt32) (dynamic : Bool) :
    let result := Registry.addCall caller callee dynamic r
    let counted := g.addCall caller.toNat callee.toNat dynamic
    ∃ id r', result = .ok id r' ∧ id.toNat = counted.2 ∧ Tracks r' counted.1 := by
  have few : r.links.length < 2 ^ 32 := by
    rw [tracks.length_links]
    exact Nat.lt_of_le_of_lt sound.edges_le (by omega)
  have recorded : ∀ l ∈ r.links, (l.record dynamic).edge = l.edge.record dynamic := by
    intro l within
    have within : l.edge ∈ g.edges := tracks.edges ▸ List.mem_map_of_mem within
    exact l.edge_record dynamic (Nat.lt_of_le_of_lt (Nat.succ_le_succ (sound.sites_le within)) room)
  have keepsId (l : Link) : (l.record dynamic).id = l.id := by cases dynamic <;> rfl
  intro result counted
  simp only [result, counted, addCall_eq, CallGraph.addCall, CallGraph.recordCall_eq,
    tracks.findIdx?_links]
  cases place : r.links.findIdx? (·.joins caller callee) with
  | some i =>
    obtain ⟨inside, same⟩ := List.findIdx?_eq_some_iff_findIdx_eq.mp
      ((tracks.findIdx?_links caller callee).trans place)
    refine ⟨_, _, rfl, ?_, tracks.functions, tracks.nodeIds, tracks.found, ?_, ?_, tracks.packages⟩
    · rw [same, UInt32.toNat_ofNat_of_lt']
      rw [← tracks.length_links] at inside
      exact Nat.lt_trans inside few
    · rw [map_modify Link.edge (·.record dynamic) i recorded, tracks.edges]
    · rw [map_modify (·.id.toNat) id i fun l _ => congrArg UInt32.toNat (keepsId l), tracks.linkIds,
        List.length_modify, List.modify_id]
  | none =>
    have last : (Link.record ⟨UInt32.ofNat r.links.length, caller, callee, 0, 0⟩ dynamic).edge =
        Edge.record ⟨caller.toNat, callee.toNat, 0, 0⟩ dynamic :=
      Link.edge_record _ dynamic (by simp [Link.edge, Edge.sites])
    have missing : g.edges.findIdx (·.joins caller.toNat callee.toNat) = g.edges.length :=
      List.findIdx?_eq_none_iff_findIdx_eq.mp ((tracks.findIdx?_links caller callee).trans place)
    refine ⟨_, _, rfl, ?_, tracks.functions, tracks.nodeIds, tracks.found, ?_, ?_, tracks.packages⟩
    · rw [missing, UInt32.toNat_ofNat_of_lt' few, tracks.length_links]
    · rw [List.map_append, tracks.edges, List.map_singleton, last]
    · rw [List.map_append, tracks.linkIds, List.length_append, List.length_singleton,
        List.range_succ, List.map_singleton, keepsId, UInt32.toNat_ofNat_of_lt' few]

theorem lt_of_issued {r : Registry} {g : CallGraph} (tracks : Tracks r g) {id : UInt32}
    (issued : id ∈ r.nodes.map (·.id)) :
    id.toNat < g.functions.length := by
  have within : id.toNat ∈ r.nodes.map (·.id.toNat) := by
    obtain ⟨n, there, rfl⟩ := List.mem_map.mp issued
    exact List.mem_map.mpr ⟨n, there, rfl⟩
  rw [tracks.nodeIds, List.mem_range, tracks.length_nodes] at within
  exact within

theorem step {r : Registry} {g : CallGraph} {calls : Nat} {op : Operation} (tracks : Tracks r g)
    (sound : g.Sound calls) (issued : op.Issued r)
    (room : g.functions.length + op.isFunction.toNat < 2 ^ 32)
    (room' : calls + op.isCall.toNat < 2 ^ 32) :
    Tracks (after (op.perform r)) (op.apply g) ∧ (op.apply g).Sound (calls + op.isCall.toNat) ∧
      (op.apply g).functions.length ≤ g.functions.length + op.isFunction.toNat := by
  cases op with
  | package p => exact ⟨tracks.addPackage p, sound.addPackage p, Nat.le_refl _⟩
  | function f =>
    have taken : (r.find? f.name).isSome = (g.find? f.name).isSome := by
      rw [← tracks.found, Option.isSome_map]
    have known : r.packages.find? (·.path = f.package) = g.package? f.package := by
      rw [tracks.packages, CallGraph.package?]
    have performed : after ((Operation.function f).perform r) = after (Registry.addFunction f r) := by
      simp only [Operation.perform, Functor.map, EStateM.map]
      cases Registry.addFunction f r <;> rfl
    rw [performed, addFunction_eq, taken, known, Operation.apply, CallGraph.addFunction]
    split
    · exact ⟨tracks, sound, Nat.le_add_right _ _⟩
    · rename_i fresh
      split
      · exact ⟨tracks, sound, Nat.le_add_right _ _⟩
      · rename_i registered
        have fresh : g.find? f.name = none := by simpa using fresh
        have registered : (g.package? f.package).isSome := by
          simpa [Option.isSome_iff_ne_none] using registered
        have few : r.nodes.length < 2 ^ 32 := by
          rw [tracks.length_nodes]
          exact Nat.lt_of_succ_lt room
        exact ⟨tracks.addFunction fresh few, sound.addFunction fresh registered, by
          rw [List.length_append]; rfl⟩
  | call caller callee dynamic =>
    obtain ⟨id, r', added, tracks'⟩ := tracks.addCall sound room' caller callee dynamic
    have performed : after ((Operation.call caller callee dynamic).perform r) = r' := by
      simp only [Operation.perform, Functor.map, EStateM.map, added]
      rfl
    rw [performed, Operation.apply]
    have first := tracks.lt_of_issued issued.1
    have second := tracks.lt_of_issued issued.2
    exact ⟨tracks'.2, sound.addCall first second dynamic, Nat.le_refl _⟩

theorem run {r : Registry} {g : CallGraph} {calls : Nat} {ops : List Operation}
    (tracks : Tracks r g) (sound : g.Sound calls) (proper : Proper r ops)
    (room : g.functions.length + ops.countP (·.isFunction) < 2 ^ 32)
    (room' : calls + ops.countP (·.isCall) < 2 ^ 32) :
    Tracks (Registry.run r ops) (ops.foldl Operation.apply g) ∧
      (ops.foldl Operation.apply g).Sound (calls + ops.countP (·.isCall)) := by
  induction ops generalizing r g calls with
  | nil => exact ⟨tracks, sound⟩
  | cons op rest ih =>
    obtain ⟨issued, proper⟩ := proper
    have count (p : Operation → Bool) : (op :: rest).countP p = (p op).toNat + rest.countP p := by
      rw [List.countP_cons, Nat.add_comm]
      cases p op <;> rfl
    rw [count, ← Nat.add_assoc] at room room' ⊢
    obtain ⟨tracks', sound', longer⟩ := tracks.step sound issued
      (Nat.lt_of_le_of_lt (Nat.le_add_right _ _) room)
      (Nat.lt_of_le_of_lt (Nat.le_add_right _ _) room')
    exact ih tracks' sound' proper
      (Nat.lt_of_le_of_lt (Nat.add_le_add_right longer _) room) room'

end Tracks

/-- Ids are positions, names lead to ids and are told apart, packages are known, no two edges are
between the same functions, and all calls are counted. -/
structure Consistent (r : Registry) (calls : Nat) : Prop where
  ids {i : Nat} {n : Node} : r.nodes[i]? = some n → n.id.toNat = i
  found {name : String} {id : UInt32} : r.find? name = some id ↔
    ∃ n, r.nodes[id.toNat]? = some n ∧ n.function.name = name
  names : (r.nodes.map (·.function.name)).Nodup
  registered {n : Node} : n ∈ r.nodes → ∃ p ∈ r.packages, p.path = n.function.package
  linkIds {i : Nat} {l : Link} : r.links[i]? = some l → l.id.toNat = i
  ends {l : Link} : l ∈ r.links →
    (∃ n ∈ r.nodes, n.id = l.caller) ∧ ∃ n ∈ r.nodes, n.id = l.callee
  single : (r.links.map fun l => (l.caller, l.callee)).Nodup
  called {l : Link} : l ∈ r.links → 1 ≤ l.sites.toNat
  total : (r.links.map (·.sites.toNat)).sum = calls
  paths : r.packages.Pairwise (·.path < ·.path)

theorem eq_of_map_range {α : Type} {l : List α} {f : α → Nat} (ids : l.map f = List.range l.length)
    {i : Nat} {a : α} (there : l[i]? = some a) : f a = i := by
  have inside := (List.getElem?_eq_some_iff.mp there).1
  have place : (l.map f)[i]? = some (f a) := by rw [List.getElem?_map, there]; rfl
  rw [ids, List.getElem?_range inside] at place
  exact (Option.some.inj place).symm

theorem Tracks.consistent {r : Registry} {g : CallGraph} {calls : Nat} (tracks : Tracks r g)
    (sound : g.Sound calls) (few : calls < 2 ^ 32) :
    r.Consistent calls := by
  have edge {l : Link} (within : l ∈ r.links) : l.edge ∈ g.edges :=
    tracks.edges ▸ List.mem_map_of_mem within
  have sites {l : Link} (within : l ∈ r.links) : l.sites.toNat = l.edge.sites :=
    l.sites_edge (Nat.lt_of_le_of_lt (sound.sites_le (edge within)) few)
  have node {id : UInt32} (inside : id.toNat < g.functions.length) : ∃ n ∈ r.nodes, n.id = id := by
    rw [← tracks.length_nodes] at inside
    have there := List.getElem?_eq_getElem inside
    exact ⟨_, List.getElem_mem inside, UInt32.toNat_inj.mp (eq_of_map_range tracks.nodeIds there)⟩
  constructor
  case ids => exact eq_of_map_range tracks.nodeIds
  case found =>
    intro name id
    have here : (r.find? name = some id) ↔ g.find? name = some id.toNat := by
      rw [← tracks.found, Option.map_eq_some_iff]
      simp only [UInt32.toNat_inj, exists_eq_right]
    rw [here, CallGraph.find?_eq_some_iff (CallGraph.namesApart_of_nodup sound.names),
      ← tracks.functions]
    simp
  case names =>
    have names := sound.names
    rwa [← tracks.functions, List.map_map] at names
  case registered =>
    intro n within
    have known := sound.registered (tracks.functions ▸ List.mem_map_of_mem within)
    obtain ⟨p, found⟩ := Option.isSome_iff_exists.mp known
    rw [tracks.packages]
    exact ⟨p, (CallGraph.package?_eq_some_iff sound.paths).mp found⟩
  case linkIds => exact eq_of_map_range tracks.linkIds
  case ends =>
    intro l within
    obtain ⟨caller, callee⟩ := sound.edges.inside (edge within)
    exact ⟨node caller, node callee⟩
  case single =>
    have single := sound.edges.single
    rw [← tracks.edges, List.map_map] at single
    refine List.Nodup.of_map (fun p => (p.1.toNat, p.2.toNat)) ?_
    rwa [List.map_map]
  case called =>
    intro l within
    rw [sites within]
    exact sound.edges.called (edge within)
  case total =>
    rw [← sound.total, ← tracks.edges, List.map_map]
    exact congrArg List.sum (List.map_congr_left fun l within => sites within)
  case paths =>
    rw [tracks.packages]
    exact sound.paths

/-- Whatever packages, functions and calls come, and in whatever order: as long as there is room for
ids, nothing gets out of step, and what is refused leaves no trace. -/
theorem run_consistent (ops : List Operation) (proper : Proper new ops)
    (functions : ops.countP (·.isFunction) < 2 ^ 32) (calls : ops.countP (·.isCall) < 2 ^ 32) :
    let r := run new ops
    r.Consistent (ops.countP (·.isCall)) ∧ Tracks r (ops.foldl Operation.apply .empty) ∧
    ∀ f fault r', addFunction f r = .error fault r' → r' = r := by
  have functions : CallGraph.empty.functions.length + ops.countP (·.isFunction) < 2 ^ 32 := by
    rwa [CallGraph.empty, List.length_nil, Nat.zero_add]
  have room : 0 + ops.countP (·.isCall) < 2 ^ 32 := by rwa [Nat.zero_add]
  obtain ⟨tracks, sound⟩ := Tracks.new.run .empty proper functions room
  rw [Nat.zero_add] at sound
  refine ⟨tracks.consistent sound calls, tracks, fun f fault r' refused => ?_⟩
  rw [addFunction_eq] at refused
  split at refused
  · exact (EStateM.Result.error.inj refused).2.symm
  · split at refused
    · exact (EStateM.Result.error.inj refused).2.symm
    · cases refused

/-- A name is taken, a package is not known, a package comes again, a function calls itself, and a
call is made twice. -/
theorem run_consistent_refused :
    let named (name package : String) : Function := ⟨name, name, package, none, false, false, false⟩
    let ops : List Operation := [
      .package ⟨"app", "main", false⟩, .function (named "app.main" "app"),
      .function (named "app.main" "app"), .function (named "lib.run" "lib"),
      .package ⟨"app", "program", false⟩, .function (named "app.run" "app"), .call 0 1 false,
      .call 1 1 true, .call 0 1 true]
    (Proper new ops ∧ ops.countP (·.isFunction) = 4 ∧ ops.countP (·.isCall) = 3) ∧
    (run new ops).nodes.map (·.function.name) = ["app.main", "app.run"] ∧
    (run new ops).Consistent 3 := by
  intro named ops
  have proper : Proper new ops := by decide +kernel
  refine ⟨⟨proper, rfl, rfl⟩, by decide +kernel, ?_⟩
  exact (run_consistent ops proper (by decide) (by decide)).1

end Registry
end CallChart
