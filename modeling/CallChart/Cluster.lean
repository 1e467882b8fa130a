import CallChart.Selection

namespace CallChart

inductive ClusterKey where
  | package (path : String)
  | type (path typeName : String)
  deriving DecidableEq, Repr

namespace ClusterKey

def text : ClusterKey → String
  | .package path => path
  | .type path typeName => path ++ "." ++ typeName

def before : ClusterKey → ClusterKey → Bool
  | .package a, .package b => a < b
  | .package _, .type .. => true
  | .type .., .package _ => false
  | .type a s, .type b t => a < b || (a == b && s < t)

end ClusterKey

inductive Cluster where
  | mk (key : ClusterKey) (label : String) (std : Bool) (members : List Nat)
      (inner : List Cluster)
  deriving Repr

namespace Cluster

def key : Cluster → ClusterKey
  | mk key _ _ _ _ => key

def label : Cluster → String
  | mk _ label _ _ _ => label

def std : Cluster → Bool
  | mk _ _ std _ _ => std

def members : Cluster → List Nat
  | mk _ _ _ members _ => members

def inner : Cluster → List Cluster
  | mk _ _ _ _ inner => inner

def withMember (id : Nat) : Cluster → Cluster
  | mk key label std members inner => mk key label std (members ++ [id]) inner

/-- One more function in the first cluster with the key of `fresh`, or in `fresh` behind all others. -/
def put (fresh : Cluster) (id : Nat) : List Cluster → List Cluster
  | [] => [fresh.withMember id]
  | c :: rest =>
    if c.key = fresh.key then c.withMember id :: rest else c :: put fresh id rest

def withMethod (fresh : Cluster) (id : Nat) : Cluster → Cluster
  | mk key label std members inner => mk key label std members (put fresh id inner)

/-- Changes the cluster with the key of `fresh` among clusters in the order of their keys. If there is
none, `fresh` gets its place first. -/
def entry (fresh : Cluster) (change : Cluster → Cluster) : List Cluster → List Cluster
  | [] => [change fresh]
  | c :: rest =>
    if fresh.key.before c.key then change fresh :: c :: rest
    else if fresh.key = c.key then change c :: rest
    else c :: entry fresh change rest

def ordered : Cluster → Cluster
  | mk key label std members inner =>
    mk key label std members (inner.mergeSort fun a b => !b.key.before a.key)

mutual

def allMembers : Cluster → List Nat
  | mk _ _ _ members inner => members ++ allMembersOf inner

def allMembersOf : List Cluster → List Nat
  | [] => []
  | c :: rest => allMembers c ++ allMembersOf rest

end

end Cluster

structure Clustering where
  selection : Selection
  clusters : List Cluster
  ungrouped : List Nat
  deriving Repr

namespace Clustering

def allMembers (c : Clustering) : List Nat :=
  Cluster.allMembersOf c.clusters ++ c.ungrouped

end Clustering

namespace CallGraph

def sortedByName (g : CallGraph) (ids : List Nat) : List Nat :=
  ids.mergeSort fun a b => decide (g.nameOf a ≤ g.nameOf b)

def packageCluster (g : CallGraph) (path : String) : Cluster :=
  match g.package? path with
  | some p => .mk (.package path) p.path p.std [] []
  | none => .mk (.package path) path false [] []

def typeCluster (g : CallGraph) (path typeName : String) : Cluster :=
  match g.package? path with
  | some p => .mk (.type path typeName) (p.name ++ "." ++ typeName) p.std [] []
  | none => .mk (.type path typeName) (path ++ "." ++ typeName) false [] []

def receiverCluster (g : CallGraph) (f : Function) : Cluster :=
  match f.receiver with
  | some r => g.typeCluster f.package r.typeName
  | none => g.packageCluster f.package

structure Gathered where
  clusters : List Cluster
  ungrouped : List Nat
  deriving Repr

def place (g : CallGraph) (mode : GroupMode) (state : Gathered) (id : Nat) (f : Function) :
    Gathered :=
  match mode with
  | .none => { state with ungrouped := state.ungrouped ++ [id] }
  | .package =>
    { state with
      clusters := Cluster.entry (g.packageCluster f.package) (.withMember id) state.clusters }
  | .type =>
    { state with
      clusters := Cluster.entry (g.receiverCluster f) (.withMember id) state.clusters }
  | .packageType =>
    let change := match f.receiver with
      | some r => Cluster.withMethod (g.typeCluster f.package r.typeName) id
      | none => Cluster.withMember id
    { state with clusters := Cluster.entry (g.packageCluster f.package) change state.clusters }

def gatherFrom (g : CallGraph) (mode : GroupMode) (state : Gathered) : List Nat → Gathered
  | [] => state
  | id :: rest =>
    match g.functions[id]? with
    | some f => gatherFrom g mode (g.place mode state id f) rest
    | none => gatherFrom g mode state rest

def named (g : CallGraph) : Cluster → Cluster
  | .mk key label std members inner => .mk key label std (g.sortedByName members) inner

def finished (g : CallGraph) (c : Cluster) : Cluster :=
  match g.named c with
  | .mk key label std members inner => .mk key label std members (inner.map g.named)

end CallGraph

namespace Selection

def clustered (s : Selection) (mode : GroupMode) : Clustering :=
  let state := s.graph.gatherFrom mode ⟨[], []⟩ s.nodes
  { selection := s
    clusters := (state.clusters.map s.graph.finished).map Cluster.ordered
    ungrouped := s.graph.sortedByName state.ungrouped }

end Selection
end CallChart
