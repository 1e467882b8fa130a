import CallChart.Text.Letters
import CallChart.Text.Split

namespace CallChart

structure Package where
  path : String
  name : String
  std : Bool
  deriving DecidableEq, Repr

structure Receiver where
  typeName : String
  pointer : Bool
  deriving DecidableEq, Repr

structure Function where
  name : String
  short : String
  package : String
  receiver : Option Receiver
  exported : Bool
  synthetic : Bool
  test : Bool
  deriving DecidableEq, Repr

structure Edge where
  caller : Nat
  callee : Nat
  staticSites : Nat
  dynamicSites : Nat
  deriving DecidableEq, Repr

def isExportedName (name : String) : Bool :=
  match name.toList with
  | [] => false
  | c :: _ => Text.isCapital c

namespace Package

def root (path : String) : List Char :=
  path.toList.takeWhile (· ≠ '/')

/-- A standard package has no dot in its first path element, and lies outside the module of the
entry package. -/
def isStandard (path entry : String) : Bool :=
  !(root path).contains '.' && root path != root entry

end Package

namespace Function

def label (f : Function) : String :=
  match f.receiver with
  | none => f.short
  | some r => "(" ++ (if r.pointer then "*" else "") ++ r.typeName ++ ")." ++ f.short

end Function

namespace Edge

def sites (e : Edge) : Nat :=
  e.staticSites + e.dynamicSites

def isDynamic (e : Edge) : Bool :=
  0 < e.dynamicSites

def joins (e : Edge) (caller callee : Nat) : Bool :=
  e.caller == caller && e.callee == callee

def record (e : Edge) (dynamic : Bool) : Edge :=
  if dynamic then { e with dynamicSites := e.dynamicSites + 1 }
  else { e with staticSites := e.staticSites + 1 }

end Edge

/-- Packages are in the order of their paths, functions and edges in the order of arrival. -/
structure CallGraph where
  packages : List Package
  functions : List Function
  edges : List Edge
  deriving DecidableEq, Repr

namespace CallGraph

inductive Fault where
  | duplicateFunction (name : String)
  | unknownPackage (function package : String)
  deriving DecidableEq, Repr

def Fault.message : Fault → String
  | .duplicateFunction name => "duplicate function " ++ name
  | .unknownPackage function package =>
    "function " ++ function ++ " declared in unknown package " ++ package

def empty : CallGraph := ⟨[], [], []⟩

def package? (g : CallGraph) (path : String) : Option Package :=
  g.packages.find? (·.path = path)

def find? (g : CallGraph) (name : String) : Option Nat :=
  g.functions.findIdx? (·.name = name)

def nameOf (g : CallGraph) (id : Nat) : String :=
  (g.functions[id]?.map (·.name)).getD ""

def insertPackage (p : Package) : List Package → List Package
  | [] => [p]
  | q :: rest =>
    if p.path < q.path then p :: q :: rest
    else if p.path = q.path then p :: rest
    else q :: insertPackage p rest

def addPackage (g : CallGraph) (p : Package) : CallGraph :=
  { g with packages := insertPackage p g.packages }

def addFunction (g : CallGraph) (f : Function) : Except Fault (CallGraph × Nat) :=
  if (g.find? f.name).isSome then .error (.duplicateFunction f.name)
  else if (g.package? f.package).isNone then .error (.unknownPackage f.name f.package)
  else .ok ({ g with functions := g.functions ++ [f] }, g.functions.length)

/-- Counts a call on the edge of its pair, which comes last if it is new. -/
def recordCall (caller callee : Nat) (dynamic : Bool) : List Edge → List Edge
  | [] => [Edge.record ⟨caller, callee, 0, 0⟩ dynamic]
  | e :: rest =>
    if e.joins caller callee then e.record dynamic :: rest
    else e :: recordCall caller callee dynamic rest

def addCall (g : CallGraph) (caller callee : Nat) (dynamic : Bool) : CallGraph × Nat :=
  ({ g with edges := recordCall caller callee dynamic g.edges },
    g.edges.findIdx (·.joins caller callee))

def positions (g : CallGraph) (p : Function → Bool) : List Nat :=
  (List.range g.functions.length).filter fun id => g.functions[id]?.any p

def inPackage (g : CallGraph) (path : String) : List Nat :=
  g.positions (·.package = path)

def summary (g : CallGraph) : String :=
  "CallGraph \x7b package_count: " ++ toString g.packages.length ++
    ", node_count: " ++ toString g.functions.length ++
    ", edge_count: " ++ toString g.edges.length ++ " \x7d"

end CallGraph

def insertPosition (id : Nat) : List Nat → List Nat
  | [] => [id]
  | other :: rest =>
    if id < other then id :: other :: rest
    else if id = other then other :: rest
    else other :: insertPosition id rest

def positionSet (ids : List Nat) : List Nat :=
  ids.foldr insertPosition []

theorem mem_insertPosition {i j : Nat} {ids : List Nat} :
    j ∈ insertPosition i ids ↔ j = i ∨ j ∈ ids := by
  induction ids with
  | nil => simp [insertPosition]
  | cons k rest ih =>
    simp only [insertPosition]
    split
    · simp
    · split
      · rename_i same
        simp [same]
      · rw [List.mem_cons, ih, List.mem_cons]
        exact or_left_comm

theorem mem_positionSet {j : Nat} {ids : List Nat} : j ∈ positionSet ids ↔ j ∈ ids := by
  induction ids with
  | nil => simp [positionSet]
  | cons i rest ih =>
    rw [positionSet, List.foldr_cons, mem_insertPosition, ← positionSet, ih, List.mem_cons]

/-- A search under way: the functions that are seen, and the ones in line, each with its distance
from the roots. -/
structure Search where
  seen : List Nat
  queue : List (Nat × Nat)
  deriving DecidableEq, Repr

def Search.visit (depth : Nat) (s : Search) (id : Nat) : Search :=
  if s.seen.contains id then s else ⟨insertPosition id s.seen, s.queue ++ [(id, depth)]⟩

namespace CallGraph

def callees (g : CallGraph) (id : Nat) : List Nat :=
  positionSet ((g.edges.filter (·.caller = id)).map (·.callee))

/-- Visits what a function calls, unless it is as far away as the search may go. -/
def explore (g : CallGraph) (maxDepth : Option Nat) (current depth : Nat) (s : Search) : Search :=
  if maxDepth.any (· ≤ depth) then s
  else (g.callees current).foldl (Search.visit (depth + 1)) s

/-- How much a search may still have to do: the calls that lead to functions not yet seen, and the
line. -/
def ahead (g : CallGraph) (s : Search) : Nat :=
  (g.edges.filter fun e => !s.seen.contains e.callee).length + s.queue.length

variable {g : CallGraph}

theorem mem_callees {i j : Nat} :
    j ∈ g.callees i ↔ ∃ e ∈ g.edges, e.caller = i ∧ e.callee = j := by
  simp only [callees, mem_positionSet, List.mem_map, List.mem_filter, decide_eq_true_eq, and_assoc]

theorem ahead_visit {e : Edge} (there : e ∈ g.edges) (depth : Nat) (s : Search) :
    g.ahead (s.visit depth e.callee) ≤ g.ahead s := by
  unfold Search.visit
  split
  · exact Nat.le_refl _
  · rename_i fresh
    have unseen (d : Edge) : (!(insertPosition e.callee s.seen).contains d.callee) =
        (!(d.callee == e.callee) && !s.seen.contains d.callee) := by
      rw [Bool.eq_iff_iff]
      simp [mem_insertPosition]
    have fewer :
        (g.edges.filter fun d => !(d.callee == e.callee) && !s.seen.contains d.callee).length <
          (g.edges.filter fun d => !s.seen.contains d.callee).length := by
      rw [← List.filter_filter]
      refine List.length_filter_lt_length_iff_exists.mpr ⟨e, ?_, by simp⟩
      simpa [there] using fresh
    simp only [ahead, unseen, List.length_append, List.length_singleton]
    omega

/-- What is put in line was not seen before, so there is no more to do than there was. -/
theorem ahead_explore (maxDepth : Option Nat) (current depth : Nat) (s : Search) :
    g.ahead (g.explore maxDepth current depth s) ≤ g.ahead s := by
  have called : ∀ id ∈ g.callees current, ∃ e ∈ g.edges, e.callee = id := by
    intro id within
    obtain ⟨e, there, -, callee⟩ := mem_callees.mp within
    exact ⟨e, there, callee⟩
  unfold explore
  split
  · exact Nat.le_refl _
  · generalize g.callees current = ids at called
    induction ids generalizing s with
    | nil => exact Nat.le_refl _
    | cons id rest ih =>
      obtain ⟨⟨e, there, rfl⟩, others⟩ := List.forall_mem_cons.mp called
      exact Nat.le_trans (ih _ others) (ahead_visit there _ s)

def search (g : CallGraph) (maxDepth : Option Nat) : Search → List Nat
  | ⟨seen, []⟩ => seen
  | ⟨seen, (current, depth) :: rest⟩ =>
    g.search maxDepth (g.explore maxDepth current depth ⟨seen, rest⟩)
termination_by s => g.ahead s
decreasing_by
  refine Nat.lt_of_le_of_lt (ahead_explore maxDepth current depth ⟨seen, rest⟩) ?_
  simp [ahead]

def reachable (g : CallGraph) (roots : List Nat) (maxDepth : Option Nat) : List Nat :=
  let start := positionSet roots
  g.search maxDepth ⟨start, start.map (·, 0)⟩

end CallGraph
end CallChart
