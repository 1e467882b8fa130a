import CallChart.Proofs.Graph.Edges
import CallChart.Proofs.Graph.Reach
import CallChart.Selection
import Mathlib.Logic.Equiv.Basic

namespace CallChart

def Edge.moved (move : Equiv.Perm Nat) (e : Edge) : Edge :=
  { e with caller := move e.caller, callee := move e.callee }

/-- One set has just the moved positions of the other one. -/
def Alike (move : Equiv.Perm Nat) (ids ids' : List Nat) : Prop :=
  ∀ i, move i ∈ ids' ↔ i ∈ ids

namespace Alike

theorem contains {move : Equiv.Perm Nat} {ids ids' : List Nat} (alike : Alike move ids ids')
    (i : Nat) :
    ids'.contains (move i) = ids.contains i := by
  rw [Bool.eq_iff_iff, List.contains_iff_mem, List.contains_iff_mem]
  exact alike i

theorem perm {move : Equiv.Perm Nat} {ids ids' : List Nat} (alike : Alike move ids ids')
    (once : ids.Nodup) (once' : ids'.Nodup) :
    ids'.Perm (ids.map move) := by
  rw [List.perm_ext_iff_of_nodup once' (once.map move.injective)]
  intro j
  obtain ⟨i, rfl⟩ := move.surjective j
  rw [alike i, List.mem_map_of_injective move.injective]

end Alike

namespace CallGraph

def NamesApart (g : CallGraph) : Prop :=
  ∀ ⦃i j : Nat⦄ ⦃f d : Function⦄,
    g.functions[i]? = some f → g.functions[j]? = some d → f.name = d.name → i = j

theorem namesApart_of_nodup {g : CallGraph} (once : (g.functions.map (·.name)).Nodup) :
    g.NamesApart := by
  intro i j f d first second same
  obtain ⟨small, rfl⟩ := List.getElem?_eq_some_iff.mp first
  obtain ⟨small', rfl⟩ := List.getElem?_eq_some_iff.mp second
  have inside : i < (g.functions.map (·.name)).length := by simpa using small
  have inside' : j < (g.functions.map (·.name)).length := by simpa using small'
  have equal : (g.functions.map (·.name))[i] = (g.functions.map (·.name))[j] := by simpa using same
  exact once.getElem_inj_iff.mp equal

theorem find?_eq_some_iff {g : CallGraph} {i : Nat} {name : String} (apart : g.NamesApart) :
    g.find? name = some i ↔ ∃ f, g.functions[i]? = some f ∧ f.name = name := by
  rw [find?, List.findIdx?_eq_some_iff_getElem]
  constructor
  · rintro ⟨small, named, -⟩
    exact ⟨_, List.getElem?_eq_getElem small, by simpa using named⟩
  · rintro ⟨f, there, rfl⟩
    obtain ⟨small, rfl⟩ := List.getElem?_eq_some_iff.mp there
    refine ⟨small, by simp, fun j earlier named => ?_⟩
    have same := apart (List.getElem?_eq_getElem (Nat.lt_trans earlier small)) there
      (by simpa using named)
    omega

theorem mem_positions {g : CallGraph} {i : Nat} {p : Function → Bool} :
    i ∈ g.positions p ↔ ∃ f, g.functions[i]? = some f ∧ p f = true := by
  simp only [positions, List.mem_filter, List.mem_range, Option.any_eq_true]
  refine and_iff_right_of_imp ?_
  rintro ⟨f, there, -⟩
  exact (List.getElem?_eq_some_iff.mp there).1

/-- The second graph is the first one with its functions at other positions and its edges in some
other order. In both, functions are known by their names and edges by their ends. -/
structure Renumbered (move : Equiv.Perm Nat) (g g' : CallGraph) : Prop where
  packages : g'.packages = g.packages
  size : g'.functions.length = g.functions.length
  function (i : Nat) : g'.functions[move i]? = g.functions[i]?
  apart : g.NamesApart
  edges : g'.edges.Perm (g.edges.map (Edge.moved move))
  well : EdgesWell g.functions.length g.edges

namespace Renumbered

theorem apart' {move : Equiv.Perm Nat} {g g' : CallGraph} (same : Renumbered move g g') :
    g'.NamesApart := by
  intro i j f d first second named
  obtain ⟨i, rfl⟩ := move.surjective i
  obtain ⟨j, rfl⟩ := move.surjective j
  rw [same.function] at first second
  rw [same.apart first second named]

theorem nameOf {move : Equiv.Perm Nat} {g g' : CallGraph} (same : Renumbered move g g') (i : Nat) :
    g'.nameOf (move i) = g.nameOf i := by
  rw [CallGraph.nameOf, CallGraph.nameOf, same.function]

theorem package? {move : Equiv.Perm Nat} {g g' : CallGraph} (same : Renumbered move g g')
    (path : String) : g'.package? path = g.package? path := by
  rw [CallGraph.package?, CallGraph.package?, same.packages]

theorem isStandard {move : Equiv.Perm Nat} {g g' : CallGraph} (same : Renumbered move g g')
    (path : String) : g'.isStandard path = g.isStandard path := by
  rw [CallGraph.isStandard, CallGraph.isStandard, same.package?]

theorem find? {move : Equiv.Perm Nat} {g g' : CallGraph} (same : Renumbered move g g')
    (name : String) : g'.find? name = (g.find? name).map move := by
  refine Option.ext fun j => ?_
  obtain ⟨i, rfl⟩ := move.surjective j
  rw [find?_eq_some_iff same.apart', same.function, ← find?_eq_some_iff same.apart]
  simp

theorem positions {move : Equiv.Perm Nat} {g g' : CallGraph} (same : Renumbered move g g')
    (p : Function → Bool) : Alike move (g.positions p) (g'.positions p) := by
  intro i
  rw [mem_positions, mem_positions, same.function]

theorem mem_edges {move : Equiv.Perm Nat} {g g' : CallGraph} (same : Renumbered move g g')
    {e : Edge} : e ∈ g'.edges ↔ ∃ d ∈ g.edges, d.moved move = e := by
  rw [same.edges.mem_iff, List.mem_map]

theorem resolveFocus {move : Equiv.Perm Nat} {g g' : CallGraph} (same : Renumbered move g g')
    (focus : String) :
    (∃ failure, g.resolveFocus focus = .error failure ∧ g'.resolveFocus focus = .error failure) ∨
    ∃ ids ids', g.resolveFocus focus = .ok ids ∧ g'.resolveFocus focus = .ok ids' ∧
      Alike move ids ids' := by
  simp only [CallGraph.resolveFocus, same.find?, same.package?, same.packages, inPackage]
  by_cases empty : Text.trim focus = ""
  · exact .inr ⟨[], [], by simp [empty], by simp [empty], fun i => by simp⟩
  simp only [empty, ↓reduceIte]
  cases g.find? (Text.trim focus) with
  | some i => exact .inr ⟨_, _, rfl, rfl, fun j => by simp⟩
  | none =>
    simp only [Option.map_none]
    split
    · exact .inr ⟨_, _, rfl, rfl, same.positions _⟩
    · split
      · exact .inl ⟨_, rfl, rfl⟩
      · exact .inr ⟨_, _, rfl, rfl, same.positions _⟩

theorem calls {move : Equiv.Perm Nat} {g g' : CallGraph} {i j : Nat} (same : Renumbered move g g') :
    g'.Calls (move i) (move j) ↔ g.Calls i j := by
  constructor
  · rintro ⟨_, within, caller, callee⟩
    obtain ⟨e, there, rfl⟩ := same.mem_edges.mp within
    exact ⟨e, there, move.injective caller, move.injective callee⟩
  · rintro ⟨e, there, rfl, rfl⟩
    exact ⟨e.moved move, same.mem_edges.mpr ⟨e, there, rfl⟩, rfl, rfl⟩

theorem within {move : Equiv.Perm Nat} {g g' : CallGraph} {ids ids' : List Nat} {j : Nat}
    (same : Renumbered move g g') (alike : Alike move ids ids') (n : Nat) :
    g'.Within ids' n (move j) ↔ g.Within ids n j := by
  induction n generalizing j with
  | zero => rw [within_zero, within_zero, alike j]
  | succ n ih =>
    rw [within_succ, within_succ, ih]
    refine or_congr_right ⟨?_, ?_⟩
    · rintro ⟨k, near, called⟩
      obtain ⟨i, rfl⟩ := move.surjective k
      exact ⟨i, ih.mp near, same.calls.mp called⟩
    · rintro ⟨i, near, called⟩
      exact ⟨move i, ih.mpr near, same.calls.mpr called⟩

theorem reachable {move : Equiv.Perm Nat} {g g' : CallGraph} {ids ids' : List Nat}
    (same : Renumbered move g g') (alike : Alike move ids ids') (depth : Option Nat) :
    Alike move (g.reachable ids depth) (g'.reachable ids' depth) := by
  intro i
  rw [mem_reachable_iff_within, mem_reachable_iff_within]
  exact exists_congr fun n => and_congr_right fun _ => same.within alike n

theorem keeps {move : Equiv.Perm Nat} {g g' : CallGraph} {ids ids' : List Nat}
    (same : Renumbered move g g') (o : Options) (alike : Alike move ids ids') (i : Nat)
    (f : Function) :
    g'.keeps o ids' (move i) f = g.keeps o ids i f := by
  simp only [CallGraph.keeps, same.isStandard, alike.contains]

end Renumbered
end CallGraph

namespace Selection

def keptEdges (s : Selection) : List Edge :=
  s.edges.filterMap fun id => s.graph.edges[id]?

/-- The second selection is the first one in a renumbered graph. -/
structure Renumbered (move : Equiv.Perm Nat) (s s' : Selection) : Prop where
  graph : s.graph.Renumbered move s'.graph
  nodes : s'.nodes.Perm (s.nodes.map move)
  within {i : Nat} : i ∈ s.nodes → i < s.graph.functions.length
  edges : s'.keptEdges.Perm (s.keptEdges.map (Edge.moved move))
  drawn {e : Edge} : e ∈ s.keptEdges → e ∈ s.graph.edges
  focus : Alike move s.focus s'.focus

end Selection

theorem picked_positions {α : Type} (l : List α) (p : α → Bool) :
    ((List.range l.length).filter fun i => l[i]?.any p).filterMap (fun i => l[i]?) =
      l.filter p := by
  induction l with
  | nil => rfl
  | cons a rest ih =>
    rw [List.length_cons, List.range_succ_eq_map, List.filter_cons, List.filter_cons,
      List.filter_map]
    have later : ((fun i => ((a :: rest)[i]?).any p) ∘ Nat.succ) = fun i => rest[i]?.any p := by
      funext i
      simp
    rw [later]
    have picked : List.filterMap (fun i => (a :: rest)[i]?)
        (((List.range rest.length).filter fun i => rest[i]?.any p).map Nat.succ) =
        rest.filter p := by
      rw [List.filterMap_map, ← ih]
      exact List.filterMap_congr fun i _ => by simp
    by_cases chosen : p a = true
    · simp [chosen, picked]
    · simp [chosen, picked]

namespace CallGraph

def near (g : CallGraph) (o : Options) (focus : List Nat) : List Nat :=
  if o.nointer then g.reachable focus o.retention.maxDepth else []

def keptNodes (g : CallGraph) (o : Options) (retained : List Nat) : List Nat :=
  (List.range g.functions.length).filter fun id => g.functions[id]?.any (g.keeps o retained id)

def joinsKept (nodes : List Nat) (e : Edge) : Bool :=
  nodes.contains e.caller && nodes.contains e.callee

def selection (g : CallGraph) (o : Options) (focus : List Nat) : Selection :=
  let nodes := g.keptNodes o (g.near o focus)
  ⟨g, nodes, (List.range g.edges.length).filter fun id => g.edges[id]?.any (joinsKept nodes), focus⟩

theorem select_eq (g : CallGraph) (o : Options) :
    g.select o = (g.resolveFocus o.focus).map (g.selection o) := by
  unfold select
  cases g.resolveFocus o.focus <;> rfl

theorem mem_keptNodes {g : CallGraph} {o : Options} {retained : List Nat} {i : Nat} :
    i ∈ g.keptNodes o retained ↔
    ∃ f, g.functions[i]? = some f ∧ g.keeps o retained i f = true := by
  simp only [keptNodes, List.mem_filter, List.mem_range, Option.any_eq_true]
  refine and_iff_right_of_imp ?_
  rintro ⟨f, there, -⟩
  exact (List.getElem?_eq_some_iff.mp there).1

theorem keptEdges_selection (g : CallGraph) (o : Options) (focus : List Nat) :
    (g.selection o focus).keptEdges =
      g.edges.filter (joinsKept (g.keptNodes o (g.near o focus))) :=
  picked_positions _ _

namespace Renumbered

theorem near {move : Equiv.Perm Nat} {g g' : CallGraph} {ids ids' : List Nat}
    (same : Renumbered move g g') (o : Options) (alike : Alike move ids ids') :
    Alike move (g.near o ids) (g'.near o ids') := by
  unfold CallGraph.near
  split
  · exact same.reachable alike _
  · exact fun i => by simp

theorem keptNodes {move : Equiv.Perm Nat} {g g' : CallGraph} {ids ids' : List Nat}
    (same : Renumbered move g g') (o : Options) (alike : Alike move ids ids') :
    Alike move (g.keptNodes o ids) (g'.keptNodes o ids') := by
  intro i
  rw [mem_keptNodes, mem_keptNodes, same.function]
  simp only [same.keeps o alike]

theorem selection {move : Equiv.Perm Nat} {g g' : CallGraph} {ids ids' : List Nat}
    (same : Renumbered move g g') (o : Options) (alike : Alike move ids ids') :
    (g.selection o ids).Renumbered move (g'.selection o ids') := by
  have nodes := same.keptNodes o (same.near o alike)
  constructor
  case graph => exact same
  case nodes => exact nodes.perm (List.nodup_range.filter _) (List.nodup_range.filter _)
  case within =>
    intro i kept
    obtain ⟨f, there, -⟩ := mem_keptNodes.mp kept
    exact (List.getElem?_eq_some_iff.mp there).1
  case edges =>
    rw [keptEdges_selection, keptEdges_selection]
    refine (same.edges.filter _).trans (List.Perm.of_eq ?_)
    rw [List.filter_map]
    congr 1
    refine List.filter_congr fun e _ => ?_
    simp only [Function.comp, joinsKept, Edge.moved, nodes.contains]
  case drawn =>
    intro e within
    rw [keptEdges_selection] at within
    exact List.mem_of_mem_filter within
  case focus => exact alike

theorem select {move : Equiv.Perm Nat} {g g' : CallGraph} (same : Renumbered move g g')
    (o : Options) :
    (∃ failure, g.select o = .error failure ∧ g'.select o = .error failure) ∨
    ∃ s s', g.select o = .ok s ∧ g'.select o = .ok s' ∧ s.Renumbered move s' := by
  simp only [select_eq]
  rcases same.resolveFocus o.focus with ⟨failure, lost, lost'⟩ | ⟨ids, ids', found, found', alike⟩
  · exact .inl ⟨failure, by rw [lost]; rfl, by rw [lost']; rfl⟩
  · exact .inr ⟨_, _, by rw [found]; rfl, by rw [found']; rfl, same.selection o alike⟩

end Renumbered
end CallGraph
end CallChart
