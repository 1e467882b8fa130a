import CallChart.Proofs.Graph.Built
import CallChart.Proofs.Graph.Drawing

namespace CallChart

theorem exists_move {α : Type} {l l' : List α} (perm : l.Perm l') :
    ∃ move : Equiv.Perm Nat, ∀ i, l'[move i]? = l[i]? := by
  induction perm with
  | nil => exact ⟨Equiv.refl _, fun _ => rfl⟩
  | cons a _ ih =>
    obtain ⟨move, moves⟩ := ih
    refine ⟨⟨Nat.rec 0 fun i _ => move i + 1, Nat.rec 0 fun i _ => move.symm i + 1, ?_, ?_⟩, ?_⟩
    · rintro (_ | i) <;> simp
    · rintro (_ | i) <;> simp
    · rintro (_ | i)
      · rfl
      · simpa using moves i
  | swap a b l =>
    refine ⟨Equiv.swap 0 1, ?_⟩
    rintro (_ | _ | i)
    · rfl
    · rfl
    · rw [Equiv.swap_apply_of_ne_of_ne (by omega) (by omega)]
      rfl
  | trans _ _ first second =>
    obtain ⟨move, moves⟩ := first
    obtain ⟨move', moves'⟩ := second
    exact ⟨move.trans move', fun i => (moves' (move i)).trans (moves i)⟩

namespace CallGraph

def Site.moved (move : Equiv.Perm Nat) (s : Site) : Site :=
  { s with caller := move s.caller, callee := move s.callee }

theorem recordCall_moved (move : Equiv.Perm Nat) (caller callee : Nat) (dynamic : Bool)
    (edges : List Edge) :
    recordCall (move caller) (move callee) dynamic (edges.map (Edge.moved move)) =
      (recordCall caller callee dynamic edges).map (Edge.moved move) := by
  have recorded (e : Edge) : (e.moved move).record dynamic = (e.record dynamic).moved move := by
    cases dynamic <;> rfl
  have joined (e : Edge) : (e.moved move).joins (move caller) (move callee) =
      e.joins caller callee := by
    rw [Bool.eq_iff_iff]
    simp [Edge.joins, Edge.moved]
  induction edges with
  | nil => exact congrArg (fun e => [e]) (recorded ⟨caller, callee, 0, 0⟩)
  | cons e rest ih =>
    simp only [List.map_cons, recordCall, joined]
    split
    · rw [recorded, List.map_cons]
    · rw [ih, List.map_cons]

theorem recordAll_moved {move : Equiv.Perm Nat} (sites : List Site) (edges : List Edge) :
    recordAll (sites.map (Site.moved move)) (edges.map (Edge.moved move)) =
      (recordAll sites edges).map (Edge.moved move) := by
  induction sites generalizing edges with
  | nil => rfl
  | cons s rest ih =>
    have first := recordCall_moved move s.caller s.callee s.dynamic edges
    exact (congrArg (recordAll (rest.map (Site.moved move))) first).trans (ih _)

theorem Renumbered.site? {move : Equiv.Perm Nat} {g g' : CallGraph} (same : Renumbered move g g')
    (call : Export.Call) :
    g'.site? call = (g.site? call).map (Site.moved move) := by
  simp only [CallGraph.site?, same.find?]
  cases g.find? call.caller with
  | none => rfl
  | some i => cases g.find? call.callee <;> rfl

end CallGraph

namespace Export

open CallGraph

/-- One export has the lists of the other one in some other order, with paths and names that tell
packages and functions apart. -/
structure Reordered (x x' : Export) : Prop where
  packages : x.packages.Perm x'.packages
  functions : x.functions.Perm x'.functions
  calls : x.calls.Perm x'.calls
  paths : (x.packages.map (·.path)).Nodup
  names : (x.functions.map (·.name)).Nodup

namespace Reordered

theorem packages_declared {x x' : Export} (order : Reordered x x') (entry : String) :
    (x'.declared entry).packages = (x.declared entry).packages := by
  have paths : ((x.packages.map (Package.resolved entry)).map (·.path)).Nodup := by
    rw [List.map_map]
    exact order.paths
  have same := addPackages_perm (order.packages.map (Package.resolved entry)) paths .empty
  exact congrArg (·.packages) same.symm

theorem declared {x x' : Export} (order : Reordered x x') (entry : String) :
    ∃ move, Renumbered move (x.declared entry) (x'.declared entry) := by
  obtain ⟨move, moves⟩ := exists_move (order.functions.map Function.resolved)
  refine ⟨move, order.packages_declared entry, ?_, moves, namesApart_of_nodup ?_, .nil, .nil _⟩
  · simpa [Export.declared] using order.functions.length_eq.symm
  · rw [Export.declared, List.map_map]
    exact order.names

theorem fits {x x' : Export} (order : Reordered x x') (entry : String) :
    x'.Fits entry ↔ x.Fits entry := by
  obtain ⟨move, same⟩ := order.declared entry
  simp only [Fits, same.package?, same.site?, Option.isSome_map, order.functions.mem_iff,
    order.calls.mem_iff]

theorem built {x x' : Export} (order : Reordered x x') (entry : String) :
    ∃ move, Renumbered move (x.built entry) (x'.built entry) := by
  obtain ⟨move, same⟩ := order.declared entry
  have sites : (x'.calls.filterMap (x'.declared entry).site?).Perm
      ((x.calls.filterMap (x.declared entry).site?).map (Site.moved move)) := by
    rw [List.map_filterMap]
    refine (order.calls.symm.filterMap _).trans (List.Perm.of_eq ?_)
    exact List.filterMap_congr fun call _ => same.site? call
  have edges := (recordAll_perm sites (inside_sites x'.calls)).trans
    (List.Perm.of_eq (recordAll_moved (x.calls.filterMap (x.declared entry).site?) []))
  exact ⟨move, same.packages, same.size, same.function, same.apart, edges,
    (EdgesWell.nil _).recordAll (inside_sites x.calls)⟩

theorem graphFor {x x' : Export} (order : Reordered x x') (entry : String) (tests : Bool) :
    (∃ fault fault', x.graphFor entry tests = .error fault ∧
      x'.graphFor entry tests = .error fault') ∨
    ∃ move g g', x.graphFor entry tests = .ok g ∧ x'.graphFor entry tests = .ok g' ∧
      Renumbered move g g' := by
  have names' := (order.functions.map (·.name)).nodup_iff.mp order.names
  unfold Export.graphFor
  by_cases fits : x.Fits entry
  · obtain ⟨move, same⟩ := order.built entry
    have graph := (graph_eq_ok_iff order.names).mpr ⟨fits, rfl⟩
    have graph' := (graph_eq_ok_iff names').mpr ⟨(order.fits entry).mpr fits, rfl⟩
    rw [graph, graph']
    simp only [bind, Except.bind, same.package?]
    cases (x.built entry).package? entry with
    | none => exact .inl ⟨_, _, rfl, rfl⟩
    | some p =>
      simp only
      split
      · exact .inl ⟨_, _, rfl, rfl⟩
      · exact .inr ⟨move, _, _, rfl, rfl, same⟩
  · have unfit {y : Export} (names : (y.functions.map (·.name)).Nodup) (misfit : ¬ y.Fits entry) :
        ∃ fault, y.graph entry = .error fault := by
      cases graph : y.graph entry with
      | error fault => exact ⟨fault, rfl⟩
      | ok g => exact (misfit ((graph_eq_ok_iff names).mp graph).1).elim
    obtain ⟨fault, lost⟩ := unfit order.names fits
    obtain ⟨fault', lost'⟩ := unfit names' (mt (order.fits entry).mp fits)
    rw [lost, lost']
    exact .inl ⟨_, _, rfl, rfl⟩

end Reordered

end Export

namespace Analysis

/-- The order of an export does not matter: with its packages, its functions and its calls in any
other order it resolves if and only if it did before, and then every description of its graph is the
same, text or failure. -/
theorem resolve_reordered {x x' : Export} (packages : x.packages.Perm x'.packages)
    (functions : x.functions.Perm x'.functions) (calls : x.calls.Perm x'.calls)
    (paths : (x.packages.map (·.path)).Nodup) (names : (x.functions.map (·.name)).Nodup)
    (bytes bytes' : List UInt8) (entry : String) (tests : Bool) :
    ((∃ a, resolve x bytes entry tests = .ok a) ↔ ∃ a', resolve x' bytes' entry tests = .ok a') ∧
    ∀ a a', resolve x bytes entry tests = .ok a → resolve x' bytes' entry tests = .ok a' →
      ∀ o, a'.graph.describe o = a.graph.describe o := by
  have order : Export.Reordered x x' := ⟨packages, functions, calls, paths, names⟩
  unfold resolve
  rcases order.graphFor entry tests with ⟨fault, fault', lost, lost'⟩ |
    ⟨move, g, g', graph, graph', same⟩
  · rw [lost, lost']
    exact ⟨⟨nofun, nofun⟩, nofun⟩
  · rw [graph, graph']
    refine ⟨⟨fun _ => ⟨_, rfl⟩, fun _ => ⟨_, rfl⟩⟩, ?_⟩
    rintro _ _ ⟨⟩ ⟨⟩ o
    exact same.describe o

def backAndForth : Export where
  packages := [⟨"app", "main", none⟩, ⟨"lib", "lib", some false⟩]
  functions := [⟨"app.main", "app", none, none, none, false, false⟩,
    ⟨"app.Retry", "app", none, none, none, false, false⟩,
    ⟨"lib.Do", "lib", none, some ⟨"Job", true⟩, none, false, false⟩]
  calls := [⟨"app.main", "lib.Do", false⟩, ⟨"lib.Do", "app.Retry", true⟩,
    ⟨"app.main", "lib.Do", true⟩]

def forthAndBack : Export where
  packages := backAndForth.packages.reverse
  functions := backAndForth.functions.reverse
  calls := backAndForth.calls.reverse

/-- Two graphs that differ and have one drawing. -/
theorem forthAndBack_describe : ∃ a a',
    resolve backAndForth [] "app" false = .ok a ∧ resolve forthAndBack [1] "app" false = .ok a' ∧
    a.graph ≠ a'.graph ∧ ∀ o, a'.graph.describe o = a.graph.describe o := by
  have first : backAndForth.graphFor "app" false = .ok (backAndForth.built "app") := by
    decide +kernel
  have second : forthAndBack.graphFor "app" false = .ok (forthAndBack.built "app") := by
    decide +kernel
  have apart : backAndForth.built "app" ≠ forthAndBack.built "app" := by decide +kernel
  have packages : backAndForth.packages.Perm forthAndBack.packages := (List.reverse_perm _).symm
  have functions : backAndForth.functions.Perm forthAndBack.functions := (List.reverse_perm _).symm
  have calls : backAndForth.calls.Perm forthAndBack.calls := (List.reverse_perm _).symm
  have same := resolve_reordered packages functions calls (by decide) (by decide) [] [1] "app" false
  obtain ⟨a, resolved, graph⟩ := resolve_of_graphFor first []
  obtain ⟨a', resolved', graph'⟩ := resolve_of_graphFor second [1]
  refine ⟨a, a', resolved, resolved', ?_, same.2 a a' resolved resolved'⟩
  rw [graph, graph']
  exact apart

end Analysis
end CallChart
