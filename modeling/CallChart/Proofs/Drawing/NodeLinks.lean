import CallChart.Options
import CallChart.Proofs.Drawing.Links
import CallChart.Proofs.Drawing.Regrouped

namespace CallChart

open Dot

namespace CallGraph

/-- Graphs that are put together from packages, functions and calls. -/
inductive Assembled : CallGraph → Prop where
  | empty : Assembled .empty
  | package {g : CallGraph} (p : Package) : Assembled g → Assembled (g.addPackage p)
  | function {g g' : CallGraph} {f : Function} {id : Nat} :
    Assembled g → g.addFunction f = .ok (g', id) → Assembled g'
  | call {g : CallGraph} (caller callee : Nat) (dynamic : Bool) :
    Assembled g → Assembled (g.addCall caller callee dynamic).1

theorem addFunction_eq_ok {g g' : CallGraph} {f : Function} {id : Nat}
    (added : g.addFunction f = .ok (g', id)) :
    f.name ∉ g.functions.map (·.name) ∧ g' = { g with functions := g.functions ++ [f] } := by
  unfold addFunction at added
  split at added
  · cases added
  · rename_i fresh
    split at added
    · cases added
    · obtain ⟨rfl, -⟩ := Prod.mk.inj (Except.ok.inj added)
      exact ⟨mt find?_isSome_iff.mpr fresh, rfl⟩

namespace Assembled

theorem names {g : CallGraph} (made : g.Assembled) : (g.functions.map (·.name)).Nodup := by
  induction made with
  | empty => exact List.nodup_nil
  | package p made ih => exact ih
  | function made added ih =>
    obtain ⟨fresh, rfl⟩ := addFunction_eq_ok added
    rw [List.map_append]
    exact ih.append (List.nodup_singleton _) (by simpa using fresh)
  | call caller callee dynamic made ih => exact ih

theorem apart {g : CallGraph} (made : g.Assembled) : g.NamesApart :=
  namesApart_of_nodup made.names

theorem addPackages {g : CallGraph} (made : g.Assembled) (packages : List Package) :
    (packages.foldl addPackage g).Assembled := by
  induction packages generalizing g with
  | nil => exact made
  | cons p rest ih => exact ih (made.package p)

theorem addFunctions {g g' : CallGraph} (made : g.Assembled) {functions : List Export.Function}
    (added : Export.addFunctions g functions = .ok g') : g'.Assembled := by
  induction functions generalizing g with
  | nil =>
    obtain rfl := Except.ok.inj added
    exact made
  | cons f rest ih =>
    rw [Export.addFunctions] at added
    cases first : g.addFunction f.resolved with
    | error fault => simp [first] at added
    | ok next =>
      rw [first] at added
      exact ih (made.function first) added

theorem addCalls {g g' : CallGraph} (made : g.Assembled) {calls : List Export.Call}
    (added : Export.addCalls g calls = .ok g') : g'.Assembled := by
  induction calls generalizing g with
  | nil =>
    obtain rfl := Except.ok.inj added
    exact made
  | cons call rest ih =>
    rw [Export.addCalls] at added
    cases caller : g.find? call.caller with
    | none => simp [caller] at added
    | some i =>
      cases callee : g.find? call.callee with
      | none => simp [caller, callee] at added
      | some j =>
        simp only [caller, callee] at added
        exact ih (made.call i j call.dynamic) added

end Assembled

theorem assembled_of_graph {g : CallGraph} {x : Export} {entry : String}
    (built : x.graph entry = .ok g) :
    g.Assembled := by
  have packages := Assembled.empty.addPackages (x.packages.map (Export.Package.resolved entry))
  rw [Export.graph] at built
  cases functions : Export.addFunctions
      ((x.packages.map (Export.Package.resolved entry)).foldl addPackage .empty) x.functions with
  | error fault => simp [functions, bind, Except.bind] at built
  | ok h =>
    rw [functions] at built
    exact (packages.addFunctions functions).addCalls built

theorem resolveFocus_function {g : CallGraph} (apart : g.NamesApart) {id : Nat} {f : Function}
    (there : g.functions[id]? = some f) (filled : f.name ≠ "")
    (trimmed : Text.trim f.name = f.name) :
    g.resolveFocus f.name = .ok [id] := by
  have found : g.find? f.name = some id := (find?_eq_some_iff apart).mpr ⟨f, there, rfl⟩
  simp only [resolveFocus, trimmed, if_neg filled, found]

end CallGraph

theorem Options.applyOverrides_focus {o : Options} (checked : o.check = .ok ()) {name : String}
    (trimmed : Text.trim name = name) :
    o.applyOverrides [("focus", name)] = .ok ({ o with focus := name }, 1) := by
  have same : ({ o with focus := name } : Options).check = .ok () := by
    simpa only [check] using checked
  simp only [applyOverrides, change, override?, trimmed]
  simp only [bind, Except.bind, same]
  rfl

def readLink? (line : List Char) : Option String := do
  let (_, written) ← readNode? line
  let attributes ← readAttributes? written
  let link ← attributes.lookup "URL".toList
  pure (String.ofList link)

namespace Clustering

theorem lookup_nodeAttributes (c : Clustering) (id : Nat) (f : Function) :
    ((c.nodeAttributes id f).map readBack).lookup "URL".toList =
      some (focusLink f.name).toList := by
  rw [← withoutReturns_focusLink]
  simp [nodeAttributes, readBack, List.lookup_cons]

theorem readLink?_node (c : Clustering) (level id : Nat) (around : List Frame) (f : Function) :
    readLink? (indentation level ++ NodePart.chars ⟨around, f.name, c.nodeAttributes id f⟩) =
      some (focusLink f.name) := by
  have filled : c.nodeAttributes id f ≠ [] := List.cons_ne_nil _ _
  have read := readAttributes?_joined filled (c.keys_nodeAttributes id f)
  simp only [readLink?, readNode?_chars, Option.bind_eq_bind, Option.bind_some, read,
    c.lookup_nodeAttributes, Option.pure_def, String.ofList_toList]

end Clustering

/-- A link that is followed to a request for a function as the focus; applied to valid options, it
changes nothing else, and the focus is found to be this function alone. -/
structure Focusing (g : CallGraph) (link name : String) (id : Nat) : Prop where
  request : ServiceRequest.ofTarget .get link = ⟨.get, "/render", [("focus", name)]⟩
  applied {o : Options} : o.check = .ok () →
    o.applyOverrides [("focus", name)] = .ok ({ o with focus := name }, 1)
  resolved : g.resolveFocus name = .ok [id]

/-- The line of a function's node. Its link makes the function the focus if its name can be one. -/
def IsNodeLine (g : CallGraph) (line : List Char) (id : Nat) : Prop :=
  ∃ f link, g.functions[id]? = some f ∧ readLink? line = some link ∧
    (readNode? line).map (·.1) = some (withoutReturns f.name) ∧
    (f.name ≠ "" → Text.trim f.name = f.name → Focusing g link f.name id)

namespace CallGraph

theorem isNodeLine {g : CallGraph} (apart : g.NamesApart) {id : Nat} {f : Function}
    (there : g.functions[id]? = some f) (c : Clustering) (level : Nat) (around : List Frame) :
    IsNodeLine g (indentation level ++ NodePart.chars ⟨around, f.name, c.nodeAttributes id f⟩) id := by
  refine ⟨f, _, there, c.readLink?_node level id around f, ?_, fun filled trimmed => ?_⟩
  · rw [readNode?_chars, Option.map_some]
  · exact ⟨ofTarget_focusLink f.name, (Options.applyOverrides_focus · trimmed),
      resolveFocus_function apart there filled trimmed⟩

theorem nodeLines_selected {g : CallGraph} {o : Options} {s : Selection}
    (selected : g.select o.normalized = .ok s) :
    let c := s.clustered o.group
    ∃ ids, ids.Perm s.nodes ∧
      List.Forall₂ (fun line id => ∃ f level around, g.functions[id]? = some f ∧
        line = indentation level ++ NodePart.chars ⟨around, f.name, c.nodeAttributes id f⟩)
      (nodeLines (textLines (c.document o.style).text)) ids := by
  intro c
  have within := within_of_select selected
  obtain rfl := within.graph
  obtain ⟨ids, perm, nodes⟩ := Clustering.nodes_selected within.once within.inside o.group o.style
  refine ⟨ids, perm, ?_⟩
  rw [Clustering.nodeLines_document, List.forall₂_map_left_iff]
  refine nodes.imp fun n id drawn => ?_
  obtain ⟨f, there, rfl⟩ := drawn
  exact ⟨f, _, _, there, rfl⟩

theorem describe_nodeLinks {g : CallGraph} {o : Options} {text : String} (made : g.Assembled)
    (described : g.describe o = .ok text) :
    ∃ s ids, g.select o.normalized = .ok s ∧ ids.Perm s.nodes ∧
      List.Forall₂ (IsNodeLine g) (nodeLines (textLines text)) ids := by
  obtain ⟨-, s, selected, rfl⟩ := describe_eq_ok_iff.mp described
  obtain ⟨ids, perm, lines⟩ := nodeLines_selected selected
  refine ⟨s, ids, selected, perm, lines.imp fun line id => ?_⟩
  rintro ⟨f, level, around, there, rfl⟩
  exact isNodeLine made.apart there _ level around

def sharedName : String := "a+b=%41&\"\\ é"

def shared : CallGraph where
  packages := [⟨sharedName, sharedName, false⟩]
  functions := [⟨sharedName, "f", sharedName, none, false, false, false⟩,
    ⟨"g", "g", sharedName, none, false, false, false⟩]
  edges := [⟨0, 1, 1, 0⟩]

theorem shared_assembled : shared.Assembled := by
  have packages : Assembled ⟨shared.packages, [], []⟩ := .package _ .empty
  have first : addFunction ⟨shared.packages, [], []⟩ shared.functions[0] =
      .ok (⟨shared.packages, [shared.functions[0]], []⟩, 0) := by decide +kernel
  have second : addFunction ⟨shared.packages, [shared.functions[0]], []⟩ shared.functions[1] =
      .ok (⟨shared.packages, shared.functions, []⟩, 1) := by decide +kernel
  exact .call 0 1 false (.function (.function packages first) second)

theorem shared_nodeLinks : ∃ text s ids, shared.Assembled ∧
    shared.describe Analysis.everyFunction = .ok text ∧
    shared.select Analysis.everyFunction.normalized = .ok s ∧ s.nodes = [0, 1] ∧
    ids.Perm s.nodes ∧ List.Forall₂ (IsNodeLine shared) (nodeLines (textLines text)) ids := by
  have selected : shared.select Analysis.everyFunction.normalized = .ok ⟨shared, [0, 1], [0], []⟩ := by
    decide +kernel
  have described := describe_eq_ok_iff.mpr ⟨Analysis.check_everyFunction, _, selected, rfl⟩
  obtain ⟨s, ids, selected', perm, lines⟩ := describe_nodeLinks shared_assembled described
  obtain rfl := Except.ok.inj (selected.symm.trans selected')
  exact ⟨_, _, ids, shared_assembled, described, selected, rfl, perm, lines⟩

end CallGraph
end CallChart
