import CallChart.Proofs.Drawing.Canonical
import CallChart.Proofs.Drawing.NodeLinks
import CallChart.Proofs.Options.Overrides

namespace CallChart

open Dot

theorem Options.check_normalized (o : Options) : o.normalized.check = o.check := rfl

namespace CallGraph

/-- Whether a function is in the focus: names of functions come first, then paths of packages, then
their names. -/
def InFocus (g : CallGraph) (focus : String) (f : Function) : Prop :=
  focus ≠ "" ∧
    (f.name = focus ∨
      (∀ d ∈ g.functions, d.name ≠ focus) ∧
        ((∃ p ∈ g.packages, p.path = focus) ∧ f.package = focus ∨
          (∀ p ∈ g.packages, p.path ≠ focus) ∧
            ∃ p ∈ g.packages, p.name = focus ∧ p.path = f.package))

instance (g : CallGraph) (focus : String) (f : Function) : Decidable (g.InFocus focus f) :=
  inferInstanceAs (Decidable (_ ∧ _))

theorem find?_eq_none_iff {g : CallGraph} {focus : String} :
    g.find? focus = none ↔ ∀ f ∈ g.functions, f.name ≠ focus := by
  simp [find?, List.findIdx?_eq_none_iff]

theorem package?_isSome_iff {g : CallGraph} {focus : String} :
    (g.package? focus).isSome ↔ ∃ p ∈ g.packages, p.path = focus := by
  simp [package?, List.find?_isSome]

theorem mem_inPackage {g : CallGraph} {f : Function} {focus : String} {id : Nat}
    (there : g.functions[id]? = some f) :
    id ∈ g.inPackage focus ↔ f.package = focus := by
  rw [inPackage, mem_positions]
  simp [there]

theorem mem_packagesNamed {g : CallGraph} {f : Function} {focus : String} :
    f.package ∈ (g.packages.filter (·.name = focus)).map (·.path) ↔
    ∃ p ∈ g.packages, p.name = focus ∧ p.path = f.package := by
  simp only [List.mem_map, List.mem_filter, decide_eq_true_eq, and_assoc]

theorem mem_resolveFocus {g : CallGraph} {f : Function} {focus : String} {ids : List Nat}
    (apart : g.NamesApart) (found : g.resolveFocus focus = .ok ids) {id : Nat}
    (there : g.functions[id]? = some f) : id ∈ ids ↔ g.InFocus (Text.trim focus) f := by
  unfold resolveFocus at found
  unfold InFocus
  simp only at found
  generalize Text.trim focus = name at found ⊢
  by_cases empty : name = ""
  · rw [if_pos empty] at found
    obtain rfl := Except.ok.inj found
    simp [empty]
  rw [if_neg empty] at found
  rw [and_iff_right empty]
  cases function : g.find? name with
  | some i =>
    rw [function] at found
    obtain rfl := Except.ok.inj found
    obtain ⟨d, there', named⟩ := (find?_eq_some_iff apart).mp function
    -- The name is taken by a function, so no package is asked for.
    have taken : ¬ ∀ d ∈ g.functions, d.name ≠ name :=
      fun free => free d (List.mem_of_getElem? there') named
    rw [List.mem_singleton, or_iff_left (fun other => taken other.1)]
    constructor
    · rintro rfl
      obtain rfl := Option.some.inj (there.symm.trans there')
      exact named
    · intro named'
      exact apart there there' (named'.trans named.symm)
  | none =>
    rw [function] at found
    have free := find?_eq_none_iff.mp function
    rw [or_iff_right (free f (List.mem_of_getElem? there)), and_iff_right free]
    by_cases package : (g.package? name).isSome
    · simp only [package, ↓reduceIte, Except.ok.injEq] at found
      have known := package?_isSome_iff.mp package
      have taken : ¬ ∀ p ∈ g.packages, p.path ≠ name := by simpa using known
      rw [← found, mem_inPackage there, or_iff_left (fun other => taken other.1),
        and_iff_right known]
    · simp only [package, Bool.false_eq_true, ↓reduceIte] at found
      have unknown := mt package?_isSome_iff.mpr package
      have elsewhere : ∀ p ∈ g.packages, p.path ≠ name := by simpa using unknown
      rw [or_iff_right (fun path => unknown path.1), and_iff_right elsewhere, ← mem_packagesNamed]
      split at found
      · cases found
      · rw [← Except.ok.inj found, mem_positions]
        simp only [there, Option.some.injEq, exists_eq_left', List.contains_iff_mem]

theorem resolveFocus_eq_error_iff {g : CallGraph} {focus : String} {e : Failure} :
    g.resolveFocus focus = .error e ↔
    e = .focusNotFound (Text.trim focus) ∧ Text.trim focus ≠ "" ∧ ¬ g.Knows (Text.trim focus) := by
  rcases g.resolveFocus_cases focus with ⟨known, ids, found⟩ | ⟨unknown, lost⟩
  · rw [found]
    simp only [reduceCtorEq, false_iff]
    rintro ⟨-, filled, missing⟩
    exact known.elim filled missing
  · rw [not_or] at unknown
    rw [lost, Except.error.injEq, eq_comm, and_iff_left unknown]

theorem describe_eq_error_iff {g : CallGraph} {o : Options} {e : Failure} :
    g.describe o = .error e ↔
    o.check = .error e ∨ o.check = .ok () ∧ g.resolveFocus o.focus = .error e := by
  have checked := o.check_normalized
  simp only [describe, drawing, select_eq, checked, resolveFocus_normalized, bind, Except.bind]
  cases o.check with
  | error e' => simp
  | ok _ => cases g.resolveFocus o.focus <;> simp [Except.map, pure, Except.pure]

end CallGraph

def readFill? (line : List Char) : Option String := do
  let (_, written) ← readNode? line
  let attributes ← readAttributes? written
  let fill ← attributes.lookup "fillcolor".toList
  pure (String.ofList fill)

namespace Clustering

theorem lookup_fill (c : Clustering) (id : Nat) (f : Function) :
    ((c.nodeAttributes id f).map readBack).lookup "fillcolor".toList =
      some (if id ∈ c.selection.focus then "lightblue" else
        if f.exported then "#adedad" else "moccasin").toList := by
  simp only [nodeAttributes, nodeFill, List.contains_iff_mem]
  split
  · simp [readBack, withoutReturns, List.lookup_cons]
  · split <;> simp [readBack, withoutReturns, List.lookup_cons]

theorem readFill?_node (c : Clustering) (level id : Nat) (around : List Frame) (f : Function) :
    readFill? (indentation level ++ NodePart.chars ⟨around, f.name, c.nodeAttributes id f⟩) =
      some "lightblue" ↔ id ∈ c.selection.focus := by
  have filled : c.nodeAttributes id f ≠ [] := List.cons_ne_nil _ _
  have read := readAttributes?_joined filled (c.keys_nodeAttributes id f)
  simp only [readFill?, readNode?_chars, Option.bind_eq_bind, Option.bind_some, read,
    c.lookup_fill, Option.pure_def, String.ofList_toList]
  by_cases within : id ∈ c.selection.focus
  · simp [within]
  · cases f.exported <;> simp [within]

end Clustering

/-- The line of a function's node, with the color of the focus just if the function is in it. -/
def IsPainted (g : CallGraph) (focus : String) (line : List Char) (id : Nat) : Prop :=
  ∃ f, g.functions[id]? = some f ∧ (readNode? line).map (·.1) = some (withoutReturns f.name) ∧
    (readFill? line = some "lightblue" ↔ g.InFocus focus f)

namespace CallGraph

theorem focus_of_select {g : CallGraph} {o : Options} {s : Selection}
    (selected : g.select o = .ok s) :
    g.resolveFocus o.focus = .ok s.focus := by
  rw [select_eq] at selected
  cases found : g.resolveFocus o.focus with
  | error e => simp [found, Except.map] at selected
  | ok ids =>
    rw [found] at selected
    rw [← Except.ok.inj selected]
    rfl

theorem describe_painted {g : CallGraph} {o : Options} {text : String} (apart : g.NamesApart)
    (described : g.describe o = .ok text) :
    ∃ s ids, g.select o.normalized = .ok s ∧ ids.Perm s.nodes ∧
      List.Forall₂ (IsPainted g (Text.trim o.focus)) (nodeLines (textLines text)) ids := by
  obtain ⟨-, s, selected, rfl⟩ := describe_eq_ok_iff.mp described
  obtain ⟨ids, perm, lines⟩ := nodeLines_selected selected
  refine ⟨s, ids, selected, perm, lines.imp fun line id => ?_⟩
  rintro ⟨f, level, around, there, rfl⟩
  refine ⟨f, there, by rw [readNode?_chars, Option.map_some], ?_⟩
  rw [Clustering.readFill?_node, s.clustered_selection]
  have focused := focus_of_select selected
  rw [resolveFocus_normalized] at focused
  exact mem_resolveFocus apart focused there

end CallGraph

/-- Options that can be drawn: a distance of the nodes that is one, and a shape of the nodes. -/
structure Options.Drawable (o : Options) : Prop where
  finite : o.style.nodesep.isFinite = true
  notBelow : o.style.nodesep.isBelowZero = false
  shaped : Text.trim o.style.nodeshape ≠ ""

theorem Options.drawable_iff {o : Options} : o.check = .ok () ↔ o.Drawable := by
  rw [check_ok, ← Bool.not_eq_true (Text.isBlankText _), Text.isBlankText_iff]
  exact ⟨fun ⟨⟨finite, notBelow⟩, shaped⟩ => ⟨finite, notBelow, shaped⟩,
    fun ⟨finite, notBelow, shaped⟩ => ⟨⟨finite, notBelow⟩, shaped⟩⟩

namespace CallGraph

theorem describe_invalid_iff {g : CallGraph} {o : Options} :
    (∃ e, g.describe o = .error e ∧ e.IsInvalid) ↔ ¬ o.Drawable := by
  rw [← Options.drawable_iff]
  constructor
  · rintro ⟨e, failed, key, value, reason, rfl⟩ checked
    rcases describe_eq_error_iff.mp failed with unchecked | ⟨-, lost⟩
    · rw [checked] at unchecked
      cases unchecked
    · cases (resolveFocus_eq_error_iff.mp lost).1
  · intro unchecked
    cases checked : o.check with
    | ok _ => exact (unchecked checked).elim
    | error e =>
      exact ⟨e, describe_eq_error_iff.mpr (.inl checked), Options.check_onlyInvalid o e checked⟩

theorem describe_notFound_iff {g : CallGraph} {o : Options} (drawable : o.Drawable)
    {name : String} : g.describe o = .error (.focusNotFound name) ↔
    name = Text.trim o.focus ∧ name ≠ "" ∧ ¬ g.Knows name := by
  rw [describe_eq_error_iff, Options.drawable_iff.mpr drawable, resolveFocus_eq_error_iff]
  simp only [reduceCtorEq, false_or, true_and, Failure.focusNotFound.injEq]
  refine and_congr_right fun same => ?_
  rw [same]

theorem describe_ok {g : CallGraph} {o : Options} (drawable : o.Drawable)
    (known : Text.trim o.focus = "" ∨ g.Knows (Text.trim o.focus)) :
    ∃ text, g.describe o = .ok text := by
  cases described : g.describe o with
  | ok text => exact ⟨text, rfl⟩
  | error e =>
    rw [describe_eq_error_iff, Options.drawable_iff.mpr drawable] at described
    obtain ⟨-, lost⟩ := described.resolve_left nofun
    obtain ⟨-, filled, missing⟩ := resolveFocus_eq_error_iff.mp lost
    exact (known.elim filled missing).elim

end CallGraph

namespace Analysis

/-- A description fails for options that cannot be drawn, or else for a focus that nothing has as a
name. It highlights the selected functions that are in the focus. -/
theorem describe_exactly {x : Export} {bytes : List UInt8} {entry : String} {tests : Bool}
    {a : Analysis} (resolved : resolve x bytes entry tests = .ok a) (o : Options) :
    ((∃ e, a.graph.describe o = .error e ∧ e.IsInvalid) ↔ ¬ o.Drawable) ∧
    (o.Drawable → ∀ name, a.graph.describe o = .error (.focusNotFound name) ↔
      name = Text.trim o.focus ∧ name ≠ "" ∧ ¬ a.graph.Knows name) ∧
    (o.Drawable → Text.trim o.focus = "" ∨ a.graph.Knows (Text.trim o.focus) →
      ∃ text s ids, a.graph.describe o = .ok text ∧ a.graph.select o.normalized = .ok s ∧
        ids.Perm s.nodes ∧
        List.Forall₂ (IsPainted a.graph (Text.trim o.focus)) (nodeLines (textLines text)) ids) := by
  refine ⟨CallGraph.describe_invalid_iff, fun drawable name =>
    CallGraph.describe_notFound_iff drawable, fun drawable known => ?_⟩
  obtain ⟨text, described⟩ := CallGraph.describe_ok drawable known
  obtain ⟨s, ids, painted⟩ := CallGraph.describe_painted (resolve_builds resolved).apart described
  exact ⟨text, s, ids, described, painted⟩

def versions : Export where
  packages := [⟨"app", "main", none⟩, ⟨"lib", "lib", some false⟩, ⟨"lib/v2", "lib", some false⟩]
  functions := [⟨"app.main", "app", none, none, none, false, false⟩,
    ⟨"lib.Do", "lib", none, none, none, false, false⟩,
    ⟨"lib/v2.Do", "lib/v2", none, none, none, false, false⟩]
  calls := [⟨"app.main", "lib.Do", false⟩, ⟨"lib.Do", "lib/v2.Do", false⟩]

def aroundLib : Options :=
  { everyFunction with focus := " lib\n" }

theorem versions_painted : ∃ a text s ids,
    resolve versions [] "app" false = .ok a ∧ aroundLib.Drawable ∧ a.graph.Knows "lib" ∧
    a.graph.describe aroundLib = .ok text ∧
    a.graph.select aroundLib.normalized = .ok s ∧ s.nodes = [0, 1, 2] ∧ ids.Perm s.nodes ∧
    List.Forall₂ (IsPainted a.graph "lib") (nodeLines (textLines text)) ids ∧
    a.graph.functions.map (fun f => decide (a.graph.InFocus "lib" f)) = [false, true, false] := by
  have chosen : versions.graphFor "app" false = .ok (versions.built "app") := by decide +kernel
  have chosenNodes : (versions.built "app").select aroundLib.normalized =
      .ok ⟨versions.built "app", [0, 1, 2], [0, 1], [1]⟩ := by decide +kernel
  have focus : Text.trim aroundLib.focus = "lib" := by decide +kernel
  have drawable : aroundLib.Drawable := Options.drawable_iff.mp (by decide +kernel)
  obtain ⟨a, resolved, graph⟩ := resolve_of_graphFor chosen []
  have known : a.graph.Knows "lib" := by
    rw [graph]
    exact .inr ⟨⟨"lib", "lib", false⟩, by decide +kernel, .inl rfl⟩
  obtain ⟨text, s, ids, described, selected, perm, painted⟩ :=
    (describe_exactly resolved aroundLib).2.2 drawable (.inr (focus ▸ known))
  rw [focus] at painted
  have nodes : s.nodes = [0, 1, 2] := by
    rw [graph, chosenNodes] at selected
    rw [← Except.ok.inj selected]
  exact ⟨a, text, s, ids, resolved, drawable, known, described, selected, nodes, perm, painted, by
    rw [graph]
    decide +kernel⟩

end Analysis
end CallChart
