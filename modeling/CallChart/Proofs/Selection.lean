import CallChart.Proofs.Graph.Built

namespace CallChart

/-- Whether a path of so many calls is short enough. -/
def Retention.Spans : Retention → Nat → Prop
  | .direct, n => n ≤ 1
  | .transitive, _ => True

theorem Retention.spans_iff {r : Retention} {n : Nat} : r.Spans n ↔ ∀ d ∈ r.maxDepth, n ≤ d := by
  cases r <;> simp [Spans, maxDepth]

def BeginsWithOne (prefixes : List String) (s : String) : Prop :=
  ∃ p ∈ prefixes, p.toList <+: s.toList

namespace CallGraph

theorem startsWithAny_iff {path : String} {prefixes : List String} :
    startsWithAny path prefixes = true ↔ BeginsWithOne prefixes path := by
  simp [startsWithAny, Text.startsWith, BeginsWithOne, List.any_eq_true]

/-- Whether some function in focus has a path to this one that is short enough. -/
def NearFocus (g : CallGraph) (retention : Retention) (focus : List Nat) (id : Nat) : Prop :=
  ∃ i ∈ focus, ∃ n, retention.Spans n ∧ g.Path n i id

/-- The rules of the options, all of which a function has to meet. -/
structure Admits (g : CallGraph) (o : Options) (focus : List Nat) (id : Nat) (f : Function) :
    Prop where
  genuine : f.synthetic = false
  test : f.test = false ∨ o.tests = true
  included : o.included = [] ∨ BeginsWithOne o.included f.package
  ignored : ¬ BeginsWithOne o.ignored f.package
  limited : o.limited = [] ∨ BeginsWithOne o.limited f.package
  std : o.nostd = false ∨ ∃ p, g.package? f.package = some p ∧ p.std = false
  near : o.nointer = false ∨ f.exported = true ∨ g.NearFocus o.retention focus id

theorem isStandard_eq_false_iff {g : CallGraph} {path : String} (known : (g.package? path).isSome) :
    g.isStandard path = false ↔ ∃ p, g.package? path = some p ∧ p.std = false := by
  obtain ⟨p, there⟩ := Option.isSome_iff_exists.mp known
  simp [isStandard, there]

theorem keeps_iff {g : CallGraph} {o : Options} {focus retained : List Nat} {id : Nat}
    {f : Function} (known : (g.package? f.package).isSome)
    (near : o.nointer = true → (id ∈ retained ↔ g.NearFocus o.retention focus id)) :
    g.keeps o retained id f = true ↔ g.Admits o focus id f := by
  have genuine : (!f.synthetic) = true ↔ f.synthetic = false := by rw [Bool.not_eq_true']
  have test : (!f.test || o.tests) = true ↔ f.test = false ∨ o.tests = true := by
    rw [Bool.or_eq_true, Bool.not_eq_true']
  have allowed (prefixes : List String) :
      (prefixes.isEmpty || startsWithAny f.package prefixes) = true ↔
        prefixes = [] ∨ BeginsWithOne prefixes f.package := by
    rw [Bool.or_eq_true, List.isEmpty_iff, startsWithAny_iff]
  have ignored : (!startsWithAny f.package o.ignored) = true ↔
      ¬ BeginsWithOne o.ignored f.package := by
    rw [← startsWithAny_iff, Bool.not_eq_true', Bool.not_eq_true]
  have std : (!(o.nostd && g.isStandard f.package)) = true ↔
      o.nostd = false ∨ ∃ p, g.package? f.package = some p ∧ p.std = false := by
    rw [← isStandard_eq_false_iff known, Bool.not_eq_true', Bool.and_eq_false_iff]
  have reached : (!o.nointer || f.exported || retained.contains id) = true ↔
      o.nointer = false ∨ f.exported = true ∨ g.NearFocus o.retention focus id := by
    cases pointer : o.nointer with
    | false => simp
    | true => simp [near pointer]
  simp only [keeps, Bool.and_eq_true, genuine, test, allowed, ignored, std, reached]
  constructor
  · rintro ⟨⟨⟨⟨⟨⟨genuine, test⟩, included⟩, ignored⟩, limited⟩, std⟩, near⟩
    exact ⟨genuine, test, included, ignored, limited, std, near⟩
  · rintro ⟨genuine, test, included, ignored, limited, std, near⟩
    exact ⟨⟨⟨⟨⟨⟨genuine, test⟩, included⟩, ignored⟩, limited⟩, std⟩, near⟩

theorem mem_near {g : CallGraph} {o : Options} {focus : List Nat} {id : Nat}
    (pointer : o.nointer = true) :
    id ∈ g.near o focus ↔ g.NearFocus o.retention focus id := by
  simp only [near, pointer, ↓reduceIte, mem_reachable, NearFocus, Retention.spans_iff]

end CallGraph

/-- A selection with the functions that the options admit and the edges between them, each once and in
the order of the graph, and with all of the focus. -/
structure Selects (g : CallGraph) (o : Options) (focus : List Nat) (s : Selection) : Prop where
  graph : s.graph = g
  nodes (id : Nat) : id ∈ s.nodes ↔ ∃ f, g.functions[id]? = some f ∧ g.Admits o focus id f
  nodesInOrder : s.nodes.Pairwise (· < ·)
  edges (id : Nat) : id ∈ s.edges ↔
    ∃ e, g.edges[id]? = some e ∧ e.caller ∈ s.nodes ∧ e.callee ∈ s.nodes
  edgesInOrder : s.edges.Pairwise (· < ·)
  focus : s.focus = focus

theorem Export.Builds.selects {x : Export} {entry : String} {g : CallGraph}
    (builds : x.Builds entry g) (o : Options) (focus : List Nat) :
    Selects g o focus (g.selection o focus) where
  graph := rfl
  nodes id := by
    refine CallGraph.mem_keptNodes.trans (exists_congr fun f => and_congr_right fun there => ?_)
    have known := builds.package_isSome (List.mem_of_getElem? there)
    exact CallGraph.keeps_iff known CallGraph.mem_near
  nodesInOrder := List.pairwise_lt_range.filter _
  edges id := by
    simp only [CallGraph.selection, List.mem_filter, List.mem_range, Option.any_eq_true,
      CallGraph.joinsKept, Bool.and_eq_true, List.contains_iff_mem]
    refine and_iff_right_of_imp ?_
    rintro ⟨e, there, -⟩
    exact (List.getElem?_eq_some_iff.mp there).1
  edgesInOrder := List.pairwise_lt_range.filter _
  focus := rfl

namespace Analysis

/-- Selecting is exact: nothing is kept against a rule, and nothing else is dropped. -/
theorem select_exactly {x : Export} {bytes : List UInt8} {entry : String} {tests : Bool}
    {a : Analysis} {o : Options} {focus : List Nat} (resolved : resolve x bytes entry tests = .ok a)
    (found : a.graph.resolveFocus o.focus = .ok focus) :
    ∃ s, a.graph.select o = .ok s ∧ Selects a.graph o focus s := by
  refine ⟨a.graph.selection o focus, ?_, (resolve_builds resolved).selects o focus⟩
  rw [CallGraph.select_eq, found]
  rfl

def chain : Export where
  packages := [⟨"app", "main", none⟩, ⟨"lib", "lib", some false⟩, ⟨"fmt", "fmt", none⟩]
  functions := [⟨"app.main", "app", none, none, none, false, false⟩,
    ⟨"lib.Do", "lib", none, none, none, false, false⟩,
    ⟨"lib.first", "lib", none, none, none, false, false⟩,
    ⟨"lib.second", "lib", none, none, none, false, false⟩,
    ⟨"fmt.Print", "fmt", none, none, none, false, false⟩]
  calls := [⟨"app.main", "lib.Do", false⟩, ⟨"lib.Do", "lib.first", false⟩,
    ⟨"lib.first", "lib.second", true⟩, ⟨"lib.second", "fmt.Print", false⟩,
    ⟨"lib.second", "lib.first", false⟩]

def aroundDo : Options := { Options.default with focus := "lib.Do" }

theorem chain_selects : ∃ a s, resolve chain [] "app" false = .ok a ∧
    a.graph.resolveFocus "lib.Do" = .ok [1] ∧ a.graph.select aroundDo = .ok s ∧
    s.nodes = [1, 2] ∧ s.edges = [1] ∧ Selects a.graph aroundDo [1] s := by
  have chosen : chain.graphFor "app" false = .ok (chain.built "app") := by decide +kernel
  obtain ⟨a, resolved, graph⟩ := resolve_of_graphFor chosen []
  have found : a.graph.resolveFocus "lib.Do" = .ok [1] := by
    rw [graph]
    decide +kernel
  have selected : a.graph.select aroundDo = .ok ⟨a.graph, [1, 2], [1], [1]⟩ := by
    rw [graph]
    decide +kernel
  obtain ⟨s, selected', exactly⟩ := select_exactly (o := aroundDo) resolved found
  obtain rfl := Except.ok.inj (selected.symm.trans selected')
  exact ⟨a, _, resolved, found, selected, rfl, rfl, exactly⟩

end Analysis
end CallChart
