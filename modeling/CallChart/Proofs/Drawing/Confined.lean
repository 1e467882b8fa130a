import CallChart.Proofs.Drawing.Canonical
import CallChart.Proofs.Drawing.Regrouped
import Mathlib.Tactic.IntervalCases

namespace CallChart

namespace Dot

def styleRows : List (Nat × String) :=
  [(4, "    rankdir="), (9, "    nodesep="), (11, "    node ["), (12, "    edge [")]

/-- Texts of as many lines that differ in the rows of the style only. -/
structure Restyled (text text' : String) : Prop where
  length : (textLines text).length = (textLines text').length
  elsewhere {row : Nat} : row ∉ styleRows.map (·.1) →
    (textLines text)[row]? = (textLines text')[row]?
  rows : ∀ r ∈ styleRows, ∀ t ∈ [text, text'],
    ∃ line, (textLines t)[r.1]? = some line ∧ r.2.toList <+: line

def IsPaint (a : Attribute) : Prop :=
  a.1 = "fillcolor" ∨ a.1 = "penwidth"

/-- The same line, or the lines of one node that are painted in their own ways. -/
inductive Repainted : List Char → List Char → Prop where
  | same (line : List Char) : Repainted line line
  | node (level : Nat) (name : String) (attributes : List Attribute) {paint paint' : List Attribute} :
    (∀ a ∈ paint, IsPaint a) → (∀ a ∈ paint', IsPaint a) →
      Repainted (indentation level ++ literal name ++ attributeList (attributes ++ paint))
        (indentation level ++ literal name ++ attributeList (attributes ++ paint'))

def Repaints (level : Nat) (body body' : List Statement) : Prop :=
  List.Forall₂ Repainted (bodyLines level body) (bodyLines level body')

namespace Repaints

theorem refl (level : Nat) (body : List Statement) : Repaints level body body :=
  List.forall₂_same.mpr fun line _ => .same line

theorem node {level : Nat} (name : String) (attributes : List Attribute)
    {paint paint' : List Attribute} (painted : ∀ a ∈ paint, IsPaint a)
    (painted' : ∀ a ∈ paint', IsPaint a) :
    Repaints level [.node name (attributes ++ paint)] [.node name (attributes ++ paint')] :=
  .cons (.node level name attributes painted painted') .nil

theorem append {level : Nat} {body body' more more' : List Statement}
    (first : Repaints level body body') (second : Repaints level more more') :
    Repaints level (body ++ more) (body' ++ more') := by
  rw [Repaints, bodyLines_append, bodyLines_append]
  exact List.rel_append first second

theorem subgraph {level : Nat} {body body' : List Statement} (name : String)
    (inside : Repaints (level + 1) body body') :
    Repaints level [.subgraph name body] [.subgraph name body'] := by
  have braces : List.Forall₂ Repainted [indentation level ++ ['\x7d']] [indentation level ++ ['\x7d']] :=
    .cons (.same _) .nil
  simp only [Repaints, bodyLines, Statement.lines, List.append_nil]
  exact .cons (.same _) (List.rel_append inside braces)

end Repaints

end Dot

open Dot

def Selection.refocused (s : Selection) (focus : List Nat) : Selection :=
  { s with focus := focus }

namespace Clustering

def headRows (style : Style) : List (List Char) :=
  "digraph callvis \x7b".toList :: bodyLines 1 (headStatements style)

def drawnBody (c : Clustering) : List Statement :=
  c.clusterStatements 0 c.clusters ++ c.ungroupedStatements ++ c.edgeStatements

theorem textLines_rows (c : Clustering) (style : Style) : textLines (c.document style).text =
    headRows style ++ (bodyLines 1 c.drawnBody ++ [['\x7d'], []]) := by
  have first : "digraph ".toList ++ "callvis".toList ++ " \x7b".toList = "digraph callvis \x7b".toList :=
    rfl
  have body : (c.document style).body = headStatements style ++ c.drawnBody := by
    simp only [document, drawnBody, List.append_assoc]
  rw [textLines_document, Document.lines, body, bodyLines_append, headRows, ← first]
  simp only [List.cons_append, List.append_assoc, List.nil_append]
  rfl

theorem length_headRows (style : Style) : (headRows style).length = 14 := rfl

theorem headRows_elsewhere (style style' : Style) {row : Nat} (other : row ∉ styleRows.map (·.1)) :
    (headRows style)[row]? = (headRows style')[row]? := by
  by_cases inside : row < 14
  · simp only [styleRows, List.map_cons, List.map_nil, List.mem_cons, List.not_mem_nil, or_false,
      not_or] at other
    -- all other rows are closed lines
    interval_cases row <;> first | omega | exact (rfl : _ = some _).trans rfl
  · rw [List.getElem?_eq_none (by rw [length_headRows]; omega),
      List.getElem?_eq_none (by rw [length_headRows]; omega)]

theorem front_assignment (key value : String) : indentation 1 ++ key.toList ++ ['='] <+:
    indentation 1 ++ attributeChars (key, value) ++ [';'] :=
  ⟨literal value ++ [';'], by simp [attributeChars]⟩

theorem headRows_style (style : Style) : ∀ r ∈ styleRows,
    ∃ line, (headRows style)[r.1]? = some line ∧ r.2.toList <+: line := by
  simp only [styleRows, List.forall_mem_cons, List.not_mem_nil, false_implies, implies_true, and_true]
  refine ⟨⟨_, rfl, front_assignment "rankdir" _⟩, ⟨_, rfl, front_assignment "nodesep" _⟩,
    ⟨_, rfl, ?_⟩, ⟨_, rfl, ?_⟩⟩
  · exact ⟨joinedAttributes _ ++ "];".toList, rfl⟩
  · exact ⟨joinedAttributes _ ++ "];".toList, rfl⟩

theorem restyled (c : Clustering) (style style' : Style) :
    Restyled (c.document style).text (c.document style').text := by
  constructor
  case length => simp only [textLines_rows, List.length_append, length_headRows]
  case elsewhere =>
    intro row other
    simp only [textLines_rows, List.getElem?_append, length_headRows,
      headRows_elsewhere style style' other]
  case rows =>
    have begins (style : Style) : ∀ r ∈ styleRows,
        ∃ line, (textLines (c.document style).text)[r.1]? = some line ∧ r.2.toList <+: line := by
      intro r within
      obtain ⟨line, there, front⟩ := headRows_style style r within
      have inside := (List.getElem?_eq_some_iff.mp there).1
      exact ⟨line, by rw [textLines_rows, List.getElem?_append_left inside, there], front⟩
    intro r within t either
    rcases List.mem_pair.mp either with rfl | rfl
    · exact begins style r within
    · exact begins style' r within

def refocused (c : Clustering) (focus : List Nat) : Clustering :=
  { c with selection := c.selection.refocused focus }

theorem isPaint_nodeFill (c : Clustering) (id : Nat) (f : Function) :
    ∀ a ∈ c.nodeFill id f, IsPaint a := by
  unfold nodeFill
  split
  · simp [IsPaint]
  · split <;> simp [IsPaint]

theorem repaints_nodes (c : Clustering) (level : Nat) (focus ids : List Nat) :
    Repaints level (c.nodes ids) ((c.refocused focus).nodes ids) := by
  induction ids with
  | nil => exact .refl level []
  | cons id rest ih =>
    have graph : (c.refocused focus).selection.graph = c.selection.graph := rfl
    simp only [nodes, graph, List.filterMap_cons] at ih ⊢
    cases there : c.selection.graph.functions[id]? with
    | none => exact ih
    | some f =>
      exact .append (.node f.name _ (c.isPaint_nodeFill id f)
        ((c.refocused focus).isPaint_nodeFill id f)) ih

mutual

theorem repaints_cluster (c : Clustering) (focus : List Nat) (level : Nat) (nested : Bool)
    (id : String) (cluster : Cluster) :
    Repaints level [c.clusterStatement nested id cluster]
      [(c.refocused focus).clusterStatement nested id cluster] := by
  cases cluster with
  | mk key label std members inner =>
    rw [clusterStatement, clusterStatement]
    refine .subgraph id (.append (.append (.refl _ _) ?_) (repaints_inner c focus _ id 0 inner))
    exact .append (.refl _ [.space]) (c.repaints_nodes (level + 1) focus members)

theorem repaints_inner (c : Clustering) (focus : List Nat) (level : Nat) (id : String) (n : Nat)
    (inner : List Cluster) :
    Repaints level (c.innerStatements id n inner) ((c.refocused focus).innerStatements id n inner) := by
  cases inner with
  | nil => exact .refl level []
  | cons cluster rest =>
    rw [innerStatements, innerStatements]
    refine .append (.refl _ [.space]) (.append (repaints_cluster c focus level true _ cluster) ?_)
    exact repaints_inner c focus level id (n + 1) rest

end

theorem repaints_clusterStatements (c : Clustering) (level : Nat) (focus : List Nat) (n : Nat)
    (clusters : List Cluster) :
    Repaints level (c.clusterStatements n clusters)
      ((c.refocused focus).clusterStatements n clusters) := by
  induction clusters generalizing n with
  | nil => exact .refl level []
  | cons cluster rest ih =>
    rw [clusterStatements, clusterStatements]
    exact .append (c.repaints_cluster focus level false _ cluster)
      (.append (.refl _ [.space]) (ih (n + 1)))

theorem repaints_drawnBody (c : Clustering) (level : Nat) (focus : List Nat) :
    Repaints level c.drawnBody (c.refocused focus).drawnBody := by
  refine .append (.append (c.repaints_clusterStatements level focus 0 c.clusters) ?_) (.refl _ _)
  have same : (c.refocused focus).ungrouped = c.ungrouped := rfl
  rw [ungroupedStatements, ungroupedStatements, same]
  cases c.ungrouped.isEmpty with
  | true => exact .refl level []
  | false => exact .append (c.repaints_nodes level focus c.ungrouped) (.refl _ [.space])

theorem repainted (c : Clustering) (focus : List Nat) (style : Style) :
    List.Forall₂ Repainted (textLines (c.document style).text)
    (textLines ((c.refocused focus).document style).text) := by
  rw [textLines_rows, textLines_rows]
  have same (lines : List (List Char)) : List.Forall₂ Repainted lines lines :=
    List.forall₂_same.mpr fun line _ => .same line
  exact List.rel_append (same _) (List.rel_append (c.repaints_drawnBody 1 focus) (same _))

end Clustering

theorem Selection.clustered_refocused (s : Selection) (focus : List Nat) (mode : GroupMode) :
    (s.refocused focus).clustered mode = (s.clustered mode).refocused focus := by
  cases mode <;> rfl

namespace CallGraph

theorem select_style (g : CallGraph) (o : Options) (style : Style) :
    g.select ({ o with style := style } : Options).normalized = g.select o.normalized := by
  have kept : g.keeps ({ o with style := style } : Options).normalized = g.keeps o.normalized := by
    funext retained id f
    simp only [keeps, Options.normalized]
  simp only [select, kept]
  rfl

theorem selection_focus {o : Options} (g : CallGraph) (off : o.nointer = false) (focus : String)
    (ids ids' : List Nat) : g.selection ({ o with focus := focus } : Options).normalized ids' =
      (g.selection o.normalized ids).refocused ids' := by
  have near : g.near o.normalized ids = [] := by simp [CallGraph.near, Options.normalized, off]
  have near' : g.near ({ o with focus := focus } : Options).normalized ids' = [] := by
    simp [CallGraph.near, Options.normalized, off]
  simp only [CallGraph.selection, near, near']
  rfl

theorem describe_of_valid {o : Options} (g : CallGraph) (valid : o.check = .ok ()) : g.describe o =
    (g.select o.normalized).map fun s => ((s.clustered o.group).document o.style).text := by
  have checked : o.normalized.check = .ok () := valid
  simp only [describe_eq, checked, Except.bind]

theorem describe_of_resolved {o : Options} (g : CallGraph) (valid : o.check = .ok ())
    {ids : List Nat} (found : g.resolveFocus o.focus = .ok ids) : g.describe o =
      .ok (((g.selection o.normalized ids).clustered o.group).document o.style).text := by
  simp only [g.describe_of_valid valid, select_eq, resolveFocus_normalized, found, Except.map]

/-- What a style says stays in its rows, whatever texts it has. And if functions are kept wherever the
focus is, another focus paints nodes and does nothing else. -/
theorem describe_confined (g : CallGraph) (o : Options) (valid : o.check = .ok ()) :
    (∀ style : Style, ({ o with style := style } : Options).check = .ok () →
      (∃ failure, g.describe o = .error failure ∧
        g.describe { o with style := style } = .error failure) ∨
      ∃ text text', g.describe o = .ok text ∧ g.describe { o with style := style } = .ok text' ∧
        Restyled text text') ∧
    (o.nointer = false → ∀ focus ids ids', g.resolveFocus o.focus = .ok ids →
      g.resolveFocus focus = .ok ids' →
      ∃ text text', g.describe o = .ok text ∧ g.describe { o with focus := focus } = .ok text' ∧
        List.Forall₂ Repainted (textLines text) (textLines text')) := by
  constructor
  · intro style valid'
    have described := g.describe_of_valid valid
    have restyled := g.describe_of_valid valid'
    rw [select_style] at restyled
    cases selected : g.select o.normalized with
    | error failure =>
      simp only [selected, Except.map] at described restyled
      exact .inl ⟨failure, described, restyled⟩
    | ok s =>
      simp only [selected, Except.map] at described restyled
      exact .inr ⟨_, _, described, restyled, (s.clustered o.group).restyled o.style style⟩
  · intro off focus ids ids' found found'
    have valid' : ({ o with focus := focus } : Options).check = .ok () := valid
    refine ⟨_, _, g.describe_of_resolved valid found, g.describe_of_resolved valid' found', ?_⟩
    rw [selection_focus g off focus ids ids', Selection.clustered_refocused]
    exact Clustering.repainted _ ids' o.style

def wild : Style :=
  { Style.default with nodeshape := "box\n\x7d", nodestyle := "\\\"];\r\nx", rankdir := .topBottom }

def bothPackages : Options :=
  { Options.default with focus := "lib", nointer := false }

theorem wild_confined : bothPackages.check = .ok () ∧
    ({ bothPackages with style := wild } : Options).check = .ok () ∧ bothPackages.nointer = false ∧
    unorderedGraph.resolveFocus "lib" = .ok [0] ∧ unorderedGraph.resolveFocus "fmt" = .ok [1] ∧
    ∃ text restyled repainted, unorderedGraph.describe bothPackages = .ok text ∧
      unorderedGraph.describe { bothPackages with style := wild } = .ok restyled ∧
      unorderedGraph.describe { bothPackages with focus := "fmt" } = .ok repainted ∧
      Restyled text restyled ∧ List.Forall₂ Repainted (textLines text) (textLines repainted) := by
  have valid : bothPackages.check = .ok () := by decide +kernel
  have valid' : ({ bothPackages with style := wild } : Options).check = .ok () := by decide +kernel
  have found : unorderedGraph.resolveFocus "lib" = .ok [0] := by decide +kernel
  have found' : unorderedGraph.resolveFocus "fmt" = .ok [1] := by decide +kernel
  obtain ⟨styles, foci⟩ := describe_confined unorderedGraph bothPackages valid
  obtain ⟨text, repainted, described, described', painted⟩ := foci rfl "fmt" [0] [1] found found'
  rcases styles wild valid' with ⟨failure, failed, -⟩ | ⟨text', restyled, first, second, rows⟩
  · cases failed.symm.trans described
  · obtain rfl := Except.ok.inj (described.symm.trans first)
    exact ⟨valid, valid', rfl, found, found', text, restyled, repainted, described, second, described',
      rows, painted⟩

end CallGraph
end CallChart
