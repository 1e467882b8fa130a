import CallChart.Proofs.Dot.Placement
import CallChart.Proofs.Drawing.Lines
import CallChart.Proofs.Number.Digits
import CallChart.Proofs.Text.Split
import Mathlib.Data.List.Nodup
import Mathlib.Data.List.Perm.Basic

namespace CallChart

open Dot

namespace Cluster

mutual

def all : Cluster → List Cluster
  | mk key label std members inner => mk key label std members inner :: allOf inner

def allOf : List Cluster → List Cluster
  | [] => []
  | c :: rest => all c ++ allOf rest

end

theorem mem_allOf {k : Cluster} {clusters : List Cluster} :
    k ∈ allOf clusters ↔ ∃ cluster ∈ clusters, k ∈ cluster.all := by
  induction clusters with
  | nil => simp [allOf]
  | cons cluster rest ih => simp [allOf, ih]

mutual

def placed (way : List Nat) : Cluster → List (List Nat × Cluster)
  | mk key label std members inner =>
    (way, mk key label std members inner) :: placedIn way 0 inner

def placedIn (way : List Nat) (n : Nat) : List Cluster → List (List Nat × Cluster)
  | [] => []
  | c :: rest => placed (way ++ [n]) c ++ placedIn way (n + 1) rest

end

def follow? : Cluster → List Nat → Option Cluster
  | c, [] => some c
  | c, n :: way => c.inner[n]?.bind (follow? · way)

def at? (clusters : List Cluster) : List Nat → Option Cluster
  | [] => none
  | n :: way => clusters[n]?.bind (follow? · way)

mutual

theorem mem_placed {w : List Nat} {k : Cluster} (way : List Nat) (c : Cluster) :
    (w, k) ∈ c.placed way ↔ ∃ rest, w = way ++ rest ∧ c.follow? rest = some k := by
  cases c with
  | mk key label std members inner =>
    rw [placed, List.mem_cons, mem_placedIn way 0 inner]
    constructor
    · rintro (here | ⟨i, rest, rfl, found⟩)
      · obtain ⟨rfl, rfl⟩ := Prod.mk.inj here
        exact ⟨[], (List.append_nil _).symm, rfl⟩
      · exact ⟨i :: rest, by rw [Nat.zero_add], found⟩
    · rintro ⟨_ | ⟨i, rest⟩, rfl, found⟩
      · rw [follow?, Option.some.injEq] at found
        exact .inl (by rw [List.append_nil, found])
      · exact .inr ⟨i, rest, by rw [Nat.zero_add], found⟩

theorem mem_placedIn {w : List Nat} {k : Cluster} (way : List Nat) (n : Nat)
    (clusters : List Cluster) :
    (w, k) ∈ placedIn way n clusters ↔
      ∃ i rest, w = way ++ (n + i) :: rest ∧ at? clusters (i :: rest) = some k := by
  cases clusters with
  | nil => simp [placedIn, at?]
  | cons c others =>
    rw [placedIn, List.mem_append, mem_placed (way ++ [n]) c, mem_placedIn way (n + 1) others]
    constructor
    · rintro (⟨rest, rfl, found⟩ | ⟨i, rest, rfl, found⟩)
      · exact ⟨0, rest, by simp, found⟩
      · exact ⟨i + 1, rest, by rw [Nat.add_right_comm, Nat.add_assoc], found⟩
    · rintro ⟨_ | i, rest, rfl, found⟩
      · exact .inl ⟨rest, by simp, found⟩
      · exact .inr ⟨i, rest, by rw [Nat.add_right_comm, Nat.add_assoc], found⟩

end

mutual

theorem nodup_placed (way : List Nat) (c : Cluster) : ((c.placed way).map (·.1)).Nodup := by
  cases c with
  | mk key label std members inner =>
    rw [placed, List.map_cons, List.nodup_cons]
    refine ⟨fun again => ?_, nodup_placedIn way 0 inner⟩
    obtain ⟨⟨w, k⟩, within, rfl⟩ := List.mem_map.mp again
    obtain ⟨i, rest, longer, -⟩ := (mem_placedIn _ 0 inner).mp within
    simp at longer

theorem nodup_placedIn (way : List Nat) (n : Nat) (clusters : List Cluster) :
    ((placedIn way n clusters).map (·.1)).Nodup := by
  cases clusters with
  | nil => exact List.nodup_nil
  | cons c others =>
    rw [placedIn, List.map_append]
    refine (nodup_placed (way ++ [n]) c).append (nodup_placedIn way (n + 1) others) ?_
    -- The next number on the way is `n` for all of the first, and greater for all others.
    intro w first second
    obtain ⟨⟨w, k⟩, within, rfl⟩ := List.mem_map.mp first
    obtain ⟨⟨w, k'⟩, within', rfl⟩ := List.mem_map.mp second
    obtain ⟨rest, rfl, -⟩ := (mem_placed (way ++ [n]) c).mp within
    obtain ⟨i, rest', same, -⟩ := (mem_placedIn way (n + 1) others).mp within'
    simp only [List.append_assoc, List.append_cancel_left_eq, List.singleton_append,
      List.cons.injEq] at same
    omega

end

mutual

theorem map_placed (way : List Nat) (c : Cluster) : (c.placed way).map (·.2) = c.all := by
  cases c with
  | mk key label std members inner => rw [placed, List.map_cons, map_placedIn, all]

theorem map_placedIn (way : List Nat) (n : Nat) (clusters : List Cluster) :
    (placedIn way n clusters).map (·.2) = allOf clusters := by
  cases clusters with
  | nil => rfl
  | cons c others => rw [placedIn, List.map_append, map_placed, map_placedIn, allOf]

end

end Cluster

namespace Clustering

def clusterAttributes (key : ClusterKey) (label : String) (std nested : Bool) : List Attribute :=
  (clusterSettings key label std nested).filterMap Statement.setting?

theorem gather_nodes (c : Clustering) {α : Type} {pick : Part → Option α} {around : List Frame}
    (ids : List Nat) : gather pick around (c.nodes ids) =
    ids.filterMap fun id => c.selection.graph.functions[id]?.bind fun f =>
      pick ⟨around, .node f.name (c.nodeAttributes id f)⟩ := by
  have leaves : ∀ s ∈ c.nodes ids, s.isLeaf = true := by
    intro s within
    obtain ⟨id, f, rfl⟩ := c.eq_of_mem_nodes within
    rfl
  rw [gather_leaves leaves, nodes, List.filterMap_filterMap]
  refine List.filterMap_congr fun id _ => ?_
  rw [Option.bind_map]
  rfl

theorem gather_edgeStatements (c : Clustering) {α : Type} {pick : Part → Option α}
    {around : List Frame} : gather pick around c.edgeStatements =
    c.sortedEdges.filterMap fun e => c.selection.graph.functions[e.caller]?.bind fun caller =>
      c.selection.graph.functions[e.callee]?.bind fun callee =>
        pick ⟨around, edgeStatement e caller callee⟩ := by
  have leaves : ∀ s ∈ c.edgeStatements, s.isLeaf = true := by
    intro s within
    obtain ⟨e, caller, callee, rfl⟩ := c.eq_of_mem_edgeStatements within
    rfl
  rw [gather_leaves leaves, edgeStatements, List.filterMap_filterMap]
  refine List.filterMap_congr fun e _ => ?_
  cases c.selection.graph.functions[e.caller]? with
  | none => rfl
  | some caller => cases c.selection.graph.functions[e.callee]? <;> rfl

theorem setting?_innerStatements (c : Clustering) {id : String} {n : Nat} {inner : List Cluster}
    {s : Statement} (within : s ∈ c.innerStatements id n inner) : s.setting? = none := by
  induction inner generalizing n with
  | nil => simp [innerStatements] at within
  | cons cluster rest ih =>
    simp only [innerStatements, List.mem_cons] at within
    rcases within with rfl | rfl | within
    · rfl
    · cases cluster
      rfl
    · exact ih within

theorem frameOf_cluster (c : Clustering) (nested : Bool) (id : String) (key : ClusterKey)
    (label : String) (std : Bool) (members : List Nat) (inner : List Cluster) :
    frameOf id (clusterSettings key label std nested ++ .space :: c.nodes members ++
      c.innerStatements id 0 inner) = ⟨id, clusterAttributes key label std nested⟩ := by
  have nodes : (c.nodes members).filterMap Statement.setting? = [] := by
    rw [List.filterMap_eq_nil_iff]
    intro s within
    obtain ⟨id, f, rfl⟩ := c.eq_of_mem_nodes within
    rfl
  have clusters : (c.innerStatements id 0 inner).filterMap Statement.setting? = [] :=
    List.filterMap_eq_nil_iff.mpr fun s within => c.setting?_innerStatements within
  simp only [frameOf, List.filterMap_append, List.filterMap_cons, Statement.setting?, nodes,
    clusters, List.append_nil]
  rfl

theorem gather_cluster (c : Clustering) {α : Type} {pick : Part → Option α} {around : List Frame}
    (ignores : Ignores pick) (nested : Bool) (id : String) (key : ClusterKey) (label : String)
    (std : Bool) (members : List Nat) (inner : List Cluster) :
    let frame : Frame := ⟨id, clusterAttributes key label std nested⟩
    gather pick around [c.clusterStatement nested id (.mk key label std members inner)] =
      (pick ⟨around, c.clusterStatement nested id (.mk key label std members inner)⟩).toList ++
        (gather pick (around ++ [frame]) (c.nodes members) ++
          gather pick (around ++ [frame]) (c.innerStatements id 0 inner)) := by
  have settings : gather pick (around ++ [⟨id, clusterAttributes key label std nested⟩])
      (clusterSettings key label std nested) = [] :=
    gather_minor ignores (by simp [clusterSettings, Statement.isMinor])
  have space : gather pick (around ++ [⟨id, clusterAttributes key label std nested⟩])
      [.space] = [] :=
    gather_minor ignores (by simp [Statement.isMinor])
  rw [clusterStatement, gather_subgraph, frameOf_cluster, gather_append, gather_append,
    gather_cons .space, settings, space, List.nil_append, List.nil_append]

theorem gather_innerStatements (c : Clustering) {α : Type} {pick : Part → Option α}
    {around : List Frame} (ignores : Ignores pick) (id : String) (n : Nat)
    (clusters : List Cluster) : gather pick around (c.innerStatements id n clusters) =
      (clusters.zipIdx n).flatMap fun p =>
        gather pick around [c.clusterStatement true (innerId id p.2) p.1] := by
  induction clusters generalizing n with
  | nil => simp [innerStatements, gather, bodyParts]
  | cons cluster rest ih =>
    have space : gather pick around [.space] = [] :=
      gather_minor ignores (by simp [Statement.isMinor])
    rw [innerStatements, gather_cons .space, space,
      gather_cons (c.clusterStatement true (innerId id n) cluster), ih, List.zipIdx_cons,
      List.flatMap_cons, List.nil_append]

theorem gather_clusterStatements (c : Clustering) {α : Type} {pick : Part → Option α}
    {around : List Frame} (ignores : Ignores pick) (n : Nat) (clusters : List Cluster) :
    gather pick around (c.clusterStatements n clusters) =
      (clusters.zipIdx n).flatMap fun p =>
        gather pick around [c.clusterStatement false (innerId "cluster" p.2) p.1] := by
  induction clusters generalizing n with
  | nil => rfl
  | cons cluster rest ih =>
    have space : gather pick around [.space] = [] :=
      gather_minor ignores (by simp [Statement.isMinor])
    rw [clusterStatements, gather_cons (c.clusterStatement false (innerId "cluster" n) cluster),
      gather_cons .space, space, ih, List.zipIdx_cons, List.flatMap_cons, List.nil_append]

theorem gather_document (c : Clustering) {α : Type} {pick : Part → Option α}
    (ignores : Ignores pick) (style : Style) :
    gather pick [] (c.document style).body = gather pick [] (c.clusterStatements 0 c.clusters) ++
      (gather pick [] (c.nodes c.ungrouped) ++ gather pick [] c.edgeStatements) := by
  have head : gather pick [] (headStatements style) = [] :=
    gather_minor ignores (by simp [headStatements, Statement.isMinor])
  have ungrouped : gather pick [] c.ungroupedStatements = gather pick [] (c.nodes c.ungrouped) := by
    unfold ungroupedStatements
    split
    · rename_i none
      rw [List.isEmpty_iff.mp none]
      rfl
    · have space : gather pick [] [.space] = [] :=
        gather_minor ignores (by simp [Statement.isMinor])
      rw [gather_append, space, List.append_nil]
  simp only [document, gather_append, head, ungrouped, List.nil_append, List.append_assoc]

theorem edges_nodes (c : Clustering) {around : List Frame} (ids : List Nat) :
    gather Part.edge? around (c.nodes ids) = [] := by
  rw [gather_nodes]
  simp [Part.edge?]

mutual

theorem edges_cluster (c : Clustering) (around : List Frame) (nested : Bool) (id : String)
    (cluster : Cluster) :
    gather Part.edge? around [c.clusterStatement nested id cluster] = [] := by
  cases cluster with
  | mk key label std members inner =>
    rw [gather_cluster c ignores_edge, edges_nodes, edges_inner c _ id 0 inner]
    rfl

theorem edges_inner (c : Clustering) (around : List Frame) (id : String) (n : Nat)
    (clusters : List Cluster) :
    gather Part.edge? around (c.innerStatements id n clusters) = [] := by
  cases clusters with
  | nil => simp [innerStatements, gather, bodyParts]
  | cons cluster rest =>
    rw [innerStatements, gather_cons .space,
      gather_cons (c.clusterStatement true (innerId id n) cluster), edges_cluster, edges_inner]
    rfl

end

theorem edges_clusterStatements (c : Clustering) {around : List Frame} (n : Nat)
    (clusters : List Cluster) :
    gather Part.edge? around (c.clusterStatements n clusters) = [] := by
  rw [gather_clusterStatements c ignores_edge, List.flatMap_eq_nil_iff]
  exact fun p _ => c.edges_cluster _ _ _ _

theorem edges_document (c : Clustering) (style : Style) :
    (c.document style).edges = gather Part.edge? [] c.edgeStatements := by
  rw [Document.edges, gather_document c ignores_edge, edges_clusterStatements, edges_nodes]
  rfl

def idAt (way : List Nat) : String :=
  way.foldl innerId "cluster"

def frameAt (way : List Nat) (k : Cluster) : Frame :=
  ⟨idAt way, clusterAttributes k.key k.label k.std (1 < way.length)⟩

theorem idAt_concat (way : List Nat) (n : Nat) : innerId (idAt way) n = idAt (way ++ [n]) := by
  rw [idAt, idAt, List.foldl_append]
  rfl

theorem frames_nodes (c : Clustering) {around : List Frame} (ids : List Nat) :
    gather Part.frame? around (c.nodes ids) = [] := by
  rw [gather_nodes]
  simp [Part.frame?]

mutual

theorem frames_cluster (c : Clustering) (around : List Frame) (way : List Nat) (filled : way ≠ [])
    (cluster : Cluster) :
    gather Part.frame? around [c.clusterStatement (1 < way.length) (idAt way) cluster] =
      (cluster.placed way).map fun p => frameAt p.1 p.2 := by
  cases cluster with
  | mk key label std members inner =>
    have own : Part.frame? ⟨around, c.clusterStatement (1 < way.length) (idAt way)
        (.mk key label std members inner)⟩ = some (frameAt way (.mk key label std members inner)) := by
      rw [clusterStatement, Part.frame?, frameOf_cluster]
      rfl
    rw [gather_cluster c ignores_frame, own, frames_nodes, frames_inner c _ way filled 0 inner,
      Cluster.placed]
    rfl

theorem frames_inner (c : Clustering) (around : List Frame) (way : List Nat) (filled : way ≠ [])
    (n : Nat) (clusters : List Cluster) :
    gather Part.frame? around (c.innerStatements (idAt way) n clusters) =
      (Cluster.placedIn way n clusters).map fun p => frameAt p.1 p.2 := by
  cases clusters with
  | nil => simp [innerStatements, gather, bodyParts, Cluster.placedIn]
  | cons cluster rest =>
    have nested : decide (1 < (way ++ [n]).length) = true := by
      have some_ := List.length_pos_iff.mpr filled
      simpa using some_
    have first := frames_cluster c around (way ++ [n]) (by simp) cluster
    rw [nested, ← idAt_concat] at first
    rw [innerStatements, gather_cons .space, gather_cons (c.clusterStatement true _ cluster), first,
      frames_inner c around way filled (n + 1) rest, Cluster.placedIn, List.map_append]
    rfl

end

theorem frames_clusterStatements (c : Clustering) (n : Nat) (clusters : List Cluster) :
    gather Part.frame? [] (c.clusterStatements n clusters) =
      (Cluster.placedIn [] n clusters).map fun p => frameAt p.1 p.2 := by
  induction clusters generalizing n with
  | nil => rfl
  | cons cluster rest ih =>
    have first := c.frames_cluster [] [n] (by simp) cluster
    rw [clusterStatements, gather_cons (c.clusterStatement false _ cluster), gather_cons .space, ih,
      Cluster.placedIn, List.map_append]
    exact congrArg (· ++ _) first

theorem frames_edgeStatements (c : Clustering) {around : List Frame} :
    gather Part.frame? around c.edgeStatements = [] := by
  rw [gather_edgeStatements]
  simp [Part.frame?, edgeStatement]

theorem frames_document (c : Clustering) (style : Style) : (c.document style).frames =
    (Cluster.placedIn [] 0 c.clusters).map fun p => frameAt p.1 p.2 := by
  rw [Document.frames, gather_document c ignores_frame, frames_nodes, frames_edgeStatements,
    List.append_nil, List.append_nil, frames_clusterStatements]

theorem toList_foldl_innerId (way : List Nat) (id : String) : (way.foldl innerId id).toList =
    id.toList ++ way.flatMap fun n => '_' :: Nat.toDigits 10 n := by
  induction way generalizing id with
  | nil => simp
  | cons n way ih => simp [ih, innerId]

theorem other_of_toDigits {n : Nat} {c : Char} (other : c.isDigit = false) : c ∉ Nat.toDigits 10 n := by
  intro within
  rw [allDigits_toDigits n c within] at other
  cases other

theorem splitChars_idAt (way : List Nat) :
    Text.splitChars '_' (idAt way).toList = "cluster".toList :: way.map (Nat.toDigits 10) := by
  have pieces (first : List Char) (plain : '_' ∉ first) :
      Text.splitChars '_' (first ++ way.flatMap fun n => '_' :: Nat.toDigits 10 n) =
        first :: way.map (Nat.toDigits 10) := by
    induction way generalizing first with
    | nil => simpa using Text.splitChars_plain plain
    | cons n way ih =>
      rw [List.flatMap_cons, List.cons_append, Text.splitChars_append, Text.splitChars_plain plain,
        ih _ (other_of_toDigits rfl)]
      rfl
  rw [idAt, toList_foldl_innerId]
  exact pieces _ (by decide)

theorem idAt_injective : Function.Injective idAt := by
  have digits : Function.Injective (Nat.toDigits 10) := by
    intro m n same
    rw [← ofDigits_toDigits m, same, ofDigits_toDigits]
  intro way way' same
  have pieces := splitChars_idAt way
  rw [same, splitChars_idAt] at pieces
  exact (List.map_injective_iff.mpr digits (List.cons.inj pieces).2).symm

theorem idAt_cons (n : Nat) (way : List Nat) : ∃ rest, idAt (n :: way) = "cluster_" ++ rest := by
  refine ⟨String.ofList (Nat.toDigits 10 n ++ way.flatMap fun n => '_' :: Nat.toDigits 10 n), ?_⟩
  apply String.toList_injective
  rw [idAt, toList_foldl_innerId]
  simp

theorem withoutReturns_idAt (way : List Nat) : withoutReturns (idAt way) = (idAt way).toList := by
  rw [withoutReturns, List.filter_eq_self, idAt, toList_foldl_innerId]
  intro c within
  simp only [List.mem_append, List.mem_flatMap, List.mem_cons] at within
  rw [decide_eq_true_eq]
  rintro rfl
  rcases within with within | ⟨n, -, within | within⟩
  · revert within
    decide
  · cases within
  · exact other_of_toDigits rfl within

theorem textLines_document (c : Clustering) (style : Style) :
    textLines (c.document style).text = (c.document style).lines ++ [[]] := by
  rw [textLines, Document.text, String.toList_ofList]
  exact (c.neat_lines style).split_joined

theorem filter_textLines (c : Clustering) (style : Style) {keep : List Char → Bool}
    {pick : Part → Option (List Char)} (keeps : Keeps keep 1 pick) :
    (textLines (c.document style).text).filter keep = gather pick [] (c.document style).body := by
  have name : isPlain "callvis".toList = true := by decide
  have lines := keeps.document (d := c.document style) name (c.neat_body style).neat
  have last : keep [] = false := keeps.dropped rfl
  rw [textLines_document, List.filter_append, lines, List.filter_cons, last]
  simp

theorem nodeLines_document (c : Clustering) (style : Style) :
    nodeLines (textLines (c.document style).text) =
    (c.document style).nodes.map fun n => indentation (1 + n.around.length) ++ n.chars := by
  rw [nodeLines, filter_textLines c style keeps_nodes, Document.nodes, gather, gather,
    List.map_filterMap]

theorem edgeLines_document (c : Clustering) (style : Style) :
    edgeLines (textLines (c.document style).text) =
    (c.document style).edges.map fun e => indentation 1 ++ e.chars := by
  have clusters : gather Part.edge? [] (c.clusterStatements 0 c.clusters) = [] :=
    c.edges_clusterStatements 0 c.clusters
  have nodes : gather Part.edge? [] (c.nodes c.ungrouped) = [] := c.edges_nodes c.ungrouped
  rw [gather_eq_nil_iff] at clusters nodes
  rw [edgeLines, filter_textLines c style keeps_edges, gather_document c keeps_edges.ignores,
    gather_eq_nil_iff.mpr fun p within => by rw [clusters p within, Option.map_none],
    gather_eq_nil_iff.mpr fun p within => by rw [nodes p within, Option.map_none],
    edges_document, gather_edgeStatements, gather_edgeStatements, List.map_filterMap]
  refine List.filterMap_congr fun e _ => ?_
  cases c.selection.graph.functions[e.caller]? with
  | none => rfl
  | some caller => cases c.selection.graph.functions[e.callee]? <;> rfl

theorem led_nodes (c : Clustering) (ids : List Nat) : Led (c.nodes ids) := by
  refine .ofLeaves fun s within => ?_
  obtain ⟨id, f, rfl⟩ := c.eq_of_mem_nodes within
  exact ⟨rfl, rfl⟩

theorem led_edgeStatements (c : Clustering) : Led c.edgeStatements := by
  refine .ofLeaves fun s within => ?_
  obtain ⟨e, caller, callee, rfl⟩ := c.eq_of_mem_edgeStatements within
  exact ⟨rfl, rfl⟩

mutual

theorem led_cluster (c : Clustering) (nested : Bool) (id : String) (cluster : Cluster) :
    Led [c.clusterStatement nested id cluster] := by
  cases cluster with
  | mk key label std members inner =>
    have settings : clusterSettings key label std nested =
        (clusterAttributes key label std nested).map .setting := rfl
    have keys : ∀ a ∈ clusterAttributes key label std nested, ' ' ∉ a.1.toList ∧ '=' ∉ a.1.toList := by
      simp [clusterAttributes, clusterSettings, Statement.setting?]
    have inside : Led (.space :: (c.nodes members ++ c.innerStatements id 0 inner)) :=
      .leaf rfl rfl ((c.led_nodes members).append (c.led_inner id 0 inner))
    rw [clusterStatement, settings, List.append_assoc]
    exact .subgraph keys inside .nil

theorem led_inner (c : Clustering) (id : String) (n : Nat) (clusters : List Cluster) :
    Led (c.innerStatements id n clusters) := by
  cases clusters with
  | nil =>
    rw [innerStatements]
    exact .nil
  | cons cluster rest =>
    rw [innerStatements]
    exact .leaf rfl rfl
      ((c.led_cluster true (innerId id n) cluster).append (c.led_inner id (n + 1) rest))

end

theorem led_clusterStatements (c : Clustering) (n : Nat) (clusters : List Cluster) :
    Led (c.clusterStatements n clusters) := by
  induction clusters generalizing n with
  | nil => exact .nil
  | cons cluster rest ih =>
    exact (c.led_cluster false (innerId "cluster" n) cluster).append (.leaf rfl rfl (ih (n + 1)))

theorem led_ungroupedStatements (c : Clustering) : Led c.ungroupedStatements := by
  unfold ungroupedStatements
  split
  · exact .nil
  · exact (c.led_nodes c.ungrouped).append (.leaf rfl rfl .nil)

theorem led_document (c : Clustering) (style : Style) :
    ∃ head rest, (c.document style).body = head ++ rest ∧
    (∀ s ∈ head, s.isLeaf = true) ∧ Led rest := by
  refine ⟨headStatements style, _, List.append_assoc _ _ _ |>.trans (List.append_assoc _ _ _), ?_,
    (c.led_clusterStatements 0 c.clusters).append (c.led_ungroupedStatements.append c.led_edgeStatements)⟩
  simp [headStatements, Statement.isLeaf]

theorem placedNodes_document (c : Clustering) (style : Style) :
    placedNodes (textLines (c.document style).text) =
    (c.document style).nodes.map NodePart.placed := by
  obtain ⟨head, rest, body, leaves, led⟩ := c.led_document style
  rw [textLines_document]
  exact Dot.placedNodes_document body leaves led (c.neat_body style).neat

theorem readFrames_document (c : Clustering) (style : Style) :
    readFrames (textLines (c.document style).text) =
    (c.document style).frames.map Frame.readBack := by
  obtain ⟨head, rest, body, leaves, led⟩ := c.led_document style
  rw [textLines_document]
  exact Dot.readFrames_document body leaves led

/-- Each cluster has a subgraph of its own, however deep it stands. The identifier is made of the
numbers on the way to the cluster and begins with that of an outermost one; so no two subgraphs have
the same, neither in the document nor in the lines of the text. -/
theorem subgraphs_identified (c : Clustering) (style : Style) :
    let d := c.document style
    (∀ frame, frame ∈ d.frames ↔
      ∃ way k, Cluster.at? c.clusters way = some k ∧ frame = frameAt way k) ∧
    d.frames.length = (Cluster.allOf c.clusters).length ∧
    (d.frames.map (·.id)).Nodup ∧
    (∀ frame ∈ d.frames, ∃ rest, frame.id = "cluster_" ++ rest) ∧
    (textLines (c.render style)).filterMap readSubgraph? = d.frames.map (·.id.toList) := by
  have places (w : List Nat) (k : Cluster) :
      (w, k) ∈ Cluster.placedIn [] 0 c.clusters ↔ Cluster.at? c.clusters w = some k := by
    rw [Cluster.mem_placedIn]
    cases w with
    | nil => simp [Cluster.at?]
    | cons n way => simp [eq_comm]
  simp only [frames_document]
  refine ⟨fun frame => ?_, ?_, ?_, fun frame within => ?_, ?_⟩
  · simp only [List.mem_map, Prod.exists, places, eq_comm]
  · rw [← Cluster.map_placedIn [] 0, List.length_map, List.length_map]
  · rw [List.map_map]
    have ids : (Frame.id ∘ fun p : List Nat × Cluster => frameAt p.1 p.2) = idAt ∘ (·.1) := rfl
    rw [ids, ← List.map_map]
    exact (Cluster.nodup_placedIn [] 0 c.clusters).map idAt_injective
  · obtain ⟨⟨w, k⟩, placed, rfl⟩ := List.mem_map.mp within
    obtain ⟨i, rest, rfl, -⟩ := (Cluster.mem_placedIn [] 0 c.clusters).mp placed
    exact idAt_cons _ _
  · have last : readSubgraph? [] = none := rfl
    rw [render, textLines_document, List.filterMap_append, Document.subgraphs, frames_document,
      List.filterMap_cons_none last, List.filterMap_nil, List.append_nil, List.map_map, List.map_map]
    exact List.map_congr_left fun p _ => withoutReturns_idAt p.1

end Clustering
end CallChart
