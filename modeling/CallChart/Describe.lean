import CallChart.Cluster
import CallChart.Dot.Document
import CallChart.Text.Percent

namespace CallChart

def focusLink (target : String) : String :=
  "/render?focus=" ++ Percent.encode target

namespace Clustering

open Dot

variable (c : Clustering)

def nodeFill (id : Nat) (f : Function) : List Attribute :=
  if c.selection.focus.contains id then [("fillcolor", "lightblue"), ("penwidth", "2.0")]
  else if f.exported then [("fillcolor", "#adedad")]
  else [("fillcolor", "moccasin")]

def nodeAttributes (id : Nat) (f : Function) : List Attribute :=
  [("label", f.label), ("tooltip", f.name ++ " | package " ++ f.package),
    ("URL", focusLink f.name)] ++ c.nodeFill id f

def nodes (ids : List Nat) : List Statement :=
  ids.filterMap fun id =>
    c.selection.graph.functions[id]?.map fun f => .node f.name (c.nodeAttributes id f)

def clusterFill (std nested : Bool) : String :=
  if std then "#e0ffe1" else if nested then "lemonchiffon" else "lightyellow"

def clusterSettings (key : ClusterKey) (label : String) (std nested : Bool) : List Statement :=
  [.setting ("label", label), .setting ("tooltip", key.text),
    .setting ("URL", focusLink key.text), .setting ("fontsize", if nested then "15" else "16"),
    .setting ("style", "filled"), .setting ("fillcolor", clusterFill std nested),
    .setting ("penwidth", "0.8")]

def innerId (id : String) (n : Nat) : String :=
  id ++ "_" ++ toString n

mutual

def clusterStatement (nested : Bool) (id : String) : Cluster → Statement
  | .mk key label std members inner =>
    .subgraph id
      (clusterSettings key label std nested ++ .space :: c.nodes members ++
        innerStatements id 0 inner)

def innerStatements (id : String) (n : Nat) : List Cluster → List Statement
  | [] => []
  | cluster :: rest =>
    .space :: clusterStatement true (innerId id n) cluster :: innerStatements id (n + 1) rest

end

def clusterStatements (n : Nat) : List Cluster → List Statement
  | [] => []
  | cluster :: rest =>
    c.clusterStatement false (innerId "cluster" n) cluster :: .space ::
      clusterStatements (n + 1) rest

def edgeTooltip (caller callee : String) (sites : Nat) : String :=
  caller ++ " --> " ++ callee ++
    (if 1 < sites then " (" ++ toString sites ++ " call sites)" else "")

/-- A dashed edge has calls that are resolved at run time; a colored one leaves its package. -/
def edgeStatement (e : Edge) (caller callee : Function) : Statement :=
  .edge caller.name callee.name
    (("tooltip", edgeTooltip caller.name callee.name e.sites) ::
      (if e.isDynamic then [("style", "dashed")] else []) ++
      (if caller.package ≠ callee.package then [("color", "saddlebrown")] else []))

def sortedEdges : List Edge :=
  let g := c.selection.graph
  (c.selection.edges.filterMap fun id => g.edges[id]?).mergeSort fun a b =>
    decide (g.nameOf a.caller < g.nameOf b.caller) ||
      (g.nameOf a.caller == g.nameOf b.caller && decide (g.nameOf a.callee ≤ g.nameOf b.callee))

def edgeStatements : List Statement :=
  let g := c.selection.graph
  c.sortedEdges.filterMap fun e => do
    let caller ← g.functions[e.caller]?
    let callee ← g.functions[e.callee]?
    pure (edgeStatement e caller callee)

def headStatements (style : Style) : List Statement :=
  [.setting ("labeljust", "l"), .setting ("fontname", "Arial"), .setting ("fontsize", "14"),
    .setting ("rankdir", style.rankdir.text), .setting ("bgcolor", "lightgray"),
    .setting ("style", "solid"), .setting ("penwidth", "0.5"), .setting ("pad", "0.0"),
    .setting ("nodesep", Layout.plain.text style.nodesep), .space,
    .defaults "node" [("shape", style.nodeshape), ("style", style.nodestyle),
      ("fillcolor", "honeydew"), ("fontname", "Verdana"), ("penwidth", "1.0"),
      ("margin", "0.05,0.0")],
    .defaults "edge" [("minlen", toString style.minlen)], .space]

def ungroupedStatements : List Statement :=
  if c.ungrouped.isEmpty then [] else c.nodes c.ungrouped ++ [.space]

def document (style : Style) : Document where
  name := "callvis"
  body := headStatements style ++ c.clusterStatements 0 c.clusters ++ c.ungroupedStatements ++
    c.edgeStatements

def render (style : Style) : String :=
  (c.document style).text

end Clustering

namespace CallGraph

def drawing (g : CallGraph) (o : Options) : Except Failure String := do
  let selection ← g.select o
  pure ((selection.clustered o.group).render o.style)

def describe (g : CallGraph) (o : Options) : Except Failure String := do
  let o := o.normalized
  o.check
  g.drawing o

end CallGraph
end CallChart
