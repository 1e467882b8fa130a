import CallChart.Failure
import CallChart.Graph
import CallChart.Options

namespace CallChart

/-- The positions of the kept functions, of the kept edges and of the focus, all increasing. The
focus may have functions that are not kept. -/
structure Selection where
  graph : CallGraph
  nodes : List Nat
  edges : List Nat
  focus : List Nat
  deriving DecidableEq, Repr

namespace CallGraph

/-- The functions that a focus names: the function of that name, or else all of the package with
that path, or else all of the packages with that name. An empty focus names none. -/
def resolveFocus (g : CallGraph) (focus : String) : Except Failure (List Nat) :=
  let focus := Text.trim focus
  if focus = "" then .ok []
  else
    match g.find? focus with
    | some id => .ok [id]
    | none =>
      if (g.package? focus).isSome then .ok (g.inPackage focus)
      else
        let paths := (g.packages.filter (·.name = focus)).map (·.path)
        if paths = [] then .error (.focusNotFound focus)
        else .ok (g.positions fun f => paths.contains f.package)

def startsWithAny (path : String) (starts : List String) : Bool :=
  starts.any (Text.startsWith · path)

def isStandard (g : CallGraph) (path : String) : Bool :=
  (g.package? path).any (·.std)

/-- Whether the options keep a function; `retained` are the ones kept for being near the focus. -/
def keeps (g : CallGraph) (o : Options) (retained : List Nat) (id : Nat) (f : Function) : Bool :=
  !f.synthetic
    && (!f.test || o.tests)
    && (o.included.isEmpty || startsWithAny f.package o.included)
    && !startsWithAny f.package o.ignored
    && (o.limited.isEmpty || startsWithAny f.package o.limited)
    && !(o.nostd && g.isStandard f.package)
    && (!o.nointer || f.exported || retained.contains id)

def select (g : CallGraph) (o : Options) : Except Failure Selection := do
  let focus ← g.resolveFocus o.focus
  let retained := if o.nointer then g.reachable focus o.retention.maxDepth else []
  let nodes := (List.range g.functions.length).filter fun id =>
    g.functions[id]?.any (g.keeps o retained id)
  let edges := (List.range g.edges.length).filter fun id =>
    g.edges[id]?.any fun e => nodes.contains e.caller && nodes.contains e.callee
  pure ⟨g, nodes, edges, focus⟩

end CallGraph
end CallChart
