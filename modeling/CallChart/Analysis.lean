import CallChart.Digest.Sha256
import CallChart.Export
import CallChart.Failure
import CallChart.Graph
import CallChart.Text.Utf8

namespace CallChart

structure Analysis where
  id : String
  entry : String
  tests : Bool
  graph : CallGraph
  deriving DecidableEq, Repr

namespace Export

inductive Fault where
  | function (fault : CallGraph.Fault)
  | unknownFunction (name : String)
  | missingEntry
  | notMain (name : String)
  deriving DecidableEq, Repr

def Fault.message : Fault → String
  | .function fault => fault.message
  | .unknownFunction name => "call references unknown function " ++ name
  | .missingEntry => "package not found in call graph"
  | .notMain name =>
    "package " ++ name ++ " is not a main package (enable tests to analyze it)"

def Package.resolved (entry : String) (p : Package) : CallChart.Package :=
  ⟨p.path, p.name, p.std.getD (CallChart.Package.isStandard p.path entry)⟩

def Function.shortName (f : Function) : String :=
  f.short.getD (Text.afterLast '.' f.name)

def Function.resolved (f : Function) : CallChart.Function where
  name := f.name
  short := f.shortName
  package := f.package
  receiver := f.receiver.map fun r => ⟨r.typeName, r.pointer⟩
  exported := f.exported.getD (isExportedName f.shortName)
  synthetic := f.synthetic
  test := f.test

def addFunctions (g : CallGraph) : List Function → Except Fault CallGraph
  | [] => .ok g
  | f :: rest =>
    match g.addFunction f.resolved with
    | .error fault => .error (.function fault)
    | .ok (g, _) => addFunctions g rest

def addCalls (g : CallGraph) : List Call → Except Fault CallGraph
  | [] => .ok g
  | call :: rest =>
    match g.find? call.caller with
    | none => .error (.unknownFunction call.caller)
    | some caller =>
      match g.find? call.callee with
      | none => .error (.unknownFunction call.callee)
      | some callee => addCalls (g.addCall caller callee call.dynamic).1 rest

def graph (x : Export) (entry : String) : Except Fault CallGraph := do
  let packages := (x.packages.map (Package.resolved entry)).foldl CallGraph.addPackage .empty
  let functions ← addFunctions packages x.functions
  addCalls functions x.calls

def graphFor (x : Export) (entry : String) (tests : Bool) : Except Fault CallGraph := do
  let g ← x.graph entry
  match g.package? entry with
  | none => .error .missingEntry
  | some p => if p.name ≠ "main" ∧ ¬ tests then .error (.notMain p.name) else pure g

end Export

namespace Analysis

def identityBytes (bytes : List UInt8) (entry : String) (tests : Bool) : List UInt8 :=
  bytes ++ [0] ++ Utf8.encode entry ++ [if tests then 1 else 0]

def resolve (x : Export) (bytes : List UInt8) (entry : String) (tests : Bool) :
    Except Failure Analysis :=
  match x.graphFor entry tests with
  | .error fault => .error (.analysisUnavailable entry fault.message)
  | .ok graph =>
    .ok ⟨Sha256.hex (Sha256.digest (identityBytes bytes entry tests)), entry, tests, graph⟩

def readExport (path : String) (bytes : List UInt8) (entry : String) : Except Failure Export :=
  match Export.ofBytes bytes with
  | .ok x => .ok x
  | .error reason =>
    .error (.analysisUnavailable entry ("malformed call graph " ++ path ++ ": " ++ reason))

def load (path : String) (bytes : List UInt8) (entry : String) (tests : Bool) :
    Except Failure Analysis := do
  let x ← readExport path bytes entry
  resolve x bytes entry tests

end Analysis
end CallChart
