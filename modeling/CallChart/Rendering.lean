import CallChart.Analysis
import CallChart.Cache
import CallChart.Describe
import CallChart.Engine

namespace CallChart

structure Output where
  base : Option String
  format : String
  deriving DecidableEq, Repr

namespace Output

def descriptionFormat : String := "gv"

def withSuffix (base suffix : String) : String :=
  base ++ "." ++ suffix

def descriptionPath (o : Output) : Option String :=
  o.base.map (withSuffix · descriptionFormat)

def imagePath (o : Output) : Option String :=
  if o.format = descriptionFormat then none else o.base.map (withSuffix · o.format)

def summary (o : Output) : String :=
  let base := match o.base with
    | none => "None"
    | some path => "Some(" ++ Text.quoted path ++ ")"
  "OutputTarget \x7b base: " ++ base ++ ", format: " ++ Text.quoted o.format ++ " \x7d"

end Output

structure Rendering where
  artifact : Artifact
  descriptionPath : Option String
  imagePath : Option String
  deriving DecidableEq, Repr

structure Renderer where
  analysis : Analysis
  cache : Cache
  output : Output
  computations : Nat

namespace Renderer

def fingerprint (r : Renderer) (o : Options) : Fingerprint :=
  Fingerprint.compute r.analysis.id o.normalized r.output.format

def admitted (r : Renderer) (o : Options) : Except Failure Options := do
  Engine.checkFormat r.output.format
  let o := o.normalized
  o.check
  pure o

def artifact (r : Renderer) (fp : Fingerprint) (description : String)
    (image : Option (List UInt8)) (now : Timestamp) : Artifact :=
  ⟨fp, description, image, r.output.format, now⟩

/-- The steps that write a file beside the target and move it onto the target, which so is never
there in parts. -/
def wholeSteps (path : String) (bytes : List UInt8) : List FileStep :=
  let aside := Output.withSuffix path "tmp"
  [.write aside bytes, .rename aside path]

def imageTarget (output : Output) (a : Artifact) : Option (String × List UInt8) :=
  match output.imagePath, a.image with
  | some path, some image => some (path, image)
  | _, _ => none

def targets (output : Output) (a : Artifact) : List (String × List UInt8) :=
  (output.descriptionPath.map fun path => (path, Utf8.encode a.description)).toList ++
    (imageTarget output a).toList

def outputSteps (output : Output) (a : Artifact) : List FileStep :=
  (targets output a).flatMap fun target => wholeSteps target.1 target.2

def writeOutputs (output : Output) (a : Artifact) (fs : Files) :
    Except Failure Rendering × Files :=
  match FileStep.run fs (outputSteps output a) with
  | (.error (step, fault), fs) => (.error (.fileFault step.path fault.message), fs)
  | (.ok (), fs) =>
    (.ok ⟨a, output.descriptionPath, (imageTarget output a).map (·.1)⟩, fs)

def deliver (r : Renderer) (result : Except Failure Artifact) (fs : Files) :
    Except Failure Rendering × Files :=
  match result with
  | .error e => (.error e, fs)
  | .ok a => writeOutputs r.output a fs

inductive Start where
  | settled (result : Except Failure Artifact)
  | image (fp : Fingerprint) (description : String)

def compute (r : Renderer) (fp : Fingerprint) (o : Options) (now : Timestamp) : Start :=
  match r.analysis.graph.describe o with
  | .error e => .settled (.error e)
  | .ok description =>
    if r.output.format = Output.descriptionFormat then
      .settled (.ok (r.artifact fp description none now))
    else .image fp description

inductive Lookup where
  | settled (result : Except Failure Artifact)
  | missing (fp : Fingerprint) (options : Options)

def lookUp (r : Renderer) (o : Options) (refresh : Bool) (fs : Files) : Lookup :=
  match r.admitted o with
  | .error e => .settled (.error e)
  | .ok o =>
    let fp := r.fingerprint o
    match r.cache.stored? fp refresh fs with
    | some a => .settled (.ok a)
    | none => .missing fp o

def start (r : Renderer) (fp : Fingerprint) (o : Options) (now : Timestamp) (fs : Files) :
    Start × Renderer × Files :=
  let counted := { r with computations := r.computations + 1 }
  match r.compute fp o now with
  | .settled result => (.settled result, counted, r.cache.settle result fs)
  | start => (start, counted, fs)

def begin (r : Renderer) (o : Options) (refresh : Bool) (now : Timestamp) (fs : Files) :
    Start × Renderer × Files :=
  match r.lookUp o refresh fs with
  | .settled result => (.settled result, r, fs)
  | .missing fp o => r.start fp o now fs

def complete (r : Renderer) (fp : Fingerprint) (description : String)
    (answer : Except Failure (List UInt8)) (now : Timestamp) (fs : Files) :
    Except Failure Artifact × Files :=
  let result := answer.map fun image => r.artifact fp description (some image) now
  (result, r.cache.settle result fs)

def render (r : Renderer) (engine : Engine) (o : Options) (refresh : Bool) (now : Timestamp)
    (fs : Files) : Except Failure Rendering × Renderer × Files × Bool :=
  match r.begin o refresh now fs with
  | (.settled result, r, fs) =>
    let (rendering, fs) := r.deliver result fs
    (rendering, r, fs, false)
  | (.image fp description, r, fs) =>
    let (answer, fs) := engine.convert description r.output.format fs
    let (result, fs) := r.complete fp description answer now fs
    let (rendering, fs) := r.deliver result fs
    (rendering, r, fs, true)

def summary (r : Renderer) (engine : Engine) : String :=
  "PipelineRunner \x7b run: " ++ Text.quoted r.analysis.id ++
    ", entry: " ++ Text.quoted r.analysis.entry ++
    ", converter: " ++ Text.quoted engine.name ++ ", output: " ++ r.output.summary ++
    ", computations: " ++ toString r.computations ++ " \x7d"

end Renderer
end CallChart
