import CallChart.Json.Reader
import CallChart.Json.Shape
import CallChart.Options

namespace CallChart

namespace Style

def toFields (s : Style) : List (String × Json) :=
  [("minlen", .ofNat s.minlen), ("nodesep", .ofReal s.nodesep),
    ("nodeshape", .ofText s.nodeshape), ("nodestyle", .ofText s.nodestyle),
    ("rankdir", .ofText s.rankdir.text)]

def readChoice {α : Type} (ofText : String → Except Failure α) (j : Json) : Json.Result α := do
  let s ← Json.readText j
  match ofText s with
  | .ok a => pure a
  | .error e => .error (.refused e.message)

def shape : Json.Shape Style where
  title := "StyleOptions"
  exact := true
  blank := .default
  fields := [
    ⟨"minlen", false, fun _ j => (Json.readCount j).map fun n s => { s with minlen := n }⟩,
    ⟨"nodesep", false, fun _ j => (Json.readReal j).map fun x s => { s with nodesep := x }⟩,
    ⟨"nodeshape", false, fun _ j => (Json.readText j).map fun t s => { s with nodeshape := t }⟩,
    ⟨"nodestyle", false, fun _ j => (Json.readText j).map fun t s => { s with nodestyle := t }⟩,
    ⟨"rankdir", false, fun _ j =>
      (readChoice RankDir.ofText j).map fun d s => { s with rankdir := d }⟩]

end Style

namespace Options

def toFields (o : Options) : List (String × Json) :=
  [("focus", .ofText o.focus), ("group", .ofText o.group.text), ("limit", .ofTexts o.limited),
    ("ignore", .ofTexts o.ignored), ("include", .ofTexts o.included), ("nostd", .bool o.nostd),
    ("nointer", .bool o.nointer), ("tests", .bool o.tests),
    ("retention", .ofText o.retention.text), ("style", .ofFields o.style.toFields)]

def toJson (o : Options) : Json :=
  .ofFields o.toFields

def text (o : Options) : String :=
  o.toJson.compact

def readRetention (origin : Json.Origin) (j : Json) : Json.Result Retention := do
  let name ← Json.readVariant origin ["direct", "transitive"] j
  match Retention.ofName? name with
  | some retention => pure retention
  | none => .error (.unknownVariant name ["direct", "transitive"])

def shape : Json.Shape Options where
  title := "Options"
  exact := true
  blank := .default
  fields := [
    ⟨"focus", false, fun _ j => (Json.readText j).map fun s o => { o with focus := s }⟩,
    ⟨"group", false, fun _ j =>
      (Style.readChoice GroupMode.ofText j).map fun m o => { o with group := m }⟩,
    ⟨"limit", false, fun _ j =>
      (Json.readList Json.readText j).map fun l o => { o with limited := l }⟩,
    ⟨"ignore", false, fun _ j =>
      (Json.readList Json.readText j).map fun l o => { o with ignored := l }⟩,
    ⟨"include", false, fun _ j =>
      (Json.readList Json.readText j).map fun l o => { o with included := l }⟩,
    ⟨"nostd", false, fun _ j => (Json.readBool j).map fun b o => { o with nostd := b }⟩,
    ⟨"nointer", false, fun _ j => (Json.readBool j).map fun b o => { o with nointer := b }⟩,
    ⟨"tests", false, fun _ j => (Json.readBool j).map fun b o => { o with tests := b }⟩,
    ⟨"retention", false, fun origin j =>
      (readRetention origin j).map fun r o => { o with retention := r }⟩,
    ⟨"style", false, fun origin j =>
      (Style.shape.read origin j).map fun s o => { o with style := s }⟩]

def ofDocument (document : Option Json) : Except String Options :=
  Json.readDocument shape document

def ofBytes (bytes : List UInt8) : Except Failure Options :=
  match ofDocument (Json.parseBytes? bytes) with
  | .error reason => .error (.invalidOption "opts" (Utf8.decodeLossy bytes) reason)
  | .ok o => do
    o.check
    pure o

/-- The options with every field that the document names replaced by its value there. Keys that
name no option are left out of account. -/
def mergeDocument (o : Options) (patch : Json) : Json.Result Options :=
  shape.read .value (patch.sorted.mergedInto o.toJson.sorted)

def merge (o : Options) (payload : String) : Except Failure Options :=
  match (Json.parse? payload).filter (·.isComplete) with
  | none => .error (.invalidOption "opts" payload Json.Mismatch.unsound.message)
  | some patch =>
    if !patch.isObject then .error (.invalidOption "opts" payload "expected a JSON object")
    else
      match o.mergeDocument patch with
      | .error e => .error (.invalidOption "opts" payload e.message)
      | .ok merged => do
        merged.check
        pure merged

end Options
end CallChart
