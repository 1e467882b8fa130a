import CallChart.Proofs.Analysis
import CallChart.Proofs.Json.Record
import CallChart.Proofs.Json.RoundTrip
import CallChart.Sample

namespace CallChart

namespace Json

theorem Lawful.optional {α : Type} {write : α → Json} {read : Json → Result α}
    (lawful : Lawful write read) (filled : ∀ a, write a ≠ .null) :
    Lawful (Export.optional write) (readOption read) where
  plain
    | none => trivial
    | some a => lawful.plain a
  read_write
    | none => rfl
    | some a => by
      have value : readOption read (write a) = (read (write a)).map some := by
        unfold readOption
        split
        · exact (filled a ‹_›).elim
        · rfl
      rw [Export.optional, value, lawful.read_write]
      rfl

/-- A record becomes another one as its fields are read from the members of an object, each in its
turn. -/
inductive Fills {α : Type} (origin : Origin) :
    List (Field α) → List (String × Json) → α → α → Prop where
  | nil {a : α} : Fills origin [] [] a a
  | cons {field : Field α} {value : Json} {set : α → α} {fields : List (Field α)}
      {members : List (String × Json)} {b a : α} :
    Plain value → field.read origin value = .ok set → Fills origin fields members (set b) a →
      Fills origin (field :: fields) ((field.name, value) :: members) b a

theorem Lawful.fills {α β : Type} {origin : Origin} {fields : List (Field α)}
    {members : List (String × Json)} {a b : α} {write : β → Json} {read : Json → Result β}
    (lawful : Lawful write read) {field : Field α} {set : β → α → α} (value : β)
    (sets : ∀ j, field.read origin j = (read j).map set)
    (rest : Fills origin fields members (set value b) a) :
    Fills origin (field :: fields) ((field.name, write value) :: members) b a := by
  refine .cons (lawful.plain value) ?_ rest
  rw [sets, lawful.read_write]
  rfl

theorem Fills.plain {α : Type} {origin : Origin} {fields : List (Field α)}
    {members : List (String × Json)} {a b : α} (fills : Fills origin fields members b a) :
    Plain (ofFields members) := by
  induction fills with
  | nil => trivial
  | cons plain _ _ ih => exact ⟨rfl, plain, ih⟩

theorem Fills.readMembers {α : Type} {origin : Origin} {fields : List (Field α)}
    {members : List (String × Json)} {a b : α} {shape : Shape α}
    (fills : Fills origin fields members b a) {seen : List String}
    (known : ∀ field ∈ fields, shape.fields.find? (·.name = field.name) = some field)
    (apart : (fields.map (·.name)).Nodup) (fresh : ∀ field ∈ fields, field.name ∉ seen) :
    shape.readMembers origin seen b (members.map fun (key, value) => (some key, value)) =
      .ok ((fields.map (·.name)).reverse ++ seen, a) := by
  induction fills generalizing seen with
  | nil => rfl
  | @cons field value set fields members b a _ read _ ih =>
    rw [List.map_cons, List.nodup_cons] at apart
    obtain ⟨first, others⟩ := List.forall_mem_cons.mp known
    obtain ⟨unseen, unseenLater⟩ := List.forall_mem_cons.mp fresh
    -- The name just read is none of those to come, so no member is taken for a second one.
    have later : ∀ f ∈ fields, f.name ∉ field.name :: seen := by
      intro f within
      rw [List.mem_cons, not_or]
      exact ⟨fun same => apart.1 (same ▸ List.mem_map_of_mem within), unseenLater f within⟩
    have after := ih others apart.2 later
    rw [List.map_cons, Shape.readMembers_cons first (by simpa using unseen) read after]
    simp

/-- An object with a member for each field, in the order of the fields, is read as what fills the
blank record. -/
theorem Fills.read {α : Type} {origin : Origin} {members : List (String × Json)} {a : α}
    {shape : Shape α} (fills : Fills origin shape.fields members shape.blank a)
    (apart : shape.names.Nodup) : shape.read origin (ofFields members) = .ok a := by
  have known (field : Field α) (within : field ∈ shape.fields) := shape.find?_name apart within
  refine Shape.read_object (fills.readMembers known apart nofun) ?_
  rw [List.find?_eq_none]
  intro field within
  have seen : field.name ∈ shape.fields.map (·.name) := List.mem_map_of_mem within
  simp [seen]

theorem lawful_record {α : Type} {origin : Origin} {shape : Shape α}
    {write : α → List (String × Json)} (apart : shape.names.Nodup)
    (fills : ∀ a, Fills origin shape.fields (write a) shape.blank a) :
    Lawful (fun a => ofFields (write a)) (shape.read origin) where
  plain a := (fills a).plain
  read_write a := (fills a).read apart

end Json

namespace Export

open Json

theorem Package.lawful (origin : Origin) : Lawful Package.toJson (Package.shape.read origin) :=
  lawful_record (by decide) fun p =>
    lawful_text.fills p.path (fun _ => rfl) <|
    lawful_text.fills p.name (fun _ => rfl) <|
    (lawful_bool.optional nofun).fills p.std (fun _ => rfl) .nil

theorem Receiver.lawful (origin : Origin) : Lawful Receiver.toJson (Receiver.shape.read origin) :=
  lawful_record (by decide) fun r =>
    lawful_text.fills r.typeName (fun _ => rfl) <|
    lawful_bool.fills r.pointer (fun _ => rfl) .nil

theorem Function.lawful (origin : Origin) : Lawful Function.toJson (Function.shape.read origin) :=
  lawful_record (by decide) fun f =>
    lawful_text.fills f.name (fun _ => rfl) <|
    lawful_text.fills f.package (fun _ => rfl) <|
    (lawful_text.optional nofun).fills f.short (fun _ => rfl) <|
    ((Receiver.lawful origin).optional nofun).fills f.receiver (fun _ => rfl) <|
    (lawful_bool.optional nofun).fills f.exported (fun _ => rfl) <|
    lawful_bool.fills f.synthetic (fun _ => rfl) <|
    lawful_bool.fills f.test (fun _ => rfl) .nil

theorem Call.lawful (origin : Origin) : Lawful Call.toJson (Call.shape.read origin) :=
  lawful_record (by decide) fun c =>
    lawful_text.fills c.caller (fun _ => rfl) <|
    lawful_text.fills c.callee (fun _ => rfl) <|
    lawful_bool.fills c.dynamic (fun _ => rfl) .nil

theorem lawful (origin : Origin) : Lawful toJson (shape.read origin) :=
  lawful_record (by decide) fun x =>
    (Package.lawful origin).list.fills x.packages (fun _ => rfl) <|
    (Function.lawful origin).list.fills x.functions (fun _ => rfl) <|
    (Call.lawful origin).list.fills x.calls (fun _ => rfl) .nil

theorem ofBytes_encode (text : String) :
    ofBytes (Utf8.encode text) = readDocument shape (parse? text) := by
  rw [ofBytes, parseBytes?, Utf8.scanned_encode, parse?]

theorem ofBytes_text (x : Export) : ofBytes (Utf8.encode x.text) = .ok x := by
  have parsed : parse? x.text = some x.toJson := parse?_compact ((lawful .document).plain x)
  rw [ofBytes_encode, parsed]
  exact readDocument_ok ((lawful .document).read_write x)

end Export

namespace Analysis

theorem readExport_text (path entry : String) (x : Export) :
    readExport path (Utf8.encode x.text) entry = .ok x := by
  rw [readExport, x.ofBytes_text]

example : readExport "callgraph.json" (Utf8.encode Sample.text) Sample.entry = .ok {
    packages := [⟨"app", "main", none⟩, ⟨"lib", "lib", some false⟩, ⟨"fmt", "fmt", none⟩]
    functions := [⟨"app.main", "app", none, none, none, false, false⟩,
      ⟨"lib.Do", "lib", none, none, none, false, false⟩,
      ⟨"lib.helper", "lib", none, none, none, false, false⟩,
      ⟨"fmt.Println", "fmt", none, none, none, false, false⟩]
    calls := [⟨"app.main", "lib.Do", false⟩, ⟨"lib.Do", "lib.helper", false⟩,
      ⟨"lib.helper", "fmt.Println", false⟩] } := by
  rw [readExport, Export.ofBytes_encode, Json.parse?, Sample.text, String.toList_join]
  simp only [Sample.lines, List.flatMap_cons, List.flatMap_nil, String.reduceToList]
  decide +kernel

theorem resolve_bytes (x : Export) (bytes bytes' : List UInt8) (entry : String) (tests : Bool) :
    resolve x bytes' entry tests = (resolve x bytes entry tests).map fun a =>
      { a with id := Sha256.hex (Sha256.digest (identityBytes bytes' entry tests)) } := by
  unfold resolve
  cases x.graphFor entry tests <;> rfl

theorem load_of_readExport {path entry : String} {bytes : List UInt8} {x : Export}
    (read : readExport path bytes entry = .ok x) (tests : Bool) :
    load path bytes entry tests = resolve x bytes entry tests := by
  rw [load, read]
  rfl

/-- The text of an export is read as this export. An export that was read from whatever bytes can
therefore be written anew: it is read as the same one again, and it has the same call graph, under the
identity of its new bytes, or fails for the same reason. -/
theorem load_rewritten (path entry : String) :
    (∀ x : Export, readExport path (Utf8.encode x.text) entry = .ok x) ∧
    ∀ bytes x, readExport path bytes entry = .ok x →
      readExport path (Utf8.encode x.text) entry = .ok x ∧
      ∀ tests, load path (Utf8.encode x.text) entry tests =
        (load path bytes entry tests).map fun a => { a with
          id := Sha256.hex (Sha256.digest (identityBytes (Utf8.encode x.text) entry tests)) } := by
  refine ⟨readExport_text path entry, fun bytes x read => ⟨readExport_text path entry x, ?_⟩⟩
  intro tests
  rw [load_of_readExport read, load_of_readExport (readExport_text path entry x)]
  exact resolve_bytes x bytes (Utf8.encode x.text) entry tests

/-- An export with arrays for records, keys out of order, keys that mean nothing and escapes that are
not needed. -/
def oddExport : List UInt8 :=
  Utf8.encode "\x7b\"calls\": [[\"app.main\", \"(T).\\u0041\\\"\"]]," ++
  Utf8.encode "\"seen\": [1e999, \"\\ud800\"], \"functions\": [" ++
  Utf8.encode "\x7b\"package\": \"app\", \"name\": \"app.main\", \"func\": null\x7d," ++
  Utf8.encode "[\"(T).A\\\"\", \"app\", \"\\ud83d\\ude00\", \x7b\"type\": \"T\"\x7d]]," ++
  Utf8.encode "\"packages\": [[\"app\", \"main\"]]\x7d"

def plainExport : Export where
  packages := [⟨"app", "main", none⟩]
  functions := [⟨"app.main", "app", none, none, none, false, false⟩,
    ⟨"(T).A\"", "app", some "😀", some ⟨"T", false⟩, none, false, false⟩]
  calls := [⟨"app.main", "(T).A\"", false⟩]

theorem oddExport_rewritten : ∃ a, load "graph.json" oddExport "app" false = .ok a ∧
    readExport "graph.json" oddExport "app" = .ok plainExport ∧
    readExport "graph.json" (Utf8.encode plainExport.text) "app" = .ok plainExport ∧
    load "graph.json" (Utf8.encode plainExport.text) "app" false = .ok { a with
      id := Sha256.hex
        (Sha256.digest (identityBytes (Utf8.encode plainExport.text) "app" false)) } := by
  have read : readExport "graph.json" oddExport "app" = .ok plainExport := by decide +kernel
  have accepted : (load "graph.json" oddExport "app" false).isOk = true := by
    rw [load_of_readExport read]
    decide +kernel
  obtain ⟨a, loaded⟩ := exists_of_isOk accepted
  obtain ⟨again, rewritten⟩ := (load_rewritten "graph.json" "app").2 oddExport plainExport read
  refine ⟨a, loaded, read, again, ?_⟩
  rw [rewritten, loaded]
  rfl

end Analysis
end CallChart
