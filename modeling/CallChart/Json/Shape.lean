import CallChart.Json.Value
import CallChart.Text.Quoted

namespace CallChart.Json

inductive Found where
  | null
  | bool (b : Bool)
  | number (n : Number)
  | text (s : String)
  | sequence
  | map

def Found.describe : Found → String
  | .null => "null"
  | .bool b => "boolean `" ++ toString b ++ "`"
  | .number (.whole n) => "integer `" ++ toString n ++ "`"
  | .number (.real x) => "floating point `" ++ numberLayout.text x ++ "`"
  | .text s => "string " ++ Text.quoted s
  | .sequence => "sequence"
  | .map => "map"

inductive Mismatch where
  | unsound
  | wrongType (found : Found) (expected : String)
  | wrongValue (found : Found) (expected : String)
  | unknownField (name : String) (fields : List String)
  | duplicateField (name : String)
  | missingField (name : String)
  | unknownVariant (name : String) (variants : List String)
  | shortArray (length : Nat) (title : String) (fields : Nat)
  | longArray (length : Nat)
  | trailing
  | noVariant
  | refused (reason : String)

def choices : List String → String
  | [] => "there are no fields"
  | [a] => "expected `" ++ a ++ "`"
  | [a, b] => "expected `" ++ a ++ "` or `" ++ b ++ "`"
  | names => "expected one of " ++ ", ".intercalate (names.map fun a => "`" ++ a ++ "`")

def Mismatch.message : Mismatch → String
  | .unsound => "malformed JSON"
  | .wrongType found expected => "invalid type: " ++ found.describe ++ ", expected " ++ expected
  | .wrongValue found expected => "invalid value: " ++ found.describe ++ ", expected " ++ expected
  | .unknownField name fields => "unknown field `" ++ name ++ "`, " ++ choices fields
  | .duplicateField name => "duplicate field `" ++ name ++ "`"
  | .missingField name => "missing field `" ++ name ++ "`"
  | .unknownVariant name variants => "unknown variant `" ++ name ++ "`, " ++ choices variants
  | .shortArray length title fields =>
    "invalid length " ++ toString length ++ ", expected struct " ++ title ++ " with " ++
      toString fields ++ (if fields = 1 then " element" else " elements")
  | .longArray length =>
    "invalid length " ++ toString length ++ ", expected fewer elements in array"
  | .trailing => "trailing characters"
  | .noVariant => "expected value"
  | .refused reason => reason

/-- Whether the tree comes straight from a text, is a value that was put together, or comes from a
settings file. They differ on long arrays and on variants. -/
inductive Origin where
  | document
  | value
  | settings
  deriving DecidableEq, Repr

abbrev Result (α : Type) := Except Mismatch α

def mismatch (expected : String) : Json → Mismatch
  | .null => .wrongType .null expected
  | .bool b => .wrongType (.bool b) expected
  | .number none => .unsound
  | .number (some n) => .wrongType (.number n) expected
  | .text none => .unsound
  | .text (some s) => .wrongType (.text s) expected
  | .array _ => .wrongType .sequence expected
  | .object _ => .wrongType .map expected

def readText : Json → Result String
  | .text (some s) => .ok s
  | j => .error (mismatch "a string" j)

def readBool : Json → Result Bool
  | .bool b => .ok b
  | j => .error (mismatch "a boolean" j)

def readCount : Json → Result Nat
  | .number (some (.whole n)) =>
    if 0 ≤ n ∧ n < Nat.pow 2 32 then .ok n.toNat
    else .error (.wrongValue (.number (.whole n)) "u32")
  | j => .error (mismatch "u32" j)

def readReal : Json → Result Binary64
  | .number (some n) => .ok n.toReal
  | j => .error (mismatch "f64" j)

def readItems {α : Type} (read : Json → Result α) : List Json → Result (List α)
  | [] => .ok []
  | item :: rest => do
    let a ← read item
    let others ← readItems read rest
    pure (a :: others)

def readList {α : Type} (read : Json → Result α) : Json → Result (List α)
  | .array items => readItems read items
  | j => .error (mismatch "a sequence" j)

def readOption {α : Type} (read : Json → Result α) : Json → Result (Option α)
  | .null => .ok none
  | j => (read j).map some

def readNull : Json → Result Unit
  | .null => .ok ()
  | j => .error (mismatch "unit" j)

def readVariantName (variants : List String) (name : Option String) : Result String :=
  match name with
  | none => .error .unsound
  | some s => if variants.contains s then .ok s else .error (.unknownVariant s variants)

/-- The name of a variant, alone or as the one key of an object whose value is null, or
empty in a settings file. -/
def readVariant (origin : Origin) (variants : List String) : Json → Result String
  | .text s => readVariantName variants s
  | .object members =>
    match origin, members with
    | .document, [] => .error .noVariant
    | .document, (name, value) :: rest => do
      let s ← readVariantName variants name
      readNull value
      if rest.isEmpty then pure s else .error .noVariant
    | .value, [(name, value)] => do
      let s ← readVariantName variants name
      readNull value
      pure s
    | .settings, [(name, .object [])] => readVariantName variants name
    | .settings, [(name, .array [])] => readVariantName variants name
    | _, _ => .error (.wrongValue .map "map with a single key")
  | j =>
    match origin with
    | .document => .error .noVariant
    | _ => .error (mismatch "string or map" j)

structure Field (α : Type) where
  name : String
  required : Bool
  read : Origin → Json → Result (α → α)

structure Shape (α : Type) where
  title : String
  fields : List (Field α)
  exact : Bool
  blank : α

namespace Shape

variable {α : Type} (shape : Shape α)

def names : List String :=
  shape.fields.map (·.name)

/-- Reads the members from left to right; `seen` holds the names of the fields read before. -/
def readMembers (origin : Origin) (seen : List String) (record : α) :
    List (Option String × Json) → Result (List String × α)
  | [] => .ok (seen, record)
  | (none, _) :: _ => .error .unsound
  | (some key, value) :: rest =>
    match shape.fields.find? (·.name = key) with
    | none =>
      if shape.exact then .error (.unknownField key shape.names)
      else readMembers origin seen record rest
    | some field =>
      if seen.contains key then .error (.duplicateField key)
      else do
        let set ← field.read origin value
        readMembers origin (key :: seen) (set record) rest

def readElements (origin : Origin) (index : Nat) (record : α) :
    List (Field α) → List Json → Result (α × List Json)
  | [], items => .ok (record, items)
  | field :: fields, [] =>
    if field.required then .error (.shortArray index shape.title shape.fields.length)
    else readElements origin (index + 1) record fields []
  | field :: fields, item :: items => do
    let set ← field.read origin item
    readElements origin (index + 1) (set record) fields items

def read (origin : Origin) : Json → Result α
  | .object members => do
    let (seen, record) ← shape.readMembers origin [] shape.blank members
    match shape.fields.find? fun field => field.required && !seen.contains field.name with
    | some field => .error (.missingField field.name)
    | none => pure record
  | .array items => do
    let (record, left) ← shape.readElements origin 0 shape.blank shape.fields items
    if left.isEmpty then pure record
    else
      match origin with
      | .document => .error .trailing
      | .value => .error (.longArray items.length)
      | .settings => pure record
  | j => .error (mismatch ("struct " ++ shape.title) j)

end Shape

/-- A document in full, or the reason why not. Where the document as a whole cannot be read, the
reason is not told apart. -/
def readDocument {α : Type} (shape : Shape α) (document : Option Json) : Except String α :=
  match document with
  | none => .error Mismatch.unsound.message
  | some j =>
    match shape.read .document j with
    | .ok record => .ok record
    | .error e => .error (if j.isComplete then e.message else Mismatch.unsound.message)

end CallChart.Json
