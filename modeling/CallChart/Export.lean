import CallChart.Json.Reader
import CallChart.Json.Shape

namespace CallChart

namespace Export

structure Package where
  path : String
  name : String
  std : Option Bool
  deriving DecidableEq, Repr

structure Receiver where
  typeName : String
  pointer : Bool
  deriving DecidableEq, Repr

structure Function where
  name : String
  package : String
  short : Option String
  receiver : Option Receiver
  exported : Option Bool
  synthetic : Bool
  test : Bool
  deriving DecidableEq, Repr

structure Call where
  caller : String
  callee : String
  dynamic : Bool
  deriving DecidableEq, Repr

end Export

structure Export where
  packages : List Export.Package
  functions : List Export.Function
  calls : List Export.Call
  deriving DecidableEq, Repr

namespace Export

def Package.shape : Json.Shape Package where
  title := "RawPackage"
  exact := false
  blank := ⟨"", "", none⟩
  fields := [
    ⟨"path", true, fun _ j => (Json.readText j).map fun s p => { p with path := s }⟩,
    ⟨"name", true, fun _ j => (Json.readText j).map fun s p => { p with name := s }⟩,
    ⟨"std", false, fun _ j =>
      (Json.readOption Json.readBool j).map fun b p => { p with std := b }⟩]

def Receiver.shape : Json.Shape Receiver where
  title := "RawReceiver"
  exact := false
  blank := ⟨"", false⟩
  fields := [
    ⟨"type", true, fun _ j => (Json.readText j).map fun s r => { r with typeName := s }⟩,
    ⟨"pointer", false, fun _ j => (Json.readBool j).map fun b r => { r with pointer := b }⟩]

def Function.shape : Json.Shape Function where
  title := "RawFunction"
  exact := false
  blank := ⟨"", "", none, none, none, false, false⟩
  fields := [
    ⟨"name", true, fun _ j => (Json.readText j).map fun s f => { f with name := s }⟩,
    ⟨"package", true, fun _ j => (Json.readText j).map fun s f => { f with package := s }⟩,
    ⟨"func", false, fun _ j =>
      (Json.readOption Json.readText j).map fun s f => { f with short := s }⟩,
    ⟨"receiver", false, fun origin j =>
      (Json.readOption (Receiver.shape.read origin) j).map fun r f => { f with receiver := r }⟩,
    ⟨"exported", false, fun _ j =>
      (Json.readOption Json.readBool j).map fun b f => { f with exported := b }⟩,
    ⟨"synthetic", false, fun _ j => (Json.readBool j).map fun b f => { f with synthetic := b }⟩,
    ⟨"test", false, fun _ j => (Json.readBool j).map fun b f => { f with test := b }⟩]

def Call.shape : Json.Shape Call where
  title := "RawCall"
  exact := false
  blank := ⟨"", "", false⟩
  fields := [
    ⟨"caller", true, fun _ j => (Json.readText j).map fun s c => { c with caller := s }⟩,
    ⟨"callee", true, fun _ j => (Json.readText j).map fun s c => { c with callee := s }⟩,
    ⟨"dynamic", false, fun _ j => (Json.readBool j).map fun b c => { c with dynamic := b }⟩]

def shape : Json.Shape Export where
  title := "RawCallGraph"
  exact := false
  blank := ⟨[], [], []⟩
  fields := [
    ⟨"packages", false, fun origin j =>
      (Json.readList (Package.shape.read origin) j).map fun l x => { x with packages := l }⟩,
    ⟨"functions", false, fun origin j =>
      (Json.readList (Function.shape.read origin) j).map fun l x => { x with functions := l }⟩,
    ⟨"calls", false, fun origin j =>
      (Json.readList (Call.shape.read origin) j).map fun l x => { x with calls := l }⟩]

def ofBytes (bytes : List UInt8) : Except String Export :=
  Json.readDocument shape (Json.parseBytes? bytes)

def optional {α : Type} (write : α → Json) : Option α → Json
  | none => .null
  | some a => write a

def Package.toJson (p : Package) : Json :=
  .ofFields [("path", .ofText p.path), ("name", .ofText p.name), ("std", optional .bool p.std)]

def Receiver.toJson (r : Receiver) : Json :=
  .ofFields [("type", .ofText r.typeName), ("pointer", .bool r.pointer)]

def Function.toJson (f : Function) : Json :=
  .ofFields [("name", .ofText f.name), ("package", .ofText f.package),
    ("func", optional .ofText f.short), ("receiver", optional Receiver.toJson f.receiver),
    ("exported", optional .bool f.exported), ("synthetic", .bool f.synthetic),
    ("test", .bool f.test)]

def Call.toJson (c : Call) : Json :=
  .ofFields [("caller", .ofText c.caller), ("callee", .ofText c.callee),
    ("dynamic", .bool c.dynamic)]

def toJson (x : Export) : Json :=
  .ofFields [("packages", .array (x.packages.map Package.toJson)),
    ("functions", .array (x.functions.map Function.toJson)),
    ("calls", .array (x.calls.map Call.toJson))]

def text (x : Export) : String :=
  x.toJson.compact

def hasPackage (x : Export) (path : String) : Bool :=
  x.packages.any (·.path = path)

end Export
end CallChart
