import CallChart.Failure
import CallChart.Files
import CallChart.Fingerprint
import CallChart.Timestamp

namespace CallChart

structure Artifact where
  fingerprint : Fingerprint
  description : String
  image : Option (List UInt8)
  format : String
  createdAt : Timestamp
  deriving DecidableEq, Repr

structure Cache where
  directory : Option String
  deriving DecidableEq, Repr

namespace Cache

def descriptionFile : String := "graph.gv"

def metadataFile : String := "meta.json"

def imageFile (format : String) : String :=
  "image." ++ format

structure Metadata where
  version : Nat
  fingerprint : String
  format : String
  hasImage : Bool
  createdAt : Timestamp
  deriving DecidableEq, Repr

def currentVersion : Nat := 1

namespace Metadata

def ofArtifact (a : Artifact) : Metadata :=
  ⟨currentVersion, a.fingerprint.text, a.format, a.image.isSome, a.createdAt⟩

def toFields (m : Metadata) : List (String × Json) :=
  [("version", .ofNat m.version), ("fingerprint", .ofText m.fingerprint),
    ("format", .ofText m.format), ("has_image", .bool m.hasImage),
    ("created_at", .ofText m.createdAt.text)]

def bytes (m : Metadata) : List UInt8 :=
  Utf8.encode (Json.spread m.toFields)

def readTimestamp (j : Json) : Json.Result Timestamp := do
  let s ← Json.readText j
  match Timestamp.ofText? s with
  | some t => pure t
  | none => .error (.refused "input contains invalid characters")

def shape : Json.Shape Metadata where
  title := "Metadata"
  exact := false
  blank := ⟨0, "", "", false, ⟨1970, 1, 1, 0, 0, 0, 0⟩⟩
  fields := [
    ⟨"version", true, fun _ j => (Json.readCount j).map fun n m => { m with version := n }⟩,
    ⟨"fingerprint", true, fun _ j =>
      (Json.readText j).map fun s m => { m with fingerprint := s }⟩,
    ⟨"format", true, fun _ j => (Json.readText j).map fun s m => { m with format := s }⟩,
    ⟨"has_image", true, fun _ j => (Json.readBool j).map fun b m => { m with hasImage := b }⟩,
    ⟨"created_at", true, fun _ j =>
      (readTimestamp j).map fun t m => { m with createdAt := t }⟩]

def ofBytes? (bytes : List UInt8) : Option Metadata :=
  (Json.readDocument shape (Json.parseBytes? bytes)).toOption

end Metadata

def entryDirectory (directory : String) (fp : Fingerprint) : String :=
  Files.joined directory fp.text

def readMetadata (entry : String) (fs : Files) : Option Metadata := do
  let bytes ← (fs.read (Files.joined entry metadataFile)).toOption
  let m ← Metadata.ofBytes? bytes
  if m.version = currentVersion then some m else none

def readDescription (entry : String) (fs : Files) : Option String := do
  let bytes ← (fs.read (Files.joined entry descriptionFile)).toOption
  Utf8.decode? bytes

def readImage (entry : String) (m : Metadata) (fs : Files) : Option (Option (List UInt8)) :=
  if m.hasImage then
    (fs.read (Files.joined entry (imageFile m.format))).toOption.map some
  else some none

def readEntry (entry : String) (fs : Files) : Option Artifact := do
  let m ← readMetadata entry fs
  let description ← readDescription entry fs
  let image ← readImage entry m fs
  pure ⟨⟨m.fingerprint⟩, description, image, m.format, m.createdAt⟩

def load (c : Cache) (fp : Fingerprint) (fs : Files) : Option Artifact := do
  let directory ← c.directory
  let a ← readEntry (entryDirectory directory fp) fs
  if a.fingerprint = fp then some a else none

def storeSteps (entry : String) (a : Artifact) : List FileStep :=
  [.makeDirectories entry, .removeIfPresent (Files.joined entry metadataFile),
    .write (Files.joined entry descriptionFile) (Utf8.encode a.description)] ++
  (match a.image with
    | none => []
    | some image => [.write (Files.joined entry (imageFile a.format)) image]) ++
  [.write (Files.joined entry metadataFile) (Metadata.ofArtifact a).bytes]

def store (c : Cache) (a : Artifact) (fs : Files) : Files :=
  match c.directory with
  | none => fs
  | some directory => (FileStep.run fs (storeSteps (entryDirectory directory a.fingerprint) a)).2

def entryNames (directory : String) (fs : Files) : Except FileFault (List String) :=
  (fs.names directory).map fun names =>
    (names.filter fun name => (Fingerprint.parse? name).isSome).foldr Text.insertSorted []

def entries (c : Cache) (fs : Files) : List Fingerprint :=
  match c.directory with
  | none => []
  | some directory =>
    match entryNames directory fs with
    | .error _ => []
    | .ok names =>
      (names.filter fun name =>
        fs.exists? (Files.joined (Files.joined directory name) metadataFile)).map Fingerprint.mk

def clearNames (directory : String) (removed : Nat) (fs : Files) :
    List String → Except Failure Nat × Files
  | [] => (.ok removed, fs)
  | name :: rest =>
    let path := Files.joined directory name
    match fs.removeTree path with
    | (.ok (), fs) => clearNames directory (removed + 1) fs rest
    | (.error fault, fs) => (.error (.fileFault path fault.message), fs)

def clear (c : Cache) (fs : Files) : Except Failure Nat × Files :=
  match c.directory with
  | none => (.ok 0, fs)
  | some directory =>
    match entryNames directory fs with
    | .error .notFound => (.ok 0, fs)
    | .error fault => (.error (.fileFault directory fault.message), fs)
    | .ok names => clearNames directory 0 fs names

/-- What a request for an artifact came to: the result, whether it was computed, and the files. -/
structure Obtained where
  result : Except Failure Artifact
  computed : Bool
  files : Files

def stored? (c : Cache) (fp : Fingerprint) (refresh : Bool) (fs : Files) : Option Artifact :=
  if refresh then none else c.load fp fs

def settle (c : Cache) (result : Except Failure Artifact) (fs : Files) : Files :=
  match result with
  | .ok a => c.store a fs
  | .error _ => fs

def obtain (c : Cache) (fp : Fingerprint) (refresh : Bool)
    (compute : Unit → Except Failure Artifact) (fs : Files) : Obtained :=
  match c.stored? fp refresh fs with
  | some a => ⟨.ok a, false, fs⟩
  | none =>
    let result := compute ()
    ⟨result, true, c.settle result fs⟩

end Cache
end CallChart
