import CallChart.Cache
import CallChart.Proofs.Files.Content
import CallChart.Proofs.Fingerprint
import CallChart.Proofs.Insertion
import CallChart.Proofs.Json.Broken
import CallChart.Proofs.Timestamp

namespace CallChart

namespace Cache.Metadata

@[simp] theorem ofArtifact_version (a : Artifact) : (ofArtifact a).version = currentVersion := rfl

@[simp] theorem ofArtifact_fingerprint (a : Artifact) :
    (ofArtifact a).fingerprint = a.fingerprint.text := rfl

@[simp] theorem ofArtifact_format (a : Artifact) : (ofArtifact a).format = a.format := rfl

@[simp] theorem ofArtifact_hasImage (a : Artifact) :
    (ofArtifact a).hasImage = a.image.isSome := rfl

@[simp] theorem ofArtifact_createdAt (a : Artifact) :
    (ofArtifact a).createdAt = a.createdAt := rfl

theorem readTimestamp_text {t : Timestamp} (valid : t.isValid = true) :
    readTimestamp (.ofText t.text) = .ok t := by
  simp only [readTimestamp, Json.readText, Json.ofText, bind, Except.bind,
    Timestamp.ofText_text valid]
  rfl

theorem read_toFields {m : Metadata} (version : m.version < 2 ^ 32)
    (created : m.createdAt.isValid = true) :
    shape.read .document (Json.ofFields m.toFields) = .ok m := by
  apply Json.Shape.read_object
  · apply Json.Shape.readMembers_cons (by rfl) (by rfl)
    · simp only [Json.readCount_ofNat version]
      rfl
    apply Json.Shape.readMembers_cons (by rfl) (by rfl) (by rfl)
    apply Json.Shape.readMembers_cons (by rfl) (by rfl) (by rfl)
    apply Json.Shape.readMembers_cons (by rfl) (by rfl) (by rfl)
    apply Json.Shape.readMembers_cons (by rfl) (by rfl)
    · simp only [readTimestamp_text created]
      rfl
    · rfl
  · rfl

theorem plain_toFields {m : Metadata} (version : m.version < 2 ^ 32) :
    Json.Plain (Json.ofFields m.toFields) := by
  simp [Json.ofFields, toFields, Json.Plain, Json.PlainMembers, Json.ofNat, Json.ofText]
  omega

theorem ofBytes?_bytes {m : Metadata} (version : m.version < 2 ^ 32)
    (created : m.createdAt.isValid = true) : ofBytes? m.bytes = some m := by
  have parsed : Json.parseBytes? m.bytes = some (Json.ofFields m.toFields) :=
    Json.parseBytes?_spread (by simp [toFields]) (plain_toFields version)
  rw [ofBytes?, parsed, Json.readDocument_ok (read_toFields version created)]
  rfl

theorem ofBytes?_ofArtifact {a : Artifact} (created : a.createdAt.isValid = true) :
    ofBytes? (ofArtifact a).bytes = some (ofArtifact a) :=
  ofBytes?_bytes (by simp [currentVersion]) created

theorem ofBytes?_take (a : Artifact) {n : Nat} (early : n < (ofArtifact a).bytes.length) :
    ofBytes? ((ofArtifact a).bytes.take n) = none := by
  have broken : Json.parseBytes? ((ofArtifact a).bytes.take n) = none :=
    Json.parseBytes?_take (by simp [toFields]) (plain_toFields (by simp [currentVersion])) early
  rw [ofBytes?, broken]
  rfl

end Cache.Metadata

open Files

namespace Cache

theorem isName_descriptionFile : IsName descriptionFile := by decide

theorem isName_metadataFile : IsName metadataFile := by decide

theorem isName_imageFile {format : String} (plain : '/' ∉ format.toList) :
    IsName (imageFile format) := by
  have chars : (imageFile format).toList = 'i' :: ("mage.".toList ++ format.toList) := by
    simp [imageFile]
  refine ⟨?_, ?_, ?_, ?_⟩
  · intro same
    simp [same] at chars
  · intro same
    simp [same] at chars
  · intro same
    simp [same] at chars
  · simpa [chars] using plain

theorem imageFile_ne_metadataFile (format : String) : imageFile format ≠ metadataFile := by
  intro same
  have first := congrArg (·.toList.head?) same
  simp [imageFile, metadataFile] at first

theorem imageFile_ne_descriptionFile (format : String) : imageFile format ≠ descriptionFile := by
  intro same
  have first := congrArg (·.toList.head?) same
  simp [imageFile, descriptionFile] at first

def entryPlace (directory : String) (fp : Fingerprint) (name : String) : Path :=
  steps directory ++ [fp.text, name]

theorem steps_entryFile {directory : String} {fp : Fingerprint} {name : String}
    (digest : IsName fp.text) (plain : IsName name) :
    steps (joined (entryDirectory directory fp) name) = entryPlace directory fp name := by
  simp [entryPlace, entryDirectory, steps_joined _ plain, steps_joined _ digest]

theorem entryPlace_inj {directory : String} {fp : Fingerprint} {name name' : String}
    {fp' : Fingerprint} :
    entryPlace directory fp name = entryPlace directory fp' name' ↔ fp = fp' ∧ name = name' := by
  cases fp
  cases fp'
  simp [entryPlace]

/-- What the names of an artifact have to be like for its entry to be a directory of plain files,
and its time for the metadata to be read back. -/
structure Storable (a : Artifact) : Prop where
  digest : IsName a.fingerprint.text
  format : '/' ∉ a.format.toList
  created : a.createdAt.isValid = true

/-- Enough for the files that are written for an artifact to have plain names: without an image the
format names none. -/
structure Placed (a : Artifact) : Prop where
  digest : IsName a.fingerprint.text
  format : a.image ≠ none → '/' ∉ a.format.toList

theorem Storable.placed {a : Artifact} (storable : Storable a) : Placed a :=
  ⟨storable.digest, fun _ => storable.format⟩

/-- The files of an entry hold what belongs to an artifact. -/
structure Holds (fs : Files) (directory : String) (a : Artifact) : Prop where
  metadata : fs.fileAt (entryPlace directory a.fingerprint metadataFile) =
    some (Metadata.ofArtifact a).bytes
  description : fs.fileAt (entryPlace directory a.fingerprint descriptionFile) =
    some (Utf8.encode a.description)
  image {bytes : List UInt8} : a.image = some bytes →
    fs.fileAt (entryPlace directory a.fingerprint (imageFile a.format)) = some bytes

/-- The files of an entry can be read, and hold what belongs to an artifact. -/
structure Stored (fs : Files) (directory : String) (a : Artifact) : Prop where
  metadata : fs.read (joined (entryDirectory directory a.fingerprint) metadataFile) =
    .ok (Metadata.ofArtifact a).bytes
  description : fs.read (joined (entryDirectory directory a.fingerprint) descriptionFile) =
    .ok (Utf8.encode a.description)
  image {bytes : List UInt8} : a.image = some bytes →
    fs.read (joined (entryDirectory directory a.fingerprint) (imageFile a.format)) = .ok bytes

theorem Stored.holds {fs : Files} {directory : String} {a : Artifact}
    (stored : Stored fs directory a) (storable : Storable a) :
    Holds fs directory a where
  metadata := by
    rw [← steps_entryFile storable.digest isName_metadataFile]
    exact read_fileAt stored.metadata
  description := by
    rw [← steps_entryFile storable.digest isName_descriptionFile]
    exact read_fileAt stored.description
  image there := by
    rw [← steps_entryFile storable.digest (isName_imageFile storable.format)]
    exact read_fileAt (stored.image there)

theorem Stored.kept {fs fs' : Files} {directory : String} {a : Artifact}
    (stored : Stored fs directory a) (storable : Storable a) (kept : DirsKept fs fs')
    (same : ∀ name, fs'.fileAt (entryPlace directory a.fingerprint name) =
      fs.fileAt (entryPlace directory a.fingerprint name)) : Stored fs' directory a where
  metadata := by
    apply read_kept kept _ stored.metadata
    rw [steps_entryFile storable.digest isName_metadataFile, same]
  description := by
    apply read_kept kept _ stored.description
    rw [steps_entryFile storable.digest isName_descriptionFile, same]
  image there := by
    apply read_kept kept _ (stored.image there)
    rw [steps_entryFile storable.digest (isName_imageFile storable.format), same]

theorem Holds.kept {fs fs' : Files} {directory : String} {a : Artifact}
    (holds : Holds fs directory a)
    (same : ∀ name, fs'.fileAt (entryPlace directory a.fingerprint name) =
      fs.fileAt (entryPlace directory a.fingerprint name)) : Holds fs' directory a where
  metadata := (same _).trans holds.metadata
  description := (same _).trans holds.description
  image there := (same _).trans (holds.image there)

theorem load_disabled {fs : Files} {fp : Fingerprint} {c : Cache} (disabled : c.directory = none) :
    c.load fp fs = none := by
  simp [load, disabled]

theorem load_of_stored {fs : Files} {directory : String} {a : Artifact} {c : Cache}
    (enabled : c.directory = some directory) (stored : Stored fs directory a)
    (storable : Storable a) :
    c.load a.fingerprint fs = some a := by
  have parsed := Metadata.ofBytes?_ofArtifact storable.created
  have metadata : readMetadata (entryDirectory directory a.fingerprint) fs =
      some (Metadata.ofArtifact a) := by
    simp [readMetadata, stored.metadata, Except.toOption, parsed]
  have description : readDescription (entryDirectory directory a.fingerprint) fs =
      some a.description := by
    simp [readDescription, stored.description, Except.toOption]
  have image : readImage (entryDirectory directory a.fingerprint) (Metadata.ofArtifact a) fs =
      some a.image := by
    cases there : a.image with
    | none => simp [readImage, there]
    | some bytes => simp [readImage, there, stored.image there, Except.toOption]
  simp [load, enabled, readEntry, metadata, description, image]

theorem load_of_absent {fs : Files} {directory : String} {fp : Fingerprint} {c : Cache}
    (enabled : c.directory = some directory) (digest : IsName fp.text)
    (absent : fs.fileAt (entryPlace directory fp metadataFile) = none) : c.load fp fs = none := by
  rw [← steps_entryFile digest isName_metadataFile] at absent
  cases read : fs.read (joined (entryDirectory directory fp) metadataFile) with
  | error fault =>
    simp [load, enabled, readEntry, readMetadata, read, Except.toOption]
  | ok bytes => simp [read_fileAt read] at absent

theorem load_of_holds {fs : Files} {directory : String} {a b : Artifact} {c : Cache}
    (enabled : c.directory = some directory) (holds : Holds fs directory a) (storable : Storable a)
    (loaded : c.load a.fingerprint fs = some b) : b = a := by
  have read {name : String} {bytes content : List UInt8} (plain : IsName name)
      (there : fs.fileAt (entryPlace directory a.fingerprint name) = some content)
      (read : fs.read (joined (entryDirectory directory a.fingerprint) name) = .ok bytes) :
      bytes = content := by
    rw [← steps_entryFile storable.digest plain, read_fileAt read] at there
    exact Option.some.inj there
  suffices stored : Stored fs directory a by
    rw [load_of_stored enabled stored storable] at loaded
    exact (Option.some.inj loaded).symm
  cases metadata : fs.read (joined (entryDirectory directory a.fingerprint) metadataFile) with
  | error fault =>
    simp [load, enabled, readEntry, readMetadata, metadata, Except.toOption] at loaded
  | ok bytes =>
  rw [read isName_metadataFile holds.metadata metadata] at metadata
  cases description : fs.read (joined (entryDirectory directory a.fingerprint) descriptionFile) with
  | error fault =>
    simp [load, enabled, readEntry, readDescription, description, Except.toOption] at loaded
  | ok bytes =>
  rw [read isName_descriptionFile holds.description description] at description
  refine ⟨metadata, description, fun {content} there => ?_⟩
  cases image : fs.read (joined (entryDirectory directory a.fingerprint) (imageFile a.format)) with
  | error fault =>
    have parsed := Metadata.ofBytes?_ofArtifact storable.created
    simp [load, enabled, readEntry, readMetadata, metadata, parsed, readImage, there, image,
      Except.toOption] at loaded
  | ok bytes => rw [read (isName_imageFile storable.format) (holds.image there) image]

end Cache
end CallChart

namespace CallChart.Cache

open Files

/-- An entry has lost all its files, or none was changed. -/
def ClearedOrKept (fs fs' : Files) (directory : String) (fp : Fingerprint) : Prop :=
  (∀ name, fs'.fileAt (entryPlace directory fp name) = none) ∨
    ∀ name, fs'.fileAt (entryPlace directory fp name) = fs.fileAt (entryPlace directory fp name)

theorem ClearedOrKept.trans {directory : String} {fp : Fingerprint} {fs fs' fs'' : Files}
    (first : ClearedOrKept fs fs' directory fp) (second : ClearedOrKept fs' fs'' directory fp) :
    ClearedOrKept fs fs'' directory fp := by
  rcases second with cleared | kept
  · exact .inl cleared
  · rcases first with cleared | kept'
    · exact .inl fun name => (kept name).trans (cleared name)
    · exact .inr fun name => (kept name).trans (kept' name)

theorem removeTree_entry (fs : Files) (directory : String) {name : String} (plain : IsName name)
    (fp : Fingerprint) :
    ClearedOrKept fs (fs.removeTree (joined directory name)).2 directory fp := by
  have named : (strides (joined directory name)).getLast? ≠ some "." := by
    rw [strides_joined directory plain, List.getLast?_concat]
    simpa using plain.2.1
  rcases removeTree_effect fs named with same | dropped
  · exact .inr fun _ => by rw [same]
  · rw [dropped, steps_joined directory plain]
    by_cases own : name = fp.text
    · refine .inl fun file => ?_
      rw [fileAt_dropTree, if_pos]
      exact ⟨[file], by simp [entryPlace, own]⟩
    · refine .inr fun file => ?_
      rw [fileAt_dropTree, if_neg]
      rintro ⟨rest, whole⟩
      simp only [entryPlace, List.append_assoc, List.append_cancel_left_eq, List.cons_append,
        List.nil_append, List.cons.injEq] at whole
      exact own whole.1

theorem clearNames_cons_ok {fs : Files} {directory : String} {fs' : Files} {name : String}
    {rest : List String} {removed : Nat}
    (done : fs.removeTree (joined directory name) = (.ok (), fs')) :
    clearNames directory removed fs (name :: rest) =
      clearNames directory (removed + 1) fs' rest := by
  simp only [clearNames, done]

theorem clearNames_entry {directory : String} {names : List String}
    (plain : ∀ name ∈ names, IsName name) (removed : Nat) (fs : Files) (fp : Fingerprint) :
    ClearedOrKept fs (clearNames directory removed fs names).2 directory fp := by
  induction names generalizing removed fs with
  | nil => exact .inr fun _ => rfl
  | cons name rest ih =>
    have first := removeTree_entry fs directory (plain name List.mem_cons_self) fp
    rcases outcome : fs.removeTree (joined directory name) with ⟨fault | done, fs'⟩
    · rw [outcome] at first
      simp only [clearNames, outcome]
      exact first
    · rw [outcome] at first
      rw [clearNames_cons_ok outcome]
      exact first.trans (ih (fun n within => plain n (List.mem_cons_of_mem _ within)) _ fs')

theorem entryNames_plain {fs : Files} {directory : String} {names : List String}
    (found : entryNames directory fs = .ok names) :
    ∀ name ∈ names, IsName name := by
  simp only [entryNames] at found
  cases all : fs.names directory with
  | error fault => simp [all, Except.map] at found
  | ok every =>
    simp only [all, Except.map, Except.ok.injEq] at found
    subst found
    intro name within
    rw [Text.insertSorted_insertsBy.mem_foldr Function.injective_id] at within
    exact Fingerprint.isName_of_digest (List.mem_filter.mp within).2

theorem clear_entry {directory : String} {c : Cache} (enabled : c.directory = some directory)
    (fs : Files) (fp : Fingerprint) : ClearedOrKept fs (c.clear fs).2 directory fp := by
  simp only [clear, enabled]
  split
  · exact .inr fun _ => rfl
  · exact .inr fun _ => rfl
  · rename_i names found
    exact clearNames_entry (entryNames_plain found) 0 fs fp

end CallChart.Cache
