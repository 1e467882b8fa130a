import CallChart.Proofs.Cache.Store

namespace CallChart

open Files

namespace Files

theorem put_put (fs : Files) (p : Path) (e d : Entry) : (fs.put p e).put p d = fs.put p d := by
  simp [put, List.filter_filter]

def opened (fs : Files) (path : String) : Except FileFault (Path × Bool) := do
  let (p, e) ← fs.entryAt path
  match e with
  | some .directory => throw .isDirectory
  | some (.file _ executable) => pure (p, executable)
  | none => if path.toList.getLast? = some '/' then throw .isDirectory else pure (p, false)

theorem write_eq (fs : Files) (path : String) (bytes : List UInt8) :
    fs.write path bytes =
      (fs.opened path).map fun there => fs.put there.1 (.file bytes there.2) := by
  simp only [write, opened, bind, Except.bind]
  cases fs.entryAt path with
  | error fault => rfl
  | ok there =>
    obtain ⟨p, e⟩ := there
    cases e with
    | none =>
      simp only
      split <;> rfl
    | some e => cases e <;> rfl

theorem opened_put {fs : Files} {path : String} {p : Path} {executable : Bool}
    (found : fs.opened path = .ok (p, executable)) (bytes : List UInt8) :
    (fs.put p (.file bytes executable)).opened path = .ok (p, executable) := by
  have written : fs.write path bytes = .ok (fs.put p (.file bytes executable)) := by
    rw [write_eq, found]
    rfl
  have reaches := (write_kept written).reaches (write_effect written).1
  have free := not_fixed_of_lookup? (write_effect written).2.1
  have there : p = steps path := by
    simp only [opened, bind, Except.bind] at found
    cases entry : fs.entryAt path with
    | error fault => simp [entry] at found
    | ok there =>
      obtain ⟨q, e⟩ := there
      obtain ⟨-, rfl, -⟩ := entryAt_steps entry
      simp only [entry] at found
      split at found
      · cases found
      · cases found
        rfl
      · split at found
        · cases found
        · cases found
          rfl
  subst there
  simp [opened, entryAt_of_reaches reaches, lookup?_put_self free, bind, Except.bind, pure,
    Except.pure]

theorem write_emptied (fs : Files) (path : String) (bytes : List UInt8) :
    (∃ fs' fs'', fs.write path [] = .ok fs' ∧ fs'.write path bytes = .ok fs'' ∧
      fs.write path bytes = .ok fs'') ∨
    ∃ fault, fs.write path [] = .error fault ∧ fs.write path bytes = .error fault := by
  rw [write_eq fs, write_eq fs]
  cases found : fs.opened path with
  | error fault => exact .inr ⟨fault, rfl, rfl⟩
  | ok there =>
    refine .inl ⟨_, _, rfl, ?_, rfl⟩
    rw [write_eq, opened_put found]
    simp only [Except.map, put_put]

end Files

namespace FileStep

def pieces : FileStep → List FileStep
  | .write path bytes => [.write path [], .write path bytes]
  | step => [step]

theorem places_of_pieces {step piece : FileStep} (within : piece ∈ step.pieces) :
    piece.places = step.places := by
  cases step <;> simp only [pieces, List.mem_cons, List.not_mem_nil, or_false] at within
  case write => rcases within with rfl | rfl <;> rfl
  all_goals
    obtain rfl := within
    rfl

theorem run_pieces (fs : Files) (steps : List FileStep) :
    (run fs (steps.flatMap pieces)).2 = (run fs steps).2 ∧
      ((run fs (steps.flatMap pieces)).1 = .ok () ↔ (run fs steps).1 = .ok ()) := by
  induction steps generalizing fs with
  | nil => exact ⟨rfl, .rfl⟩
  | cons step rest ih =>
    cases step with
    | write path bytes =>
      rcases write_emptied fs path bytes with
        ⟨fs', fs'', emptied, filled, whole'⟩ | ⟨fault, emptied, refused⟩
      · have first : (FileStep.write path []).apply fs = (.ok (), fs') := by
          simp only [apply, emptied, whole]
        have second : (FileStep.write path bytes).apply fs' = (.ok (), fs'') := by
          simp only [apply, filled, whole]
        have both : (FileStep.write path bytes).apply fs = (.ok (), fs'') := by
          simp only [apply, whole', whole]
        simp only [List.flatMap_cons, pieces, List.cons_append, List.nil_append,
          run_cons_ok first, run_cons_ok second, run_cons_ok both]
        exact ih fs''
      · have first : (FileStep.write path []).apply fs = (.error fault, fs) := by
          simp only [apply, emptied, whole]
        have second : (FileStep.write path bytes).apply fs = (.error fault, fs) := by
          simp only [apply, refused, whole]
        simp [pieces, run_cons_error first, run_cons_error second]
    | makeDirectories path | removeIfPresent path | rename source target =>
      simp only [List.flatMap_cons, pieces, List.singleton_append, run]
      split
      · exact ih _
      · simp

theorem run_take {fs : Files} {steps : List FileStep} {m n : Nat} (less : m ≤ n)
    (done : (run fs (steps.take n)).1 = .ok ()) : (run fs (steps.take m)).1 = .ok () := by
  have parts : steps.take n = steps.take m ++ (steps.take n).drop m := by
    rw [← Nat.min_eq_left less, ← List.take_take, Nat.min_eq_left less, List.take_append_drop]
  rw [parts, run_append] at done
  split at done
  · rename_i first
    rw [first]
  · exact done

theorem run_keeps {P : Files → Prop} {steps : List FileStep}
    (kept : ∀ step ∈ steps, ∀ fs, P fs → P (step.apply fs).2) {fs : Files} (holds : P fs) :
    P (run fs steps).2 := by
  induction steps generalizing fs with
  | nil => exact holds
  | cons step rest ih =>
    obtain ⟨first, others⟩ := List.forall_mem_cons.mp kept
    have next := first fs holds
    rcases outcome : step.apply fs with ⟨fault | done, fs'⟩
    · rw [run_cons_error outcome]
      rwa [outcome] at next
    · rw [run_cons_ok outcome]
      rw [outcome] at next
      exact ih others next

end FileStep

namespace Cache

def loadAcross (c : Cache) (fp : Fingerprint) (first second third : Files) : Option Artifact := do
  let directory ← c.directory
  let m ← readMetadata (entryDirectory directory fp) first
  let description ← readDescription (entryDirectory directory fp) second
  let image ← readImage (entryDirectory directory fp) m third
  let a : Artifact := ⟨⟨m.fingerprint⟩, description, image, m.format, m.createdAt⟩
  if a.fingerprint = fp then some a else none

theorem loadAcross_self (c : Cache) (fp : Fingerprint) (fs : Files) :
    c.loadAcross fp fs fs fs = c.load fp fs := by
  simp only [loadAcross, load, readEntry, Option.bind_eq_bind, Option.pure_def, Option.bind_assoc,
    Option.bind_some]

theorem loadAcross_of_metadata {c : Cache} {first second third : Files} {directory : String}
    {fp : Fingerprint} (enabled : c.directory = some directory)
    (none : readMetadata (entryDirectory directory fp) first = none) :
    c.loadAcross fp first second third = .none := by
  simp [loadAcross, enabled, none]

theorem loadAcross_of_reads {c : Cache} {first second third : Files} {directory : String}
    {old : Artifact} (enabled : c.directory = some directory)
    (created : old.createdAt.isValid = true)
    (metadata : first.read (joined (entryDirectory directory old.fingerprint) metadataFile) =
      .ok (Metadata.ofArtifact old).bytes)
    (description : second.read
      (joined (entryDirectory directory old.fingerprint) descriptionFile) =
        .ok (Utf8.encode old.description))
    (image : ∀ bytes, old.image = some bytes → third.read
      (joined (entryDirectory directory old.fingerprint) (imageFile old.format)) = .ok bytes) :
    c.loadAcross old.fingerprint first second third = some old := by
  have parsed := Metadata.ofBytes?_ofArtifact created
  have reads : readMetadata (entryDirectory directory old.fingerprint) first =
      some (Metadata.ofArtifact old) := by
    simp [readMetadata, metadata, Except.toOption, parsed]
  have reads' : readDescription (entryDirectory directory old.fingerprint) second =
      some old.description := by
    simp [readDescription, description, Except.toOption]
  have reads'' : readImage (entryDirectory directory old.fingerprint) (Metadata.ofArtifact old)
      third = some old.image := by
    cases there : old.image with
    | none => simp [readImage, there]
    | some bytes => simp [readImage, there, image bytes there, Except.toOption]
  simp [loadAcross, enabled, reads, reads', reads'']

/-- Whether the metadata of an entry are missing or empty. -/
def Blank (directory : String) (fp : Fingerprint) (fs : Files) : Prop :=
  ∀ bytes, fs.fileAt (entryPlace directory fp metadataFile) = some bytes → bytes = []

theorem readMetadata_of_unreadable {fs : Files} {directory : String} {fp : Fingerprint}
    (digest : IsName fp.text)
    (unreadable : ∀ bytes, fs.fileAt (entryPlace directory fp metadataFile) = some bytes →
      Metadata.ofBytes? bytes = none) : readMetadata (entryDirectory directory fp) fs = none := by
  cases read : fs.read (joined (entryDirectory directory fp) metadataFile) with
  | error fault => simp [readMetadata, read, Except.toOption]
  | ok bytes =>
    have there := read_fileAt read
    rw [steps_entryFile digest isName_metadataFile] at there
    simp [readMetadata, read, Except.toOption, unreadable bytes there]

theorem readMetadata_of_blank {fs : Files} {directory : String} {fp : Fingerprint}
    (digest : IsName fp.text) (blank : Blank directory fp fs) :
    readMetadata (entryDirectory directory fp) fs = none := by
  refine readMetadata_of_unreadable digest fun bytes there => ?_
  obtain rfl := blank bytes there
  decide +kernel

def storePieces (entry : String) (a : Artifact) : List FileStep :=
  (storeSteps entry a).flatMap FileStep.pieces

def storing (c : Cache) (a : Artifact) (fs : Files) (n : Nat) : Files :=
  match c.directory with
  | none => fs
  | some directory =>
    (FileStep.run fs ((storePieces (entryDirectory directory a.fingerprint) a).take n)).2

theorem storing_all {c : Cache} {fs : Files} {directory : String} {a : Artifact} {n : Nat}
    (enabled : c.directory = some directory)
    (all : (storePieces (entryDirectory directory a.fingerprint) a).length ≤ n) :
    c.storing a fs n = c.store a fs := by
  simp only [storing, store, enabled, List.take_of_length_le all]
  exact (FileStep.run_pieces fs _).1

def headPieces (entry : String) : List FileStep :=
  [.makeDirectories entry, .removeIfPresent (joined entry metadataFile)]

def bodyPieces (entry : String) (a : Artifact) : List FileStep :=
  (contentSteps entry a).flatMap FileStep.pieces ++ [.write (joined entry metadataFile) []]

def tailPieces (entry : String) (a : Artifact) : List FileStep :=
  bodyPieces entry a ++ [.write (joined entry metadataFile) (Metadata.ofArtifact a).bytes]

theorem storePieces_eq (entry : String) (a : Artifact) :
    storePieces entry a = headPieces entry ++ tailPieces entry a := by
  simp [storePieces, storeSteps_eq, headPieces, bodyPieces, tailPieces, FileStep.pieces,
    List.flatMap_append]

theorem bodyPieces_blank {directory : String} {a : Artifact} (storable : Storable a)
    {step : FileStep} (within : step ∈ bodyPieces (entryDirectory directory a.fingerprint) a)
    (fs : Files) (blank : Blank directory a.fingerprint fs) :
    Blank directory a.fingerprint (step.apply fs).2 := by
  rcases List.mem_append.mp within with within | within
  · obtain ⟨step', content, piece⟩ := List.mem_flatMap.mp within
    obtain ⟨name, other, places⟩ := contentSteps_places storable.placed content
    have same : (step.apply fs).2.fileAt (entryPlace directory a.fingerprint metadataFile) =
        fs.fileAt (entryPlace directory a.fingerprint metadataFile) := by
      refine (FileStep.apply_effect fs step).2 _ ?_
      rw [FileStep.places_of_pieces piece, places, List.mem_singleton, entryPlace_inj]
      exact fun same => other same.2.symm
    exact fun bytes there => blank bytes (same.symm.trans there)
  · obtain rfl := List.mem_singleton.mp within
    cases written : fs.write (joined (entryDirectory directory a.fingerprint) metadataFile) [] with
    | error fault => simpa [FileStep.apply, written, whole] using blank
    | ok fs' =>
      have empty := write_fileAt written
      rw [steps_entryFile storable.digest isName_metadataFile] at empty
      intro bytes there
      simp only [FileStep.apply, written, whole, empty, Option.some.injEq] at there
      exact there.symm

theorem run_body {fs : Files} {directory : String} {a : Artifact} (storable : Storable a)
    (blank : Blank directory a.fingerprint fs) (n : Nat) :
    let entry := entryDirectory directory a.fingerprint
    Blank directory a.fingerprint (FileStep.run fs ((tailPieces entry a).take n)).2 ∨
      (tailPieces entry a).length ≤ n ∧ (FileStep.run fs (tailPieces entry a)).1 = .ok () := by
  intro entry
  have keeps {steps : List FileStep} (within : ∀ step ∈ steps, step ∈ bodyPieces entry a) :
      Blank directory a.fingerprint (FileStep.run fs steps).2 :=
    FileStep.run_keeps (fun step there => bodyPieces_blank storable (within step there)) blank
  by_cases early : n ≤ (bodyPieces entry a).length
  · rw [tailPieces, List.take_append_of_le_length early]
    exact .inl (keeps fun step there => List.mem_of_mem_take there)
  · have all : (tailPieces entry a).length ≤ n := by
      simp only [tailPieces, List.length_append, List.length_singleton]
      omega
    rw [List.take_of_length_le all]
    simp only [tailPieces, FileStep.run_append] at all ⊢
    have before : Blank directory a.fingerprint (FileStep.run fs (bodyPieces entry a)).2 :=
      keeps fun step there => there
    rcases outcome : FileStep.run fs (bodyPieces entry a) with ⟨fault | done, middle⟩
    · rw [outcome] at before
      exact .inl before
    · rw [outcome] at before
      cases written : middle.write (joined entry metadataFile) (Metadata.ofArtifact a).bytes with
      | error fault =>
        exact .inl (by simpa [FileStep.run, FileStep.apply, written, whole] using before)
      | ok fs' => exact .inr ⟨all, by simp [FileStep.run, FileStep.apply, written, whole]⟩

theorem storing_head {c : Cache} {fs : Files} {directory : String} {a : Artifact} {n : Nat}
    (enabled : c.directory = some directory) (early : n ≤ 2) :
    c.storing a fs n = (FileStep.run fs
      ((headPieces (entryDirectory directory a.fingerprint)).take n)).2 := by
  simp only [storing, enabled, storePieces_eq]
  rw [List.take_append_of_le_length early]

theorem storing_tail {c : Cache} {directory : String} (enabled : c.directory = some directory)
    (a : Artifact) (fs : Files) (n : Nat) :
    let entry := entryDirectory directory a.fingerprint
    c.storing a fs (n + 2) =
      (FileStep.run fs (headPieces entry ++ (tailPieces entry a).take n)).2 := by
  simp only [storing, enabled, storePieces_eq]
  rfl

theorem storing_head_effect {c : Cache} {directory : String} {a : Artifact} {n : Nat}
    (enabled : c.directory = some directory) (storable : Storable a) (fs : Files) (early : n ≤ 2) :
    DirsKept fs (c.storing a fs n) ∧
      ∀ name, name ≠ metadataFile ∨ n ≤ 1 →
        (c.storing a fs n).fileAt (entryPlace directory a.fingerprint name) =
          fs.fileAt (entryPlace directory a.fingerprint name) := by
  rw [storing_head enabled early]
  obtain ⟨kept, same⟩ := FileStep.run_effect fs
    ((headPieces (entryDirectory directory a.fingerprint)).take n)
  refine ⟨kept, fun name other => same _ fun step within changed => ?_⟩
  rcases List.mem_cons.mp (List.mem_of_mem_take within) with rfl | second
  · simp [FileStep.places] at changed
  · obtain rfl := List.mem_singleton.mp second
    simp only [FileStep.places, steps_entryFile storable.digest isName_metadataFile,
      List.mem_singleton, entryPlace_inj, true_and] at changed
    rcases other with other | early
    · exact other changed
    · obtain rfl | rfl : n = 0 ∨ n = 1 := by omega
      · cases within
      · simp [headPieces] at within

/-- An entry to begin with: without metadata, or stored as a whole. -/
inductive Begins (fs : Files) (directory : String) (fp : Fingerprint) : Prop
  | absent (none : fs.fileAt (entryPlace directory fp metadataFile) = none)
  | stored (old : Artifact) (same : old.fingerprint = fp) (storable : Storable old)
      (stored : Stored fs directory old)

theorem head_refused {fs fs' : Files} {entry : String} {fault : FileStep × FileFault}
    (refused : FileStep.run fs (headPieces entry) = (.error fault, fs')) :
    DirsKept fs fs' ∧ ∀ q, fs'.fileAt q = fs.fileAt q := by
  have effect := FileStep.apply_effect fs (.makeDirectories entry)
  rcases made : (FileStep.makeDirectories entry).apply fs with ⟨stop | done, fs₁⟩
  · rw [headPieces, FileStep.run_cons_error made] at refused
    cases refused
    rw [made] at effect
    exact ⟨effect.1, fun q => effect.2 q (by simp [FileStep.places])⟩
  · rw [headPieces, FileStep.run_cons_ok made] at refused
    rw [made] at effect
    have same : fs' = fs₁ := by
      simp only [FileStep.run, FileStep.apply] at refused
      cases removed : fs₁.removeFile (joined entry metadataFile) with
      | ok fs₂ => simp [removed, whole] at refused
      | error stop => cases stop <;> simp_all [whole]
    rw [same]
    exact ⟨effect.1, fun q => effect.2 q (by simp [FileStep.places])⟩

theorem head_removes {fs : Files} {directory : String} {fs' : Files} {fp : Fingerprint}
    (digest : IsName fp.text)
    (begins : fs.fileAt (entryPlace directory fp metadataFile) = none ∨
      fs.Reaches (joined (entryDirectory directory fp) metadataFile))
    (done : FileStep.run fs (headPieces (entryDirectory directory fp)) = (.ok (), fs')) :
    fs'.fileAt (entryPlace directory fp metadataFile) = none := by
  have made := FileStep.apply_effect fs (.makeDirectories (entryDirectory directory fp))
  rcases outcome : (FileStep.makeDirectories (entryDirectory directory fp)).apply fs with
    ⟨stop | _, fs₁⟩
  · rw [headPieces, FileStep.run_cons_error outcome] at done
    cases done
  rw [headPieces, FileStep.run_cons_ok outcome] at done
  rw [outcome] at made
  have same (q : Path) : fs₁.fileAt q = fs.fileAt q := made.2 q (by simp [FileStep.places])
  rw [← steps_entryFile digest isName_metadataFile] at begins ⊢
  simp only [FileStep.run, FileStep.apply] at done
  cases removed : fs₁.removeFile (joined (entryDirectory directory fp) metadataFile) with
  | ok fs₂ =>
    simp only [removed, whole] at done
    cases done
    exact removeFile_fileAt removed
  | error stop =>
    have missing : stop = .notFound ∧ fs' = fs₁ := by
      cases stop <;> simp_all [whole]
    obtain ⟨rfl, rfl⟩ := missing
    rcases removeFile_notFound removed with absent | lost
    · exact absent
    · rcases begins with none | reaches
      · exact (same _).trans none
      · rw [(made.1.reaches reaches).1] at lost
        cases lost

theorem head_done {fs : Files} {directory : String} {fs' : Files} {fp : Fingerprint}
    (digest : IsName fp.text) (begins : Begins fs directory fp)
    (done : FileStep.run fs (headPieces (entryDirectory directory fp)) = (.ok (), fs')) :
    Blank directory fp fs' := by
  have none : fs'.fileAt (entryPlace directory fp metadataFile) = none := by
    refine head_removes digest ?_ done
    cases begins with
    | absent none => exact .inl none
    | stored old same storable stored => exact .inr (same ▸ (read_effect stored.metadata).1)
  intro bytes left
  cases none.symm.trans left

theorem Begins.blank {fs : Files} {directory : String} {fp : Fingerprint}
    (none : fs.fileAt (entryPlace directory fp metadataFile) = none) : Blank directory fp fs := by
  intro bytes left
  cases none.symm.trans left

theorem loadAcross_early {c : Cache} {fs : Files} {directory : String} {a : Artifact} {i j k : Nat}
    (enabled : c.directory = some directory) (storable : Storable a)
    (begins : Begins fs directory a.fingerprint) (first : i ≤ 1) (second : j ≤ 2) (third : k ≤ 2) :
    c.loadAcross a.fingerprint (c.storing a fs i) (c.storing a fs j) (c.storing a fs k) =
      c.load a.fingerprint fs := by
  obtain ⟨keptᵢ, sameᵢ⟩ := storing_head_effect enabled storable fs (show i ≤ 2 by omega)
  cases begins with
  | absent none =>
    have missing := sameᵢ metadataFile (.inr first)
    rw [none] at missing
    rw [loadAcross_of_metadata enabled
      (readMetadata_of_blank storable.digest (Begins.blank missing)),
      load_of_absent enabled storable.digest none]
  | stored old equal storable' stored =>
    obtain ⟨keptⱼ, sameⱼ⟩ := storing_head_effect enabled storable fs second
    obtain ⟨keptₖ, sameₖ⟩ := storing_head_effect enabled storable fs third
    rw [← equal] at sameᵢ sameⱼ sameₖ ⊢
    rw [load_of_stored enabled stored storable']
    refine loadAcross_of_reads enabled storable'.created ?_ ?_ fun bytes there => ?_
    · refine read_kept keptᵢ ?_ stored.metadata
      rw [steps_entryFile storable'.digest isName_metadataFile]
      exact sameᵢ _ (.inr first)
    · refine read_kept keptⱼ ?_ stored.description
      rw [steps_entryFile storable'.digest isName_descriptionFile]
      exact sameⱼ _ (.inl (by decide))
    · refine read_kept keptₖ ?_ (stored.image there)
      rw [steps_entryFile storable'.digest (isName_imageFile storable'.format)]
      exact sameₖ _ (.inl (imageFile_ne_metadataFile _))

/-- A load that begins after the removal of the metadata finds what was there, because they could
not be removed, or nothing, or the new artifact. -/
theorem loadAcross_late {c : Cache} {fs : Files} {directory : String} {a : Artifact} {i j k : Nat}
    (enabled : c.directory = some directory) (storable : Storable a)
    (begins : Begins fs directory a.fingerprint) (ij : i ≤ j) (jk : j ≤ k) :
    let loaded := c.loadAcross a.fingerprint (c.storing a fs (i + 2)) (c.storing a fs (j + 2))
      (c.storing a fs (k + 2))
    loaded = none ∨ loaded = c.load a.fingerprint fs ∨ loaded = some a := by
  intro loaded
  have tail (n : Nat) := storing_tail enabled a fs n
  simp only [FileStep.run_append] at tail
  rcases head : FileStep.run fs (headPieces (entryDirectory directory a.fingerprint)) with
    ⟨fault | _, fs'⟩
  · simp only [head] at tail
    simp only [loaded, tail, loadAcross_self]
    obtain ⟨kept, same⟩ := head_refused head
    cases begins with
    | absent none =>
      exact .inl (load_of_absent enabled storable.digest ((same _).trans none))
    | stored old equal storable' stored =>
      rw [← equal, load_of_stored enabled (stored.kept storable' kept fun _ => same _) storable',
        load_of_stored enabled stored storable']
      exact .inr (.inl rfl)
  · simp only [head] at tail
    have blank := head_done storable.digest begins head
    rcases run_body storable blank i with early | ⟨all, done⟩
    · rw [← tail i] at early
      exact .inl (loadAcross_of_metadata enabled (readMetadata_of_blank storable.digest early))
    · have length : (storePieces (entryDirectory directory a.fingerprint) a).length =
          (tailPieces (entryDirectory directory a.fingerprint) a).length + 2 := by
        simp [storePieces_eq, headPieces]
      have stored (n : Nat) (late : i ≤ n) : c.storing a fs (n + 2) = c.store a fs :=
        storing_all enabled (by omega)
      simp only [loaded, stored i (Nat.le_refl i), stored j ij, stored k (ij.trans jk),
        loadAcross_self]
      have well : (FileStep.run fs
          (storeSteps (entryDirectory directory a.fingerprint) a)).1 = .ok () := by
        refine (FileStep.run_pieces fs _).2.mp ?_
        change (FileStep.run fs (storePieces (entryDirectory directory a.fingerprint) a)).1 = .ok ()
        simp only [storePieces_eq, FileStep.run_append, head, done]
      refine .inr (.inr (load_of_stored enabled ?_ storable))
      simp only [store, enabled]
      exact run_stored storable.placed well

/-- A load that overlaps a storing of its fingerprint, with `i`, `j` and `k` pieces of it done
before the three reads, finds nothing, the artifact that was there or the new one: if it reads the
metadata after their removal, or ends before the new content is begun, or there were none. -/
theorem load_during_store {c : Cache} {fs : Files} {directory : String} {a : Artifact} {i j k : Nat}
    (enabled : c.directory = some directory) (storable : Storable a)
    (begins : Begins fs directory a.fingerprint) (ij : i ≤ j) (jk : j ≤ k)
    (calm : 2 ≤ i ∨ k ≤ 2 ∨ fs.fileAt (entryPlace directory a.fingerprint metadataFile) = none) :
    let loaded := c.loadAcross a.fingerprint (c.storing a fs i) (c.storing a fs j)
      (c.storing a fs k)
    loaded = none ∨ loaded = c.load a.fingerprint fs ∨ loaded = some a := by
  intro loaded
  by_cases late : 2 ≤ i
  · obtain ⟨i, rfl⟩ := Nat.exists_eq_add_of_le' late
    obtain ⟨j, rfl⟩ := Nat.exists_eq_add_of_le' (late.trans ij)
    obtain ⟨k, rfl⟩ := Nat.exists_eq_add_of_le' ((late.trans ij).trans jk)
    exact loadAcross_late enabled storable begins (by omega) (by omega)
  · have early : i ≤ 1 := by omega
    rcases calm with late' | short | absent
    · exact (late late').elim
    · exact .inr (.inl (loadAcross_early enabled storable begins early (jk.trans short) short))
    · have same := (storing_head_effect enabled storable fs (show i ≤ 2 by omega)).2
        metadataFile (.inr early)
      exact .inl (loadAcross_of_metadata enabled
        (readMetadata_of_blank storable.digest (Begins.blank (same.trans absent))))

theorem storePieces_described {n : Nat} (entry : String) (a : Artifact) {text : String}
    (stage : n = 3 ∧ text = "" ∨ n = 4 ∧ text = a.description) :
    ∃ before, (∀ step ∈ before, step ∈ headPieces entry ∨
        step = .write (joined entry descriptionFile) []) ∧
      (storePieces entry a).take n =
        before ++ [.write (joined entry descriptionFile) (Utf8.encode text)] := by
  rcases stage with ⟨rfl, rfl⟩ | ⟨rfl, rfl⟩
  · exact ⟨headPieces entry, fun _ within => .inl within, by
      simp [storePieces_eq, headPieces, tailPieces, bodyPieces, contentSteps, FileStep.pieces,
        show Utf8.encode "" = [] by decide]⟩
  · refine ⟨headPieces entry ++ [.write (joined entry descriptionFile) []], ?_, by
      simp [storePieces_eq, headPieces, tailPieces, bodyPieces, contentSteps, FileStep.pieces]⟩
    intro step within
    simpa using within

theorem run_begins {fs : Files} {directory : String} {a old : Artifact}
    (stored : Stored fs directory old) (same : a.fingerprint = old.fingerprint) :
    (FileStep.run fs
      ((storePieces (entryDirectory directory a.fingerprint) a).take 4)).1 = .ok () := by
  rw [same]
  have metadata := vacant_of_read stored.metadata
  have description := vacant_of_read stored.description
  generalize entryDirectory directory old.fingerprint = entry at metadata description
  have made : (FileStep.makeDirectories entry).apply fs = (.ok (), fs) :=
    makeDirectories_of_reaches isName_metadataFile metadata.reaches
  have pieces : (storePieces entry a).take 4 =
      [.makeDirectories entry, .removeIfPresent (joined entry metadataFile),
        .write (joined entry descriptionFile) [],
        .write (joined entry descriptionFile) (Utf8.encode a.description)] := by
    simp [storePieces_eq, headPieces, tailPieces, bodyPieces, contentSteps, FileStep.pieces]
  rw [pieces, FileStep.run_cons_ok made]
  refine FileStep.run_fits fun step within => ?_
  simp only [List.mem_cons, List.not_mem_nil, or_false] at within
  rcases within with rfl | rfl | rfl
  · exact metadata
  · exact description
  · exact description

/-- If the metadata are read before they are removed, and the rest when the description has been
emptied or written, then what is loaded is the old artifact with a description that is cut off, or
with the new one. -/
theorem loadAcross_torn {c : Cache} {fs : Files} {directory : String} {a old : Artifact} {n : Nat}
    (enabled : c.directory = some directory) (storable : Storable old)
    (stored : Stored fs directory old) (same : a.fingerprint = old.fingerprint) {text : String}
    (stage : n = 3 ∧ text = "" ∨ n = 4 ∧ text = a.description) :
    c.loadAcross old.fingerprint (c.storing a fs 0) (c.storing a fs n) (c.storing a fs n) =
      some { old with description := text } := by
  obtain ⟨before, within, pieces⟩ :=
    storePieces_described (entryDirectory directory a.fingerprint) a stage
  have goes : (FileStep.run fs
      ((storePieces (entryDirectory directory a.fingerprint) a).take n)).1 = .ok () :=
    FileStep.run_take (by omega) (run_begins stored same)
  rw [pieces] at goes
  simp only [storing, enabled, pieces, List.take_zero, FileStep.run]
  rw [same] at within goes ⊢
  let torn : Artifact := { old with description := text }
  change c.loadAcross torn.fingerprint _ _ _ = some torn
  have created : torn.createdAt.isValid = true := storable.created
  apply loadAcross_of_reads enabled created
  · exact stored.metadata
  · exact FileStep.run_written before goes (by simp)
  · intro bytes there
    obtain ⟨kept, others⟩ := FileStep.run_effect fs (before ++
      [.write (joined (entryDirectory directory old.fingerprint) descriptionFile)
        (Utf8.encode text)])
    refine read_kept kept (others _ fun step piece changed => ?_) (stored.image there)
    rw [steps_entryFile storable.digest (isName_imageFile storable.format)] at changed
    have described : FileStep.places (.write
        (joined (entryDirectory directory old.fingerprint) descriptionFile) []) =
        [entryPlace directory old.fingerprint descriptionFile] := by
      simp only [FileStep.places, steps_entryFile storable.digest isName_descriptionFile]
    have apart : entryPlace directory old.fingerprint (imageFile old.format) ∉
        [entryPlace directory old.fingerprint descriptionFile] := by
      simp [entryPlace_inj, imageFile_ne_descriptionFile]
    rcases List.mem_append.mp piece with piece | piece
    · rcases within step piece with head | rfl
      · rcases List.mem_cons.mp head with rfl | head
        · simp [FileStep.places] at changed
        · obtain rfl := List.mem_singleton.mp head
          simp only [FileStep.places, steps_entryFile storable.digest isName_metadataFile,
            List.mem_singleton, entryPlace_inj, true_and] at changed
          exact imageFile_ne_metadataFile _ changed
      · exact apart (described ▸ changed)
    · obtain rfl := List.mem_singleton.mp piece
      exact apart (described ▸ changed)

def shelf : Cache := ⟨some "c"⟩

def shelved : Artifact :=
  ⟨⟨String.ofList (List.replicate 64 'f')⟩, "old", some [1], "svg", ⟨2024, 1, 2, 3, 4, 5, 0⟩⟩

def arriving : Artifact :=
  ⟨shelved.fingerprint, "new", some [2], "svg", ⟨2024, 6, 7, 8, 9, 10, 0⟩⟩

theorem shelved_storable : Storable shelved := ⟨by decide, by decide, by decide⟩

theorem shelved_stored : Stored (shelf.store shelved .empty) "c" shelved :=
  stored_of_storesWell (storesWell_empty rfl ⟨by decide, by decide, by decide⟩
    ⟨by decide, by decide, by decide⟩ ⟨by decide, by decide, by decide⟩) rfl shelved_storable

/-- The metadata are read between their removal and the end of the storing. -/
theorem load_during_store_removed :
    let fs := shelf.store shelved .empty
    let loaded := shelf.loadAcross arriving.fingerprint (shelf.storing arriving fs 2)
      (shelf.storing arriving fs 5) (shelf.storing arriving fs 8)
    loaded = none ∨ loaded = shelf.load arriving.fingerprint fs ∨ loaded = some arriving :=
  load_during_store (c := shelf) (a := arriving) rfl ⟨by decide, by decide, by decide⟩
    (.stored shelved rfl shelved_storable shelved_stored) (by decide) (by decide)
    (.inl (by decide))

theorem arriving_torn {fs : Files} (stored : Stored fs "c" shelved) :
    let loaded (n : Nat) := shelf.loadAcross shelved.fingerprint (shelf.storing arriving fs 0)
      (shelf.storing arriving fs n) (shelf.storing arriving fs n)
    loaded 3 = some { shelved with description := "" } ∧
    loaded 4 = some { shelved with description := arriving.description } ∧
    ∀ n ∈ [3, 4], loaded n ≠ none ∧ loaded n ≠ shelf.load shelved.fingerprint fs ∧
      loaded n ≠ some arriving := by
  intro loaded
  have enabled : shelf.directory = some "c" := rfl
  have same : arriving.fingerprint = shelved.fingerprint := rfl
  have emptied : loaded 3 = some { shelved with description := "" } :=
    loadAcross_torn enabled shelved_storable stored same (.inl ⟨rfl, rfl⟩)
  have mixed : loaded 4 = some { shelved with description := arriving.description } :=
    loadAcross_torn enabled shelved_storable stored same (.inr ⟨rfl, rfl⟩)
  refine ⟨emptied, mixed, ?_⟩
  rw [load_of_stored enabled stored shelved_storable]
  intro n within
  obtain rfl | rfl : n = 3 ∨ n = 4 := by simpa using within
  · rw [emptied]
    decide
  · rw [mixed]
    decide

/-- What is loaded is neither the artifact that was there nor the new one. -/
theorem load_torn :
    let fs := shelf.store shelved .empty
    let loaded (n : Nat) := shelf.loadAcross shelved.fingerprint (shelf.storing arriving fs 0)
      (shelf.storing arriving fs n) (shelf.storing arriving fs n)
    loaded 3 = some { shelved with description := "" } ∧
    loaded 4 = some { shelved with description := arriving.description } ∧
    ∀ n ∈ [3, 4], loaded n ≠ none ∧ loaded n ≠ shelf.load shelved.fingerprint fs ∧
      loaded n ≠ some arriving :=
  arriving_torn shelved_stored

end Cache

end CallChart
