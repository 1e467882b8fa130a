import CallChart.Proofs.Cache.Entry

namespace CallChart

open Files

namespace Files

theorem locate_sibling {fs : Files} {directory name other : String} (plain : IsName name)
    (plain' : IsName other) (missing : fs.locate (joined directory name) = .error .notFound)
    {p : Path} :
    fs.locate (joined directory other) ≠ .ok p := by
  have walked : fs.walk (start directory) (strides directory ++ [name]) = .error .notFound := by
    simp only [locate] at missing
    split at missing
    · cases missing
    · split at missing
      · rename_i empty
        have steps := strides_joined directory plain
        rw [empty] at steps
        simp [strides, Text.split, Text.splitChars] at steps
      · split at missing
        · cases missing
        · rwa [start_joined directory plain, strides_joined directory plain] at missing
  have absent : ∀ q, fs.walk (start directory) (strides directory ++ [other]) ≠ .ok q := by
    intro q
    rw [walk_append] at walked ⊢
    cases way : fs.walk (start directory) (strides directory) with
    | error fault => simp [Except.bind]
    | ok here =>
      simp only [way, Except.bind, walk] at walked ⊢
      cases there : fs.lookup? here with
      | none => simp
      | some e =>
        cases e with
        | file bytes executable => simp
        | directory =>
          simp only [there, plain.2.1, plain.2.2.1, ↓reduceIte] at walked
          split at walked <;> cases walked
  intro found
  simp only [locate] at found
  split at found
  · cases found
  · split at found
    · cases found
    · split at found
      · cases found
      · rw [start_joined directory plain', strides_joined directory plain'] at found
        exact absent p found

theorem removeFile_notFound {fs : Files} {path : String}
    (failed : fs.removeFile path = .error .notFound) :
    fs.fileAt (steps path) = none ∨ fs.locate path = .error .notFound := by
  simp only [removeFile, entryAt, bind, Except.bind] at failed
  cases located : fs.locate path with
  | error fault =>
    rw [located] at failed
    exact .inr (by simpa using failed)
  | ok p =>
    obtain rfl := locate_steps located
    refine .inl ?_
    simp only [located] at failed
    cases entry : fs.lookup? (steps path) with
    | none => simp [fileAt, entry]
    | some e =>
      cases e with
      | directory => simp [fileAt, entry]
      | file bytes executable =>
        simp only [entry] at failed
        split at failed
        · rename_i fault stop
          split at stop
          · cases stop
            cases failed
          · cases stop
        · rename_i found
          split at found
          · cases found
          · cases found
            cases failed

end Files

namespace Cache

def contentSteps (entry : String) (a : Artifact) : List FileStep :=
  .write (joined entry descriptionFile) (Utf8.encode a.description) ::
    match a.image with
    | none => []
    | some image => [.write (joined entry (imageFile a.format)) image]

theorem storeSteps_eq (entry : String) (a : Artifact) :
    storeSteps entry a =
      .makeDirectories entry :: .removeIfPresent (joined entry metadataFile) ::
        (contentSteps entry a ++
          [.write (joined entry metadataFile) (Metadata.ofArtifact a).bytes]) := by
  unfold storeSteps contentSteps
  cases a.image <;> rfl

theorem eq_of_makeDirectories {a : Artifact} {entry path : String}
    (within : .makeDirectories path ∈ storeSteps entry a) : path = entry := by
  cases image : a.image <;> simpa [storeSteps, image] using within

theorem contentSteps_places {directory : String} {a : Artifact} (placed : Placed a)
    {step : FileStep} (within : step ∈ contentSteps (entryDirectory directory a.fingerprint) a) :
    ∃ name, name ≠ metadataFile ∧ step.places = [entryPlace directory a.fingerprint name] := by
  simp only [contentSteps, List.mem_cons] at within
  rcases within with rfl | within
  · exact ⟨descriptionFile, by decide, by
      simp [FileStep.places, steps_entryFile placed.digest isName_descriptionFile]⟩
  · cases image : a.image with
    | none => simp [image] at within
    | some bytes =>
      simp only [image, List.mem_singleton] at within
      subst within
      have plain := placed.format (by simp [image])
      exact ⟨imageFile a.format, imageFile_ne_metadataFile _, by
        simp [FileStep.places, steps_entryFile placed.digest (isName_imageFile plain)]⟩

theorem storeSteps_places {directory : String} {a : Artifact} {q : Path} (placed : Placed a)
    {step : FileStep} (within : step ∈ storeSteps (entryDirectory directory a.fingerprint) a)
    (changed : q ∈ step.places) : ∃ name, q = entryPlace directory a.fingerprint name := by
  simp only [storeSteps_eq, List.mem_cons, List.mem_append, List.not_mem_nil, or_false] at within
  rcases within with rfl | rfl | within | rfl
  · simp [FileStep.places] at changed
  · simp only [FileStep.places, steps_entryFile placed.digest isName_metadataFile,
      List.mem_singleton] at changed
    exact ⟨_, changed⟩
  · obtain ⟨name, -, places⟩ := contentSteps_places placed within
    rw [places, List.mem_singleton] at changed
    exact ⟨name, changed⟩
  · simp only [FileStep.places, steps_entryFile placed.digest isName_metadataFile,
      List.mem_singleton] at changed
    exact ⟨_, changed⟩

theorem store_effect_of_placed {directory : String} {a : Artifact} (c : Cache)
    (enabled : c.directory = some directory) (placed : Placed a) (fs : Files) :
    DirsKept fs (c.store a fs) ∧
      ∀ q, (∀ name, q ≠ entryPlace directory a.fingerprint name) →
        (c.store a fs).fileAt q = fs.fileAt q := by
  obtain ⟨kept, same⟩ :=
    FileStep.run_effect fs (storeSteps (entryDirectory directory a.fingerprint) a)
  simp only [store, enabled]
  refine ⟨kept, fun q outside => same q fun step within changed => ?_⟩
  obtain ⟨name, rfl⟩ := storeSteps_places placed within changed
  exact outside name rfl

theorem store_effect {directory : String} {a : Artifact} (c : Cache)
    (enabled : c.directory = some directory) (storable : Storable a) (fs : Files) :
    DirsKept fs (c.store a fs) ∧
      ∀ q, (∀ name, q ≠ entryPlace directory a.fingerprint name) →
        (c.store a fs).fileAt q = fs.fileAt q :=
  store_effect_of_placed c enabled storable.placed fs

theorem run_stored {fs : Files} {directory : String} {a : Artifact} (placed : Placed a)
    (done : (FileStep.run fs (storeSteps (entryDirectory directory a.fingerprint) a)).1 = .ok ()) :
    Stored (FileStep.run fs (storeSteps (entryDirectory directory a.fingerprint) a)).2
      directory a where
  metadata := by
    simp only [storeSteps_eq] at done ⊢
    rw [← List.cons_append, ← List.cons_append] at done ⊢
    exact FileStep.run_written _ done (by simp)
  description := by
    simp only [storeSteps_eq, contentSteps, List.cons_append] at done ⊢
    refine FileStep.run_written [_, _] done fun step within => ?_
    rw [steps_entryFile placed.digest isName_descriptionFile]
    rcases List.mem_append.mp within with within | within
    · cases image : a.image with
      | none => simp [image] at within
      | some bytes =>
        simp only [image, List.mem_singleton] at within
        subst within
        have plain := placed.format (by simp [image])
        simp [FileStep.places, steps_entryFile placed.digest (isName_imageFile plain),
          entryPlace_inj, (imageFile_ne_descriptionFile _).symm]
    · obtain rfl := List.mem_singleton.mp within
      simp only [FileStep.places, steps_entryFile placed.digest isName_metadataFile,
        List.mem_singleton, entryPlace_inj, true_and]
      decide
  image := by
    intro bytes there
    have plain := placed.format (by simp [there])
    simp only [storeSteps_eq, contentSteps, there] at done ⊢
    refine FileStep.run_written [_, _, _] done fun step within => ?_
    obtain rfl := List.mem_singleton.mp within
    simp [FileStep.places, steps_entryFile placed.digest isName_metadataFile,
      steps_entryFile placed.digest (isName_imageFile plain), entryPlace_inj,
      imageFile_ne_metadataFile]

def storesWell (c : Cache) (a : Artifact) (fs : Files) : Bool :=
  c.directory.any fun directory =>
    (FileStep.run fs (storeSteps (entryDirectory directory a.fingerprint) a)).1.isOk

theorem stored_of_storesWell {fs : Files} {directory : String} {a : Artifact} {c : Cache}
    (well : c.storesWell a fs = true) (enabled : c.directory = some directory)
    (storable : Storable a) :
    Stored (c.store a fs) directory a := by
  simp only [storesWell, enabled, Option.any_some] at well
  simp only [store, enabled]
  apply run_stored storable.placed
  cases outcome : (FileStep.run fs (storeSteps (entryDirectory directory a.fingerprint) a)).1 with
  | error fault => simp [outcome, Except.isOk, Except.toBool] at well
  | ok done => rfl

theorem run_storeSteps {fs fs' : Files} {a : Artifact} {entry : String}
    (made : fs.makeDirectories entry = (.ok (), fs'))
    (metadata : fs'.Vacant (joined entry metadataFile))
    (description : fs'.Vacant (joined entry descriptionFile))
    (image : fs'.Vacant (joined entry (imageFile a.format))) :
    (FileStep.run fs (storeSteps entry a)).1 = .ok () := by
  have first : (FileStep.makeDirectories entry).apply fs = (.ok (), fs') := made
  rw [storeSteps_eq, FileStep.run_cons_ok first]
  refine FileStep.run_fits fun step within => ?_
  simp only [contentSteps, List.mem_cons, List.mem_append, List.not_mem_nil, or_false] at within
  rcases within with rfl | (rfl | within) | rfl
  · exact metadata
  · exact description
  · cases there : a.image with
    | none => simp [there] at within
    | some bytes =>
      simp only [there, List.mem_singleton] at within
      subst within
      exact image
  · exact metadata

theorem isShort_metadataFile : IsShort metadataFile := ⟨by decide, by decide, by decide⟩

theorem isShort_descriptionFile : IsShort descriptionFile := ⟨by decide, by decide, by decide⟩

theorem storesWell_empty_of_strides {directory : String} {a : Artifact} {c : Cache}
    (enabled : c.directory = some directory) (short : ∀ step ∈ strides directory, IsShort step)
    (text : '\x00' ∉ directory.toList) (bounded : directory.utf8ByteSize ≤ nameLimit)
    (digest : IsShort a.fingerprint.text) (image : IsShort (imageFile a.format)) :
    c.storesWell a empty = true := by
  have limits : 3 * (nameLimit + 1) ≤ pathLimit := by decide
  have bounded' := digest.bounded
  have spelled : Spelled (entryDirectory directory a.fingerprint) :=
    spelled_joined digest text (by omega)
  have way : ∀ step ∈ strides (entryDirectory directory a.fingerprint), IsShort step := by
    rw [entryDirectory, strides_joined directory digest.plain]
    simpa [or_imp, forall_and] using And.intro short digest
  have longest : (entryDirectory directory a.fingerprint).utf8ByteSize ≤ 2 * nameLimit + 1 := by
    have bound := utf8ByteSize_joined_le directory digest.plain
    simp only [entryDirectory]
    omega
  obtain ⟨fs, made, vacant⟩ := makeDirectories_empty spelled way
  have place {name : String} (file : IsShort name) :
      fs.Vacant (joined (entryDirectory directory a.fingerprint) name) :=
    vacant name file (spelled_joined file spelled.1 (by omega))
  have done := run_storeSteps made (place isShort_metadataFile) (place isShort_descriptionFile)
    (place image)
  simp [storesWell, enabled, done, Except.isOk, Except.toBool]

theorem storesWell_empty {directory : String} {a : Artifact} {c : Cache}
    (enabled : c.directory = some directory) (short : IsShort directory)
    (digest : IsShort a.fingerprint.text) (image : IsShort (imageFile a.format)) :
    c.storesWell a empty = true :=
  storesWell_empty_of_strides enabled (by simp [strides_name short.plain, short]) short.text
    short.bounded digest image

theorem run_unfinished {fs : Files} {directory : String} {a : Artifact} (storable : Storable a)
    {entry : String} (here : entry = entryDirectory directory a.fingerprint)
    (absent : fs.fileAt (entryPlace directory a.fingerprint metadataFile) = none)
    (failed : (FileStep.run fs (contentSteps entry a ++
      [.write (joined entry metadataFile) (Metadata.ofArtifact a).bytes])).1 ≠ .ok ()) :
    (FileStep.run fs (contentSteps entry a ++
      [.write (joined entry metadataFile) (Metadata.ofArtifact a).bytes])).2.fileAt
        (entryPlace directory a.fingerprint metadataFile) = none := by
  have before := (FileStep.run_effect fs (contentSteps entry a)).2
    (entryPlace directory a.fingerprint metadataFile) (by
      intro step within
      obtain ⟨name, other, places⟩ := contentSteps_places storable.placed (here ▸ within)
      simpa [places, entryPlace_inj] using other.symm)
  rw [FileStep.run_append] at failed ⊢
  rcases outcome : FileStep.run fs (contentSteps entry a) with ⟨fault | done, middle⟩
  · simpa only [outcome, absent] using before
  · simp only [outcome] at before failed ⊢
    rw [absent] at before
    cases written : middle.write (joined entry metadataFile) (Metadata.ofArtifact a).bytes with
    | error fault => simpa [FileStep.run, FileStep.apply, written, whole] using before
    | ok fs' => simp [FileStep.run, FileStep.apply, written, whole] at failed

/-- However far storing an artifact comes, the files are as they were, or its entry has no metadata,
or its entry holds the artifact. -/
theorem store_cases {directory : String} {a : Artifact} (c : Cache)
    (enabled : c.directory = some directory) (storable : Storable a) (fs : Files) :
    (∀ q, (c.store a fs).fileAt q = fs.fileAt q) ∨
      (c.store a fs).fileAt (entryPlace directory a.fingerprint metadataFile) = none ∨
      Holds (c.store a fs) directory a := by
  simp only [store, enabled]
  by_cases well :
      (FileStep.run fs (storeSteps (entryDirectory directory a.fingerprint) a)).1 = .ok ()
  · exact .inr (.inr ((run_stored storable.placed well).holds storable))
  rw [storeSteps_eq] at well ⊢
  generalize here : entryDirectory directory a.fingerprint = entry at *
  have unchanged := (FileStep.apply_effect fs (.makeDirectories entry)).2
  rcases made : (FileStep.makeDirectories entry).apply fs with ⟨fault | done, fs₁⟩
  · rw [FileStep.run_cons_error made]
    rw [made] at unchanged
    exact .inl fun q => unchanged q (by simp [FileStep.places])
  rw [made] at unchanged
  rw [FileStep.run_cons_ok made] at well ⊢
  have same (q : Path) : fs₁.fileAt q = fs.fileAt q := unchanged q (by simp [FileStep.places])
  cases removed : fs₁.removeFile (joined entry metadataFile) with
  | ok fs₂ =>
    have step : (FileStep.removeIfPresent (joined entry metadataFile)).apply fs₁ = (.ok (), fs₂) := by
      simp [FileStep.apply, removed, whole]
    rw [FileStep.run_cons_ok step] at well ⊢
    refine .inr (.inl (run_unfinished storable here.symm ?_ well))
    rw [← steps_entryFile storable.digest isName_metadataFile, here]
    exact removeFile_fileAt removed
  | error fault =>
    by_cases missing : fault = .notFound
    · subst missing
      have step : (FileStep.removeIfPresent (joined entry metadataFile)).apply fs₁ =
          (.ok (), fs₁) := by
        simp [FileStep.apply, removed]
      rw [FileStep.run_cons_ok step] at well ⊢
      rcases removeFile_notFound removed with absent | lost
      · refine .inr (.inl (run_unfinished storable here.symm ?_ well))
        rwa [← steps_entryFile storable.digest isName_metadataFile, here]
      · have refused : ∃ fault,
            fs₁.write (joined entry descriptionFile) (Utf8.encode a.description) = .error fault := by
          cases written : fs₁.write (joined entry descriptionFile) (Utf8.encode a.description) with
          | error fault => exact ⟨fault, rfl⟩
          | ok fs₂ =>
            exact (locate_sibling isName_metadataFile isName_descriptionFile lost
              (write_effect written).1.1).elim
        obtain ⟨fault, refused⟩ := refused
        have step : (FileStep.write (joined entry descriptionFile)
            (Utf8.encode a.description)).apply fs₁ = (.error fault, fs₁) := by
          simp [FileStep.apply, refused, whole]
        simp only [contentSteps, List.cons_append, FileStep.run_cons_error step]
        exact .inl same
    · have step : (FileStep.removeIfPresent (joined entry metadataFile)).apply fs₁ =
          (.error fault, fs₁) := by
        cases fault <;> simp_all [FileStep.apply, whole]
      rw [FileStep.run_cons_error step]
      exact .inl same

/-- Every entry lacks its metadata or holds an artifact of a kind. -/
def Filled (kind : Artifact → Prop) (directory : String) (fs : Files) : Prop :=
  ∀ fp, IsName fp.text → fs.fileAt (entryPlace directory fp metadataFile) = none ∨
    ∃ a, a.fingerprint = fp ∧ kind a ∧ Holds fs directory a

namespace Filled

theorem kept {fs fs' : Files} {directory : String} {kind : Artifact → Prop}
    (filled : Filled kind directory fs)
    (same : ∀ fp name, IsName fp.text → fs'.fileAt (entryPlace directory fp name) =
    fs.fileAt (entryPlace directory fp name)) : Filled kind directory fs' := by
  intro fp digest
  rcases filled fp digest with absent | ⟨a, rfl, itself, holds⟩
  · exact .inl ((same fp _ digest).trans absent)
  · exact .inr ⟨a, rfl, itself, holds.kept fun name => same _ name digest⟩

theorem spared {fs fs' : Files} {directory : String} {kind : Artifact → Prop}
    (filled : Filled kind directory fs)
    (same : ∀ q, steps directory <+: q → fs'.fileAt q = fs.fileAt q) :
    Filled kind directory fs' :=
  filled.kept fun _ _ _ => same _ (List.prefix_append ..)

theorem clear {fs : Files} {directory : String} {kind : Artifact → Prop}
    (filled : Filled kind directory fs) :
    Filled kind directory (Cache.clear ⟨some directory⟩ fs).2 := by
  intro fp digest
  rcases clear_entry (c := ⟨some directory⟩) rfl fs fp with cleared | kept
  · exact .inl (cleared _)
  · rcases filled fp digest with absent | ⟨a, rfl, itself, holds⟩
    · exact .inl ((kept _).trans absent)
    · exact .inr ⟨a, rfl, itself, holds.kept kept⟩

theorem store {fs : Files} {directory : String} {a : Artifact} {kind : Artifact → Prop}
    (filled : Filled kind directory fs) (storable : Storable a) (itself : kind a) :
    Filled kind directory (Cache.store ⟨some directory⟩ a fs) := by
  intro fp digest
  by_cases own : a.fingerprint = fp
  · subst own
    rcases store_cases ⟨some directory⟩ rfl storable fs with same | absent | holds
    · exact filled.kept (fun fp name _ => same _) _ digest
    · exact .inl absent
    · exact .inr ⟨a, rfl, itself, holds⟩
  · have same (name : String) :
        (Cache.store ⟨some directory⟩ a fs).fileAt (entryPlace directory fp name) =
          fs.fileAt (entryPlace directory fp name) := by
      apply (store_effect ⟨some directory⟩ rfl storable fs).2
      intro name'
      rw [ne_eq, entryPlace_inj]
      exact fun both => own both.1.symm
    rcases filled fp digest with absent | ⟨b, rfl, itself', holds⟩
    · exact .inl ((same _).trans absent)
    · exact .inr ⟨b, rfl, itself', holds.kept same⟩

theorem load {fs : Files} {directory : String} {kind : Artifact → Prop} {fp : Fingerprint}
    {b : Artifact} (filled : Filled kind directory fs) (storable : ∀ a, kind a → Storable a)
    (digest : IsName fp.text) (loaded : Cache.load ⟨some directory⟩ fp fs = some b) :
    b.fingerprint = fp ∧ kind b := by
  rcases filled fp digest with absent | ⟨a, rfl, itself, holds⟩
  · rw [load_of_absent rfl digest absent] at loaded
    cases loaded
  · obtain rfl := load_of_holds rfl holds (storable a itself) loaded
    exact ⟨rfl, itself⟩

end Filled

end Cache
end CallChart
