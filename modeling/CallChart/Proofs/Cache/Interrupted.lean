import CallChart.Proofs.Cache.Overlap
import CallChart.Proofs.Files.Ways

namespace CallChart

open Files

namespace FileStep

/-- What a step may have done when it does not come to its end: whatever it leaves when it fails,
some of the directories that it makes, or the first bytes of what it writes. -/
inductive Begun (fs : Files) : FileStep → Files → Prop
  | failed {step : FileStep} {fault : FileFault} {fs' : Files}
      (failed : step.apply fs = (.error fault, fs')) : Begun fs step fs'
  | making (path : String) (n : Nat) :
      Begun fs (.makeDirectories path) (fs.makeWay (start path) ((strides path).take n)).2
  | writing {path : String} {bytes : List UInt8} {fs' : Files} (n : Nat)
      (written : fs.write path (bytes.take n) = .ok fs') : Begun fs (.write path bytes) fs'

/-- The files when a run has stopped with so many of its steps done. -/
inductive Stops : Files → List FileStep → Nat → Files → Prop
  | here (fs : Files) (steps : List FileStep) : Stops fs steps 0 fs
  | within {fs fs' : Files} {step : FileStep} (rest : List FileStep) (begun : Begun fs step fs') :
      Stops fs (step :: rest) 0 fs'
  | later {fs fs₁ fs' : Files} {step : FileStep} {rest : List FileStep} {n : Nat}
      (done : step.apply fs = (.ok (), fs₁)) (stops : Stops fs₁ rest n fs') :
      Stops fs (step :: rest) (n + 1) fs'

theorem Begun.effect {fs fs' : Files} {step : FileStep} (begun : Begun fs step fs') :
    DirsKept fs fs' ∧ ∀ q ∉ step.places, fs'.fileAt q = fs.fileAt q := by
  cases begun with
  | failed failed =>
    have effect := apply_effect fs step
    rwa [failed] at effect
  | making path n =>
    obtain ⟨kept, same⟩ := makeWay_effect fs (start path) ((strides path).take n)
    exact ⟨kept, fun q _ => same q⟩
  | writing n written =>
    refine ⟨write_kept written, fun q apart => write_other written ?_⟩
    simpa [places] using apart

theorem stops_fits {fs : Files} {steps : List FileStep} {path : String}
    (fits : ∀ step ∈ steps, step.Fits fs) (vacant : fs.Vacant path) (bytes : List UInt8) (n : Nat) :
    ∃ fs', Stops fs (steps ++ [.write path bytes]) steps.length fs' ∧
      fs'.fileAt (Files.steps path) = some (bytes.take n) := by
  induction steps generalizing fs with
  | nil =>
    obtain ⟨executable, written⟩ := vacant.write (bytes.take n)
    exact ⟨_, .within [] (.writing n written), write_fileAt written⟩
  | cons step rest ih =>
    obtain ⟨first, others⟩ := List.forall_mem_cons.mp fits
    obtain ⟨fs₁, done, kept⟩ := first.apply
    obtain ⟨fs', stops, part⟩ := ih (fun step' within => (others step' within).of_vacant kept)
      (kept path vacant)
    exact ⟨fs', .later done stops, part⟩

theorem stops_run (fs : Files) (steps : List FileStep) : ∃ n, Stops fs steps n (run fs steps).2 := by
  induction steps generalizing fs with
  | nil => exact ⟨0, .here fs []⟩
  | cons step rest ih =>
    rcases outcome : step.apply fs with ⟨fault | done, fs'⟩
    · rw [run_cons_error outcome]
      exact ⟨0, .within rest (.failed outcome)⟩
    · rw [run_cons_ok outcome]
      obtain ⟨n, stops⟩ := ih fs'
      exact ⟨n + 1, .later outcome stops⟩

theorem Stops.split {fs fs' : Files} {before after : List FileStep} {n : Nat}
    (stops : Stops fs (before ++ after) n fs') :
    (n < before.length ∧ Stops fs before n fs') ∨
      ∃ m fs₁, n = before.length + m ∧ run fs before = (.ok (), fs₁) ∧ Stops fs₁ after m fs' := by
  induction before generalizing fs n with
  | nil => exact .inr ⟨n, fs, by simp, rfl, stops⟩
  | cons step before ih =>
    cases stops with
    | here => exact .inl ⟨by simp, .here _ _⟩
    | within _ begun => exact .inl ⟨by simp, .within _ begun⟩
    | later done stops =>
      rcases ih stops with ⟨early, stops⟩ | ⟨m, fs₂, rfl, through, stops⟩
      · exact .inl ⟨by simpa using early, .later done stops⟩
      · refine .inr ⟨m, fs₂, by simp only [List.length_cons]; omega, ?_, stops⟩
        rw [run_cons_ok done, through]

theorem Stops.keeps {fs fs' : Files} {steps : List FileStep} {n : Nat} {P : Files → Prop}
    (kept : ∀ step ∈ steps, ∀ fs fs', P fs → (Begun fs step fs' ∨ step.apply fs = (.ok (), fs')) →
      P fs') (stops : Stops fs steps n fs') (holds : P fs) : P fs' := by
  induction stops with
  | here => exact holds
  | within rest begun => exact kept _ List.mem_cons_self _ _ holds (.inl begun)
  | later done _ ih =>
    exact ih (fun step within => kept step (List.mem_cons_of_mem _ within))
      (kept _ List.mem_cons_self _ _ holds (.inr done))

end FileStep

namespace Cache

def Flat (directory : String) (fp : Fingerprint) (fs : Files) : Prop :=
  ∀ name, fs.lookup? (entryPlace directory fp name) ≠ some .directory

theorem plain_of_write {fs fs' : Files} {directory : String} {fp : Fingerprint} {format : String}
    {bytes : List UInt8} (digest : IsName fp.text)
    (flat : '/' ∈ format.toList → Flat directory fp fs)
    (written : fs.write (joined (entryDirectory directory fp) (imageFile format)) bytes = .ok fs') :
    '/' ∉ format.toList := by
  intro slash
  obtain ⟨front, rest, chars, plain⟩ := List.eq_append_cons_of_mem slash
  have parts : imageFile format =
      imageFile (String.ofList front) ++ "/" ++ String.ofList rest := by
    rw [← String.toList_inj]
    simp [imageFile, chars]
  have plain' : '/' ∉ (String.ofList front).toList := by simpa using plain
  rw [parts] at written
  have inside := write_slash (isName_imageFile plain') written
  rw [entryDirectory, steps_joined directory digest] at inside
  exact flat slash (imageFile (String.ofList front)) (by simpa [entryPlace] using inside)

theorem content_place {fs fs' : Files} {directory : String} {a : Artifact} {path : String}
    {bytes bytes' : List UInt8} (digest : IsName a.fingerprint.text)
    (flat : '/' ∈ a.format.toList → Flat directory a.fingerprint fs)
    (within : .write path bytes ∈ contentSteps (entryDirectory directory a.fingerprint) a)
    (written : fs.write path bytes' = .ok fs') :
    ∃ name ≠ metadataFile, steps path = entryPlace directory a.fingerprint name := by
  simp only [contentSteps, List.mem_cons] at within
  rcases within with same | within
  · cases same
    exact ⟨descriptionFile, by decide, steps_entryFile digest isName_descriptionFile⟩
  · cases image : a.image with
    | none => simp [image] at within
    | some content =>
      simp only [image, List.mem_singleton, FileStep.write.injEq] at within
      obtain ⟨rfl, rfl⟩ := within
      have plain := plain_of_write digest flat written
      exact ⟨imageFile a.format, imageFile_ne_metadataFile _,
        steps_entryFile digest (isName_imageFile plain)⟩

/-- An entry whose content is being written: without metadata, and without directories if that
matters. -/
structure Opened (directory : String) (a : Artifact) (fs : Files) : Prop where
  absent : fs.fileAt (entryPlace directory a.fingerprint metadataFile) = none
  flat : '/' ∈ a.format.toList → Flat directory a.fingerprint fs

theorem Opened.write {fs fs' : Files} {directory : String} {a : Artifact} {name path : String}
    {bytes : List UInt8} (opened : Opened directory a fs) (other : name ≠ metadataFile)
    (place : steps path = entryPlace directory a.fingerprint name)
    (written : fs.write path bytes = .ok fs') : Opened directory a fs' where
  absent := by
    refine (write_other written ?_).trans opened.absent
    rw [place, ne_eq, entryPlace_inj]
    exact fun same => other same.2.symm
  flat slash name' := by
    obtain ⟨-, free, executable, rfl⟩ := write_effect written
    by_cases same : entryPlace directory a.fingerprint name' = steps path
    · rw [same, lookup?_put_self (not_fixed_of_lookup? free)]
      simp
    · rw [lookup?_put_other same]
      exact opened.flat slash name'

theorem Opened.content {fs fs' : Files} {directory : String} {a : Artifact} {step : FileStep}
    (opened : Opened directory a fs) (digest : IsName a.fingerprint.text)
    (within : step ∈ contentSteps (entryDirectory directory a.fingerprint) a)
    (goes : FileStep.Begun fs step fs' ∨ step.apply fs = (.ok (), fs')) :
    Opened directory a fs' := by
  obtain ⟨path, bytes, rfl⟩ : ∃ path bytes, step = .write path bytes := by
    simp only [contentSteps, List.mem_cons] at within
    rcases within with rfl | within
    · exact ⟨_, _, rfl⟩
    · cases image : a.image with
      | none => simp [image] at within
      | some content => exact ⟨_, _, by simpa [image] using within⟩
  have written {bytes' : List UInt8} (written : fs.write path bytes' = .ok fs') :
      Opened directory a fs' := by
    obtain ⟨name, other, place⟩ := content_place digest opened.flat within written
    exact opened.write other place written
  rcases goes with begun | through
  · cases begun with
    | failed failed =>
      simp only [FileStep.apply, whole] at failed
      split at failed <;> cases failed
      exact opened
    | writing n part => exact written part
  · simp only [FileStep.apply, whole] at through
    split at through <;> cases through
    exact written ‹_›

theorem Opened.run {fs : Files} {directory : String} {a : Artifact} (opened : Opened directory a fs)
    (digest : IsName a.fingerprint.text) :
    Opened directory a
      (FileStep.run fs (contentSteps (entryDirectory directory a.fingerprint) a)).2 := by
  refine FileStep.run_keeps (fun step within fs opened => ?_) opened
  rcases outcome : step.apply fs with ⟨fault | done, fs'⟩
  · exact opened.content digest within (.inl (.failed outcome))
  · exact opened.content digest within (.inr outcome)

/-- What can be loaded from the entry that an artifact is stored in: nothing, if it is not there,
and what is stored in it as a whole. A format with a slash could reach a directory within the entry,
so the way to the entry must not make one. -/
inductive Settled (fs : Files) (directory : String) (a : Artifact) : Option Artifact → Prop
  | absent (nothing : ∀ rest, fs.lookup? (steps directory ++ a.fingerprint.text :: rest) = none)
      (direct : '/' ∈ a.format.toList →
        ∀ name, entryPlace directory a.fingerprint name ∉ way directory) : Settled fs directory a none
  | stored (old : Artifact) (same : old.fingerprint = a.fingerprint)
      (created : old.createdAt.isValid = true) (stored : Stored fs directory old)
      (flat : Flat directory a.fingerprint fs) : Settled fs directory a (some old)

theorem load_of_reads {c : Cache} {fs : Files} {directory : String} {a : Artifact}
    (enabled : c.directory = some directory) (created : a.createdAt.isValid = true)
    (stored : Stored fs directory a) : c.load a.fingerprint fs = some a := by
  rw [← loadAcross_self]
  exact loadAcross_of_reads enabled created stored.metadata stored.description fun _ => stored.image

theorem Settled.load {c : Cache} {fs fs' : Files} {directory : String} {a : Artifact}
    {old : Option Artifact} (settled : Settled fs directory a old)
    (enabled : c.directory = some directory) (digest : IsName a.fingerprint.text)
    (kept : DirsKept fs fs') (same : ∀ q, fs'.fileAt q = fs.fileAt q) :
    c.load a.fingerprint fs' = old := by
  cases settled with
  | absent nothing direct =>
    refine load_of_absent enabled digest ((same _).trans ?_)
    simp [fileAt, entryPlace, nothing]
  | stored old equal created stored flat =>
    rw [← equal]
    refine load_of_reads enabled created ⟨?_, ?_, fun there => ?_⟩
    · exact read_kept kept (same _) stored.metadata
    · exact read_kept kept (same _) stored.description
    · exact read_kept kept (same _) (stored.image there)

theorem head_stops {fs fs' : Files} {n : Nat} {entry : String}
    (stops : FileStep.Stops fs (headPieces entry) n fs') (early : n < 2) :
    DirsKept fs fs' ∧ ∀ q, fs'.fileAt q = fs.fileAt q := by
  cases stops with
  | here => exact ⟨.refl fs, fun _ => rfl⟩
  | within _ begun => exact ⟨begun.effect.1, fun q => begun.effect.2 q (by simp [FileStep.places])⟩
  | later made stops =>
    have effect := FileStep.apply_effect fs (.makeDirectories entry)
    rw [made] at effect
    have first : DirsKept fs _ ∧ ∀ q, _ := ⟨effect.1, fun q => effect.2 q (by simp [FileStep.places])⟩
    cases stops with
    | here => exact first
    | within _ begun =>
      cases begun with
      | failed failed =>
        simp only [FileStep.apply] at failed
        split at failed
        · cases failed
        · simp only [whole] at failed
          split at failed <;> cases failed
          exact first
    | later _ stops => omega

theorem Settled.opened {fs fs' : Files} {directory : String} {a : Artifact} {old : Option Artifact}
    (settled : Settled fs directory a old) (digest : IsName a.fingerprint.text)
    (done : FileStep.run fs (headPieces (entryDirectory directory a.fingerprint)) = (.ok (), fs')) :
    Opened directory a fs' := by
  refine ⟨head_removes digest ?_ done, fun slash name inside => ?_⟩
  · cases settled with
    | absent nothing direct => exact .inl (by simp [fileAt, entryPlace, nothing])
    | stored old same created stored flat =>
      exact .inr (same ▸ (read_effect stored.metadata).1)
  have after : fs' =
      (FileStep.run fs (headPieces (entryDirectory directory a.fingerprint))).2 := by rw [done]
  cases settled with
  | absent nothing direct =>
    rw [after] at inside
    have before : fs.lookup? (entryPlace directory a.fingerprint name) = some .directory := by
      refine FileStep.run_directory (fun path within => ?_) inside
      have same : path = entryDirectory directory a.fingerprint := by simpa [headPieces] using within
      rw [same, entryDirectory, way_joined directory digest, List.mem_append, List.mem_singleton]
      rintro (on | same)
      · exact direct slash name on
      · simp [entryPlace] at same
    rw [entryPlace, nothing [name]] at before
    cases before
  | stored old same created stored flat =>
    have made : (FileStep.makeDirectories (entryDirectory directory a.fingerprint)).apply fs =
        (.ok (), fs) :=
      makeDirectories_of_reaches isName_metadataFile (same ▸ (read_effect stored.metadata).1)
    rw [after, headPieces, FileStep.run_cons_ok made] at inside
    exact flat name (FileStep.run_directory (by simp) inside)

theorem placed_of_run {fs fs' : Files} {directory : String} {a : Artifact}
    (digest : IsName a.fingerprint.text) (opened : Opened directory a fs)
    (done : FileStep.run fs (contentSteps (entryDirectory directory a.fingerprint) a) =
      (.ok (), fs')) : Placed a := by
  refine ⟨digest, fun image => ?_⟩
  obtain ⟨bytes, image⟩ := Option.ne_none_iff_exists'.mp image
  have both : contentSteps (entryDirectory directory a.fingerprint) a =
      [.write (joined (entryDirectory directory a.fingerprint) descriptionFile)
          (Utf8.encode a.description),
        .write (joined (entryDirectory directory a.fingerprint) (imageFile a.format)) bytes] := by
    simp [contentSteps, image]
  have within : FileStep.write (joined (entryDirectory directory a.fingerprint) descriptionFile)
      (Utf8.encode a.description) ∈ contentSteps (entryDirectory directory a.fingerprint) a :=
    List.mem_cons_self
  rw [both] at done
  rcases described : (FileStep.write (joined (entryDirectory directory a.fingerprint)
    descriptionFile) (Utf8.encode a.description)).apply fs with ⟨fault | _, fs₁⟩
  · rw [FileStep.run_cons_error described] at done
    cases done
  · rw [FileStep.run_cons_ok described] at done
    simp only [FileStep.run, FileStep.apply] at done
    cases drawn : fs₁.write (joined (entryDirectory directory a.fingerprint) (imageFile a.format))
      bytes with
    | error fault => simp [drawn, whole] at done
    | ok fs₂ => exact plain_of_write digest (opened.content digest within (.inr described)).flat drawn

theorem storeSteps_parts (entry : String) (a : Artifact) :
    storeSteps entry a = headPieces entry ++ (contentSteps entry a ++
      [.write (joined entry metadataFile) (Metadata.ofArtifact a).bytes]) :=
  storeSteps_eq entry a

theorem stored_of_written {fs fs' : Files} {directory : String} {a : Artifact} {fs₁ fs₂ : Files}
    (digest : IsName a.fingerprint.text) (opened : Opened directory a fs₁)
    (head : FileStep.run fs (headPieces (entryDirectory directory a.fingerprint)) = (.ok (), fs₁))
    (content : FileStep.run fs₁ (contentSteps (entryDirectory directory a.fingerprint) a) =
      (.ok (), fs₂))
    (written : fs₂.write (joined (entryDirectory directory a.fingerprint) metadataFile)
      (Metadata.ofArtifact a).bytes = .ok fs') : Stored fs' directory a := by
  have through : FileStep.run fs (storeSteps (entryDirectory directory a.fingerprint) a) =
      (.ok (), fs') := by
    rw [storeSteps_parts, FileStep.run_append, head]
    simp only [FileStep.run_append, content, FileStep.run, FileStep.apply, written, whole]
  have stored := run_stored (placed_of_run digest opened content) (congrArg Prod.fst through)
  rwa [through] at stored

theorem load_after_removal {c : Cache} {fs fs' : Files} {directory : String} {a : Artifact}
    {n : Nat} (enabled : c.directory = some directory) (digest : IsName a.fingerprint.text)
    (created : a.createdAt.isValid = true) {fs₁ : Files} (opened : Opened directory a fs₁)
    (head : FileStep.run fs (headPieces (entryDirectory directory a.fingerprint)) = (.ok (), fs₁))
    (stops : FileStep.Stops fs₁ (contentSteps (entryDirectory directory a.fingerprint) a ++
      [.write (joined (entryDirectory directory a.fingerprint) metadataFile)
        (Metadata.ofArtifact a).bytes]) n fs') :
    c.load a.fingerprint fs' =
      if fs'.fileAt (entryPlace directory a.fingerprint metadataFile) =
        some (Metadata.ofArtifact a).bytes then some a else none := by
  have nothing {fs' : Files} (absent : fs'.fileAt (entryPlace directory a.fingerprint metadataFile) =
      none) : c.load a.fingerprint fs' =
        if fs'.fileAt (entryPlace directory a.fingerprint metadataFile) =
          some (Metadata.ofArtifact a).bytes then some a else none := by
    rw [load_of_absent enabled digest absent, if_neg (by simp [absent])]
  have keeps : ∀ step ∈ contentSteps (entryDirectory directory a.fingerprint) a, ∀ fs fs',
      Opened directory a fs → (FileStep.Begun fs step fs' ∨ step.apply fs = (.ok (), fs')) →
        Opened directory a fs' :=
    fun step within fs fs' opened => opened.content digest within
  rcases stops.split with ⟨-, stops⟩ | ⟨m, fs₂, -, content, stops⟩
  · exact nothing (stops.keeps keeps opened).absent
  have absent : fs₂.fileAt (entryPlace directory a.fingerprint metadataFile) = none := by
    have absent := (opened.run digest).absent
    rwa [content] at absent
  have complete {fs' : Files} (written : fs₂.write
      (joined (entryDirectory directory a.fingerprint) metadataFile)
        (Metadata.ofArtifact a).bytes = .ok fs') : c.load a.fingerprint fs' =
        if fs'.fileAt (entryPlace directory a.fingerprint metadataFile) =
          some (Metadata.ofArtifact a).bytes then some a else none := by
    have all := write_fileAt written
    rw [steps_entryFile digest isName_metadataFile] at all
    rw [load_of_reads enabled created (stored_of_written digest opened head content written),
      if_pos all]
  cases stops with
  | here => exact nothing absent
  | within _ begun =>
    cases begun with
    | failed failed =>
      simp only [FileStep.apply, whole] at failed
      split at failed <;> cases failed
      exact nothing absent
    | writing n part =>
      by_cases early : n < (Metadata.ofArtifact a).bytes.length
      · have held := write_fileAt part
        rw [steps_entryFile digest isName_metadataFile] at held
        have other : (Metadata.ofArtifact a).bytes.take n ≠ (Metadata.ofArtifact a).bytes :=
          fun same => by simpa [early.not_ge] using congrArg List.length same
        have unreadable := readMetadata_of_unreadable digest fun bytes there => by
          obtain rfl := Option.some.inj (held.symm.trans there)
          exact Metadata.ofBytes?_take a early
        rw [← loadAcross_self, loadAcross_of_metadata enabled unreadable,
          if_neg (by simpa [held] using other)]
      · rw [List.take_of_length_le (Nat.not_lt.mp early)] at part
        exact complete part
  | later done stops =>
    simp only [FileStep.apply, whole] at done
    split at done <;> cases done
    cases stops
    exact complete ‹_›

/-- A storing stops with so many of its steps done, the second of which removes the metadata. What
is loaded is what was there, if the metadata are not yet removed. If they are, it is the new
artifact as soon as all bytes of its metadata are written, and nothing before. -/
theorem load_stopped {c : Cache} {fs fs' : Files} {directory : String} {a : Artifact}
    {old : Option Artifact} {done : Nat} (enabled : c.directory = some directory)
    (digest : IsName a.fingerprint.text) (created : a.createdAt.isValid = true)
    (settled : Settled fs directory a old)
    (stops : FileStep.Stops fs (storeSteps (entryDirectory directory a.fingerprint) a) done fs') :
    (done < 2 → c.load a.fingerprint fs' = old) ∧
      (2 ≤ done → c.load a.fingerprint fs' =
        if fs'.fileAt (entryPlace directory a.fingerprint metadataFile) =
          some (Metadata.ofArtifact a).bytes then some a else none) := by
  rw [storeSteps_parts] at stops
  rcases stops.split with ⟨early, stops⟩ | ⟨m, fs₁, rfl, head, stops⟩
  · have early' : done < 2 := early
    obtain ⟨kept, same⟩ := head_stops stops early'
    exact ⟨fun _ => settled.load enabled digest kept same, fun late => by omega⟩
  · have late : 2 ≤ (headPieces (entryDirectory directory a.fingerprint)).length + m :=
      Nat.le_add_right 2 m
    refine ⟨fun early => by omega, fun _ => ?_⟩
    exact load_after_removal enabled digest created (settled.opened digest head) head stops

theorem store_stops {c : Cache} {directory : String} (enabled : c.directory = some directory)
    (a : Artifact) (fs : Files) :
    ∃ done, FileStep.Stops fs (storeSteps (entryDirectory directory a.fingerprint) a) done
      (c.store a fs) := by
  simp only [store, enabled]
  exact FileStep.stops_run fs _

theorem Flat.store {c : Cache} {fs : Files} {directory : String} {a : Artifact}
    (flat : Flat directory a.fingerprint fs) (enabled : c.directory = some directory)
    (digest : IsName a.fingerprint.text)
    (direct : ∀ name, entryPlace directory a.fingerprint name ∉ way directory) :
    Flat directory a.fingerprint (c.store a fs) := by
  intro name there
  simp only [Cache.store, enabled] at there
  refine flat name (FileStep.run_directory (fun path within => ?_) there)
  rw [eq_of_makeDirectories within, entryDirectory, way_joined directory digest, List.mem_append,
    List.mem_singleton]
  rintro (on | same)
  · exact direct name on
  · simp [entryPlace] at same

/-- The metadata of the new artifact break off after ten bytes. -/
theorem arriving_broken_off :
    ∃ fs', FileStep.Stops (shelf.store shelved .empty)
        (storeSteps (entryDirectory "c" arriving.fingerprint) arriving) 4 fs' ∧
      fs'.fileAt (entryPlace "c" arriving.fingerprint metadataFile) =
        some ((Metadata.ofArtifact arriving).bytes.take 10) ∧
      shelf.load arriving.fingerprint fs' = none := by
  have stored := shelved_stored
  have digest : IsName shelved.fingerprint.text := shelved_storable.digest
  have place : steps "c" = ["c"] := by decide
  have direct : ∀ name, entryPlace "c" shelved.fingerprint name ∉ way "c" := by
    intro name
    have places : way "c" = [[], ["c"]] := by decide
    simp [places, entryPlace, place]
  have nothing : Flat "c" shelved.fingerprint .empty := by
    intro name there
    have free : ¬ Fixed (entryPlace "c" shelved.fingerprint name) := by
      simp [Fixed, root, entryPlace, place]
    rw [lookup?_of_not_fixed free] at there
    cases there
  have flat : Flat "c" shelved.fingerprint (shelf.store shelved .empty) :=
    Flat.store nothing rfl digest direct
  generalize shelf.store shelved .empty = fs at stored flat
  have metadata := vacant_of_read stored.metadata
  have made : (FileStep.makeDirectories (entryDirectory "c" arriving.fingerprint)).apply fs =
      (.ok (), fs) := makeDirectories_of_reaches isName_metadataFile metadata.reaches
  have fits : ∀ step ∈ [FileStep.removeIfPresent
        (joined (entryDirectory "c" shelved.fingerprint) metadataFile),
      .write (joined (entryDirectory "c" shelved.fingerprint) descriptionFile) (Utf8.encode "new"),
      .write (joined (entryDirectory "c" shelved.fingerprint) (imageFile "svg")) [2]],
      step.Fits fs := by
    simp only [List.forall_mem_cons, FileStep.Fits]
    exact ⟨metadata, vacant_of_read stored.description, vacant_of_read (stored.image rfl), by simp⟩
  obtain ⟨fs', stops, part⟩ :=
    FileStep.stops_fits fits metadata (Metadata.ofArtifact arriving).bytes 10
  rw [steps_entryFile digest isName_metadataFile] at part
  have stopped : FileStep.Stops fs (storeSteps (entryDirectory "c" arriving.fingerprint) arriving)
      4 fs' := .later made stops
  have loaded := (load_stopped (c := shelf) (a := arriving) rfl digest (by decide)
    (.stored shelved rfl (by decide) stored flat) stopped).2 (by decide)
  have broken : fs'.fileAt (entryPlace "c" arriving.fingerprint metadataFile) =
      some ((Metadata.ofArtifact arriving).bytes.take 10) := part
  refine ⟨fs', stopped, broken, ?_⟩
  rw [loaded, broken, if_neg]
  decide +kernel

end Cache
end CallChart
