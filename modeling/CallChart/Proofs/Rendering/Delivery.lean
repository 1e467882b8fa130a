import CallChart.Proofs.Files.Ways
import CallChart.Proofs.Rendering.Coherence
import CallChart.Proofs.Rendering.Published

namespace CallChart

open Files

namespace Files

theorem vacant_of_rename {fs fs' : Files} {source target : String}
    (done : fs.rename source target = .ok fs') (ends : target.toList.getLast? ≠ some '/') :
    fs.Vacant target := by
  have free := (rename_effect done).2.1
  simp only [rename, bind, Except.bind] at done
  cases found : fs.entryAt source with
  | error fault => simp [found] at done
  | ok there =>
    simp only [found] at done
    split at done
    · cases done
    · cases done
    · cases found' : fs.entryAt target with
      | error fault => simp [found'] at done
      | ok there' => exact ⟨⟨(entryAt_steps found').1, ends⟩, free⟩

end Files

namespace FileStep

theorem whole_eq_ok {fs fs' : Files} {result : Except FileFault Files} :
    fs.whole result = (.ok (), fs') ↔ result = .ok fs' := by
  cases result <;> simp [whole]

theorem run_nil_eq_ok {fs fs' : Files} : run fs [] = (.ok (), fs') ↔ fs = fs' := by
  simp [run]

theorem run_cons_eq_ok {fs fs' : Files} {step : FileStep} {steps : List FileStep} :
    run fs (step :: steps) = (.ok (), fs') ↔
    ∃ middle, step.apply fs = (.ok (), middle) ∧ run middle steps = (.ok (), fs') := by
  rcases outcome : step.apply fs with ⟨fault | done, middle⟩
  · simp [run_cons_error outcome]
  · simp [run_cons_ok outcome]

theorem run_append_eq_ok {fs fs' : Files} {steps after : List FileStep} :
    run fs (steps ++ after) = (.ok (), fs') ↔
    ∃ middle, run fs steps = (.ok (), middle) ∧ run middle after = (.ok (), fs') := by
  rw [run_append]
  rcases outcome : run fs steps with ⟨fault | done, middle⟩ <;> simp

theorem mem_of_run_error {fs fs' : Files} {step : FileStep} {steps : List FileStep}
    {fault : FileFault} (failed : run fs steps = (.error (step, fault), fs')) : step ∈ steps := by
  induction steps generalizing fs with
  | nil => cases failed
  | cons first rest ih =>
    rcases outcome : first.apply fs with ⟨fault' | done, middle⟩
    · rw [run_cons_error outcome] at failed
      cases failed
      exact List.mem_cons_self
    · rw [run_cons_ok outcome] at failed
      exact List.mem_cons_of_mem _ (ih failed)

end FileStep

open Publishing Renderer

theorem run_wholeSteps_eq_ok {fs fs' : Files} {path : String} {bytes : List UInt8} :
    FileStep.run fs (wholeSteps path bytes) = (.ok (), fs') ↔
    ∃ middle, fs.write (aside path) bytes = .ok middle ∧
      middle.rename (aside path) path = .ok fs' := by
  simp only [wholeSteps, aside, FileStep.run_cons_eq_ok, FileStep.run_nil_eq_ok, FileStep.apply,
    FileStep.whole_eq_ok, exists_eq_right]

theorem rename_written {fs : Files} {path : String} {bytes : List UInt8} {executable : Bool}
    (beside : fs.Vacant (aside path))
    (target : (fs.put (steps (aside path)) (.file bytes executable)).Vacant path) :
    (fs.put (steps (aside path)) (.file bytes executable)).rename (aside path) path =
      .ok (((fs.put (steps (aside path)) (.file bytes executable)).drop (steps (aside path))).put
        (steps path) (.file bytes executable)) := by
  have written : (fs.put (steps (aside path)) (.file bytes executable)).lookup? (steps (aside path)) =
      some (.file bytes executable) := lookup?_put_self (not_fixed_of_lookup? beside.free)
  rcases (beside.put_file beside.free executable).rename target with
    ⟨absent, -⟩ | ⟨content, executable', found, moved⟩
  · cases written.symm.trans absent
  · cases written.symm.trans found
    exact moved

/-- Once a file has been moved onto its target, the target holds all of it, nothing is beside the target
any more, and nothing else has changed. -/
theorem run_wholeSteps {fs fs' : Files} {path : String} {bytes : List UInt8}
    (ends : path.toList.getLast? ≠ some '/') (apart : steps (aside path) ≠ steps path)
    (done : FileStep.run fs (wholeSteps path bytes) = (.ok (), fs')) :
    fs'.read path = .ok bytes ∧ fs'.lookup? (steps (aside path)) = none ∧
      ∀ q, q ≠ steps path → q ≠ steps (aside path) → fs'.lookup? q = fs.lookup? q := by
  obtain ⟨middle, written, moved⟩ := run_wholeSteps_eq_ok.mp done
  obtain ⟨reaches, free, executable, rfl⟩ := write_effect written
  have beside : fs.Vacant (aside path) := ⟨reaches, free⟩
  have target := vacant_of_rename moved ends
  obtain rfl := Except.ok.inj ((rename_written beside target).symm.trans moved)
  have there := target.drop (beside.put_file free executable).free
  refine ⟨?_, ?_, fun q other other' => ?_⟩
  · exact read_of_reaches (there.put_file there.free _).reaches
      (fileAt_put_self (not_fixed_of_lookup? there.free) _)
  · rw [lookup?_put_other apart, lookup?_drop_self (not_fixed_of_lookup? free)]
  · rw [lookup?_put_other other, lookup?_drop_other other', lookup?_put_other other']

theorem run_wholeSteps_of_vacant {fs : Files} {path : String} (target : fs.Vacant path)
    (beside : fs.Vacant (aside path)) (bytes : List UInt8) :
    ∃ fs', FileStep.run fs (wholeSteps path bytes) = (.ok (), fs') ∧
      ∀ other, fs.Vacant other → fs'.Vacant other := by
  obtain ⟨executable, written⟩ := beside.write bytes
  have kept {other : String} (vacant : fs.Vacant other) :
      (fs.put (steps (aside path)) (.file bytes executable)).Vacant other :=
    vacant.put_file beside.free executable
  have dropped {other : String} (vacant : fs.Vacant other) :=
    (kept vacant).drop (kept beside).free
  have moved := rename_written beside (kept target)
  refine ⟨_, run_wholeSteps_eq_ok.mpr ⟨_, written, moved⟩, fun other vacant => ?_⟩
  exact (dropped vacant).put_file (dropped target).free executable

namespace Output

theorem ends_of_mem_paths {o : Output} {path : String}
    (accepted : Engine.checkFormat o.format = .ok ()) (within : path ∈ o.paths) :
    path.toList.getLast? ≠ some '/' := by
  obtain ⟨base, format, -, plain, rfl⟩ := format_of_mem_paths accepted within
  obtain ⟨filled, chars⟩ := plain_of_checkFormat plain
  have named : format.toList ≠ [] := by simpa using filled
  have spelled : (withSuffix base format).toList = base.toList ++ ['.'] ++ format.toList := by
    simp [withSuffix]
  rw [spelled, List.getLast?_append_of_ne_nil _ named]
  exact fun last => (chars '/' (List.mem_of_getLast? last)).2 rfl

theorem stepsOf_cons_whole (t : String × List UInt8) (targets : List (String × List UInt8)) :
    stepsOf (t :: targets) = wholeSteps t.1 t.2 ++ stepsOf targets := rfl

theorem run_stepsOf {o : Output} {fs fs' : Files} {targets : List (String × List UInt8)}
    (accepted : Engine.checkFormat o.format = .ok ()) (within : ∀ t ∈ targets, t.1 ∈ o.paths)
    (once : (targets.map (·.1)).Nodup) (done : FileStep.run fs (stepsOf targets) = (.ok (), fs')) :
    (∀ t ∈ targets, fs'.read t.1 = .ok t.2 ∧ fs'.lookup? (steps (aside t.1)) = none) ∧
      ∀ q, (∀ t ∈ targets, q ≠ steps t.1 ∧ q ≠ steps (aside t.1)) →
        fs'.lookup? q = fs.lookup? q := by
  have apart := o.apart accepted
  induction targets generalizing fs with
  | nil =>
    obtain rfl := FileStep.run_nil_eq_ok.mp done
    exact ⟨List.forall_mem_nil _, fun _ _ => rfl⟩
  | cons t rest ih =>
    rw [stepsOf_cons_whole] at done
    obtain ⟨middle, first, others⟩ := FileStep.run_append_eq_ok.mp done
    obtain ⟨here, within⟩ := List.forall_mem_cons.mp within
    obtain ⟨new, once⟩ := List.nodup_cons.mp once
    obtain ⟨content, beside, same⟩ :=
      run_wholeSteps (ends_of_mem_paths accepted here) (apart.beside here here) first
    obtain ⟨written, same'⟩ := ih within once others
    have other {t' : String × List UInt8} (member : t' ∈ rest) : t.1 ≠ t'.1 :=
      fun itself => new (List.mem_map.mpr ⟨t', member, itself.symm⟩)
    have kept := (FileStep.run_effect middle (stepsOf rest)).1
    rw [others] at kept
    refine ⟨List.forall_mem_cons.mpr ⟨⟨?_, ?_⟩, written⟩, fun q off => ?_⟩
    · refine read_kept kept (fileAt_of_lookup? (same' _ fun t' member => ⟨?_, ?_⟩)) content
      · exact fun place => other member (apart.targets here (within t' member) place)
      · exact (apart.beside (within t' member) here).symm
    · rw [same' _ fun t' member => ⟨?_, ?_⟩, beside]
      · exact apart.beside here (within t' member)
      · exact fun place => other member (apart.asides here (within t' member) place)
    · obtain ⟨off, off'⟩ := List.forall_mem_cons.mp off
      rw [same' q off', same q off.1 off.2]

theorem run_stepsOf_of_vacant {o : Output} {fs : Files} {targets : List (String × List UInt8)}
    (vacant : ∀ path ∈ o.paths, fs.Vacant path ∧ fs.Vacant (aside path))
    (within : ∀ t ∈ targets, t.1 ∈ o.paths) : (FileStep.run fs (stepsOf targets)).1 = .ok () := by
  induction targets generalizing fs with
  | nil => rfl
  | cons t rest ih =>
    obtain ⟨here, within⟩ := List.forall_mem_cons.mp within
    obtain ⟨target, beside⟩ := vacant t.1 here
    obtain ⟨middle, first, kept⟩ := run_wholeSteps_of_vacant target beside t.2
    have others := ih (fun path member => ⟨kept _ (vacant path member).1,
      kept _ (vacant path member).2⟩) within
    rcases outcome : FileStep.run middle (stepsOf rest) with ⟨result, fs'⟩
    rw [outcome] at others
    obtain rfl : result = .ok () := others
    rw [stepsOf_cons_whole, FileStep.run_append_eq_ok.mpr ⟨middle, first, outcome⟩]

theorem mem_paths_of_target {o : Output} {a : Artifact} {t : String × List UInt8}
    (within : t ∈ Renderer.targets o a) : t.1 ∈ o.paths :=
  (o.targets_prefix a).subset (List.mem_map_of_mem within)

theorem targets_paths {o : Output} {a : Artifact}
    (image : a.image = none ↔ o.format = descriptionFormat) :
    (Renderer.targets o a).map (·.1) = o.paths ∧
      (imageTarget o a).map (·.1) = o.imagePath := by
  have whole : (imageTarget o a).map (·.1) = o.imagePath := by
    by_cases plain : o.format = descriptionFormat
    · simp [imageTarget, imagePath, plain]
    · have there : a.image ≠ none := fun absent => plain (image.mp absent)
      obtain ⟨bytes, there⟩ := Option.ne_none_iff_exists'.mp there
      cases known : o.imagePath <;> simp [imageTarget, known, there]
  refine ⟨?_, whole⟩
  rw [Renderer.targets, List.map_append, paths, ← whole]
  cases o.descriptionPath <;> cases imageTarget o a <;> rfl

theorem writeOutputs_error {o : Output} {fs : Files} {a : Artifact} {e : Failure}
    (failed : (writeOutputs o a fs).1 = .error e) : ∃ path ∈ o.paths, ∃ fault : FileFault,
      e = .fileFault path fault.message ∨ e = .fileFault (aside path) fault.message := by
  simp only [writeOutputs] at failed
  split at failed
  · rename_i step fault fs' stopped
    cases failed
    obtain ⟨t, member, within⟩ := List.mem_flatMap.mp (FileStep.mem_of_run_error stopped)
    refine ⟨t.1, mem_paths_of_target member, fault, ?_⟩
    simp only [wholeSteps, List.mem_cons, List.not_mem_nil, or_false] at within
    rcases within with rfl | rfl
    · exact .inr rfl
    · exact .inl rfl
  · cases failed

theorem writeOutputs_of_vacant {o : Output} {fs : Files} (a : Artifact)
    (vacant : ∀ path ∈ o.paths, fs.Vacant path ∧ fs.Vacant (aside path)) :
    ∃ rendering, (writeOutputs o a fs).1 = .ok rendering := by
  have done : (FileStep.run fs (outputSteps o a)).1 = .ok () :=
    run_stepsOf_of_vacant vacant fun _ => mem_paths_of_target
  rcases outcome : FileStep.run fs (outputSteps o a) with ⟨result, fs'⟩
  rw [outcome] at done
  obtain rfl : result = .ok () := done
  exact ⟨_, by rw [writeOutputs, outcome]⟩

theorem writeOutputs_eq_ok {o : Output} {fs fs' : Files} {a : Artifact} {rendering : Rendering} :
    writeOutputs o a fs = (.ok rendering, fs') ↔
      FileStep.run fs (stepsOf (Renderer.targets o a)) = (.ok (), fs') ∧
        rendering = ⟨a, o.descriptionPath, (imageTarget o a).map (·.1)⟩ := by
  have steps : outputSteps o a = stepsOf (Renderer.targets o a) := rfl
  rw [writeOutputs, steps]
  rcases outcome : FileStep.run fs (stepsOf (Renderer.targets o a)) with ⟨fault | done, fs''⟩
  · simp
  · simp [eq_comm, and_comm]

end Output

open Session

/-- Files with a cache directory in which any renderers have worked with any engines, but nobody else.
What was digested for them is known. -/
inductive Session.Left (known : List (List UInt8)) (directory : String) : Files → Prop where
  | unfinished {fs : Files} : (∀ fp, fs.fileAt (Cache.entryPlace directory fp Cache.metadataFile) =
      none) → Left known directory fs
  | rendered {fs : Files} {r : Renderer} (engine : Engine) (o : Options) (refresh : Bool)
    (now : Timestamp) : Left known directory fs → Started known directory r →
      engine.Spares (steps directory) → now.isValid = true →
      ((r.admitted o).isOk = true →
        Fingerprint.preimage r.analysis.id o r.output.format ∈ known) →
      Left known directory (r.render engine o refresh now fs).2.2.1
  | cleared {fs : Files} : Left known directory fs →
      Left known directory (Cache.clear ⟨some directory⟩ fs).2
  | spared {fs fs' : Files} : Left known directory fs →
      (∀ q, steps directory <+: q → fs'.fileAt q = fs.fileAt q) → Left known directory fs'

theorem Session.storable_of_made {known : List (List UInt8)} (a : Artifact)
    (made : ∃ convert, Made convert known a) :
    Cache.Storable a := by
  obtain ⟨convert, made⟩ := made
  exact made.storable

theorem Session.Left.filled {known : List (List UInt8)} {directory : String} {fs : Files}
    (left : Left known directory fs) :
    Cache.Filled (fun a => ∃ convert, Made convert known a) directory fs := by
  induction left with
  | unfinished absent => exact fun fp _ => .inl (absent fp)
  | @rendered fs r engine o refresh now _ started spares valid within filled =>
    have fresh (accepted : (r.admitted o).isOk = true) (a : Artifact) (storable : Cache.Storable a)
        (renders : a.Renders (engine.answersOn fs) r.analysis o r.output.format) :
        ∃ convert, Made convert known a :=
      ⟨_, storable, _, _, _,
        ⟨started.loaded, Renderer.finite_of_admitted accepted, within accepted⟩, renders⟩
    exact (render_filled refresh started.cache started.outside spares valid
      storable_of_made fresh filled).1
  | cleared _ filled => exact filled.clear
  | spared _ same filled => exact filled.spared same

/-- A renderer over files that earlier renderers have left in its cache directory, if it has one. -/
structure Renderer.Continues (known : List (List UInt8)) (r : Renderer) (o : Options) (fs : Files) :
    Prop where
  left (directory : String) : r.cache = ⟨some directory⟩ → Left known directory fs
  loaded : Loaded known r.analysis
  within : (r.admitted o).isOk = true →
    Fingerprint.preimage r.analysis.id o r.output.format ∈ known

theorem Artifact.Renders.image_eq_none_iff {o : Options} {a : Artifact} {convert : Converter}
    {analysis : Analysis} {format : String} (renders : a.Renders convert analysis o format) :
    a.image = none ↔ format = Output.descriptionFormat := by
  have image := renders.image
  rw [imageOf] at image
  split at image
  · rename_i plain
    simp [plain, ← Except.ok.inj image]
  · rename_i other
    cases answer : convert a.description format with
    | error e => simp [answer, Except.map] at image
    | ok bytes =>
      simp only [answer, Except.map, Except.ok.injEq] at image
      simp [other, ← image]

/-- Up to its output files, a request that fails changes nothing, and one that succeeds nothing but the
entry of its fingerprint. -/
theorem Renderer.obtained_cases {known : List (List UInt8)} {fs : Files} {r : Renderer}
    {engine : Engine} {o : Options} (refresh : Bool) (now : Timestamp) (free : CollisionFree known)
    (continues : Continues known r o fs)
    (still : ∀ description, (engine.convert description r.output.format fs).2 = fs) :
    ∃ result r' fs' asked, r.obtained engine o refresh now fs = (result, r', fs', asked) ∧
      (r' = r ∨ r' = r.counted) ∧ (∀ e, result = .error e → fs' = fs) ∧
      ∀ a, result = .ok a → (fs' = fs ∨ fs' = r.cache.store a fs) ∧
        Engine.checkFormat r.output.format = .ok () ∧
        ∃ convert, a.Renders convert r.analysis o r.output.format := by
  cases admitted : r.admitted o with
  | error e =>
    exact ⟨_, _, _, _, obtained_of_refused admitted, .inl rfl, fun _ _ => rfl,
      fun a done => by cases done⟩
  | ok p =>
    have accepted : (r.admitted o).isOk = true := by
      rw [admitted]
      rfl
    obtain ⟨plain, rfl, -⟩ := admitted_eq admitted
    cases found : r.cache.stored? (r.fingerprint o.normalized) refresh fs with
    | some a =>
      refine ⟨_, _, _, _, obtained_of_found admitted found, .inl rfl, fun e failed => ?_,
        fun a' done => ?_⟩
      · cases failed
      · cases done
        refine ⟨.inl rfl, plain, ?_⟩
        simp only [Cache.stored?, Option.ite_none_left_eq_some] at found
        obtain ⟨-, found⟩ := found
        cases enabled : r.cache.directory with
        | none => simp [Cache.load_disabled enabled] at found
        | some directory =>
          have cache : r.cache = ⟨some directory⟩ := by rw [← enabled]
          rw [cache, fingerprint_eq, Fingerprint.compute_normalized] at found
          obtain ⟨own, convert, made⟩ := (continues.left directory cache).filled.load
            storable_of_made (Fingerprint.isName_compute _ _ _) found
          obtain ⟨analysis', o', format', asked', renders⟩ := made.origin
          exact ⟨convert, renders_of_fingerprint free asked'
            ⟨continues.loaded, finite_of_admitted accepted, continues.within accepted⟩ renders own⟩
    | none =>
      obtain ⟨result, fs', asked, outcome, changed, renders⟩ :=
        obtained_of_missing engine now admitted found
      obtain rfl : fs' = fs := by
        rcases changed with same | ⟨description, same⟩
        · exact same
        · exact same.trans (still description)
      refine ⟨result, _, _, asked, outcome, .inr rfl, ?_, ?_⟩
      · rintro e rfl
        rfl
      · rintro a rfl
        exact ⟨.inr rfl, plain, _, (renders a rfl).1⟩

/-- The output files can be written, and the cache directory is not behind one of them. -/
structure Renderer.Working (r : Renderer) (fs : Files) : Prop where
  vacant : ∀ path ∈ r.output.paths, fs.Vacant path ∧ fs.Vacant (aside path)
  apart (directory : String) : r.cache = ⟨some directory⟩ → ∀ path ∈ r.output.paths,
    steps path ∉ way directory ∧ steps (aside path) ∉ way directory

/-- What the files hold once a rendering is handed out: the output files hold what is returned, nothing
is beside them any more, and all other files outside of the entry of the fingerprint are as before. -/
structure Renderer.Delivered (r : Renderer) (o : Options) (fs fs' : Files) (rendering : Rendering) :
    Prop where
  descriptionPath : rendering.descriptionPath = r.output.descriptionPath
  imagePath : rendering.imagePath = r.output.imagePath
  description (path : String) : r.output.descriptionPath = some path →
    fs'.read path = .ok (Utf8.encode rendering.artifact.description)
  image (path : String) : r.output.imagePath = some path →
    ∃ bytes, rendering.artifact.image = some bytes ∧ fs'.read path = .ok bytes
  beside : ∀ path ∈ r.output.paths, fs'.lookup? (steps (aside path)) = none
  elsewhere (q : Path) : (∀ path ∈ r.output.paths, q ≠ steps path ∧ q ≠ steps (aside path)) →
    (∀ directory name, r.cache = ⟨some directory⟩ →
      q ≠ Cache.entryPlace directory (r.fingerprint o) name) → fs'.fileAt q = fs.fileAt q

theorem Output.steps_ne_entry {o : Options} {output : Output} {path : String}
    (accepted : Engine.checkFormat output.format = .ok ()) (within : path ∈ output.paths)
    (id format directory : String) :
    steps path ≠ steps directory ++ [(Fingerprint.compute id o format).text] ∧
      steps (aside path) ≠ steps directory ++ [(Fingerprint.compute id o format).text] := by
  have plain : '.' ∉ (Fingerprint.compute id o format).text.toList := by
    intro point
    have digit := List.all_eq_true.mp (Fingerprint.all_isHexDigit _) _ point
    simp [Fingerprint.isHexDigit] at digit
  obtain ⟨base, format, -, accepted, rfl⟩ := format_of_mem_paths accepted within
  obtain ⟨suffix, suffix'⟩ := suffix_of_checkFormat accepted
  obtain ⟨here, step, -, suffixed⟩ := steps_suffixed base
  have other (tail : List Char) (suffix : IsSuffix ('.' :: tail)) (text : String)
      (plain : '.' ∉ text.toList) :
      steps (base ++ String.ofList ('.' :: tail)) ≠ steps directory ++ [text] := by
    rw [(suffixed _ suffix).2]
    intro same
    have last := (List.cons.inj (List.append_inj' same rfl).2).1
    exact plain (by simp [← last])
  rw [aside, aside_eq, withSuffix_eq]
  exact ⟨other _ suffix _ plain, other _ suffix' _ plain⟩

theorem Renderer.Working.stored {fs : Files} {r : Renderer} {o : Options} {a : Artifact}
    {convert : Converter} (working : r.Working fs)
    (accepted : Engine.checkFormat r.output.format = .ok ())
    (renders : a.Renders convert r.analysis o r.output.format) :
    ∀ path ∈ r.output.paths,
      (r.cache.store a fs).Vacant path ∧ (r.cache.store a fs).Vacant (aside path) := by
  intro path within
  cases enabled : r.cache.directory with
  | none => simpa only [Cache.store, enabled] using working.vacant path within
  | some directory =>
    have entry := Output.steps_ne_entry (o := o) accepted within r.analysis.id r.output.format
      directory
    rw [← renders.fingerprint] at entry
    have off := working.apart directory (by rw [← enabled]) path within
    have digest : IsName a.fingerprint.text := by
      rw [renders.fingerprint]
      exact Fingerprint.isName_compute _ _ _
    have vacant {path : String} (before : fs.Vacant path) (off : steps path ∉ way directory)
        (other : steps path ≠ steps directory ++ [a.fingerprint.text]) :
        (r.cache.store a fs).Vacant path := by
      simp only [Cache.store, enabled]
      refine ⟨(FileStep.run_effect fs _).1.reaches before.reaches, fun there => ?_⟩
      refine before.free (FileStep.run_directory (fun made within => ?_) there)
      rw [Cache.eq_of_makeDirectories within, Cache.entryDirectory, way_joined _ digest, List.mem_append,
        List.mem_singleton, not_or]
      exact ⟨off, other⟩
    exact ⟨vacant (working.vacant path within).1 off.1 entry.1,
      vacant (working.vacant path within).2 off.2 entry.2⟩

theorem Renderer.render_stored {fs : Files} {r : Renderer} {o : Options} {a : Artifact}
    (engine : Engine) (now : Timestamp) (accepted : (r.admitted o).isOk = true)
    (stored : r.cache.load (r.fingerprint o) fs = some a) :
    (r.render engine o false now fs).1 = (writeOutputs r.output a fs).1 := by
  cases admitted : r.admitted o with
  | error e => simp [admitted, Except.isOk, Except.toBool] at accepted
  | ok p =>
    obtain ⟨-, rfl, -⟩ := admitted_eq admitted
    have found : r.cache.stored? (r.fingerprint o.normalized) false fs = some a := by
      rw [fingerprint_eq, Fingerprint.compute_normalized, ← fingerprint_eq]
      exact stored
    rw [render_obtained (obtained_of_found admitted found)]
    rfl

theorem Renderer.delivered_of_written {fs fs' : Files} {r : Renderer} {o : Options} {a : Artifact}
    {convert : Converter} {rendering : Rendering} {middle : Files}
    (accepted : Engine.checkFormat r.output.format = .ok ())
    (renders : a.Renders convert r.analysis o r.output.format)
    (stored : middle = fs ∨ middle = r.cache.store a fs)
    (done : writeOutputs r.output a middle = (.ok rendering, fs')) :
    r.Delivered o fs fs' rendering := by
  obtain ⟨ran, rfl⟩ := Output.writeOutputs_eq_ok.mp done
  obtain ⟨whole, image⟩ := Output.targets_paths renders.image_eq_none_iff
  obtain ⟨written, same⟩ := Output.run_stepsOf accepted
    (fun _ => Output.mem_paths_of_target) (whole ▸ Output.paths_nodup) ran
  constructor
  case descriptionPath => rfl
  case imagePath => exact image
  case description =>
    intro path known
    have member : (path, Utf8.encode a.description) ∈ Renderer.targets r.output a :=
      List.mem_append_left _ (by rw [known]; exact List.mem_singleton_self _)
    exact (written _ member).1
  case image =>
    intro path known
    obtain ⟨⟨path', bytes⟩, target, rfl⟩ := Option.map_eq_some_iff.mp (image.trans known)
    have there : a.image = some bytes := by
      simp only [imageTarget] at target
      split at target
      · rename_i image there
        cases target
        exact there
      · cases target
    have member : (path', bytes) ∈ Renderer.targets r.output a :=
      List.mem_append_right _ (by rw [target]; exact List.mem_singleton_self _)
    exact ⟨bytes, there, (written _ member).1⟩
  case beside =>
    intro path within
    rw [← whole] at within
    obtain ⟨t, member, rfl⟩ := List.mem_map.mp within
    exact (written t member).2
  case elsewhere =>
    intro q off outside
    rw [fileAt_of_lookup? (same q fun t member => off t.1 (Output.mem_paths_of_target member))]
    rcases stored with rfl | rfl
    · rfl
    · cases enabled : r.cache.directory with
      | none => rw [Cache.store, enabled]
      | some directory =>
        have placed : Cache.Placed a := by
          refine ⟨?_, fun _ slash => ?_⟩
          · rw [renders.fingerprint]
            exact Fingerprint.isName_compute _ _ _
          · rw [renders.format] at slash
            exact ((Output.plain_of_checkFormat accepted).2 _ slash).2 rfl
        refine (Cache.store_effect_of_placed r.cache enabled placed fs).2 q fun name => ?_
        rw [renders.fingerprint, ← fingerprint_eq]
        exact outside directory name (by rw [← enabled])

/-- A request that fails leaves the files as they were, so what is stored for it is still handed out,
unless an output file cannot be written. One that succeeds writes what it returns. -/
theorem render_traceless {known : List (List UInt8)} (free : CollisionFree known) (r : Renderer)
    (engine : Engine) (o : Options) (refresh : Bool) (now : Timestamp) (fs : Files)
    (continues : Continues known r o fs)
    (still : ∀ description, (engine.convert description r.output.format fs).2 = fs) :
    (∀ e, (r.render engine o refresh now fs).1 = .error e →
      ((r.render engine o refresh now fs).2.2.1 = fs ∧
        ∀ engine' now' a, (r.admitted o).isOk = true →
          r.cache.load (r.fingerprint o) fs = some a →
          ((r.render engine o refresh now fs).2.1.render engine' o false now' fs).1 =
            (writeOutputs r.output a fs).1) ∨
      ¬ r.Working fs ∧ ∃ path ∈ r.output.paths, ∃ fault : FileFault,
        e = .fileFault path fault.message ∨ e = .fileFault (aside path) fault.message) ∧
    ∀ rendering, (r.render engine o refresh now fs).1 = .ok rendering →
      r.Delivered o fs (r.render engine o refresh now fs).2.2.1 rendering := by
  obtain ⟨result, r', fs', asked, outcome, counted, unchanged, obtained⟩ :=
    r.obtained_cases refresh now free continues still
  rw [render_obtained outcome]
  have served (engine' : Engine) (now' : Timestamp) (a : Artifact)
      (accepted : (r.admitted o).isOk = true)
      (stored : r.cache.load (r.fingerprint o) fs = some a) :
      (r'.render engine' o false now' fs).1 = (writeOutputs r.output a fs).1 := by
    rcases counted with rfl | rfl
    · exact render_stored engine' now' accepted stored
    · exact render_stored (r := r.counted) engine' now' accepted stored
  cases result with
  | error e => exact ⟨fun _ _ => .inl ⟨unchanged e rfl, served⟩, fun rendering done => by cases done⟩
  | ok a =>
    obtain ⟨stored, accepted, convert, renders⟩ := obtained a rfl
    have output : r'.output = r.output := by
      rcases counted with rfl | rfl <;> rfl
    simp only [deliver, output]
    refine ⟨fun e failed => .inr ⟨fun working => ?_, Output.writeOutputs_error failed⟩,
      fun rendering done => ?_⟩
    · have vacant : ∀ path ∈ r.output.paths, fs'.Vacant path ∧ fs'.Vacant (aside path) := by
        rcases stored with rfl | rfl
        · exact working.vacant
        · exact working.stored accepted renders
      obtain ⟨rendering, done⟩ := Output.writeOutputs_of_vacant a vacant
      rw [done] at failed
      cases failed
    · exact delivered_of_written accepted renders stored (Prod.ext done rfl)

def publishing (a : Analysis) : Renderer :=
  ⟨a, ⟨some "cache"⟩, ⟨some "out", "svg"⟩, 0⟩

theorem publishing_outside : ¬ steps "cache" <+: steps "out" := by decide +kernel

theorem render_publishing_fails {a : Analysis} {text : String}
    (described : a.graph.describe .default = .ok text) (fs : Files) :
    ((publishing a).render (.tagging (some "no space left")) .default true sampleTime fs).1 =
      .error (.engineFailed "no space left") := by
  have format : Engine.checkFormat "svg" = .ok () := by decide
  have options : Options.default.normalized.check = .ok () := by decide +kernel
  have admitted : (publishing a).admitted .default = .ok Options.default.normalized := by
    simp only [publishing, admitted, format, options, bind, Except.bind, pure, Except.pure]
  have computed (fp : Fingerprint) :
      (publishing a).compute fp Options.default.normalized sampleTime = .image fp text := by
    have other : "svg" ≠ Output.descriptionFormat := by decide
    have described' : (publishing a).analysis.graph.describe Options.default = .ok text := described
    simp only [compute, CallGraph.describe_normalized, described']
    exact if_neg other
  simp only [render, Renderer.begin, lookUp, admitted, Cache.stored?, Renderer.start, computed,
    ↓reduceIte]
  rfl

/-- An engine that fails after another one has answered leaves everything as it was. -/
theorem failed_refresh_traceless : ∃ a known fs,
    fs = ((publishing a).render (.tagging none) .default false sampleTime .empty).2.2.1 ∧
    CollisionFree known ∧ Continues known (publishing a) .default fs ∧
    ((publishing a).render (.tagging (some "no space left")) .default true sampleTime fs).1 =
      .error (.engineFailed "no space left") ∧
    ((publishing a).render (.tagging (some "no space left")) .default true sampleTime fs).2.2.1 =
      fs := by
  obtain ⟨a, loaded⟩ := sample_loads
  have all : (Analysis.load "graph.json" sampleExport "app" false).toOption.any
      (fun a => (a.graph.describe .default).isOk) = true := by decide +kernel
  rw [loaded] at all
  have described : ∃ text, a.graph.describe .default = .ok text := by
    cases outcome : a.graph.describe .default with
    | error e => simp [Except.toOption, outcome, Except.isOk, Except.toBool] at all
    | ok text => exact ⟨text, rfl⟩
  obtain ⟨text, described⟩ := described
  have known : Loaded [Analysis.identityBytes sampleExport "app" false,
      Fingerprint.preimage a.id .default "svg", Fingerprint.preimage a.id .default "svg"] a :=
    ⟨"graph.json", sampleExport, "app", false, loaded, by simp⟩
  have within : Fingerprint.preimage a.id .default "svg" ∈
      [Analysis.identityBytes sampleExport "app" false,
        Fingerprint.preimage a.id .default "svg", Fingerprint.preimage a.id .default "svg"] := by
    simp
  have free := CollisionFree.of_ne (sample_digests loaded)
  have left := Left.rendered (.tagging none) .default false sampleTime
    (.unfinished fun _ => fileAt_empty _)
    (⟨rfl, fun _ base => Option.some.inj base ▸ publishing_outside, known⟩ :
      Started _ "cache" (publishing a))
    (fun _ _ _ _ _ => rfl) sampleTime_valid fun _ => within
  have continues : Continues _ (publishing a) .default _ := {
    left := fun directory cache => by
      obtain rfl : "cache" = directory := by simpa [publishing] using cache
      exact left
    loaded := known
    within := fun _ => within }
  have fails := render_publishing_fails described
    ((publishing a).render (.tagging none) .default false sampleTime .empty).2.2.1
  refine ⟨a, _, _, rfl, free, continues, fails, ?_⟩
  rcases (render_traceless free (publishing a) (.tagging (some "no space left")) .default true
    sampleTime _ continues fun _ => rfl).1 _ fails with ⟨same, -⟩ | ⟨-, path, -, fault, file | file⟩
  · exact same
  · cases file
  · cases file

end CallChart
