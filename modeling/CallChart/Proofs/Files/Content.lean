import CallChart.Files
import CallChart.Proofs.Files.Place

namespace CallChart.Files

def fileAt (fs : Files) (p : Path) : Option (List UInt8) :=
  match fs.lookup? p with
  | some (.file bytes _) => some bytes
  | _ => none

theorem fileAt_empty (p : Path) : empty.fileAt p = none := by
  by_cases fixed : Fixed p
  · simp [fileAt, lookup?_of_fixed fixed]
  · simp [fileAt, lookup?_of_not_fixed fixed, empty]

/-- All directories of the one are directories of the other. -/
def DirsKept (fs fs' : Files) : Prop :=
  ∀ p, fs.lookup? p = some .directory → fs'.lookup? p = some .directory

theorem DirsKept.refl (fs : Files) : DirsKept fs fs := fun _ there => there

theorem DirsKept.trans {fs fs' fs'' : Files} (first : DirsKept fs fs')
    (second : DirsKept fs' fs'') :
    DirsKept fs fs'' := fun p there => second p (first p there)

theorem DirsKept.walk {fs fs' : Files} {p : Path} (kept : DirsKept fs fs') {here : Path}
    {path : List String} (walked : fs.walk here path = .ok p) : fs'.walk here path = .ok p := by
  induction path generalizing here with
  | nil => exact walked
  | cons step rest ih =>
    simp only [Files.walk] at walked ⊢
    split at walked
    · cases walked
    · cases walked
    · rename_i there
      rw [kept here there]
      by_cases dot : step = "."
      · simp only [dot, ↓reduceIte] at walked ⊢
        exact ih walked
      by_cases dots : step = ".."
      · simp only [dots, ↓reduceIte] at walked ⊢
        exact ih walked
      · simp only [dot, dots, ↓reduceIte] at walked ⊢
        split at walked
        · cases walked
        · rename_i short
          rw [if_neg short]
          exact ih walked

theorem DirsKept.reaches {fs fs' : Files} {path : String} (kept : DirsKept fs fs')
    (reaches : fs.Reaches path) :
    fs'.Reaches path := by
  refine ⟨?_, reaches.2⟩
  have located := reaches.1
  simp only [locate] at located ⊢
  split at located
  · cases located
  · rename_i text
    rw [if_neg text]
    split at located
    · cases located
    · rename_i named
      rw [if_neg named]
      split at located
      · cases located
      · rename_i short
        rw [if_neg short]
        exact kept.walk located

theorem lookup_filter (keep : Path → Bool) (entries : List (Path × Entry)) (q : Path) :
    (entries.filter fun e => keep e.1).lookup q = if keep q then entries.lookup q else none := by
  induction entries with
  | nil => simp
  | cons entry rest ih =>
    obtain ⟨there, e⟩ := entry
    by_cases same : q = there
    · subst same
      cases kept : keep q with
      | true => simp [kept]
      | false => simpa [kept] using ih
    · have apart : (q == there) = false := by simpa using same
      cases kept : keep there <;> simp [kept, apart, ih, List.lookup_cons]

theorem lookup?_put_self {fs : Files} {p : Path} {e : Entry} (free : ¬ Fixed p) :
    (fs.put p e).lookup? p = some e := by
  simp [lookup?_of_not_fixed free, put]

theorem lookup?_put_other {fs : Files} {p q : Path} {e : Entry} (apart : q ≠ p) :
    (fs.put p e).lookup? q = fs.lookup? q := by
  by_cases fixed : Fixed q
  · rw [lookup?_of_fixed fixed, lookup?_of_fixed fixed]
  · have other : (q == p) = false := by simpa using apart
    rw [lookup?_of_not_fixed fixed, lookup?_of_not_fixed fixed, put, List.lookup_cons, other]
    exact (lookup_filter (· ≠ p) _ q).trans (if_pos (by simpa using apart))

theorem lookup?_drop_self {fs : Files} {p : Path} (free : ¬ Fixed p) :
    (fs.drop p).lookup? p = none := by
  rw [lookup?_of_not_fixed free]
  exact (lookup_filter (· ≠ p) _ p).trans (if_neg (by simp))

theorem lookup?_drop_other {fs : Files} {p q : Path} (apart : q ≠ p) :
    (fs.drop p).lookup? q = fs.lookup? q := by
  by_cases fixed : Fixed q
  · rw [lookup?_of_fixed fixed, lookup?_of_fixed fixed]
  · rw [lookup?_of_not_fixed fixed, lookup?_of_not_fixed fixed]
    exact (lookup_filter (· ≠ p) _ q).trans (if_pos (by simpa using apart))

theorem fileAt_of_lookup? {fs fs' : Files} {p : Path} (same : fs'.lookup? p = fs.lookup? p) :
    fs'.fileAt p = fs.fileAt p := by
  simp only [fileAt, same]

theorem not_fixed_of_lookup? {fs : Files} {p : Path} (free : fs.lookup? p ≠ some .directory) :
    ¬ Fixed p :=
  fun fixed => free (lookup?_of_fixed fixed)

theorem read_of_reaches {fs : Files} {path : String} {bytes : List UInt8}
    (reaches : fs.Reaches path) (content : fs.fileAt (steps path) = some bytes) :
    fs.read path = .ok bytes := by
  simp only [read, entryAt_of_reaches reaches, bind, Except.bind]
  simp only [fileAt] at content
  split at content
  · rename_i entry
    cases content
    simp [entry, pure, Except.pure]
  · cases content

theorem read_effect {fs : Files} {path : String} {bytes : List UInt8}
    (done : fs.read path = .ok bytes) :
    fs.Reaches path ∧ fs.fileAt (steps path) = some bytes := by
  simp only [read, bind, Except.bind] at done
  cases found : fs.entryAt path with
  | error fault => simp [found] at done
  | ok there =>
    obtain ⟨p, e⟩ := there
    obtain ⟨located, rfl, rfl⟩ := entryAt_steps found
    simp only [found] at done
    split at done
    · cases done
    · cases done
    · rename_i entry
      cases done
      refine ⟨⟨located, fun closed => ?_⟩, by simp [fileAt, entry]⟩
      simp [entryAt, located, entry, closed, bind, Except.bind] at found

theorem read_fileAt {fs : Files} {path : String} {bytes : List UInt8}
    (done : fs.read path = .ok bytes) : fs.fileAt (steps path) = some bytes :=
  (read_effect done).2

theorem read_kept {fs fs' : Files} {path : String} {bytes : List UInt8} (kept : DirsKept fs fs')
    (same : fs'.fileAt (steps path) = fs.fileAt (steps path)) (done : fs.read path = .ok bytes) :
    fs'.read path = .ok bytes :=
  read_of_reaches (kept.reaches (read_effect done).1) (same.trans (read_fileAt done))

theorem write_effect {fs fs' : Files} {path : String} {bytes : List UInt8}
    (done : fs.write path bytes = .ok fs') :
    fs.Reaches path ∧ fs.lookup? (steps path) ≠ some .directory ∧
      ∃ executable, fs' = fs.put (steps path) (.file bytes executable) := by
  simp only [write, bind, Except.bind] at done
  cases found : fs.entryAt path with
  | error fault => simp [found] at done
  | ok there =>
    obtain ⟨p, e⟩ := there
    obtain ⟨located, rfl, rfl⟩ := entryAt_steps found
    simp only [found] at done
    split at done
    · cases done
    · rename_i entry
      cases done
      refine ⟨⟨located, ?_⟩, by simp [entry], _, rfl⟩
      intro closed
      simp [entryAt, located, entry, closed, bind, Except.bind] at found
    · rename_i entry
      split at done
      · cases done
      · rename_i open_
        cases done
        exact ⟨⟨located, open_⟩, by simp [entry], _, rfl⟩

theorem dirsKept_put_file {fs : Files} {p : Path} (free : fs.lookup? p ≠ some .directory)
    (e : Entry) :
    DirsKept fs (fs.put p e) := by
  intro q there
  have apart : q ≠ p := by
    rintro rfl
    exact free there
  rwa [lookup?_put_other apart]

theorem dirsKept_drop {fs : Files} {p : Path} (free : fs.lookup? p ≠ some .directory) :
    DirsKept fs (fs.drop p) := by
  intro q there
  have apart : q ≠ p := by
    rintro rfl
    exact free there
  rwa [lookup?_drop_other apart]

theorem fileAt_put_self {fs : Files} {p : Path} {bytes : List UInt8} (free : ¬ Fixed p)
    (executable : Bool) :
    (fs.put p (.file bytes executable)).fileAt p = some bytes := by
  simp [fileAt, lookup?_put_self free]

theorem write_fileAt {fs fs' : Files} {path : String} {bytes : List UInt8}
    (done : fs.write path bytes = .ok fs') :
    fs'.fileAt (steps path) = some bytes := by
  obtain ⟨-, free, executable, rfl⟩ := write_effect done
  exact fileAt_put_self (not_fixed_of_lookup? free) executable

theorem write_kept {fs fs' : Files} {path : String} {bytes : List UInt8}
    (done : fs.write path bytes = .ok fs') : DirsKept fs fs' := by
  obtain ⟨-, free, executable, rfl⟩ := write_effect done
  exact dirsKept_put_file free _

theorem write_other {fs fs' : Files} {q : Path} {path : String} {bytes : List UInt8}
    (done : fs.write path bytes = .ok fs') (apart : q ≠ steps path) :
    fs'.fileAt q = fs.fileAt q := by
  obtain ⟨-, -, executable, rfl⟩ := write_effect done
  exact fileAt_of_lookup? (lookup?_put_other apart)

theorem removeFile_effect {fs fs' : Files} {path : String} (done : fs.removeFile path = .ok fs') :
    fs.lookup? (steps path) ≠ some .directory ∧ fs' = fs.drop (steps path) := by
  simp only [removeFile, bind, Except.bind] at done
  cases found : fs.entryAt path with
  | error fault => simp [found] at done
  | ok there =>
    obtain ⟨p, e⟩ := there
    obtain ⟨-, rfl, rfl⟩ := entryAt_steps found
    simp only [found] at done
    split at done
    · cases done
    · cases done
    · rename_i entry
      cases done
      exact ⟨by simp [entry], rfl⟩

theorem removeFile_fileAt {fs fs' : Files} {path : String} (done : fs.removeFile path = .ok fs') :
    fs'.fileAt (steps path) = none := by
  obtain ⟨free, rfl⟩ := removeFile_effect done
  simp [fileAt, lookup?_drop_self (not_fixed_of_lookup? free)]

theorem lookup?_dropTree {q : Path} (free : ¬ Fixed q) (fs : Files) (p : Path) :
    (fs.dropTree p).lookup? q = if p <+: q then none else fs.lookup? q := by
  rw [lookup?_of_not_fixed free, lookup?_of_not_fixed free]
  refine (lookup_filter (fun q => !p.isPrefixOf q) fs.entries q).trans ?_
  by_cases below : p <+: q
  · simp [below, List.isPrefixOf_iff_prefix.mpr below]
  · have apart : p.isPrefixOf q = false :=
      Bool.eq_false_iff.mpr fun within => below (List.isPrefixOf_iff_prefix.mp within)
    simp [below, apart]

theorem fileAt_dropTree (fs : Files) (p q : Path) :
    (fs.dropTree p).fileAt q = if p <+: q then none else fs.fileAt q := by
  by_cases fixed : Fixed q
  · simp [fileAt, lookup?_of_fixed fixed]
  · simp only [fileAt, lookup?_dropTree fixed]
    by_cases below : p <+: q <;> simp [below]

theorem removeTree_effect (fs : Files) {path : String}
    (named : (strides path).getLast? ≠ some ".") :
    (fs.removeTree path).2 = fs ∨ (fs.removeTree path).2 = fs.dropTree (steps path) := by
  simp only [removeTree]
  split
  · exact .inl rfl
  · exact .inl rfl
  · exact .inl rfl
  · rename_i p found
    obtain ⟨-, rfl, -⟩ := entryAt_steps found
    rw [if_neg named]
    exact .inr rfl

theorem rename_effect {fs fs' : Files} {source target : String}
    (done : fs.rename source target = .ok fs') :
    fs.lookup? (steps source) ≠ some .directory ∧ fs.lookup? (steps target) ≠ some .directory ∧
      ∃ e ≠ .directory, fs' = (fs.drop (steps source)).put (steps target) e := by
  simp only [rename, bind, Except.bind] at done
  cases found : fs.entryAt source with
  | error fault => simp [found] at done
  | ok there =>
    obtain ⟨p, e⟩ := there
    obtain ⟨-, rfl, rfl⟩ := entryAt_steps found
    simp only [found] at done
    split at done
    · cases done
    · cases done
    · rename_i isFile entry
      cases found' : fs.entryAt target with
      | error fault => simp [found'] at done
      | ok there' =>
        obtain ⟨q, e'⟩ := there'
        obtain ⟨-, rfl, rfl⟩ := entryAt_steps found'
        simp only [found'] at done
        split at done
        · cases done
        · rename_i free
          cases done
          exact ⟨by rw [entry]; exact fun same => isFile (Option.some.inj same), free, _, isFile, rfl⟩

theorem makeWay_effect (fs : Files) (here : Path) (path : List String) :
    DirsKept fs (fs.makeWay here path).2 ∧
      ∀ q, (fs.makeWay here path).2.fileAt q = fs.fileAt q := by
  induction path generalizing fs here with
  | nil => exact ⟨.refl fs, fun _ => rfl⟩
  | cons step rest ih =>
    simp only [makeWay]
    split
    · exact ih fs here
    · split
      · exact ih fs (back here)
      · split
        · rename_i absent
          split
          · exact ⟨.refl fs, fun _ => rfl⟩
          · obtain ⟨kept, same⟩ := ih (fs.put (here ++ [step]) .directory) (here ++ [step])
            have free : fs.lookup? (here ++ [step]) ≠ some .directory := by simp [absent]
            refine ⟨(dirsKept_put_file free _).trans kept, fun q => (same q).trans ?_⟩
            by_cases new : q = here ++ [step]
            · subst new
              simp [fileAt, lookup?_put_self (not_fixed_of_lookup? free), absent]
            · exact fileAt_of_lookup? (lookup?_put_other new)
        · exact ih fs (here ++ [step])
        · exact ⟨.refl fs, fun _ => rfl⟩

theorem makeDirectories_effect (fs : Files) (path : String) :
    DirsKept fs (fs.makeDirectories path).2 ∧
      ∀ q, (fs.makeDirectories path).2.fileAt q = fs.fileAt q := by
  simp only [makeDirectories]
  repeat' split
  all_goals first | exact ⟨.refl fs, fun _ => rfl⟩ | exact makeWay_effect ..

theorem makeWay_of_walk {fs : Files} {here p : Path} {name : String} {way : List String}
    (walked : fs.walk here (way ++ [name]) = .ok p) :
    fs.makeWay here way = (.ok (), fs) := by
  induction way generalizing here with
  | nil => rfl
  | cons step rest ih =>
    simp only [List.cons_append, walk] at walked
    split at walked
    · cases walked
    · cases walked
    · simp only [makeWay]
      by_cases dot : step = "."
      · simp only [dot, ↓reduceIte] at walked ⊢
        exact ih walked
      by_cases dots : step = ".."
      · simp only [dots, ↓reduceIte] at walked ⊢
        exact ih walked
      · simp only [dot, dots, ↓reduceIte] at walked ⊢
        split at walked
        · cases walked
        · have there : fs.lookup? (here ++ [step]) = some .directory := by
            cases rest <;>
            · simp only [List.nil_append, List.cons_append, walk] at walked
              split at walked
              · cases walked
              · cases walked
              · assumption
          simp only [there]
          exact ih walked

theorem makeDirectories_of_reaches {fs : Files} {directory name : String} (plain : IsName name)
    (reaches : fs.Reaches (joined directory name)) :
    fs.makeDirectories directory = (.ok (), fs) := by
  obtain ⟨⟨text, short⟩, walked⟩ := walk_of_locate plain reaches.1
  simp [makeDirectories, text, Nat.not_lt.mpr short, makeWay_of_walk walked]

theorem makeWay_cons {fs : Files} (here : Path) {step : String} (short : IsShort step)
    (clear : ∀ q, fs.fileAt q = none) :
    ∃ fs', (∀ rest, fs.makeWay here (step :: rest) = fs'.makeWay (here ++ [step]) rest) ∧
      fs'.lookup? (here ++ [step]) = some .directory ∧ DirsKept fs fs' ∧
      (∀ q, fs'.fileAt q = none) ∧ ∀ q ≠ here ++ [step], fs'.lookup? q = fs.lookup? q := by
  have plain := short.plain
  have named := not_fixed_of_name plain here
  cases there : fs.lookup? (here ++ [step]) with
  | none =>
    have free : fs.lookup? (here ++ [step]) ≠ some .directory := by simp [there]
    refine ⟨fs.put (here ++ [step]) .directory, fun rest => ?_, lookup?_put_self named,
      dirsKept_put_file free _, fun q => ?_, fun q => lookup?_put_other⟩
    · simp [makeWay, plain.2.1, plain.2.2.1, there, Nat.not_lt.mpr short.bounded]
    · by_cases new : q = here ++ [step]
      · simp [fileAt, new, lookup?_put_self named]
      · rw [fileAt_of_lookup? (lookup?_put_other new), clear]
  | some e =>
    cases e with
    | file bytes executable =>
      have content := clear (here ++ [step])
      simp [fileAt, there] at content
    | directory =>
      exact ⟨fs, fun rest => by simp [makeWay, plain.2.1, plain.2.2.1, there], there, .refl fs,
        clear, fun q _ => rfl⟩

theorem makeWay_made {fs : Files} {here : Path} {way : List String}
    (there : fs.lookup? here = some .directory) (short : ∀ step ∈ way, IsShort step) (clear : ∀ q, fs.fileAt q = none) :
    ∃ fs', fs.makeWay here way = (.ok (), fs') ∧ fs'.lookup? (here ++ way) = some .directory ∧
      fs'.walk here way = .ok (here ++ way) ∧ DirsKept fs fs' ∧
      ∀ q, (here ++ way).length < q.length → fs'.lookup? q = fs.lookup? q := by
  induction way generalizing fs here with
  | nil => exact ⟨fs, rfl, by simpa using there, by simp [walk], .refl fs, fun q _ => rfl⟩
  | cons step rest ih =>
    obtain ⟨first, others⟩ := List.forall_mem_cons.mp short
    have named := first.plain
    obtain ⟨fs₁, begins, there₁, kept₁, clear₁, same₁⟩ := makeWay_cons here first clear
    obtain ⟨fs', made, last, walked, kept, same⟩ := ih there₁ others clear₁
    rw [List.append_assoc] at last walked same
    refine ⟨fs', (begins rest).trans made, last, ?_, kept₁.trans kept, fun q long => ?_⟩
    · simp [walk, kept _ (kept₁ _ there), named.2.1, named.2.2.1, Nat.not_lt.mpr first.bounded, walked]
    · refine (same q long).trans (same₁ q ?_)
      rintro rfl
      simp at long

/-- A file can be put where a path leads: the directories on the way are there, and no directory
stands at its end. -/
structure Vacant (fs : Files) (path : String) : Prop where
  reaches : fs.Reaches path
  free : fs.lookup? (steps path) ≠ some .directory

theorem vacant_of_read {fs : Files} {path : String} {bytes : List UInt8}
    (done : fs.read path = .ok bytes) : fs.Vacant path := by
  obtain ⟨reaches, content⟩ := read_effect done
  refine ⟨reaches, fun there => ?_⟩
  simp [fileAt, there] at content

theorem Vacant.write {fs : Files} {path : String} (vacant : fs.Vacant path) (bytes : List UInt8) :
    ∃ executable, fs.write path bytes = .ok (fs.put (steps path) (.file bytes executable)) := by
  have free := vacant.free
  simp only [Files.write, entryAt_of_reaches vacant.reaches, bind, Except.bind]
  cases there : fs.lookup? (steps path) with
  | none => exact ⟨false, by simp [vacant.reaches.2, pure, Except.pure]⟩
  | some e =>
    cases e with
    | file old executable => exact ⟨executable, rfl⟩
    | directory => exact (free there).elim

theorem Vacant.removeFile {fs : Files} {path : String} (vacant : fs.Vacant path) :
    fs.removeFile path = .error .notFound ∨ fs.removeFile path = .ok (fs.drop (steps path)) := by
  have free := vacant.free
  simp only [Files.removeFile, entryAt_of_reaches vacant.reaches, bind, Except.bind]
  cases there : fs.lookup? (steps path) with
  | none => exact .inl rfl
  | some e =>
    cases e with
    | file old executable => exact .inr rfl
    | directory => exact (free there).elim

theorem Vacant.put_file {fs : Files} {p : Path} {path : String} {bytes : List UInt8}
    (vacant : fs.Vacant path) (free : fs.lookup? p ≠ some .directory) (executable : Bool) :
    (fs.put p (.file bytes executable)).Vacant path where
  reaches := (dirsKept_put_file free _).reaches vacant.reaches
  free := by
    by_cases same : steps path = p
    · rw [same, lookup?_put_self (not_fixed_of_lookup? free)]
      simp
    · rw [lookup?_put_other same]
      exact vacant.free

theorem Vacant.drop {fs : Files} {p : Path} {path : String} (vacant : fs.Vacant path)
    (free : fs.lookup? p ≠ some .directory) :
    (fs.drop p).Vacant path where
  reaches := (dirsKept_drop free).reaches vacant.reaches
  free := by
    by_cases same : steps path = p
    · rw [same, lookup?_drop_self (not_fixed_of_lookup? free)]
      simp
    · rw [lookup?_drop_other same]
      exact vacant.free

theorem makeDirectories_empty {directory : String} (spelled : Spelled directory)
    (short : ∀ step ∈ strides directory, IsShort step) :
    ∃ fs, empty.makeDirectories directory = (.ok (), fs) ∧
      ∀ name, IsShort name → Spelled (joined directory name) →
        fs.Vacant (joined directory name) := by
  have begins : empty.lookup? (start directory) = some .directory := by
    apply lookup?_of_fixed
    unfold start Fixed
    split <;> simp
  obtain ⟨fs, made, last, walked, -, same⟩ := makeWay_made begins short fileAt_empty
  refine ⟨fs, ?_, fun name short' spelled' => ?_⟩
  · obtain ⟨text, bounded⟩ := spelled
    by_cases nothing : directory = ""
    · subst nothing
      have still : strides "" = [] := rfl
      simpa [makeDirectories, makeWay, still] using made
    · simpa [makeDirectories, nothing, text, Nat.not_lt.mpr bounded] using made
  · have named := short'.plain
    have place : fs.locate (joined directory name) =
        .ok (start directory ++ strides directory ++ [name]) := by
      rw [locate_eq spelled' (joined_ne_empty directory named), start_joined directory named,
        strides_joined directory named, walk_append, walked]
      simp [Except.bind, walk, last, named.2.1, named.2.2.1, Nat.not_lt.mpr short'.bounded]
    have same' := locate_steps place
    refine ⟨⟨same' ▸ place, joined_ends directory named⟩, ?_⟩
    rw [← same', same _ (by simp), lookup?_of_not_fixed (not_fixed_of_name named _)]
    simp [empty]

end CallChart.Files

namespace CallChart.FileStep

open Files

def places : FileStep → List Path
  | .makeDirectories _ => []
  | .removeIfPresent path => [steps path]
  | .write path _ => [steps path]
  | .rename source target => [steps source, steps target]

theorem apply_effect (fs : Files) (step : FileStep) :
    DirsKept fs (step.apply fs).2 ∧
      ∀ q ∉ step.places, (step.apply fs).2.fileAt q = fs.fileAt q := by
  cases step with
  | makeDirectories path =>
    obtain ⟨kept, same⟩ := makeDirectories_effect fs path
    exact ⟨kept, fun q _ => same q⟩
  | removeIfPresent path =>
    simp only [apply, places, List.mem_singleton]
    cases removed : fs.removeFile path with
    | ok fs' =>
      obtain ⟨free, rfl⟩ := removeFile_effect removed
      exact ⟨dirsKept_drop free, fun q apart => fileAt_of_lookup? (lookup?_drop_other apart)⟩
    | error fault => cases fault <;> exact ⟨.refl fs, fun _ _ => rfl⟩
  | write path bytes =>
    simp only [apply, places, List.mem_singleton]
    cases written : fs.write path bytes with
    | ok fs' => exact ⟨write_kept written, fun q apart => write_other written apart⟩
    | error fault => exact ⟨.refl fs, fun _ _ => rfl⟩
  | rename source target =>
    simp only [apply, places, List.mem_cons, List.not_mem_nil, or_false, not_or]
    cases moved : fs.rename source target with
    | ok fs' =>
      obtain ⟨free, free', e, -, rfl⟩ := rename_effect moved
      refine ⟨(dirsKept_drop free).trans (dirsKept_put_file ?_ _), fun q apart => ?_⟩
      · by_cases same : steps target = steps source
        · simp [same, lookup?_drop_self (not_fixed_of_lookup? free)]
        · rwa [lookup?_drop_other same]
      · exact fileAt_of_lookup? ((lookup?_put_other apart.2).trans (lookup?_drop_other apart.1))
    | error fault => exact ⟨.refl fs, fun _ _ => rfl⟩

theorem run_cons_ok {fs fs' : Files} {step : FileStep} {rest : List FileStep}
    (done : step.apply fs = (.ok (), fs')) :
    run fs (step :: rest) = run fs' rest := by
  simp only [run, done]

theorem run_cons_error {fs fs' : Files} {step : FileStep} {rest : List FileStep} {fault : FileFault}
    (failed : step.apply fs = (.error fault, fs')) :
    run fs (step :: rest) = (.error (step, fault), fs') := by
  simp only [run, failed]

theorem run_append (fs : Files) (before after : List FileStep) :
    run fs (before ++ after) =
      match run fs before with
      | (.ok (), fs) => run fs after
      | failed => failed := by
  induction before generalizing fs with
  | nil => rfl
  | cons step rest ih =>
    rcases outcome : step.apply fs with ⟨fault | done, fs'⟩
    · simp only [List.cons_append, run_cons_error outcome]
    · simp only [List.cons_append, run_cons_ok outcome, ih]

theorem run_effect (fs : Files) (steps : List FileStep) :
    DirsKept fs (run fs steps).2 ∧
      ∀ q, (∀ step ∈ steps, q ∉ step.places) → (run fs steps).2.fileAt q = fs.fileAt q := by
  induction steps generalizing fs with
  | nil => exact ⟨.refl fs, fun _ _ => rfl⟩
  | cons step rest ih =>
    obtain ⟨kept, same⟩ := apply_effect fs step
    rcases outcome : step.apply fs with ⟨fault | done, fs'⟩
    · rw [run_cons_error outcome]
      rw [outcome] at kept same
      exact ⟨kept, fun q apart => same q (apart step List.mem_cons_self)⟩
    · rw [run_cons_ok outcome]
      rw [outcome] at kept same
      obtain ⟨kept', same'⟩ := ih fs'
      exact ⟨kept.trans kept', fun q apart =>
        (same' q fun s within => apart s (List.mem_cons_of_mem _ within)).trans
          (same q (apart step List.mem_cons_self))⟩

theorem run_written {fs : Files} {path : String} {bytes : List UInt8} (before : List FileStep)
    {after : List FileStep} (done : (run fs (before ++ .write path bytes :: after)).1 = .ok ())
    (last : ∀ step ∈ after, steps path ∉ step.places) :
    (run fs (before ++ .write path bytes :: after)).2.read path = .ok bytes := by
  rw [run_append] at done ⊢
  rcases outcome : run fs before with ⟨fault | done', middle⟩
  · simp [outcome] at done
  simp only [outcome] at done ⊢
  cases written : middle.write path bytes with
  | error fault =>
    have failed : (FileStep.write path bytes).apply middle = (.error fault, middle) := by
      simp only [apply, written, whole]
    simp [run_cons_error failed] at done
  | ok fs' =>
    have through : (FileStep.write path bytes).apply middle = (.ok (), fs') := by
      simp only [apply, written, whole]
    rw [run_cons_ok through]
    obtain ⟨kept, same⟩ := run_effect fs' after
    refine read_of_reaches (((write_kept written).trans kept).reaches (write_effect written).1) ?_
    rw [same _ last, write_fileAt written]

/-- A step that writes or removes a file, at a place where a file can be. -/
def Fits (fs : Files) : FileStep → Prop
  | .write path _ => fs.Vacant path
  | .removeIfPresent path => fs.Vacant path
  | _ => False

theorem Fits.apply {fs : Files} {step : FileStep} (fits : step.Fits fs) :
    ∃ fs', step.apply fs = (.ok (), fs') ∧ ∀ path, fs.Vacant path → fs'.Vacant path := by
  cases step with
  | write path bytes =>
    have vacant : fs.Vacant path := fits
    obtain ⟨executable, written⟩ := vacant.write bytes
    refine ⟨fs.put (steps path) (.file bytes executable), ?_, fun _ other =>
      other.put_file vacant.free executable⟩
    simp only [FileStep.apply, written, whole]
  | removeIfPresent path =>
    have vacant : fs.Vacant path := fits
    rcases vacant.removeFile with absent | removed
    · exact ⟨fs, by simp only [FileStep.apply, absent], fun _ other => other⟩
    · refine ⟨_, ?_, fun _ other => other.drop vacant.free⟩
      simp only [FileStep.apply, removed, whole]
  | makeDirectories path => exact fits.elim
  | rename source target => exact fits.elim

theorem Fits.of_vacant {fs fs' : Files} {step : FileStep} (fits : step.Fits fs)
    (kept : ∀ path, fs.Vacant path → fs'.Vacant path) : step.Fits fs' := by
  cases step <;> first | exact fits.elim | exact kept _ fits

theorem run_fits {fs : Files} {steps : List FileStep} (fits : ∀ step ∈ steps, step.Fits fs) :
    (run fs steps).1 = .ok () := by
  induction steps generalizing fs with
  | nil => rfl
  | cons step rest ih =>
    obtain ⟨first, others⟩ := List.forall_mem_cons.mp fits
    obtain ⟨fs', done, vacant⟩ := first.apply
    rw [run_cons_ok done]
    exact ih fun step' within => (others step' within).of_vacant vacant

end CallChart.FileStep
