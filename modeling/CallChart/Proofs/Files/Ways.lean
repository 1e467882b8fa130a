import CallChart.Proofs.Files.Content

namespace CallChart.Files

def wayFrom (here : Path) : List String → List Path
  | [] => [here]
  | step :: rest => here :: wayFrom (follow here step) rest

def way (path : String) : List Path :=
  wayFrom (start path) (strides path)

theorem mem_wayFrom_self (here : Path) (steps_ : List String) : here ∈ wayFrom here steps_ := by
  cases steps_ <;> simp [wayFrom]

theorem wayFrom_concat (here : Path) (steps_ : List String) (step : String) :
    wayFrom here (steps_ ++ [step]) =
      wayFrom here steps_ ++ [follow (steps_.foldl follow here) step] := by
  induction steps_ generalizing here with
  | nil => rfl
  | cons first rest ih => simp [wayFrom, ih]

theorem way_joined {name : String} (directory : String) (plain : IsName name) :
    way (joined directory name) = way directory ++ [steps directory ++ [name]] := by
  rw [way, start_joined directory plain, strides_joined directory plain, wayFrom_concat,
    follow_name plain]
  rfl

theorem foldl_mem_wayFrom (here : Path) (steps_ : List String) :
    steps_.foldl follow here ∈ wayFrom here steps_ := by
  induction steps_ generalizing here with
  | nil => simp [wayFrom]
  | cons step rest ih => exact List.mem_cons_of_mem _ (ih _)

theorem steps_mem_way (path : String) : steps path ∈ way path :=
  foldl_mem_wayFrom _ _

theorem makeWay_lookup? {fs : Files} {here q : Path} {steps_ : List String}
    (off : q ∉ wayFrom here steps_) :
    (fs.makeWay here steps_).2.lookup? q = fs.lookup? q := by
  induction steps_ generalizing fs here with
  | nil => rfl
  | cons step rest ih =>
    simp only [wayFrom, List.mem_cons, not_or] at off
    obtain ⟨-, off⟩ := off
    simp only [makeWay]
    by_cases dot : step = "."
    · simp only [dot, follow, ↓reduceIte] at off ⊢
      exact ih off
    by_cases dots : step = ".."
    · simp only [dots, follow] at off ⊢
      exact ih off
    · simp only [dot, dots, follow, ↓reduceIte] at off ⊢
      split
      · split
        · rfl
        · refine (ih off).trans (lookup?_put_other ?_)
          rintro rfl
          exact off (mem_wayFrom_self _ _)
      · exact ih off
      · rfl

theorem makeDirectories_lookup? {fs : Files} {q : Path} {path : String} (off : q ∉ way path) :
    (fs.makeDirectories path).2.lookup? q = fs.lookup? q := by
  simp only [makeDirectories]
  repeat' split
  all_goals first | rfl | exact makeWay_lookup? off

theorem walk_congr {fs fs' : Files} {here : Path} {steps_ : List String}
    (same : ∀ q ∈ wayFrom here steps_, fs'.lookup? q = fs.lookup? q) :
    fs'.walk here steps_ = fs.walk here steps_ := by
  induction steps_ generalizing here with
  | nil => rfl
  | cons step rest ih =>
    simp only [wayFrom, List.forall_mem_cons] at same
    obtain ⟨first, others⟩ := same
    have walked := ih others
    simp only [walk, first]
    split
    · rfl
    · rfl
    · by_cases dot : step = "."
      · simpa only [dot, follow, ↓reduceIte] using walked
      by_cases dots : step = ".."
      · subst dots
        exact walked
      · simp only [dot, dots, follow, ↓reduceIte] at walked ⊢
        rw [walked]

theorem locate_congr {fs fs' : Files} {path : String}
    (same : ∀ q ∈ way path, fs'.lookup? q = fs.lookup? q) :
    fs'.locate path = fs.locate path := by
  simp only [locate, walk_congr same]

theorem entryAt_congr {fs fs' : Files} {path : String}
    (same : ∀ q ∈ way path, fs'.lookup? q = fs.lookup? q) :
    fs'.entryAt path = fs.entryAt path := by
  simp only [entryAt, locate_congr same, bind, Except.bind]
  cases located : fs.locate path with
  | error fault => rfl
  | ok p =>
    obtain rfl := locate_steps located
    simp only [same _ (steps_mem_way path)]

theorem read_congr {fs fs' : Files} {path : String}
    (same : ∀ q ∈ way path, fs'.lookup? q = fs.lookup? q) :
    fs'.read path = fs.read path := by
  simp only [read, entryAt_congr same]

theorem exists?_of_read {fs : Files} {path : String} {bytes : List UInt8}
    (done : fs.read path = .ok bytes) :
    fs.exists? path = true := by
  obtain ⟨reaches, content⟩ := read_effect done
  simp only [fileAt] at content
  split at content
  · rename_i there
    simp [exists?, entryAt_of_reaches reaches, there]
  · cases content

theorem entryAt_directory {fs : Files} {p : Path} {directory name : String} (named : directory ≠ "")
    (plain : IsName name) (located : fs.locate (joined directory name) = .ok p) :
    fs.entryAt directory = .ok (steps directory, some .directory) := by
  obtain ⟨spelled, walked⟩ := walk_of_locate plain located
  rw [walk_append] at walked
  cases there : fs.walk (start directory) (strides directory) with
  | error fault => simp [there, Except.bind] at walked
  | ok here =>
    obtain rfl : here = steps directory := walk_steps there
    have isDirectory : fs.lookup? (steps directory) = some .directory := by
      simp only [there, Except.bind, walk] at walked
      split at walked
      · cases walked
      · cases walked
      · assumption
    simp only [entryAt, locate_eq spelled named, there, isDirectory, bind, Except.bind]
    rfl

theorem write_slash {fs fs' : Files} {directory name : String} {bytes : List UInt8} {rest : String}
    (plain : IsName name)
    (done : fs.write (joined directory (name ++ "/" ++ rest)) bytes = .ok fs') :
    fs.lookup? (steps directory ++ [name]) = some .directory := by
  obtain ⟨⟨located, ends⟩, -, -⟩ := write_effect done
  rw [joined_slash directory plain] at located ends
  have further : strides rest ≠ [] := by
    intro still
    refine ends ?_
    rcases getLast?_of_strides still with empty | slash
    · simp [empty]
    · simp [List.getLast?_cons, slash]
  have begins : start (joined directory name ++ "/" ++ rest) = start directory := by
    rw [String.append_assoc, start_append (joined_ne_empty directory plain),
      start_joined directory plain]
  have walked : fs.walk (start directory) (strides directory ++ [name] ++ strides rest) =
      .ok (steps (joined directory name ++ "/" ++ rest)) := by
    simp only [locate] at located
    split at located
    · cases located
    split at located
    · cases located
    split at located
    · cases located
    rwa [strides_slash, strides_joined directory plain, begins] at located
  rw [walk_append] at walked
  cases there : fs.walk (start directory) (strides directory ++ [name]) with
  | error fault => simp [there, Except.bind] at walked
  | ok here =>
    obtain rfl : here = steps directory ++ [name] := by
      rw [walk_steps there, List.foldl_append]
      exact follow_name plain _
    obtain ⟨step, others, rest_⟩ := List.exists_cons_of_ne_nil further
    simp only [there, rest_, Except.bind, walk] at walked
    split at walked
    · cases walked
    · cases walked
    · assumption

theorem lookup?_dropTree_off {fs : Files} {p q : Path} (off : ¬ p <+: q) :
    (fs.dropTree p).lookup? q = fs.lookup? q := by
  by_cases fixed : Fixed q
  · rw [lookup?_of_fixed fixed, lookup?_of_fixed fixed]
  · rw [lookup?_dropTree fixed, if_neg off]

theorem removeTree_directory {fs : Files} {p : Path} {directory name : String} (plain : IsName name)
    (found : fs.entryAt (joined directory name) = .ok (p, some .directory)) :
    fs.removeTree (joined directory name) = (.ok (), fs.dropTree (steps directory ++ [name])) := by
  have last : (strides (joined directory name)).getLast? ≠ some "." := by
    rw [strides_joined directory plain, List.getLast?_concat]
    simpa using plain.2.1
  obtain ⟨-, rfl, -⟩ := entryAt_steps found
  rw [steps_joined directory plain] at found
  simp only [removeTree, found, if_neg last]

theorem names_of_entryAt {fs : Files} {p : Path} {directory : String}
    (found : fs.entryAt directory = .ok (p, some .directory)) :
    fs.names directory = .ok (fs.entries.filterMap fun (q, _) =>
      if q.dropLast = p then q.getLast? else none) := by
  simp only [names, found, bind, Except.bind]
  rfl

theorem mem_names {fs : Files} {directory name : String} {names : List String}
    (listed : fs.names directory = .ok names) (plain : IsName name) :
    name ∈ names ↔ fs.lookup? (steps directory ++ [name]) ≠ none := by
  have listed' : names = fs.entries.filterMap fun (q, _) =>
      if q.dropLast = steps directory then q.getLast? else none := by
    simp only [Files.names, bind, Except.bind] at listed
    cases found : fs.entryAt directory with
    | error fault => simp [found] at listed
    | ok there =>
      obtain ⟨p, e⟩ := there
      obtain ⟨-, rfl, -⟩ := entryAt_steps found
      simp only [found] at listed
      split at listed
      · cases listed
      · cases listed
      · cases listed
        rfl
  have last (q : Path) : (if q.dropLast = steps directory then q.getLast? else none) = some name ↔
      q = steps directory ++ [name] := by
    constructor
    · intro ends
      split at ends
      · rename_i before
        obtain ⟨others, rfl⟩ := List.getLast?_eq_some_iff.mp ends
        simpa using before
      · cases ends
    · rintro rfl
      simp
  rw [lookup?_of_not_fixed (not_fixed_of_name plain _), listed', List.mem_filterMap, ne_eq,
    List.lookup_eq_none_iff]
  simp only [last, not_forall]
  constructor
  · rintro ⟨⟨q, e⟩, within, rfl⟩
    exact ⟨(_, e), within, by simp⟩
  · rintro ⟨⟨q, e⟩, within, same⟩
    exact ⟨(q, e), within, (by simpa using same : _ = q).symm⟩

end CallChart.Files

namespace CallChart.FileStep

open Files

def touched : FileStep → List Path
  | .makeDirectories path => way path
  | step => step.places

theorem apply_lookup? {fs : Files} {q : Path} {step : FileStep} (off : q ∉ step.touched) :
    (step.apply fs).2.lookup? q = fs.lookup? q := by
  cases step with
  | makeDirectories path => exact makeDirectories_lookup? off
  | removeIfPresent path =>
    simp only [touched, places, List.mem_singleton] at off
    simp only [apply]
    cases removed : fs.removeFile path with
    | ok fs' =>
      obtain ⟨-, rfl⟩ := removeFile_effect removed
      exact lookup?_drop_other off
    | error fault => cases fault <;> rfl
  | write path bytes =>
    simp only [touched, places, List.mem_singleton] at off
    simp only [apply]
    cases written : fs.write path bytes with
    | ok fs' =>
      obtain ⟨-, -, executable, rfl⟩ := write_effect written
      exact lookup?_put_other off
    | error fault => rfl
  | rename source target =>
    simp only [touched, places, List.mem_cons, List.not_mem_nil, or_false, not_or] at off
    simp only [apply]
    cases moved : fs.rename source target with
    | ok fs' =>
      obtain ⟨-, -, e, -, rfl⟩ := rename_effect moved
      exact (lookup?_put_other off.2).trans (lookup?_drop_other off.1)
    | error fault => rfl

theorem apply_directory {fs : Files} {q : Path} {step : FileStep}
    (off : ∀ path, step = .makeDirectories path → q ∉ way path)
    (there : (step.apply fs).2.lookup? q = some .directory) : fs.lookup? q = some .directory := by
  have put {fs : Files} {p : Path} {e : Entry} (free : fs.lookup? p ≠ some .directory)
      (other : e ≠ .directory) (there : (fs.put p e).lookup? q = some .directory) :
      fs.lookup? q = some .directory := by
    by_cases same : q = p
    · rw [same, lookup?_put_self (not_fixed_of_lookup? free)] at there
      exact (other (Option.some.inj there)).elim
    · rwa [lookup?_put_other same] at there
  have drop {p : Path} (free : fs.lookup? p ≠ some .directory)
      (there : (fs.drop p).lookup? q = some .directory) : fs.lookup? q = some .directory := by
    by_cases same : q = p
    · rw [same, lookup?_drop_self (not_fixed_of_lookup? free)] at there
      cases there
    · rwa [lookup?_drop_other same] at there
  cases step with
  | makeDirectories path => rwa [apply, makeDirectories_lookup? (off path rfl)] at there
  | removeIfPresent path =>
    simp only [apply] at there
    cases removed : fs.removeFile path with
    | ok fs' =>
      obtain ⟨free, rfl⟩ := removeFile_effect removed
      simp only [removed] at there
      exact drop free there
    | error fault =>
      rw [removed] at there
      cases fault <;> exact there
  | write path bytes =>
    simp only [apply] at there
    cases written : fs.write path bytes with
    | ok fs' =>
      obtain ⟨-, free, executable, rfl⟩ := write_effect written
      simp only [written] at there
      exact put free (by simp) there
    | error fault => simpa only [written, whole] using there
  | rename source target =>
    simp only [apply] at there
    cases moved : fs.rename source target with
    | ok fs' =>
      obtain ⟨free, free', e, other, rfl⟩ := rename_effect moved
      simp only [moved] at there
      refine drop free (put ?_ other there)
      by_cases same : steps target = steps source
      · simp [same, lookup?_drop_self (not_fixed_of_lookup? free)]
      · rwa [lookup?_drop_other same]
    | error fault => simpa only [moved, whole] using there

theorem run_lookup? {fs : Files} {q : Path} {steps : List FileStep}
    (off : ∀ step ∈ steps, q ∉ step.touched) :
    (run fs steps).2.lookup? q = fs.lookup? q := by
  induction steps generalizing fs with
  | nil => rfl
  | cons step rest ih =>
    obtain ⟨first, others⟩ := List.forall_mem_cons.mp off
    have next : (step.apply fs).2.lookup? q = fs.lookup? q := apply_lookup? first
    rcases outcome : step.apply fs with ⟨fault | done, fs'⟩
    · rw [run_cons_error outcome]
      rwa [outcome] at next
    · rw [run_cons_ok outcome]
      rw [outcome] at next
      exact (ih others).trans next

theorem run_directory {fs : Files} {q : Path} {steps : List FileStep}
    (off : ∀ path, .makeDirectories path ∈ steps → q ∉ way path)
    (there : (run fs steps).2.lookup? q = some .directory) : fs.lookup? q = some .directory := by
  induction steps generalizing fs with
  | nil => exact there
  | cons step rest ih =>
    have first : (step.apply fs).2.lookup? q = some .directory → fs.lookup? q = some .directory :=
      apply_directory fun path same => off path (same ▸ List.mem_cons_self)
    rcases outcome : step.apply fs with ⟨fault | done, fs'⟩
    · rw [outcome] at first
      rw [run_cons_error outcome] at there
      exact first there
    · rw [outcome] at first
      rw [run_cons_ok outcome] at there
      exact first (ih (fun path within => off path (List.mem_cons_of_mem _ within)) there)

end CallChart.FileStep
