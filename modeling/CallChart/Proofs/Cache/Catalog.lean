import CallChart.Proofs.Cache.Entry
import CallChart.Proofs.Cache.Overlap
import CallChart.Proofs.Files.Ways
import CallChart.Proofs.Fingerprint
import CallChart.Proofs.Options.Normalized
import Mathlib.Data.Finmap
import Mathlib.Data.Finset.Sort

namespace CallChart

open Files

def Fingerprint.IsDigest (fp : Fingerprint) : Prop :=
  (Fingerprint.parse? fp.text).isSome = true

instance (fp : Fingerprint) : Decidable fp.IsDigest :=
  inferInstanceAs (Decidable (_ = true))

theorem Fingerprint.IsDigest.isName {fp : Fingerprint} (digest : fp.IsDigest) : IsName fp.text :=
  Fingerprint.isName_of_digest digest

namespace Cache

/-- What is asked of a cache. A request for an artifact comes with what its computation would come
to. -/
inductive Operation where
  | store (a : Artifact)
  | load (fp : Fingerprint)
  | obtain (fp : Fingerprint) (refresh : Bool) (outcome : Except Failure Artifact)
  | entries
  | clear

inductive Answer where
  | done
  | loaded (a : Option Artifact)
  | obtained (result : Except Failure Artifact) (computed : Bool)
  | listed (fps : List Fingerprint)
  | cleared (result : Except Failure Nat)

def operate (c : Cache) (fs : Files) : Operation → Answer × Files
  | .store a => (.done, c.store a fs)
  | .load fp => (.loaded (c.load fp fs), fs)
  | .obtain fp refresh outcome =>
    let obtained := c.obtain fp refresh (fun _ => outcome) fs
    (.obtained obtained.result obtained.computed, obtained.files)
  | .entries => (.listed (c.entries fs), fs)
  | .clear => ((c.clear fs).map .cleared id)

def run (c : Cache) (fs : Files) : List Operation → List Answer × Files
  | [] => ([], fs)
  | operation :: rest =>
    let (answer, fs) := c.operate fs operation
    let (answers, fs) := run c fs rest
    (answer :: answers, fs)

end Cache

abbrev Catalog := Finmap fun _ : Fingerprint => Artifact

namespace Catalog

open Cache (Operation Answer)

def texts (m : Catalog) : List String :=
  (m.keys.image Fingerprint.text).sort

def operate (m : Catalog) : Operation → Answer × Catalog
  | .store a => (.done, m.insert a.fingerprint a)
  | .load fp => (.loaded (m.lookup fp), m)
  | .obtain fp refresh outcome =>
    match if refresh then none else m.lookup fp, outcome with
    | some a, _ => (.obtained (.ok a) false, m)
    | none, .ok a => (.obtained (.ok a) true, m.insert a.fingerprint a)
    | none, .error failure => (.obtained (.error failure) true, m)
  | .entries => (.listed (m.texts.map .mk), m)
  | .clear => (.cleared (.ok m.keys.card), ∅)

def run (m : Catalog) : List Operation → List Answer × Catalog
  | [] => ([], m)
  | operation :: rest =>
    let (answer, m) := m.operate operation
    let (answers, m) := run m rest
    (answer :: answers, m)

theorem text_injective : Function.Injective Fingerprint.text := by
  rintro ⟨s⟩ ⟨t⟩ same
  exact congrArg Fingerprint.mk same

theorem mem_texts {m : Catalog} {s : String} : s ∈ m.texts ↔ ⟨s⟩ ∈ m := by
  simp only [texts, Finset.mem_sort, Finset.mem_image, Finmap.mem_keys]
  constructor
  · rintro ⟨fp, within, rfl⟩
    exact within
  · exact fun within => ⟨_, within, rfl⟩

theorem texts_sorted (m : Catalog) : m.texts.Pairwise (· < ·) :=
  (Finset.sortedLT_sort _).pairwise

@[simp] theorem texts_empty : texts ∅ = [] := by
  simp [texts]

theorem length_texts (m : Catalog) : m.texts.length = m.keys.card := by
  rw [texts, Finset.length_sort, Finset.card_image_of_injective _ text_injective]

theorem texts_eq {m : Catalog} {names : List String} (sorted : names.Pairwise (· < ·))
    (same : ∀ s, s ∈ names ↔ ⟨s⟩ ∈ m) : names = m.texts :=
  List.Pairwise.eq_of_mem_iff sorted m.texts_sorted fun s => (same s).trans mem_texts.symm

end Catalog

namespace Cache

/-- An artifact that can be kept in a directory of its own: its fingerprint is a digest, its format
has no slash, and its time is one of the calendar. -/
structure Filed (a : Artifact) : Prop where
  digest : a.fingerprint.IsDigest
  format : '/' ∉ a.format.toList
  created : a.createdAt.isValid = true

theorem Filed.storable {a : Artifact} (filed : Filed a) : Storable a :=
  ⟨filed.digest.isName, filed.format, filed.created⟩

/-- The way to a directory leads through none of the entries in it. -/
def Direct (directory : String) : Prop :=
  ∀ q ∈ way directory, ∀ fp : Fingerprint, fp.IsDigest → ¬ steps directory ++ [fp.text] <+: q

/-- The files hold a map: what it has is stored, of what it has not there is nothing, and if the
directory cannot be listed it is missing. -/
structure Represents (fs : Files) (directory : String) (m : Catalog) : Prop where
  held {fp : Fingerprint} {a : Artifact} : m.lookup fp = some a →
    a.fingerprint = fp ∧ Filed a ∧ Stored fs directory a
  absent {fp : Fingerprint} : fp.IsDigest → fp ∉ m → ∀ rest,
    fs.lookup? (steps directory ++ fp.text :: rest) = none
  listed {fault : FileFault} : fs.names directory = .error fault → fault = .notFound

theorem represents_empty {fs : Files} {directory : String}
    (nothing : ∀ fp : Fingerprint, fp.IsDigest → ∀ rest,
      fs.lookup? (steps directory ++ fp.text :: rest) = none)
    (listed : ∀ fault, fs.names directory = .error fault → fault = .notFound) :
    Represents fs directory ∅ where
  held found := by cases found
  absent digest _ := nothing _ digest
  listed := listed _

theorem below_entry {directory : String} {fp fp' : Fingerprint} {rest : Path} :
    steps directory ++ [fp.text] <+: steps directory ++ fp'.text :: rest ↔ fp = fp' := by
  rw [List.prefix_append_right_inj, List.cons_prefix_cons]
  exact ⟨fun same => Catalog.text_injective same.1, fun same => ⟨congrArg _ same, List.nil_prefix⟩⟩

theorem way_entry_off {directory : String} {fp fp' : Fingerprint} {q : Path}
    (direct : Direct directory) (digest : fp.IsDigest) (digest' : fp'.IsDigest) (other : fp ≠ fp')
    (on : q ∈ way (entryDirectory directory fp')) :
    ¬ steps directory ++ [fp.text] <+: q := by
  rw [entryDirectory, way_joined directory digest'.isName, List.mem_append,
    List.mem_singleton] at on
  rcases on with on | rfl
  · exact direct q on fp digest
  · exact fun below => other (below_entry.mp below)

theorem Represents.load {c : Cache} {fs : Files} {directory : String} {fp : Fingerprint}
    {m : Catalog} (represents : Represents fs directory m) (enabled : c.directory = some directory)
    (digest : fp.IsDigest) : c.load fp fs = m.lookup fp := by
  cases found : m.lookup fp with
  | some a =>
    obtain ⟨rfl, filed, stored⟩ := represents.held found
    exact load_of_stored enabled stored filed.storable
  | none =>
    refine load_of_absent enabled digest.isName ?_
    have nothing := represents.absent digest (Finmap.lookup_eq_none.mp found) [metadataFile]
    simp [fileAt, entryPlace, nothing]

theorem store_lookup? {c : Cache} {directory : String} {a : Artifact} {fp : Fingerprint}
    (direct : Direct directory) (enabled : c.directory = some directory) (filed : Filed a)
    (digest : fp.IsDigest) (other : fp ≠ a.fingerprint) (fs : Files) (rest : Path) :
    (c.store a fs).lookup? (steps directory ++ fp.text :: rest) =
      fs.lookup? (steps directory ++ fp.text :: rest) := by
  simp only [store, enabled]
  refine FileStep.run_lookup? fun step within touched => ?_
  cases step with
  | makeDirectories path =>
    rw [FileStep.touched, eq_of_makeDirectories within] at touched
    exact way_entry_off direct digest filed.digest other touched (below_entry.mpr rfl)
  | removeIfPresent path | write path bytes | rename source target =>
    obtain ⟨name, same⟩ := storeSteps_places filed.storable.placed within touched
    exact other (below_entry.mp (same ▸ below_entry.mpr rfl))

theorem Stored.entryAt_entry {fs : Files} {directory : String} {a : Artifact}
    (stored : Stored fs directory a) (filed : Filed a) :
    fs.entryAt (entryDirectory directory a.fingerprint) =
      .ok (steps directory ++ [a.fingerprint.text], some .directory) := by
  have digest := filed.digest.isName
  have entry := entryAt_directory (joined_ne_empty directory digest) isName_metadataFile
    (read_effect stored.metadata).1.1
  rwa [steps_joined directory digest] at entry

theorem Stored.lists {fs : Files} {directory : String} {a : Artifact}
    (stored : Stored fs directory a) (filed : Filed a) (named : directory ≠ "") :
    ∃ names, fs.names directory = .ok names := by
  have located := (entryAt_steps (stored.entryAt_entry filed)).1
  exact ⟨_, names_of_entryAt (entryAt_directory named filed.digest.isName located)⟩

theorem Represents.store {c : Cache} {fs : Files} {directory : String} {a : Artifact} {m : Catalog}
    (represents : Represents fs directory m) (named : directory ≠ "") (direct : Direct directory)
    (enabled : c.directory = some directory) (filed : Filed a) (well : c.storesWell a fs = true) :
    Represents (c.store a fs) directory (m.insert a.fingerprint a) := by
  have stored := stored_of_storesWell well enabled filed.storable
  obtain ⟨kept, same⟩ := store_effect c enabled filed.storable fs
  refine ⟨fun {fp b} found => ?_, fun {fp} digest missing rest => ?_, fun refused => ?_⟩
  · by_cases own : fp = a.fingerprint
    · subst own
      rw [Finmap.lookup_insert, Option.some.injEq] at found
      exact found ▸ ⟨rfl, filed, stored⟩
    · rw [Finmap.lookup_insert_of_ne _ own] at found
      obtain ⟨rfl, filed', stored'⟩ := represents.held found
      refine ⟨rfl, filed', stored'.kept filed'.storable kept fun name => same _ fun name' equal => ?_⟩
      exact own (entryPlace_inj.mp equal).1
  · rw [Finmap.mem_insert, not_or] at missing
    rw [store_lookup? direct enabled filed digest missing.1]
    exact represents.absent digest missing.2 rest
  · obtain ⟨names, listed⟩ := stored.lists filed named
    rw [listed] at refused
    cases refused

theorem Represents.entryNames {fs : Files} {directory : String} {m : Catalog}
    (represents : Represents fs directory m) (named : directory ≠ "") :
    entryNames directory fs = .ok m.texts ∨
      entryNames directory fs = .error .notFound ∧ m = ∅ := by
  cases listed : fs.names directory with
  | error fault =>
    obtain rfl := represents.listed listed
    refine .inr ⟨by simp [Cache.entryNames, listed, Except.map], ?_⟩
    refine Finmap.ext_lookup fun fp => ?_
    rw [Finmap.lookup_empty]
    by_contra there
    obtain ⟨a, found⟩ := Option.ne_none_iff_exists'.mp there
    obtain ⟨rfl, filed, stored⟩ := represents.held found
    obtain ⟨names, found⟩ := stored.lists filed named
    rw [listed] at found
    cases found
  | ok names =>
    refine .inl ?_
    simp only [Cache.entryNames, listed, Except.map, Except.ok.injEq]
    have rule := Text.insertSorted_insertsBy
    refine Catalog.texts_eq (rule.sorted_foldr _) fun name => ?_
    rw [rule.mem_foldr Function.injective_id, List.mem_filter]
    constructor
    · rintro ⟨within, hex⟩
      have digest : Fingerprint.IsDigest ⟨name⟩ := hex
      by_contra missing
      exact (mem_names listed digest.isName).mp within (represents.absent digest missing [])
    · intro within
      obtain ⟨a, found⟩ := Finmap.mem_iff.mp within
      obtain ⟨same, filed, stored⟩ := represents.held found
      have own : a.fingerprint.text = name := congrArg Fingerprint.text same
      rw [← own]
      refine ⟨(mem_names listed filed.digest.isName).mpr ?_, filed.digest⟩
      obtain ⟨-, place, there⟩ := entryAt_steps (stored.entryAt_entry filed)
      rw [place, ← there]
      simp

theorem Represents.entries {c : Cache} {fs : Files} {directory : String} {m : Catalog}
    (represents : Represents fs directory m) (named : directory ≠ "")
    (enabled : c.directory = some directory) : c.entries fs = m.texts.map .mk := by
  simp only [Cache.entries, enabled]
  rcases represents.entryNames named with found | ⟨found, rfl⟩
  · simp only [found]
    rw [List.filter_eq_self.mpr fun name within => ?_]
    obtain ⟨a, found⟩ := Finmap.mem_iff.mp (Catalog.mem_texts.mp within)
    obtain ⟨same, filed, stored⟩ := represents.held found
    have own : a.fingerprint.text = name := congrArg Fingerprint.text same
    have there := exists?_of_read stored.metadata
    rwa [entryDirectory, own] at there
  · simp only [found, Catalog.texts_empty, List.map_nil]

theorem Represents.remove {fs : Files} {directory : String} {a : Artifact} {fp : Fingerprint}
    {m : Catalog} (represents : Represents fs directory m) (named : directory ≠ "")
    (direct : Direct directory) (found : m.lookup fp = some a) :
    ∃ fs', fs.removeTree (joined directory fp.text) = (.ok (), fs') ∧
      Represents fs' directory (m.erase fp) := by
  obtain ⟨own, filed, stored⟩ := represents.held found
  subst own
  have digest := filed.digest
  refine ⟨_, removeTree_directory digest.isName (stored.entryAt_entry filed), ?_⟩
  have off {q : Path} : ¬ steps directory ++ [a.fingerprint.text] <+: q →
      (fs.dropTree (steps directory ++ [a.fingerprint.text])).lookup? q = fs.lookup? q :=
    lookup?_dropTree_off
  refine ⟨fun {fp b} found' => ?_, fun {fp} digest' missing rest => ?_, fun refused => ?_⟩
  · have other : a.fingerprint ≠ fp := by
      rintro rfl
      rw [Finmap.lookup_erase] at found'
      cases found'
    rw [Finmap.lookup_erase_ne other.symm] at found'
    obtain ⟨rfl, filed', stored'⟩ := represents.held found'
    have read {name : String} {bytes : List UInt8} (plain : IsName name)
        (done : fs.read (joined (entryDirectory directory b.fingerprint) name) = .ok bytes) :
        (fs.dropTree (steps directory ++ [a.fingerprint.text])).read
          (joined (entryDirectory directory b.fingerprint) name) = .ok bytes := by
      refine (read_congr fun q on => off ?_).trans done
      rw [way_joined _ plain, List.mem_append, List.mem_singleton] at on
      rcases on with on | last
      · exact way_entry_off direct digest filed'.digest other on
      · rw [last, entryDirectory, steps_joined directory filed'.digest.isName, List.append_assoc]
        exact fun below => other (below_entry.mp below)
    exact ⟨rfl, filed', read isName_metadataFile stored'.metadata,
      read isName_descriptionFile stored'.description,
      fun there => read (isName_imageFile filed'.format) (stored'.image there)⟩
  · by_cases own : a.fingerprint = fp
    · subst own
      have within : a.fingerprint.text ∈ steps directory ++ a.fingerprint.text :: rest :=
        List.mem_append_right _ List.mem_cons_self
      rw [lookup?_dropTree (not_fixed_of_mem digest.isName within), if_pos (below_entry.mpr rfl)]
    · rw [off fun below => own (below_entry.mp below)]
      exact represents.absent digest' (fun within => missing (Finmap.mem_erase.mpr
        ⟨Ne.symm own, within⟩)) rest
  · have there := entryAt_directory named digest.isName
      (entryAt_steps (stored.entryAt_entry filed)).1
    rw [← entryAt_congr fun q on => off (direct q on _ digest)] at there
    rw [names_of_entryAt there] at refused
    cases refused

theorem Represents.clearNames {fs : Files} {directory : String} {m : Catalog} {names : List String}
    (represents : Represents fs directory m) (named : directory ≠ "") (direct : Direct directory)
    (once : names.Nodup) (held : ∀ name ∈ names, ⟨name⟩ ∈ m) (removed : Nat) :
    ∃ fs' m', clearNames directory removed fs names = (.ok (removed + names.length), fs') ∧
      Represents fs' directory m' ∧ ∀ fp ∈ m', fp ∈ m ∧ fp.text ∉ names := by
  induction names generalizing fs m removed with
  | nil => exact ⟨fs, m, rfl, represents, fun fp within => ⟨within, nofun⟩⟩
  | cons name rest ih =>
    obtain ⟨first, once'⟩ := List.nodup_cons.mp once
    obtain ⟨a, found⟩ := Finmap.mem_iff.mp (held name List.mem_cons_self)
    obtain ⟨fs₁, gone, represents₁⟩ := represents.remove named direct found
    have held' : ∀ other ∈ rest, ⟨other⟩ ∈ m.erase ⟨name⟩ := by
      intro other within
      refine Finmap.mem_erase.mpr ⟨?_, held other (List.mem_cons_of_mem _ within)⟩
      rintro ⟨rfl⟩
      exact first within
    obtain ⟨fs', m', cleared, represents', left⟩ := ih represents₁ once' held' (removed + 1)
    refine ⟨fs', m', ?_, represents', fun fp within => ?_⟩
    · rw [clearNames_cons_ok gone, cleared, List.length_cons, Nat.add_right_comm, Nat.add_assoc]
    · obtain ⟨within', apart⟩ := left fp within
      obtain ⟨other, within'⟩ := Finmap.mem_erase.mp within'
      refine ⟨within', fun same => ?_⟩
      rcases List.mem_cons.mp same with rfl | same
      · exact other rfl
      · exact apart same

theorem Represents.clear {c : Cache} {fs : Files} {directory : String} {m : Catalog}
    (represents : Represents fs directory m) (named : directory ≠ "") (direct : Direct directory)
    (enabled : c.directory = some directory) :
    ∃ fs', c.clear fs = (.ok m.keys.card, fs') ∧ Represents fs' directory ∅ := by
  rcases represents.entryNames named with found | ⟨found, none⟩
  · obtain ⟨fs', m', cleared, represents', left⟩ := represents.clearNames named direct
      (m.texts_sorted.imp ne_of_lt) (fun name => Catalog.mem_texts.mp) 0
    obtain rfl : m' = ∅ := by
      refine Finmap.ext_lookup fun fp => ?_
      rw [Finmap.lookup_empty, Finmap.lookup_eq_none]
      intro within
      obtain ⟨before, apart⟩ := left fp within
      exact apart (Catalog.mem_texts.mpr before)
    refine ⟨fs', ?_, represents'⟩
    simp only [Cache.clear, enabled, found, cleared, Nat.zero_add, Catalog.length_texts]
  · have size : m.keys.card = 0 := by
      rw [← Catalog.length_texts, none, Catalog.texts_empty]
      rfl
    exact ⟨fs, by simp only [Cache.clear, enabled, found, size], none ▸ represents⟩

/-- An operation with digests for its fingerprints, and artifacts that can be filed. -/
def Operation.Proper : Operation → Prop
  | .store a => Filed a
  | .load fp => fp.IsDigest
  | .obtain fp _ outcome => fp.IsDigest ∧ ∀ a, outcome = .ok a → Filed a
  | .entries => True
  | .clear => True

def Operation.works (c : Cache) (fs : Files) : Operation → Bool
  | .store a => c.storesWell a fs
  | .obtain fp refresh (.ok a) => (c.stored? fp refresh fs).isSome || c.storesWell a fs
  | _ => true

def works (c : Cache) (fs : Files) : List Operation → Bool
  | [] => true
  | operation :: rest => operation.works c fs && c.works (c.operate fs operation).2 rest

theorem operate_catalog {c : Cache} {fs : Files} {directory : String} {m : Catalog}
    (named : directory ≠ "") (direct : Direct directory) (enabled : c.directory = some directory)
    (represents : Represents fs directory m) {operation : Operation} (proper : operation.Proper)
    (works : operation.works c fs = true) :
    (c.operate fs operation).1 = (m.operate operation).1 ∧
      Represents (c.operate fs operation).2 directory (m.operate operation).2 := by
  cases operation with
  | store a => exact ⟨rfl, represents.store named direct enabled proper works⟩
  | load fp => exact ⟨congrArg Answer.loaded (represents.load enabled proper), represents⟩
  | obtain fp refresh outcome =>
    obtain ⟨digest, filed⟩ := proper
    have found : c.stored? fp refresh fs = if refresh then none else m.lookup fp := by
      rw [stored?, represents.load enabled digest]
    simp only [operate, Cache.obtain, Catalog.operate, found]
    cases there : if refresh then none else m.lookup fp with
    | some a => exact ⟨rfl, represents⟩
    | none =>
      cases outcome with
      | error failure => exact ⟨rfl, represents⟩
      | ok a =>
        refine ⟨rfl, represents.store named direct enabled (filed a rfl) ?_⟩
        simpa [Operation.works, found, there] using works
  | entries => exact ⟨congrArg Answer.listed (represents.entries named enabled), represents⟩
  | clear =>
    obtain ⟨fs', cleared, represents'⟩ := represents.clear named direct enabled
    simp only [operate, cleared]
    exact ⟨rfl, represents'⟩

/-- Whatever a cache is asked one after another, the answers are those of a finite map, and the
files hold it, if they hold one to begin with and no storing fails. -/
theorem run_catalog {c : Cache} {fs : Files} {directory : String} {m : Catalog}
    (named : directory ≠ "") (direct : Direct directory) (enabled : c.directory = some directory)
    (represents : Represents fs directory m) {operations : List Operation}
    (proper : ∀ operation ∈ operations, operation.Proper) (works : c.works fs operations = true) :
    (c.run fs operations).1 = (m.run operations).1 ∧
      Represents (c.run fs operations).2 directory (m.run operations).2 := by
  induction operations generalizing fs m with
  | nil => exact ⟨rfl, represents⟩
  | cons operation rest ih =>
    obtain ⟨first, others⟩ := List.forall_mem_cons.mp proper
    obtain ⟨works₁, works'⟩ := Bool.and_eq_true_iff.mp works
    obtain ⟨answer, represents₁⟩ := operate_catalog named direct enabled represents first works₁
    obtain ⟨answers, represents'⟩ := ih represents₁ others works'
    exact ⟨congrArg₂ List.cons answer answers, represents'⟩

def visits (a : Artifact) : List Operation :=
  [.store a, .load a.fingerprint, .entries, .clear, .load a.fingerprint]

theorem run_visits (a : Artifact) : (Catalog.run ∅ (visits a)).1 =
    [.done, .loaded (some a), .listed [a.fingerprint], .cleared (.ok 1), .loaded none] := by
  have texts : Catalog.texts (Finmap.insert a.fingerprint a ∅) = [a.fingerprint.text] := by
    refine (Catalog.texts_eq (by simp) fun s => ?_).symm
    rw [Finmap.mem_insert, List.mem_singleton]
    constructor
    · rintro rfl
      exact .inl rfl
    · rintro (same | absent)
      · exact congrArg Fingerprint.text same
      · exact (Finmap.notMem_empty absent).elim
  have size := Catalog.length_texts (Finmap.insert a.fingerprint a ∅)
  rw [texts] at size
  simp [Catalog.run, Catalog.operate, visits, texts, ← size]

theorem works_visits {c : Cache} {fs : Files} {a : Artifact} (well : c.storesWell a fs = true) :
    c.works fs (visits a) = true := by
  simp [works, Operation.works, visits, well]

theorem proper_visits {a : Artifact} (filed : Filed a) :
    ∀ operation ∈ visits a, operation.Proper := by
  simp only [visits, List.forall_mem_cons]
  exact ⟨filed, filed.digest, trivial, trivial, filed.digest, nofun⟩

theorem shelved_filed : Filed shelved := ⟨by decide, by decide, by decide⟩

theorem represents_nothing {directory : String}
    (listed : ∀ fault, Files.names .empty directory = .error fault → fault = .notFound) :
    Represents .empty directory ∅ := by
  refine represents_empty (fun fp digest rest => ?_) listed
  rw [lookup?_of_not_fixed (not_fixed_of_mem digest.isName (by simp))]
  rfl

theorem shelf_visited : (shelf.run .empty (visits shelved)).1 =
    [.done, .loaded (some shelved), .listed [shelved.fingerprint], .cleared (.ok 1),
      .loaded none] := by
  have direct : Direct "c" := by
    intro q on fp digest below
    have places : way "c" = [[], ["c"]] := by decide
    have short := below.length_le
    simp only [show steps "c" = ["c"] by decide, List.length_append, List.length_cons,
      List.length_nil] at short
    simp only [places, List.mem_cons, List.not_mem_nil, or_false] at on
    rcases on with rfl | rfl <;> simp at short
  have missing : Files.names .empty "c" = .error .notFound := by decide
  have nothing : Represents .empty "c" ∅ := represents_nothing (by simp [missing])
  have well : shelf.storesWell shelved .empty = true :=
    storesWell_empty rfl ⟨by decide, by decide, by decide⟩ ⟨by decide, by decide, by decide⟩
      ⟨by decide, by decide, by decide⟩
  have answers := (run_catalog (c := shelf) (by decide) direct rfl nothing
    (proper_visits shelved_filed) (works_visits well)).1
  rw [answers, run_visits]

theorem names_unnamed (fs : Files) : fs.names "" = .error .notFound := by
  simp [Files.names, entryAt, locate, bind, Except.bind, throw, throwThe, MonadExceptOf.throw]

theorem run_unnamed {c : Cache} {fs : Files} {a : Artifact} (enabled : c.directory = some "")
    (filed : Filed a) (well : c.storesWell a fs = true) : (c.run fs (visits a)).1 =
      [.done, .loaded (some a), .listed [], .cleared (.ok 0), .loaded (some a)] := by
  have loaded : c.load a.fingerprint (c.store a fs) = some a :=
    load_of_stored enabled (stored_of_storesWell well enabled filed.storable) filed.storable
  have unlisted (fs : Files) : c.entries fs = [] := by
    simp [entries, enabled, entryNames, names_unnamed, Except.map]
  have uncleared (fs : Files) : c.clear fs = (.ok 0, fs) := by
    simp [clear, enabled, entryNames, names_unnamed, Except.map]
  simp [run, operate, visits, loaded, unlisted, uncleared]

theorem unnamed_visited :
    let c : Cache := ⟨some ""⟩
    Represents .empty "" ∅ ∧ c.works .empty (visits shelved) = true ∧
      (c.run .empty (visits shelved)).1 =
        [.done, .loaded (some shelved), .listed [], .cleared (.ok 0), .loaded (some shelved)] ∧
      (c.run .empty (visits shelved)).1 ≠ (Catalog.run ∅ (visits shelved)).1 := by
  intro c
  have well : c.storesWell shelved .empty = true :=
    storesWell_empty_of_strides rfl (by simp [show strides "" = [] by decide]) (by decide) (by decide)
      ⟨by decide, by decide, by decide⟩ ⟨by decide, by decide, by decide⟩
  have answers := run_unnamed rfl shelved_filed well
  refine ⟨represents_nothing (by simp [names_unnamed]), works_visits well, answers, ?_⟩
  rw [answers, run_visits]
  simp

end Cache
end CallChart
