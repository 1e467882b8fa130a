import CallChart.Proofs.Cache.Store
import CallChart.Proofs.Flight.SingleFlight

namespace CallChart.Flight.Traffic

open Cache Files

inductive Phase where
  | fresh
  | busy (i : Nat)
  | known (a : Artifact)

namespace Phase

def computations : Phase → Nat
  | fresh => 0
  | busy _ => 1
  | known _ => 1

def Storage (directory : String) (fp : Fingerprint) (files : Files) : Phase → Prop
  | fresh => files.fileAt (entryPlace directory fp metadataFile) = none
  | busy _ => files.fileAt (entryPlace directory fp metadataFile) = none
  | known a => a.fingerprint = fp ∧ Storable a ∧ Stored files directory a

def Results (r : Result) : Phase → Prop
  | fresh => False
  | busy _ => False
  | known a => r = .ok a

def Allows (i : Nat) (outcome : Result) (stage : Stage) : Phase → Prop
  | fresh =>
    match stage with
    | .look | .join | .board _ | .inspect _ | .start _ => True
    | _ => False
  | busy k =>
    match stage with
    | .look | .join | .board _ => i ≠ k
    | .compute _ => i = k
    | .store _ a => i = k ∧ outcome = .ok a
    | _ => False
  | known a =>
    match stage with
    | .look | .join | .board _ | .inspect _ => True
    | .fill _ r | .leave _ r | .done r => r = .ok a
    | _ => False

end Phase

/-- What is so of the callers of a fingerprint and of its storage in a phase. -/
structure Settled (directory : String) (fp : Fingerprint) (owner : List Fingerprint) (t : Traffic)
    (p : Phase) : Prop where
  counted : t.computed.count fp = p.computations
  storage : p.Storage directory fp t.files
  callers {i : Nat} {c : Caller} : t.callers[i]? = some c → c.fingerprint = fp →
    p.Allows i c.outcome c.stage
  cells {f : Nat} {r : Result} : owner[f]? = some fp → t.cells[f]? = some (.filled r) → p.Results r
  worker {i : Nat} : p = .busy i → ∃ (c : Caller) (f : Nat),
    t.callers[i]? = some c ∧ c.fingerprint = fp ∧ c.stage.leads? = some f

/-- A request that takes what is stored, and whose computation brings its artifact. -/
structure Sound (c : Caller) : Prop where
  plain : c.refresh = false
  brings : ∃ a, c.outcome = .ok a ∧ a.fingerprint = c.fingerprint ∧ Storable a

theorem Moves.sound {t u : Traffic} {i j : Nat} {c d : Caller} (moves : Moves t i c u)
    (there : t.callers[i]? = some c)
    (sound : ∀ {j : Nat} {d : Caller}, t.callers[j]? = some d → Sound d)
    (after : u.callers[j]? = some d) :
    Sound d := by
  obtain ⟨s, callers⟩ := moves.callers
  rw [callers] at after
  rcases caller_setStage there after with ⟨rfl, rfl⟩ | ⟨-, before⟩
  · exact ⟨(sound there).plain, (sound there).brings⟩
  · exact sound before

theorem Orderly.not_led_of_free {t : Traffic} {i j f : Nat} {c d : Caller}
    {owner : List Fingerprint} (order : Orderly owner t) (there : t.callers[i]? = some c)
    (stage : c.stage = .board f) (free : t.cells[f]? = some .free) {g : Nat}
    (there' : t.callers[j]? = some d) (leads : d.stage.leads? = some g)
    (same : d.fingerprint = c.fingerprint) : False := by
  have aboard := (order.placed there).aboard (f := f) (by simp [stage, Stage.flight?])
  have listed := order.opened aboard fun r filled => by simp [free] at filled
  have listed' := order.open_of_leads there' leads
  rw [same] at listed'
  obtain rfl := order.single listed listed'
  have taken := (order.placed there').taken leads
  simp [free] at taken

namespace Settled

theorem of_change {t u : Traffic} {i : Nat} {c : Caller} {fp : Fingerprint}
    {owner : List Fingerprint} {directory : String} {p q : Phase}
    (settled : Settled directory fp owner t p) (there : t.callers[i]? = some c) {stage : Stage}
    {owner' : List Fingerprint} (callers : u.callers = (t.setStage i stage).callers)
    (counted : u.computed.count fp = q.computations) (storage : q.Storage directory fp u.files)
    (self : c.fingerprint = fp → q.Allows i c.outcome stage)
    (others : ∀ {j : Nat} {d : Caller}, j ≠ i → t.callers[j]? = some d → d.fingerprint = fp →
      p.Allows j d.outcome d.stage → q.Allows j d.outcome d.stage)
    (cells : ∀ {f : Nat} {r : Result}, owner'[f]? = some fp → u.cells[f]? = some (.filled r) → q.Results r)
    (worker : ∀ {k : Nat}, q = .busy k → ∃ (d : Caller) (f : Nat), u.callers[k]? = some d ∧
      d.fingerprint = fp ∧ d.stage.leads? = some f) : Settled directory fp owner' u q where
  counted := counted
  storage := storage
  callers := by
    intro j d after same
    rw [callers] at after
    rcases caller_setStage there after with ⟨rfl, rfl⟩ | ⟨other, before⟩
    · exact self same
    · exact others other before same (settled.callers before same)
  cells := cells
  worker := worker

theorem carries {t : Traffic} {i f : Nat} {c : Caller} {owner : List Fingerprint}
    {directory : String} {a : Artifact} {p : Phase}
    (settled : Settled directory c.fingerprint owner t p) (there : t.callers[i]? = some c)
    (stage : c.stage = .store f a) : c.outcome = .ok a := by
  have allowed := settled.callers there rfl
  rw [stage] at allowed
  cases p with
  | busy k => exact allowed.2
  | fresh | known b => exact allowed.elim

theorem moves_other {t u : Traffic} {i : Nat} {c : Caller} {fp : Fingerprint}
    {owner : List Fingerprint} {directory : String} {p q : Phase}
    (settled : Settled directory fp owner t p) (order : Orderly owner t)
    (enabled : t.cache.directory = some directory) (there : t.callers[i]? = some c)
    (moves : Moves t i c u) (other : c.fingerprint ≠ fp) (sound : Sound c)
    (own : Settled directory c.fingerprint owner t q) :
    Settled directory fp (owner ++ t.launched c) u p := by
  obtain ⟨stage, callers⟩ := moves.callers
  have counted : u.computed.count fp = t.computed.count fp := by
    cases moves with
    | start f stage => simpa using List.count_cons_of_ne other
    | _ => rfl
  have storage : p.Storage directory fp u.files := by
    cases moves with
    | store f a at_stage =>
      obtain ⟨b, outcome, same, storable⟩ := sound.brings
      obtain rfl : b = a := by simpa using outcome.symm.trans (own.carries there at_stage)
      obtain ⟨kept, untouched⟩ := store_effect t.cache enabled storable t.files
      have apart (name : String) : (t.cache.store b t.files).fileAt (entryPlace directory fp name) =
          t.files.fileAt (entryPlace directory fp name) := by
        apply untouched
        intro name' equal
        exact other (same.symm.trans (entryPlace_inj.mp equal).1.symm)
      have before := settled.storage
      cases p with
      | fresh => exact (apart _).trans before
      | busy k => exact (apart _).trans before
      | known k =>
        obtain ⟨rfl, storable, stored⟩ := before
        exact ⟨rfl, storable, stored.kept storable kept apart⟩
    | _ => exact settled.storage
  refine settled.of_change there callers (counted.trans settled.counted) storage
    (fun same => (other same).elim) (fun _ _ _ allowed => allowed) ?_ ?_
  · intro f r owned filled
    rcases moves.filled_before order there owned filled with ⟨owned, filled⟩ | ⟨same, -⟩
    · exact settled.cells owned filled
    · exact (other same).elim
  · intro k busy
    obtain ⟨d, f, before, same, leads⟩ := settled.worker busy
    refine ⟨d, f, ?_, same, leads⟩
    rw [moves.others fun same' => ?_]
    · exact before
    · subst same'
      exact other ((Option.some.inj (there.symm.trans before)) ▸ same)

theorem known_of_load {t : Traffic} {fp : Fingerprint} {owner : List Fingerprint}
    {directory : String} {a : Artifact} {p : Phase} (settled : Settled directory fp owner t p)
    (enabled : t.cache.directory = some directory) (digest : IsName fp.text)
    (loaded : t.cache.load fp t.files = some a) : p = .known a := by
  have storage := settled.storage
  cases p with
  | fresh => simp [load_of_absent enabled digest storage] at loaded
  | busy k => simp [load_of_absent enabled digest storage] at loaded
  | known b =>
    obtain ⟨rfl, storable, stored⟩ := storage
    rw [load_of_stored enabled stored storable] at loaded
    rw [Option.some.inj loaded]

theorem load_of_known {t : Traffic} {fp : Fingerprint} {owner : List Fingerprint}
    {directory : String} {a : Artifact} (settled : Settled directory fp owner t (.known a))
    (enabled : t.cache.directory = some directory) : t.cache.load fp t.files = some a := by
  obtain ⟨rfl, storable, stored⟩ := settled.storage
  exact load_of_stored enabled stored storable

theorem stay {t u : Traffic} {i : Nat} {c : Caller} {owner : List Fingerprint} {directory : String}
    {p : Phase} (settled : Settled directory c.fingerprint owner t p) (order : Orderly owner t)
    (there : t.callers[i]? = some c) (moves : Moves t i c u) (stage : Stage)
    (callers : u.callers = (t.setStage i stage).callers) (computed : u.computed = t.computed)
    (files : u.files = t.files) (allowed : p.Allows i c.outcome stage)
    (fills : ∀ {f r}, c.stage = .fill f r → p.Results r)
    (leads : ∀ {f}, p = .busy i → c.stage.leads? = some f → stage.leads? = some f) :
    Settled directory c.fingerprint (owner ++ t.launched c) u p := by
  refine settled.of_change there callers (computed ▸ settled.counted) (files ▸ settled.storage)
    (fun _ => allowed) (fun _ _ _ allowed => allowed) ?_ ?_
  · intro f r owned filled
    rcases moves.filled_before order there owned filled with ⟨owned, filled⟩ | ⟨-, stage⟩
    · exact settled.cells owned filled
    · exact fills stage
  · intro k busy
    obtain ⟨d, f, before, same, lead⟩ := settled.worker busy
    by_cases mine : k = i
    · subst mine
      obtain rfl : c = d := Option.some.inj (there.symm.trans before)
      refine ⟨{ c with stage := stage }, f, ?_, rfl, leads busy lead⟩
      rw [callers]
      exact setStage_same there
    · refine ⟨d, f, ?_, same, lead⟩
      rw [moves.others mine]
      exact before

theorem moves_own {t u : Traffic} {i : Nat} {c : Caller} {owner : List Fingerprint}
    {directory : String} {p : Phase} (settled : Settled directory c.fingerprint owner t p)
    (order : Orderly owner t) (enabled : t.cache.directory = some directory)
    (there : t.callers[i]? = some c) (moves : Moves t i c u) (sound : Sound c)
    (well : ∀ {f a}, c.stage = .store f a → t.cache.storesWell a t.files = true) :
    ∃ q, Settled directory c.fingerprint (owner ++ t.launched c) u q := by
  have allowed := settled.callers there rfl
  obtain ⟨b, outcome, same, storable⟩ := sound.brings
  have digest : IsName c.fingerprint.text := same ▸ storable.digest
  have stays := settled.stay order there moves
  have filled_before {f : Nat} {r : Result}
      (owned : (owner ++ t.launched c)[f]? = some c.fingerprint) :=
    moves.filled_before (f := f) (r := r) order there owned
  cases moves with
  | hit a stage stored =>
    simp only [stored?, sound.plain, Bool.false_eq_true, ↓reduceIte] at stored
    obtain rfl := settled.known_of_load enabled digest stored
    exact ⟨_, stays (.done (.ok a)) rfl rfl rfl rfl (by simp [stage]) (by simp)⟩
  | miss stage absent =>
    refine ⟨p, stays .join rfl rfl rfl ?_ (by simp [stage]) (by simp [stage, Stage.leads?])⟩
    rw [stage] at allowed
    cases p <;> exact allowed
  | share f stage listed =>
    refine ⟨p, stays (.board f) rfl rfl rfl ?_ (by simp [stage]) (by simp [stage, Stage.leads?])⟩
    rw [stage] at allowed
    cases p <;> exact allowed
  | launch stage unlisted =>
    refine ⟨p, stays (.board t.cells.length) rfl rfl rfl ?_ (by simp [stage])
      (by simp [stage, Stage.leads?])⟩
    rw [stage] at allowed
    cases p <;> exact allowed
  | lead f stage free =>
    simp only [sound.plain, Bool.false_eq_true, ↓reduceIte] at stays ⊢
    refine ⟨p, stays (.inspect f) rfl rfl rfl ?_ (by simp [stage]) (by simp [stage, Stage.leads?])⟩
    cases p with
    | fresh => trivial
    | known a => trivial
    | busy k =>
      obtain ⟨d, g, there', same', leads⟩ := settled.worker rfl
      exact order.not_led_of_free there stage free there' leads same'
  | follow f r stage filled =>
    refine ⟨p, stays (.leave f r) rfl rfl rfl ?_ (by simp [stage]) (by simp [stage, Stage.leads?])⟩
    have aboard := (order.placed there).aboard (f := f) (by simp [stage, Stage.flight?])
    have results := settled.cells aboard filled
    cases p with
    | fresh => exact results
    | busy k => exact results.elim
    | known a => exact results
  | find f a stage stored =>
    obtain rfl := settled.known_of_load enabled digest stored
    exact ⟨_, stays (.fill f (.ok a)) rfl rfl rfl rfl (by simp [stage]) (by simp)⟩
  | lack f stage absent =>
    rw [stage] at allowed
    cases p with
    | fresh => exact ⟨_, stays (.start f) rfl rfl rfl trivial (by simp [stage]) (by simp)⟩
    | busy k => exact allowed.elim
    | known a => simp [settled.load_of_known enabled] at absent
  | start f stage =>
    have leads : c.stage.leads? = some f := by simp [stage, Stage.leads?]
    rw [stage] at allowed
    cases p with
    | busy k => exact allowed.elim
    | known a => exact allowed.elim
    | fresh =>
      refine ⟨.busy i, settled.of_change there rfl ?_ settled.storage (fun _ => rfl) ?_ ?_ ?_⟩
      · have counted := settled.counted
        simp only [Phase.computations] at counted
        simp [Phase.computations, counted]
      · -- whoever leads a flight of the fingerprint is the caller itself
        intro j d other before same' early
        have alone (g : Nat) (leads' : d.stage.leads? = some g) : False :=
          other (order.leads_unique before there leads' leads same')
        cases at_stage : d.stage with
        | look => exact other
        | join => exact other
        | board g => exact other
        | inspect g => exact alone g (by simp [at_stage, Stage.leads?])
        | start g => exact alone g (by simp [at_stage, Stage.leads?])
        | compute g | store g a | fill g r | leave g r | done r =>
          rw [at_stage] at early
          exact early.elim
      · intro g r owned filled
        rcases filled_before owned filled with ⟨owned, filled⟩ | ⟨-, stage'⟩
        · exact settled.cells owned filled
        · simp [stage] at stage'
      · rintro k ⟨⟩
        exact ⟨_, f, setStage_same there, rfl, rfl⟩
  | succeed f a stage outcome' =>
    rw [stage] at allowed
    cases p with
    | fresh => exact allowed.elim
    | known a => exact allowed.elim
    | busy k =>
      exact ⟨_, stays (.store f a) rfl rfl rfl ⟨allowed, outcome'⟩ (by simp [stage])
        (by simp [stage, Stage.leads?])⟩
  | fail f e stage outcome' => simp [outcome] at outcome'
  | store f a stage =>
    have brought := settled.carries there stage
    obtain rfl : b = a := by simpa using outcome.symm.trans brought
    rw [stage] at allowed
    cases p with
    | fresh => exact allowed.elim
    | known a => exact allowed.elim
    | busy k =>
      refine ⟨.known b, settled.of_change there rfl settled.counted ⟨same, storable, ?_⟩
        (fun _ => rfl) ?_ ?_ (by simp)⟩
      · exact stored_of_storesWell (well stage) enabled storable
      · intro j d other _ _ early
        cases at_stage : d.stage with
        | look => trivial
        | join => trivial
        | board g => trivial
        | compute g =>
          rw [at_stage] at early
          exact (other (early.trans allowed.1.symm)).elim
        | store g a =>
          rw [at_stage] at early
          exact (other (early.1.trans allowed.1.symm)).elim
        | inspect g | start g | fill g r | leave g r | done r =>
          rw [at_stage] at early
          exact early.elim
      · intro g r owned filled
        rcases filled_before owned filled with ⟨owned, filled⟩ | ⟨-, stage'⟩
        · exact (settled.cells owned filled).elim
        · simp [stage] at stage'
  | fill f r stage =>
    rw [stage] at allowed
    cases p with
    | fresh => exact allowed.elim
    | busy k => exact allowed.elim
    | known a =>
      refine ⟨_, stays (.leave f r) rfl rfl rfl allowed ?_ (by simp)⟩
      intro g s stage'
      cases stage.symm.trans stage'
      exact allowed
  | leave f r stage =>
    rw [stage] at allowed
    cases p with
    | fresh => exact allowed.elim
    | busy k => exact allowed.elim
    | known a => exact ⟨_, stays (.done r) rfl rfl rfl allowed (by simp [stage]) (by simp)⟩

theorem moves {t u : Traffic} {i : Nat} {c : Caller} {owner : List Fingerprint} {directory : String}
    {settling : Fingerprint → Phase} (settled : ∀ fp, Settled directory fp owner t (settling fp))
    (order : Orderly owner t) (enabled : t.cache.directory = some directory)
    (there : t.callers[i]? = some c) (moves : Moves t i c u) (sound : Sound c)
    (well : ∀ {f a}, c.stage = .store f a → t.cache.storesWell a t.files = true)
    (fp : Fingerprint) :
    ∃ q, Settled directory fp (owner ++ t.launched c) u q := by
  by_cases same : c.fingerprint = fp
  · subst same
    exact (settled c.fingerprint).moves_own order enabled there moves sound well
  · exact ⟨_, (settled fp).moves_other order enabled there moves same sound
      (settled c.fingerprint)⟩

end Settled

def stepWorks (t : Traffic) (i : Nat) : Bool :=
  match t.callers[i]?.map Caller.stage with
  | some (.store _ a) => t.cache.storesWell a t.files
  | _ => true

def storageWorks (t : Traffic) : List Nat → Bool
  | [] => true
  | i :: schedule => stepWorks t i && storageWorks (t.advance i) schedule

theorem storageWorks_snoc (t : Traffic) (schedule : List Nat) (i : Nat) :
    storageWorks t (schedule ++ [i]) = (storageWorks t schedule && stepWorks (t.run schedule) i) := by
  induction schedule generalizing t with
  | nil => simp [storageWorks]
  | cons j schedule ih => simp [storageWorks, ih, Bool.and_assoc]

/-- A request that may use what is stored, and whose computation brings an artifact of the
requested fingerprint. -/
structure Request.Sound (r : Request) : Prop where
  plain : r.refresh = false
  digest : (Fingerprint.parse? r.fingerprint.text).isSome = true
  brings : ∃ a, r.outcome = .ok a ∧ a.fingerprint = r.fingerprint ∧ '/' ∉ a.format.toList ∧
    a.createdAt.isValid = true

theorem settled_run {directory : String} {cache : Cache} {files : Files} {requests : List Request}
    (enabled : cache.directory = some directory)
    (empty : ∀ place, steps directory <+: place → files.fileAt place = none)
    (sound : ∀ r ∈ requests, Request.Sound r) {schedule : List Nat}
    (works : storageWorks (ofRequests cache files requests) schedule = true) :
    ∃ owner, Orderly owner ((ofRequests cache files requests).run schedule) ∧
      (∀ {i : Nat} {c : Caller}, ((ofRequests cache files requests).run schedule).callers[i]? =
        some c → Sound c) ∧
      ∀ fp, ∃ p, Settled directory fp owner ((ofRequests cache files requests).run schedule) p := by
  induction schedule using List.reverseRecOn with
  | nil =>
    have request {i : Nat} {c : Caller}
        (there : (ofRequests cache files requests).callers[i]? = some c) :
        ∃ r ∈ requests, r.caller = c :=
      List.mem_map.mp (List.mem_of_getElem? there)
    refine ⟨[], .ofRequests .., fun there => ?_, fun fp => ⟨.fresh, ?_⟩⟩
    · obtain ⟨r, within, rfl⟩ := request there
      obtain ⟨a, outcome, same, format, created⟩ := (sound r within).brings
      refine ⟨(sound r within).plain, a, outcome, same, ?_, format, created⟩
      rw [same]
      exact Fingerprint.isName_of_digest (sound r within).digest
    · refine ⟨rfl, empty _ (by simp [entryPlace]), fun there _ => ?_, by simp, nofun⟩
      obtain ⟨r, -, rfl⟩ := request there
      trivial
  | append_singleton schedule i ih =>
    rw [storageWorks_snoc, Bool.and_eq_true] at works
    obtain ⟨works, step⟩ := works
    obtain ⟨owner, order, sound, settled⟩ := ih works
    choose settling settled using settled
    rw [run_snoc]
    rcases ((ofRequests cache files requests).run schedule).advance_moves i with
      same | ⟨c, there, moves⟩
    · rw [same]
      exact ⟨owner, order, sound, fun fp => ⟨_, settled fp⟩⟩
    · refine ⟨_, order.moves there moves, moves.sound there sound, fun fp => ?_⟩
      have constant := run_cache (ofRequests cache files requests) schedule
      refine Settled.moves settled order (by rwa [constant]) there moves (sound there) ?_ fp
      intro f a stage
      simpa only [stepWorks, there, Option.map_some, stage] using step

/-- Computed once for ever: with storage that works, from an empty cache directory, and with nobody
who forces a refresh or fails, the computations of a fingerprint are executed at most once over a
whole run, exactly once if any of its callers has returned, and all of them return one artifact. -/
theorem run_computes_once {cache : Cache} {files : Files} {requests : List Request}
    {schedule : List Nat} {directory : String} (enabled : cache.directory = some directory)
    (empty : ∀ place, steps directory <+: place → files.fileAt place = none)
    (sound : ∀ r ∈ requests, Request.Sound r)
    (works : storageWorks (ofRequests cache files requests) schedule = true) (fp : Fingerprint) :
    let t := (ofRequests cache files requests).run schedule
    t.computed.count fp ≤ 1 ∧
    (∀ i r, Returns t i fp r → t.computed.count fp = 1 ∧ ∃ a, r = .ok a ∧ a.fingerprint = fp) ∧
    (∀ i j r s, Returns t i fp r → Returns t j fp s → r = s) := by
  intro t
  obtain ⟨owner, order, -, settled⟩ := settled_run enabled empty sound works
  obtain ⟨p, settled⟩ := settled fp
  have known (i : Nat) (r : Result) (returns : Returns t i fp r) : ∃ a, p = .known a ∧ r = .ok a := by
    obtain ⟨c, there, same, done⟩ := returns
    have allowed := settled.callers there same
    rw [done] at allowed
    cases p with
    | fresh => exact allowed.elim
    | busy k => exact allowed.elim
    | known a => exact ⟨a, rfl, allowed⟩
  have counted := settled.counted
  refine ⟨?_, ?_, ?_⟩
  · exact Nat.le_trans (Nat.le_of_eq counted) (by cases p <;> simp [Phase.computations])
  · intro i r returns
    obtain ⟨a, rfl, rfl⟩ := known i r returns
    exact ⟨counted, a, rfl, settled.storage.1⟩
  · intro i j r s returns returns'
    obtain ⟨a, rfl, rfl⟩ := known i r returns
    obtain ⟨b, same, rfl⟩ := known j s returns'
    cases same
    rfl

def sampleRequest : Request :=
  let fp : Fingerprint := ⟨String.ofList (List.replicate 64 'a')⟩
  ⟨fp, false, .ok ⟨fp, "digraph \x7b\x7d", some [1, 2], "svg", ⟨2024, 5, 6, 7, 8, 9, 0⟩⟩⟩

theorem two_compute_once :
    let t := (ofRequests ⟨some "cache"⟩ .empty [sampleRequest, sampleRequest]).run (inTurn 2)
    t.computed.count sampleRequest.fingerprint ≤ 1 ∧
    (∀ i r, Returns t i sampleRequest.fingerprint r →
      t.computed.count sampleRequest.fingerprint = 1 ∧
        ∃ a, r = .ok a ∧ a.fingerprint = sampleRequest.fingerprint) ∧
    (∀ i j r s, Returns t i sampleRequest.fingerprint r →
      Returns t j sampleRequest.fingerprint s → r = s) := by
  apply run_computes_once rfl (fun place _ => fileAt_empty place)
  · intro r within
    have same : r = sampleRequest := by simpa using within
    rw [same]
    exact ⟨rfl, by decide, _, rfl, rfl, by decide, by decide⟩
  · decide +kernel

end CallChart.Flight.Traffic
