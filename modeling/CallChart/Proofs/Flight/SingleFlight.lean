import CallChart.Proofs.Flight.Order
import Mathlib.Data.List.Induction

namespace CallChart.Flight.Traffic

@[simp] theorem run_nil (t : Traffic) : t.run [] = t := rfl

@[simp] theorem run_cons (t : Traffic) (i : Nat) (schedule : List Nat) :
    t.run (i :: schedule) = (t.advance i).run schedule := rfl

theorem run_append (t : Traffic) (before after : List Nat) :
    t.run (before ++ after) = (t.run before).run after :=
  List.foldl_append

theorem run_snoc (t : Traffic) (schedule : List Nat) (i : Nat) :
    t.run (schedule ++ [i]) = (t.run schedule).advance i := by
  rw [run_append]; rfl

theorem run_cache (t : Traffic) (schedule : List Nat) : (t.run schedule).cache = t.cache := by
  induction schedule generalizing t with
  | nil => rfl
  | cons i schedule ih =>
    rw [run_cons, ih]
    rcases t.advance_moves i with same | ⟨c, -, moves⟩
    · rw [same]
    · exact moves.cache

theorem caller_run {i : Nat} {c : Caller} (t : Traffic) (schedule : List Nat)
    (there : (t.run schedule).callers[i]? = some c) :
    ∃ d, t.callers[i]? = some d ∧ c = { d with stage := c.stage } := by
  induction schedule generalizing t with
  | nil => exact ⟨c, there, rfl⟩
  | cons k schedule ih =>
    obtain ⟨d, before, same⟩ := ih (t.advance k) there
    rcases t.advance_moves k with still | ⟨e, theirs, moves⟩
    · exact ⟨d, still ▸ before, same⟩
    · obtain ⟨s, callers⟩ := moves.callers
      rw [callers] at before
      rcases caller_setStage theirs before with ⟨rfl, rfl⟩ | ⟨-, before⟩
      · exact ⟨e, theirs, same⟩
      · exact ⟨d, before, same⟩

theorem Orderly.advance {t : Traffic} {owner : List Fingerprint} (order : Orderly owner t)
    (i : Nat) :
    ∃ owner', Orderly owner' (t.advance i) := by
  rcases t.advance_moves i with same | ⟨c, there, moves⟩
  · exact ⟨owner, by rwa [same]⟩
  · exact ⟨_, order.moves there moves⟩

theorem Orderly.run {t : Traffic} {owner : List Fingerprint} (order : Orderly owner t)
    (schedule : List Nat) :
    ∃ owner', Orderly owner' (t.run schedule) := by
  induction schedule generalizing t owner with
  | nil => exact ⟨owner, order⟩
  | cons i schedule ih =>
    obtain ⟨_, order⟩ := order.advance i
    exact ih order

theorem run_alone (cache : Cache) (files : Files) (fp : Fingerprint) (refresh : Bool)
    (outcome : Result) :
    let t := (begin cache files [.ofRequest fp refresh outcome]).run (List.replicate longestWay 0)
    let o := cache.obtain fp refresh (fun _ => outcome) files
    t.results = [o.result] ∧ t.files = o.files ∧ t.flights = [] ∧
      t.computed = if o.computed then [fp] else [] := by
  intro t o
  cases found : cache.stored? fp refresh files with
  | some a =>
    simp [t, o, results, begin, Caller.ofRequest, Cache.obtain, found, longestWay, List.replicate,
      advance, act, setStage]
  | none =>
    have lacks : refresh = false → cache.load fp files = none := by
      rintro rfl
      simpa [Cache.stored?] using found
    cases refresh <;> cases outcome <;>
      simp_all [t, o, results, begin, Caller.ofRequest, Cache.obtain, Cache.settle, longestWay,
        List.replicate, advance, act, setStage, setCell]

def Computing (t : Traffic) (i : Nat) (fp : Fingerprint) : Prop :=
  ∃ c f, t.callers[i]? = some c ∧ c.fingerprint = fp ∧ c.stage = .compute f

theorem Orderly.open_of_leads {t : Traffic} {i f : Nat} {c : Caller} {owner : List Fingerprint}
    (order : Orderly owner t) (there : t.callers[i]? = some c) (leads : c.stage.leads? = some f) :
    (c.fingerprint, f) ∈ t.flights := by
  have placed := order.placed there
  refine order.opened (placed.aboard (Stage.flight?_of_leads? leads)) fun r filled => ?_
  simp [placed.taken leads] at filled

theorem Orderly.leads_unique {t : Traffic} {i j f : Nat} {c d : Caller} {owner : List Fingerprint}
    (order : Orderly owner t) {g : Nat} (there : t.callers[i]? = some c)
    (there' : t.callers[j]? = some d) (leads : c.stage.leads? = some f)
    (leads' : d.stage.leads? = some g) (same : c.fingerprint = d.fingerprint) : i = j := by
  have mine := order.open_of_leads there leads
  have theirs := order.open_of_leads there' leads'
  rw [← same] at theirs
  exact order.leader there there' leads (order.single theirs mine ▸ leads')

/-- A caller is aboard a flight, or has ended with the result that its cell holds. -/
def Bound (t : Traffic) (i f : Nat) : Prop :=
  ∃ c, t.callers[i]? = some c ∧
    (c.stage.flight? = some f ∨ ∃ r, c.stage = .done r ∧ t.cells[f]? = some (.filled r))

theorem Moves.filled {t u : Traffic} {i f : Nat} {c : Caller} {r : Result}
    {owner : List Fingerprint} (moves : Moves t i c u) (order : Orderly owner t)
    (there : t.callers[i]? = some c) (filled : t.cells[f]? = some (.filled r)) :
    u.cells[f]? = some (.filled r) := by
  cases moves with
  | launch stage unlisted =>
    exact (List.getElem?_append_left (List.getElem?_eq_some_iff.mp filled).1).trans filled
  | lead g stage free =>
    have apart : g ≠ f := by
      rintro rfl
      simp [free] at filled
    simpa [List.getElem?_set_ne apart] using filled
  | fill g s stage =>
    have taken := (order.placed there).taken (f := g) (by simp [stage, Stage.leads?])
    have apart : g ≠ f := by
      rintro rfl
      simp [taken] at filled
    simpa [List.getElem?_set_ne apart] using filled
  | _ => exact filled

theorem Moves.filled_before {t u : Traffic} {i f : Nat} {c : Caller} {r : Result} {fp : Fingerprint}
    {owner : List Fingerprint} (moves : Moves t i c u) (order : Orderly owner t)
    (there : t.callers[i]? = some c) (owned : (owner ++ t.launched c)[f]? = some fp)
    (filled : u.cells[f]? = some (.filled r)) :
    (owner[f]? = some fp ∧ t.cells[f]? = some (.filled r)) ∨
      (c.fingerprint = fp ∧ c.stage = .fill f r) := by
  have known (before : t.cells[f]? = some (.filled r)) : owner[f]? = some fp := by
    have inside := (List.getElem?_eq_some_iff.mp before).1
    rwa [List.getElem?_append_left (order.sized ▸ inside)] at owned
  cases moves with
  | launch stage unlisted =>
    have inside : f < t.cells.length := by
      have bound := (List.getElem?_eq_some_iff.mp filled).1
      simp only [setStage_cells, List.length_append, List.length_singleton] at bound
      by_contra large
      obtain rfl : f = t.cells.length := by omega
      simp at filled
    simp only [setStage_cells, List.getElem?_append_left inside] at filled
    exact .inl ⟨known filled, filled⟩
  | lead g stage free =>
    have apart : g ≠ f := by
      rintro rfl
      simp [(List.getElem?_eq_some_iff.mp free).1] at filled
    have before : t.cells[f]? = some (.filled r) := by
      simpa [List.getElem?_set_ne apart] using filled
    exact .inl ⟨known before, before⟩
  | fill g s stage =>
    by_cases same : g = f
    · subst same
      have aboard := (order.placed there).aboard (f := g) (by simp [stage, Stage.flight?])
      have inside := (List.getElem?_eq_some_iff.mp filled).1
      simp only [setStage_cells, setCell_cells, List.length_set] at inside
      have result : s = r := by simpa [inside] using filled
      rw [List.getElem?_append_left (List.getElem?_eq_some_iff.mp aboard).1, aboard] at owned
      exact .inr ⟨Option.some.inj owned, result ▸ stage⟩
    · have before : t.cells[f]? = some (.filled r) := by
        simpa [List.getElem?_set_ne same] using filled
      exact .inl ⟨known before, before⟩
  | _ => exact .inl ⟨known filled, filled⟩

theorem Moves.others {t u : Traffic} {i j : Nat} {c : Caller} (moves : Moves t i c u)
    (other : j ≠ i) :
    u.callers[j]? = t.callers[j]? := by
  cases moves <;> simp [callers_setStage, other.symm]

theorem Moves.bound_self {t u : Traffic} {i f : Nat} {c : Caller} {owner : List Fingerprint}
    (moves : Moves t i c u) (order : Orderly owner t) (there : t.callers[i]? = some c)
    (aboard : c.stage.flight? = some f) : Bound u i f := by
  cases moves with
  | leave g r stage =>
    have same : g = f := by simpa [stage, Stage.flight?] using aboard
    exact ⟨_, setStage_same there, .inr ⟨r, rfl, same ▸ (order.placed there).leaving stage⟩⟩
  | lead g stage free =>
    refine ⟨_, setStage_same (t := t.setCell g .taken) there, .inl ?_⟩
    have same : g = f := by simpa [stage, Stage.flight?] using aboard
    simp only
    split <;> simp [Stage.flight?, same]
  | fill g r stage =>
    refine ⟨_, setStage_same (t := t.setCell g (.filled r)) there, .inl ?_⟩
    simpa [stage, Stage.flight?] using aboard
  | hit a stage | miss stage | share g stage | launch stage =>
    simp [stage, Stage.flight?] at aboard
  | follow g r stage | find g a stage | lack g stage | start g stage | succeed g a stage
  | fail g e stage | store g a stage =>
    refine ⟨_, setStage_same there, .inl ?_⟩
    simpa [stage, Stage.flight?] using aboard

theorem Bound.moves {t u : Traffic} {i j f : Nat} {c : Caller} {owner : List Fingerprint}
    (bound : Bound t j f) (order : Orderly owner t) (there : t.callers[i]? = some c)
    (moves : Moves t i c u) : Bound u j f := by
  obtain ⟨d, theirs, at_stage⟩ := bound
  by_cases same : j = i
  · subst same
    obtain rfl : c = d := Option.some.inj (there.symm.trans theirs)
    rcases at_stage with aboard | ⟨r, done, -⟩
    · exact moves.bound_self order there aboard
    · cases moves <;> simp_all
  · refine ⟨d, (moves.others same).trans theirs, at_stage.imp_right ?_⟩
    exact fun ⟨r, done, filled⟩ => ⟨r, done, moves.filled order there filled⟩

theorem Bound.run {t : Traffic} {j f : Nat} {owner : List Fingerprint} (bound : Bound t j f)
    (order : Orderly owner t) (schedule : List Nat) :
    Bound (t.run schedule) j f := by
  induction schedule generalizing t owner with
  | nil => exact bound
  | cons i schedule ih =>
    rw [run_cons]
    rcases t.advance_moves i with same | ⟨c, there, moves⟩
    · rw [same]; exact ih bound order
    · exact ih (bound.moves order there moves) (order.moves there moves)

/-- At some moment of a run a caller came aboard a flight. -/
def Boards (t : Traffic) (schedule : List Nat) (i f : Nat) : Prop :=
  ∃ before after c, schedule = before ++ after ∧ (t.run before).callers[i]? = some c ∧
    c.stage = .board f

def Returns (t : Traffic) (i : Nat) (fp : Fingerprint) (r : Result) : Prop :=
  ∃ c, t.callers[i]? = some c ∧ c.fingerprint = fp ∧ c.stage = .done r

theorem Returns.filled {t : Traffic} {i f : Nat} {r : Result} {fp : Fingerprint}
    (returns : Returns t i fp r) (bound : Bound t i f) :
    t.cells[f]? = some (.filled r) := by
  obtain ⟨c, there, -, done⟩ := returns
  obtain ⟨d, theirs, at_stage⟩ := bound
  obtain rfl : c = d := Option.some.inj (there.symm.trans theirs)
  rcases at_stage with aboard | ⟨s, done', filled⟩
  · simp [done, Stage.flight?] at aboard
  · cases done.symm.trans done'
    exact filled

theorem Boards.bound {t : Traffic} {i f : Nat} {owner : List Fingerprint} {schedule : List Nat}
    (order : Orderly owner t) (boards : Boards t schedule i f) : Bound (t.run schedule) i f := by
  obtain ⟨before, after, c, rfl, there, stage⟩ := boards
  obtain ⟨_, order⟩ := order.run before
  rw [run_append]
  exact Bound.run ⟨c, there, .inl (by simp [stage, Stage.flight?])⟩ order after

/-- The next step of a caller takes a stored artifact for its result. -/
def Reads (t : Traffic) (i : Nat) (fp : Fingerprint) (r : Result) : Prop :=
  ∃ c a, t.callers[i]? = some c ∧ c.fingerprint = fp ∧ r = .ok a ∧
    (c.stage = .look ∧ c.refresh = false ∨ ∃ f, c.stage = .inspect f) ∧
    t.cache.load fp t.files = some a

/-- The next step of a caller ends its computation with a result. -/
def Computes (t : Traffic) (i : Nat) (fp : Fingerprint) (r : Result) : Prop :=
  ∃ c f, t.callers[i]? = some c ∧ c.fingerprint = fp ∧ c.stage = .compute f ∧ c.outcome = r

/-- At some step of a run a result for a fingerprint was read or computed. -/
def Yields (t : Traffic) (schedule : List Nat) (fp : Fingerprint) (r : Result) : Prop :=
  ∃ before i after, schedule = before ++ i :: after ∧
    (Reads (t.run before) i fp r ∨ Computes (t.run before) i fp r)

/-- Every result in sight, with a caller or in a cell, is one of those in `P`. -/
structure Sourced (P : Fingerprint → Result → Prop) (owner : List Fingerprint) (t : Traffic) :
    Prop where
  held {i : Nat} {c : Caller} {r : Result} : t.callers[i]? = some c → c.stage.result? = some r →
    P c.fingerprint r
  filled {f : Nat} {fp : Fingerprint} {r : Result} : owner[f]? = some fp →
    t.cells[f]? = some (.filled r) → P fp r

namespace Sourced

theorem weaken {t : Traffic} {owner : List Fingerprint} {P Q : Fingerprint → Result → Prop}
    (sourced : Sourced P owner t) (weaker : ∀ {fp r}, P fp r → Q fp r) :
    Sourced Q owner t :=
  ⟨fun there held => weaker (sourced.held there held),
    fun owned filled => weaker (sourced.filled owned filled)⟩

theorem of_change {t u : Traffic} {i : Nat} {c : Caller} {owner : List Fingerprint}
    {P : Fingerprint → Result → Prop} (sourced : Sourced P owner t) (there : t.callers[i]? = some c)
    {s : Stage} {owner' : List Fingerprint} (callers : u.callers = (t.setStage i s).callers)
    (self : ∀ r, s.result? = some r → P c.fingerprint r)
    (filled : ∀ {f : Nat} {fp : Fingerprint} {r : Result}, owner'[f]? = some fp →
      u.cells[f]? = some (.filled r) → P fp r) : Sourced P owner' u where
  held := by
    intro j d r after held
    rw [callers] at after
    rcases caller_setStage there after with ⟨rfl, rfl⟩ | ⟨-, before⟩
    · exact self r held
    · exact sourced.held before held
  filled := filled

theorem moves {t u : Traffic} {i : Nat} {c : Caller} {owner : List Fingerprint}
    {P : Fingerprint → Result → Prop} (sourced : Sourced P owner t) (order : Orderly owner t)
    (there : t.callers[i]? = some c) (moves : Moves t i c u)
    (reads : ∀ {r}, Reads t i c.fingerprint r → P c.fingerprint r)
    (computes : ∀ {r}, Computes t i c.fingerprint r → P c.fingerprint r) :
    Sourced P (owner ++ t.launched c) u := by
  have filled {f : Nat} {fp : Fingerprint} {r : Result}
      (owned : (owner ++ t.launched c)[f]? = some fp) (filled : u.cells[f]? = some (.filled r)) :
      P fp r := by
    rcases moves.filled_before order there owned filled with ⟨owned, filled⟩ | ⟨rfl, stage⟩
    · exact sourced.filled owned filled
    · exact sourced.held there (by simp [stage, Stage.result?])
  cases moves with
  | hit a stage stored =>
    refine sourced.of_change there rfl (fun r result => ?_) filled
    cases result
    have plain : c.refresh = false := by
      cases refresh : c.refresh
      · rfl
      · simp [Cache.stored?, refresh] at stored
    exact reads ⟨c, a, there, rfl, rfl, .inl ⟨stage, plain⟩,
      by simpa [Cache.stored?, plain] using stored⟩
  | find f a stage stored =>
    refine sourced.of_change there rfl (fun r result => ?_) filled
    cases result
    exact reads ⟨c, a, there, rfl, rfl, .inr ⟨f, stage⟩, stored⟩
  | succeed f a stage outcome =>
    refine sourced.of_change there rfl (fun r result => ?_) filled
    cases result
    exact computes ⟨c, f, there, rfl, stage, outcome⟩
  | fail f e stage outcome =>
    refine sourced.of_change there rfl (fun r result => ?_) filled
    cases result
    exact computes ⟨c, f, there, rfl, stage, outcome⟩
  | lead f stage free =>
    refine sourced.of_change there (by rfl) (fun r result => ?_) filled
    split at result <;> cases result
  | follow f r stage content =>
    refine sourced.of_change there rfl (fun s result => ?_) filled
    cases result
    exact sourced.filled ((order.placed there).aboard (by simp [stage, Stage.flight?])) content
  | miss stage | share f stage | lack f stage | start f stage =>
    exact sourced.of_change there rfl (by simp [Stage.result?]) filled
  | launch stage unlisted =>
    exact sourced.of_change there (s := .board t.cells.length) (by rfl) (by simp [Stage.result?])
      filled
  | store f a stage | fill f r stage | leave f r stage =>
    refine sourced.of_change there (by rfl) (fun s result => ?_) filled
    exact sourced.held there (by simpa [stage, Stage.result?] using result)

end Sourced

theorem Sourced.ofRequests (cache : Cache) (files : Files) (requests : List Request)
    (P : Fingerprint → Result → Prop) : Sourced P [] (ofRequests cache files requests) where
  held := by
    intro i c r there held
    obtain ⟨q, -, rfl⟩ := List.mem_map.mp (List.mem_of_getElem? there)
    simp [Request.caller, Caller.ofRequest, Stage.result?] at held
  filled := by simp

theorem Yields.snoc {t : Traffic} {r : Result} {fp : Fingerprint} {schedule : List Nat}
    (yields : Yields t schedule fp r) (i : Nat) :
    Yields t (schedule ++ [i]) fp r := by
  obtain ⟨before, j, after, rfl, source⟩ := yields
  exact ⟨before, j, after ++ [i], by simp, source⟩

theorem sourced_run (cache : Cache) (files : Files) (requests : List Request)
    (schedule : List Nat) : ∃ owner, Orderly owner ((ofRequests cache files requests).run schedule) ∧
      Sourced (Yields (ofRequests cache files requests) schedule) owner
        ((ofRequests cache files requests).run schedule) := by
  induction schedule using List.reverseRecOn with
  | nil => exact ⟨[], .ofRequests .., .ofRequests ..⟩
  | append_singleton schedule i ih =>
    obtain ⟨owner, order, sourced⟩ := ih
    have sourced := sourced.weaken fun yields => yields.snoc i
    rw [run_snoc]
    rcases ((ofRequests cache files requests).run schedule).advance_moves i with
      same | ⟨c, there, moves⟩
    · exact ⟨owner, by rwa [same], by rwa [same]⟩
    · exact ⟨_, order.moves there moves, sourced.moves order there moves
        (fun reads => ⟨schedule, i, [], rfl, .inl reads⟩)
        (fun computes => ⟨schedule, i, [], rfl, .inr computes⟩)⟩

/-- Single flight: for every run of any calls on any storage, at most one computation of a
fingerprint runs at a time, all who boarded one flight get one result, each result was read from
storage or computed for its fingerprint, and no flight is open when no call is in progress. -/
theorem run_single_flight (cache : Cache) (files : Files) (requests : List Request)
    (schedule : List Nat) :
    let t := ofRequests cache files requests
    (∀ i j fp, Computing (t.run schedule) i fp → Computing (t.run schedule) j fp → i = j) ∧
    (∀ i j f fp gp r s, Boards t schedule i f → Boards t schedule j f →
      Returns (t.run schedule) i fp r → Returns (t.run schedule) j gp s → r = s) ∧
    (∀ i fp r, Returns (t.run schedule) i fp r → Yields t schedule fp r) ∧
    ((∀ c ∈ (t.run schedule).callers, ¬ c.stage.InProgress) → (t.run schedule).flights = []) := by
  intro t
  obtain ⟨owner, order, sourced⟩ := sourced_run cache files requests schedule
  refine ⟨?_, ?_, ?_, ?_⟩
  · rintro i j fp ⟨c, f, there, same, stage⟩ ⟨d, g, there', same', stage'⟩
    exact order.leads_unique there there' (f := f) (g := g) (by simp [stage, Stage.leads?])
      (by simp [stage', Stage.leads?]) (same.trans same'.symm)
  · intro i j f fp gp r s boards boards' returns returns'
    have started := Orderly.ofRequests cache files requests
    have filled := returns.filled (boards.bound started)
    have filled' := returns'.filled (boards'.bound started)
    simpa [filled] using filled'
  · rintro i fp r ⟨c, there, same, done⟩
    exact same ▸ sourced.held there (by simp [done, Stage.result?])
  · intro idle
    by_contra busy
    obtain ⟨⟨fp, f⟩, listed⟩ := List.exists_mem_of_ne_nil _ busy
    obtain ⟨i, c, there, aboard⟩ := order.manned listed
    exact idle c (List.mem_of_getElem? there) (Stage.inProgress_of_flight? aboard)

end CallChart.Flight.Traffic
