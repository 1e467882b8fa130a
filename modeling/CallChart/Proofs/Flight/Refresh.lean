import CallChart.Proofs.Cache.Store
import CallChart.Proofs.Flight.SingleFlight

namespace CallChart

theorem Cache.stored?_exempt {c : Cache} {fp : Fingerprint} {refresh : Bool} {fs : Files}
    (exempt : refresh = true ∨ c.directory = none) : c.stored? fp refresh fs = none := by
  rcases exempt with rfl | disabled
  · rfl
  · simp [stored?, load_disabled disabled]

namespace Flight

def Stage.brought? : Stage → Option (Nat × Result)
  | .store f a => some (f, .ok a)
  | .fill f r => some (f, r)
  | _ => none

namespace Traffic

/-- The next step of a caller brings a result, computed or read, to the flight that it is aboard. -/
def Source (t : Traffic) (i f : Nat) (fp : Fingerprint) (r : Result) : Prop :=
  ∃ c, t.callers[i]? = some c ∧ c.stage.flight? = some f ∧ (Computes t i fp r ∨ Reads t i fp r)

/-- At some step of a run a caller brought a result to a flight. -/
def Brings (t : Traffic) (schedule : List Nat) (i f : Nat) (fp : Fingerprint) (r : Result) : Prop :=
  ∃ before after, schedule = before ++ i :: after ∧ Source (t.run before) i f fp r

/-- At some moment of a run two callers were both in progress. -/
def Together (t : Traffic) (schedule : List Nat) (i j : Nat) : Prop :=
  ∃ before after c d, schedule = before ++ after ∧ (t.run before).callers[i]? = some c ∧
    (t.run before).callers[j]? = some d ∧ c.stage.InProgress ∧ d.stage.InProgress

theorem Source.aboard {t : Traffic} {i f : Nat} {c : Caller} {r : Result} {fp : Fingerprint}
    (source : Source t i f fp r) (there : t.callers[i]? = some c) :
    c.stage.flight? = some f ∧ c.fingerprint = fp := by
  obtain ⟨d, theirs, aboard, yields⟩ := source
  obtain rfl : c = d := Option.some.inj (there.symm.trans theirs)
  refine ⟨aboard, ?_⟩
  rcases yields with ⟨e, _, theirs', same, -⟩ | ⟨e, _, theirs', same, -⟩ <;>
    rwa [Option.some.inj (there.symm.trans theirs')]

theorem Brings.snoc {t : Traffic} {schedule : List Nat} {i f : Nat} {r : Result} {fp : Fingerprint}
    (brings : Brings t schedule i f fp r) (k : Nat) :
    Brings t (schedule ++ [k]) i f fp r := by
  obtain ⟨before, after, rfl, source⟩ := brings
  exact ⟨before, after ++ [k], by simp, source⟩

theorem Brings.of_snoc {t : Traffic} {schedule : List Nat} {i k f : Nat} {r : Result}
    {fp : Fingerprint} (brings : Brings t (schedule ++ [k]) i f fp r) :
    Brings t schedule i f fp r ∨ (i = k ∧ Source (t.run schedule) i f fp r) := by
  obtain ⟨before, after, whole, source⟩ := brings
  rcases List.eq_nil_or_concat after with rfl | ⟨rest, last, rfl⟩
  · obtain ⟨rfl, same⟩ := List.append_inj' whole rfl
    cases same
    exact .inr ⟨rfl, source⟩
  · have longer : schedule ++ [k] = (before ++ i :: rest) ++ [last] := by simpa using whole
    obtain ⟨rfl, -⟩ := List.append_inj' longer rfl
    exact .inl ⟨before, rest, rfl, source⟩

theorem Together.snoc {t : Traffic} {schedule : List Nat} {i j : Nat}
    (together : Together t schedule i j) (k : Nat) :
    Together t (schedule ++ [k]) i j := by
  obtain ⟨before, after, c, d, rfl, both⟩ := together
  exact ⟨before, after ++ [k], c, d, by simp, both⟩

theorem Together.now {t : Traffic} {schedule : List Nat} {i j f : Nat} {c d : Caller}
    (there : (t.run schedule).callers[i]? = some c) (there' : (t.run schedule).callers[j]? = some d)
    {g : Nat} (aboard : c.stage.flight? = some f) (aboard' : d.stage.flight? = some g) :
    Together t schedule i j :=
  ⟨schedule, [], c, d, by simp, there, there', Stage.inProgress_of_flight? aboard,
    Stage.inProgress_of_flight? aboard'⟩

theorem Moves.flights {t u : Traffic} {i f : Nat} {c : Caller} {fp : Fingerprint}
    (moves : Moves t i c u) (listed : (fp, f) ∈ u.flights) :
    (fp, f) ∈ t.flights ∨ f = t.cells.length := by
  cases moves with
  | launch stage unlisted =>
    rcases List.mem_cons.mp listed with new | listed
    · cases new
      exact .inr rfl
    · exact .inl listed
  | leave g r stage => exact .inl (List.mem_filter.mp listed).1
  | _ => exact .inl listed

/-- What is so of the stage that a caller comes to. -/
structure Next (t u : Traffic) (i : Nat) (c : Caller) (s : Stage) : Prop where
  boards {f : Nat} : s.flight? = some f →
    c.stage.flight? = some f ∨ (c.fingerprint, f) ∈ t.flights ∨ f = t.cells.length
  stays {f : Nat} : c.stage.flight? = some f → (c.fingerprint, f) ∈ u.flights →
    s.flight? = some f
  brings {f : Nat} {r : Result} : s.brought? = some (f, r) →
    c.stage.brought? = some (f, r) ∨ Source t i f c.fingerprint r
  ends {r : Result} : s = .done r →
    (∃ f, c.stage = .leave f r) ∨ ∃ a, t.cache.stored? c.fingerprint c.refresh t.files = some a
  inspects {f : Nat} : s = .inspect f → c.refresh = false

theorem Moves.next {t u : Traffic} {i : Nat} {c : Caller} (moves : Moves t i c u)
    (there : t.callers[i]? = some c) :
    ∃ s, u.callers[i]? = some { c with stage := s } ∧ Next t u i c s := by
  have computed {g : Nat} {r : Result} (stage : c.stage = .compute g) (outcome : c.outcome = r) :
      Source t i g c.fingerprint r :=
    ⟨c, there, by simp [stage, Stage.flight?], .inl ⟨c, g, there, rfl, stage, outcome⟩⟩
  cases moves with
  | hit a stage stored =>
    refine ⟨_, setStage_same there, ?_⟩
    constructor <;> simp [stage, Stage.flight?, Stage.brought?, stored]
  | share g stage listed =>
    refine ⟨_, setStage_same there, ?_⟩
    constructor <;> simp [stage, Stage.flight?, Stage.brought?]
    exact .inl (mem_of_lookup listed)
  | lead g stage free =>
    refine ⟨_, setStage_same (t := t.setCell g .taken) there, ?_⟩
    cases refresh : c.refresh <;>
      constructor <;> simp [stage, Stage.flight?, Stage.brought?, refresh]
  | find g a stage stored =>
    refine ⟨_, setStage_same there, ?_⟩
    constructor <;> simp [stage, Stage.flight?, Stage.brought?]
    exact ⟨c, there, by simp [stage, Stage.flight?],
      .inr ⟨c, a, there, rfl, rfl, .inr ⟨g, stage⟩, stored⟩⟩
  | succeed g a stage outcome | fail g e stage outcome =>
    refine ⟨_, setStage_same there, ?_⟩
    constructor <;> simp [stage, Stage.flight?, Stage.brought?]
    exact computed stage outcome
  | miss stage absent | launch stage unlisted | follow g r stage filled | lack g stage absent
  | start g stage | store g a stage | fill g r stage | leave g r stage =>
    refine ⟨_, setStage_same (by exact there), ?_⟩
    constructor <;> simp [stage, Stage.flight?, Stage.brought?]

theorem Moves.caller {t u : Traffic} {i j : Nat} {c d : Caller} (moves : Moves t i c u)
    (there : t.callers[i]? = some c) (theirs : u.callers[j]? = some d) :
    (j = i ∧ ∃ s, d = { c with stage := s } ∧ Next t u i c s) ∨
      (j ≠ i ∧ t.callers[j]? = some d) := by
  by_cases mover : j = i
  · subst mover
    obtain ⟨s, arrived, next⟩ := moves.next there
    exact .inl ⟨rfl, s, Option.some.inj (theirs.symm.trans arrived), next⟩
  · exact .inr ⟨mover, (moves.others mover).symm.trans theirs⟩

theorem Moves.aboard {t u : Traffic} {i f : Nat} {c : Caller} {fp : Fingerprint}
    {owner : List Fingerprint} (moves : Moves t i c u) (order : Orderly owner t)
    (there : t.callers[i]? = some c) (aboard : c.stage.flight? = some f)
    (listed : (fp, f) ∈ u.flights) :
    ∃ d, u.callers[i]? = some d ∧ d.stage.flight? = some f := by
  obtain ⟨s, arrived, next⟩ := moves.next there
  have owned := (order.placed there).aboard aboard
  have same : fp = c.fingerprint := by
    have named := (order.moves there moves).listed listed
    rw [List.getElem?_append_left (List.getElem?_eq_some_iff.mp owned).1, owned] at named
    exact (Option.some.inj named).symm
  exact ⟨_, arrived, next.stays aboard (same ▸ listed)⟩

theorem advance_ne_of_source {t : Traffic} {i f : Nat} {r : Result} {fp : Fingerprint}
    (source : Source t i f fp r) : t.advance i ≠ t := by
  intro same
  obtain ⟨c, there, aboard, yields⟩ := source
  have after : (t.advance i).callers[i]? = some c := by rw [same, there]
  rcases yields with ⟨d, g, theirs, -, stage, -⟩ | ⟨d, a, theirs, rfl, -, stage, stored⟩
  · obtain rfl : c = d := Option.some.inj (there.symm.trans theirs)
    cases outcome : c.outcome <;>
      simp only [advance, there, act, stage, outcome, setStage_same there] at after <;>
      cases (congrArg Caller.stage (Option.some.inj after)).trans stage
  · obtain rfl : c = d := Option.some.inj (there.symm.trans theirs)
    rcases stage with ⟨looks, -⟩ | ⟨g, stage⟩
    · simp [looks, Stage.flight?] at aboard
    · simp only [advance, there, act, stage, stored, setStage_same there] at after
      cases (congrArg Caller.stage (Option.some.inj after)).trans stage

/-- What is so after a run of the results that were brought and of those who get them. -/
structure Traced (t : Traffic) (owner : List Fingerprint) (schedule : List Nat) : Prop where
  owned {j f : Nat} {fp : Fingerprint} {r : Result} : Brings t schedule j f fp r →
    owner[f]? = some fp
  present {j f : Nat} {fp : Fingerprint} {r : Result} : Brings t schedule j f fp r →
    (fp, f) ∈ (t.run schedule).flights →
    ∃ d, (t.run schedule).callers[j]? = some d ∧ d.stage.flight? = some f
  met {i j f : Nat} {c : Caller} {fp : Fingerprint} {r : Result} :
    (t.run schedule).callers[i]? = some c → c.stage.flight? = some f →
    Brings t schedule j f fp r → Together t schedule i j
  leading {i f : Nat} {c : Caller} {r : Result} : (t.run schedule).callers[i]? = some c →
    c.stage.brought? = some (f, r) → Brings t schedule i f c.fingerprint r
  filled {f : Nat} {fp : Fingerprint} {r : Result} : owner[f]? = some fp →
    (t.run schedule).cells[f]? = some (.filled r) → ∃ j, Brings t schedule j f fp r
  plain {i f : Nat} {c : Caller} : (t.run schedule).callers[i]? = some c →
    c.stage = .inspect f → c.refresh = false
  ended {i : Nat} {c : Caller} {r : Result} : (t.run schedule).callers[i]? = some c →
    c.stage = .done r → c.refresh = true ∨ t.cache.directory = none →
    ∃ j f, Brings t schedule j f c.fingerprint r ∧ Together t schedule i j

namespace Traced

theorem nil (cache : Cache) (files : Files) (requests : List Request) :
    Traced (ofRequests cache files requests) [] [] := by
  have none {j f : Nat} {fp : Fingerprint} {r : Result} :
      ¬ Brings (ofRequests cache files requests) [] j f fp r := by
    rintro ⟨before, after, whole, -⟩
    simp at whole
  have looks {i : Nat} {c : Caller}
      (there : (ofRequests cache files requests).callers[i]? = some c) : c.stage = .look := by
    obtain ⟨q, -, rfl⟩ := List.mem_map.mp (List.mem_of_getElem? there)
    rfl
  refine ⟨fun brings => (none brings).elim, fun brings => (none brings).elim,
    fun _ _ brings => (none brings).elim, ?_, by simp, ?_, ?_⟩
  · intro i f c r there carries
    simp [looks there, Stage.brought?] at carries
  · intro i f c there inspects
    simp [looks there] at inspects
  · intro i c r there done
    simp [looks there] at done

theorem same {t : Traffic} {schedule : List Nat} {k : Nat} {owner : List Fingerprint}
    (traced : Traced t owner schedule) (still : (t.run schedule).advance k = t.run schedule) :
    Traced t owner (schedule ++ [k]) := by
  have before {j f : Nat} {fp : Fingerprint} {r : Result}
      (brings : Brings t (schedule ++ [k]) j f fp r) : Brings t schedule j f fp r := by
    rcases brings.of_snoc with before | ⟨rfl, source⟩
    · exact before
    · exact absurd still (advance_ne_of_source source)
  have end_same : t.run (schedule ++ [k]) = t.run schedule := by rw [run_snoc, still]
  constructor <;> try rw [end_same]
  · exact fun brings => traced.owned (before brings)
  · exact fun brings => traced.present (before brings)
  · exact fun there aboard brings => (traced.met there aboard (before brings)).snoc k
  · exact fun there carries => (traced.leading there carries).snoc k
  · exact fun owned filled => (traced.filled owned filled).imp fun _ brings => brings.snoc k
  · exact traced.plain
  · intro i c r there done exempt
    obtain ⟨j, f, brings, together⟩ := traced.ended there done exempt
    exact ⟨j, f, brings.snoc k, together.snoc k⟩

theorem present_moves {t : Traffic} {schedule : List Nat} {j k f : Nat} {c : Caller} {r : Result}
    {fp : Fingerprint} {owner : List Fingerprint} (traced : Traced t owner schedule)
    (order : Orderly owner (t.run schedule)) (there : (t.run schedule).callers[k]? = some c)
    (moves : Moves (t.run schedule) k c (t.run (schedule ++ [k])))
    (brings : Brings t (schedule ++ [k]) j f fp r)
    (listed : (fp, f) ∈ (t.run (schedule ++ [k])).flights) :
    ∃ d, (t.run (schedule ++ [k])).callers[j]? = some d ∧ d.stage.flight? = some f := by
  rcases brings.of_snoc with before | ⟨rfl, source⟩
  · have inside := (List.getElem?_eq_some_iff.mp (traced.owned before)).1
    have listed' : (fp, f) ∈ (t.run schedule).flights :=
      (moves.flights listed).resolve_right (by have := order.sized; omega)
    obtain ⟨d, theirs, aboard⟩ := traced.present before listed'
    by_cases same : j = k
    · subst same
      obtain rfl : c = d := Option.some.inj (there.symm.trans theirs)
      exact moves.aboard order there aboard listed
    · exact ⟨d, (moves.others same).trans theirs, aboard⟩
  · exact moves.aboard order there (source.aboard there).1 listed

theorem met_moves {t : Traffic} {schedule : List Nat} {i j k f : Nat} {c d : Caller} {r : Result}
    {fp : Fingerprint} {owner : List Fingerprint} (traced : Traced t owner schedule)
    (order : Orderly owner (t.run schedule)) (there : (t.run schedule).callers[k]? = some c)
    (moves : Moves (t.run schedule) k c (t.run (schedule ++ [k])))
    (theirs : (t.run (schedule ++ [k])).callers[i]? = some d) (aboard : d.stage.flight? = some f)
    (brings : Brings t (schedule ++ [k]) j f fp r) :
    Together t (schedule ++ [k]) i j := by
  rcases moves.caller there theirs with ⟨rfl, s, rfl, next⟩ | ⟨-, unmoved⟩
  · rcases brings.of_snoc with before | ⟨rfl, -⟩
    · have owned := traced.owned before
      rcases next.boards aboard with already | listed | new
      · exact (traced.met there already before).snoc i
      · have same : c.fingerprint = fp :=
          Option.some.inj ((order.listed listed).symm.trans owned)
        obtain ⟨e, unmoved, aboard'⟩ := traced.present before (same ▸ listed)
        by_cases self : j = i
        · subst self
          exact .now theirs theirs aboard aboard
        · exact .now theirs ((moves.others self).trans unmoved) aboard aboard'
      · have inside := (List.getElem?_eq_some_iff.mp owned).1
        have := order.sized
        omega
    · exact .now theirs theirs aboard aboard
  · rcases brings.of_snoc with before | ⟨rfl, source⟩
    · exact (traced.met unmoved aboard before).snoc k
    · have both : Together t schedule i j := .now unmoved there aboard (source.aboard there).1
      exact both.snoc j

theorem leading_moves {t : Traffic} {schedule : List Nat} {i k f : Nat} {c d : Caller} {r : Result}
    {owner : List Fingerprint} (traced : Traced t owner schedule)
    (there : (t.run schedule).callers[k]? = some c)
    (moves : Moves (t.run schedule) k c (t.run (schedule ++ [k])))
    (theirs : (t.run (schedule ++ [k])).callers[i]? = some d)
    (carries : d.stage.brought? = some (f, r)) :
    Brings t (schedule ++ [k]) i f d.fingerprint r := by
  rcases moves.caller there theirs with ⟨rfl, s, rfl, next⟩ | ⟨-, unmoved⟩
  · rcases next.brings carries with already | source
    · exact (traced.leading there already).snoc i
    · exact ⟨schedule, [], rfl, source⟩
  · exact (traced.leading unmoved carries).snoc k

theorem filled_moves {t : Traffic} {schedule : List Nat} {k f : Nat} {c : Caller} {r : Result}
    {fp : Fingerprint} {owner : List Fingerprint} (traced : Traced t owner schedule)
    (order : Orderly owner (t.run schedule)) (there : (t.run schedule).callers[k]? = some c)
    (moves : Moves (t.run schedule) k c (t.run (schedule ++ [k])))
    (owned : (owner ++ (t.run schedule).launched c)[f]? = some fp)
    (filled : (t.run (schedule ++ [k])).cells[f]? = some (.filled r)) :
    ∃ j, Brings t (schedule ++ [k]) j f fp r := by
  rcases moves.filled_before order there owned filled with ⟨known, before⟩ | ⟨rfl, stage⟩
  · obtain ⟨j, brings⟩ := traced.filled known before
    exact ⟨j, brings.snoc k⟩
  · exact ⟨k, (traced.leading there (by simp [stage, Stage.brought?])).snoc k⟩

theorem ended_moves {t : Traffic} {schedule : List Nat} {i k : Nat} {c d : Caller} {r : Result}
    {owner : List Fingerprint} (traced : Traced t owner schedule)
    (order : Orderly owner (t.run schedule)) (there : (t.run schedule).callers[k]? = some c)
    (moves : Moves (t.run schedule) k c (t.run (schedule ++ [k])))
    (theirs : (t.run (schedule ++ [k])).callers[i]? = some d) (done : d.stage = .done r)
    (exempt : d.refresh = true ∨ t.cache.directory = none) :
    ∃ j f, Brings t (schedule ++ [k]) j f d.fingerprint r ∧ Together t (schedule ++ [k]) i j := by
  rcases moves.caller there theirs with ⟨rfl, s, rfl, next⟩ | ⟨-, unmoved⟩
  · rcases next.ends done with ⟨f, leaves⟩ | ⟨a, stored⟩
    · have aboard : c.stage.flight? = some f := by simp [leaves, Stage.flight?]
      obtain ⟨j, brings⟩ :=
        traced.filled ((order.placed there).aboard aboard) ((order.placed there).leaving leaves)
      exact ⟨j, f, brings.snoc i, (traced.met there aboard brings).snoc i⟩
    · simp [run_cache, Cache.stored?_exempt exempt] at stored
  · obtain ⟨j, f, brings, together⟩ := traced.ended unmoved done exempt
    exact ⟨j, f, brings.snoc k, together.snoc k⟩

theorem moves {t : Traffic} {schedule : List Nat} {k : Nat} {c : Caller} {owner : List Fingerprint}
    (traced : Traced t owner schedule) (order : Orderly owner (t.run schedule))
    (there : (t.run schedule).callers[k]? = some c)
    (moves : Moves (t.run schedule) k c (t.run (schedule ++ [k]))) :
    Traced t (owner ++ (t.run schedule).launched c) (schedule ++ [k]) where
  owned := by
    intro j f fp r brings
    have known : owner[f]? = some fp := by
      rcases brings.of_snoc with before | ⟨rfl, source⟩
      · exact traced.owned before
      · obtain ⟨aboard, rfl⟩ := source.aboard there
        exact (order.placed there).aboard aboard
    rwa [List.getElem?_append_left (List.getElem?_eq_some_iff.mp known).1]
  present := traced.present_moves order there moves
  met := traced.met_moves order there moves
  leading := traced.leading_moves there moves
  filled := traced.filled_moves order there moves
  plain := by
    intro i f d theirs inspects
    rcases moves.caller there theirs with ⟨rfl, s, rfl, next⟩ | ⟨-, unmoved⟩
    · exact next.inspects inspects
    · exact traced.plain unmoved inspects
  ended := traced.ended_moves order there moves

end Traced

theorem traced_run (cache : Cache) (files : Files) (requests : List Request)
    (schedule : List Nat) :
    ∃ owner, Orderly owner ((ofRequests cache files requests).run schedule) ∧
      Traced (ofRequests cache files requests) owner schedule := by
  induction schedule using List.reverseRecOn with
  | nil => exact ⟨[], .ofRequests .., .nil ..⟩
  | append_singleton schedule k ih =>
    obtain ⟨owner, order, traced⟩ := ih
    have last := run_snoc (ofRequests cache files requests) schedule k
    rcases ((ofRequests cache files requests).run schedule).advance_moves k with
      still | ⟨c, there, moves⟩
    · exact ⟨owner, by rwa [last, still], traced.same still⟩
    · rw [← last] at moves
      exact ⟨_, order.moves there moves, traced.moves order there moves⟩

/-- A call that forces a refresh, or that there is no storage for, gets a result of its fingerprint
that was brought while it was in progress, or by a call that was then in progress too. If another
call led the flight and there is storage, that may be a stored artifact; else it was computed. -/
theorem run_refresh_overlaps (cache : Cache) (files : Files) (requests : List Request)
    (schedule : List Nat) :
    let t := ofRequests cache files requests
    ∀ i q r, requests[i]? = some q → q.refresh = true ∨ cache.directory = none →
      Returns (t.run schedule) i q.fingerprint r →
      ∃ before j after, schedule = before ++ j :: after ∧ Together t schedule i j ∧
        (Computes (t.run before) j q.fingerprint r ∨
          cache.directory ≠ none ∧ j ≠ i ∧ Reads (t.run before) j q.fingerprint r) := by
  intro t i q r asked exempt returns
  obtain ⟨owner, order, traced⟩ := traced_run cache files requests schedule
  obtain ⟨c, there, named, done⟩ := returns
  have keeps {schedule : List Nat} {c : Caller} (there : (t.run schedule).callers[i]? = some c) :
      c.refresh = q.refresh := by
    obtain ⟨d, first, same⟩ := caller_run t schedule there
    have request : t.callers[i]? = some q.caller := by
      simp [t, ofRequests, begin, asked]
    rw [same, Option.some.inj (first.symm.trans request)]
    rfl
  obtain ⟨j, f, ⟨before, after, whole, source⟩, together⟩ :=
    traced.ended there done (keeps there ▸ exempt)
  rw [named] at source
  refine ⟨before, j, after, whole, together, ?_⟩
  obtain ⟨d, theirs, aboard, computes | reads⟩ := source
  · exact .inl computes
  · obtain ⟨e, a, theirs', -, -, stage, stored⟩ := id reads
    obtain rfl : d = e := Option.some.inj (theirs.symm.trans theirs')
    have enabled : cache.directory ≠ none := by
      intro disabled
      have absent : cache.load q.fingerprint (t.run before).files = none :=
        Cache.load_disabled disabled
      rw [run_cache] at stored
      cases absent.symm.trans stored
    refine .inr ⟨enabled, ?_, reads⟩
    rintro rfl
    have forced : d.refresh = true := keeps theirs ▸ exempt.resolve_right enabled
    have plain : d.refresh = false := by
      rcases stage with ⟨-, plain⟩ | ⟨g, stage⟩
      · exact plain
      · obtain ⟨_, -, traced⟩ := traced_run cache files requests before
        exact traced.plain theirs stage
    simp [plain] at forced

/-- A result comes from a computation that ended while this call was in progress. -/
def Fresh (t : Traffic) (schedule : List Nat) (i : Nat) (fp : Fingerprint) (r : Result) : Prop :=
  ∃ before j after c, schedule = before ++ j :: after ∧ Computes (t.run before) j fp r ∧
    (t.run before).callers[i]? = some c ∧ c.stage.InProgress

def ongoing : Stage → Bool
  | .look | .done _ => false
  | _ => true

def computing : Stage → Bool
  | .compute _ => true
  | _ => false

def seesEnding (t : Traffic) (i : Nat) : List Nat → Bool
  | [] => false
  | j :: schedule =>
    (t.callers[i]?.any fun c => ongoing c.stage) &&
        (t.callers[j]?.any fun c => computing c.stage) ||
      (t.advance j).seesEnding i schedule

theorem Fresh.seesEnding {t : Traffic} {schedule : List Nat} {i : Nat} {r : Result}
    {fp : Fingerprint} (fresh : Fresh t schedule i fp r) : t.seesEnding i schedule = true := by
  obtain ⟨before, j, after, c, rfl, ⟨d, f, theirs, -, stage, -⟩, there, progress⟩ := fresh
  induction before generalizing t with
  | nil =>
    have going : ongoing c.stage = true := by
      cases at_stage : c.stage <;> simp_all [ongoing, Stage.InProgress]
    simp only [run_nil] at there theirs
    simp [Traffic.seesEnding, there, theirs, going, stage, computing]
  | cons k before ih => simp [Traffic.seesEnding, ih theirs there]

/-- The first caller looks and finds nothing, the second computes and stores its artifact, and the
third, a refresh, joins the flight in which the first looks again. -/
def behindReader : List Nat :=
  [0, 1, 1, 1, 1, 1, 1, 1, 1, 1, 0, 0, 2, 2, 0, 0, 2, 2]

def behindEnded : List Nat :=
  [0, 0, 0, 0, 0, 0, 0, 0, 1, 1, 1, 1]

theorem run_behindReader {cache : Cache} {files : Files} {a : Artifact}
    (absent : cache.load a.fingerprint files = none)
    (stored : cache.load a.fingerprint (cache.store a files) = some a) (first third : Result) :
    let t := ofRequests cache files [⟨a.fingerprint, false, first⟩, ⟨a.fingerprint, false, .ok a⟩,
      ⟨a.fingerprint, true, third⟩]
    Returns (t.run behindReader) 2 a.fingerprint (.ok a) ∧
      ¬ Fresh t behindReader 2 a.fingerprint (.ok a) := by
  intro t
  constructor
  · refine ⟨⟨a.fingerprint, true, third, .done (.ok a)⟩, ?_, rfl, rfl⟩
    simp [t, behindReader, ofRequests, begin, Request.caller, Caller.ofRequest, advance, act,
      setStage, setCell, List.modify, Cache.stored?, absent, stored]
  · intro fresh
    have seen := fresh.seesEnding
    simp [t, behindReader, ofRequests, begin, Request.caller, Caller.ofRequest, advance, act,
      setStage, setCell, List.modify, Cache.stored?, absent, stored, seesEnding, ongoing,
      computing] at seen

theorem run_behindEnded {cache : Cache} {files : Files} {a : Artifact}
    (absent : cache.load a.fingerprint files = none) (second : Result) (refresh : Bool)
    (exempt : refresh = true ∨ cache.directory = none) :
    let t := ofRequests cache files [⟨a.fingerprint, false, .ok a⟩,
      ⟨a.fingerprint, refresh, second⟩]
    Returns (t.run behindEnded) 1 a.fingerprint (.ok a) ∧
      ¬ Fresh t behindEnded 1 a.fingerprint (.ok a) := by
  intro t
  have unread (fs : Files) : cache.stored? a.fingerprint refresh fs = none :=
    Cache.stored?_exempt exempt
  have unread' : cache.stored? a.fingerprint false files = none := by simpa [Cache.stored?]
  constructor
  · refine ⟨⟨a.fingerprint, refresh, second, .done (.ok a)⟩, ?_, rfl, rfl⟩
    simp [t, behindEnded, ofRequests, begin, Request.caller, Caller.ofRequest, advance, act,
      setStage, setCell, List.modify, absent, unread, unread']
  · intro fresh
    have seen := fresh.seesEnding
    simp [t, behindEnded, ofRequests, begin, Request.caller, Caller.ofRequest, advance, act,
      setStage, setCell, List.modify, absent, unread, unread', seesEnding, ongoing,
      computing] at seen

def sketch (description : String) : Artifact :=
  ⟨⟨String.ofList (List.replicate 64 'a')⟩, description, none, "gv", ⟨2024, 5, 6, 7, 8, 9, 0⟩⟩

theorem sketch_absent : Cache.load ⟨some "cache"⟩ (sketch "old").fingerprint .empty = none :=
  Cache.load_of_absent rfl (by decide) (Files.fileAt_empty _)

theorem sketch_stored :
    Cache.load ⟨some "cache"⟩ (sketch "old").fingerprint
      (Cache.store ⟨some "cache"⟩ (sketch "old") .empty) = some (sketch "old") := by
  have storable : Cache.Storable (sketch "old") := ⟨by decide, by decide, by decide⟩
  have well : Cache.storesWell ⟨some "cache"⟩ (sketch "old") .empty = true :=
    Cache.storesWell_empty rfl ⟨by decide, by decide, by decide⟩ ⟨by decide, by decide, by decide⟩
      ⟨by decide, by decide, by decide⟩
  exact Cache.load_of_stored rfl (Cache.stored_of_storesWell well rfl storable) storable

def threeCallers : List Request :=
  [⟨(sketch "old").fingerprint, false, .ok (sketch "other")⟩,
    ⟨(sketch "old").fingerprint, false, .ok (sketch "old")⟩,
    ⟨(sketch "old").fingerprint, true, .ok (sketch "new")⟩]

/-- The refresh gets what the first caller read while both were in progress. -/
theorem behindReader_overlaps :
    let t := ofRequests ⟨some "cache"⟩ .empty threeCallers
    ∃ before j after, behindReader = before ++ j :: after ∧ Together t behindReader 2 j ∧
      (Computes (t.run before) j (sketch "old").fingerprint (.ok (sketch "old")) ∨
        (some "cache" : Option String) ≠ none ∧ j ≠ 2 ∧
          Reads (t.run before) j (sketch "old").fingerprint (.ok (sketch "old"))) :=
  run_refresh_overlaps ⟨some "cache"⟩ .empty threeCallers behindReader 2 _ _ rfl (.inl rfl)
    (run_behindReader sketch_absent sketch_stored _ _).1

/-- A refresh can get a stored artifact, and a call can get a result that was computed before it
began, with storage or without. -/
theorem refresh_not_fresh :
    let t := ofRequests ⟨some "cache"⟩ .empty threeCallers
    let u := ofRequests ⟨none⟩ .empty [⟨(sketch "old").fingerprint, false, .ok (sketch "old")⟩,
      ⟨(sketch "old").fingerprint, true, .ok (sketch "new")⟩]
    (Returns (t.run behindReader) 2 (sketch "old").fingerprint (.ok (sketch "old")) ∧
      ¬ Fresh t behindReader 2 (sketch "old").fingerprint (.ok (sketch "old"))) ∧
    (Returns (u.run behindEnded) 1 (sketch "old").fingerprint (.ok (sketch "old")) ∧
      ¬ Fresh u behindEnded 1 (sketch "old").fingerprint (.ok (sketch "old"))) :=
  ⟨run_behindReader sketch_absent sketch_stored _ _,
    run_behindEnded (Cache.load_disabled rfl) _ true (.inl rfl)⟩

end Traffic
end Flight
end CallChart
