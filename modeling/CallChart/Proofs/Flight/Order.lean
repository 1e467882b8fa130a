import CallChart.Proofs.Flight.Traffic

namespace CallChart.Flight

structure Request where
  fingerprint : Fingerprint
  refresh : Bool
  outcome : Result

def Request.caller (r : Request) : Caller :=
  .ofRequest r.fingerprint r.refresh r.outcome

namespace Traffic

def ofRequests (cache : Cache) (files : Files) (requests : List Request) : Traffic :=
  begin cache files (requests.map Request.caller)

/-- What is so of the flight that a caller is aboard; `owner` holds the fingerprint that each flight
was opened for. -/
structure Placed (owner : List Fingerprint) (cells : List Cell) (c : Caller) : Prop where
  aboard {f : Nat} : c.stage.flight? = some f → owner[f]? = some c.fingerprint
  taken {f : Nat} : c.stage.leads? = some f → cells[f]? = some .taken
  leaving {f : Nat} {r : Result} : c.stage = .leave f r → cells[f]? = some (.filled r)

theorem Placed.ashore {c : Caller} {owner : List Fingerprint} {cells : List Cell}
    (ashore : c.stage.flight? = none) :
    Placed owner cells c where
  aboard aboard := by simp [ashore] at aboard
  taken leads := by simp [Stage.flight?_of_leads? leads] at ashore
  leaving leaves := by simp [leaves, Stage.flight?] at ashore

structure Orderly (owner : List Fingerprint) (t : Traffic) : Prop where
  sized : owner.length = t.cells.length
  listed {fp : Fingerprint} {f : Nat} : (fp, f) ∈ t.flights → owner[f]? = some fp
  single {fp : Fingerprint} {f g : Nat} : (fp, f) ∈ t.flights → (fp, g) ∈ t.flights → f = g
  opened {fp : Fingerprint} {f : Nat} : owner[f]? = some fp →
    (∀ r, t.cells[f]? ≠ some (.filled r)) → (fp, f) ∈ t.flights
  manned {fp : Fingerprint} {f : Nat} : (fp, f) ∈ t.flights →
    ∃ (i : Nat) (c : Caller), t.callers[i]? = some c ∧ c.stage.flight? = some f
  placed {i : Nat} {c : Caller} : t.callers[i]? = some c → Placed owner t.cells c
  leader {i j : Nat} {c d : Caller} {f : Nat} : t.callers[i]? = some c → t.callers[j]? = some d →
    c.stage.leads? = some f → d.stage.leads? = some f → i = j

theorem caller_setStage {t : Traffic} {i j : Nat} {c d : Caller} {s : Stage}
    (there : t.callers[i]? = some c) (after : (t.setStage i s).callers[j]? = some d) :
    (j = i ∧ d = { c with stage := s }) ∨ (j ≠ i ∧ t.callers[j]? = some d) := by
  rw [callers_setStage] at after
  by_cases same : i = j
  · subst same
    simp only [there, ↓reduceIte, Option.map_some, Option.some.injEq] at after
    exact .inl ⟨rfl, after.symm⟩
  · simp only [same, ↓reduceIte] at after
    exact .inr ⟨fun h => same h.symm, after⟩

theorem setStage_same {t : Traffic} {i : Nat} {c : Caller} {s : Stage}
    (there : t.callers[i]? = some c) :
    (t.setStage i s).callers[i]? = some { c with stage := s } := by
  simp [callers_setStage, there]

theorem setStage_other {t : Traffic} {i j : Nat} {s : Stage} (other : j ≠ i) :
    (t.setStage i s).callers[j]? = t.callers[j]? := by
  simp [callers_setStage, other.symm]

theorem mem_of_lookup {f : Nat} {flights : List (Fingerprint × Nat)} {fp : Fingerprint}
    (found : flights.lookup fp = some f) : (fp, f) ∈ flights := by
  obtain ⟨before, after, rfl, -⟩ := List.lookup_eq_some_iff.mp found
  simp

namespace Orderly

theorem ofRequests (cache : Cache) (files : Files) (requests : List Request) :
    Orderly [] (ofRequests cache files requests) where
  sized := rfl
  listed := by simp [Traffic.ofRequests, begin]
  single := by simp [Traffic.ofRequests, begin]
  opened := by simp
  manned := by simp [Traffic.ofRequests, begin]
  placed := by
    intro i c there
    obtain ⟨q, -, rfl⟩ := List.mem_map.mp (List.mem_of_getElem? there)
    constructor <;> simp [Request.caller, Caller.ofRequest, Stage.flight?, Stage.leads?]
  leader := by
    intro i j c d f there _ leads
    obtain ⟨q, -, rfl⟩ := List.mem_map.mp (List.mem_of_getElem? there)
    simp [Request.caller, Caller.ofRequest, Stage.leads?] at leads

/-- What has to be shown of a transition: what becomes of the flights, of the caller who takes it
and of a caller who is led by nobody else. -/
theorem of_change {t u : Traffic} {i : Nat} {c : Caller} {owner : List Fingerprint}
    (order : Orderly owner t) (there : t.callers[i]? = some c) {s : Stage}
    {owner' : List Fingerprint} (callers : u.callers = (t.setStage i s).callers)
    (sized : owner'.length = u.cells.length)
    (listed : ∀ {fp f}, (fp, f) ∈ u.flights → owner'[f]? = some fp)
    (single : ∀ {fp f g}, (fp, f) ∈ u.flights → (fp, g) ∈ u.flights → f = g)
    (opened : ∀ {fp f}, owner'[f]? = some fp → (∀ r, u.cells[f]? ≠ some (.filled r)) →
      (fp, f) ∈ u.flights)
    (manned : ∀ {fp f}, (fp, f) ∈ u.flights →
      s.flight? = some f ∨ ((fp, f) ∈ t.flights ∧ c.stage.flight? ≠ some f))
    (self : Placed owner' u.cells { c with stage := s })
    (others : ∀ {d}, Placed owner t.cells d →
      (∀ f, c.stage.leads? = some f → d.stage.leads? ≠ some f) → Placed owner' u.cells d)
    (alone : ∀ {f}, s.leads? = some f → c.stage.leads? = some f ∨ t.cells[f]? = some .free) :
    Orderly owner' u where
  sized := sized
  listed := listed
  single := single
  opened := opened
  manned := by
    intro fp f listed
    rw [callers]
    rcases manned listed with mine | ⟨before, left⟩
    · exact ⟨i, _, setStage_same there, mine⟩
    · obtain ⟨j, d, theirs, flight⟩ := order.manned before
      have other : j ≠ i := by
        rintro rfl
        exact left ((Option.some.inj (there.symm.trans theirs)) ▸ flight)
      exact ⟨j, d, (setStage_other other).trans theirs, flight⟩
  placed := by
    intro j d after
    rw [callers] at after
    rcases caller_setStage there after with ⟨rfl, rfl⟩ | ⟨other, before⟩
    · exact self
    · exact others (order.placed before) fun f lead lead' =>
        other (order.leader before there lead' lead)
  leader := by
    intro j k d e f after after' lead lead'
    rw [callers] at after after'
    have only {k : Nat} {e : Caller} (lead : s.leads? = some f) (theirs : t.callers[k]? = some e)
        (lead' : e.stage.leads? = some f) : k = i := by
      rcases alone lead with kept | free
      · exact order.leader theirs there lead' kept
      · have taken := (order.placed theirs).taken lead'
        simp [free] at taken
    rcases caller_setStage there after with ⟨rfl, rfl⟩ | ⟨-, before⟩ <;>
      rcases caller_setStage there after' with ⟨rfl, rfl⟩ | ⟨-, before'⟩
    · rfl
    · exact (only lead before' lead').symm
    · exact only lead' before lead
    · exact order.leader before before' lead lead'

theorem restage {t u : Traffic} {i : Nat} {c : Caller} {owner : List Fingerprint}
    (order : Orderly owner t) (there : t.callers[i]? = some c) {s : Stage}
    (callers : u.callers = (t.setStage i s).callers) (flights : u.flights = t.flights)
    (cells : u.cells = t.cells) (self : Placed owner t.cells { c with stage := s })
    (stays : ∀ {f}, c.stage.flight? = some f → s.flight? = some f)
    (alone : ∀ {f}, s.leads? = some f → c.stage.leads? = some f) : Orderly owner u := by
  apply order.of_change there callers
  · rw [cells]; exact order.sized
  · rw [flights]; exact order.listed
  · rw [flights]; exact order.single
  · rw [flights, cells]; exact order.opened
  · intro fp f listed
    by_cases mine : c.stage.flight? = some f
    · exact .inl (stays mine)
    · exact .inr ⟨flights ▸ listed, mine⟩
  · rw [cells]; exact self
  · intro d placed _
    rw [cells]; exact placed
  · exact fun leads => .inl (alone leads)

theorem launch {t : Traffic} {i : Nat} {c : Caller} {owner : List Fingerprint}
    (order : Orderly owner t) (there : t.callers[i]? = some c) (stage : c.stage = .join)
    (unlisted : t.flights.lookup c.fingerprint = none) :
    Orderly (owner ++ [c.fingerprint]) ({ t with
      flights := (c.fingerprint, t.cells.length) :: t.flights
      cells := t.cells ++ [Cell.free] }.setStage i (.board t.cells.length)) := by
  have fresh : ∀ f, (c.fingerprint, f) ∉ t.flights := by
    intro f listed
    simpa using List.lookup_eq_none_iff.mp unlisted _ listed
  have old {fp : Fingerprint} {f : Nat} (owned : owner[f]? = some fp) :
      (owner ++ [c.fingerprint])[f]? = some fp := by
    rw [List.getElem?_append_left (List.getElem?_eq_some_iff.mp owned).1, owned]
  have held {f : Nat} {cell : Cell} (content : t.cells[f]? = some cell) :
      (t.cells ++ [Cell.free])[f]? = some cell := by
    rw [List.getElem?_append_left (List.getElem?_eq_some_iff.mp content).1, content]
  have last : (owner ++ [c.fingerprint])[t.cells.length]? = some c.fingerprint := by
    simp [← order.sized]
  apply order.of_change there (s := .board t.cells.length) (by rfl)
  · simp [order.sized]
  · intro fp f listed
    rcases List.mem_cons.mp listed with new | listed
    · cases new; exact last
    · exact old (order.listed listed)
  · intro fp f g first second
    rcases List.mem_cons.mp first with new | first <;>
      rcases List.mem_cons.mp second with new' | second
    · cases new; cases new'; rfl
    · cases new; exact (fresh g second).elim
    · cases new'; exact (fresh f first).elim
    · exact order.single first second
  · intro fp f owned unfilled
    by_cases known : f < owner.length
    · rw [List.getElem?_append_left known] at owned
      exact List.mem_cons_of_mem _ (order.opened owned fun r filled => unfilled r (held filled))
    · have bound := (List.getElem?_eq_some_iff.mp owned).1
      simp only [List.length_append, List.length_singleton] at bound
      obtain rfl : f = t.cells.length := by have := order.sized; omega
      rw [last] at owned
      cases owned
      exact List.mem_cons_self
  · intro fp f listed
    rcases List.mem_cons.mp listed with new | listed
    · cases new; exact .inl rfl
    · exact .inr ⟨listed, by simp [stage, Stage.flight?]⟩
  · exact ⟨fun flight => by cases flight; exact last, by simp [Stage.leads?], by simp⟩
  · exact fun placed _ => ⟨fun flight => old (placed.aboard flight),
      fun leads => held (placed.taken leads), fun leaves => held (placed.leaving leaves)⟩
  · simp [Stage.leads?]

theorem lead {t : Traffic} {i f : Nat} {c : Caller} {owner : List Fingerprint}
    (order : Orderly owner t) (there : t.callers[i]? = some c) (stage : c.stage = .board f)
    (free : t.cells[f]? = some .free) :
    Orderly owner ((t.setCell f .taken).setStage i
      (if c.refresh then .start f else .inspect f)) := by
  have inside : f < t.cells.length := (List.getElem?_eq_some_iff.mp free).1
  have mine : owner[f]? = some c.fingerprint :=
    (order.placed there).aboard (by simp [stage, Stage.flight?])
  have filled {g : Nat} {r : Result} (filled : t.cells[g]? = some (.filled r)) :
      (t.cells.set f .taken)[g]? = some (.filled r) := by
    have apart : f ≠ g := by
      rintro rfl
      simp [free] at filled
    rwa [List.getElem?_set_ne apart]
  have flight : (if c.refresh then Stage.start f else .inspect f).flight? = some f := by
    split <;> rfl
  have leads : (if c.refresh then Stage.start f else .inspect f).leads? = some f := by
    split <;> rfl
  apply order.of_change there (by rfl)
  · simp [order.sized]
  · exact order.listed
  · exact order.single
  · exact fun owned unfilled => order.opened owned fun r before => unfilled r (filled before)
  · intro fp g listed
    by_cases same : g = f
    · exact .inl (same ▸ flight)
    · exact .inr ⟨listed, by simpa [stage, Stage.flight?] using fun h => same h.symm⟩
  · refine ⟨fun aboard => ?_, fun lead => ?_, fun leaves => ?_⟩
    · cases flight.symm.trans aboard
      exact mine
    · cases leads.symm.trans lead
      simp [inside]
    · split at leaves <;> cases leaves
  · intro d placed _
    refine ⟨placed.aboard, fun {g} lead => ?_, fun leaves => filled (placed.leaving leaves)⟩
    by_cases same : f = g
    · simp [← same, inside]
    · simpa [List.getElem?_set_ne same] using placed.taken lead
  · intro g lead
    cases leads.symm.trans lead
    exact .inr free

theorem fill {t : Traffic} {i f : Nat} {c : Caller} {r : Result} {owner : List Fingerprint}
    (order : Orderly owner t) (there : t.callers[i]? = some c) (stage : c.stage = .fill f r) :
    Orderly owner ((t.setCell f (.filled r)).setStage i (.leave f r)) := by
  have leads : c.stage.leads? = some f := by simp [stage, Stage.leads?]
  have taken := (order.placed there).taken leads
  have inside : f < t.cells.length := (List.getElem?_eq_some_iff.mp taken).1
  apply order.of_change there (by rfl)
  · simp [order.sized]
  · exact order.listed
  · exact order.single
  · intro fp g owned unfilled
    have apart : f ≠ g := by
      rintro rfl
      exact unfilled r (by simp [inside])
    refine order.opened owned fun s filled => unfilled s ?_
    simpa [List.getElem?_set_ne apart] using filled
  · intro fp g listed
    by_cases same : f = g
    · exact .inl (congrArg some same)
    · exact .inr ⟨listed, by simpa [stage, Stage.flight?] using same⟩
  · refine ⟨fun aboard => ?_, by simp [Stage.leads?], fun leaves => ?_⟩
    · cases aboard
      exact (order.placed there).aboard (by simp [stage, Stage.flight?])
    · cases leaves
      simp [inside]
  · intro d placed apart
    refine ⟨placed.aboard, fun {g} lead => ?_, fun {g s} leaves => ?_⟩
    · have other : f ≠ g := fun same => apart f leads (same ▸ lead)
      simpa [List.getElem?_set_ne other] using placed.taken lead
    · have filled := placed.leaving leaves
      have other : f ≠ g := by
        rintro rfl
        simp [taken] at filled
      simpa [List.getElem?_set_ne other] using filled
  · simp [Stage.leads?]

theorem leave {t : Traffic} {i f : Nat} {c : Caller} {r : Result} {owner : List Fingerprint}
    (order : Orderly owner t) (there : t.callers[i]? = some c) (stage : c.stage = .leave f r) :
    Orderly owner ({ t with
      flights := t.flights.filter (· ≠ (c.fingerprint, f)) }.setStage i (.done r)) := by
  have filled := (order.placed there).leaving stage
  have mine := (order.placed there).aboard (f := f) (by simp [stage, Stage.flight?])
  have stays {fp : Fingerprint} {g : Nat}
      (listed : (fp, g) ∈ t.flights.filter (· ≠ (c.fingerprint, f))) :
      (fp, g) ∈ t.flights ∧ f ≠ g := by
    obtain ⟨before, apart⟩ := List.mem_filter.mp listed
    refine ⟨before, ?_⟩
    rintro rfl
    have same : fp = c.fingerprint := Option.some.inj ((order.listed before).symm.trans mine)
    simp [same] at apart
  apply order.of_change there (s := .done r) (by rfl)
  · exact order.sized
  · exact fun listed => order.listed (stays listed).1
  · exact fun first second => order.single (stays first).1 (stays second).1
  · intro fp g owned unfilled
    refine List.mem_filter.mpr ⟨order.opened owned unfilled, ?_⟩
    have apart : g ≠ f := by
      rintro rfl
      exact unfilled r filled
    simp [apart]
  · intro fp g listed
    obtain ⟨before, apart⟩ := stays listed
    exact .inr ⟨before, by simpa [stage, Stage.flight?] using apart⟩
  · exact .ashore rfl
  · exact fun placed _ => placed
  · simp [Stage.leads?]

end Orderly

def launched (t : Traffic) (c : Caller) : List Fingerprint :=
  match c.stage with
  | .join => if (t.flights.lookup c.fingerprint).isNone then [c.fingerprint] else []
  | _ => []

theorem Orderly.moves {t u : Traffic} {i : Nat} {c : Caller} {owner : List Fingerprint}
    (order : Orderly owner t) (there : t.callers[i]? = some c) (moves : Moves t i c u) :
    Orderly (owner ++ t.launched c) u := by
  cases moves with
  | launch stage unlisted => simpa [launched, stage, unlisted] using order.launch there stage unlisted
  | lead f stage free => simpa [launched, stage] using order.lead there stage free
  | fill f r stage => simpa [launched, stage] using order.fill there stage
  | leave f r stage => simpa [launched, stage] using order.leave there stage
  | share f stage listed =>
    simp only [launched, stage, listed, Option.isNone_some, Bool.false_eq_true, ↓reduceIte,
      List.append_nil]
    refine order.restage there rfl rfl rfl ⟨fun aboard => ?_, ?_, ?_⟩ ?_ ?_
    · cases aboard
      exact order.listed (mem_of_lookup listed)
    · simp [Stage.leads?]
    · simp
    · simp [stage, Stage.flight?]
    · simp [Stage.leads?]
  | follow f r stage filled =>
    simp only [launched, stage, List.append_nil]
    have mine := (order.placed there).aboard (f := f) (by simp [stage, Stage.flight?])
    refine order.restage there rfl rfl rfl ⟨?_, ?_, ?_⟩ ?_ ?_
    · intro g aboard
      cases aboard
      exact mine
    · simp [Stage.leads?]
    · intro g s leaves
      cases leaves
      exact filled
    · simp [stage, Stage.flight?]
    · simp [Stage.leads?]
  | hit a stage stored | miss stage absent =>
    simp only [launched, stage, List.append_nil]
    exact order.restage there rfl rfl rfl (.ashore rfl) (by simp [stage, Stage.flight?])
      (by simp [Stage.leads?])
  | find f a stage stored | lack f stage absent | start f stage | succeed f a stage outcome
  | fail f e stage outcome | store f a stage =>
    simp only [launched, stage, List.append_nil]
    have placed := order.placed there
    refine order.restage there rfl rfl rfl ⟨fun aboard => placed.aboard ?_,
      fun leads => placed.taken ?_, ?_⟩ ?_ ?_
    · simpa [stage, Stage.flight?] using aboard
    · simpa [stage, Stage.leads?] using leads
    · simp
    · simp [stage, Stage.flight?]
    · simp [stage, Stage.leads?]

end Traffic
end CallChart.Flight
