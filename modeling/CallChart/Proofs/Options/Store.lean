import CallChart.Options.Store
import CallChart.Proofs.Options.Overrides

namespace CallChart.OptionsStore

/-- What a client can ask for: some fields of a document, overrides of the options in force, or
overrides of the options of the launch. -/
inductive Update where
  | merge (payload : String)
  | change (pairs : List (String × String))
  | reset (pairs : List (String × String))

def update (store : OptionsStore) : Update → Except Failure Options × OptionsStore
  | .merge payload => store.merge payload
  | .change pairs => store.change pairs
  | .reset pairs => store.reset pairs

def updated (store : OptionsStore) (history : List Update) : OptionsStore :=
  history.foldl (fun store u => (store.update u).2) store

def Update.Makes (store : OptionsStore) : Update → Options → Prop
  | .merge payload, o => store.current.merge payload = .ok o
  | .change pairs, o => store.current.Accepts pairs ∧ o = pairs.foldl Options.put store.current
  | .reset pairs, o => store.defaults.Accepts pairs ∧ o = pairs.foldl Options.put store.defaults

/-- All of an update is in force and is the answer, or nothing has happened. -/
inductive Settled (store : OptionsStore) (u : Update) : Prop where
  | made (o : Options) : o.check = .ok () → u.Makes store o →
    store.update u = (.ok o, { store with current := o }) → Settled store u
  | refused (e : Failure) : e.IsInvalid → (∀ o, ¬ u.Makes store o) →
    store.update u = (.error e, store) → Settled store u

theorem settle_overrides (base : Options) (pairs : List (String × String)) (store : OptionsStore) :
    let outcome := store.settle ((base.applyOverrides pairs).map (·.1))
    let made := pairs.foldl Options.put base
    (base.Accepts pairs ∧ outcome = (.ok made, { store with current := made })) ∨
      ¬ base.Accepts pairs ∧ ∃ e, e.IsInvalid ∧ outcome = (.error e, store) := by
  intro outcome made
  by_cases accepts : base.Accepts pairs
  · obtain ⟨count, applied⟩ := Options.applyOverrides_accepted accepts
    refine .inl ⟨accepts, ?_⟩
    simp only [outcome, applied, Except.map, settle]
    rfl
  · obtain ⟨e, failed, invalid⟩ := Options.applyOverrides_refused accepts
    refine .inr ⟨accepts, e, invalid, ?_⟩
    simp only [outcome, failed, Except.map, settle]

theorem settled (store : OptionsStore) (u : Update) : Settled store u := by
  cases u with
  | merge payload =>
    have failures := Options.merge_onlyInvalid store.current payload
    cases merged : store.current.merge payload with
    | ok o =>
      refine .made o (Options.check_of_merge merged) merged ?_
      simp only [update, merge, merged, settle]
    | error e =>
      refine .refused e (failures e merged) (fun o made => ?_) ?_
      · have made : store.current.merge payload = .ok o := made
        rw [merged] at made
        cases made
      · simp only [update, merge, merged, settle]
  | change pairs =>
    rcases settle_overrides store.current pairs store with
      ⟨accepts, done⟩ | ⟨refuses, e, invalid, done⟩
    · exact .made _ accepts.2 ⟨accepts, rfl⟩ done
    · exact .refused e invalid (fun o made => refuses made.1) done
  | reset pairs =>
    rcases settle_overrides store.defaults pairs store with
      ⟨accepts, done⟩ | ⟨refuses, e, invalid, done⟩
    · exact .made _ accepts.2 ⟨accepts, rfl⟩ done
    · exact .refused e invalid (fun o made => refuses made.1) done

/-- Valid options in force, over the options of the launch. -/
structure Sound (defaults : Options) (store : OptionsStore) : Prop where
  valid : store.current.check = .ok ()
  launched : store.defaults = defaults

namespace Sound

theorem new {defaults : Options} (valid : defaults.check = .ok ()) :
    Sound defaults (.new defaults) := ⟨valid, rfl⟩

theorem update {store : OptionsStore} {defaults : Options} (sound : Sound defaults store)
    (u : Update) :
    Sound defaults (store.update u).2 := by
  cases store.settled u with
  | made o valid _ done =>
    rw [done]
    exact ⟨valid, sound.launched⟩
  | refused e _ _ done =>
    rw [done]
    exact sound

theorem updated {store : OptionsStore} {defaults : Options} (sound : Sound defaults store)
    (history : List Update) :
    Sound defaults (store.updated history) := by
  induction history generalizing store with
  | nil => exact sound
  | cons u history ih => exact ih (sound.update u)

theorem reset {store : OptionsStore} {defaults : Options} (sound : Sound defaults store)
    (pairs : List (String × String)) :
    (store.reset pairs).1 = ((OptionsStore.new defaults).reset pairs).1 := by
  obtain ⟨-, rfl⟩ := sound
  simp only [OptionsStore.reset, OptionsStore.new]
  cases store.defaults.applyOverrides pairs <;> rfl

theorem reset_nil {store : OptionsStore} {defaults : Options} (valid : defaults.check = .ok ())
    (sound : Sound defaults store) :
    store.reset [] = (.ok defaults, .new defaults) := by
  obtain ⟨-, rfl⟩ := sound
  simp only [OptionsStore.reset, Options.applyOverrides, Options.change, valid, bind, Except.bind]
  rfl

end Sound

/-- After every history the options in force are valid and those of the launch are as they were, the
next update is made as a whole or refused as a whole, and a reset is answered as at the launch. -/
theorem updated_sound {defaults : Options} (valid : defaults.check = .ok ())
    (history : List Update) :
    let store := (new defaults).updated history
    (store.current.check = .ok () ∧ store.current.style.nodesep.isFinite = true ∧
      store.current.style.nodesep.isBelowZero = false ∧
      Text.isBlankText store.current.style.nodeshape = false) ∧
    store.defaults = defaults ∧ (∀ u, Settled store u) ∧
    (∀ pairs, (store.reset pairs).1 = ((new defaults).reset pairs).1) ∧
    store.reset [] = (.ok defaults, new defaults) := by
  intro store
  have sound : Sound defaults store := (Sound.new valid).updated history
  obtain ⟨⟨finite, notBelow⟩, shaped⟩ := Options.check_ok.mp sound.valid
  exact ⟨⟨sound.valid, finite, notBelow, shaped⟩, sound.launched, store.settled, sound.reset,
    sound.reset_nil valid⟩

/-- A document that repeats a key, overrides that end with an infinite distance, and a reset to a blank
shape. -/
def wayward : List Update :=
  [.merge "\x7b\"style\": \x7b\"nodeshape\": \"oval\"\x7d, \"tests\": true, \"tests\": false\x7d",
    .change [("focus", "lib"), ("nodesep", "inf")], .reset [("focus", "lib"), ("nodeshape", " ")]]

theorem wayward_sound :
    let store := (new Options.default).updated wayward
    Options.default.check = .ok () ∧
    (store.current.style.nodeshape = "oval" ∧ store.current.focus = "main") ∧
    (store.current.check = .ok () ∧ store.current.style.nodesep.isFinite = true ∧
      store.current.style.nodesep.isBelowZero = false ∧
      Text.isBlankText store.current.style.nodeshape = false) ∧
    store.defaults = Options.default ∧ (∀ u, Settled store u) ∧
    (∀ pairs, (store.reset pairs).1 = ((new Options.default).reset pairs).1) ∧
    store.reset [] = (.ok Options.default, new Options.default) := by
  have sound := updated_sound Options.default_check wayward
  exact ⟨Options.default_check, by decide +kernel, sound⟩

end CallChart.OptionsStore
