import CallChart.Options.Exchange
import CallChart.Proofs.Options.Fields
import Mathlib.Data.List.Induction
import Mathlib.Tactic.Common

namespace CallChart

def Failure.IsInvalid (e : Failure) : Prop :=
  ∃ key value reason, e = .invalidOption key value reason

/-- A reader of options that fails for no other reason than the option it reads. -/
def OnlyInvalid {α : Type} (result : Except Failure α) : Prop :=
  ∀ e, result = .error e → e.IsInvalid

namespace OnlyInvalid

theorem ok {α : Type} (a : α) : OnlyInvalid (.ok a) := nofun

theorem error {α : Type} (key value reason : String) :
    OnlyInvalid (.error (.invalidOption key value reason) : Except Failure α) := by
  rintro e ⟨⟩
  exact ⟨key, value, reason, rfl⟩

theorem bind {α β : Type} {result : Except Failure α} (only : OnlyInvalid result)
    {f : α → Except Failure β} (later : ∀ a, OnlyInvalid (f a)) : OnlyInvalid (result >>= f) := by
  cases result with
  | ok a => exact later a
  | error e =>
    rintro _ ⟨⟩
    exact only e rfl

end OnlyInvalid

namespace Options

theorem check_onlyInvalid (o : Options) : OnlyInvalid o.check := by
  unfold check
  split
  · exact .error _ _ _
  · split
    · exact .error _ _ _
    · exact .ok _

theorem merge_onlyInvalid (o : Options) (payload : String) : OnlyInvalid (o.merge payload) := by
  unfold merge
  split
  · exact .error _ _ _
  · split
    · exact .error _ _ _
    · split
      · exact .error _ _ _
      · exact (check_onlyInvalid _).bind fun _ => .ok _

theorem check_of_merge {o p : Options} {payload : String} (merged : o.merge payload = .ok p) :
    p.check = .ok () := by
  unfold merge at merged
  split at merged
  · cases merged
  · split at merged
    · cases merged
    · split at merged
      · cases merged
      · rename_i q _
        cases checked : q.check with
        | error e =>
          rw [checked] at merged
          cases merged
        | ok _ =>
          rw [checked] at merged
          cases merged
          exact checked

/-- An override whose value can be read, or one that names no option. -/
def Readable (pair : String × String) : Prop :=
  ∀ e, override? pair.1 pair.2 ≠ some (.error e)

instance : DecidablePred Readable := fun pair =>
  match found : override? pair.1 pair.2 with
  | none => isTrue fun e refused => by rw [found] at refused; cases refused
  | some (.ok _) => isTrue fun e refused => by rw [found] at refused; cases refused
  | some (.error e) => isFalse fun readable => readable e found

def put (o : Options) (pair : String × String) : Options :=
  match override? pair.1 pair.2 with
  | some (.ok f) => f o
  | _ => o

def refusal? (pair : String × String) : Option Failure :=
  match Field.ofKey? pair.1 with
  | none => none
  | some f =>
    match f.read pair.2 with
    | .ok _ => none
    | .error e => some e

def isRecognized (pair : String × String) : Bool :=
  (Field.ofKey? pair.1).isSome

/-- An override names no option, changes one, or is refused. -/
inductive Reading (pair : String × String) : Prop where
  | unnamed (missing : Field.ofKey? pair.1 = none) (skipped : override? pair.1 pair.2 = none)
      (sound : refusal? pair = none)
  | read (f : Field) (v : f.Value) (named : pair.1 = f.key) (found : f.read pair.2 = .ok v)
      (changes : override? pair.1 pair.2 = some (.ok fun o => f.set o v)) (sound : refusal? pair = none)
  | refused (f : Field) (e : Failure) (named : pair.1 = f.key) (failed : f.read pair.2 = .error e)
      (stops : override? pair.1 pair.2 = some (.error e)) (refused : refusal? pair = some e)

theorem reading (pair : String × String) : Reading pair := by
  have change := override?_eq pair.1 pair.2
  cases named : Field.ofKey? pair.1 with
  | none =>
    rw [named] at change
    exact .unnamed named change (by simp only [refusal?, named])
  | some f =>
    rw [named, Option.map_some] at change
    have key := Field.ofKey?_eq_some.mp named
    cases read : f.read pair.2 with
    | ok v =>
      rw [read] at change
      exact .read f v key read change (by simp only [refusal?, named, read])
    | error e =>
      rw [read] at change
      exact .refused f e key read change (by simp only [refusal?, named, read])

theorem readable_iff {pair : String × String} : Readable pair ↔ refusal? pair = none := by
  unfold Readable
  cases reading pair with
  | unnamed _ skipped sound => simp [skipped, sound]
  | read _ _ _ _ changes sound => simp [changes, sound]
  | refused _ _ _ _ stops refused => simp [stops, refused]

theorem invalid_of_refusal {pair : String × String} {e : Failure} (refused : refusal? pair = some e) :
    e.IsInvalid := by
  cases reading pair with
  | unnamed _ _ sound => rw [sound] at refused; cases refused
  | read _ _ _ _ _ sound => rw [sound] at refused; cases refused
  | refused f _ _ failed _ found =>
    rw [found] at refused
    cases refused
    exact ⟨_, _, f.read_blames pair.2 e failed⟩

theorem change_eq (o : Options) (applied : Nat) (pairs : List (String × String)) :
    o.change applied pairs =
      match pairs.findSome? refusal? with
      | some e => .error e
      | none => .ok (pairs.foldl put o, applied + pairs.countP isRecognized) := by
  induction pairs generalizing o applied with
  | nil => rfl
  | cons pair pairs ih =>
    rw [change, List.findSome?_cons, List.foldl_cons, List.countP_cons, isRecognized, put]
    cases reading pair with
    | unnamed missing skipped sound => simp [skipped, sound, missing, ih]
    | read f _ named _ changes sound =>
      have recognized := Field.ofKey?_eq_some.mpr named
      simp [changes, sound, recognized, ih, Nat.add_assoc, Nat.add_comm 1]
    | refused _ _ _ _ stops refused => simp [stops, refused]

theorem applyOverrides_eq (o : Options) (pairs : List (String × String)) :
    o.applyOverrides pairs =
      match pairs.findSome? refusal? with
      | some e => .error e
      | none =>
        (pairs.foldl put o).check.map fun _ =>
          (pairs.foldl put o, pairs.countP isRecognized) := by
  rw [applyOverrides, change_eq, Nat.zero_add]
  cases pairs.findSome? refusal? with
  | some e => rfl
  | none => cases checked : (pairs.foldl put o).check <;> simp [bind, Except.bind, checked] <;> rfl

theorem readable_of_findSome? {pairs : List (String × String)} :
    pairs.findSome? refusal? = none ↔ ∀ pair ∈ pairs, Readable pair := by
  simp only [List.findSome?_eq_none_iff, readable_iff]

/-- Overrides that can be applied: each value can be read, and the options that all of them come to
are valid. -/
def Accepts (o : Options) (pairs : List (String × String)) : Prop :=
  (∀ pair ∈ pairs, Readable pair) ∧ (pairs.foldl put o).check = .ok ()

instance (o : Options) (pairs : List (String × String)) : Decidable (o.Accepts pairs) :=
  inferInstanceAs (Decidable (_ ∧ _))

theorem applyOverrides_accepted {o : Options} {pairs : List (String × String)}
    (accepts : o.Accepts pairs) :
    ∃ count, o.applyOverrides pairs = .ok (pairs.foldl put o, count) := by
  obtain ⟨readable, valid⟩ := accepts
  exact ⟨_, by rw [applyOverrides_eq, readable_of_findSome?.mpr readable, valid]; rfl⟩

theorem applyOverrides_refused {o : Options} {pairs : List (String × String)}
    (refuses : ¬ o.Accepts pairs) :
    ∃ e, o.applyOverrides pairs = .error e ∧ e.IsInvalid := by
  rw [applyOverrides_eq]
  cases first : pairs.findSome? refusal? with
  | some e =>
    obtain ⟨pair, -, refused⟩ := List.exists_of_findSome?_eq_some first
    exact ⟨e, rfl, invalid_of_refusal refused⟩
  | none =>
    cases checked : (pairs.foldl put o).check with
    | ok _ => exact (refuses ⟨readable_of_findSome?.mp first, checked⟩).elim
    | error e => exact ⟨e, rfl, check_onlyInvalid _ e checked⟩

end Options

def lastNamed (key : String) (pairs : List (String × String)) : Option (String × String) :=
  (pairs.filter (·.1 = key)).getLast?

theorem lastNamed_append (key : String) (pairs : List (String × String)) (pair : String × String) :
    lastNamed key (pairs ++ [pair]) = if pair.1 = key then some pair else lastNamed key pairs := by
  simp only [lastNamed, List.filter_append]
  split
  · rename_i named
    simp [named]
  · rename_i other
    simp [other]

theorem mem_of_lastNamed {key : String} {pairs : List (String × String)} {pair : String × String}
    (last : lastNamed key pairs = some pair) : pair ∈ pairs ∧ pair.1 = key := by
  simpa using List.mem_of_getLast? last

namespace Options

theorem check_ok {o : Options} : o.check = .ok () ↔
    (o.style.nodesep.isFinite = true ∧ o.style.nodesep.isBelowZero = false) ∧
      Text.isBlankText o.style.nodeshape = false := by
  unfold check
  split
  · rename_i unsound
    simp only [reduceCtorEq, false_iff]
    rintro ⟨⟨finite, positive⟩, -⟩
    simp [finite, positive] at unsound
  · rename_i sound
    simp only [Bool.or_eq_true, Bool.not_eq_true', not_or, Bool.not_eq_false,
      Bool.not_eq_true] at sound
    simp only [sound, and_self, true_and]
    split <;> rename_i blank <;> simp [blank]

theorem get_put {pair : String × String} (readable : Readable pair) (f : Field) (o p : Options) :
    f.get (o.put pair) = if pair.1 = f.key then f.get (p.put pair) else f.get o := by
  unfold put
  cases reading pair with
  | unnamed missing skipped _ =>
    rw [skipped, if_neg]
    rintro named
    rw [Field.ofKey?_eq_some.mpr named] at missing
    cases missing
  | read g v named _ changes _ =>
    rw [changes]
    by_cases same : g = f
    · subst same
      simp only [named, ↓reduceIte, Field.get_set_self]
    · have other : pair.1 ≠ f.key := fun key => same (Field.key_inj.mp (named.symm.trans key))
      rw [if_neg other, Field.get_set_other (Ne.symm same)]
  | refused _ e _ _ stops _ => exact (readable e stops).elim

theorem get_foldl_put {pairs : List (String × String)} (readable : ∀ pair ∈ pairs, Readable pair)
    (f : Field) (o p : Options) :
    f.get (pairs.foldl put o) = f.get ((lastNamed f.key pairs).elim o p.put) := by
  induction pairs using List.reverseRecOn with
  | nil => rfl
  | append_singleton pairs pair ih =>
    have ih := ih fun pair within => readable pair (List.mem_append_left _ within)
    have last := readable pair (by simp)
    simp only [List.foldl_append, List.foldl_cons, List.foldl_nil, lastNamed_append]
    rw [get_put last f _ p]
    split
    · rfl
    · exact ih

theorem put_style {pair : String × String} (readable : Readable pair) (o p : Options) :
    (o.put pair).style.nodesep =
      (if pair.1 = "nodesep" then (p.put pair).style.nodesep else o.style.nodesep) ∧
    (o.put pair).style.nodeshape =
      (if pair.1 = "nodeshape" then (p.put pair).style.nodeshape else o.style.nodeshape) :=
  ⟨get_put readable .nodesep o p, get_put readable .nodeshape o p⟩

theorem foldl_put_style {pairs : List (String × String)} (readable : ∀ pair ∈ pairs, Readable pair)
    (o p : Options) :
    (pairs.foldl put o).style.nodesep =
      ((lastNamed "nodesep" pairs).elim o p.put).style.nodesep ∧
    (pairs.foldl put o).style.nodeshape =
      ((lastNamed "nodeshape" pairs).elim o p.put).style.nodeshape :=
  ⟨get_foldl_put readable .nodesep o p, get_foldl_put readable .nodeshape o p⟩

theorem default_check : default.check = .ok () := by
  decide +kernel

theorem accepts_iff {o : Options} {pairs : List (String × String)} (valid : o.check = .ok ()) :
    o.Accepts pairs ↔
    (∀ pair ∈ pairs, Readable pair) ∧
      ∀ key pair, lastNamed key pairs = some pair → default.Accepts [pair] := by
  refine and_congr_right fun readable => ?_
  obtain ⟨nodesep, nodeshape⟩ := foldl_put_style readable o default
  rw [check_ok, nodesep, nodeshape]
  constructor
  · rintro ⟨sound, shaped⟩ key pair last
    obtain ⟨within, rfl⟩ := mem_of_lastNamed last
    refine ⟨by simpa using readable pair within, check_ok.mpr ?_⟩
    obtain ⟨standard, standardShape⟩ := check_ok.mp default_check
    obtain ⟨own, ownShape⟩ := put_style (readable pair within) default default
    rw [List.foldl_cons, List.foldl_nil]
    constructor
    · by_cases named : pair.1 = "nodesep"
      · rw [named] at last
        rw [last, Option.elim_some] at sound
        exact sound
      · rw [own, if_neg named]
        exact standard
    · by_cases named : pair.1 = "nodeshape"
      · rw [named] at last
        rw [last, Option.elim_some] at shaped
        exact shaped
      · rw [ownShape, if_neg named]
        exact standardShape
  · intro each
    rw [check_ok] at valid
    constructor
    · cases last : lastNamed "nodesep" pairs with
      | none => exact valid.1
      | some pair => exact (check_ok.mp (each _ pair last).2).1
    · cases last : lastNamed "nodeshape" pairs with
      | none => exact valid.2
      | some pair => exact (check_ok.mp (each _ pair last).2).2

/-- Every option has the value of the last pair that names it, or the one that it had before. -/
def Settles (o : Options) (pairs : List (String × String)) (p : Options) : Prop :=
  ∀ f : Field, match lastNamed f.key pairs with
    | some pair => f.read pair.2 = .ok (f.get p)
    | none => f.get p = f.get o

theorem Settles.unique {o p q : Options} {pairs : List (String × String)}
    (settles : o.Settles pairs p) (settles' : o.Settles pairs q) : p = q := by
  refine Field.ext_get fun f => ?_
  have first := settles f
  have second := settles' f
  split at first <;> rename_i last <;> simp only [last] at second
  · exact Except.ok.inj (first.symm.trans second)
  · exact first.trans second.symm

theorem settles_foldl_put {pairs : List (String × String)}
    (readable : ∀ pair ∈ pairs, Readable pair) (o : Options) :
    o.Settles pairs (pairs.foldl put o) := by
  intro f
  have last := get_foldl_put readable f o o
  split <;> rename_i found <;> rw [last, found]
  · rename_i pair
    obtain ⟨within, named⟩ := mem_of_lastNamed found
    cases reading pair with
    | unnamed missing _ _ =>
      rw [Field.ofKey?_eq_some.mpr named] at missing
      cases missing
    | read g v named' read changes _ =>
      obtain rfl := Field.key_inj.mp (named'.symm.trans named)
      rw [Option.elim_some, put, changes, Field.get_set_self, read]
    | refused _ e _ _ stops _ => exact (readable pair within e stops).elim
  · rfl

theorem Settles.again {o p : Options} {pairs : List (String × String)}
    (settles : o.Settles pairs p) : p.Settles pairs p := by
  intro f
  have said := settles f
  split
  · rename_i found
    simpa only [found] using said
  · rfl

theorem applyOverrides_eq_ok {o p : Options} {pairs : List (String × String)} {count : Nat} :
    o.applyOverrides pairs = .ok (p, count) ↔
    (∀ pair ∈ pairs, refusal? pair = none) ∧ o.Settles pairs p ∧ p.check = .ok () ∧
      count = pairs.countP isRecognized := by
  rw [applyOverrides_eq, ← List.findSome?_eq_none_iff]
  cases first : pairs.findSome? refusal? with
  | some e => simp
  | none =>
    have settles := settles_foldl_put (readable_of_findSome?.mp first) o
    refine ⟨fun applied => ?_, fun ⟨_, settles', valid, counted⟩ => ?_⟩
    · cases checked : (pairs.foldl put o).check <;> rw [checked] at applied <;> cases applied
      exact ⟨rfl, settles, checked, rfl⟩
    · obtain rfl := settles'.unique settles
      rw [valid, counted]
      rfl

theorem applyOverrides_eq_error {o : Options} {pairs : List (String × String)} {e : Failure} :
    o.applyOverrides pairs = .error e ↔
    pairs.findSome? refusal? = some e ∨
      (∀ pair ∈ pairs, refusal? pair = none) ∧
        ∃ p, o.Settles pairs p ∧ p.check = .error e := by
  rw [applyOverrides_eq, ← List.findSome?_eq_none_iff]
  cases first : pairs.findSome? refusal? with
  | some e => simp
  | none =>
    have settles := settles_foldl_put (readable_of_findSome?.mp first) o
    refine ⟨fun failed => .inr ⟨rfl, _, settles, ?_⟩, fun failed => ?_⟩
    · cases checked : (pairs.foldl put o).check <;> rw [checked] at failed <;> cases failed
      rfl
    · obtain found | ⟨-, p, settles', invalid⟩ := failed
      · cases found
      · obtain rfl := settles'.unique settles
        rw [invalid]
        rfl

theorem change_recognized (o : Options) (applied : Nat) (pairs : List (String × String)) :
    o.change applied (pairs.filter isRecognized) = o.change applied pairs := by
  induction pairs generalizing o applied with
  | nil => rfl
  | cons pair pairs ih =>
    rw [List.filter_cons, isRecognized]
    cases reading pair with
    | unnamed missing skipped _ => simp [missing, change, skipped, ih]
    | read _ _ named _ changes _ =>
      have recognized := Field.ofKey?_eq_some.mpr named
      simp [recognized, change, changes, ih]
    | refused _ _ named _ stops _ =>
      have recognized := Field.ofKey?_eq_some.mpr named
      simp [recognized, change, stops]

def overrideInPlace (pairs : List (String × String)) : EStateM Failure Options Nat := do
  let mut next ← get
  let mut applied := 0
  for (key, value) in pairs do
    match override? key value with
    | none => continue
    | some change =>
      next := (← MonadExcept.ofExcept change) next
      applied := applied + 1
  MonadExcept.ofExcept next.check
  set next
  return applied

theorem forIn_override (o next : Options) (applied : Nat) (pairs : List (String × String)) :
    forIn (m := EStateM Failure Options) pairs (next, applied) (fun pair copy =>
      match override? pair.1 pair.2 with
      | none => pure (.yield (copy.1, copy.2))
      | some change => do
        let f ← MonadExcept.ofExcept change
        pure (.yield (f copy.1, copy.2 + 1))) o =
      match next.change applied pairs with
      | .ok copy => .ok copy o
      | .error e => .error e o := by
  induction pairs generalizing next applied with
  | nil => rfl
  | cons pair pairs ih =>
    simp only [List.forIn_cons, change, bind, EStateM.bind] at ih ⊢
    cases override? pair.1 pair.2 with
    | none => exact ih next applied
    | some change =>
      cases change with
      | error e => rfl
      | ok f => exact ih (f next) (applied + 1)

theorem overrideInPlace_eq (o : Options) (pairs : List (String × String)) :
    overrideInPlace pairs o =
      match o.applyOverrides pairs with
      | .ok (p, count) => .ok count p
      | .error e => .error e o := by
  have here : (EStateM.get : EStateM Failure Options Options) o = .ok o o := rfl
  have loop := forIn_override o o 0 pairs
  simp only [overrideInPlace, bind, EStateM.bind, get, getThe, MonadStateOf.get, here] at loop ⊢
  rw [loop]
  cases changed : o.change 0 pairs with
  | error e => simp only [applyOverrides, changed, bind, Except.bind]
  | ok copy =>
    simp only [applyOverrides, changed, bind, Except.bind]
    cases copy.1.check <;> rfl

/-- Overrides are applied just if each of them can be read and the options they come to are valid. Then
each option has its last value, all overrides of options are counted, and to apply them again makes no
difference. Else the first one that cannot be read is to blame, or the options they come to, and the
options stay as they are. -/
theorem applyOverrides_exactly (o : Options) (pairs : List (String × String)) :
    (∀ p count, o.applyOverrides pairs = .ok (p, count) ↔
      (∀ pair ∈ pairs, refusal? pair = none) ∧ o.Settles pairs p ∧ p.check = .ok () ∧
        count = pairs.countP isRecognized) ∧
    (∀ e, o.applyOverrides pairs = .error e ↔
      pairs.findSome? refusal? = some e ∨
        (∀ pair ∈ pairs, refusal? pair = none) ∧
          ∃ p, o.Settles pairs p ∧ p.check = .error e) ∧
    (overrideInPlace pairs o =
      match o.applyOverrides pairs with
      | .ok (p, count) => .ok count p
      | .error e => .error e o) ∧
    (∀ p count, o.applyOverrides pairs = .ok (p, count) →
      p.applyOverrides pairs = .ok (p, count)) ∧
    o.applyOverrides (pairs.filter isRecognized) = o.applyOverrides pairs := by
  refine ⟨fun p count => applyOverrides_eq_ok, fun e => applyOverrides_eq_error,
    overrideInPlace_eq o pairs, fun p count applied => ?_, ?_⟩
  · obtain ⟨readable, settles, valid, counted⟩ := applyOverrides_eq_ok.mp applied
    exact applyOverrides_eq_ok.mpr ⟨readable, settles.again, valid, counted⟩
  · rw [applyOverrides, applyOverrides, change_recognized]

example :
    let pairs := [("nodesep", "-1"), ("zoom", "2"), ("nodesep", "1")]
    (default.applyOverrides pairs).toOption.map (·.2) = some 2 := by
  decide +kernel

end Options
end CallChart
