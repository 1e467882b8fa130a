import CallChart.Json.Shape
import Mathlib.Data.List.Nodup
import Mathlib.Tactic.Common

namespace CallChart.Json

abbrev Members := List (Option String × Json)

theorem lookup_cons_eq (k key : Option String) (value : Json) (members : Members) :
    ((key, value) :: members).lookup k = if k = key then some value else members.lookup k := by
  by_cases here : k = key
  · simp [here]
  · have other : (k == key) = false := by simpa using here
    simp [List.lookup_cons, other, here]

theorem lookup_eq_none {members : Members} {k : Option String} (missing : k ∉ members.map (·.1)) :
    members.lookup k = none := by
  rw [List.lookup_eq_none_iff]
  intro member within
  have other : k ≠ member.1 := fun same => missing (same ▸ List.mem_map_of_mem within)
  simpa using other

theorem keys_mergedSlots (members slots : Members) :
    (mergedSlots members slots).map (·.1) = slots.map (·.1) := by
  induction slots with
  | nil => rfl
  | cons slot rest ih =>
    rw [mergedSlots]
    cases members.lookup slot.1 <;> simp [ih]

def patched (slot : Json) : Option Json → Json
  | some value => value.mergedInto slot
  | none => slot

theorem mergedSlots_congr {members slots members' : Members}
    (same : ∀ slot ∈ slots,
      patched slot.2 (members.lookup slot.1) = patched slot.2 (members'.lookup slot.1)) :
    mergedSlots members slots = mergedSlots members' slots := by
  have step (members : Members) (slot : Option String × Json) (rest : Members) :
      mergedSlots members (slot :: rest) =
        (slot.1, patched slot.2 (members.lookup slot.1)) :: mergedSlots members rest := by
    rw [mergedSlots]
    cases members.lookup slot.1 <;> rfl
  induction slots with
  | nil => rfl
  | cons slot rest ih =>
    obtain ⟨first, others⟩ := List.forall_mem_cons.mp same
    rw [step, step, first, ih others]

theorem lookup_mergedSlots (members slots : Members) (k : Option String) :
    (mergedSlots members slots).lookup k =
      (slots.lookup k).map fun slot => patched slot (members.lookup k) := by
  induction slots with
  | nil => rfl
  | cons slot rest ih =>
    obtain ⟨key, slot⟩ := slot
    rw [mergedSlots, lookup_cons_eq]
    by_cases here : k = key
    · subst here
      cases members.lookup k <;> simp [patched]
    · cases members.lookup key <;> simp only [lookup_cons_eq, here, ↓reduceIte, ih]

theorem lookup_insertMember {k : Option String} (key : Option String) (value : Json)
    (done : Members) :
    (insertMember key value done).lookup k = if k = key then some value else done.lookup k := by
  induction done with
  | nil => rw [insertMember, lookup_cons_eq]
  | cons first rest ih =>
    obtain ⟨key', value'⟩ := first
    rw [insertMember]
    split
    · rename_i same
      subst same
      simp only [lookup_cons_eq]
      split <;> rfl
    · rename_i other
      split
      · rw [lookup_cons_eq]
      · rw [lookup_cons_eq, lookup_cons_eq, ih]
        by_cases here : k = key
        · subst here
          simp [Ne.symm other]
        · simp [here]

theorem lookup_sortedMembers {members : Members} (apart : (members.map (·.1)).Nodup)
    (done : Members) (k : Option String) : (sortedMembers members done).lookup k =
      ((members.lookup k).map sorted).or (done.lookup k) := by
  induction members generalizing done with
  | nil => rfl
  | cons member rest ih =>
    obtain ⟨key, value⟩ := member
    rw [List.map_cons, List.nodup_cons] at apart
    rw [sortedMembers, ih apart.2, lookup_insertMember, lookup_cons_eq]
    by_cases here : k = key
    · subst here
      simp [lookup_eq_none apart.1]
    · simp [here]

theorem lookup_filter (keep : Option String → Bool) (members : Members) (k : Option String) :
    (members.filter fun member => keep member.1).lookup k =
      if keep k then members.lookup k else none := by
  induction members with
  | nil => simp
  | cons member rest ih =>
    obtain ⟨key, value⟩ := member
    rw [List.filter_cons, lookup_cons_eq]
    by_cases here : k = key
    · subst here
      cases kept : keep k <;> simp [kept, ih]
    · cases keep key <;> simp [here, ih, lookup_cons_eq]

def named (names : List String) (members : Members) : Members :=
  members.filter fun member => member.1.any names.contains

theorem lookup_named {names : List String} {name : String} (within : name ∈ names)
    (members : Members) :
    (named names members).lookup (some name) = members.lookup (some name) := by
  have kept : (some name).any names.contains = true := by simpa using within
  rw [named, lookup_filter (fun k => k.any names.contains), if_pos kept]

theorem lookup_map (change : Option String → Json → Json) (members : Members) (k : Option String) :
    (members.map fun member => (member.1, change member.1 member.2)).lookup k =
      (members.lookup k).map (change k) := by
  induction members with
  | nil => rfl
  | cons member rest ih =>
    obtain ⟨key, value⟩ := member
    rw [List.map_cons, lookup_cons_eq, lookup_cons_eq, ih]
    by_cases here : k = key
    · subst here
      simp
    · simp [here]

theorem bind_eq_ok {α β : Type} {result : Result α} {f : α → Result β} {b : β} :
    (result >>= f) = .ok b ↔ ∃ a, result = .ok a ∧ f a = .ok b := by
  cases result <;> simp [bind, Except.bind]

namespace Shape

theorem readMembers_cons_ok {members : Members} {α : Type} {shape : Shape α} {origin : Origin}
    {a base : α} {member : Option String × Json} {seen seen' : List String}
    (read : shape.readMembers origin seen base (member :: members) = .ok (seen', a)) :
    ∃ name, member.1 = some name ∧
      (shape.exact = false ∧ shape.readMembers origin seen base members = .ok (seen', a) ∨
        ∃ field ∈ shape.fields, ∃ set, field.read origin member.2 = .ok set ∧
          shape.readMembers origin (name :: seen) (set base) members = .ok (seen', a)) := by
  obtain ⟨_ | name, value⟩ := member
  · cases read
  refine ⟨name, rfl, ?_⟩
  rw [readMembers] at read
  split at read
  · cases exact : shape.exact with
    | true => simp [exact] at read
    | false => exact .inl ⟨rfl, by simpa [exact] using read⟩
  · rename_i field found
    split at read
    · cases read
    · exact .inr ⟨field, List.mem_of_find?_eq_some found, bind_eq_ok.mp read⟩

theorem read_object_ok {members : Members} {α : Type} {shape : Shape α} {origin : Origin} {a : α}
    (read : shape.read origin (.object members) = .ok a) :
    ∃ seen, shape.readMembers origin [] shape.blank members = .ok (seen, a) := by
  obtain ⟨⟨seen, record⟩, done, complete⟩ := bind_eq_ok.mp read
  simp only at complete
  split at complete
  · cases complete
  · obtain rfl := Except.ok.inj complete
    exact ⟨seen, done⟩

theorem read_array_ok {α : Type} {shape : Shape α} {origin : Origin} {a : α} {items : List Json}
    (read : shape.read origin (.array items) = .ok a) :
    ∃ left, shape.readElements origin 0 shape.blank shape.fields items = .ok (a, left) ∧
      (left = [] ∨ origin = .settings) := by
  obtain ⟨⟨record, left⟩, done, complete⟩ := bind_eq_ok.mp read
  simp only [List.isEmpty_iff] at complete
  split at complete
  · rename_i none
    obtain rfl := Except.ok.inj complete
    exact ⟨left, done, .inl none⟩
  · cases origin <;> simp only [reduceCtorEq] at complete
    obtain rfl := Except.ok.inj complete
    exact ⟨left, done, .inr rfl⟩

theorem find?_name {α : Type} (shape : Shape α) (apart : shape.names.Nodup) {field : Field α}
    (within : field ∈ shape.fields) : shape.fields.find? (·.name = field.name) = some field := by
  rw [names] at apart
  generalize shape.fields = fields at apart within ⊢
  induction fields with
  | nil => cases within
  | cons first rest ih =>
    rw [List.map_cons, List.nodup_cons] at apart
    rcases List.mem_cons.mp within with rfl | within
    · simp
    · have other : first.name ≠ field.name :=
        fun same => apart.1 (same ▸ List.mem_map_of_mem within)
      simpa [List.find?_cons, other] using ih apart.2 within

/-- The fields of a record one by one: each has a key of its own, is read by itself and is set
without regard to the others. -/
structure Lenses {α : Type} (shape : Shape α) (ι : Type) where
  Value : ι → Type
  key : ι → String
  get : (i : ι) → α → Value i
  set : (i : ι) → Value i → α → α
  read : Origin → (i : ι) → Json → Result (Value i)
  all : List ι
  mem_all : ∀ i, i ∈ all
  fields : shape.fields =
    all.map fun i => ⟨key i, false, fun origin j => (read origin i j).map (set i)⟩
  apart : (all.map key).Nodup
  get_set_self : ∀ i v a, get i (set i v a) = v
  get_set_other : ∀ {i j}, i ≠ j → ∀ v a, get i (set j v a) = get i a
  ext : ∀ {a b}, (∀ i, get i a = get i b) → a = b

namespace Lenses

structure Names {α ι : Type} {shape : Shape α} (lenses : shape.Lenses ι) (members : Members) :
    Prop where
  known : ∀ member ∈ members, ∃ i, member.1 = some (lenses.key i)
  apart : (members.map (·.1)).Nodup

/-- Each field has the value that its member is read as, or if there is none the one that it had. -/
def Sets {α ι : Type} {shape : Shape α} (lenses : shape.Lenses ι) (origin : Origin) (base : α)
    (members : Members) (a : α) : Prop :=
  ∀ i, match members.lookup (some (lenses.key i)) with
    | some j => lenses.read origin i j = .ok (lenses.get i a)
    | none => lenses.get i a = lenses.get i base

theorem Sets.again {members : Members} {α ι : Type} {shape : Shape α} {lenses : shape.Lenses ι}
    {origin : Origin} {a base : α} (sets : lenses.Sets origin base members a) :
    lenses.Sets origin a members a := by
  intro i
  have said := sets i
  split
  · rename_i named
    simpa only [named] using said
  · rfl

theorem key_inj {α ι : Type} {shape : Shape α} (lenses : shape.Lenses ι) {i k : ι}
    (same : lenses.key i = lenses.key k) : i = k :=
  List.inj_on_of_nodup_map lenses.apart (lenses.mem_all i) (lenses.mem_all k) same

theorem key_mem_names {α ι : Type} {shape : Shape α} (lenses : shape.Lenses ι) (i : ι) :
    lenses.key i ∈ shape.names := by
  rw [names, lenses.fields, List.map_map]
  exact List.mem_map_of_mem (lenses.mem_all i)

theorem find?_key {α ι : Type} {shape : Shape α} (lenses : shape.Lenses ι) (i : ι) :
    shape.fields.find? (·.name = lenses.key i) =
    some ⟨lenses.key i, false, fun origin j => (lenses.read origin i j).map (lenses.set i)⟩ := by
  have apart : shape.names.Nodup := by
    rw [names, lenses.fields, List.map_map]
    exact lenses.apart
  have within : (⟨lenses.key i, false, fun origin j => (lenses.read origin i j).map (lenses.set i)⟩ :
      Field α) ∈ shape.fields := by
    rw [lenses.fields]
    exact List.mem_map_of_mem (lenses.mem_all i)
  exact shape.find?_name apart within

theorem not_required {α ι : Type} {shape : Shape α} (lenses : shape.Lenses ι) (seen : List String) :
    (shape.fields.find? fun field => field.required && !seen.contains field.name) = none := by
  rw [lenses.fields]
  simp

theorem sets_nil {α ι : Type} {shape : Shape α} (lenses : shape.Lenses ι) {origin : Origin}
    {a base : α} : lenses.Sets origin base [] a ↔ base = a := by
  constructor
  · intro sets
    exact lenses.ext fun i => (sets i).symm
  · rintro rfl i
    rfl

theorem sets_cons {members : Members} {α ι : Type} {shape : Shape α} (lenses : shape.Lenses ι)
    {origin : Origin} {a base : α} {i : ι} {value : Json}
    (fresh : some (lenses.key i) ∉ members.map (·.1)) :
    lenses.Sets origin base ((some (lenses.key i), value) :: members) a ↔
      ∃ v, lenses.read origin i value = .ok v ∧
        lenses.Sets origin (lenses.set i v base) members a := by
  have first := lookup_eq_none fresh
  constructor
  · intro sets
    have own := sets i
    rw [lookup_cons_eq, if_pos rfl] at own
    refine ⟨_, own, fun k => ?_⟩
    by_cases here : k = i
    · subst here
      simp only [first, lenses.get_set_self]
    · have other : some (lenses.key k) ≠ some (lenses.key i) :=
        fun same => here (lenses.key_inj (Option.some.inj same))
      have said := sets k
      rw [lookup_cons_eq, if_neg other] at said
      rwa [lenses.get_set_other here]
  · rintro ⟨v, own, sets⟩ k
    have said := sets k
    rw [lookup_cons_eq]
    by_cases here : k = i
    · subst here
      rw [first] at said
      rw [if_pos rfl]
      simp only [own, said, lenses.get_set_self]
    · have other : some (lenses.key k) ≠ some (lenses.key i) :=
        fun same => here (lenses.key_inj (Option.some.inj same))
      rw [if_neg other]
      rwa [lenses.get_set_other here] at said

theorem readMembers_iff {members : Members} {α ι : Type} {shape : Shape α} (lenses : shape.Lenses ι)
    {origin : Origin} {a base : α} {seen : List String} (names : lenses.Names members)
    (unseen : ∀ key ∈ seen, some key ∉ members.map (·.1)) :
    (∃ seen', shape.readMembers origin seen base members = .ok (seen', a)) ↔
      lenses.Sets origin base members a := by
  obtain ⟨known, apart⟩ := names
  induction members generalizing seen base with
  | nil => simp [readMembers, sets_nil]
  | cons member rest ih =>
    obtain ⟨key, value⟩ := member
    obtain ⟨⟨i, rfl⟩, others⟩ := List.forall_mem_cons.mp known
    rw [List.map_cons, List.nodup_cons] at apart
    -- The keys seen so far are none of those to come, so no member is refused as a second one.
    have fresh : seen.contains (lenses.key i) = false := by
      rw [← Bool.not_eq_true, List.contains_iff_mem]
      exact fun within => unseen _ within (by simp)
    have later : ∀ key ∈ lenses.key i :: seen, some key ∉ rest.map (·.1) := by
      intro key within
      rcases List.mem_cons.mp within with rfl | within
      · exact apart.1
      · exact fun named => unseen key within (List.mem_cons_of_mem _ named)
    rw [sets_cons _ apart.1]
    simp only [readMembers, find?_key, fresh, Bool.false_eq_true, ↓reduceIte]
    cases lenses.read origin i value with
    | error e => simp [Except.map, bind, Except.bind]
    | ok v => simpa [Except.map, bind, Except.bind] using ih later others apart.2

theorem read_object_iff {members : Members} {α ι : Type} {shape : Shape α} (lenses : shape.Lenses ι)
    {origin : Origin} {a : α} (names : lenses.Names members) :
    shape.read origin (.object members) = .ok a ↔
      lenses.Sets origin shape.blank members a := by
  have unseen : ∀ key ∈ ([] : List String), some key ∉ members.map (·.1) := nofun
  rw [← lenses.readMembers_iff names unseen]
  simp only [Shape.read, bind, Except.bind, lenses.not_required]
  cases shape.readMembers origin [] shape.blank members with
  | error e => simp
  | ok result => simp [pure, Except.pure, Prod.ext_iff]

theorem key_injective {α ι : Type} {shape : Shape α} (lenses : shape.Lenses ι) :
    Function.Injective fun i => some (lenses.key i) :=
  fun _ _ same => lenses.key_inj (Option.some.inj same)

theorem names_map {α ι : Type} {shape : Shape α} (lenses : shape.Lenses ι) {slot : ι → Json}
    {order : List ι} (once : order.Nodup) :
    lenses.Names (order.map fun i => (some (lenses.key i), slot i)) := by
  refine ⟨fun member within => ?_, ?_⟩
  · obtain ⟨i, -, rfl⟩ := List.mem_map.mp within
    exact ⟨i, rfl⟩
  · rw [List.map_map]
    exact once.map lenses.key_injective

theorem lookup_slots {α ι : Type} {shape : Shape α} (lenses : shape.Lenses ι) {slot : ι → Json}
    {order : List ι} {i : ι} (there : i ∈ order) :
    (order.map fun i => (some (lenses.key i), slot i)).lookup (some (lenses.key i)) =
      some (slot i) := by
  induction order with
  | nil => cases there
  | cons k rest ih =>
    rw [List.map_cons, lookup_cons_eq]
    by_cases here : i = k
    · rw [here, if_pos rfl]
    · rw [if_neg fun same => here (lenses.key_injective same)]
      exact ih ((List.mem_cons.mp there).resolve_left here)

theorem read_written {α ι : Type} {shape : Shape α} (lenses : shape.Lenses ι) {origin : Origin}
    {a : α} {slot : ι → Json} {order : List ι} (once : order.Nodup) (complete : ∀ i, i ∈ order)
    (read : ∀ i, lenses.read origin i (slot i) = .ok (lenses.get i a)) :
    shape.read origin (.object (order.map fun i => (some (lenses.key i), slot i))) = .ok a := by
  rw [lenses.read_object_iff (lenses.names_map once)]
  intro i
  simp only [lenses.lookup_slots (complete i), read]

/-- Each field has the value that its slot is read as once its member has been merged into it, or if
there is none the one it had before. -/
def Merges {α ι : Type} {shape : Shape α} (lenses : shape.Lenses ι) (slot : ι → Json) (base : α)
    (members : Members) (a : α) : Prop :=
  ∀ i, match members.lookup (some (lenses.key i)) with
    | some j => lenses.read .value i (j.mergedInto (slot i)) = .ok (lenses.get i a)
    | none => lenses.get i a = lenses.get i base

/-- Slots that hold what is read as the fields of the record. -/
structure Holds {α ι : Type} {shape : Shape α} (lenses : shape.Lenses ι) (slot : ι → Json)
    (base : α) (slots : Members) : Prop where
  names : lenses.Names slots
  lookup (i : ι) : slots.lookup (some (lenses.key i)) = some (slot i)
  read (i : ι) : lenses.read .value i (slot i) = .ok (lenses.get i base)

theorem holds_map {α ι : Type} {shape : Shape α} (lenses : shape.Lenses ι) {base : α}
    {slot : ι → Json} {order : List ι} (once : order.Nodup) (complete : ∀ i, i ∈ order)
    (read : ∀ i, lenses.read .value i (slot i) = .ok (lenses.get i base)) :
    lenses.Holds slot base (order.map fun i => (some (lenses.key i), slot i)) :=
  ⟨lenses.names_map once, fun i => lenses.lookup_slots (complete i), read⟩

theorem read_merged_iff {slots : Members} {α ι : Type} {shape : Shape α} (lenses : shape.Lenses ι)
    {a base : α} {slot : ι → Json} (holds : lenses.Holds slot base slots) (members : Members) :
    shape.read .value (.object (mergedSlots members slots)) = .ok a ↔
      lenses.Merges slot base members a := by
  have names : lenses.Names (mergedSlots members slots) := by
    refine ⟨fun member within => ?_, by rw [keys_mergedSlots]; exact holds.names.apart⟩
    have key : member.1 ∈ slots.map (·.1) := by
      rw [← keys_mergedSlots members]
      exact List.mem_map_of_mem within
    obtain ⟨slot, there, same⟩ := List.mem_map.mp key
    rw [← same]
    exact holds.names.known slot there
  rw [lenses.read_object_iff names]
  refine forall_congr' fun i => ?_
  rw [lookup_mergedSlots, holds.lookup, Option.map_some]
  cases members.lookup (some (lenses.key i)) with
  | some j => rfl
  | none => simp only [patched, holds.read, Except.ok.injEq, eq_comm]

theorem read_field {α ι : Type} {shape : Shape α} (lenses : shape.Lenses ι) {origin : Origin}
    {field : Field α} (within : field ∈ shape.fields) {j : Json} {set : α → α}
    (read : field.read origin j = .ok set) :
    ∃ i v, lenses.read origin i j = .ok v ∧ set = lenses.set i v := by
  rw [lenses.fields, List.mem_map] at within
  obtain ⟨i, -, rfl⟩ := within
  cases value : lenses.read origin i j with
  | error e => simp [value, Except.map] at read
  | ok v =>
    simp only [value, Except.map, Except.ok.injEq] at read
    exact ⟨i, v, value, read.symm⟩

theorem readMembers_keeps {members : Members} {α ι : Type} {shape : Shape α}
    (lenses : shape.Lenses ι) {origin : Origin} {a base : α} {P : α → Prop}
    (keeps : ∀ i j v a, lenses.read origin i j = .ok v → P a → P (lenses.set i v a))
    {seen seen' : List String} (holds : P base)
    (read : shape.readMembers origin seen base members = .ok (seen', a)) : P a := by
  induction members generalizing seen base with
  | nil =>
    obtain ⟨-, rfl⟩ := Prod.mk.inj (Except.ok.inj read)
    exact holds
  | cons member rest ih =>
    obtain ⟨name, -, ⟨-, later⟩ | ⟨field, within, set, first, later⟩⟩ := readMembers_cons_ok read
    · exact ih holds later
    · obtain ⟨i, v, value, rfl⟩ := lenses.read_field within first
      exact ih (keeps i member.2 v base value holds) later

theorem readElements_keeps {α ι : Type} {shape : Shape α} (lenses : shape.Lenses ι)
    {origin : Origin} {a base : α} {P : α → Prop}
    (keeps : ∀ i j v a, lenses.read origin i j = .ok v → P a → P (lenses.set i v a)) {index : Nat}
    {fields : List (Field α)} {items left : List Json}
    (within : ∀ field ∈ fields, field ∈ shape.fields) (holds : P base)
    (read : shape.readElements origin index base fields items = .ok (a, left)) : P a := by
  induction fields generalizing index base items with
  | nil =>
    obtain ⟨rfl, -⟩ := Prod.mk.inj (Except.ok.inj read)
    exact holds
  | cons field fields ih =>
    obtain ⟨here, others⟩ := List.forall_mem_cons.mp within
    cases items with
    | nil =>
      rw [readElements] at read
      split at read
      · cases read
      · exact ih others holds read
    | cons item items =>
      obtain ⟨set, first, later⟩ := bind_eq_ok.mp read
      obtain ⟨i, v, value, rfl⟩ := lenses.read_field here first
      exact ih others (keeps i item v base value holds) later

theorem read_keeps {α ι : Type} {shape : Shape α} (lenses : shape.Lenses ι) {origin : Origin}
    {a : α} {P : α → Prop}
    (keeps : ∀ i j v a, lenses.read origin i j = .ok v → P a → P (lenses.set i v a)) {j : Json}
    (holds : P shape.blank) (read : shape.read origin j = .ok a) :
    P a := by
  cases j with
  | object members =>
    obtain ⟨seen, done⟩ := read_object_ok read
    exact lenses.readMembers_keeps keeps holds done
  | array items =>
    obtain ⟨left, done, -⟩ := read_array_ok read
    exact lenses.readElements_keeps keeps (fun _ within => within) holds done
  | _ => cases read

end Lenses
end Shape
end CallChart.Json
