import CallChart.Proofs.Json.Record

namespace CallChart.Json

mutual

def isApart : Json → Bool
  | .array items => areApart items
  | .object members => decide (members.filterMap (·.1)).Nodup && membersApart members
  | _ => true

def areApart : List Json → Bool
  | [] => true
  | item :: rest => isApart item && areApart rest

def membersApart : List (Option String × Json) → Bool
  | [] => true
  | (_, value) :: rest => isApart value && membersApart rest

end

theorem isApart_of_mem {members : Members} (apart : (Json.object members).isApart = true) :
    (members.filterMap (·.1)).Nodup ∧ ∀ member ∈ members, member.2.isApart = true := by
  simp only [isApart, Bool.and_eq_true, decide_eq_true_eq] at apart
  refine ⟨apart.1, ?_⟩
  have each := apart.2
  clear apart
  induction members with
  | nil => simp
  | cons member rest ih =>
    simp only [membersApart, Bool.and_eq_true] at each
    exact List.forall_mem_cons.mpr ⟨each.1, ih each.2⟩

def keysAmong (names : List String) : Json → Bool
  | .object members => members.all fun member => member.1.any names.contains
  | _ => true

theorem mem_keys_insertMember {key k : Option String} {value : Json} {done : Members} :
    k ∈ (insertMember key value done).map (·.1) ↔ k = key ∨ k ∈ done.map (·.1) := by
  induction done with
  | nil => simp [insertMember]
  | cons first rest ih =>
    obtain ⟨key', value'⟩ := first
    rw [insertMember]
    split
    · rename_i same
      subst same
      simp
    · split
      · simp
      · simp only [List.map_cons, List.mem_cons, ih]
        tauto

theorem mem_keys_sortedMembers {k : Option String} {members done : Members} :
    k ∈ (sortedMembers members done).map (·.1) ↔ k ∈ members.map (·.1) ∨ k ∈ done.map (·.1) := by
  induction members generalizing done with
  | nil => simp [sortedMembers]
  | cons member rest ih =>
    rw [sortedMembers, ih, mem_keys_insertMember]
    simp only [List.map_cons, List.mem_cons]
    tauto

theorem readVariantName_eq_ok {variants : List String} {name : String} {key : Option String} :
    readVariantName variants key = .ok name ↔
    key = some name ∧ name ∈ variants := by
  unfold readVariantName
  cases key with
  | none => simp
  | some s =>
    simp only [List.contains_iff_mem, Option.some.injEq]
    split
    · rename_i within
      simp only [Except.ok.injEq]
      exact ⟨fun same => ⟨same, same ▸ within⟩, And.left⟩
    · rename_i missing
      simp only [reduceCtorEq, false_iff, not_and]
      rintro rfl
      exact missing

theorem readNull_eq_ok {j : Json} {u : Unit} : readNull j = .ok u ↔ j = .null := by
  cases j <;> simp [readNull]

theorem readVariant_object_iff {origin : Origin} {variants : List String} {name : String}
    {members : Members} (plain : origin ≠ .settings) :
    readVariant origin variants (.object members) = .ok name ↔
      name ∈ variants ∧ members = [(some name, .null)] := by
  cases origin with
  | settings => exact (plain rfl).elim
  | document =>
    match members with
    | [] => simp [readVariant]
    | [(key, value)] =>
      simp only [readVariant, List.isEmpty_nil, ↓reduceIte, bind_eq_ok, readVariantName_eq_ok,
        readNull_eq_ok, exists_const, pure, Except.pure, Except.ok.injEq, exists_eq_right_right,
        List.cons.injEq, Prod.mk.injEq, and_true]
      tauto
    | (key, value) :: member :: rest => simp [readVariant, bind_eq_ok]
  | value =>
    match members with
    | [] => simp [readVariant]
    | [(key, value)] =>
      simp only [readVariant, bind_eq_ok, readVariantName_eq_ok, readNull_eq_ok, exists_const,
        pure, Except.pure, Except.ok.injEq, exists_eq_right_right, List.cons.injEq, Prod.mk.injEq,
        and_true]
      tauto
    | (key, value) :: member :: rest => simp [readVariant]

theorem sortedMembers_sole {name : String} {members : Members}
    (apart : (members.filterMap (·.1)).Nodup) :
    sortedMembers members [] = [(some name, .null)] ↔ members = [(some name, .null)] := by
  refine ⟨fun sole => ?_, fun sole => by rw [sole]; rfl⟩
  -- No key is lost, so there was no other one before.
  have only (key : Option String) (within : key ∈ members.map (·.1)) : key = some name := by
    have there : key ∈ (sortedMembers members []).map (·.1) :=
      mem_keys_sortedMembers.mpr (.inl within)
    rw [sole] at there
    simpa using there
  cases members with
  | nil => cases sole
  | cons member rest =>
    obtain ⟨key, value⟩ := member
    obtain rfl := only key (by simp)
    cases rest with
    | nil =>
      simp only [sortedMembers, insertMember, List.cons.injEq, Prod.mk.injEq, and_true,
        true_and] at sole
      have null : value = .null := by cases value <;> first | rfl | cases sole
      rw [null]
    | cons member rest =>
      obtain ⟨key, value⟩ := member
      obtain rfl := only key (by simp)
      simp at apart

theorem readVariant_sorted_iff {variants : List String} {name : String} {j : Json}
    (apart : j.isApart = true) :
    readVariant .value variants j.sorted = .ok name ↔
      readVariant .document variants j = .ok name := by
  cases j with
  | object members =>
    have value : Origin.value ≠ .settings := by decide
    have document : Origin.document ≠ .settings := by decide
    rw [sorted, readVariant_object_iff value, readVariant_object_iff document,
      sortedMembers_sole (isApart_of_mem apart).1]
  | text s => rfl
  | _ => exact ⟨nofun, nofun⟩

/-- A document without empty leaves that is nested at most this deep. -/
structure Shallow (limit : Nat) (j : Json) : Prop where
  sound : j.isSound = true
  depth : j.depth ≤ limit

namespace Shallow

theorem mono {limit : Nat} {j : Json} {more : Nat} (shallow : Shallow limit j)
    (less : limit ≤ more) : Shallow more j :=
  ⟨shallow.sound, Nat.le_trans shallow.depth less⟩

theorem array {limit : Nat} {items : List Json} (each : ∀ item ∈ items, Shallow limit item) :
    Shallow (limit + 1) (.array items) := by
  suffices both : areSound items = true ∧ itemsDepth items ≤ limit from
    ⟨both.1, Nat.succ_le_succ both.2⟩
  induction items with
  | nil => exact ⟨rfl, Nat.zero_le _⟩
  | cons item rest ih =>
    obtain ⟨first, others⟩ := List.forall_mem_cons.mp each
    obtain ⟨sound, depth⟩ := ih others
    exact ⟨by rw [areSound, first.sound, sound]; rfl, Nat.max_le.mpr ⟨first.depth, depth⟩⟩

theorem object {limit : Nat} {members : Members}
    (each : ∀ member ∈ members, member.1.isSome = true ∧ Shallow limit member.2) :
    Shallow (limit + 1) (.object members) := by
  suffices both : membersSound members = true ∧ membersDepth members ≤ limit from
    ⟨both.1, Nat.succ_le_succ both.2⟩
  induction members with
  | nil => exact ⟨rfl, Nat.zero_le _⟩
  | cons member rest ih =>
    obtain ⟨⟨key, first⟩, others⟩ := List.forall_mem_cons.mp each
    obtain ⟨sound, depth⟩ := ih others
    exact ⟨by rw [membersSound, key, first.sound, sound]; rfl, Nat.max_le.mpr ⟨first.depth, depth⟩⟩

end Shallow

/-- A reader that makes the same of a document and of its value, and reads nothing deep. -/
structure Steady {α : Type} (limit : Nat) (read : Json → Result α) : Prop where
  sorted (j : Json) : read j.sorted = read j
  shallow {j : Json} {a : α} : read j = .ok a → Shallow limit j

namespace Steady

theorem mono {α : Type} {limit : Nat} {read : Json → Result α} {more : Nat}
    (steady : Steady limit read) (less : limit ≤ more) : Steady more read :=
  ⟨steady.sorted, fun done => (steady.shallow done).mono less⟩

theorem leaf {α : Type} {read : Json → Result α} (sorted : ∀ j, read j.sorted = read j)
    (items : ∀ l a, read (.array l) ≠ .ok a) (members : ∀ l a, read (.object l) ≠ .ok a)
    (number : ∀ a, read (.number none) ≠ .ok a) (text : ∀ a, read (.text none) ≠ .ok a) :
    Steady 0 read := by
  refine ⟨sorted, fun {j a} done => ?_⟩
  cases j with
  | array l => exact (items l a done).elim
  | object l => exact (members l a done).elim
  | number n =>
    cases n with
    | none => exact (number a done).elim
    | some n => exact ⟨rfl, Nat.le_refl 0⟩
  | text s =>
    cases s with
    | none => exact (text a done).elim
    | some s => exact ⟨rfl, Nat.le_refl 0⟩
  | _ => exact ⟨rfl, Nat.le_refl 0⟩

theorem text : Steady 0 readText :=
  leaf (fun j => by cases j <;> rfl) nofun nofun nofun nofun

theorem bool : Steady 0 readBool :=
  leaf (fun j => by cases j <;> rfl) nofun nofun nofun nofun

theorem count : Steady 0 readCount :=
  leaf (fun j => by cases j <;> rfl) nofun nofun nofun nofun

theorem real : Steady 0 readReal :=
  leaf (fun j => by cases j <;> rfl) nofun nofun nofun nofun

theorem bind {α β : Type} {limit : Nat} {read : Json → Result α} (steady : Steady limit read)
    (f : α → Result β) :
    Steady limit fun j => read j >>= f := by
  refine ⟨fun j => by rw [steady.sorted], fun done => ?_⟩
  obtain ⟨a, first, -⟩ := bind_eq_ok.mp done
  exact steady.shallow first

theorem list {α : Type} {limit : Nat} {read : Json → Result α} (steady : Steady limit read) :
    Steady (limit + 1) (readList read) where
  sorted j := by
    cases j with
    | array items =>
      show readItems read (sortedItems items) = readItems read items
      induction items with
      | nil => rfl
      | cons item rest ih => rw [sortedItems, readItems, readItems, steady.sorted, ih]
    | _ => rfl
  shallow {j l} done := by
    cases j with
    | array items =>
      refine .array ?_
      simp only [readList] at done
      induction items generalizing l with
      | nil => simp
      | cons item rest ih =>
        obtain ⟨a, first, done⟩ := bind_eq_ok.mp done
        obtain ⟨l', others, -⟩ := bind_eq_ok.mp done
        exact List.forall_mem_cons.mpr ⟨steady.shallow first, ih others⟩
    | _ => cases done

end Steady

namespace Shape.Lenses

theorem names_of_keysAmong {α ι : Type} {shape : Shape α} (lenses : shape.Lenses ι)
    {members : Members} (among : (Json.object members).keysAmong shape.names = true)
    (apart : (members.filterMap (·.1)).Nodup) : lenses.Names members := by
  have known : ∀ member ∈ members, ∃ i, member.1 = some (lenses.key i) := by
    intro member within
    have named := List.all_eq_true.mp among member within
    obtain ⟨name, key, listed⟩ := (Option.any_eq_true _ _).mp named
    rw [List.contains_iff_mem, names, lenses.fields, List.map_map] at listed
    obtain ⟨i, -, same⟩ := List.mem_map.mp listed
    exact ⟨i, key.trans (congrArg some same.symm)⟩
  have keys : members.map (·.1) = (members.filterMap (·.1)).map some := by
    clear apart among
    induction members with
    | nil => rfl
    | cons member rest ih =>
      obtain ⟨⟨i, key⟩, others⟩ := List.forall_mem_cons.mp known
      simp [key, ih others]
  refine ⟨known, ?_⟩
  rw [keys]
  exact apart.map fun _ _ => Option.some.inj

theorem sets_sorted {α ι : Type} {shape : Shape α} (lenses : shape.Lenses ι) {a base : α}
    {members : Members} (same : ∀ i j, lenses.read .value i j.sorted = lenses.read .document i j)
    (apart : (members.map (·.1)).Nodup) :
    lenses.Sets .value base (sortedMembers members []) a ↔
      lenses.Sets .document base members a := by
  refine forall_congr' fun i => ?_
  rw [lookup_sortedMembers apart]
  cases members.lookup (some (lenses.key i)) with
  | none => rfl
  | some j => simp [same]

theorem readElements_sorted {α ι : Type} {shape : Shape α} (lenses : shape.Lenses ι) {base : α}
    {items : List Json} {fields : List (Field α)} {index : Nat}
    (same : ∀ i j, lenses.read .value i j.sorted = lenses.read .document i j)
    (within : ∀ field ∈ fields, field ∈ shape.fields) :
    shape.readElements .value index base fields (sortedItems items) =
      (shape.readElements .document index base fields items).map
        fun (a, left) => (a, sortedItems left) := by
  induction fields generalizing index base items with
  | nil => rfl
  | cons field fields ih =>
    obtain ⟨first, others⟩ := List.forall_mem_cons.mp within
    have agrees (j : Json) : field.read .value j.sorted = field.read .document j := by
      rw [lenses.fields, List.mem_map] at first
      obtain ⟨i, -, rfl⟩ := first
      simp only [same]
    cases items with
    | nil =>
      rw [sortedItems, readElements, readElements]
      split
      · rfl
      · exact @ih base [] (index + 1) others
    | cons item items =>
      rw [sortedItems, readElements, readElements, agrees]
      cases field.read .document item with
      | error e => rfl
      | ok set => exact ih others

theorem read_array_sorted {α ι : Type} {shape : Shape α} (lenses : shape.Lenses ι) {a : α}
    {items : List Json} (same : ∀ i j, lenses.read .value i j.sorted = lenses.read .document i j) :
    shape.read .value (.array (sortedItems items)) = .ok a ↔
    shape.read .document (.array items) = .ok a := by
  simp only [Shape.read, lenses.readElements_sorted same fun _ within => within]
  cases shape.readElements .document 0 shape.blank shape.fields items with
  | error e => simp [Except.map, bind, Except.bind]
  | ok result =>
    obtain ⟨a, _ | ⟨item, left⟩⟩ := result <;>
      simp [Except.map, bind, Except.bind, sortedItems]

theorem shallow_of_readMembers {α ι : Type} {shape : Shape α} (lenses : shape.Lenses ι)
    {origin : Origin} {a base : α} {members : Members} {limit : Nat}
    (flat : ∀ i j v, lenses.read origin i j = .ok v → Shallow limit j) (exact : shape.exact = true)
    {seen seen' : List String}
    (read : shape.readMembers origin seen base members = .ok (seen', a)) :
    ∀ member ∈ members, member.1.isSome = true ∧ Shallow limit member.2 := by
  induction members generalizing seen base with
  | nil => simp
  | cons member rest ih =>
    obtain ⟨name, key, ⟨free, -⟩ | ⟨field, within, set, first, later⟩⟩ := readMembers_cons_ok read
    · rw [exact] at free
      cases free
    · obtain ⟨i, v, value, -⟩ := lenses.read_field within first
      exact List.forall_mem_cons.mpr ⟨⟨by rw [key]; rfl, flat i member.2 v value⟩, ih later⟩

theorem shallow_of_readElements {α ι : Type} {shape : Shape α} (lenses : shape.Lenses ι)
    {origin : Origin} {a base : α} {items : List Json} {fields : List (Field α)} {limit index : Nat}
    (flat : ∀ i j v, lenses.read origin i j = .ok v → Shallow limit j)
    (within : ∀ field ∈ fields, field ∈ shape.fields)
    (read : shape.readElements origin index base fields items = .ok (a, [])) :
    ∀ item ∈ items, Shallow limit item := by
  induction fields generalizing index base items with
  | nil =>
    obtain ⟨-, rfl⟩ := Prod.mk.inj (Except.ok.inj read)
    simp
  | cons field fields ih =>
    obtain ⟨here, others⟩ := List.forall_mem_cons.mp within
    cases items with
    | nil => simp
    | cons item items =>
      obtain ⟨set, first, later⟩ := bind_eq_ok.mp read
      obtain ⟨i, v, value, -⟩ := lenses.read_field here first
      exact List.forall_mem_cons.mpr ⟨flat i item v value, ih others later⟩

theorem shallow_of_read {α ι : Type} {shape : Shape α} (lenses : shape.Lenses ι) {origin : Origin}
    {a : α} {limit : Nat} (flat : ∀ i j v, lenses.read origin i j = .ok v → Shallow limit j)
    (plain : origin ≠ .settings) (exact : shape.exact = true) {j : Json}
    (read : shape.read origin j = .ok a) : Shallow (limit + 1) j := by
  cases j with
  | object members =>
    obtain ⟨seen, done⟩ := read_object_ok read
    exact .object (lenses.shallow_of_readMembers flat exact done)
  | array items =>
    obtain ⟨left, done, all⟩ := read_array_ok read
    obtain rfl := all.resolve_right plain
    exact .array (lenses.shallow_of_readElements flat (fun _ within => within) done)
  | _ => cases read

end Shape.Lenses
end CallChart.Json
