import CallChart.Options.Store
import CallChart.Proofs.Json.Record
import CallChart.Proofs.Options.Overrides
import CallChart.Proofs.Options.Text

namespace CallChart

namespace Json

@[simp] theorem sorted_ofText (s : String) : (ofText s).sorted = ofText s := rfl

@[simp] theorem sorted_ofNat (n : Nat) : (ofNat n).sorted = ofNat n := rfl

@[simp] theorem sorted_ofReal (x : Binary64) : (ofReal x).sorted = ofReal x := by
  unfold ofReal
  split <;> rfl

@[simp] theorem sorted_bool (b : Bool) : (bool b).sorted = bool b := rfl

@[simp] theorem sorted_ofTexts (items : List String) : (ofTexts items).sorted = ofTexts items := by
  suffices same : sortedItems (items.map ofText) = items.map ofText by rw [ofTexts, sorted, same]
  induction items with
  | nil => rfl
  | cons item items ih => simp [sortedItems, ih]

theorem sorted_ofFields (fields : List (String × Json)) : (ofFields fields).sorted =
    .object (sortedMembers (fields.map fun (key, value) => (some key, value)) []) := rfl

theorem mergedInto_ofFields (fields slots : List (String × Json)) :
    (ofFields fields).mergedInto (ofFields slots) = .object (mergedSlots
      (fields.map fun (key, value) => (some key, value))
      (slots.map fun (key, value) => (some key, value))) := rfl

@[simp] theorem mergedInto_ofText (patch : Json) (s : String) :
    patch.mergedInto (ofText s) = patch := rfl

@[simp] theorem mergedInto_ofNat (patch : Json) (n : Nat) : patch.mergedInto (ofNat n) = patch := rfl

@[simp] theorem mergedInto_bool (patch : Json) (b : Bool) : patch.mergedInto (bool b) = patch := rfl

@[simp] theorem mergedInto_ofTexts (patch : Json) (items : List String) :
    patch.mergedInto (ofTexts items) = patch := rfl

@[simp] theorem mergedInto_ofReal (patch : Json) (x : Binary64) :
    patch.mergedInto (ofReal x) = patch := by
  unfold ofReal
  split <;> rfl

theorem readList_ofTexts (items : List String) : readList readText (ofTexts items) = .ok items :=
  lawful_text.list.read_write items

end Json

theorem GroupMode.ofText_text (m : GroupMode) : GroupMode.ofText m.text = .ok m := by
  cases m <;> rfl

theorem RankDir.ofText_text (d : RankDir) : RankDir.ofText d.text = .ok d := by
  cases d <;> rfl

open Json (Origin Members)

namespace Style

theorem readChoice_ofText {α : Type} {ofText : String → Except Failure α} {text : String} {a : α}
    (read : ofText text = .ok a) : readChoice ofText (.ofText text) = .ok a := by
  simp only [readChoice, Json.readText, Json.ofText, bind, Except.bind, read]
  rfl

inductive Member where
  | minlen
  | nodesep
  | nodeshape
  | nodestyle
  | rankdir
  deriving DecidableEq, Repr

namespace Member

def Value : Member → Type
  | .minlen => Nat
  | .nodesep => Binary64
  | .nodeshape | .nodestyle => String
  | .rankdir => RankDir

def key : Member → String
  | .minlen => "minlen"
  | .nodesep => "nodesep"
  | .nodeshape => "nodeshape"
  | .nodestyle => "nodestyle"
  | .rankdir => "rankdir"

def get : (i : Member) → Style → i.Value
  | .minlen, s => s.minlen
  | .nodesep, s => s.nodesep
  | .nodeshape, s => s.nodeshape
  | .nodestyle, s => s.nodestyle
  | .rankdir, s => s.rankdir

def set : (i : Member) → i.Value → Style → Style
  | .minlen, n, s => { s with minlen := n }
  | .nodesep, x, s => { s with nodesep := x }
  | .nodeshape, t, s => { s with nodeshape := t }
  | .nodestyle, t, s => { s with nodestyle := t }
  | .rankdir, d, s => { s with rankdir := d }

def read : (i : Member) → Json → Json.Result i.Value
  | .minlen => Json.readCount
  | .nodesep => Json.readReal
  | .nodeshape => Json.readText
  | .nodestyle => Json.readText
  | .rankdir => readChoice RankDir.ofText

def write (s : Style) : Member → Json
  | .minlen => .ofNat s.minlen
  | .nodesep => .ofReal s.nodesep
  | .nodeshape => .ofText s.nodeshape
  | .nodestyle => .ofText s.nodestyle
  | .rankdir => .ofText s.rankdir.text

def all : List Member :=
  [.minlen, .nodesep, .nodeshape, .nodestyle, .rankdir]

theorem mem_all (i : Member) : i ∈ all := by
  cases i <;> decide

end Member

def lenses : shape.Lenses Member where
  Value := Member.Value
  key := Member.key
  get := Member.get
  set := Member.set
  read _ := Member.read
  all := Member.all
  mem_all := Member.mem_all
  fields := rfl
  apart := by decide
  get_set_self i _ _ := by cases i <;> rfl
  get_set_other {i k} other _ _ := by cases i <;> cases k <;> first | rfl | exact (other rfl).elim
  ext {s t} same := by
    cases s
    cases t
    simp only [Style.mk.injEq]
    exact ⟨same .minlen, same .nodesep, same .nodeshape, same .nodestyle, same .rankdir⟩

@[simp] theorem lenses_key (i : Member) : lenses.key i = i.key := rfl

theorem Member.mergedInto_write (s : Style) (i : Member) (j : Json) :
    j.mergedInto (i.write s) = j := by
  cases i with
  | nodesep => exact Json.mergedInto_ofReal j s.nodesep
  | _ => rfl

theorem Member.read_write {s : Style} (small : s.minlen < 2 ^ 32)
    (finite : s.nodesep.isFinite = true) (i : Member) : i.read (i.write s) = .ok (i.get s) := by
  cases i with
  | minlen =>
    show Json.readCount (.ofNat s.minlen) = .ok s.minlen
    exact Json.readCount_ofNat small
  | nodesep =>
    show Json.readReal (.ofReal s.nodesep) = .ok s.nodesep
    rw [Json.ofReal, if_pos finite]
    rfl
  | nodeshape => rfl
  | nodestyle => rfl
  | rankdir =>
    show readChoice RankDir.ofText (.ofText s.rankdir.text) = .ok s.rankdir
    exact readChoice_ofText s.rankdir.ofText_text

theorem slots (s : Style) :
    .ofFields s.toFields = Json.object (Member.all.map fun i => (some i.key, i.write s)) :=
  rfl

theorem read_toFields {s : Style} (origin : Origin) (small : s.minlen < 2 ^ 32)
    (finite : s.nodesep.isFinite = true) : shape.read origin (.ofFields s.toFields) = .ok s := by
  rw [slots]
  exact lenses.read_written lenses.apart.of_map Member.mem_all (Member.read_write small finite)

theorem sorted_toFields (s : Style) :
    (Json.ofFields s.toFields).sorted = .ofFields s.toFields := by
  rw [Json.sorted_ofFields]
  simp only [toFields, List.map_cons, List.map_nil, Json.sortedMembers, Json.sorted_ofText,
    Json.sorted_ofReal, Json.insertMember, Json.sorted_ofNat, Option.some.injEq, String.reduceEq,
    ↓reduceIte, Option.getD_some, String.reduceLT, Json.ofFields]

theorem mergedInto_toFields (s t : Style) :
    (Json.ofFields s.toFields).mergedInto (.ofFields t.toFields) = .ofFields s.toFields := by
  rw [Json.mergedInto_ofFields]
  simp [toFields, Json.ofFields, Json.mergedSlots, List.lookup_cons]

theorem read_mergedInto_iff {s t : Style} {members : Members} (small : s.minlen < 2 ^ 32)
    (finite : s.nodesep.isFinite = true) :
    shape.read .value ((Json.object members).mergedInto (.ofFields s.toFields)) = .ok t ↔
      lenses.Sets .value s members t := by
  have holds : lenses.Holds (fun i => i.write s) s
      (Member.all.map fun i => (some i.key, i.write s)) :=
    lenses.holds_map lenses.apart.of_map Member.mem_all (Member.read_write small finite)
  refine (lenses.read_merged_iff holds members).trans (forall_congr' fun i => ?_)
  cases members.lookup (some (lenses.key i)) with
  | none => rfl
  | some j => simp only [i.mergedInto_write]

theorem lt_of_readCount {j : Json} {n : Nat} (read : Json.readCount j = .ok n) : n < 2 ^ 32 := by
  unfold Json.readCount at read
  split at read
  · split at read
    · rename_i small
      obtain rfl := Except.ok.inj read
      obtain ⟨start, bound⟩ := small
      have power : Nat.pow 2 32 = 2 ^ 32 := rfl
      omega
    · cases read
  · cases read

theorem minlen_of_read {s : Style} {origin : Origin} {j : Json}
    (read : shape.read origin j = .ok s) :
    s.minlen < 2 ^ 32 := by
  refine lenses.read_keeps (P := fun s => s.minlen < 2 ^ 32) ?_ (by decide) read
  intro i j v s value small
  cases i with
  | minlen => exact lt_of_readCount value
  | _ => exact small

end Style

namespace Options

inductive Member where
  | focus
  | group
  | limited
  | ignored
  | included
  | nostd
  | nointer
  | tests
  | retention
  | style
  deriving DecidableEq, Repr

namespace Member

def Value : Member → Type
  | .focus => String
  | .group => GroupMode
  | .limited | .ignored | .included => List String
  | .nostd | .nointer | .tests => Bool
  | .retention => Retention
  | .style => Style

def key : Member → String
  | .focus => "focus"
  | .group => "group"
  | .limited => "limit"
  | .ignored => "ignore"
  | .included => "include"
  | .nostd => "nostd"
  | .nointer => "nointer"
  | .tests => "tests"
  | .retention => "retention"
  | .style => "style"

def get : (i : Member) → Options → i.Value
  | .focus, o => o.focus
  | .group, o => o.group
  | .limited, o => o.limited
  | .ignored, o => o.ignored
  | .included, o => o.included
  | .nostd, o => o.nostd
  | .nointer, o => o.nointer
  | .tests, o => o.tests
  | .retention, o => o.retention
  | .style, o => o.style

def set : (i : Member) → i.Value → Options → Options
  | .focus, t, o => { o with focus := t }
  | .group, mode, o => { o with group := mode }
  | .limited, entries, o => { o with limited := entries }
  | .ignored, entries, o => { o with ignored := entries }
  | .included, entries, o => { o with included := entries }
  | .nostd, b, o => { o with nostd := b }
  | .nointer, b, o => { o with nointer := b }
  | .tests, b, o => { o with tests := b }
  | .retention, r, o => { o with retention := r }
  | .style, s, o => { o with style := s }

def read (origin : Origin) : (i : Member) → Json → Json.Result i.Value
  | .focus => Json.readText
  | .group => Style.readChoice GroupMode.ofText
  | .limited => Json.readList Json.readText
  | .ignored => Json.readList Json.readText
  | .included => Json.readList Json.readText
  | .nostd => Json.readBool
  | .nointer => Json.readBool
  | .tests => Json.readBool
  | .retention => readRetention origin
  | .style => Style.shape.read origin

def write (o : Options) : Member → Json
  | .focus => .ofText o.focus
  | .group => .ofText o.group.text
  | .limited => .ofTexts o.limited
  | .ignored => .ofTexts o.ignored
  | .included => .ofTexts o.included
  | .nostd => .bool o.nostd
  | .nointer => .bool o.nointer
  | .tests => .bool o.tests
  | .retention => .ofText o.retention.text
  | .style => .ofFields o.style.toFields

def all : List Member :=
  [.focus, .group, .limited, .ignored, .included, .nostd, .nointer, .tests, .retention, .style]

def sorted : List Member :=
  [.focus, .group, .ignored, .included, .limited, .nointer, .nostd, .retention, .style, .tests]

theorem mem_all (i : Member) : i ∈ all := by
  cases i <;> decide

theorem mem_sorted (i : Member) : i ∈ sorted := by
  cases i <;> decide

end Member

def lenses : shape.Lenses Member where
  Value := Member.Value
  key := Member.key
  get := Member.get
  set := Member.set
  read := Member.read
  all := Member.all
  mem_all := Member.mem_all
  fields := rfl
  apart := by decide
  get_set_self i _ _ := by cases i <;> rfl
  get_set_other {i k} other _ _ := by cases i <;> cases k <;> first | rfl | exact (other rfl).elim
  ext {o p} same := by
    cases o
    cases p
    simp only [Options.mk.injEq]
    exact ⟨same .focus, same .group, same .limited, same .ignored, same .included, same .nostd,
      same .nointer, same .tests, same .retention, same .style⟩

@[simp] theorem lenses_key (i : Member) : lenses.key i = i.key := rfl

theorem readRetention_ofText (origin : Json.Origin) (r : Retention) :
    readRetention origin (.ofText r.text) = .ok r := by
  cases r <;> rfl

theorem Member.mergedInto_write {i : Member} (other : i ≠ .style) (o : Options) (j : Json) :
    j.mergedInto (i.write o) = j := by
  cases i with
  | style => exact (other rfl).elim
  | _ => rfl

theorem Member.read_write {o : Options} (origin : Origin) (small : o.style.minlen < 2 ^ 32)
    (finite : o.style.nodesep.isFinite = true) (i : Member) :
    i.read origin (i.write o) = .ok (i.get o) := by
  cases i with
  | group => exact Style.readChoice_ofText o.group.ofText_text
  | limited => exact Json.readList_ofTexts o.limited
  | ignored => exact Json.readList_ofTexts o.ignored
  | included => exact Json.readList_ofTexts o.included
  | retention => exact readRetention_ofText origin o.retention
  | style => exact Style.read_toFields origin small finite
  | _ => rfl

theorem sorted_toJson (o : Options) : o.toJson.sorted = .ofFields
    [("focus", .ofText o.focus), ("group", .ofText o.group.text), ("ignore", .ofTexts o.ignored),
      ("include", .ofTexts o.included), ("limit", .ofTexts o.limited), ("nointer", .bool o.nointer),
      ("nostd", .bool o.nostd), ("retention", .ofText o.retention.text),
      ("style", .ofFields o.style.toFields), ("tests", .bool o.tests)] := by
  have style := o.style.sorted_toFields
  rw [toJson, Json.sorted_ofFields, toFields]
  generalize Json.ofFields o.style.toFields = drawn at style ⊢
  simp only [List.map_cons, List.map_nil, Json.sortedMembers, style, Json.sorted_ofText,
    Json.sorted_bool, Json.sorted_ofTexts, Json.insertMember, Option.some.injEq, String.reduceEq,
    ↓reduceIte, Option.getD_some, String.reduceLT, Json.ofFields]

theorem slots (o : Options) :
    o.toJson = .object (Member.all.map fun i => (some i.key, i.write o)) :=
  rfl

theorem sorted_slots (o : Options) : o.toJson.sorted =
    .object (Member.sorted.map fun i => (some i.key, i.write o)) :=
  o.sorted_toJson

def mergeValue (o : Options) (value : Json) : Json.Result Options :=
  shape.read .value (value.mergedInto o.toJson.sorted)

theorem mergeValue_iff {o m : Options} {p : Members} (small : o.style.minlen < 2 ^ 32)
    (finite : o.style.nodesep.isFinite = true) :
    o.mergeValue (.object p) = .ok m ↔ lenses.Merges (fun i => i.write o) o p m := by
  have holds : lenses.Holds (fun i => i.write o) o
      (Member.sorted.map fun i => (some i.key, i.write o)) :=
    lenses.holds_map (by decide) Member.mem_sorted (Member.read_write .value small finite)
  rw [mergeValue, sorted_slots]
  exact lenses.read_merged_iff holds p

def payloadValue? (payload : String) : Option Json :=
  ((Json.parse? payload).filter (·.isComplete)).map Json.sorted

theorem checked_eq_ok {m q : Options} :
    (do q.check; pure q : Except Failure Options) = .ok m ↔ q = m ∧ m.check = .ok () := by
  simp only [bind, Except.bind]
  constructor
  · intro done
    cases checked : q.check with
    | error e => simp [checked] at done
    | ok _ =>
      rw [checked] at done
      obtain rfl := Except.ok.inj done
      exact ⟨rfl, checked⟩
  · rintro ⟨rfl, checked⟩
    rw [checked]
    rfl

theorem merge_eq_ok_iff {o m : Options} {payload : String} : o.merge payload = .ok m ↔
    ∃ p, payloadValue? payload = some (.object p) ∧ o.mergeValue (.object p) = .ok m ∧
      m.check = .ok () := by
  unfold merge payloadValue?
  cases (Json.parse? payload).filter (·.isComplete) with
  | none => simp
  | some patch =>
    cases patch with
    | object members =>
      have same : o.mergeDocument (.object members) =
        o.mergeValue (.object (Json.sortedMembers members [])) := rfl
      simp only [Json.isObject, Bool.not_true, Bool.false_eq_true, ↓reduceIte, Option.map_some,
        Json.sorted, same, Option.some.injEq, Json.object.injEq, exists_eq_left']
      cases o.mergeValue (.object (Json.sortedMembers members [])) with
      | error e => simp
      | ok q => simpa only [Except.ok.injEq] using checked_eq_ok
    | _ => simp [Json.isObject, Json.sorted]

def prunedStyle : Json → Json
  | .object members => .object (Json.named Style.shape.names members)
  | j => j

def pruned (p : Members) : Members :=
  (Json.named shape.names p).map fun member =>
    (member.1, if member.1 = some Member.style.key then prunedStyle member.2 else member.2)

theorem lookup_pruned (p : Members) (i : Member) : (pruned p).lookup (some i.key) =
    (p.lookup (some i.key)).map fun j => if i = .style then prunedStyle j else j := by
  have style : (some i.key = some Member.style.key) ↔ i = .style :=
    ⟨fun same => lenses.key_inj (Option.some.inj same), fun same => by rw [same]⟩
  have known : i.key ∈ shape.names := lenses.key_mem_names i
  rw [pruned, Json.lookup_map fun key j => if key = some Member.style.key then prunedStyle j else j,
    Json.lookup_named known]
  simp only [style]

theorem prunedStyle_mergedInto (s : Style) (j : Json) :
    (prunedStyle j).mergedInto (.ofFields s.toFields) = j.mergedInto (.ofFields s.toFields) := by
  cases j with
  | object members =>
    show Json.object (Json.mergedSlots _ (Style.Member.all.map fun i => (some i.key, i.write s))) =
      .object (Json.mergedSlots _ (Style.Member.all.map fun i => (some i.key, i.write s)))
    refine congrArg Json.object (Json.mergedSlots_congr fun slot within => ?_)
    obtain ⟨i, -, rfl⟩ := List.mem_map.mp within
    have known : i.key ∈ Style.shape.names := Style.lenses.key_mem_names i
    simp only [Json.lookup_named known]
  | _ => rfl

theorem mergeValue_pruned (o : Options) (p : Members) :
    o.mergeValue (.object (pruned p)) = o.mergeValue (.object p) := by
  rw [mergeValue, mergeValue, sorted_slots]
  refine congrArg (fun slots => shape.read .value (.object slots))
    (Json.mergedSlots_congr fun slot within => ?_)
  obtain ⟨i, -, rfl⟩ := List.mem_map.mp within
  rw [lookup_pruned]
  cases p.lookup (some i.key) with
  | none => rfl
  | some j =>
    by_cases style : i = .style
    · subst style
      exact prunedStyle_mergedInto o.style j
    · simp only [Option.map_some, if_neg style]

/-- Options that a document makes of other ones: what it names is read from it, and all else is as
it was. -/
structure Changed (o : Options) (p : Members) (m : Options) : Prop where
  named {i : Member} {j : Json} : i ≠ .style → p.lookup (some i.key) = some j →
    i.read .value j = .ok (i.get m)
  absent {i : Member} : p.lookup (some i.key) = none → i.get m = i.get o
  style {s : Members} {i : Style.Member} {j : Json} :
    p.lookup (some Member.style.key) = some (.object s) → s.lookup (some i.key) = some j →
    i.read j = .ok (i.get m.style)
  styleAbsent {s : Members} {i : Style.Member} :
    p.lookup (some Member.style.key) = some (.object s) → s.lookup (some i.key) = none →
    i.get m.style = i.get o.style
  styleWhole {j : Json} : p.lookup (some Member.style.key) = some j → j.isObject = false →
    Style.shape.read .value j = .ok m.style

theorem read_of_merges {o m : Options} {p : Members}
    (merges : lenses.Merges (fun i => i.write o) o p m) {i : Member} {j : Json}
    (there : p.lookup (some i.key) = some j) :
    i.read .value (j.mergedInto (i.write o)) = .ok (i.get m) := by
  have said := merges i
  simp only [lenses_key, there] at said
  exact said

theorem sets_of_merges {o m : Options} {p : Members} (small : o.style.minlen < 2 ^ 32)
    (finite : o.style.nodesep.isFinite = true) (merges : lenses.Merges (fun i => i.write o) o p m)
    {s : Members} (there : p.lookup (some Member.style.key) = some (.object s)) :
    Style.lenses.Sets .value o.style s m.style :=
  (Style.read_mergedInto_iff small finite).mp (read_of_merges merges there)

theorem changed_of_merges {o m : Options} {p : Members} (small : o.style.minlen < 2 ^ 32)
    (finite : o.style.nodesep.isFinite = true) (merges : lenses.Merges (fun i => i.write o) o p m) :
    Changed o p m := by
  refine ⟨fun {i j} other there => ?_, fun {i} missing => ?_, fun {s i j} there named => ?_,
    fun {s i} there missing => ?_, fun {j} there other => ?_⟩
  · rw [← Member.mergedInto_write other o j]
    exact read_of_merges merges there
  · have said := merges i
    simp only [lenses_key, missing] at said
    exact said
  · have said := sets_of_merges small finite merges there i
    simp only [Style.lenses_key, named] at said
    exact said
  · have said := sets_of_merges small finite merges there i
    simp only [Style.lenses_key, missing] at said
    exact said
  · have said := read_of_merges merges there
    cases j with
    | object members => cases other
    | _ => exact said

theorem merges_again {o m : Options} {p : Members} (small : o.style.minlen < 2 ^ 32)
    (finite : o.style.nodesep.isFinite = true) (merges : lenses.Merges (fun i => i.write o) o p m)
    (small' : m.style.minlen < 2 ^ 32) (finite' : m.style.nodesep.isFinite = true) :
    lenses.Merges (fun i => i.write m) m p m := by
  intro i
  rw [lenses_key]
  cases named : p.lookup (some i.key) with
  | none => rfl
  | some j =>
    have said := read_of_merges merges named
    show i.read .value (j.mergedInto (i.write m)) = .ok (i.get m)
    by_cases style : i = .style
    · subst style
      cases j with
      | object s =>
        have sets := sets_of_merges small finite merges named
        exact (Style.read_mergedInto_iff small' finite').mpr sets.again
      | _ => exact said
    · rw [Member.mergedInto_write style] at said ⊢
      exact said

theorem minlen_of_mergeValue {o m : Options} {value : Json} (merged : o.mergeValue value = .ok m) :
    m.style.minlen < 2 ^ 32 := by
  refine lenses.read_keeps (P := fun o => o.style.minlen < 2 ^ 32) ?_ (by decide) merged
  intro i j v o value small
  cases i with
  | style => exact Style.minlen_of_read value
  | _ => exact small

/-- A document changes the options that it names and no others. Keys of no option make no difference
to it, and once it has been merged it makes none. -/
theorem merge_changes {o m : Options} {payload : String} (valid : o.check = .ok ())
    (small : o.style.minlen < 2 ^ 32) (merged : o.merge payload = .ok m) :
    ∃ p, payloadValue? payload = some (.object p) ∧ Changed o p m ∧
      o.mergeValue (.object (pruned p)) = .ok m ∧
      (∀ payload', payloadValue? payload' = some (.object (pruned p)) →
        o.merge payload' = .ok m) ∧
      m.check = .ok () ∧ m.merge payload = .ok m := by
  obtain ⟨p, read, value, checked⟩ := merge_eq_ok_iff.mp merged
  have finite := finite_of_check valid
  have merges := (mergeValue_iff small finite).mp value
  have less := (o.mergeValue_pruned p).trans value
  have small' := minlen_of_mergeValue value
  have finite' := finite_of_check checked
  have again := merges_again small finite merges small' finite'
  exact ⟨p, read, changed_of_merges small finite merges, less,
    fun payload' read' => merge_eq_ok_iff.mpr ⟨_, read', less, checked⟩, checked,
    merge_eq_ok_iff.mpr ⟨p, read, (mergeValue_iff small' finite').mpr again, checked⟩⟩

def partialPayload : String :=
  "\x7b\"focus\": \"lib\", \"zoom\": 3, \"style\": \x7b\"nodesep\": 1, \"color\": \"red\"\x7d\x7d"

theorem partialPayload_changes :
    let m := { default with focus := "lib", style := { default.style with nodesep := .ofNat 1 } }
    default.check = .ok () ∧ default.style.minlen < 2 ^ 32 ∧
    default.merge partialPayload = .ok m ∧
    ∃ p, payloadValue? partialPayload = some (.object p) ∧ Changed default p m ∧
      default.mergeValue (.object (pruned p)) = .ok m ∧ m.merge partialPayload = .ok m := by
  intro m
  have valid : default.check = .ok () := by decide +kernel
  have small : default.style.minlen < 2 ^ 32 := by decide
  have merged : default.merge partialPayload = .ok m := by decide +kernel
  obtain ⟨p, read, changed, less, -, -, again⟩ := merge_changes valid small merged
  exact ⟨valid, small, merged, p, read, changed, less, again⟩

end Options
end CallChart
