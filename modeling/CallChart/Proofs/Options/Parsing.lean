import CallChart.Proofs.Json.Sorted
import CallChart.Proofs.Options.Members

namespace CallChart

open Json (Members Shallow Steady)

namespace Style

theorem steady_readChoice {α : Type} (ofText : String → Except Failure α) :
    Steady 0 (readChoice ofText) :=
  Steady.text.bind _

theorem Member.steady (i : Member) : Steady 0 i.read := by
  cases i with
  | minlen => exact .count
  | nodesep => exact .real
  | nodeshape => exact .text
  | nodestyle => exact .text
  | rankdir => exact steady_readChoice RankDir.ofText

theorem shallow_of_read {j : Json} {s : Style} (read : shape.read .document j = .ok s) :
    Shallow 1 j :=
  lenses.shallow_of_read (fun i _ _ => i.steady.shallow) (by decide) rfl read

theorem read_sorted_iff {j : Json} {s : Style} (apart : j.isApart = true)
    (among : j.keysAmong shape.names = true) :
    shape.read .value (j.sorted.mergedInto (.ofFields Style.default.toFields)) = .ok s ↔
      shape.read .document j = .ok s := by
  cases j with
  | object members =>
    have names := lenses.names_of_keysAmong among (Json.isApart_of_mem apart).1
    have small : Style.default.minlen < 2 ^ 32 := by decide
    have finite : Style.default.nodesep.isFinite = true := by decide +kernel
    rw [Json.sorted, read_mergedInto_iff small finite,
      lenses.sets_sorted (fun i => i.steady.sorted) names.apart, lenses.read_object_iff names]
    rfl
  | array items => exact lenses.read_array_sorted fun i => i.steady.sorted
  | _ =>
    constructor
    all_goals
      intro read
      cases read

end Style

namespace Options

theorem readRetention_sorted_iff {j : Json} {r : Retention} (apart : j.isApart = true) :
    readRetention .value j.sorted = .ok r ↔ readRetention .document j = .ok r := by
  rw [readRetention, readRetention, Json.bind_eq_ok, Json.bind_eq_ok]
  simp only [Json.readVariant_sorted_iff apart]

theorem shallow_of_readRetention {j : Json} {r : Retention}
    (read : readRetention .document j = .ok r) : Shallow 1 j := by
  rw [readRetention, Json.bind_eq_ok] at read
  obtain ⟨name, read, -⟩ := read
  cases j with
  | text s =>
    obtain ⟨rfl, -⟩ := Json.readVariantName_eq_ok.mp read
    exact ⟨rfl, Nat.zero_le _⟩
  | object members =>
    have document : Json.Origin.document ≠ .settings := by decide
    obtain ⟨-, rfl⟩ := (Json.readVariant_object_iff document).mp read
    exact ⟨rfl, Nat.le_refl _⟩
  | _ => cases read

namespace Member

theorem steady {i : Member} (plain : i ≠ .style) (simple : i ≠ .retention) :
    Steady 1 (i.read .document) := by
  have less : 0 ≤ 1 := Nat.zero_le 1
  cases i with
  | focus => exact Steady.text.mono less
  | group => exact (Style.steady_readChoice GroupMode.ofText).mono less
  | limited => exact Steady.text.list
  | ignored => exact Steady.text.list
  | included => exact Steady.text.list
  | nostd => exact Steady.bool.mono less
  | nointer => exact Steady.bool.mono less
  | tests => exact Steady.bool.mono less
  | retention => exact (simple rfl).elim
  | style => exact (plain rfl).elim

theorem read_value {i : Member} (plain : i ≠ .style) (simple : i ≠ .retention) :
    i.read .value = i.read .document := by
  cases i with
  | retention => exact (simple rfl).elim
  | style => exact (plain rfl).elim
  | _ => rfl

theorem shallow (i : Member) (j : Json) (v : i.Value) (read : i.read .document j = .ok v) :
    Shallow 1 j := by
  by_cases style : i = .style
  · subst style
    exact Style.shallow_of_read read
  by_cases retention : i = .retention
  · subst retention
    exact shallow_of_readRetention read
  exact (steady style retention).shallow read

end Member

/-- Members with keys of options only, and in a style with keys of a style only. -/
def Recognized (members : Members) : Prop :=
  (Json.object members).keysAmong shape.names = true ∧
    ∀ member ∈ members, member.1 = some Member.style.key →
      member.2.keysAmong Style.shape.names = true

instance (members : Members) : Decidable (Recognized members) :=
  inferInstanceAs (Decidable (_ ∧ _))

theorem read_member_iff {j : Json} {members : Members}
    (apart : (Json.object members).isApart = true) (recognized : Recognized members) {i : Member}
    (there : members.lookup (some i.key) = some j) {v : i.Value} :
    i.read .value (j.sorted.mergedInto (i.write default)) = .ok v ↔ i.read .document j = .ok v := by
  obtain ⟨before, after, split, -⟩ := List.lookup_eq_some_iff.mp there
  have within : (some i.key, j) ∈ members := by simp [split]
  have apart := (Json.isApart_of_mem apart).2 _ within
  by_cases style : i = .style
  · subst style
    exact Style.read_sorted_iff apart (recognized.2 _ within rfl)
  · rw [Member.mergedInto_write style]
    by_cases retention : i = .retention
    · subst retention
      exact readRetention_sorted_iff apart
    · rw [Member.read_value style retention, (Member.steady style retention).sorted]

theorem read_iff_mergeValue {o : Options} {members : Members}
    (apart : (Json.object members).isApart = true) (recognized : Recognized members) :
    shape.read .document (.object members) = .ok o ↔
      default.mergeValue (.object (Json.sortedMembers members [])) = .ok o := by
  have names := lenses.names_of_keysAmong recognized.1 (Json.isApart_of_mem apart).1
  have small : default.style.minlen < 2 ^ 32 := by decide
  have finite : default.style.nodesep.isFinite = true := by decide +kernel
  rw [lenses.read_object_iff names, mergeValue_iff small finite]
  refine forall_congr' fun i => ?_
  rw [Json.lookup_sortedMembers names.apart]
  cases there : members.lookup (some (lenses.key i)) with
  | none => rfl
  | some j => exact (read_member_iff apart recognized there).symm

theorem ofBytes_eq_ok_iff {j : Json} {o : Options} {text : String}
    (parsed : Json.parse? text = some j) :
    ofBytes (Utf8.encode text) = .ok o ↔
      shape.read .document j = .ok o ∧ o.check = .ok () := by
  have document : Json.parseBytes? (Utf8.encode text) = some j := by
    rw [Json.parseBytes?, Utf8.scanned_encode]
    exact parsed
  rw [ofBytes, document, ofDocument, Json.readDocument]
  cases shape.read .document j with
  | error e => simp
  | ok q =>
    simp only [Except.ok.injEq]
    exact checked_eq_ok

/-- A document whose keys are all known and once only is read as the options that it makes of the
built-in ones, and refused just if it is refused there. -/
theorem ofBytes_iff_merge {members : Members} {text : String}
    (parsed : Json.parse? text = some (.object members))
    (apart : (Json.object members).isApart = true) (recognized : Recognized members) (o : Options) :
    ofBytes (Utf8.encode text) = .ok o ↔ default.merge text = .ok o := by
  have same := read_iff_mergeValue (o := o) apart recognized
  have value (complete : (Json.object members).isComplete = true) :
      payloadValue? text = some (.object (Json.sortedMembers members [])) := by
    simp only [payloadValue?, parsed, Option.filter_some, complete, ↓reduceIte, Option.map_some,
      Json.sorted]
  rw [ofBytes_eq_ok_iff parsed, merge_eq_ok_iff]
  constructor
  · rintro ⟨read, checked⟩
    -- All of the document has been read, so the merge does not refuse it as a whole.
    have shallow := lenses.shallow_of_read Member.shallow (by decide) rfl read
    have complete : (Json.object members).isComplete = true := by
      rw [Json.isComplete, shallow.sound, Bool.true_and, decide_eq_true_eq]
      exact Nat.le_trans shallow.depth (by decide)
    exact ⟨_, value complete, same.mp read, checked⟩
  · rintro ⟨p, read, merged, checked⟩
    have complete : (Json.object members).isComplete = true := by
      cases complete : (Json.object members).isComplete with
      | true => rfl
      | false => simp [payloadValue?, parsed, complete] at read
    obtain rfl := Json.object.inj (Option.some.inj ((value complete).symm.trans read))
    exact ⟨same.mpr merged, checked⟩

/-- A retention that is written as an object, a style that is written as an array with an integer
for the distance of the nodes, and no more than a few options. -/
def sparseText : String :=
  "\x7b\"style\": [4, 1], \"retention\": \x7b\"transitive\": null\x7d, \"limit\": [\"lib\"]\x7d"

def isSettled : Json → Bool
  | .object members => (Json.object members).isApart && decide (Recognized members)
  | _ => false

theorem sparseText_read :
    let o := { default with
      limited := ["lib"], retention := .transitive,
      style := { Style.default with minlen := 4, nodesep := .ofNat 1 } }
    ∃ members, Json.parse? sparseText = some (.object members) ∧
      (Json.object members).isApart = true ∧ Recognized members ∧
      ofBytes (Utf8.encode sparseText) = .ok o ∧ default.merge sparseText = .ok o := by
  intro o
  have whole : (Json.parse? sparseText).any isSettled = true := by decide +kernel
  have merged : default.merge sparseText = .ok o := by decide +kernel
  obtain ⟨j, parsed, settled⟩ := (Option.any_eq_true _ _).mp whole
  cases j with
  | object members =>
    rw [isSettled, Bool.and_eq_true, decide_eq_true_eq] at settled
    obtain ⟨apart, recognized⟩ := settled
    exact ⟨members, parsed, apart, recognized,
      (ofBytes_iff_merge parsed apart recognized o).mpr merged, merged⟩
  | _ => cases settled

end Options
end CallChart
