import CallChart.Options.Store
import CallChart.Proofs.Json.Real
import CallChart.Proofs.Options.Members

namespace CallChart

namespace Json

theorem reads_ofFields {fields fields' : List (String × Json)}
    (reads : List.Forall₂ (fun f g => f.1 = g.1 ∧ Reads f.2.chars g.2) fields fields') :
    Reads (ofFields fields).chars (ofFields fields') := by
  simp only [ofFields, chars, membersChars_eq, List.map_map]
  apply reads_object
  induction reads with
  | nil => exact .nil
  | cons first _ ih => exact .cons ⟨_, _, rfl, congrArg some first.1.symm, first.2⟩ ih

end Json

namespace Style

def spaced (s : Style) (x : Binary64) : Style :=
  { s with nodesep := x }

theorem reads_toFields {s : Style} {x : Binary64} (small : s.minlen < 2 ^ 32)
    (finite : s.nodesep.isFinite = true) (finite' : x.isFinite = true)
    (reads : Json.Reads (Json.numberLayout.chars s.nodesep) (.number (some (.real x)))) :
    Json.Reads (Json.ofFields s.toFields).chars (.ofFields (s.spaced x).toFields) := by
  apply Json.reads_ofFields
  refine .cons ⟨rfl, Json.reads_chars _ ?_⟩ (.cons ⟨rfl, ?_⟩ ?_)
  · simp only [Json.ofNat, Json.Plain]
    omega
  · simpa [Json.ofReal, finite, finite', spaced, Json.chars, Json.Number.chars] using reads
  · exact .cons ⟨rfl, Json.reads_text _⟩ (.cons ⟨rfl, Json.reads_text _⟩
      (.cons ⟨rfl, Json.reads_text _⟩ .nil))

end Style

namespace Options

def spaced (o : Options) (x : Binary64) : Options :=
  { o with style := o.style.spaced x }

theorem read_toJson {o : Options} (origin : Json.Origin) (small : o.style.minlen < 2 ^ 32)
    (finite : o.style.nodesep.isFinite = true) : shape.read origin o.toJson = .ok o := by
  rw [slots]
  exact lenses.read_written lenses.apart.of_map Member.mem_all (Member.read_write origin small finite)

theorem read_sorted {o : Options} (origin : Json.Origin) (small : o.style.minlen < 2 ^ 32)
    (finite : o.style.nodesep.isFinite = true) : shape.read origin o.toJson.sorted = .ok o := by
  rw [sorted_slots]
  exact lenses.read_written (by decide) Member.mem_sorted (Member.read_write origin small finite)

theorem mergedInto_toJson (o p : Options) :
    o.toJson.sorted.mergedInto p.toJson.sorted = o.toJson.sorted := by
  have style := o.style.mergedInto_toFields p.style
  rw [sorted_toJson, sorted_toJson, Json.mergedInto_ofFields]
  generalize Json.ofFields o.style.toFields = drawn at style ⊢
  generalize Json.ofFields p.style.toFields = drawn' at style ⊢
  simp [Json.ofFields, Json.mergedSlots, List.lookup_cons, style]

theorem isComplete_toJson {o : Options} (finite : o.style.nodesep.isFinite = true) :
    o.toJson.isComplete = true := by
  have sound (items : List String) : Json.areSound (items.map Json.ofText) = true := by
    induction items with
    | nil => rfl
    | cons item items ih => simp [Json.areSound, Json.isSound, Json.ofText, ih]
  have flat (items : List String) : Json.itemsDepth (items.map Json.ofText) = 0 := by
    induction items with
    | nil => rfl
    | cons item items ih => simp [Json.itemsDepth, Json.depth, Json.ofText, ih]
  simp [Json.isComplete, toJson, toFields, Style.toFields, Json.ofFields, Json.ofText, Json.ofTexts,
    Json.ofNat, Json.ofReal, finite, Json.isSound, Json.membersSound, sound, Json.depth,
    Json.membersDepth, flat, Json.nestingLimit]

theorem mergeDocument_toJson {o : Options} (p : Options) (small : o.style.minlen < 2 ^ 32)
    (finite : o.style.nodesep.isFinite = true) : p.mergeDocument o.toJson = .ok o := by
  rw [mergeDocument, mergedInto_toJson, read_sorted .value small finite]

theorem reads_toJson {o : Options} {x : Binary64} (small : o.style.minlen < 2 ^ 32)
    (finite : o.style.nodesep.isFinite = true) (finite' : x.isFinite = true)
    (reads : Json.Reads (Json.numberLayout.chars o.style.nodesep) (.number (some (.real x)))) :
    Json.Reads o.toJson.chars (o.spaced x).toJson := by
  have texts (items : List String) : Json.Reads (Json.ofTexts items).chars (.ofTexts items) :=
    Json.reads_chars _ (Json.plain_ofTexts items)
  apply Json.reads_ofFields
  refine .cons ⟨rfl, Json.reads_text _⟩ (.cons ⟨rfl, Json.reads_text _⟩ ?_)
  refine .cons ⟨rfl, texts _⟩ (.cons ⟨rfl, texts _⟩ (.cons ⟨rfl, texts _⟩ ?_))
  refine .cons ⟨rfl, Json.reads_chars _ trivial⟩ (.cons ⟨rfl, Json.reads_chars _ trivial⟩ ?_)
  refine .cons ⟨rfl, Json.reads_chars _ trivial⟩ (.cons ⟨rfl, Json.reads_text _⟩ (.cons ⟨rfl, ?_⟩ .nil))
  exact Style.reads_toFields small finite finite' reads

theorem spaced_spaced (o : Options) (x y : Binary64) : (o.spaced x).spaced y = o.spaced y := rfl

theorem spaced_nodesep (o : Options) : o.spaced o.style.nodesep = o := rfl

theorem notBelow_of_check {o : Options} (valid : o.check = .ok ()) :
    o.style.nodesep.isBelowZero = false := by
  cases below : o.style.nodesep.isBelowZero with
  | false => rfl
  | true => simp [check, below] at valid

theorem check_spaced {o : Options} {x : Binary64} (valid : o.check = .ok ())
    (finite : x.isFinite = true) (notBelow : x.isBelowZero = false) :
    (o.spaced x).check = .ok () := by
  simp only [check] at valid ⊢
  split at valid
  · cases valid
  · rw [if_neg (by simp [spaced, Style.spaced, finite, notBelow])]
    exact valid

theorem ofBytes_text {o : Options} {x : Binary64} (valid : o.check = .ok ())
    (small : o.style.minlen < 2 ^ 32) (finite : x.isFinite = true)
    (notBelow : x.isBelowZero = false)
    (reads : Json.Reads (Json.numberLayout.chars o.style.nodesep) (.number (some (.real x)))) :
    ofBytes (Utf8.encode o.text) = .ok (o.spaced x) := by
  have parsed : Json.parseBytes? (Utf8.encode o.text) = some (o.spaced x).toJson := by
    rw [Json.parseBytes?, Utf8.scanned_encode]
    exact (reads_toJson small (finite_of_check valid) finite reads).parse?
  have read := read_toJson (o := o.spaced x) .document small finite
  simp only [ofBytes, ofDocument, parsed, Json.readDocument_ok read, check_spaced valid finite notBelow]
  rfl

theorem merge_text {o : Options} {x : Binary64} (p : Options) (valid : o.check = .ok ())
    (small : o.style.minlen < 2 ^ 32) (finite : x.isFinite = true)
    (notBelow : x.isBelowZero = false)
    (reads : Json.Reads (Json.numberLayout.chars o.style.nodesep) (.number (some (.real x)))) :
    p.merge o.text = .ok (o.spaced x) := by
  have parsed : Json.parse? o.text = some (o.spaced x).toJson :=
    (reads_toJson small (finite_of_check valid) finite reads).parse?
  have complete : (o.spaced x).toJson.isComplete = true := isComplete_toJson finite
  have merged : p.mergeDocument (o.spaced x).toJson = .ok (o.spaced x) :=
    mergeDocument_toJson p small finite
  simp only [merge, parsed, Option.filter_some, complete, ↓reduceIte, merged,
    check_spaced valid finite notBelow]
  rfl

/-- Options that are sent back come back, read as new ones or merged into others, and so the store
they came from has them again. Only the distance of the nodes is what the reader of documents makes
of its text, which is the distance itself if the text is short. -/
theorem exchanged {o : Options} (valid : o.check = .ok ()) (small : o.style.minlen < 2 ^ 32) :
    ∃ x : Binary64,
    Json.parse? (Json.numberLayout.text o.style.nodesep) = some (.number (some (.real x))) ∧
      ofBytes (Utf8.encode o.text) = .ok (o.spaced x) ∧
      (∀ p : Options, p.merge o.text = .ok (o.spaced x)) ∧
      (∀ defaults, let store : OptionsStore := ⟨o, defaults⟩
        store.merge store.serialize = (.ok (o.spaced x), ⟨o.spaced x, defaults⟩)) ∧
      (Json.Short (Json.numberLayout.chars o.style.nodesep) → o.spaced x = o) := by
  have notBelow := notBelow_of_check valid
  obtain ⟨x, finite, sign, reads, exact_⟩ := Json.reads_real (finite_of_check valid)
  have merged (p : Options) := merge_text p valid small finite (sign notBelow) reads
  refine ⟨x, reads.parse?, ofBytes_text valid small finite (sign notBelow) reads, merged, ?_, ?_⟩
  · intro defaults
    simp only [OptionsStore.serialize, OptionsStore.merge, merged, OptionsStore.settle]
  · intro short
    rw [exact_ short, spaced_nodesep]

/-- The options built in come back as they are. -/
theorem default_exchanged : ofBytes (Utf8.encode default.text) = .ok default ∧
    default.merge default.text = .ok default := by
  obtain ⟨x, -, read, merged, -, exact_⟩ := exchanged (o := default) (by decide +kernel) (by decide)
  have same : default.spaced x = default := exact_ (by decide +kernel)
  rw [same] at read merged
  exact ⟨read, merged default⟩

def finelySpaced : Options :=
  default.spaced (.ofDecimal false 9007354597163969 (-16))

/-- They are valid, and come back with another last digit. -/
theorem exchanged_inexactly :
    let back := default.spaced (.ofDecimal false 9007354597163968 (-16))
    finelySpaced.check = .ok () ∧ ofBytes (Utf8.encode finelySpaced.text) = .ok back ∧
      default.merge finelySpaced.text = .ok back ∧ back ≠ finelySpaced := by
  have valid : finelySpaced.check = .ok () := by decide +kernel
  have small : finelySpaced.style.minlen < 2 ^ 32 := by decide
  obtain ⟨x, finite, sign, reads, -⟩ := Json.reads_real (finite_of_check valid)
  have rounded : (Json.parse? (Json.numberLayout.text finelySpaced.style.nodesep)).bind Json.real? =
      some (.ofDecimal false 9007354597163968 (-16)) := by decide +kernel
  have parsed := reads.parse?
  rw [Layout.text, parsed, Option.bind_some, Json.real?, Option.some.injEq] at rounded
  have notBelow := sign (notBelow_of_check valid)
  have read := ofBytes_text valid small finite notBelow reads
  have merged := merge_text default valid small finite notBelow reads
  rw [rounded, finelySpaced, spaced_spaced, ← finelySpaced] at read merged
  exact ⟨valid, read, merged, by decide +kernel⟩

end Options
end CallChart
