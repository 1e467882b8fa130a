import CallChart.Proofs.Cache.Entry
import CallChart.Rendering

namespace CallChart

namespace Output

open Files

/-- A point and more of the same step, which is no step of its own. -/
def IsSuffix (tail : List Char) : Prop :=
  ∃ c rest, tail = '.' :: c :: rest ∧ c ≠ '.' ∧ '/' ∉ tail

theorem isName_suffixed {tail : List Char} (suffix : IsSuffix tail) {last : List Char}
    (plain : '/' ∉ last) :
    IsName (String.ofList (last ++ tail)) := by
  obtain ⟨c, rest, rfl, other, free⟩ := suffix
  refine ⟨?_, ?_, ?_, by simpa [plain] using free⟩
  · intro empty
    simpa using congrArg String.toList empty
  · intro dot
    have length := congrArg (·.toList.length) dot
    simp at length
    omega
  · intro dots
    have chars := congrArg String.toList dots
    simp only [String.toList_ofList, String.reduceToList] at chars
    rcases last with _ | ⟨d, last⟩
    · simp_all
    · have length := congrArg List.length chars
      simp at length
      omega

theorem start_suffixed {tail : List Char} (suffix : IsSuffix tail) (base : String) :
    start (base ++ String.ofList tail) = start base := by
  obtain ⟨c, rest, rfl, -, -⟩ := suffix
  cases chars : base.toList with
  | nil => simp [start, startsWith_slash, chars]
  | cons d others => simp [start, startsWith_slash, chars]

theorem steps_suffixed (base : String) : ∃ here step,
    (steps base = here ∨ steps base = follow here step) ∧
      ∀ tail, IsSuffix tail → IsName (step ++ String.ofList tail) ∧
        steps (base ++ String.ofList tail) = here ++ [step ++ String.ofList tail] := by
  obtain ⟨pieces, last, before, after⟩ := Text.splitChars_append_plain '/' base.toList
  have plain : '/' ∉ last := Text.not_mem_splitChars (by rw [before]; simp)
  refine ⟨((pieces.map String.ofList).filter (· ≠ "")).foldl follow (start base),
    String.ofList last, ?_, fun tail suffix => ?_⟩
  · simp only [steps_eq, strides, Text.split, before, List.map_append, List.filter_append,
      List.foldl_append, List.map_cons, List.map_nil]
    by_cases empty : String.ofList last = ""
    · simp [empty]
    · simp [empty]
  · obtain ⟨-, -, -, -, free⟩ := id suffix
    have named : IsName (String.ofList last ++ String.ofList tail) := by
      simpa using isName_suffixed suffix plain
    refine ⟨named, ?_⟩
    simp only [steps_eq, start_suffixed suffix, strides, Text.split, String.toList_append,
      String.toList_ofList, after tail free, List.map_append, List.filter_append, List.foldl_append,
      List.map_cons, List.map_nil, String.ofList_append]
    simp [named.1, follow_name named]

theorem steps_suffixed_inj {base : String} {tail tail' : List Char}
    (suffix : IsSuffix tail) (suffix' : IsSuffix tail')
    (same : steps (base ++ String.ofList tail) = steps (base ++ String.ofList tail')) :
    tail = tail' := by
  obtain ⟨here, step, -, suffixed⟩ := steps_suffixed base
  rw [(suffixed tail suffix).2, (suffixed tail' suffix').2] at same
  have last := (List.append_inj' same rfl).2
  simpa [← String.toList_inj] using last

theorem outside_entry {base directory : String} {tail : List Char} {fp : Fingerprint}
    (suffix : IsSuffix tail) (digest : IsName fp.text) (outside : ¬ steps directory <+: steps base)
    (name : String) :
    steps (base ++ String.ofList tail) ≠ Cache.entryPlace directory fp name := by
  intro same
  obtain ⟨here, step, base_, suffixed⟩ := steps_suffixed base
  have parts : here ++ [step ++ String.ofList tail] =
      (steps directory ++ [fp.text]) ++ [name] := by
    rw [← (suffixed tail suffix).2, same]
    simp [Cache.entryPlace]
  obtain ⟨rfl, -⟩ := List.append_inj' parts rfl
  have below : steps directory <+: steps directory ++ [fp.text] := List.prefix_append ..
  rcases base_ with base_ | base_
  · exact outside (base_ ▸ below)
  · simp only [follow] at base_
    split at base_
    · exact outside (base_ ▸ below)
    · split at base_
      · -- going back from an entry leads to the cache directory itself
        have free := not_fixed_of_name digest (steps directory)
        simp only [Fixed, not_or] at free
        rw [back, if_neg free.2, if_neg free.1, List.dropLast_concat] at base_
        exact outside (base_ ▸ List.prefix_refl _)
      · exact outside (base_ ▸ below.trans (List.prefix_append ..))

theorem plain_of_checkFormat {format : String} (plain : Engine.checkFormat format = .ok ()) :
    format ≠ "" ∧ ∀ c ∈ format.toList, c ≠ '.' ∧ c ≠ '/' := by
  simp only [Engine.checkFormat] at plain
  split at plain
  · rename_i accepted
    refine ⟨accepted.1, fun c within => ?_⟩
    have char := List.all_eq_true.mp accepted.2 c within
    constructor <;>
    · rintro rfl
      simp [Engine.isFormatChar] at char
  · cases plain

theorem suffix_of_checkFormat {format : String} (plain : Engine.checkFormat format = .ok ()) :
    IsSuffix ('.' :: format.toList) ∧ IsSuffix ('.' :: format.toList ++ ".tmp".toList) := by
  obtain ⟨filled, chars⟩ := plain_of_checkFormat plain
  have free : '/' ∉ format.toList := fun slash => (chars '/' slash).2 rfl
  cases front : format.toList with
  | nil => exact (filled (String.toList_inj.mp (by simp [front]))).elim
  | cons c rest =>
    rw [front] at chars free
    have other := (chars c List.mem_cons_self).1
    simp only [List.mem_cons, not_or] at free
    exact ⟨⟨c, rest, rfl, other, by simp [free]⟩,
      ⟨c, rest ++ ".tmp".toList, rfl, other, by simp [free]⟩⟩

theorem withSuffix_eq (base format : String) :
    withSuffix base format = base ++ String.ofList ('.' :: format.toList) := by
  rw [← String.toList_inj]
  simp [withSuffix]

theorem aside_eq (base format : String) : withSuffix (withSuffix base format) "tmp" =
    base ++ String.ofList ('.' :: format.toList ++ ".tmp".toList) := by
  rw [← String.toList_inj]
  simp [withSuffix]

theorem outside_withSuffix {base directory : String} {fp : Fingerprint} {format : String}
    (plain : Engine.checkFormat format = .ok ()) (digest : IsName fp.text)
    (outside : ¬ steps directory <+: steps base) (name : String) :
    steps (withSuffix base format) ≠ Cache.entryPlace directory fp name ∧
      steps (withSuffix (withSuffix base format) "tmp") ≠
        Cache.entryPlace directory fp name := by
  obtain ⟨suffix, suffix'⟩ := suffix_of_checkFormat plain
  rw [aside_eq, withSuffix_eq]
  exact ⟨outside_entry suffix digest outside name, outside_entry suffix' digest outside name⟩

theorem targets_eq {output : Output} {a : Artifact} {target : String × List UInt8}
    (within : target ∈ Renderer.targets output a) (plain : Engine.checkFormat output.format = .ok ()) :
    ∃ base format, output.base = some base ∧ Engine.checkFormat format = .ok () ∧
      target.1 = withSuffix base format := by
  rcases List.mem_append.mp within with within | within
  · simp only [descriptionPath, Option.map_map, Option.mem_toList,
      Option.map_eq_some_iff] at within
    obtain ⟨base, known, rfl⟩ := within
    exact ⟨base, descriptionFormat, known, by decide, rfl⟩
  · simp only [Renderer.imageTarget, Option.mem_toList] at within
    split at within
    · rename_i path image known _
      cases within
      simp only [imagePath, Option.ite_none_left_eq_some, Option.map_eq_some_iff] at known
      obtain ⟨-, base, known, rfl⟩ := known
      exact ⟨base, output.format, known, plain, rfl⟩
    · cases within

theorem writeOutputs_entry {directory : String} {fp : Fingerprint} {output : Output} (a : Artifact)
    (fs : Files) (plain : Engine.checkFormat output.format = .ok ())
    (outside : ∀ base, output.base = some base → ¬ steps directory <+: steps base)
    (digest : IsName fp.text) (name : String) :
    (Renderer.writeOutputs output a fs).2.fileAt (Cache.entryPlace directory fp name) =
      fs.fileAt (Cache.entryPlace directory fp name) := by
  have run := (FileStep.run_effect fs (Renderer.outputSteps output a)).2
    (Cache.entryPlace directory fp name) (by
      intro step within changed
      simp only [Renderer.outputSteps, List.mem_flatMap] at within
      obtain ⟨target, target_, within⟩ := within
      obtain ⟨base, format, known, accepted, path⟩ := targets_eq target_ plain
      obtain ⟨apart, apart'⟩ := outside_withSuffix accepted digest (outside base known) name
      simp only [Renderer.wholeSteps, path, List.mem_cons, List.not_mem_nil, or_false] at within
      rcases within with rfl | rfl
      · simp only [FileStep.places, List.mem_singleton] at changed
        exact apart' changed.symm
      · simp only [FileStep.places, List.mem_cons, List.not_mem_nil, or_false] at changed
        rcases changed with changed | changed
        · exact apart' changed.symm
        · exact apart changed.symm)
  simp only [Renderer.writeOutputs]
  split
  · rename_i outcome
    rw [outcome] at run
    exact run
  · rename_i outcome
    rw [outcome] at run
    exact run

end Output
end CallChart
