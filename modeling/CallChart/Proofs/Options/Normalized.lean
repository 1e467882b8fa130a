import CallChart.Options
import CallChart.Proofs.Insertion
import Mathlib.Data.List.DropRight
import Mathlib.Data.List.Sort
import Mathlib.Data.String.Basic

namespace CallChart

namespace Text

theorem trimEnd_eq (cs : List Char) : trimEnd cs = cs.rdropWhile isBlank := rfl

theorem trimStart_trimEnd {cs : List Char} (start : trimStart cs = cs) :
    trimStart (trimEnd cs) = trimEnd cs := by
  obtain ⟨rest, whole⟩ := List.rdropWhile_prefix isBlank (l := cs)
  rw [← trimEnd_eq] at whole
  cases front : trimEnd cs with
  | nil => rfl
  | cons c others =>
    rw [front] at whole
    have black : ¬ isBlank c = true := by
      have first := List.dropWhile_eq_self_iff.mp start
      simp only [← whole] at first
      exact first (by simp)
    simp [trimStart, black]

theorem trimChars_trimChars (cs : List Char) : trimChars (trimChars cs) = trimChars cs := by
  have start : trimStart (trimStart cs) = trimStart cs := List.dropWhile_idempotent _ _
  rw [trimChars, trimChars, trimStart_trimEnd start, trimEnd_eq, trimEnd_eq,
    List.rdropWhile_idempotent]

theorem trim_ne_empty {s : String} {c : Char} (within : c ∈ s.toList) (black : isBlank c = false) :
    trim s ≠ "" := by
  intro empty
  have nothing : (trimStart s.toList).rdropWhile isBlank = [] := by
    simpa [trim, trimChars, trimEnd_eq] using empty
  have blank := List.rdropWhile_eq_nil_iff.mp nothing
  have place : c ∈ s.toList.takeWhile isBlank ∨ c ∈ trimStart s.toList := by
    rw [← List.mem_append, trimStart, List.takeWhile_append_dropWhile]
    exact within
  rcases place with first | later
  · simp [List.mem_takeWhile_imp first] at black
  · simp [blank c later] at black

@[simp] theorem trim_trim (s : String) : trim (trim s) = trim s := by
  simp [trim, trimChars_trimChars]

end Text

namespace Options

@[simp] theorem mem_normalizedPrefixes {entries : List String} {s : String} :
    s ∈ normalizedPrefixes entries ↔ s ∈ trimmedEntries entries :=
  Text.insertSorted_insertsBy.mem_foldr Function.injective_id

theorem normalizedPrefixes_sorted (entries : List String) :
    (normalizedPrefixes entries).Pairwise (· < ·) := Text.insertSorted_insertsBy.sorted_foldr _

theorem normalizedPrefixes_eq_iff {entries entries' : List String} :
    normalizedPrefixes entries = normalizedPrefixes entries' ↔
    ∀ s, s ∈ trimmedEntries entries ↔ s ∈ trimmedEntries entries' := by
  refine ⟨fun same s => ?_, fun same => ?_⟩
  · rw [← mem_normalizedPrefixes, same, mem_normalizedPrefixes]
  · refine List.Pairwise.eq_of_mem_iff (normalizedPrefixes_sorted entries)
      (normalizedPrefixes_sorted entries') fun s => ?_
    rw [mem_normalizedPrefixes, mem_normalizedPrefixes, same]

theorem mem_trimmedEntries {entries : List String} {s : String} :
    s ∈ trimmedEntries entries ↔ s ≠ "" ∧ ∃ t ∈ entries, Text.trim t = s := by
  simp only [trimmedEntries, List.mem_filter, List.mem_map, decide_eq_true_eq]
  exact and_comm

@[simp] theorem normalizedPrefixes_normalizedPrefixes (entries : List String) :
    normalizedPrefixes (normalizedPrefixes entries) = normalizedPrefixes entries := by
  rw [normalizedPrefixes_eq_iff]
  intro s
  simp only [mem_trimmedEntries, mem_normalizedPrefixes]
  constructor
  · rintro ⟨filled, t, ⟨_, u, within, rfl⟩, rfl⟩
    rw [Text.trim_trim] at filled ⊢
    exact ⟨filled, u, within, rfl⟩
  · rintro ⟨filled, u, within, rfl⟩
    exact ⟨filled, Text.trim u, ⟨filled, u, within, rfl⟩, Text.trim_trim u⟩

@[simp] theorem normalized_normalized (o : Options) : o.normalized.normalized = o.normalized := by
  simp [normalized]

end Options
end CallChart
