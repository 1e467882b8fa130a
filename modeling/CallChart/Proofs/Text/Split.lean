import CallChart.Text.Split
import Mathlib.Data.List.TakeWhile
import Mathlib.Tactic.Common

namespace CallChart.Text

theorem splitChars_ne_nil (separator : Char) (cs : List Char) : splitChars separator cs ≠ [] := by
  cases cs with
  | nil => simp [splitChars]
  | cons c rest =>
    simp only [splitChars]
    split
    · simp
    · split <;> simp

theorem splitChars_append (separator : Char) (before after : List Char) :
    splitChars separator (before ++ separator :: after) =
      splitChars separator before ++ splitChars separator after := by
  induction before with
  | nil => simp [splitChars]
  | cons c rest ih =>
    simp only [List.cons_append, splitChars, ih]
    split
    · rfl
    · cases pieces : splitChars separator rest with
      | nil => exact (splitChars_ne_nil _ _ pieces).elim
      | cons piece others => rfl

theorem splitChars_plain {separator : Char} {cs : List Char} (plain : separator ∉ cs) :
    splitChars separator cs = [cs] := by
  induction cs with
  | nil => rfl
  | cons c rest ih =>
    simp only [List.mem_cons, not_or] at plain
    simp [splitChars, ih plain.2, Ne.symm plain.1]

theorem splitChars_append_plain (separator : Char) (cs : List Char) : ∃ pieces last,
    splitChars separator cs = pieces ++ [last] ∧ ∀ tail, separator ∉ tail →
      splitChars separator (cs ++ tail) = pieces ++ [last ++ tail] := by
  induction cs with
  | nil => exact ⟨[], [], rfl, fun tail plain => splitChars_plain plain⟩
  | cons c cs ih =>
    obtain ⟨pieces, last, before, after⟩ := ih
    simp only [List.cons_append, splitChars, before]
    split
    · exact ⟨[] :: pieces, last, rfl, fun tail plain => by simp [after tail plain]⟩
    · cases pieces with
      | nil => exact ⟨[], c :: last, rfl, fun tail plain => by simp [after tail plain]⟩
      | cons piece pieces =>
        exact ⟨(c :: piece) :: pieces, last, rfl, fun tail plain => by simp [after tail plain]⟩

theorem not_mem_splitChars {separator : Char} {cs piece : List Char}
    (within : piece ∈ splitChars separator cs) : separator ∉ piece := by
  induction cs generalizing piece with
  | nil => simp_all [splitChars]
  | cons c cs ih =>
    simp only [splitChars] at within
    split at within
    · rcases List.mem_cons.mp within with rfl | within
      · simp
      · exact ih within
    · rename_i other
      cases pieces : splitChars separator cs with
      | nil => exact (splitChars_ne_nil _ _ pieces).elim
      | cons first others =>
        simp only [pieces, List.mem_cons] at within ih
        rcases within with rfl | within
        · simp [Ne.symm other, ih (.inl rfl)]
        · exact ih (.inr within)

theorem takeWhile_plain {separator : Char} {cs : List Char} (plain : separator ∉ cs)
    (rest : List Char) : (cs ++ separator :: rest).takeWhile (· ≠ separator) = cs := by
  rw [List.takeWhile_append_of_pos, List.takeWhile_cons, if_neg (by simp), List.append_nil]
  exact fun c within => decide_eq_true fun same => plain (same ▸ within)

theorem dropWhile_plain {separator : Char} {cs : List Char} (plain : separator ∉ cs)
    (rest : List Char) : (cs ++ separator :: rest).dropWhile (· ≠ separator) =
      separator :: rest := by
  rw [List.dropWhile_append_of_pos, List.dropWhile_cons, if_neg (by simp)]
  exact fun c within => decide_eq_true fun same => plain (same ▸ within)

theorem not_mem_afterLast (separator : Char) (s : String) :
    separator ∉ (afterLast separator s).toList := by
  intro within
  rw [afterLast, String.toList_ofList, List.mem_reverse] at within
  simpa using List.mem_takeWhile_imp within

theorem afterLast_cases (separator : Char) (s : String) : afterLast separator s = s ∨
    ∃ front, s.toList = front ++ separator :: (afterLast separator s).toList := by
  have parts := congrArg List.reverse
    (List.takeWhile_append_dropWhile (p := (· ≠ separator)) (l := s.toList.reverse))
  rw [List.reverse_append, List.reverse_reverse] at parts
  rw [afterLast, String.toList_ofList]
  cases before : s.toList.reverse.dropWhile (· ≠ separator) with
  | nil =>
    rw [before, List.reverse_nil, List.nil_append] at parts
    exact .inl (by rw [parts, String.ofList_toList])
  | cons c front =>
    have mark := List.head?_dropWhile_not (· ≠ separator) s.toList.reverse
    rw [before] at mark
    obtain rfl : c = separator := by simpa using mark
    rw [before, List.reverse_cons, List.append_assoc] at parts
    exact .inr ⟨front.reverse, parts.symm⟩

theorem splitLast_append {separator : Char} {last : List Char} (plain : separator ∉ last)
    (front : List Char) : splitLast separator (front ++ separator :: last) = some (front, last) := by
  have after : ((front ++ separator :: last).reverse.takeWhile (· ≠ separator)).reverse = last := by
    rw [List.reverse_append, List.reverse_cons, List.append_assoc, List.singleton_append,
      takeWhile_plain (by simpa using plain), List.reverse_reverse]
  have before : front.length + (last.length + 1) - last.length - 1 = front.length := by omega
  simp only [splitLast, after, List.length_append, List.length_cons, before, List.take_left]
  rw [if_pos (by omega)]

theorem splitLast_eq_some_iff {separator : Char} {cs front last : List Char} :
    splitLast separator cs = some (front, last) ↔
      cs = front ++ separator :: last ∧ separator ∉ last := by
  refine ⟨fun found => ?_, fun ⟨whole, plain⟩ => whole ▸ splitLast_append plain front⟩
  rcases afterLast_cases separator (String.ofList cs) with whole | ⟨front', whole⟩
  · have same : (cs.reverse.takeWhile (· ≠ separator)).reverse = cs := by
      rw [afterLast, String.ofList_inj, String.toList_ofList] at whole
      exact whole
    simp only [splitLast, same, Nat.lt_irrefl, ↓reduceIte] at found
    cases found
  · have plain := not_mem_afterLast separator (String.ofList cs)
    rw [String.toList_ofList] at whole
    rw [whole, splitLast_append plain, Option.some.injEq, Prod.mk.injEq] at found
    obtain ⟨rfl, rfl⟩ := found
    exact ⟨whole, plain⟩

theorem trim_eq_self {s : String} (black : ∀ c ∈ s.toList, isBlank c = false) : trim s = s := by
  have kept {cs : List Char} (black : ∀ c ∈ cs, isBlank c = false) : cs.dropWhile isBlank = cs := by
    cases cs with
    | nil => rfl
    | cons c rest => simp [black c List.mem_cons_self]
  have kept' := @kept s.toList.reverse fun c within => black c (List.mem_reverse.mp within)
  rw [trim, trimChars, trimStart, kept black, trimEnd, kept', List.reverse_reverse,
    String.ofList_toList]

end CallChart.Text
