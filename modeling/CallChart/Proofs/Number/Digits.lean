import CallChart.Number.Reading
import Mathlib.Algebra.Group.Nat.Defs
import Mathlib.Tactic.Common

namespace CallChart

def AllDigits (cs : List Char) : Prop :=
  ∀ c ∈ cs, c.isDigit = true

theorem AllDigits.append {cs ds : List Char} (first : AllDigits cs) (second : AllDigits ds) :
    AllDigits (cs ++ ds) := by
  intro c within
  rcases List.mem_append.mp within with within | within
  · exact first c within
  · exact second c within

theorem allDigits_toDigits (n : Nat) : AllDigits (Nat.toDigits 10 n) :=
  fun _ within => Nat.isDigit_of_mem_toDigits (by omega) (by omega) within

theorem isBlank_of_isDigit {c : Char} (digit : c.isDigit = true) : Text.isBlank c = false := by
  rw [Char.isDigit_iff_toNat] at digit
  obtain ⟨low, high⟩ := digit
  simp only [Text.isBlank, Bool.or_eq_false_iff, Bool.and_eq_false_iff, decide_eq_false_iff_not,
    beq_eq_false_iff_ne]
  simp only [Char.reduceToNat] at low high
  omega

def Ends (rest : List Char) : Prop :=
  ∀ c ∈ rest.head?, c.isDigit = false

theorem takeWhile_digits {ds rest : List Char} (digits : AllDigits ds) (ends : Ends rest) :
    (ds ++ rest).takeWhile Char.isDigit = ds := by
  rw [List.takeWhile_append_of_pos digits]
  cases rest with
  | nil => simp
  | cons c rest => simp [ends c rfl]

theorem dropWhile_digits {ds rest : List Char} (digits : AllDigits ds) (ends : Ends rest) :
    (ds ++ rest).dropWhile Char.isDigit = rest := by
  rw [List.dropWhile_append_of_pos digits]
  cases rest with
  | nil => rfl
  | cons c rest => simp [ends c rfl]

theorem ofDigits_eq (cs : List Char) : ofDigits cs = Nat.ofDigitChars 10 cs 0 := by
  simp only [ofDigits, Nat.ofDigitChars_eq_foldl, Nat.mul_comm]

@[simp] theorem ofDigits_toDigits (n : Nat) : ofDigits (Nat.toDigits 10 n) = n := by
  rw [ofDigits_eq, Nat.ofDigitChars_ten_toDigits]

theorem ofDigits_append (cs ds : List Char) :
    ofDigits (cs ++ ds) = ofDigits cs * 10 ^ ds.length + ofDigits ds := by
  rw [ofDigits_eq, ofDigits_eq, ofDigits_eq, Nat.ofDigitChars_append,
    Nat.ofDigitChars_eq_ofDigitChars_zero, Nat.mul_comm]

theorem ofDigitChars_lt {cs : List Char} (digits : AllDigits cs) (n : Nat) :
    Nat.ofDigitChars 10 cs n < (n + 1) * 10 ^ cs.length := by
  induction cs generalizing n with
  | nil => simp
  | cons c cs ih =>
    have digit := Char.isDigit_iff_toNat.mp (digits c List.mem_cons_self)
    have zero : '0'.toNat = 48 := rfl
    have nine : '9'.toNat = 57 := rfl
    have next : 10 * n + (c.toNat - '0'.toNat) + 1 ≤ (n + 1) * 10 := by omega
    calc Nat.ofDigitChars 10 (c :: cs) n
        < (10 * n + (c.toNat - '0'.toNat) + 1) * 10 ^ cs.length := by
          rw [Nat.ofDigitChars_cons]
          exact ih (fun d within => digits d (List.mem_cons_of_mem _ within)) _
      _ ≤ (n + 1) * 10 * 10 ^ cs.length := Nat.mul_le_mul_right _ next
      _ = (n + 1) * 10 ^ (c :: cs).length := by
        rw [List.length_cons, Nat.pow_succ, Nat.mul_assoc, Nat.mul_comm 10]

theorem ofDigits_lt {cs : List Char} (digits : AllDigits cs) : ofDigits cs < 10 ^ cs.length := by
  have bound := ofDigitChars_lt digits 0
  rwa [Nat.zero_add, Nat.one_mul, ← ofDigits_eq] at bound

theorem ofDigits_zeros (count : Nat) (cs : List Char) :
    ofDigits (List.replicate count '0' ++ cs) = ofDigits cs := by
  rw [ofDigits_append, ofDigits_eq (List.replicate count '0'), Nat.ofDigitChars_replicate_zero]
  omega

theorem head?_toDigits {n : Nat} (positive : 0 < n) : (Nat.toDigits 10 n).head? ≠ some '0' := by
  induction n using Nat.strongRecOn with
  | ind n ih =>
    rw [Nat.toDigits_eq_if (by omega)]
    split
    · simpa using by omega
    · have smaller := ih (n / 10) (by omega) (by omega)
      rwa [List.head?_append, Option.or_of_isSome]
      simp

theorem toDigits_lone_zero {n : Nat} (zero : (Nat.toDigits 10 n).head? = some '0') :
    (Nat.toDigits 10 n).length = 1 := by
  rcases Nat.eq_zero_or_pos n with rfl | positive
  · rfl
  · exact (head?_toDigits positive zero).elim

theorem length_toDigits_le {n width : Nat} (positive : 0 < width) (small : n < 10 ^ width) :
    (Nat.toDigits 10 n).length ≤ width :=
  (Nat.length_toDigits_le_iff (by omega) positive).mpr small

theorem le_ofDigitChars (cs : List Char) (n : Nat) : n ≤ Nat.ofDigitChars 10 cs n := by
  induction cs generalizing n with
  | nil => simp
  | cons c cs ih =>
    rw [Nat.ofDigitChars_cons]
    exact Nat.le_trans (by omega) (ih _)

theorem countDigits_digits {ds : List Char} (digits : AllDigits ds) (some_ : ds ≠ [])
    (bound n : Nat) : countDigits bound n ds =
      if Nat.ofDigitChars 10 ds n < bound then .ok (Nat.ofDigitChars 10 ds n) else .error .large := by
  induction ds generalizing n with
  | nil => exact (some_ rfl).elim
  | cons c rest ih =>
    have value : digitValue? c = some (c.toNat - '0'.toNat) := if_pos (digits c List.mem_cons_self)
    have more := le_ofDigitChars rest (10 * n + (c.toNat - '0'.toNat))
    simp only [countDigits, value, Nat.ofDigitChars_cons, Nat.mul_comm n 10]
    split
    · cases rest with
      | nil => simp_all [countDigits]
      | cons d rest =>
        exact ih (fun c within => digits c (List.mem_cons_of_mem _ within)) (by simp) _
    · rw [if_neg (by omega)]

theorem countDigits_lt {bound n m : Nat} {cs : List Char} (small : n < bound)
    (read : countDigits bound n cs = .ok m) : m < bound := by
  induction cs generalizing n with
  | nil =>
    cases read
    exact small
  | cons c rest ih =>
    simp only [countDigits] at read
    split at read
    · cases read
    · split at read
      · rename_i small'
        exact ih small' read
      · cases read

theorem count?_lt {bound n : Nat} {s : String} (some_ : 0 < bound) (read : count? bound s = .ok n) :
    n < bound := by
  simp only [count?] at read
  split at read
  · cases read
  · cases read
  · exact countDigits_lt some_ read
  · exact countDigits_lt some_ read

theorem count?_toString (bound n : Nat) :
    count? bound (toString n) = if n < bound then .ok n else .error .large := by
  have digits := allDigits_toDigits n
  have some_ : Nat.toDigits 10 n ≠ [] := Nat.toDigits_ne_nil
  have read := countDigits_digits digits some_ bound 0
  rw [Nat.ofDigitChars_ten_toDigits] at read
  rw [count?, Nat.toString_eq_ofList_toDigits, String.toList_ofList]
  split
  · rename_i empty
    exact (some_ empty).elim
  · rename_i plus
    have digit := digits '+' (by simp [plus])
    cases digit
  · rename_i rest plus
    have digit := digits '+' (by simp [plus])
    cases digit
  · exact read

end CallChart
