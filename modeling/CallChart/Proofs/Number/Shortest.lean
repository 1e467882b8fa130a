import CallChart.Proofs.Number.Digits
import CallChart.Proofs.Number.Nearest

namespace CallChart.Decimal

open Binary64

theorem digitCount_le_iff {n width : Nat} : digitCount n ≤ width ↔ n < 10 ^ width := by
  unfold digitCount
  split
  · rename_i zero
    simp [zero]
  · rename_i nonzero
    rcases Nat.eq_zero_or_pos width with rfl | positive
    · have some_ : (Nat.toDigits 10 n).length ≠ 0 := by simp [Nat.toDigits_ne_nil]
      simp only [Nat.le_zero_eq, some_, Nat.pow_zero, Nat.lt_one_iff, nonzero]
    · exact Nat.length_toDigits_le_iff (by omega) positive

theorem lt_digitCount_iff {n width : Nat} : width < digitCount n ↔ 10 ^ width ≤ n := by
  rw [← Nat.not_le, digitCount_le_iff, Nat.not_lt]

theorem digitCount_mono {n m : Nat} (le : m ≤ n) : digitCount m ≤ digitCount n :=
  digitCount_le_iff.mpr (Nat.lt_of_le_of_lt le (digitCount_le_iff.mp (Nat.le_refl _)))

theorem digitCount_pos {n : Nat} (positive : 0 < n) : 0 < digitCount n :=
  lt_digitCount_iff.mpr (by rwa [Nat.pow_zero])

theorem digitCount_succ_le (n : Nat) : digitCount (n + 1) ≤ digitCount n + 1 := by
  rw [digitCount_le_iff, Nat.pow_succ]
  have below : n < 10 ^ digitCount n := digitCount_le_iff.mp (Nat.le_refl _)
  omega

theorem digitCount_div_ten {n : Nat} (whole : 10 ≤ n) : digitCount n = digitCount (n / 10) + 1 := by
  have nonzero : n ≠ 0 := by omega
  have nonzero' : n / 10 ≠ 0 := by omega
  simp only [digitCount, nonzero, nonzero', ↓reduceIte]
  rw [Nat.toDigits_eq_if (by omega), if_neg (by omega)]
  simp

theorem dropZeros_spec (n : Nat) :
    ∃ zeros, n = dropZeros n * 10 ^ zeros ∧ digitCount n = digitCount (dropZeros n) + zeros := by
  induction n using dropZeros.induct with
  | case1 n more ih =>
    obtain ⟨zeros, value, length⟩ := ih
    rw [dropZeros, dif_pos more]
    refine ⟨zeros + 1, ?_, ?_⟩
    · rw [Nat.pow_succ, ← Nat.mul_assoc, ← value]
      omega
    · rw [digitCount_div_ten (by omega), length]
      omega
  | case2 n last =>
    rw [dropZeros, dif_neg last]
    exact ⟨0, by simp, by simp⟩

theorem magnitude_eq (digits : Nat) (exponent : Int) (places : Nat) (enough : 0 ≤ exponent + places) :
    magnitude digits exponent =
      nearest (digits * 10 ^ (exponent + places).toNat * unitsPerOne) (10 ^ places) := by
  have extended (num den factor : Nat) (positive : 0 < factor) :
      nearest (num * unitsPerOne) den = nearest (num * factor * unitsPerOne) (den * factor) := by
    rw [Nat.mul_right_comm, nearest_mul_right positive]
  simp only [magnitude, quotient, Nat.pow_eq]
  split
  · rename_i whole
    rw [extended _ _ (10 ^ places) (Nat.pow_pos (by omega)), Nat.mul_assoc digits, ← Nat.pow_add,
      Nat.one_mul, Int.toNat_add whole (by omega), Int.toNat_natCast]
  · rename_i broken
    have together : (-exponent).toNat + (exponent + places).toNat = places := by omega
    rw [extended _ _ (10 ^ (exponent + places).toNat) (Nat.pow_pos (by omega)), ← Nat.pow_add,
      together]

theorem magnitude_mul_pow (digits zeros : Nat) (exponent : Int) :
    magnitude (digits * 10 ^ zeros) exponent = magnitude digits (exponent + zeros) := by
  have power : zeros + (exponent + (-exponent).toNat).toNat =
      (exponent + zeros + (-exponent).toNat).toNat := by omega
  rw [magnitude_eq _ exponent (-exponent).toNat (by omega),
    magnitude_eq _ (exponent + zeros) (-exponent).toNat (by omega), Nat.mul_assoc digits,
    ← Nat.pow_add, power]

theorem magnitude_mono {n m : Nat} (le : m ≤ n) (exponent : Int) :
    magnitude m exponent ≤ magnitude n exponent := by
  have power : 0 < 10 ^ (-exponent).toNat := Nat.pow_pos (by omega)
  rw [magnitude_eq m exponent (-exponent).toNat (by omega),
    magnitude_eq n exponent (-exponent).toNat (by omega)]
  exact nearest_mono power power
    (Nat.mul_le_mul_right _ (Nat.mul_le_mul_right _ (Nat.mul_le_mul_right _ le)))

theorem magnitude_mono_exponent (n : Nat) {low high : Int} (le : low ≤ high) :
    magnitude n low ≤ magnitude n high := by
  have shifted := magnitude_mul_pow n (high - low).toNat low
  rw [show low + (high - low).toNat = high by omega] at shifted
  rw [← shifted]
  exact magnitude_mono (Nat.le_mul_of_pos_right n (Nat.pow_pos (by omega))) low

theorem magnitude_zero (exponent : Int) : magnitude 0 exponent = 0 := by
  simp [magnitude_eq 0 exponent (-exponent).toNat (by omega), nearest]

def exponent (d : Decimal) : Int :=
  d.position - digitCount d.digits

def rounded (d : Decimal) : Nat :=
  magnitude d.digits d.exponent

theorem rounded_dropZeros (digits : Nat) (exponent : Int) :
    rounded ⟨dropZeros digits, exponent + digitCount digits⟩ = magnitude digits exponent := by
  obtain ⟨zeros, value, length⟩ := dropZeros_spec digits
  have rest : exponent + digitCount digits - digitCount (dropZeros digits) = exponent + zeros := by
    omega
  rw [rounded, Decimal.exponent, rest, ← magnitude_mul_pow, ← value]

theorem hit?_spec {digits target num den count : Nat} {position : Int} {tie : Tie}
    (hit : hit? tie target num den position count = some digits) :
    magnitude digits (position - count) = target ∧
      digits ≤ num * (quotient 1 (position - count)).2 /
        (den * (quotient 1 (position - count)).1) + 1 := by
  have near : (neighbours tie num den position count).1 ≤ num * (quotient 1 (position - count)).2 /
        (den * (quotient 1 (position - count)).1) + 1 ∧
      (neighbours tie num den position count).2 ≤ num * (quotient 1 (position - count)).2 /
        (den * (quotient 1 (position - count)).1) + 1 := by
    simp only [neighbours]
    repeat' split
    all_goals exact ⟨by omega, by omega⟩
  simp only [hit?] at hit
  split at hit
  · rename_i rounds
    cases hit
    exact ⟨rounds, near.1⟩
  · split at hit
    · rename_i rounds
      cases hit
      exact ⟨rounds, near.2⟩
    · cases hit

theorem powers_bounds :
    (10 ^ 323 ≤ unitsPerOne ∧ unitsPerOne < 10 ^ 324) ∧
      (∀ most, most = 2045 → 2 ^ 53 * 2 ^ most ≤ 10 ^ 632) ∧
      ∀ places, places = 1074 → 10 ^ 750 ≤ 5 ^ places ∧ 5 ^ places ≤ 10 ^ 751 := by
  simp only [forall_eq]
  decide +kernel

theorem digitCount_unitsPerOne : digitCount unitsPerOne = 324 := by
  obtain ⟨⟨low, high⟩, -⟩ := powers_bounds
  have least := lt_digitCount_iff.mpr low
  have most := digitCount_le_iff.mpr high
  omega

theorem digitCount_scaled_le {magnitude : Nat} (finite : magnitude < 0x7FF0000000000000) :
    digitCount (scaled magnitude) ≤ 632 := by
  obtain ⟨most, known⟩ : ∃ most, most = 2045 := ⟨_, rfl⟩
  have wide := powers_bounds.2.1 most known
  exact digitCount_le_iff.mpr (Nat.lt_of_lt_of_le (scaled_lt finite known.ge) wide)

theorem leadingPosition_bounds (num den : Nat) :
    (digitCount num : Int) - digitCount den ≤ leadingPosition num den ∧
      leadingPosition num den ≤ (digitCount num : Int) - digitCount den + 1 := by
  simp only [leadingPosition]
  split <;> omega

theorem digitCount_quotient_le (num : Nat) {den : Nat} (positive : 0 < den) (exponent : Int) :
    (digitCount (num * (quotient 1 exponent).2 / (den * (quotient 1 exponent).1)) : Int) ≤
      max 0 (digitCount num - digitCount den + 1 - exponent) := by
  generalize parts : num * (quotient 1 exponent).2 / (den * (quotient 1 exponent).1) = part
  rcases Nat.eq_zero_or_pos part with rfl | some_
  · have none_ : digitCount 0 = 0 := rfl
    omega
  obtain ⟨digits, counted⟩ : ∃ digits, digitCount part = digits + 1 :=
    ⟨digitCount part - 1, by have := digitCount_pos some_; omega⟩
  obtain ⟨below, counted'⟩ : ∃ below, digitCount den = below + 1 :=
    ⟨digitCount den - 1, by have := digitCount_pos positive; omega⟩
  have part_ge : 10 ^ digits ≤ part := lt_digitCount_iff.mp (by omega)
  have den_ge : 10 ^ below ≤ den := lt_digitCount_iff.mp (by omega)
  have num_lt : num < 10 ^ digitCount num := digitCount_le_iff.mp (Nat.le_refl _)
  have fits : part * (den * (quotient 1 exponent).1) ≤ num * (quotient 1 exponent).2 := by
    rw [← parts]
    exact Nat.div_mul_le_self _ _
  suffices short : (digits : Int) + below + exponent < digitCount num by omega
  simp only [quotient, Nat.pow_eq] at fits
  split at fits
  · have power : 10 ^ (digits + (below + exponent.toNat)) < 10 ^ digitCount num :=
      calc 10 ^ (digits + (below + exponent.toNat))
          = 10 ^ digits * (10 ^ below * 10 ^ exponent.toNat) := by rw [Nat.pow_add, Nat.pow_add]
        _ ≤ part * (den * 10 ^ exponent.toNat) :=
          Nat.mul_le_mul part_ge (Nat.mul_le_mul_right _ den_ge)
        _ ≤ num := by simpa using fits
        _ < 10 ^ digitCount num := num_lt
    have := (Nat.pow_lt_pow_iff_right (by omega)).mp power
    omega
  · have power : 10 ^ (digits + below) < 10 ^ (digitCount num + (-exponent).toNat) :=
      calc 10 ^ (digits + below) = 10 ^ digits * 10 ^ below := Nat.pow_add ..
        _ ≤ part * den := Nat.mul_le_mul part_ge den_ge
        _ ≤ num * 10 ^ (-exponent).toNat := by simpa using fits
        _ < 10 ^ digitCount num * 10 ^ (-exponent).toNat :=
          Nat.mul_lt_mul_of_pos_right num_lt (Nat.pow_pos (by omega))
        _ = 10 ^ (digitCount num + (-exponent).toNat) := (Nat.pow_add ..).symm
    have := (Nat.pow_lt_pow_iff_right (by omega)).mp power
    omega

/-- A decimal rounds back to a magnitude, and its first digit is not far from the point. -/
structure Shows (d : Decimal) (target : Nat) : Prop where
  digits : d.digits ≠ 0
  rounded : d.rounded = target
  low : -400 ≤ d.position
  high : d.position ≤ 400

theorem dropZeros_ne_zero {n : Nat} (nonzero : n ≠ 0) : dropZeros n ≠ 0 := by
  intro zero
  obtain ⟨zeros, value, -⟩ := dropZeros_spec n
  rw [zero, Nat.zero_mul] at value
  exact nonzero value

theorem shows_of_magnitude {digits target : Nat} {exponent : Int} (positive : 0 < target)
    (rounds : magnitude digits exponent = target) (low : -400 ≤ exponent + digitCount digits)
    (high : exponent + digitCount digits ≤ 400) :
    Shows ⟨dropZeros digits, exponent + digitCount digits⟩ target where
  digits := by
    apply dropZeros_ne_zero
    rintro rfl
    rw [magnitude_zero] at rounds
    omega
  rounded := (rounded_dropZeros digits exponent).trans rounds
  low := low
  high := high

theorem shows_candidate {target count : Nat} {tie : Tie} {d : Decimal} (positive : 0 < target)
    (finite : target < 0x7FF0000000000000) (few : count ≤ 17)
    (found : candidate? tie target (scaled target) unitsPerOne
      (leadingPosition (scaled target) unitsPerOne) count = some d) : Shows d target := by
  simp only [candidate?, Option.map_eq_some_iff] at found
  obtain ⟨digits, hit, rfl⟩ := found
  obtain ⟨rounds, near⟩ := hit?_spec hit
  have positions := leadingPosition_bounds (scaled target) unitsPerOne
  have length := digitCount_quotient_le (scaled target) unitsPerOne_pos
    (leadingPosition (scaled target) unitsPerOne - count)
  have longer := Nat.le_trans (digitCount_mono near) (digitCount_succ_le _)
  have long := digitCount_scaled_le finite
  have nonzero := digitCount_pos (scaled_pos positive)
  rw [digitCount_unitsPerOne] at positions length
  apply shows_of_magnitude positive rounds <;> omega

theorem quotient_exact {places : Nat} (units : unitsPerOne = 2 ^ places) (n : Nat) :
    n * 10 ^ places / unitsPerOne = n * 5 ^ places := by
  rw [units, show 10 = 5 * 2 by rfl, Nat.mul_pow, ← Nat.mul_assoc]
  exact Nat.mul_div_cancel _ (Nat.two_pow_pos _)

theorem magnitude_exact {places : Nat} (units : unitsPerOne = 2 ^ places) (n : Nat) :
    magnitude (n * 5 ^ places) (-(places : Int)) = nearest n 1 := by
  have tens : n * 5 ^ places * unitsPerOne = n * 10 ^ places := by
    rw [units, Nat.mul_assoc, ← Nat.mul_pow]
  have none_ : (-(places : Int) + places).toNat = 0 := by omega
  rw [magnitude_eq _ _ places (by omega), none_, Nat.pow_zero, Nat.mul_one, tens]
  exact (congrArg _ (Nat.one_mul _).symm).trans
    (nearest_mul_right (Nat.pow_pos (by omega)) n 1)

theorem shows_allDigits {target places : Nat} (known : places = 1074)
    (positive : 0 < target) (finite : target < 0x7FF0000000000000) :
    Shows (allDigits places (scaled target) unitsPerOne) target := by
  have units := unitsPerOne_eq known
  have exact : scaled target * Nat.pow 10 places / unitsPerOne = scaled target * 5 ^ places :=
    quotient_exact units _
  have rounds := (magnitude_exact units (scaled target)).trans (nearest_scaled target)
  obtain ⟨low, high⟩ := powers_bounds.2.2 places known
  have least : 750 < digitCount (scaled target * 5 ^ places) :=
    lt_digitCount_iff.mpr (Nat.le_trans low (Nat.le_mul_of_pos_left _ (scaled_pos positive)))
  have most : digitCount (scaled target * 5 ^ places) ≤ 632 + 751 := by
    have product (m n : Nat) {long high : Nat} (left : m < 10 ^ long) (right : n ≤ 10 ^ high) :
        m * n < 10 ^ (long + high) := by
      rw [Nat.pow_add]
      exact Nat.mul_lt_mul_of_lt_of_le left right (Nat.pow_pos (by omega))
    have small := digitCount_le_iff.mp (digitCount_scaled_le finite)
    exact digitCount_le_iff.mpr (product _ _ small high)
  simp only [allDigits, exact]
  apply shows_of_magnitude positive rounds <;> omega

theorem shortest_shows {target : Nat} (tie : Tie) (positive : 0 < target)
    (finite : target < 0x7FF0000000000000) :
    Shows (shortest tie target) target := by
  simp only [shortest, positive.ne', ↓reduceIte]
  cases found : (List.range' 1 17).findSome? (candidate? tie target (scaled target) unitsPerOne
      (leadingPosition (scaled target) unitsPerOne)) with
  | some d =>
    obtain ⟨count, within, found⟩ := List.exists_of_findSome?_eq_some found
    have few := List.mem_range'_1.mp within
    exact shows_candidate positive finite (by omega) found
  | none => exact shows_allDigits rfl positive finite

end CallChart.Decimal
