import CallChart.Number.Binary64
import Mathlib.Algebra.Order.Ring.Nat
import Mathlib.Tactic.Common
import Mathlib.Tactic.Ring

namespace CallChart.Binary64

theorem unitsPerOne_eq {bits : Nat} (known : bits = 1074) : unitsPerOne = 2 ^ bits := by
  unfold unitsPerOne
  rw [← known]
  rfl

theorem unitsPerOne_pos : 0 < unitsPerOne := by
  obtain ⟨bits, known⟩ : ∃ bits, bits = 1074 := ⟨_, rfl⟩
  rw [unitsPerOne_eq known]
  exact Nat.two_pow_pos bits

theorem nearest_mul_left {factor : Nat} (positive : 0 < factor) (num den : Nat) :
    nearest (factor * num) (factor * den) = nearest num den := by
  simp only [nearest, Nat.mul_div_mul_left num den positive]
  generalize (num / den).log2 - 52 = shift
  generalize num / den / Nat.pow 2 shift = significand
  have step : factor * den * Nat.pow 2 shift = factor * (den * Nat.pow 2 shift) := by ring
  have rest : factor * num - significand * (factor * (den * Nat.pow 2 shift)) =
      factor * (num - significand * (den * Nat.pow 2 shift)) := by
    rw [Nat.mul_sub]
    congr 1
    ring
  have double : 2 * (factor * (num - significand * (den * Nat.pow 2 shift))) =
      factor * (2 * (num - significand * (den * Nat.pow 2 shift))) := by ring
  simp only [step, rest, double, Nat.mul_lt_mul_left positive, Nat.mul_right_inj positive.ne']

theorem nearest_mul_right {factor : Nat} (positive : 0 < factor) (num den : Nat) :
    nearest (num * factor) (den * factor) = nearest num den := by
  rw [Nat.mul_comm num, Nat.mul_comm den, nearest_mul_left positive]

theorem nearest_zero (den : Nat) : nearest 0 den = 0 := by
  simp [nearest]

theorem nearest_exact {significand : Nat} (shift : Nat) (small : significand < 2 ^ 53)
    (normal : shift = 0 ∨ 2 ^ 52 ≤ significand) :
    nearest (significand * 2 ^ shift) 1 = shift * 2 ^ 52 + significand := by
  have power : 0 < 2 ^ shift := Nat.two_pow_pos shift
  have cut : (significand * 2 ^ shift).log2 - 52 = shift := by
    rcases normal with rfl | large
    · rw [Nat.pow_zero, Nat.mul_one]
      by_cases zero : significand = 0
      · simp [zero]
      · have := (Nat.log2_lt zero).mpr small
        omega
    · have nonzero : significand * 2 ^ shift ≠ 0 := Nat.mul_ne_zero (by omega) power.ne'
      have low : 52 + shift ≤ (significand * 2 ^ shift).log2 := by
        rw [Nat.le_log2 nonzero, Nat.pow_add]
        exact Nat.mul_le_mul_right _ large
      have high : (significand * 2 ^ shift).log2 < 53 + shift := by
        rw [Nat.log2_lt nonzero, Nat.pow_add]
        exact Nat.mul_lt_mul_of_pos_right small power
      omega
  have whole : significand * 2 ^ shift / Nat.pow 2 shift = significand :=
    Nat.mul_div_cancel _ power
  simp only [nearest, Nat.div_one, cut, whole, Nat.one_mul]
  have rest : significand * 2 ^ shift - significand * Nat.pow 2 shift = 0 := Nat.sub_self _
  have step : Nat.pow 2 shift ≠ 0 := power.ne'
  simp only [rest, Nat.mul_zero, Nat.not_lt_zero, step, false_and, or_self, ↓reduceIte]
  rfl

theorem nearest_scaled (magnitude : Nat) : nearest (scaled magnitude) 1 = magnitude := by
  have parts : magnitude / 2 ^ 52 * 2 ^ 52 + magnitude % 2 ^ 52 = magnitude :=
    Nat.div_add_mod' magnitude _
  have fraction : magnitude % 2 ^ 52 < 2 ^ 52 := Nat.mod_lt _ (by omega)
  simp only [scaled, Nat.pow_eq]
  split
  · rename_i denormal
    rw [denormal] at parts
    have exact := nearest_exact 0 (show magnitude % 2 ^ 52 < 2 ^ 53 by omega) (.inl rfl)
    rw [Nat.pow_zero, Nat.mul_one] at exact
    omega
  · rw [nearest_exact _ (by omega) (.inr (by omega)), Nat.sub_mul]
    omega

theorem scaled_inj {m n : Nat} (same : scaled m = scaled n) : m = n := by
  rw [← nearest_scaled m, ← nearest_scaled n, same]

theorem scaled_pos {magnitude : Nat} (positive : 0 < magnitude) : 0 < scaled magnitude := by
  refine Nat.pos_of_ne_zero fun zero => positive.ne' ?_
  exact scaled_inj (zero.trans (by decide))

theorem significand_lt {significand shift most : Nat} (small : significand < 2 ^ 53)
    (short : shift ≤ most) :
    significand * 2 ^ shift < 2 ^ 53 * 2 ^ most :=
  calc significand * 2 ^ shift
      ≤ significand * 2 ^ most := Nat.mul_le_mul_left _ (Nat.pow_le_pow_right (by omega) short)
    _ < 2 ^ 53 * 2 ^ most := Nat.mul_lt_mul_of_pos_right small (Nat.two_pow_pos _)

theorem scaled_lt {magnitude most : Nat} (finite : magnitude < 0x7FF0000000000000)
    (wide : 2045 ≤ most) : scaled magnitude < 2 ^ 53 * 2 ^ most := by
  have fraction : magnitude % 2 ^ 52 < 2 ^ 52 := Nat.mod_lt _ (by omega)
  simp only [scaled, Nat.pow_eq]
  split
  · have bound := significand_lt (show magnitude % 2 ^ 52 < 2 ^ 53 by omega) (Nat.zero_le most)
    rwa [Nat.pow_zero, Nat.mul_one] at bound
  · exact significand_lt (by omega) (by omega)

theorem scaled_exact {significand : Nat} (shift : Nat) (small : significand ≤ 2 ^ 53)
    (normal : shift = 0 ∨ 2 ^ 52 ≤ significand) :
    scaled (shift * 2 ^ 52 + significand) = significand * 2 ^ shift := by
  rcases Nat.lt_or_ge significand (2 ^ 52) with denormal | large
  · obtain rfl : shift = 0 := by omega
    have exponent : (0 * 2 ^ 52 + significand) / 2 ^ 52 = 0 := by omega
    have fraction : (0 * 2 ^ 52 + significand) % 2 ^ 52 = significand := by omega
    simp only [scaled, Nat.pow_eq, exponent, fraction, ↓reduceIte, Nat.pow_zero, Nat.mul_one]
  · rcases Nat.lt_or_ge significand (2 ^ 53) with whole | top
    · have exponent : (shift * 2 ^ 52 + significand) / 2 ^ 52 = shift + 1 := by omega
      have fraction : (shift * 2 ^ 52 + significand) % 2 ^ 52 = significand - 2 ^ 52 := by omega
      have together : 2 ^ 52 + (significand - 2 ^ 52) = significand := by omega
      simp only [scaled, Nat.pow_eq, exponent, fraction, together, Nat.add_sub_cancel]
      rw [if_neg (by omega)]
    · obtain rfl : significand = 2 ^ 53 := by omega
      have exponent : (shift * 2 ^ 52 + 2 ^ 53) / 2 ^ 52 = shift + 1 + 1 := by omega
      have fraction : (shift * 2 ^ 52 + 2 ^ 53) % 2 ^ 52 = 0 := by omega
      simp only [scaled, Nat.pow_eq, exponent, fraction, Nat.add_sub_cancel]
      rw [if_neg (by omega), Nat.add_zero, Nat.pow_succ 2 shift]
      ring

theorem scaled_parts (magnitude : Nat) : ∃ shift significand, significand < 2 ^ 53 ∧
    (shift = 0 ∨ 2 ^ 52 ≤ significand) ∧ magnitude = shift * 2 ^ 52 + significand := by
  rcases Nat.eq_zero_or_pos (magnitude / 2 ^ 52) with denormal | normal
  · exact ⟨0, magnitude, by omega, .inl rfl, by omega⟩
  · exact ⟨magnitude / 2 ^ 52 - 1, 2 ^ 52 + magnitude % 2 ^ 52, by omega, .inr (by omega), by omega⟩

theorem scaled_lt_succ (magnitude : Nat) : scaled magnitude < scaled (magnitude + 1) := by
  obtain ⟨shift, significand, small, normal, rfl⟩ := scaled_parts magnitude
  rw [scaled_exact shift small.le normal, Nat.add_assoc, scaled_exact shift small (by omega)]
  exact Nat.mul_lt_mul_of_pos_right (Nat.lt_succ_self _) (Nat.two_pow_pos shift)

theorem scaled_strictMono : StrictMono scaled :=
  strictMono_nat_of_lt_succ scaled_lt_succ

theorem nearest_between (num : Nat) {den : Nat} (positive : 0 < den) : ∃ magnitude,
    scaled magnitude * den ≤ num ∧ num < scaled (magnitude + 1) * den ∧
      nearest num den =
        if (scaled magnitude + scaled (magnitude + 1)) * den < 2 * num ∨
          ((scaled magnitude + scaled (magnitude + 1)) * den = 2 * num ∧ magnitude % 2 = 1)
        then magnitude + 1 else magnitude := by
  obtain ⟨whole, isWhole⟩ : ∃ whole, whole = num / den := ⟨_, rfl⟩
  obtain ⟨shift, isShift⟩ : ∃ shift, shift = whole.log2 - 52 := ⟨_, rfl⟩
  obtain ⟨significand, isSignificand⟩ : ∃ significand, significand = whole / 2 ^ shift := ⟨_, rfl⟩
  have power : 0 < 2 ^ shift := Nat.two_pow_pos shift
  have small : significand < 2 ^ 53 := by
    rw [isSignificand, Nat.div_lt_iff_lt_mul power, ← Nat.pow_add]
    exact Nat.lt_of_lt_of_le Nat.lt_log2_self (Nat.pow_le_pow_right (by omega) (by omega))
  have normal : shift = 0 ∨ 2 ^ 52 ≤ significand := by
    refine or_iff_not_imp_left.mpr fun shifted => ?_
    have nonzero : whole ≠ 0 := by
      rintro rfl
      simp at isShift
      omega
    rw [isSignificand, Nat.le_div_iff_mul_le power, ← Nat.pow_add, ← Nat.le_log2 nonzero]
    omega
  have low : significand * 2 ^ shift * den ≤ num := by
    rw [← Nat.le_div_iff_mul_le positive, ← isWhole, isSignificand]
    exact Nat.div_mul_le_self _ _
  have high : num < (significand + 1) * 2 ^ shift * den := by
    rw [← Nat.div_lt_iff_lt_mul positive, ← isWhole, isSignificand]
    exact Nat.lt_mul_of_div_lt (Nat.lt_succ_self _) power
  refine ⟨shift * 2 ^ 52 + significand, ?_, ?_, ?_⟩
  · rwa [scaled_exact shift small.le normal]
  · rwa [Nat.add_assoc, scaled_exact shift small (by omega)]
  · have half : (significand * 2 ^ shift + (significand + 1) * 2 ^ shift) * den =
        2 * (significand * (den * 2 ^ shift)) + den * 2 ^ shift := by ring
    have reached : significand * (den * 2 ^ shift) ≤ num := by
      rwa [Nat.mul_comm den, ← Nat.mul_assoc]
    have parity : (shift * 2 ^ 52 + significand) % 2 = significand % 2 := by omega
    rw [parity, Nat.add_assoc, scaled_exact shift small (by omega), scaled_exact shift small.le normal,
      half]
    simp only [nearest, Nat.pow_eq, ← isWhole, ← isShift, ← isSignificand]
    generalize significand * (den * 2 ^ shift) = part at *
    generalize den * 2 ^ shift = step at *
    split <;> split <;> omega

/-- A quotient rounds to a magnitude or one below it exactly if it is not over the middle to the
next one, and a quotient in the middle goes to the even one. -/
theorem nearest_le_iff {num den m : Nat} (positive : 0 < den) : nearest num den ≤ m ↔
    2 * num < (scaled m + scaled (m + 1)) * den ∨
      (2 * num = (scaled m + scaled (m + 1)) * den ∧ m % 2 = 0) := by
  obtain ⟨magnitude, low, high, rounds⟩ := nearest_between num positive
  rw [rounds]
  rcases Nat.lt_trichotomy m magnitude with below | rfl | above
  · have first : scaled m * den < scaled magnitude * den :=
      Nat.mul_lt_mul_of_pos_right (scaled_strictMono below) positive
    have next : scaled (m + 1) * den ≤ scaled magnitude * den :=
      Nat.mul_le_mul_right _ (scaled_strictMono.monotone below)
    simp only [Nat.add_mul]
    split <;> omega
  · split <;> omega
  · have first : scaled (magnitude + 1) * den ≤ scaled m * den :=
      Nat.mul_le_mul_right _ (scaled_strictMono.monotone above)
    have next : scaled m * den < scaled (m + 1) * den :=
      Nat.mul_lt_mul_of_pos_right (scaled_lt_succ m) positive
    simp only [Nat.add_mul]
    split <;> omega

theorem nearest_mono {num den num' den' : Nat} (positive : 0 < den) (positive' : 0 < den')
    (le : num * den' ≤ num' * den) : nearest num den ≤ nearest num' den' := by
  have most := (nearest_le_iff positive').mp (Nat.le_refl (nearest num' den'))
  rw [nearest_le_iff positive]
  generalize nearest num' den' = m at most
  have scale (x : Nat) : x * den * den' = x * den' * den := Nat.mul_right_comm ..
  have first := scale (scaled m + scaled (m + 1))
  have second : 2 * num * den' ≤ 2 * num' * den := by
    simpa only [Nat.mul_assoc] using Nat.mul_le_mul_left 2 le
  rcases most with below | ⟨middle, even⟩
  · refine .inl (Nat.lt_of_mul_lt_mul_right (a := den') ?_)
    rw [first]
    exact Nat.lt_of_le_of_lt second (Nat.mul_lt_mul_of_pos_right below positive)
  · rw [middle, ← first] at second
    rcases Nat.lt_or_eq_of_le (Nat.le_of_mul_le_mul_right second positive') with below | same
    · exact .inl below
    · exact .inr ⟨same, even⟩

theorem scaled_nearest {significand : Nat} (places : Nat) (small : significand < 2 ^ 53) :
    scaled (nearest (significand * 2 ^ places) 1) = significand * 2 ^ places := by
  rcases Nat.eq_zero_or_pos significand with rfl | nonzero
  · rw [Nat.zero_mul]
    rfl
  obtain ⟨lift, isLift⟩ : ∃ lift, lift = min (52 - significand.log2) places := ⟨_, rfl⟩
  obtain ⟨rest, whole⟩ : ∃ rest, places = lift + rest := ⟨places - lift, by omega⟩
  have bits : significand.log2 ≤ 52 := by
    have := (Nat.log2_lt nonzero.ne').mpr small
    omega
  have filled : significand * 2 ^ lift < 2 ^ 53 :=
    calc significand * 2 ^ lift
        < 2 ^ (significand.log2 + 1) * 2 ^ lift :=
          Nat.mul_lt_mul_of_pos_right Nat.lt_log2_self (Nat.two_pow_pos _)
      _ = 2 ^ (significand.log2 + 1 + lift) := (Nat.pow_add ..).symm
      _ ≤ 2 ^ 53 := Nat.pow_le_pow_right (by omega) (by omega)
  have normal : rest = 0 ∨ 2 ^ 52 ≤ significand * 2 ^ lift := by
    refine or_iff_not_imp_left.mpr fun some_ => ?_
    calc 2 ^ 52
        = 2 ^ significand.log2 * 2 ^ lift := by rw [← Nat.pow_add]; congr 1; omega
      _ ≤ significand * 2 ^ lift := Nat.mul_le_mul_right _ (Nat.log2_self_le nonzero.ne')
  rw [whole, Nat.pow_add, ← Nat.mul_assoc, nearest_exact rest filled normal,
    scaled_exact rest filled.le normal]

end CallChart.Binary64
