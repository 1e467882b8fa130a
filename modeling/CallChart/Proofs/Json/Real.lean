import CallChart.Proofs.Json.RoundTrip
import CallChart.Proofs.Number.Text

namespace CallChart

open Binary64

namespace Json

theorem absorb_spec {significand : Nat} (cs : List Char) (small : significand < 2 ^ 64) :
    ∃ taken left, cs = taken ++ left ∧
      absorb significand cs = (Nat.ofDigitChars 10 taken significand, left.length) ∧
        Nat.ofDigitChars 10 taken significand < 2 ^ 64 := by
  induction cs generalizing significand with
  | nil => exact ⟨[], [], rfl, rfl, small⟩
  | cons c cs ih =>
    simp only [absorb]
    split
    · rename_i fits
      obtain ⟨taken, left, rfl, read, bound⟩ := ih fits
      refine ⟨c :: taken, left, rfl, ?_, ?_⟩
      · rw [read, Nat.ofDigitChars_cons, Nat.mul_comm]
      · rwa [Nat.ofDigitChars_cons, Nat.mul_comm]
    · exact ⟨[], c :: cs, rfl, rfl, small⟩

def tensOf : Option (Bool × List Char) → Int
  | none => 0
  | some (negative, digits) => if negative then -(ofDigits digits : Int) else ofDigits digits

def exponentOf : List Char → Option (Bool × List Char)
  | [] => none
  | _ :: more => some (splitSign more)

theorem exponentOf_eq_none {tail : List Char} : exponentOf tail = none ↔ tail = [] := by
  cases tail <;> simp [exponentOf]

theorem tensOf_exponentOf {tail : List Char} {tens : Int} (part : exponentPart? tail = some tens) :
    tensOf (exponentOf tail) = tens := by
  cases tail with
  | nil =>
    cases part
    rfl
  | cons letter more =>
    simp only [exponentPart?, Option.ite_none_right_eq_some, Binary64.exponent?,
      Option.some.injEq] at part
    exact part.2.2

theorem exponent?_part {rest : Input} {tail : List Char} {tens : Int}
    (part : exponentPart? tail = some tens) (closed : Closed rest) :
    exponent? (tail.map some ++ rest) = some (exponentOf tail, rest) := by
  cases tail with
  | nil => exact exponent?_closed closed
  | cons letter more =>
    simp only [exponentPart?, Option.ite_none_right_eq_some, Binary64.exponent?] at part
    obtain ⟨isLetter, ⟨filled, all⟩, -⟩ := part
    have read : digits ((splitSign more).2.map some ++ rest) = ((splitSign more).2, rest) :=
      digits_digits (List.all_eq_true.mp all) closed.digits
    simp only [List.map_cons, List.cons_append, exponent?, isLetter, ↓reduceIte, exponentOf]
    generalize signs : splitSign more = sign at *
    simp only [splitSign] at signs
    split at signs
    · cases signs
      simp only [List.map_cons, List.cons_append, read, filled, ↓reduceIte]
    · cases signs
      simp only [List.map_cons, List.cons_append, read, filled, ↓reduceIte]
    · rename_i minus plus
      cases signs
      cases more with
      | nil => exact (filled rfl).elim
      | cons d ds =>
        simp only [List.map_cons, List.cons_append] at read ⊢
        split
        · rename_i same
          cases same
          exact (minus ds rfl).elim
        · rename_i same
          cases same
          exact (plus ds rfl).elim
        · simp only [read, filled, ↓reduceIte]

theorem ends_pointed {tail : List Char} {tens : Int} (part : exponentPart? tail = some tens)
    (fraction : List Char) :
    Ends (pointed fraction ++ tail) := by
  by_cases none_ : fraction = []
  · simpa [pointed, none_] using (ends_exponentPart part).1
  · simp [Ends, pointed, none_]

theorem numeral?_parts {rest : Input} {fraction tail whole : List Char} {tens : Int}
    (allWhole : AllDigits whole) (some_ : whole ≠ [])
    (lead : whole.head? = some '0' → whole.length = 1) (allFraction : AllDigits fraction)
    (part : exponentPart? tail = some tens) (negative : Bool) (closed : Closed rest) :
    numeral? negative ((whole ++ pointed fraction ++ tail).map some ++ rest) =
      some (⟨negative, whole, fraction, exponentOf tail⟩, rest) := by
  have front {cs : List Char} (ends : Ends cs) (c : Char)
      (first : (cs.map some ++ rest).head? = some (some c)) : c.isDigit = false := by
    cases cs with
    | nil => exact closed.digits c first
    | cons d more =>
      cases first
      exact ends c rfl
  obtain ⟨ends, pointless⟩ := ends_exponentPart part
  have broken : fraction? ((pointed fraction ++ tail).map some ++ rest) =
      some (fraction, tail.map some ++ rest) := by
    by_cases none_ : fraction = []
    · subst none_
      simp only [pointed, ↓reduceIte, List.nil_append, fraction?]
      split
      · rename_i same
        cases tail with
        | nil => exact ((closed '.' (congrArg List.head? same)).2.1 rfl).elim
        | cons d more =>
          cases same
          exact (pointless rfl).elim
      · rfl
    · simp [pointed, none_, fraction?, digits_digits allFraction (front ends)]
  have first := digits_digits allWhole (front (ends_pointed part fraction))
  rw [List.append_assoc, List.map_append, List.append_assoc]
  simp only [numeral?, first, broken, exponent?_part part closed, Option.bind_eq_bind,
    Option.bind_some, Option.pure_def]
  rw [if_neg]
  rintro (nothing | ⟨zero, longer⟩)
  · exact some_ nothing
  · exact longer (lead zero)

theorem powerOfTen_exact {exponent : Nat} (few : exponent < 23) :
    scaled (powerOfTen exponent) = 10 ^ exponent * unitsPerOne := by
  obtain ⟨bits, known⟩ : ∃ bits, bits = 1074 := ⟨_, rfl⟩
  have value : 10 ^ exponent * unitsPerOne = 5 ^ exponent * 2 ^ (exponent + bits) := by
    rw [unitsPerOne_eq known, show 10 = 5 * 2 by rfl, Nat.mul_pow, Nat.mul_assoc, ← Nat.pow_add]
  have fives : 5 ^ exponent < 2 ^ 53 :=
    calc 5 ^ exponent ≤ 5 ^ 22 := Nat.pow_le_pow_right (by omega) (by omega)
      _ < 2 ^ 53 := by decide
  rw [powerOfTen, Nat.pow_eq, value, scaled_nearest _ fives]

theorem powerOfTen_mono {low high : Nat} (le : low ≤ high) : powerOfTen low ≤ powerOfTen high :=
  nearest_mono (by omega) (by omega)
    (Nat.mul_le_mul_right _ (Nat.mul_le_mul_right _ (Nat.pow_le_pow_right (by omega) le)))

theorem unitsPerOne_le_powerOfTen (exponent : Nat) : unitsPerOne ≤ scaled (powerOfTen exponent) := by
  have one := powerOfTen_exact (show 0 < 23 by omega)
  calc unitsPerOne
      = scaled (powerOfTen 0) := by rw [one, Nat.pow_zero, Nat.one_mul]
    _ ≤ scaled (powerOfTen exponent) :=
      scaled_strictMono.monotone (powerOfTen_mono (Nat.zero_le exponent))

theorem dividedBy_powerOfTen (exponent : Nat)
    (magnitude : Fin 0x7FF0000000000000) : ∃ smaller,
      (Binary64.finite false magnitude).dividedBy (powerOfTen exponent) = .finite false smaller := by
  have divisor := unitsPerOne_le_powerOfTen exponent
  have units := unitsPerOne_pos
  have below : nearest (scaled magnitude * unitsPerOne) (scaled (powerOfTen exponent)) ≤
      magnitude := by
    calc nearest (scaled magnitude * unitsPerOne) (scaled (powerOfTen exponent))
        ≤ nearest (scaled magnitude) 1 :=
          nearest_mono (by omega) (by omega) (by
            rw [Nat.mul_one]
            exact Nat.mul_le_mul_left _ divisor)
      _ = magnitude := nearest_scaled magnitude
  have finite := Nat.lt_of_le_of_lt below magnitude.isLt
  exact ⟨⟨_, finite⟩, by simp only [dividedBy, ofMagnitude, finite, ↓reduceDIte]⟩

theorem shrink_finite (magnitude : Fin 0x7FF0000000000000) (exponent : Nat) : ∃ smaller,
    shrink (.finite false magnitude) exponent = .finite false smaller := by
  induction exponent using Nat.strongRecOn generalizing magnitude with
  | ind exponent ih =>
    rw [shrink]
    split
    · exact dividedBy_powerOfTen exponent magnitude
    · split
      · exact ⟨magnitude, rfl⟩
      · obtain ⟨smaller, divided⟩ := dividedBy_powerOfTen 308 magnitude
        rw [divided]
        exact ih (exponent - 308) (by omega) smaller

theorem ofNat_finite {significand : Nat} (small : significand < 2 ^ 64) : ∃ finite,
    Binary64.ofNat significand = .finite false ⟨nearest (significand * unitsPerOne) 1, finite⟩ := by
  have most : nearest (2 ^ 64 * unitsPerOne) 1 < 0x7FF0000000000000 := by
    obtain ⟨bits, known⟩ : ∃ bits, bits = 1074 := ⟨_, rfl⟩
    have parts : 2 ^ 64 * 2 ^ bits = 2 ^ 52 * 2 ^ (bits + 12) := by ring
    rw [unitsPerOne_eq known, parts, nearest_exact _ (by omega) (.inr (Nat.le_refl _))]
    omega
  have below : nearest (significand * unitsPerOne) 1 ≤ nearest (2 ^ 64 * unitsPerOne) 1 :=
    nearest_mono (by omega) (by omega)
      (Nat.mul_le_mul_right _ (Nat.mul_le_mul_right _ small.le))
  have finite := Nat.lt_of_le_of_lt below most
  exact ⟨finite, by simp only [Binary64.ofNat, roundQuotient, ofMagnitude, finite, ↓reduceDIte]⟩

def largest : Nat := 0x7FEFFFFFFFFFFFFF

def product (significand exponent : Nat) : Nat :=
  nearest (scaled (nearest (significand * unitsPerOne) 1) * scaled (powerOfTen exponent)) unitsPerOne

theorem product_mono {significand significand' exponent exponent' : Nat}
    (le : significand ≤ significand') (le' : exponent ≤ exponent') :
    product significand exponent ≤ product significand' exponent' := by
  have units := unitsPerOne_pos
  have first := scaled_strictMono.monotone (nearest_mono Nat.one_pos Nat.one_pos
    (Nat.mul_le_mul_right 1 (Nat.mul_le_mul_right unitsPerOne le)))
  have second := scaled_strictMono.monotone (powerOfTen_mono le')
  exact nearest_mono units units (Nat.mul_le_mul_right _ (Nat.mul_le_mul first second))

def most (exponent : Nat) : Nat :=
  min ((scaled (largest - 1) + scaled largest) / (2 * (10 ^ exponent * unitsPerOne))) (2 ^ 64 - 1)

/-- Roundings do not lift a number over the largest magnitude. No significand of 64 bits gets there
with 288 places behind it, and with 309 places every one does. -/
theorem product_most :
    (∀ exponent < 309, 288 ≤ exponent → product (most exponent) exponent ≤ largest) ∧
      most 288 = 2 ^ 64 - 1 ∧ largest ≤ Decimal.magnitude 1 (309 : Nat) := by
  decide +kernel

theorem magnitude_natCast (significand exponent : Nat) :
    Decimal.magnitude significand exponent = nearest (significand * 10 ^ exponent * unitsPerOne) 1 := by
  simp only [Decimal.magnitude, Decimal.quotient, Int.natCast_nonneg, ↓reduceIte, Int.toNat_natCast,
    Nat.pow_eq]

theorem le_most {significand : Nat} (small : significand < 2 ^ 64) {exponent : Nat}
    (below : Decimal.magnitude significand exponent < largest) : significand ≤ most exponent := by
  have units := unitsPerOne_pos
  have step : 0 < 2 * (10 ^ exponent * unitsPerOne) :=
    Nat.mul_pos (by omega) (Nat.mul_pos (Nat.pow_pos (by omega)) units)
  have twice : significand * (2 * (10 ^ exponent * unitsPerOne)) =
      2 * (significand * 10 ^ exponent * unitsPerOne) := by ring
  obtain ⟨under, top⟩ : ∃ under, largest = under + 1 := ⟨0x7FEFFFFFFFFFFFFE, rfl⟩
  rw [magnitude_natCast, top, Nat.lt_succ_iff, nearest_le_iff Nat.one_pos, Nat.mul_one] at below
  rw [most, top, Nat.add_sub_cancel]
  refine Nat.le_min.mpr ⟨?_, by omega⟩
  rw [Nat.le_div_iff_mul_le step, twice]
  exact below.elim le_of_lt fun same => same.1.le

theorem lt_of_magnitude {significand : Nat} (nonzero : 0 < significand) {exponent : Nat}
    (below : Decimal.magnitude significand exponent < largest) : exponent < 309 := by
  by_contra long
  obtain ⟨-, -, low⟩ := product_most
  have first := Decimal.magnitude_mono_exponent 1 (show ((309 : Nat) : Int) ≤ exponent by omega)
  have second := Decimal.magnitude_mono (Nat.succ_le_of_lt nonzero) exponent
  exact absurd (low.trans (first.trans second)) (Nat.not_le.mpr below)

theorem product_finite {significand : Nat} (small : significand < 2 ^ 64) {exponent : Nat}
    (short : exponent < 309) (below : Decimal.magnitude significand exponent < largest) :
    product significand exponent < 0x7FF0000000000000 := by
  obtain ⟨bounded, all, -⟩ := product_most
  have enough : significand ≤ most (max exponent 288) := by
    rcases Nat.le_total exponent 288 with few | many
    · rw [Nat.max_eq_right few, all]
      omega
    · rw [Nat.max_eq_left many]
      exact le_most small below
  calc product significand exponent
      ≤ product (most (max exponent 288)) (max exponent 288) :=
        product_mono enough (Nat.le_max_left ..)
    _ ≤ largest := bounded _ (by omega) (by omega)
    _ < 0x7FF0000000000000 := by decide

theorem ofNat_times {significand : Nat} (small : significand < 2 ^ 64) (exponent : Nat) :
    (Binary64.ofNat significand).times (powerOfTen exponent) =
      ofMagnitude false (product significand exponent) := by
  obtain ⟨finite, whole⟩ := ofNat_finite small
  rw [whole, product, times]

theorem isZero_finite {magnitude : Nat} (zero : magnitude = 0)
    (finite : magnitude < 0x7FF0000000000000) :
    (Binary64.finite false ⟨magnitude, finite⟩).isZero = true := by
  subst zero
  rfl

theorem scale?_finite {significand : Nat} (small : significand < 2 ^ 64) {exponent : Int}
    (inRange : 0 ≤ exponent → Decimal.magnitude significand exponent < largest) :
    ∃ magnitude, scale? significand exponent = some (.finite false magnitude) := by
  obtain ⟨finite, whole⟩ := ofNat_finite small
  rw [scale?]
  by_cases negative : exponent < 0
  · obtain ⟨smaller, shrunk⟩ := shrink_finite ⟨_, finite⟩ exponent.natAbs
    exact ⟨smaller, by rw [if_pos negative, whole, shrunk]⟩
  obtain ⟨places, rfl⟩ : ∃ places : Nat, exponent = places := ⟨exponent.toNat, by omega⟩
  have below := inRange (by omega)
  rw [if_neg negative]
  by_cases short : (places : Int) ≤ 308
  · have bounded := product_finite small (show places < 309 by omega) below
    refine ⟨⟨_, bounded⟩, ?_⟩
    rw [if_pos short, Int.natAbs_natCast, ofNat_times small, ofMagnitude, dif_pos bounded]
    rfl
  · have zero : significand = 0 := by
      by_contra nonzero
      have := lt_of_magnitude (Nat.pos_of_ne_zero nonzero) below
      omega
    have nothing : (Binary64.ofNat significand).isZero = true := by
      have none_ : nearest (significand * unitsPerOne) 1 = 0 := by
        rw [zero, Nat.zero_mul, nearest_zero]
      rw [whole]
      exact isZero_finite none_ finite
    exact ⟨_, by rw [if_neg short, if_pos nothing, whole]⟩

theorem scale?_exact {significand target : Nat} (small : significand < 2 ^ 53) {places : Nat}
    (some_ : 0 < places) (few : places < 23) (finite : target < 0x7FF0000000000000)
    (rounds : Decimal.magnitude significand (-(places : Int)) = target) :
    scale? significand (-(places : Int)) = some (.finite false ⟨target, finite⟩) := by
  obtain ⟨finite', whole⟩ := ofNat_finite (show significand < 2 ^ 64 by omega)
  have below : -(places : Int) < 0 := by omega
  have short : places ≤ 308 := by omega
  obtain ⟨bits, known⟩ : ∃ bits, bits = 1074 := ⟨_, rfl⟩
  have units := unitsPerOne_eq known
  have exact : scaled (nearest (significand * unitsPerOne) 1) = significand * unitsPerOne := by
    rw [units, scaled_nearest bits small]
  have one : nearest (significand * unitsPerOne * unitsPerOne) (10 ^ places * unitsPerOne) = target := by
    rw [nearest_mul_right (units ▸ Nat.two_pow_pos bits), ← rounds]
    simp only [Decimal.magnitude, Decimal.quotient, Int.not_le.mpr below, ↓reduceIte, Int.neg_neg,
      Int.toNat_natCast, Nat.pow_eq]
  simp only [scale?, below, ↓reduceIte, Int.natAbs_neg, Int.natAbs_natCast, whole]
  rw [shrink, if_pos short]
  simp only [dividedBy, exact, powerOfTen_exact few, one, ofMagnitude, finite, ↓reduceDIte]

theorem magnitudeChars_front {target : Nat} (finite : target < 0x7FF0000000000000) : ∃ front rest,
    numberLayout.magnitudeChars target = front ++ rest ∧ AllDigits front ∧ Ends rest ∧ rest ≠ [] ∧
      front.length ≤ 16 ∧ (front.head? = some '0' → front.length = 1) := by
  have zero : AllDigits ['0'] := allDigits_zeros 1
  rcases Nat.eq_zero_or_pos target with rfl | positive
  · exact ⟨['0'], ['.', '0'], rfl, zero, by simp [Ends], by simp, by simp, by simp⟩
  have shows_ := Decimal.shortest_shows numberLayout.tie positive finite
  generalize known : Decimal.shortest numberLayout.tie target = d at shows_
  have all : AllDigits (Layout.digitChars d.digits) := allDigits_toDigits _
  have lead : (Layout.digitChars d.digits).head? ≠ some '0' :=
    head?_toDigits (Nat.pos_of_ne_zero shows_.digits)
  have some_ : Layout.digitChars d.digits ≠ [] := Nat.toDigits_ne_nil
  simp only [Layout.magnitudeChars, positive.ne', ↓reduceIte, known]
  generalize Layout.digitChars d.digits = ds at all lead some_
  split
  · rename_i positional
    have inside : -4 ≤ d.position ∧ d.position ≤ 16 := of_decide_eq_true positional
    simp only [Layout.positionalChars]
    split
    · exact ⟨['0'], _, rfl, zero, by simp [Ends], by simp, by simp, by simp⟩
    · split
      · refine ⟨ds ++ List.replicate (d.position.toNat - ds.length) '0', ['.', '0'], rfl,
          all.append (allDigits_zeros _), by simp [Ends], by simp, ?_, fun zero => ?_⟩
        · simp only [List.length_append, List.length_replicate]
          omega
        · rw [List.head?_append_of_ne_nil _ some_] at zero
          exact (lead zero).elim
      · have filled : d.position.toNat ≠ 0 := by omega
        refine ⟨ds.take d.position.toNat, _, rfl, fun c within => all c (List.mem_of_mem_take within),
          by simp [Ends], by simp, ?_, fun zero => ?_⟩
        · rw [List.length_take]
          omega
        · rw [List.head?_take, if_neg filled] at zero
          exact (lead zero).elim
  · cases ds with
    | nil => exact (some_ rfl).elim
    | cons c others =>
      have first : AllDigits [c] := fun d within => all d (by simp_all)
      cases others with
      | nil => exact ⟨[c], _, rfl, first, by simp [Ends], by simp, by simp, by simp⟩
      | cons d others => exact ⟨[c], _, rfl, first, by simp [Ends], by simp, by simp, by simp⟩

theorem absorb_parts {whole : List Char} (allWhole : AllDigits whole) (short : whole.length ≤ 16)
    (fraction : List Char) : ∃ taken left, fraction = taken ++ left ∧
      absorb 0 whole = (ofDigits whole, 0) ∧
        absorb (ofDigits whole) fraction = (ofDigits (whole ++ taken), left.length) ∧
          ofDigits (whole ++ taken) < 2 ^ 64 := by
  have bound : ofDigits whole < 2 ^ 64 :=
    calc ofDigits whole
        < 10 ^ whole.length := ofDigits_lt allWhole
      _ ≤ 10 ^ 16 := Nat.pow_le_pow_right (by omega) short
      _ < 2 ^ 64 := by decide
  obtain ⟨taken, left, parts, read, small⟩ := absorb_spec fraction bound
  have whole_ := absorb_digits whole 0 (by rwa [← ofDigits_eq])
  rw [ofDigits_eq whole, ← Nat.ofDigitChars_append, ← ofDigits_eq (whole ++ taken)] at read small
  rw [← ofDigits_eq] at read whole_
  exact ⟨taken, left, parts, whole_, read, small⟩

theorem addExponents_le (a b : Int) (up : 0 ≤ addExponents a b) : addExponents a b ≤ a + b := by
  unfold addExponents at *
  have limit : (0 : Int) < exponentLimit := by decide
  generalize (exponentLimit : Int) = l at *
  omega

theorem magnitude?_finite {fraction whole : List Char} {exponent : Option (Bool × List Char)}
    (allWhole : AllDigits whole) (short : whole.length ≤ 16)
    (small : (tensOf exponent).natAbs ≤ 401)
    (below : Decimal.magnitude (ofDigits (whole ++ fraction)) (tensOf exponent - fraction.length) <
      largest) : ∃ magnitude, ∀ negative,
        (Numeral.mk negative whole fraction exponent).magnitude? = some (.finite false magnitude) := by
  obtain ⟨taken, left, rfl, whole_, fraction_, fits⟩ := absorb_parts allWhole short fraction
  have start : ((0 : Nat) : Int) - ((taken ++ left).length - left.length : Nat) = -taken.length := by
    simp
  have inRange (e : Int) (le : 0 ≤ e → e ≤ tensOf exponent - taken.length) (up : 0 ≤ e) :
      Decimal.magnitude (ofDigits (whole ++ taken)) e < largest := by
    have digits_ : ofDigits (whole ++ taken) * 10 ^ left.length ≤
        ofDigits (whole ++ (taken ++ left)) := by
      rw [← List.append_assoc, ofDigits_append _ left]
      exact Nat.le_add_right ..
    have shift : tensOf exponent - (taken ++ left).length + left.length =
        tensOf exponent - taken.length := by
      rw [List.length_append]
      omega
    calc Decimal.magnitude (ofDigits (whole ++ taken)) e
        ≤ Decimal.magnitude (ofDigits (whole ++ taken)) (tensOf exponent - taken.length) :=
          Decimal.magnitude_mono_exponent _ (le up)
      _ = Decimal.magnitude (ofDigits (whole ++ taken) * 10 ^ left.length)
          (tensOf exponent - (taken ++ left).length) := by
        rw [Decimal.magnitude_mul_pow, shift]
      _ ≤ Decimal.magnitude (ofDigits (whole ++ (taken ++ left)))
          (tensOf exponent - (taken ++ left).length) := Decimal.magnitude_mono digits_ _
      _ < largest := below
  simp only [Numeral.magnitude?, whole_, fraction_, start, forall_const]
  cases exponent with
  | none => exact scale?_finite fits (inRange _ fun _ => by simp [tensOf])
  | some part =>
    obtain ⟨minus, ds⟩ := part
    have limit : ofDigits ds < exponentLimit := by
      refine Nat.lt_of_le_of_lt (Nat.le_of_eq ?_) (Nat.lt_of_le_of_lt small (by decide))
      cases minus <;> simp [tensOf]
    have tens_ : (if minus = true then -(ofDigits ds : Int) else ofDigits ds) =
        tensOf (some (minus, ds)) := rfl
    simp only [limit, ↓reduceIte, tens_]
    refine scale?_finite fits (inRange _ fun up => ?_)
    have le := addExponents_le _ _ up
    omega

theorem magnitude?_exact {fraction whole : List Char} {target : Nat} (allWhole : AllDigits whole)
    (allFraction : AllDigits fraction) (broken : fraction ≠ [])
    (short : (whole ++ fraction).length ≤ 15) (finite : target < 0x7FF0000000000000)
    (rounds : Decimal.magnitude (ofDigits (whole ++ fraction)) (-(fraction.length : Int)) = target)
    (negative : Bool) : (Numeral.mk negative whole fraction none).magnitude? =
      some (.finite false ⟨target, finite⟩) := by
  have digits_ : ofDigits (whole ++ fraction) < 10 ^ 15 :=
    Nat.lt_of_lt_of_le (ofDigits_lt (allWhole.append allFraction))
      (Nat.pow_le_pow_right (by omega) short)
  have bound : ofDigits whole < 2 ^ 64 := by
    rw [ofDigits_append] at digits_
    have tens : 0 < 10 ^ fraction.length := Nat.pow_pos (by omega)
    have := Nat.le_mul_of_pos_right (ofDigits whole) tens
    omega
  have whole_ := absorb_digits whole 0 (by rwa [← ofDigits_eq])
  have fraction_ := absorb_digits fraction (ofDigits whole) (by
    rw [ofDigits_eq, ← Nat.ofDigitChars_append, ← ofDigits_eq]
    omega)
  rw [ofDigits_eq whole, ← Nat.ofDigitChars_append, ← ofDigits_eq (whole ++ fraction)] at fraction_
  rw [List.length_append] at short
  simp only [Numeral.magnitude?, whole_, fraction_, Nat.sub_zero, Int.natCast_zero, Int.zero_sub]
  exact scale?_exact (by omega) (List.length_pos_iff.mpr broken) (by omega) finite rounds

/-- A text of a few characters without a letter, so without an exponent. -/
def Short (cs : List Char) : Prop :=
  cs.length ≤ 16 ∧ ∀ c ∈ cs, c.isAlpha = false

instance (cs : List Char) : Decidable (Short cs) :=
  decidable_of_iff (cs.length ≤ 16 ∧ cs.all (!·.isAlpha) = true) (by simp [Short])

theorem number?_value {cs fraction whole : List Char} {exponent : Option (Bool × List Char)}
    {magnitude : Fin 0x7FF0000000000000}
    (reads : ∀ negative rest, Closed rest → numeral? negative (cs.map some ++ rest) =
      some (⟨negative, whole, fraction, exponent⟩, rest)) (real : fraction ≠ [] ∨ exponent ≠ none)
    (value : ∀ negative, (Numeral.mk negative whole fraction exponent).magnitude? =
      some (.finite false magnitude)) (negative : Bool) (rest : Input) (closed : Closed rest) :
    number? negative (cs.map some ++ rest) =
      some (.number (some (.real (.finite negative magnitude))), rest) := by
  have notWhole (left : Nat) : ¬ (fraction = [] ∧ exponent = none ∧ left = 0) := by
    rintro ⟨none_, none_', -⟩
    exact real.elim (· none_) (· none_')
  simp only [number?, reads negative rest closed, Option.bind_eq_bind, Option.bind_some,
    Option.pure_def, Numeral.value?, notWhole, ↓reduceIte, value, Option.map_some]
  cases negative <;> rfl

theorem number?_largest {rest : Input} (negative : Bool) (closed : Closed rest) :
    number? negative ((numberLayout.magnitudeChars largest).map some ++ rest) =
      some (.number (some (.real (.finite negative ⟨largest, by decide⟩))), rest) := by
  have text : numberLayout.magnitudeChars largest =
      ['1'] ++ pointed "7976931348623157".toList ++ "e+308".toList := by decide +kernel
  have part : exponentPart? "e+308".toList = some 308 := by decide
  have first : AllDigits ['1'] := by simp [AllDigits]
  have others : AllDigits "7976931348623157".toList := by simp [AllDigits]
  have reads (negative : Bool) (rest : Input) (closed : Closed rest) :=
    numeral?_parts first (by simp) (by simp) others part negative closed
  rw [← text] at reads
  exact number?_value reads (.inl (by simp)) (by decide +kernel) negative rest closed

theorem number?_magnitudeChars {target : Nat} (finite : target < 0x7FF0000000000000) : ∃ magnitude,
    (∀ negative rest, Closed rest →
      number? negative ((numberLayout.magnitudeChars target).map some ++ rest) =
        some (.number (some (.real (.finite negative magnitude))), rest)) ∧
    (Short (numberLayout.magnitudeChars target) → magnitude = ⟨target, finite⟩) := by
  by_cases top : target = largest
  · subst top
    exact ⟨_, fun negative rest => number?_largest negative, fun _ => rfl⟩
  have below : target < largest := by
    have last : largest = 0x7FEFFFFFFFFFFFFF := rfl
    omega
  obtain ⟨front, behind, text, allFront, ends, some_, short, lead⟩ := magnitudeChars_front finite
  obtain ⟨_, _, ⟨whole, fraction, tail, tens, allWhole, filled, allFraction, part, few, parts, rfl,
    rfl⟩, rounds, -⟩ := writes_magnitudeChars numberLayout false finite
  have joined := text.symm.trans (parts.trans (List.append_assoc ..))
  obtain rfl : whole = front := by
    rw [← takeWhile_digits allFront ends, joined, takeWhile_digits allWhole (ends_pointed part _)]
  have behind_ := List.append_cancel_left joined
  have reads (negative : Bool) (rest : Input) (closed : Closed rest) :=
    numeral?_parts allWhole filled lead allFraction part negative closed
  have real : fraction ≠ [] ∨ exponentOf tail ≠ none := by
    by_contra nothing
    simp only [not_or, not_not, exponentOf_eq_none] at nothing
    exact some_ (by simp [behind_, nothing, pointed])
  rw [← parts] at reads
  by_cases brief : Short (numberLayout.magnitudeChars target)
  · obtain rfl : tail = [] := by
      cases tail with
      | nil => rfl
      | cons letter more =>
        have alpha := brief.2 letter (by simp [parts])
        simp only [exponentPart?, Option.ite_none_right_eq_some] at part
        rcases part.1 with rfl | rfl <;> simp at alpha
    cases part
    have broken : fraction ≠ [] := real.resolve_right (by simp [exponentOf])
    have length := brief.1
    simp only [parts, pointed, broken, ↓reduceIte, List.append_nil, List.length_append,
      List.length_cons] at length
    rw [Int.zero_sub] at rounds
    refine ⟨⟨target, finite⟩, number?_value reads real fun negative => ?_, fun _ => rfl⟩
    exact magnitude?_exact allWhole allFraction broken (by rw [List.length_append]; omega) finite
      rounds negative
  · have tens_ := tensOf_exponentOf part
    rw [← tens_] at few rounds
    obtain ⟨magnitude, value⟩ := magnitude?_finite allWhole short few (rounds.trans_lt below)
    exact ⟨magnitude, number?_value reads real value, fun brief' => (brief brief').elim⟩

def real? : Json → Option Binary64
  | .number (some (.real x)) => some x
  | _ => none

theorem reads_real {x : Binary64} (finite : x.isFinite = true) : ∃ y : Binary64,
    y.isFinite = true ∧ (x.isBelowZero = false → y.isBelowZero = false) ∧
      Reads (numberLayout.chars x) (.number (some (.real y))) ∧
        (Short (numberLayout.chars x) → y = x) := by
  cases x with
  | nan => cases finite
  | infinite negative => cases finite
  | finite negative magnitude =>
    obtain ⟨magnitude', reads, exact_⟩ := number?_magnitudeChars magnitude.isLt
    refine ⟨.finite negative magnitude', rfl, fun notBelow => ?_, ?_, fun short => ?_⟩
    · cases negative with
      | false => rfl
      | true =>
        have zero : magnitude.val = 0 := by simpa [isBelowZero] using notBelow
        have same : magnitude' = magnitude := exact_ (by rw [zero]; decide)
        rwa [same]
    · cases negative with
      | false =>
        refine reads_number (fun c front => ?_) (reads false)
        obtain ⟨_, _, writes, -⟩ := writes_magnitudeChars numberLayout false magnitude.isLt
        obtain ⟨d, rest, text, digit⟩ := head_writes writes
        simp only [Layout.chars, Layout.signed, Bool.false_eq_true, ↓reduceIte, text] at front
        cases front
        exact digit
      | true =>
        refine reads_of_succ (by simp [Layout.chars, Layout.signed]) fun fuel rest closed _ => ?_
        simp only [Layout.chars, Layout.signed, ↓reduceIte, List.map_cons, List.cons_append, value?,
          skipSpace_cons (show isSpace (some '-') = false from rfl)]
        exact reads true rest closed
    · have short' : Short (numberLayout.magnitudeChars magnitude) := by
        cases negative with
        | false => exact short
        | true =>
          refine ⟨Nat.le_of_succ_le short.1, fun c within => ?_⟩
          exact short.2 c (List.mem_cons_of_mem _ within)
      rw [exact_ short']

end Json
end CallChart
