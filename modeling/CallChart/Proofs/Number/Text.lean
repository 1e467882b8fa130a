import CallChart.Proofs.Number.Shortest
import CallChart.Proofs.Text.Split

namespace CallChart

open Binary64

def pointed (fraction : List Char) : List Char :=
  if fraction = [] then [] else '.' :: fraction

def exponentPart? : List Char → Option Int
  | [] => some 0
  | c :: rest => if c = 'e' ∨ c = 'E' then Binary64.exponent? rest else none

/-- A text is the decimal `digits × 10^exponent`, and the exponent in it has a bound. -/
def Writes (cs : List Char) (digits : Nat) (exponent : Int) : Prop :=
  ∃ whole fraction tail tens, AllDigits whole ∧ whole ≠ [] ∧ AllDigits fraction ∧
    exponentPart? tail = some tens ∧ tens.natAbs ≤ 401 ∧ cs = whole ++ pointed fraction ++ tail ∧
    digits = ofDigits (whole ++ fraction) ∧ exponent = tens - fraction.length

theorem ends_exponentPart {tail : List Char} {tens : Int} (part : exponentPart? tail = some tens) :
    Ends tail ∧ tail.head? ≠ some '.' := by
  cases tail with
  | nil => simp [Ends]
  | cons c rest =>
    simp only [exponentPart?] at part
    split at part
    · rename_i letter
      rcases letter with rfl | rfl <;> simp [Ends]
    · cases part

theorem unsigned?_parts {negative : Bool} {whole fraction tail : List Char}
    (allWhole : AllDigits whole) (some_ : whole ≠ []) (allFraction : AllDigits fraction)
    (ends : Ends tail) (pointless : tail.head? ≠ some '.') :
    unsigned? negative (whole ++ pointed fraction ++ tail) =
      (exponentPart? tail).map fun tens =>
        ofDecimal negative (ofDigits (whole ++ fraction)) (tens - fraction.length) := by
  have filled : whole ++ fraction ≠ [] := by simp [some_]
  by_cases broken : fraction = []
  · subst broken
    simp only [unsigned?, pointed, ↓reduceIte, List.append_nil, takeWhile_digits allWhole ends,
      dropWhile_digits allWhole ends]
    cases tail with
    | nil => simp [some_, exponentPart?]
    | cons c more =>
      have other : c ≠ '.' := by simpa using pointless
      simp only [exponentPart?]
      split
      · rename_i same
        exact (other (List.cons.inj same).1).elim
      · simp only [List.append_nil, some_, ↓reduceIte]
        split <;> rfl
  · have point : Ends (pointed fraction ++ tail) := by simp [Ends, pointed, broken]
    simp only [unsigned?, List.append_assoc, takeWhile_digits allWhole point,
      dropWhile_digits allWhole point]
    simp only [pointed, broken, ↓reduceIte, List.cons_append, takeWhile_digits allFraction ends,
      dropWhile_digits allFraction ends, filled]
    cases tail with
    | nil => rfl
    | cons c more =>
      simp only [exponentPart?]
      split <;> rfl

theorem unsigned?_writes {negative : Bool} {cs : List Char} {digits : Nat} {exponent : Int}
    (writes : Writes cs digits exponent) :
    unsigned? negative cs = some (ofDecimal negative digits exponent) := by
  obtain ⟨whole, fraction, tail, tens, allWhole, some_, allFraction, part, -, rfl, rfl, rfl⟩ := writes
  obtain ⟨ends, pointless⟩ := ends_exponentPart part
  rw [unsigned?_parts allWhole some_ allFraction ends pointless, part, Option.map_some]

theorem writes_whole {cs : List Char} (allDigits : AllDigits cs) (some_ : cs ≠ []) :
    Writes cs (ofDigits cs) 0 :=
  ⟨cs, [], [], 0, allDigits, some_, by simp [AllDigits], rfl, by simp, by simp [pointed], by simp,
    by simp⟩

theorem writes_point {whole fraction : List Char} (allWhole : AllDigits whole) (some_ : whole ≠ [])
    (allFraction : AllDigits fraction) (broken : fraction ≠ []) :
    Writes (whole ++ '.' :: fraction) (ofDigits (whole ++ fraction)) (-(fraction.length : Int)) :=
  ⟨whole, fraction, [], 0, allWhole, some_, allFraction, rfl, by simp, by simp [pointed, broken], rfl,
    by simp⟩

theorem exponent?_signed (tens : Int) :
    Binary64.exponent? ((if tens < 0 then '-' else '+') :: Layout.digitChars tens.natAbs) =
      some tens := by
  have all : (Layout.digitChars tens.natAbs).all Char.isDigit = true :=
    List.all_eq_true.mpr (allDigits_toDigits _)
  have some_ : Layout.digitChars tens.natAbs ≠ [] := Nat.toDigits_ne_nil
  have value : ofDigits (Layout.digitChars tens.natAbs) = tens.natAbs := ofDigits_toDigits _
  split
  · simp only [Binary64.exponent?, splitSign, some_, all, value, ne_eq, not_false_eq_true, and_self,
      ↓reduceIte, Option.some.injEq]
    omega
  · simp only [Binary64.exponent?, splitSign, some_, all, value, ne_eq, not_false_eq_true, and_self,
      ↓reduceIte, Bool.false_eq_true, Option.some.injEq]
    omega

theorem allDigits_zeros (count : Nat) : AllDigits (List.replicate count '0') := fun c zero => by
  simp [List.eq_of_mem_replicate zero]

theorem ofDigits_zeros_after (cs : List Char) (count : Nat) :
    ofDigits (cs ++ List.replicate count '0') = ofDigits cs * 10 ^ count := by
  have zeros := ofDigits_zeros count []
  rw [List.append_nil] at zeros
  rw [ofDigits_append, zeros, List.length_replicate]
  rfl

theorem writes_positional (layout : Layout) {ds : List Char} (all : AllDigits ds) (some_ : ds ≠ [])
    (position : Int) : ∃ zeros : Nat,
      Writes (layout.positionalChars ds position) (ofDigits ds * 10 ^ zeros)
        (position - ds.length - zeros) := by
  simp only [Layout.positionalChars]
  split
  · rename_i small
    refine ⟨0, ?_⟩
    have fraction : AllDigits (List.replicate (-position).toNat '0' ++ ds) :=
      (allDigits_zeros _).append all
    have zero : AllDigits ['0'] := allDigits_zeros 1
    have written := writes_point zero (by simp) fraction (by simp [some_])
    have value : ofDigits (['0'] ++ (List.replicate (-position).toNat '0' ++ ds)) =
        ofDigits ds * 10 ^ 0 := by
      rw [← List.append_assoc, ofDigits_append, ofDigits_zeros_after ['0']]
      simp [ofDigits]
    rw [value] at written
    convert written using 1
    · rfl
    · simp only [List.length_append, List.length_replicate]
      omega
  · rename_i large
    split
    · rename_i fits
      have padded : AllDigits (ds ++ List.replicate (position.toNat - ds.length) '0') :=
        all.append (allDigits_zeros _)
      split
      · refine ⟨position.toNat - ds.length + 1, ?_⟩
        have written := writes_point padded (by simp [some_]) (allDigits_zeros 1) (by simp)
        have value : ofDigits (ds ++ List.replicate (position.toNat - ds.length) '0' ++
            List.replicate 1 '0') = ofDigits ds * 10 ^ (position.toNat - ds.length + 1) := by
          rw [List.append_assoc, ← ofDigits_zeros_after, List.replicate_append_replicate]
        rw [value] at written
        convert written using 1
        · simp
        · simp only [List.length_replicate]
          omega
      · refine ⟨position.toNat - ds.length, ?_⟩
        have written := writes_whole padded (by simp [some_])
        rw [ofDigits_zeros_after] at written
        convert written using 1
        · simp
        · omega
    · rename_i longer
      refine ⟨0, ?_⟩
      have before : AllDigits (ds.take position.toNat) := fun c within =>
        all c (List.mem_of_mem_take within)
      have after : AllDigits (ds.drop position.toNat) := fun c within =>
        all c (List.mem_of_mem_drop within)
      have written := writes_point before (by simp [some_]; omega) after (by simp; omega)
      rw [List.take_append_drop] at written
      convert written using 1
      · omega
      · simp only [List.length_drop]
        omega

theorem writes_exponent {position : Int} {ds : List Char} (all : AllDigits ds) (some_ : ds ≠ [])
    (low : -400 ≤ position) (high : position ≤ 400) :
    Writes (Layout.exponentChars ds position) (ofDigits ds) (position - ds.length) := by
  have part : exponentPart? ('e' :: (if position - 1 < 0 then '-' else '+') ::
      Layout.digitChars (position - 1).natAbs) = some (position - 1) := exponent?_signed _
  cases ds with
  | nil => exact (some_ rfl).elim
  | cons d rest =>
    refine ⟨[d], rest, _, position - 1, fun c within => ?_, by simp, fun c within => ?_, part,
      by omega, ?_, rfl, ?_⟩
    · exact all c (by simp_all)
    · exact all c (List.mem_cons_of_mem _ within)
    · cases rest <;> simp [Layout.exponentChars, pointed]
    · simp only [List.length_cons]
      omega

theorem Decimal.digitCount_mul_pow {n : Nat} (nonzero : n ≠ 0) (zeros : Nat) :
    digitCount (n * 10 ^ zeros) = digitCount n + zeros := by
  have power : 0 < 10 ^ zeros := Nat.pow_pos (by omega)
  obtain ⟨fewer, counted⟩ : ∃ fewer, digitCount n = fewer + 1 :=
    ⟨digitCount n - 1, by have := digitCount_pos (Nat.pos_of_ne_zero nonzero); omega⟩
  have most : digitCount (n * 10 ^ zeros) ≤ digitCount n + zeros := by
    rw [digitCount_le_iff, Nat.pow_add]
    exact Nat.mul_lt_mul_of_pos_right (digitCount_le_iff.mp (Nat.le_refl _)) power
  have least : fewer + zeros < digitCount (n * 10 ^ zeros) := by
    rw [lt_digitCount_iff, Nat.pow_add]
    exact Nat.mul_le_mul_right _ (lt_digitCount_iff.mp (by omega))
  omega

theorem Decimal.Shows.magnitude {target : Nat} {d : Decimal} (shows_ : d.Shows target)
    (zeros : Nat) :
    magnitude (d.digits * 10 ^ zeros) (d.exponent - zeros) = target := by
  rw [magnitude_mul_pow, Int.sub_add_cancel]
  exact shows_.rounded

theorem Decimal.Shows.ofDecimal {target : Nat} {d : Decimal} (shows_ : d.Shows target)
    (finite : target < 0x7FF0000000000000) (negative : Bool) (zeros : Nat) :
    Binary64.ofDecimal negative (d.digits * 10 ^ zeros) (d.exponent - zeros) =
      .finite negative ⟨target, finite⟩ := by
  have nonzero : d.digits * 10 ^ zeros ≠ 0 :=
    Nat.mul_ne_zero shows_.digits (Nat.pow_pos (by omega)).ne'
  have position : d.exponent - zeros + digitCount (d.digits * 10 ^ zeros) = d.position := by
    rw [digitCount_mul_pow shows_.digits, Decimal.exponent]
    omega
  have low : ¬ d.position < -400 := Int.not_lt.mpr shows_.low
  have high : ¬ 400 < d.position := Int.not_lt.mpr shows_.high
  simp only [Binary64.ofDecimal, position, nonzero, low, high, or_self, ↓reduceIte, shows_.magnitude,
    ofMagnitude, finite, ↓reduceDIte]

theorem writes_magnitudeChars {target : Nat} (layout : Layout) (negative : Bool)
    (finite : target < 0x7FF0000000000000) : ∃ digits exponent,
      Writes (layout.magnitudeChars target) digits exponent ∧
        Decimal.magnitude digits exponent = target ∧
        ofDecimal negative digits exponent = .finite negative ⟨target, finite⟩ := by
  rcases Nat.eq_zero_or_pos target with rfl | positive
  · have zero : AllDigits ['0'] := by simp [AllDigits]
    have read (exponent : Int) :
        ofDecimal negative 0 exponent = .finite negative ⟨0, finite⟩ := by
      simp [ofDecimal, ofMagnitude]
    simp only [Layout.magnitudeChars, ↓reduceIte]
    split
    · exact ⟨0, _, writes_point zero (by simp) zero (by simp), Decimal.magnitude_zero _, read _⟩
    · exact ⟨0, _, writes_whole zero (by simp), Decimal.magnitude_zero _, read _⟩
  · have shows_ := Decimal.shortest_shows layout.tie positive finite
    generalize known : Decimal.shortest layout.tie target = d at shows_
    have all : AllDigits (Layout.digitChars d.digits) := allDigits_toDigits _
    have some_ : Layout.digitChars d.digits ≠ [] := Nat.toDigits_ne_nil
    have value : ofDigits (Layout.digitChars d.digits) = d.digits := ofDigits_toDigits _
    have exponent : d.position - (Layout.digitChars d.digits).length = d.exponent := by
      simp [Decimal.exponent, Decimal.digitCount, shows_.digits, Layout.digitChars]
    simp only [Layout.magnitudeChars, positive.ne', ↓reduceIte, known]
    split
    · obtain ⟨zeros, written⟩ := writes_positional layout all some_ d.position
      rw [value, exponent] at written
      exact ⟨_, _, written, shows_.magnitude zeros, shows_.ofDecimal finite negative zeros⟩
    · have written := writes_exponent all some_ shows_.low shows_.high
      rw [value, exponent] at written
      have read := shows_.ofDecimal finite negative 0
      exact ⟨_, _, written, shows_.rounded, by simpa using read⟩

theorem head_writes {cs : List Char} {digits : Nat} {exponent : Int}
    (writes : Writes cs digits exponent) :
    ∃ c rest, cs = c :: rest ∧ c.isDigit = true := by
  obtain ⟨whole, fraction, tail, tens, allWhole, some_, -, -, -, rfl, -, -⟩ := writes
  cases whole with
  | nil => exact (some_ rfl).elim
  | cons c rest => exact ⟨c, _, rfl, allWhole c List.mem_cons_self⟩

theorem black_writes {cs : List Char} {digits : Nat} {exponent : Int}
    (writes : Writes cs digits exponent) : ∀ c ∈ cs, Text.isBlank c = false := by
  have black {ds : List Char} (all : AllDigits ds) : ∀ c ∈ ds, Text.isBlank c = false :=
    fun c within => isBlank_of_isDigit (all c within)
  obtain ⟨whole, fraction, tail, tens, allWhole, -, allFraction, part, -, rfl, -, -⟩ := writes
  simp only [List.mem_append, or_imp, forall_and]
  refine ⟨⟨black allWhole, ?_⟩, ?_⟩
  · rw [pointed]
    split
    · exact nofun
    · exact List.forall_mem_cons.mpr ⟨by decide, black allFraction⟩
  · cases tail with
    | nil => exact nofun
    | cons letter rest =>
      simp only [exponentPart?, Option.ite_none_right_eq_some] at part
      obtain ⟨letter, part⟩ := part
      refine List.forall_mem_cons.mpr ⟨by rcases letter with rfl | rfl <;> decide, ?_⟩
      simp only [Binary64.exponent?, Option.ite_none_right_eq_some] at part
      have digits := black (List.all_eq_true.mp part.1.2)
      unfold splitSign at digits
      split at digits
      · exact List.forall_mem_cons.mpr ⟨by decide, digits⟩
      · exact List.forall_mem_cons.mpr ⟨by decide, digits⟩
      · exact digits

theorem ofText?_writes {negative : Bool} {cs : List Char} {digits : Nat} {exponent : Int}
    (writes : Writes cs digits exponent) :
    ofText? (String.ofList (Layout.signed negative cs)) =
      some (ofDecimal negative digits exponent) := by
  obtain ⟨c, rest, rfl, digit⟩ := head_writes writes
  have sign : splitSign (Layout.signed negative (c :: rest)) = (negative, c :: rest) := by
    cases negative with
    | true => rfl
    | false =>
      simp only [Layout.signed, Bool.false_eq_true, ↓reduceIte, splitSign]
      split
      · rename_i same
        simp [(List.cons.inj same).1] at digit
      · rename_i same
        simp [(List.cons.inj same).1] at digit
      · rfl
  have same : c.toLower = c := by
    simp only [Char.isDigit, Bool.and_eq_true, decide_eq_true_eq] at digit
    have small : ¬ 65 ≤ c.val := by
      rw [UInt32.not_le]
      exact UInt32.lt_of_le_of_lt digit.2 (by decide)
    exact dif_neg fun upper => small upper.1
  have word {s : String} (other : ∀ d ∈ s.toList.head?, d.isDigit = false) :
      String.ofList ((c :: rest).map Char.toLower) ≠ s := by
    rintro rfl
    have := other c (by simp [same])
    rw [digit] at this
    cases this
  simp only [ofText?, String.toList_ofList, sign]
  split
  · rename_i found
    exact (word (by simp) found).elim
  · rename_i found
    exact (word (by simp) found).elim
  · rename_i found
    exact (word (by simp) found).elim
  · exact unsigned?_writes writes

theorem Binary64.ofText?_text (layout : Layout) {x : Binary64} (finite : x.isFinite = true) :
    ofText? (layout.text x) = some x := by
  cases x with
  | nan => cases finite
  | infinite negative => cases finite
  | finite negative magnitude =>
    obtain ⟨digits, exponent, writes, -, value⟩ :=
      writes_magnitudeChars layout negative magnitude.isLt
    rw [Layout.text, Layout.chars, ofText?_writes writes, value]

theorem Layout.chars_inj (layout : Layout) {x y : Binary64} (finite : x.isFinite = true)
    (finite' : y.isFinite = true) (same : layout.chars x = layout.chars y) : x = y := by
  have read := ofText?_text layout finite
  rw [Layout.text, same] at read
  exact Option.some.inj (read.symm.trans (ofText?_text layout finite'))

theorem Layout.trim_text (layout : Layout) {x : Binary64} (finite : x.isFinite = true) :
    Text.trim (layout.text x) = layout.text x := by
  cases x with
  | nan => cases finite
  | infinite negative => cases finite
  | finite negative magnitude =>
    obtain ⟨digits, exponent, writes, -, -⟩ :=
      writes_magnitudeChars layout negative magnitude.isLt
    have black := black_writes writes
    refine Text.trim_eq_self ?_
    rw [Layout.text, String.toList_ofList, Layout.chars]
    cases negative with
    | true => exact List.forall_mem_cons.mpr ⟨by decide, black⟩
    | false => exact black

end CallChart
