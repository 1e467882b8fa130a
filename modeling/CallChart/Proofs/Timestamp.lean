import CallChart.Timestamp
import CallChart.Proofs.Number.Digits

namespace CallChart.Timestamp

theorem trimStart_digits {ds rest : List Char} (digits : AllDigits ds) (some_ : ds ≠ []) :
    Text.trimStart (ds ++ rest) = ds ++ rest := by
  cases ds with
  | nil => exact (some_ rfl).elim
  | cons c ds =>
    simp [Text.trimStart, isBlank_of_isDigit (digits c List.mem_cons_self)]

theorem readDigits_digits {most : Nat} {ds rest : List Char} (digits : AllDigits ds)
    (some_ : ds ≠ []) (short : ds.length ≤ most) (ends : Ends rest) :
    readDigits most (ds ++ rest) = some (ofDigits ds, rest) := by
  simp only [readDigits, takeWhile_digits digits ends, List.take_of_length_le short, some_,
    ↓reduceIte, List.drop_left]

theorem allDigits_padded (width n : Nat) : AllDigits (padded width n) :=
  AllDigits.append (fun c zero => by simp [List.eq_of_mem_replicate zero]) (allDigits_toDigits n)

theorem padded_ne_nil (width n : Nat) : padded width n ≠ [] := by
  simp [padded]

theorem ofDigits_padded (width n : Nat) : ofDigits (padded width n) = n := by
  simp [padded, ofDigits_zeros]

theorem length_padded {n width : Nat} (positive : 0 < width) (small : n < 10 ^ width) :
    (padded width n).length = width := by
  have fits := length_toDigits_le positive small
  simp only [padded, List.length_append, List.length_replicate]
  omega

theorem readNumber_padded {n width : Nat} {rest : List Char} (positive : 0 < width)
    (small : n < 10 ^ width) (ends : Ends rest) :
    readNumber width (padded width n ++ rest) = some (n, rest) := by
  have digits := allDigits_padded width n
  have filled := padded_ne_nil width n
  rw [readNumber, trimStart_digits digits filled,
    readDigits_digits digits filled (Nat.le_of_eq (length_padded positive small)) ends,
    ofDigits_padded]

theorem readMark_mark {rest : List Char} {mark : Char} (black : Text.isBlank mark = false) :
    readMark mark (mark :: rest) = some rest := by
  simp [readMark, Text.trimStart, black]

theorem readYear_yearChars {rest : List Char} (year : Int) (ends : Ends rest) :
    readYear (yearChars year ++ rest) = some (year, rest) := by
  have all := allDigits_padded 4
  have filled := padded_ne_nil 4
  have signed (n : Nat) :
      readDigits (padded 4 n ++ rest).length (padded 4 n ++ rest) = some (n, rest) := by
    rw [readDigits_digits (all n) (filled n) (by simp) ends, ofDigits_padded]
  simp only [yearChars]
  by_cases short : 0 ≤ year ∧ year ≤ 9999
  · have length : (padded 4 year.toNat).length = 4 := length_padded (by omega) (by omega)
    have read := readDigits_digits (all year.toNat) (filled _) (Nat.le_of_eq length) ends
    rw [if_pos short]
    simp only [readYear, trimStart_digits (all _) (filled _)]
    cases chars : padded 4 year.toNat with
    | nil => exact (filled _ chars).elim
    | cons c cs =>
      have digit := all year.toNat c (by simp [chars])
      split
      · rename_i plus
        cases plus
        simp at digit
      · rename_i minus
        cases minus
        simp at digit
      · rw [← chars, read, ofDigits_padded]
        simp only [Option.map_some, Option.some.injEq, Prod.mk.injEq, and_true]
        omega
  · rw [if_neg short]
    by_cases negative : year < 0
    · simp only [negative, ↓reduceIte, readYear, List.cons_append]
      rw [show Text.trimStart ('-' :: (padded 4 year.natAbs ++ rest)) =
        '-' :: (padded 4 year.natAbs ++ rest) by rfl]
      simp only [signed, Option.map_some, Option.some.injEq, Prod.mk.injEq, and_true]
      omega
    · simp only [negative, ↓reduceIte, readYear, List.cons_append]
      rw [show Text.trimStart ('+' :: (padded 4 year.natAbs ++ rest)) =
        '+' :: (padded 4 year.natAbs ++ rest) by rfl]
      simp only [signed, Option.map_some, Option.some.injEq, Prod.mk.injEq, and_true]
      omega

theorem readFraction_point {n : Nat} {rest : List Char} {places : Nat} (positive : 0 < places)
    (most : places ≤ 9) (small : n < 10 ^ places) (ends : Ends rest) :
    readFraction ('.' :: padded places n ++ rest) = some (n * 10 ^ (9 - places), rest) := by
  have digits := allDigits_padded places n
  have length := length_padded positive small
  simp only [List.cons_append, readFraction, takeWhile_digits digits ends, padded_ne_nil, ↓reduceIte,
    dropWhile_digits digits ends, List.take_of_length_le (Nat.le_trans (Nat.le_of_eq length) most), ofDigits_padded,
    length]
  rfl

theorem readFraction_fractionChars {nano : Nat} (small : nano < 1000000000) :
    readFraction (fractionChars nano ++ ['Z']) = some (nano, ['Z']) := by
  have ends : Ends ['Z'] := by simp [Ends]
  simp only [fractionChars]
  split
  · rename_i none_
    rw [none_]
    rfl
  · split
    · rw [readFraction_point (by omega) (by omega) (by omega) ends]
      simp only [Nat.reduceSub, Nat.reducePow, Option.some.injEq, Prod.mk.injEq, and_true]
      omega
    · split
      · rw [readFraction_point (by omega) (by omega) (by omega) ends]
        simp only [Nat.reduceSub, Nat.reducePow, Option.some.injEq, Prod.mk.injEq, and_true]
        omega
      · rw [readFraction_point (by omega) (by omega) (by omega) ends]
        simp

theorem toUtc_zero {t : Timestamp} (hour : t.hour ≤ 23) (minute : t.minute ≤ 59) :
    t.toUtc 0 = t := by
  have early : ¬ ((t.hour : Int) * 60 + t.minute - 0 < 0) := by omega
  have late : ¬ (1440 ≤ (t.hour : Int) * 60 + t.minute - 0) := by omega
  have ofDay : (((t.hour : Int) * 60 + t.minute - 0) % 1440).toNat = t.hour * 60 + t.minute := by
    omega
  have hours : (t.hour * 60 + t.minute) / 60 = t.hour := by omega
  have minutes : (t.hour * 60 + t.minute) % 60 = t.minute := by omega
  simp only [toUtc, early, late, ↓reduceIte, ofDay, hours, minutes]

theorem bind_of_eq_some {α β : Type} {x : Option α} {a : α} (known : x = some a)
    (f : α → Option β) : (x >>= f) = f a := by
  rw [known]
  rfl

theorem toList_text (t : Timestamp) : t.text.toList =
    yearChars t.year ++ ('-' :: (padded 2 t.month ++ ('-' :: (padded 2 t.day ++ ('T' ::
      (padded 2 t.hour ++ (':' :: (padded 2 t.minute ++ (':' :: (padded 2 t.second ++
        (fractionChars t.nano ++ ['Z']))))))))))) := by
  simp [text, chars]

theorem ofText_text {t : Timestamp} (valid : t.isValid = true) : ofText? t.text = some t := by
  have fields := valid
  simp only [isValid, Bool.and_eq_true, decide_eq_true_eq] at fields
  have month : daysIn t.year t.month ≤ 31 := by
    unfold daysIn
    repeat' split
    all_goals omega
  have ends (c : Char) (cs : List Char) (mark : c.isDigit = false) : Ends (c :: cs) := by
    simpa [Ends] using mark
  have tail : Ends (fractionChars t.nano ++ ['Z']) := by
    simp only [fractionChars]
    repeat' split
    all_goals simp [Ends]
  have utc := toUtc_zero (t := t) (by omega) (by omega)
  rw [ofText?, toList_text, bind_of_eq_some (readYear_yearChars _ (ends _ _ rfl))]
  dsimp only
  rw [bind_of_eq_some (readMark_mark rfl),
    bind_of_eq_some (readNumber_padded (by omega) (by omega) (ends _ _ rfl))]
  dsimp only
  rw [bind_of_eq_some (readMark_mark rfl),
    bind_of_eq_some (readNumber_padded (by omega) (by omega) (ends _ _ rfl))]
  dsimp only
  rw [bind_of_eq_some (show readDivider ('T' :: _) = some _ from rfl),
    bind_of_eq_some (readNumber_padded (by omega) (by omega) (ends _ _ rfl))]
  dsimp only
  rw [bind_of_eq_some (readMark_mark rfl),
    bind_of_eq_some (readNumber_padded (by omega) (by omega) (ends _ _ rfl))]
  dsimp only
  rw [bind_of_eq_some (readMark_mark rfl),
    bind_of_eq_some (readNumber_padded (by omega) (by omega) tail)]
  dsimp only
  rw [bind_of_eq_some (readFraction_fractionChars (by omega))]
  dsimp only
  rw [bind_of_eq_some (show readZone (Text.trimStart ['Z']) = some (0, []) from rfl)]
  exact (if_pos ⟨rfl, valid, by rw [utc]; exact valid⟩).trans (by rw [utc]; rfl)

end CallChart.Timestamp
