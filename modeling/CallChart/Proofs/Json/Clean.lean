import CallChart.Json.Reader
import CallChart.Proofs.Text.Utf8

namespace CallChart.Json

def Printed (c : Option Char) : Prop :=
  ∀ d, c = some d → 0x20 ≤ d.toNat ∨ isSpace c = true

/-- A piece of printed characters lies between the two inputs. -/
def Consumes (input rest : Input) : Prop :=
  ∃ used, input = used ++ rest ∧ ∀ c ∈ used, Printed c

theorem printed_some {d : Char} (visible : 0x20 ≤ d.toNat) : Printed (some d) := by
  intro c same
  cases same
  exact .inl visible

theorem printed_none : Printed none := nofun

theorem Consumes.refl (input : Input) : Consumes input input := ⟨[], rfl, nofun⟩

theorem Consumes.trans {input middle rest : Input} (first : Consumes input middle)
    (second : Consumes middle rest) :
    Consumes input rest := by
  obtain ⟨used, rfl, printed⟩ := first
  obtain ⟨used', rfl, printed'⟩ := second
  refine ⟨used ++ used', by simp, fun c within => ?_⟩
  rcases List.mem_append.mp within with within | within
  · exact printed c within
  · exact printed' c within

theorem Consumes.cons {input rest : Input} {c : Option Char} (first : Printed c)
    (others : Consumes input rest) :
    Consumes (c :: input) rest := by
  obtain ⟨used, rfl, printed⟩ := others
  refine ⟨c :: used, rfl, fun d within => ?_⟩
  rcases List.mem_cons.mp within with rfl | within
  · exact first
  · exact printed d within

theorem consumes_skipSpace (input : Input) : Consumes input (skipSpace input) := by
  refine ⟨input.takeWhile isSpace, List.takeWhile_append_dropWhile.symm, fun c within d _ => ?_⟩
  exact .inr (List.all_eq_true.mp List.all_takeWhile c within)

theorem consumes_of_skipSpace {input middle : Input} {c : Char}
    (front : skipSpace input = some c :: middle) (visible : 0x20 ≤ c.toNat) :
    Consumes input middle := by
  have spaces := consumes_skipSpace input
  rw [front] at spaces
  exact spaces.trans ((Consumes.refl middle).cons (printed_some visible))

theorem consumes_afterWord {input rest : Input} {word : List Char}
    (visible : ∀ c ∈ word, 0x20 ≤ c.toNat) (read : afterWord? word input = some rest) :
    Consumes input rest := by
  induction word generalizing input with
  | nil =>
    cases read
    exact .refl _
  | cons c word ih =>
    rcases input with _ | ⟨_ | d, input⟩
    · cases read
    · cases read
    · simp only [afterWord?, Option.ite_none_right_eq_some] at read
      obtain ⟨rfl, read⟩ := read
      have others := ih (fun e within => visible e (List.mem_cons_of_mem _ within)) read
      exact others.cons (printed_some (visible c List.mem_cons_self))

theorem visible_hexValue {c : Char} {n : Nat} (value : hexValue? c = some n) : 0x20 ≤ c.toNat := by
  simp only [hexValue?] at value
  split at value
  · rename_i digit
    rw [Char.isDigit_iff_toNat] at digit
    exact Nat.le_trans (by decide) digit.1
  · split at value
    · rename_i letter
      exact Nat.le_trans (by decide) (Char.le_def.mp letter.1)
    · split at value
      · rename_i letter
        exact Nat.le_trans (by decide) (Char.le_def.mp letter.1)
      · cases value

theorem printed_hexUnit {a b c d : Option Char} {n : Nat} (value : hexUnit? a b c d = some n) :
    Printed a ∧ Printed b ∧ Printed c ∧ Printed d := by
  simp only [hexUnit?, Option.bind_eq_bind, Option.bind_eq_some_iff] at value
  obtain ⟨a, rfl, _, first, b, rfl, _, second, c, rfl, _, third, d, rfl, _, fourth, -⟩ := value
  exact ⟨printed_some (visible_hexValue first), printed_some (visible_hexValue second),
    printed_some (visible_hexValue third), printed_some (visible_hexValue fourth)⟩

theorem visible_escaped {c d : Char} (value : escaped? c = some d) : 0x20 ≤ c.toNat := by
  simp only [escaped?] at value
  split at value <;> first | decide | cases value

theorem consumes_pieces {input rest : Input} {pieces : List Piece}
    (read : pieces? input = some (pieces, rest)) :
    Consumes input rest := by
  fun_induction pieces? input generalizing pieces rest with
  | case1 => cases read
  | case2 input =>
    cases read
    exact (Consumes.refl input).cons (printed_some (by decide))
  | case3 a b c d input ih =>
    simp only [Option.bind_eq_bind, Option.bind_eq_some_iff, Option.pure_def, Option.some.injEq,
      Prod.mk.injEq, Prod.exists] at read
    obtain ⟨unit, value, others, rest', found, rfl, rfl⟩ := read
    obtain ⟨first, second, third, fourth⟩ := printed_hexUnit value
    exact (((((ih found).cons fourth).cons third).cons second).cons first).cons
      (printed_some (by decide)) |>.cons (printed_some (by decide))
  | case4 e input _ ih =>
    simp only [Option.bind_eq_bind, Option.bind_eq_some_iff, Option.pure_def, Option.some.injEq,
      Prod.mk.injEq, Prod.exists] at read
    obtain ⟨c, value, others, rest', found, rfl, rfl⟩ := read
    exact ((ih found).cons (printed_some (visible_escaped value))).cons (printed_some (by decide))
  | case5 => cases read
  | case6 => cases read
  | case7 c input _ _ _ _ visible ih =>
    simp only [Option.bind_eq_bind, Option.bind_eq_some_iff, Option.pure_def, Option.some.injEq,
      Prod.mk.injEq, Prod.exists] at read
    obtain ⟨others, rest', found, rfl, rfl⟩ := read
    exact (ih found).cons (printed_some (Nat.not_lt.mp visible))
  | case8 input ih =>
    simp only [Option.bind_eq_bind, Option.bind_eq_some_iff, Option.pure_def, Option.some.injEq,
      Prod.mk.injEq, Prod.exists] at read
    obtain ⟨others, rest', found, rfl, rfl⟩ := read
    exact (ih found).cons printed_none

theorem consumes_text {input rest : Input} {s : Option String}
    (read : text? input = some (s, rest)) :
    Consumes input rest := by
  simp only [text?, Option.bind_eq_bind, Option.bind_eq_some_iff, Option.pure_def,
    Option.some.injEq, Prod.mk.injEq, Prod.exists] at read
  obtain ⟨pieces, rest', found, -, rfl⟩ := read
  exact consumes_pieces found

theorem consumes_digits (input : Input) : Consumes input (digits input).2 := by
  fun_induction digits input with
  | case1 c input digit more rest' read ih =>
    rw [read] at ih
    rw [Char.isDigit_iff_toNat] at digit
    exact ih.cons (printed_some (Nat.le_trans (by decide) digit.1))
  | case2 => exact .refl _
  | case3 => exact .refl _

theorem consumes_fraction {input rest : Input} {ds : List Char}
    (read : fraction? input = some (ds, rest)) :
    Consumes input rest := by
  simp only [fraction?] at read
  split at read
  · rename_i input
    split at read
    · cases read
    · cases read
      exact (consumes_digits input).cons (printed_some (by decide))
  · cases read
    exact .refl _

theorem consumes_exponent {input rest : Input} {part : Option (Bool × List Char)}
    (read : exponent? input = some (part, rest)) : Consumes input rest := by
  simp only [exponent?] at read
  split at read
  · rename_i c input
    split at read
    · rename_i letter
      have first : Printed (some c) := by
        rcases letter with rfl | rfl <;> exact printed_some (by decide)
      have taken {sign : Bool} {input : Input}
          (read : (if (digits input).1 = [] then none
            else some (some (sign, (digits input).1), (digits input).2)) = some (part, rest)) :
          Consumes input rest := by
        simp only [Option.ite_none_left_eq_some, Option.some.injEq, Prod.mk.injEq] at read
        rw [← read.2.2]
        exact consumes_digits input
      split at read
      · exact ((taken read).cons (printed_some (by decide))).cons first
      · exact ((taken read).cons (printed_some (by decide))).cons first
      · exact (taken read).cons first
    · cases read
      exact .refl _
  · cases read
    exact .refl _

theorem consumes_number {input rest : Input} {negative : Bool} {j : Json}
    (read : number? negative input = some (j, rest)) : Consumes input rest := by
  simp only [number?, numeral?, Option.bind_eq_bind, Option.bind_eq_some_iff, Option.pure_def,
    Option.some.injEq, Prod.mk.injEq, Prod.exists] at read
  obtain ⟨numeral, after, parts, -, rfl⟩ := read
  split at parts
  · cases parts
  · simp only [Option.bind_eq_some_iff, Option.some.injEq, Prod.mk.injEq, Prod.exists] at parts
    obtain ⟨ds, afterFraction, fraction, part, afterExponent, exponent, -, rfl⟩ := parts
    exact ((consumes_digits input).trans (consumes_fraction fraction)).trans
      (consumes_exponent exponent)

theorem consumes_word {input rest : Input} {word : String} {j k : Json}
    (visible : word.toList.all (0x20 ≤ ·.toNat) = true)
    (read : (afterWord? word.toList input).map (k, ·) = some (j, rest)) : Consumes input rest := by
  simp only [Option.map_eq_some_iff, Prod.mk.injEq, exists_eq_right_right] at read
  exact consumes_afterWord (by simpa using visible) read.1

mutual

theorem consumes_value : ∀ (fuel : Nat) {input rest : Input} {j : Json},
    value? fuel input = some (j, rest) → Consumes input rest
  | 0, _, _, _, read => by cases read
  | fuel + 1, input, rest, j, read => by
    simp only [value?] at read
    split at read
    · rename_i front
      simp only [Option.bind_eq_bind, Option.bind_eq_some_iff, Option.pure_def, Option.some.injEq,
        Prod.mk.injEq, Prod.exists] at read
      obtain ⟨s, after, found, -, rfl⟩ := read
      exact (consumes_of_skipSpace front (by decide)).trans (consumes_text found)
    · rename_i front
      refine (consumes_of_skipSpace front (by decide)).trans ?_
      split at read
      · rename_i closed
        cases read
        exact consumes_of_skipSpace closed (by decide)
      · simp only [Option.bind_eq_bind, Option.bind_eq_some_iff, Option.pure_def,
          Option.some.injEq, Prod.mk.injEq, Prod.exists] at read
        obtain ⟨items, after, found, -, rfl⟩ := read
        exact (consumes_skipSpace _).trans (consumes_items fuel found)
    · rename_i front
      refine (consumes_of_skipSpace front (by decide)).trans ?_
      split at read
      · rename_i closed
        cases read
        exact consumes_of_skipSpace closed (by decide)
      · simp only [Option.bind_eq_bind, Option.bind_eq_some_iff, Option.pure_def,
          Option.some.injEq, Prod.mk.injEq, Prod.exists] at read
        obtain ⟨members, after, found, -, rfl⟩ := read
        exact (consumes_skipSpace _).trans (consumes_members fuel found)
    · rename_i front
      exact (consumes_of_skipSpace front (by decide)).trans (consumes_word (by decide) read)
    · rename_i front
      exact (consumes_of_skipSpace front (by decide)).trans (consumes_word (by decide) read)
    · rename_i front
      exact (consumes_of_skipSpace front (by decide)).trans (consumes_word (by decide) read)
    · rename_i front
      exact (consumes_of_skipSpace front (by decide)).trans (consumes_number read)
    · exact (consumes_skipSpace input).trans (consumes_number read)

theorem consumes_items : ∀ (fuel : Nat) {input rest : Input} {items : List Json},
    items? fuel input = some (items, rest) → Consumes input rest
  | 0, _, _, _, read => by cases read
  | fuel + 1, input, rest, j, read => by
    simp only [items?, Option.bind_eq_bind, Option.bind_eq_some_iff, Prod.exists] at read
    obtain ⟨item, after, found, read⟩ := read
    refine (consumes_value fuel found).trans ?_
    split at read
    · rename_i front
      cases read
      exact consumes_of_skipSpace front (by decide)
    · rename_i front
      simp only [Option.bind_eq_some_iff, Option.pure_def, Option.some.injEq, Prod.mk.injEq,
        Prod.exists] at read
      obtain ⟨others, last, founds, -, rfl⟩ := read
      exact (consumes_of_skipSpace front (by decide)).trans (consumes_items fuel founds)
    · cases read

theorem consumes_members : ∀ (fuel : Nat) {input rest : Input}
    {members : List (Option String × Json)},
    members? fuel input = some (members, rest) → Consumes input rest
  | 0, _, _, _, read => by cases read
  | fuel + 1, input, rest, j, read => by
    simp only [members?] at read
    split at read
    case h_2 => cases read
    rename_i front
    simp only [Option.bind_eq_bind, Option.bind_eq_some_iff, Prod.exists] at read
    obtain ⟨key, after, named, read⟩ := read
    refine ((consumes_of_skipSpace front (by decide)).trans (consumes_text named)).trans ?_
    split at read
    case h_2 => cases read
    rename_i colon
    simp only [Option.bind_eq_some_iff, Prod.exists] at read
    obtain ⟨item, behind, found, read⟩ := read
    refine ((consumes_of_skipSpace colon (by decide)).trans (consumes_value fuel found)).trans ?_
    split at read
    · rename_i closed
      cases read
      exact consumes_of_skipSpace closed (by decide)
    · rename_i comma
      simp only [Option.bind_eq_some_iff, Option.pure_def, Option.some.injEq, Prod.mk.injEq,
        Prod.exists] at read
      obtain ⟨others, last, founds, -, rfl⟩ := read
      exact (consumes_of_skipSpace comma (by decide)).trans (consumes_members fuel founds)
    · cases read

end

theorem printed_parseInput {input : Input} {j : Json} (read : parseInput? input = some j) :
    ∀ c ∈ input, Printed c := by
  simp only [parseInput?, Option.bind_eq_bind, Option.bind_eq_some_iff, Prod.exists,
    Option.ite_none_right_eq_some] at read
  obtain ⟨_, rest, found, ended, -⟩ := read
  have spaces := consumes_skipSpace rest
  rw [ended] at spaces
  obtain ⟨used, whole, printed⟩ := (consumes_value _ found).trans spaces
  rw [whole, List.append_nil]
  exact printed

theorem zero_not_mem_of_parseBytes {bytes : List UInt8} {j : Json}
    (read : parseBytes? bytes = some j) : 0 ∉ bytes := by
  intro within
  have zero := Utf8.ascii_mem_scanned (show (0 : UInt8).toNat < 0x80 by decide) within
  rcases printed_parseInput read _ zero _ rfl with visible | space
  · exact absurd visible (by decide)
  · exact absurd space (by decide)

end CallChart.Json
