import CallChart.Proofs.Json.Clean
import CallChart.Proofs.Json.RoundTrip

namespace CallChart.Json

/-- What was read ends before something else, or before input that continues no number. -/
def EndsBefore (rest more : Input) : Prop :=
  rest ≠ [] ∨ Closed more

theorem EndsBefore.before {input rest more : Input} (ends : EndsBefore rest more)
    (consumes : Consumes input rest) :
    EndsBefore input more := by
  obtain ⟨used, rfl, -⟩ := consumes
  refine ends.imp_left fun filled => ?_
  simp [filled]

theorem skipSpace_append {input rest : Input} {c : Option Char}
    (front : skipSpace input = c :: rest) (more : Input) :
    skipSpace (input ++ more) = c :: (rest ++ more) := by
  rw [skipSpace] at front
  simp [skipSpace, List.dropWhile_append, front]

theorem ends_of_skipSpace {rest : Input} {c : Option Char} {others : Input}
    (front : skipSpace rest = c :: others) (more : Input) : EndsBefore rest more := by
  refine .inl fun nothing => ?_
  rw [nothing] at front
  cases front

theorem afterWord?_append {input rest : Input} {word : List Char}
    (read : afterWord? word input = some rest) (more : Input) :
    afterWord? word (input ++ more) = some (rest ++ more) := by
  induction word generalizing input with
  | nil =>
    cases read
    rfl
  | cons c word ih =>
    rcases input with _ | ⟨_ | d, input⟩
    · cases read
    · cases read
    · simp only [afterWord?, Option.ite_none_right_eq_some] at read
      obtain ⟨rfl, read⟩ := read
      simp only [List.cons_append, afterWord?, ↓reduceIte, ih read]

theorem pieces?_plain {input : Input} {c : Char} (quote : c ≠ '"') (escape : c ≠ '\\')
    (visible : ¬ c.toNat < 0x20) : pieces? (some c :: input) =
      (pieces? input).map fun found => (.plain (some c) :: found.1, found.2) := by
  rw [pieces?.eq_def]
  split
  case h_6 same =>
    cases same
    rw [if_neg visible]
    cases pieces? input <;> rfl
  all_goals simp_all

theorem pieces?_append {input rest : Input} {pieces : List Piece}
    (read : pieces? input = some (pieces, rest)) (more : Input) :
    pieces? (input ++ more) = some (pieces, rest ++ more) := by
  fun_induction pieces? input generalizing pieces rest with
  | case1 => cases read
  | case2 input =>
    cases read
    simp [pieces?]
  | case3 a b c d input ih =>
    simp only [Option.bind_eq_bind, Option.bind_eq_some_iff, Option.pure_def, Option.some.injEq,
      Prod.mk.injEq, Prod.exists] at read
    obtain ⟨unit, value, others, rest', found, rfl, rfl⟩ := read
    simp [pieces?, value, ih found]
  | case4 e input apart ih =>
    simp only [Option.bind_eq_bind, Option.bind_eq_some_iff, Option.pure_def, Option.some.injEq,
      Prod.mk.injEq, Prod.exists] at read
    obtain ⟨c, value, others, rest', found, rfl, rfl⟩ := read
    have letter : e ≠ 'u' := by
      rintro rfl
      cases value
    simp [pieces?, letter, value, ih found]
  | case5 => cases read
  | case6 => cases read
  | case7 c input quote _ _ escape visible ih =>
    simp only [Option.bind_eq_bind, Option.bind_eq_some_iff, Option.pure_def, Option.some.injEq,
      Prod.mk.injEq, Prod.exists] at read
    obtain ⟨others, rest', found, rfl, rfl⟩ := read
    rw [List.cons_append, pieces?_plain quote escape visible, ih found]
    rfl
  | case8 input ih =>
    simp only [Option.bind_eq_bind, Option.bind_eq_some_iff, Option.pure_def, Option.some.injEq,
      Prod.mk.injEq, Prod.exists] at read
    obtain ⟨others, rest', found, rfl, rfl⟩ := read
    simp [pieces?, ih found]

theorem text?_append {input rest : Input} {s : Option String} (read : text? input = some (s, rest))
    (more : Input) :
    text? (input ++ more) = some (s, rest ++ more) := by
  simp only [text?, Option.bind_eq_bind, Option.bind_eq_some_iff, Option.pure_def,
    Option.some.injEq, Prod.mk.injEq, Prod.exists] at read ⊢
  obtain ⟨pieces, rest', found, joined, rfl⟩ := read
  exact ⟨pieces, rest' ++ more, pieces?_append found more, joined, rfl⟩

theorem digits_append {input more : Input} (ends : EndsBefore (digits input).2 more) :
    digits (input ++ more) = ((digits input).1, (digits input).2 ++ more) := by
  fun_induction digits input with
  | case1 c input digit ds rest read ih =>
    rw [read] at ih
    simp [digits, digit, ih ends]
  | case2 c input digit => simp [digits, digit]
  | case3 input other =>
    rcases input with _ | ⟨_ | c, input⟩
    · have nothing : AllDigits [] := by simp [AllDigits]
      exact digits_digits nothing (ends.resolve_left (by simp)).digits
    · rfl
    · exact (other c input rfl).elim

theorem fraction?_append {input rest more : Input} {ds : List Char}
    (read : fraction? input = some (ds, rest)) (ends : EndsBefore rest more) :
    fraction? (input ++ more) = some (ds, rest ++ more) := by
  simp only [fraction?] at read
  split at read
  · rename_i input
    split at read
    · cases read
    · rename_i filled
      cases read
      simp only [List.cons_append, fraction?, digits_append ends, if_neg filled]
  · rename_i other
    cases read
    rcases input with _ | ⟨c, input⟩
    · exact fraction?_closed (ends.resolve_left (by simp))
    · rw [List.cons_append, fraction?]
      rintro rest same
      cases same
      exact other input rfl

theorem exponent?_append {input rest more : Input} {part : Option (Bool × List Char)}
    (read : exponent? input = some (part, rest)) (ends : EndsBefore rest more) :
    exponent? (input ++ more) = some (part, rest ++ more) := by
  have taken {negative : Bool} {input : Input}
      (read : (if (digits input).1 = [] then none
        else some (some (negative, (digits input).1), (digits input).2)) = some (part, rest)) :
      (if (digits (input ++ more)).1 = [] then none
        else some (some (negative, (digits (input ++ more)).1), (digits (input ++ more)).2)) =
          some (part, rest ++ more) := by
    simp only [Option.ite_none_left_eq_some, Option.some.injEq, Prod.mk.injEq] at read
    obtain ⟨filled, rfl, rfl⟩ := read
    rw [digits_append ends, if_neg filled]
  rcases input with _ | ⟨_ | c, input⟩
  · cases read
    exact exponent?_closed (ends.resolve_left (by simp))
  · cases read
    rfl
  simp only [List.cons_append, exponent?] at read ⊢
  split at read
  case isFalse other =>
    cases read
    rw [if_neg other]
    rfl
  case isTrue letter =>
    rw [if_pos letter]
    split at read
    · exact taken read
    · exact taken read
    · rename_i minus plus
      rcases input with _ | ⟨d, input⟩
      · cases read
      rw [List.cons_append]
      split
      · rename_i same
        cases same
        exact (minus input rfl).elim
      · rename_i same
        cases same
        exact (plus input rfl).elim
      · exact taken read

theorem number?_append {input rest more : Input} {negative : Bool} {j : Json}
    (read : number? negative input = some (j, rest)) (ends : EndsBefore rest more) :
    number? negative (input ++ more) = some (j, rest ++ more) := by
  simp only [number?, numeral?, Option.bind_eq_bind, Option.bind_eq_some_iff, Option.pure_def,
    Option.some.injEq, Prod.mk.injEq, Prod.exists] at read ⊢
  obtain ⟨numeral, after, parts, rfl, rfl⟩ := read
  refine ⟨numeral, after ++ more, ?_, rfl, rfl⟩
  split at parts
  · cases parts
  rename_i whole
  simp only [Option.bind_eq_some_iff, Option.some.injEq, Prod.mk.injEq, Prod.exists] at parts
  obtain ⟨ds, afterFraction, fraction, part, afterExponent, exponent, rfl, rfl⟩ := parts
  have fractionEnds : EndsBefore afterFraction more := ends.before (consumes_exponent exponent)
  have integerEnds : EndsBefore (digits input).2 more :=
    fractionEnds.before (consumes_fraction fraction)
  rw [digits_append integerEnds, if_neg whole, fraction?_append fraction fractionEnds]
  simp only [Option.bind_some, exponent?_append exponent ends]

theorem word_append {input rest : Input} {word : List Char} {j k : Json}
    (read : (afterWord? word input).map (k, ·) = some (j, rest)) (more : Input) :
    (afterWord? word (input ++ more)).map (k, ·) = some (j, rest ++ more) := by
  simp only [Option.map_eq_some_iff, Prod.mk.injEq] at read ⊢
  obtain ⟨after, found, rfl, rfl⟩ := read
  exact ⟨after ++ more, afterWord?_append found more, rfl, rfl⟩

theorem number?_front {input rest : Input} {negative : Bool} {j : Json}
    (read : number? negative input = some (j, rest)) :
    ∃ d others, d.isDigit = true ∧ input = some d :: others := by
  rcases input with _ | ⟨_ | d, others⟩
  · cases read
  · cases read
  · refine ⟨d, others, ?_, rfl⟩
    by_contra other
    simp [number?, numeral?, digits, other] at read

mutual

theorem value?_append : ∀ (fuel fuel' : Nat) {input rest more : Input} {j : Json},
    value? fuel input = some (j, rest) → fuel ≤ fuel' → EndsBefore rest more →
      value? fuel' (input ++ more) = some (j, rest ++ more)
  | 0, _, _, _, _, _, read, _, _ => by cases read
  | _ + 1, 0, _, _, _, _, _, enough, _ => by omega
  | fuel + 1, fuel' + 1, input, rest, more, j, read, enough, ends => by
    have enough' : fuel ≤ fuel' := by omega
    simp only [value?] at read
    split at read
    · rename_i front
      simp only [Option.bind_eq_bind, Option.bind_eq_some_iff, Option.pure_def, Option.some.injEq,
        Prod.mk.injEq, Prod.exists] at read
      obtain ⟨s, after, found, rfl, rfl⟩ := read
      simp only [value?, skipSpace_append front, text?_append found]
      rfl
    · rename_i front
      split at read
      · rename_i closed
        cases read
        simp only [value?, skipSpace_append front, skipSpace_append closed]
      · simp only [Option.bind_eq_bind, Option.bind_eq_some_iff, Option.pure_def,
          Option.some.injEq, Prod.mk.injEq, Prod.exists] at read
        obtain ⟨items, after, found, rfl, rfl⟩ := read
        rw [items?_skipSpace] at found
        rw [← value?_skipSpace, skipSpace_append front]
        exact value?_array (items?_append fuel fuel' found enough' more)
    · rename_i front
      split at read
      · rename_i closed
        cases read
        simp only [value?, skipSpace_append front, skipSpace_append closed]
      · simp only [Option.bind_eq_bind, Option.bind_eq_some_iff, Option.pure_def,
          Option.some.injEq, Prod.mk.injEq, Prod.exists] at read
        obtain ⟨members, after, found, rfl, rfl⟩ := read
        rw [members?_skipSpace] at found
        rw [← value?_skipSpace, skipSpace_append front]
        exact value?_object (members?_append fuel fuel' found enough' more)
    · rename_i front
      simp only [value?, skipSpace_append front]
      exact word_append read more
    · rename_i front
      simp only [value?, skipSpace_append front]
      exact word_append read more
    · rename_i front
      simp only [value?, skipSpace_append front]
      exact word_append read more
    · rename_i front
      simp only [value?, skipSpace_append front]
      exact number?_append read ends
    · obtain ⟨d, others, digit, front⟩ := number?_front read
      rw [front] at read
      rw [← value?_skipSpace, skipSpace_append front, value?_digit digit]
      exact number?_append read ends

theorem items?_append : ∀ (fuel fuel' : Nat) {input rest : Input} {items : List Json},
    items? fuel input = some (items, rest) → fuel ≤ fuel' → ∀ more,
      items? fuel' (input ++ more) = some (items, rest ++ more)
  | 0, _, _, _, _, read, _, _ => by cases read
  | _ + 1, 0, _, _, _, _, enough, _ => by omega
  | fuel + 1, fuel' + 1, input, rest, _, read, enough, more => by
    have enough' : fuel ≤ fuel' := by omega
    simp only [items?, Option.bind_eq_bind, Option.bind_eq_some_iff, Prod.exists] at read
    obtain ⟨item, after, found, read⟩ := read
    split at read
    · rename_i front
      cases read
      have read' := value?_append fuel fuel' found enough' (ends_of_skipSpace front more)
      simp only [items?, read', Option.bind_eq_bind, Option.bind_some, skipSpace_append front]
      rfl
    · rename_i front
      simp only [Option.bind_eq_some_iff, Option.pure_def, Option.some.injEq, Prod.mk.injEq,
        Prod.exists] at read
      obtain ⟨others, last, founds, rfl, rfl⟩ := read
      have read' := value?_append fuel fuel' found enough' (ends_of_skipSpace front more)
      have reads := items?_append fuel fuel' founds enough' more
      simp only [items?, read', Option.bind_eq_bind, Option.bind_some, skipSpace_append front,
        reads]
      rfl
    · cases read

theorem members?_append : ∀ (fuel fuel' : Nat) {input rest : Input}
    {members : List (Option String × Json)},
    members? fuel input = some (members, rest) → fuel ≤ fuel' → ∀ more,
      members? fuel' (input ++ more) = some (members, rest ++ more)
  | 0, _, _, _, _, read, _, _ => by cases read
  | _ + 1, 0, _, _, _, _, enough, _ => by omega
  | fuel + 1, fuel' + 1, input, rest, _, read, enough, more => by
    have enough' : fuel ≤ fuel' := by omega
    simp only [members?] at read
    split at read
    case h_2 => cases read
    rename_i front
    simp only [Option.bind_eq_bind, Option.bind_eq_some_iff, Prod.exists] at read
    obtain ⟨key, after, named, read⟩ := read
    split at read
    case h_2 => cases read
    rename_i colon
    simp only [Option.bind_eq_some_iff, Prod.exists] at read
    obtain ⟨item, behind, found, read⟩ := read
    split at read
    · rename_i brace
      cases read
      have read' := value?_append fuel fuel' found enough' (ends_of_skipSpace brace more)
      simp only [members?, skipSpace_append front, text?_append named, Option.bind_eq_bind,
        Option.bind_some, skipSpace_append colon, read', skipSpace_append brace]
      rfl
    · rename_i comma
      simp only [Option.bind_eq_some_iff, Option.pure_def, Option.some.injEq, Prod.mk.injEq,
        Prod.exists] at read
      obtain ⟨others, last, founds, rfl, rfl⟩ := read
      have read' := value?_append fuel fuel' found enough' (ends_of_skipSpace comma more)
      have reads := members?_append fuel fuel' founds enough' more
      simp only [members?, skipSpace_append front, text?_append named, Option.bind_eq_bind,
        Option.bind_some, skipSpace_append colon, read', skipSpace_append comma, reads]
      rfl
    · cases read

end

theorem Consumes.suffix {input rest : Input} (consumes : Consumes input rest) : rest <:+ input := by
  obtain ⟨used, rfl, -⟩ := consumes
  exact List.suffix_append used rest

theorem members?_closed {input rest : Input} {fuel : Nat} {members : List (Option String × Json)}
    (read : members? fuel input = some (members, rest)) : some '\x7d' :: rest <:+ input := by
  have behind {c : Char} {input others : Input} (front : skipSpace input = some c :: others) :
      some c :: others <:+ input := front ▸ List.dropWhile_suffix _
  induction fuel generalizing input rest members with
  | zero => cases read
  | succ fuel ih =>
    simp only [members?] at read
    split at read
    case h_2 => cases read
    rename_i front
    simp only [Option.bind_eq_bind, Option.bind_eq_some_iff, Prod.exists] at read
    obtain ⟨key, after, named, read⟩ := read
    have keyed := (consumes_text named).suffix.trans ((List.suffix_cons _ _).trans (behind front))
    split at read
    case h_2 => cases read
    rename_i colon
    simp only [Option.bind_eq_some_iff, Prod.exists] at read
    obtain ⟨item, last, found, read⟩ := read
    have valued := (consumes_value fuel found).suffix.trans
      ((List.suffix_cons _ _).trans (behind colon))
    split at read
    · rename_i brace
      cases read
      exact (behind brace).trans (valued.trans keyed)
    · rename_i comma
      simp only [Option.bind_eq_some_iff, Option.pure_def, Option.some.injEq, Prod.mk.injEq,
        Prod.exists] at read
      obtain ⟨others, end_, founds, -, rfl⟩ := read
      exact (ih founds).trans ((List.suffix_cons _ _).trans
        ((behind comma).trans (valued.trans keyed)))
    · cases read

/-- What is read after an opening brace goes up to a closing one, and is read in the same way when
more input follows. -/
theorem value?_brace {input rest : Input} {fuel : Nat} {j : Json}
    (read : value? (fuel + 1) (some '\x7b' :: input) = some (j, rest)) :
    some '\x7d' :: rest <:+ input ∧ ∀ fuel', fuel ≤ fuel' → ∀ more,
      value? (fuel' + 1) (some '\x7b' :: (input ++ more)) = some (j, rest ++ more) := by
  simp only [value?, skipSpace_cons (show isSpace (some '\x7b') = false from rfl)] at read
  split at read
  · rename_i closed
    cases read
    refine ⟨closed ▸ List.dropWhile_suffix _, fun fuel' _ more => ?_⟩
    simp only [value?, skipSpace_cons (show isSpace (some '\x7b') = false from rfl),
      skipSpace_append closed]
  · simp only [Option.bind_eq_bind, Option.bind_eq_some_iff, Option.pure_def, Option.some.injEq,
      Prod.mk.injEq, Prod.exists] at read
    obtain ⟨members, after, found, rfl, rfl⟩ := read
    rw [members?_skipSpace] at found
    exact ⟨members?_closed found, fun fuel' enough more =>
      value?_object (members?_append fuel fuel' found enough more)⟩

theorem skipSpace_eq_nil {rest : Input} : skipSpace rest = [] ↔ ∀ c ∈ rest, isSpace c = true :=
  List.dropWhile_eq_nil_iff

theorem parseInput?_gap (input : Input) :
    parseInput? (some '\x7b' :: (input ++ [none])) = none := by
  by_contra document
  obtain ⟨j, document⟩ := Option.ne_none_iff_exists'.mp document
  simp only [parseInput?, Option.bind_eq_bind, Option.bind_eq_some_iff, Prod.exists,
    Option.ite_none_right_eq_some] at document
  obtain ⟨_, rest, read, spaces, -⟩ := document
  obtain ⟨used, whole⟩ := (value?_brace read).1
  have last := congrArg List.getLast? whole
  rcases List.eq_nil_or_concat rest with rfl | ⟨others, c, rfl⟩
  · simp at last
  · have space := skipSpace_eq_nil.mp spaces c (by simp)
    have gap : c = none := by simpa [List.getLast?_append, List.getLast?_cons] using last
    simp [gap, isSpace] at space

theorem parseInput?_broken {input more : Input} {j : Json}
    (document : parseInput? (some '\x7b' :: (input ++ more)) = some j)
    (solid : ∃ c ∈ more, isSpace c = false) : parseInput? (some '\x7b' :: input) = none := by
  by_contra early
  obtain ⟨k, early⟩ := Option.ne_none_iff_exists'.mp early
  simp only [parseInput?, Option.bind_eq_bind, Option.bind_eq_some_iff, Prod.exists,
    Option.ite_none_right_eq_some] at early document
  obtain ⟨_, rest, read, -, -⟩ := early
  obtain ⟨_, rest', read', spaces, -⟩ := document
  have longer := (value?_brace read).2 (2 * (some '\x7b' :: (input ++ more)).length + 1)
    (by simp only [List.length_cons, List.length_append]; omega) more
  obtain ⟨c, within, visible⟩ := solid
  have same : rest ++ more = rest' := congrArg Prod.snd (Option.some.inj (longer.symm.trans read'))
  rw [← same] at spaces
  have space := skipSpace_eq_nil.mp spaces c (List.mem_append_right _ within)
  simp [visible] at space

theorem parseBytes?_take {members : List (String × Json)} (filled : members ≠ [])
    (plain : Plain (ofFields members)) {n : Nat}
    (early : n < (Utf8.encode (spread members)).length) :
    parseBytes? ((Utf8.encode (spread members)).take n) = none := by
  obtain ⟨m, short, gap, gaps, scanned⟩ := Utf8.scanned_take early
  rw [parseBytes?, Utf8.encode, scanned]
  obtain ⟨inner, form⟩ : ∃ inner, (spread members).toList = '\x7b' :: (inner ++ ['\x7d']) := by
    rw [toList_spread]
    generalize separated [',', '\n'] _ = lines
    exact ⟨'\n' :: (lines ++ ['\n']), by simp⟩
  have document := parseBytes?_spread filled plain
  rw [parseBytes?, Utf8.scanned_encode] at document
  rw [form] at document short ⊢
  cases m with
  | zero => rcases gaps with rfl | rfl <;> rfl
  | succ m =>
    rw [List.take_succ_cons, List.map_cons, List.cons_append]
    rcases gaps with rfl | rfl
    · rw [List.append_nil]
      have before : m ≤ inner.length := by
        simp only [List.length_cons, List.length_append, List.length_nil] at short
        omega
      rw [← List.take_append_drop m (inner ++ ['\x7d']), List.map_cons, List.map_append] at document
      refine parseInput?_broken document ⟨some '\x7d', ?_, by decide⟩
      simp [List.drop_append_of_le_length before]
    · exact parseInput?_gap _

end CallChart.Json
