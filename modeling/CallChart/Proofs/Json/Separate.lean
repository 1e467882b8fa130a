import CallChart.Proofs.Json.RoundTrip
import CallChart.Proofs.Number.Text

namespace CallChart

def isNumeral (c : Char) : Bool :=
  c.isDigit || c == '.' || c == 'e' || c == 'E' || c == '-' || c == '+'

theorem isNumeral_exponentPart {tail : List Char} {tens : Int}
    (part : exponentPart? tail = some tens) : ∀ c ∈ tail, isNumeral c = true := by
  cases tail with
  | nil => simp
  | cons letter rest =>
    simp only [exponentPart?] at part
    split at part
    case isFalse => cases part
    rename_i isLetter
    have digits (ds : List Char) (all : ds.all Char.isDigit = true) :
        ∀ c ∈ ds, isNumeral c = true := fun c within => by
      simp [isNumeral, List.all_eq_true.mp all c within]
    have first : isNumeral letter = true := by
      rcases isLetter with rfl | rfl <;> decide
    simp only [Binary64.exponent?, Option.ite_none_right_eq_some] at part
    have others := digits _ part.1.2
    intro c within
    rcases List.mem_cons.mp within with rfl | within
    · exact first
    · simp only [Binary64.splitSign] at others
      split at others
      · rcases List.mem_cons.mp within with rfl | within
        · decide
        · exact others c within
      · rcases List.mem_cons.mp within with rfl | within
        · decide
        · exact others c within
      · exact others c within

theorem isNumeral_writes {cs : List Char} {digits : Nat} {exponent : Int}
    (writes : Writes cs digits exponent) : ∀ c ∈ cs, isNumeral c = true := by
  obtain ⟨whole, fraction, tail, tens, allWhole, -, allFraction, part, -, rfl, -, -⟩ := writes
  intro c within
  rcases List.mem_append.mp within with within | within
  · rcases List.mem_append.mp within with within | within
    · simp [isNumeral, allWhole c within]
    · simp only [pointed] at within
      split at within
      · cases within
      · rcases List.mem_cons.mp within with rfl | within
        · decide
        · simp [isNumeral, allFraction c within]
  · exact isNumeral_exponentPart part c within

theorem isNumeral_chars {x : Binary64} (layout : Layout) (finite : x.isFinite = true) :
    ∀ c ∈ layout.chars x, isNumeral c = true := by
  cases x with
  | nan => cases finite
  | infinite negative => cases finite
  | finite negative magnitude =>
    obtain ⟨digits, exponent, writes, -⟩ := writes_magnitudeChars layout negative magnitude.isLt
    intro c within
    cases negative with
    | false => exact isNumeral_writes writes c within
    | true =>
      rcases List.mem_cons.mp within with rfl | within
      · decide
      · exact isNumeral_writes writes c within

namespace Json

def Stops (rest : Input) : Prop :=
  ∀ c, rest.head? = some (some c) → isNumeral c = false

theorem Stops.closed {rest : Input} (stops : Stops rest) : Closed rest := by
  intro c front
  have other := stops c front
  simp only [isNumeral, Bool.or_eq_false_iff, beq_eq_false_iff_ne] at other
  exact ⟨other.1.1.1.1.1, other.1.1.1.1.2, other.1.1.1.2, other.1.1.2⟩

theorem stops_cons {c : Char} (other : isNumeral c = false) (rest : Input) :
    Stops (some c :: rest) := by
  intro d same
  cases same
  exact other

/-- Two values are one if their texts are, whatever follows each. -/
def Separate (j j' : Json) : Prop :=
  ∀ rest rest', Stops rest → Stops rest' → j.chars.map some ++ rest = j'.chars.map some ++ rest' →
    j = j' ∧ rest = rest'

theorem separate_plain {j j' : Json} (plain : Plain j) (plain' : Plain j') : Separate j j' := by
  intro rest rest' stops stops' same
  have read := reads_chars j plain (2 * j.chars.length + 2 * j'.chars.length) rest stops.closed
    (by omega)
  have read' := reads_chars j' plain' (2 * j.chars.length + 2 * j'.chars.length) rest'
    stops'.closed (by omega)
  rw [same] at read
  have found := Option.some.inj (read.symm.trans read')
  exact ⟨congrArg Prod.fst found, congrArg Prod.snd found⟩

theorem takeWhile_numeral {cs : List Char} {rest : Input} (all : ∀ c ∈ cs, isNumeral c = true)
    (stops : Stops rest) :
    (cs.map some ++ rest).takeWhile (fun c => c.any isNumeral) = cs.map some := by
  rw [List.takeWhile_append_of_pos (by simpa using all)]
  cases front : rest with
  | nil => simp
  | cons c others =>
    cases c with
    | none => simp
    | some c => simp [stops c (by simp [front])]

theorem numerals_eq {rest rest' : Input} {cs cs' : List Char} (all : ∀ c ∈ cs, isNumeral c = true)
    (all' : ∀ c ∈ cs', isNumeral c = true) (stops : Stops rest) (stops' : Stops rest')
    (same : cs.map some ++ rest = cs'.map some ++ rest') : cs = cs' ∧ rest = rest' := by
  have fronts := takeWhile_numeral all stops
  rw [same, takeWhile_numeral all' stops'] at fronts
  refine ⟨(List.map_injective_iff.mpr (Option.some_injective _) fronts).symm, ?_⟩
  rw [fronts] at same
  exact List.append_cancel_left same

theorem separate_ofNat (m n : Nat) : Separate (ofNat m) (ofNat n) := by
  intro rest rest' stops stops' same
  have all (k : Nat) : ∀ c ∈ Nat.toDigits 10 k, isNumeral c = true := fun c within => by
    simp [isNumeral, allDigits_toDigits k c within]
  rw [ofNat, ofNat, chars_whole, chars_whole] at same
  obtain ⟨digits, rests⟩ := numerals_eq (all m) (all n) stops stops' same
  have value := congrArg ofDigits digits
  rw [ofDigits_toDigits, ofDigits_toDigits] at value
  exact ⟨by rw [value], rests⟩

theorem separate_ofReal {x y : Binary64} (finite : x.isFinite = true)
    (finite' : y.isFinite = true) :
    Separate (ofReal x) (ofReal y) := by
  intro rest rest' stops stops' same
  simp only [ofReal, finite, finite', ↓reduceIte] at same ⊢
  obtain ⟨digits, rests⟩ := numerals_eq (isNumeral_chars numberLayout finite)
    (isNumeral_chars numberLayout finite') stops stops' same
  exact ⟨by rw [numberLayout.chars_inj finite finite' digits], rests⟩

theorem plain_ofTexts (items : List String) : Plain (ofTexts items) :=
  lawful_text.list.plain items

theorem separate_ofText (s t : String) : Separate (ofText s) (ofText t) :=
  separate_plain rfl rfl

theorem separate_bool (a b : Bool) : Separate (.bool a) (.bool b) :=
  separate_plain trivial trivial

theorem separate_ofTexts (items items' : List String) :
    Separate (ofTexts items) (ofTexts items') :=
  separate_plain (plain_ofTexts items) (plain_ofTexts items')

def closing : List (String × Json) → List Char
  | [] => ['\x7d']
  | (key, value) :: rest => ',' :: (textChars key ++ ':' :: (value.chars ++ closing rest))

theorem chars_ofFields (key : String) (value : Json) (rest : List (String × Json)) :
    (ofFields ((key, value) :: rest)).chars =
      '\x7b' :: (textChars key ++ ':' :: (value.chars ++ closing rest)) := by
  induction rest generalizing key value with
  | nil => simp [ofFields, chars, membersChars, separated, closing]
  | cons member rest ih =>
    have others := ih member.1 member.2
    simp only [ofFields, chars, List.map_cons, membersChars, separated, Option.getD_some,
      List.append_assoc, List.cons_append, List.nil_append, closing, List.cons.injEq,
      true_and] at others ⊢
    rw [others]

theorem stops_closing (members : List (String × Json)) (rest : Input) :
    Stops ((closing members).map some ++ rest) := by
  cases members with
  | nil => exact stops_cons (by decide) _
  | cons member members => exact stops_cons (by decide) _

theorem closing_eq {rest rest' : Input} {members members' : List (String × Json)}
    (fields : List.Forall₂ (fun f g => f.1 = g.1 ∧ Separate f.2 g.2) members members')
    (same : (closing members).map some ++ rest = (closing members').map some ++ rest') :
    members = members' ∧ rest = rest' := by
  induction fields with
  | nil => simpa [closing] using same
  | @cons f g members members' field _ ih =>
    obtain ⟨key, value⟩ := f
    obtain ⟨key', value'⟩ := g
    obtain ⟨rfl, separate⟩ := field
    simp only [closing, List.map_cons, List.map_append, List.cons_append, List.append_assoc,
      List.cons.injEq, true_and] at same
    have values := (List.cons.inj (List.append_cancel_left same)).2
    obtain ⟨rfl, rests⟩ :=
      separate _ _ (stops_closing members rest) (stops_closing members' rest') values
    obtain ⟨rfl, rfl⟩ := ih rests
    exact ⟨rfl, rfl⟩

theorem ofFields_prefix {rest rest' : Input} {members members' : List (String × Json)}
    (fields : List.Forall₂ (fun f g => f.1 = g.1 ∧ Separate f.2 g.2) members members')
    (same : (ofFields members).chars.map some ++ rest = (ofFields members').chars.map some ++ rest') :
    members = members' ∧ rest = rest' := by
  cases fields with
  | nil => simpa [ofFields, chars] using same
  | @cons f g members members' field others =>
    rw [chars_ofFields f.1 f.2 members, chars_ofFields g.1 g.2 members'] at same
    have behind : (closing (f :: members)).map some ++ rest =
        (closing (g :: members')).map some ++ rest' := by
      simpa [closing] using (List.cons.inj same).2
    exact closing_eq (.cons field others) behind

theorem separate_ofFields {members members' : List (String × Json)}
    (fields : List.Forall₂ (fun f g => f.1 = g.1 ∧ Separate f.2 g.2) members members') :
    Separate (ofFields members) (ofFields members') := by
  intro rest rest' _ _ same
  obtain ⟨whole, rests⟩ := ofFields_prefix fields same
  exact ⟨by rw [whole], rests⟩

end Json
end CallChart
