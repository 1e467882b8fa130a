import CallChart.Json.Reader
import CallChart.Json.Shape
import CallChart.Proofs.Number.Digits
import CallChart.Proofs.Text.Utf8
import Mathlib.Algebra.Group.Int.Defs
import Mathlib.Data.List.DropRight

namespace CallChart.Json

theorem hexUnit?_control : ∀ n < 32,
    hexUnit? (some '0') (some '0') (some (hexDigit (n / 16))) (some (hexDigit (n % 16))) = some n := by
  decide

theorem joined?_unit {c : Char} (low : c.toNat < 0xD800) (others : List Piece) :
    joined? (.unit c.toNat :: others) = (joined? others).map (c :: ·) := by
  have alone : ¬ (0xD800 ≤ c.toNat ∧ c.toNat ≤ 0xDFFF) := by omega
  have notHigh : ¬ (0xD800 ≤ c.toNat ∧ c.toNat ≤ 0xDBFF) := by omega
  have notLow : ¬ (0xDC00 ≤ c.toNat ∧ c.toNat ≤ 0xDFFF) := by omega
  cases others with
  | nil =>
    simp only [joined?, alone, ↓reduceIte, Char.ofNat_toNat]
    rfl
  | cons piece others =>
    cases piece with
    | plain d =>
      simp only [joined?, alone, ↓reduceIte, Char.ofNat_toNat]
      cases d with
      | none => rfl
      | some d => cases joined? others <;> rfl
    | unit m =>
      simp only [joined?, notHigh, notLow, ↓reduceIte, Char.ofNat_toNat]
      cases joined? (.unit m :: others) <;> rfl

theorem pieces?_escapedChar (c : Char) : ∃ piece,
    (∀ rest, pieces? ((escapedChar c).map some ++ rest) =
      (pieces? rest).map fun found => (piece :: found.1, found.2)) ∧
    ∀ others, joined? (piece :: others) = (joined? others).map (c :: ·) := by
  have plain (d : Char) (others : List Piece) :
      joined? (.plain (some d) :: others) = (joined? others).map (d :: ·) := by
    simp only [joined?, Option.bind_eq_bind, Option.bind_some]
    cases joined? others <;> rfl
  unfold escapedChar
  split
  · refine ⟨.plain (some '"'), fun rest => ?_, plain _⟩
    cases found : pieces? rest <;> simp [pieces?, escaped?, found]
  · refine ⟨.plain (some '\\'), fun rest => ?_, plain _⟩
    cases found : pieces? rest <;> simp [pieces?, escaped?, found]
  · refine ⟨.plain (some '\x08'), fun rest => ?_, plain _⟩
    cases found : pieces? rest <;> simp [pieces?, escaped?, found]
  · refine ⟨.plain (some '\x0C'), fun rest => ?_, plain _⟩
    cases found : pieces? rest <;> simp [pieces?, escaped?, found]
  · refine ⟨.plain (some '\n'), fun rest => ?_, plain _⟩
    cases found : pieces? rest <;> simp [pieces?, escaped?, found]
  · refine ⟨.plain (some '\r'), fun rest => ?_, plain _⟩
    cases found : pieces? rest <;> simp [pieces?, escaped?, found]
  · refine ⟨.plain (some '\t'), fun rest => ?_, plain _⟩
    cases found : pieces? rest <;> simp [pieces?, escaped?, found]
  · rename_i quote backslash _ _ _ _ _
    split
    · rename_i control
      refine ⟨.unit c.toNat, fun rest => ?_, joined?_unit (by omega)⟩
      simp only [List.map_cons, List.map_nil, List.cons_append, List.nil_append, pieces?,
        hexUnit?_control c.toNat control]
      cases pieces? rest <;> rfl
    · rename_i visible
      refine ⟨.plain (some c), fun rest => ?_, plain _⟩
      simp only [List.map_cons, List.map_nil, List.cons_append, List.nil_append]
      rw [pieces?.eq_def]
      split
      · simp_all
      · simp_all
      · simp_all
      · simp_all
      · simp_all
      · rename_i same
        cases same
        rw [if_neg visible]
        cases pieces? rest <;> rfl
      · simp_all

theorem pieces?_text (cs : List Char) (rest : Input) : ∃ pieces,
    pieces? ((cs.flatMap escapedChar).map some ++ some '"' :: rest) = some (pieces, rest) ∧
      joined? pieces = some cs := by
  induction cs with
  | nil => exact ⟨[], by simp [pieces?], rfl⟩
  | cons c cs ih =>
    obtain ⟨pieces, found, joined⟩ := ih
    obtain ⟨piece, first, whole⟩ := pieces?_escapedChar c
    refine ⟨piece :: pieces, ?_, by rw [whole, joined]; rfl⟩
    rw [List.flatMap_cons, List.map_append, List.append_assoc, first, found]
    rfl

theorem text?_textChars (s : String) (rest : Input) :
    text? ((s.toList.flatMap escapedChar ++ ['"']).map some ++ rest) = some (some s, rest) := by
  obtain ⟨pieces, found, joined⟩ := pieces?_text s.toList rest
  simp [text?, found, joined]

def Closed (rest : Input) : Prop :=
  ∀ c, rest.head? = some (some c) → c.isDigit = false ∧ c ≠ '.' ∧ c ≠ 'e' ∧ c ≠ 'E'

theorem Closed.digits {rest : Input} (closed : Closed rest) (c : Char)
    (front : rest.head? = some (some c)) :
    c.isDigit = false :=
  (closed c front).1

theorem digits_digits {rest : Input} {ds : List Char} (digits_ : AllDigits ds)
    (ends : ∀ c, rest.head? = some (some c) → c.isDigit = false) :
    digits (ds.map some ++ rest) = (ds, rest) := by
  induction ds with
  | nil =>
    cases rest with
    | nil => rfl
    | cons c rest =>
      cases c with
      | none => rfl
      | some c => simp [digits, ends c rfl]
  | cons d ds ih =>
    have first := digits_ d List.mem_cons_self
    have others := ih fun c within => digits_ c (List.mem_cons_of_mem _ within)
    simp [digits, first, others]

theorem fraction?_closed {rest : Input} (closed : Closed rest) :
    fraction? rest = some ([], rest) := by
  unfold fraction?
  split
  · exact ((closed '.' rfl).2.1 rfl).elim
  · rfl

theorem exponent?_closed {rest : Input} (closed : Closed rest) :
    exponent? rest = some (none, rest) := by
  unfold exponent?
  split
  · rename_i c rest
    obtain ⟨-, -, small, large⟩ := closed c rfl
    simp [small, large]
  · rfl

theorem absorb_digits (ds : List Char) (significand : Nat)
    (small : Nat.ofDigitChars 10 ds significand < 2 ^ 64) :
    absorb significand ds = (Nat.ofDigitChars 10 ds significand, 0) := by
  induction ds generalizing significand with
  | nil => simp [absorb]
  | cons d ds ih =>
    rw [Nat.ofDigitChars_cons, Nat.mul_comm] at small ⊢
    have below : significand * 10 + (d.toNat - '0'.toNat) < 2 ^ 64 := by
      rw [Nat.ofDigitChars_eq_ofDigitChars_zero] at small
      have grows := Nat.le_mul_of_pos_left (significand * 10 + (d.toNat - '0'.toNat))
        (Nat.pow_pos (n := ds.length) (show 0 < 10 by omega))
      omega
    simp only [absorb]
    rw [if_pos (show _ < Nat.pow 2 64 from below)]
    exact ih _ small

theorem number?_toDigits {rest : Input} {n : Nat} (small : n < 2 ^ 64) (closed : Closed rest) :
    number? false ((Nat.toDigits 10 n).map some ++ rest) =
      some (.number (some (.whole n)), rest) := by
  have zero : ¬ (Nat.toDigits 10 n = [] ∨ ((Nat.toDigits 10 n).head? = some '0' ∧
      (Nat.toDigits 10 n).length ≠ 1)) := by
    rintro (none_ | ⟨zero, longer⟩)
    · exact Nat.toDigits_ne_nil none_
    · exact longer (toDigits_lone_zero zero)
  have value : absorb 0 (Nat.toDigits 10 n) = (n, 0) := by
    rw [absorb_digits _ _ (by rwa [Nat.ofDigitChars_ten_toDigits]), Nat.ofDigitChars_ten_toDigits]
  simp only [number?, numeral?, digits_digits (allDigits_toDigits n) closed.digits, if_neg zero,
    fraction?_closed closed, exponent?_closed closed, Option.bind_eq_bind, Option.bind_some,
    Option.pure_def, Numeral.value?, value]
  rfl

mutual

/-- Documents in which every leaf denotes something and every number is a natural one of 64
bits. -/
def Plain : Json → Prop
  | .number (some (.whole n)) => 0 ≤ n ∧ n < 2 ^ 64
  | .number _ => False
  | .text s => s.isSome = true
  | .array items => PlainItems items
  | .object members => PlainMembers members
  | _ => True

def PlainItems : List Json → Prop
  | [] => True
  | item :: rest => Plain item ∧ PlainItems rest

def PlainMembers : List (Option String × Json) → Prop
  | [] => True
  | (key, value) :: rest => key.isSome = true ∧ Plain value ∧ PlainMembers rest

end

def line (indent between : List Char) (member : Option String × Json) : List Char :=
  indent ++ textChars (member.1.getD "") ++ ':' :: (between ++ member.2.chars)

theorem membersChars_eq (members : List (Option String × Json)) :
    membersChars members = members.map (line [] []) := by
  induction members with
  | nil => rfl
  | cons member rest ih =>
    obtain ⟨key, value⟩ := member
    simp [membersChars, line, ih]

def Spaces (cs : List Char) : Prop :=
  ∀ c ∈ cs, isSpace (some c) = true

theorem skipSpace_spaces {cs : List Char} (spaces : Spaces cs) (rest : Input) :
    skipSpace (cs.map some ++ rest) = skipSpace rest := by
  induction cs with
  | nil => rfl
  | cons c cs ih =>
    have first := spaces c List.mem_cons_self
    simpa [skipSpace, first] using ih fun d within => spaces d (List.mem_cons_of_mem _ within)

theorem value?_digit {d : Char} (digit : d.isDigit = true) (fuel : Nat) (rest : Input) :
    value? (fuel + 1) (some d :: rest) = number? false (some d :: rest) := by
  have apart (c : Char) (other : c.isDigit = false) : d ≠ c := by
    rintro rfl
    simp [digit] at other
  have solid : skipSpace (some d :: rest) = some d :: rest := by
    simp [skipSpace, isSpace, apart]
  simp only [value?, solid]
  split
  all_goals
    first
      | rfl
      | rename_i same
        cases same
        simp at digit

theorem value?_spaces {cs : List Char} (spaces : Spaces cs) (fuel : Nat) (rest : Input) :
    value? fuel (cs.map some ++ rest) = value? fuel rest := by
  cases fuel with
  | zero => rfl
  | succ fuel => simp only [value?, skipSpace_spaces spaces]

theorem skipSpace_cons {c : Char} (black : isSpace (some c) = false) (rest : Input) :
    skipSpace (some c :: rest) = some c :: rest := by
  simp [skipSpace, black]

theorem closed_cons {c : Char} (ends : c.isDigit = false ∧ c ≠ '.' ∧ c ≠ 'e' ∧ c ≠ 'E')
    (rest : Input) : Closed (some c :: rest) := by
  intro d same
  cases same
  exact ends

theorem closed_spaces {rest : Input} {cs : List Char} (spaces : Spaces cs) (closed : Closed rest) :
    Closed (cs.map some ++ rest) := by
  cases cs with
  | nil => exact closed
  | cons c cs =>
    have space := spaces c List.mem_cons_self
    simp only [isSpace, Bool.or_eq_true, beq_iff_eq] at space
    apply closed_cons
    rcases space with ((rfl | rfl) | rfl) | rfl <;> decide

theorem skipSpace_skipSpace (input : Input) : skipSpace (skipSpace input) = skipSpace input :=
  List.dropWhile_idempotent _ input

theorem value?_skipSpace (fuel : Nat) (input : Input) :
    value? fuel (skipSpace input) = value? fuel input := by
  cases fuel with
  | zero => rfl
  | succ fuel => simp only [value?, skipSpace_skipSpace]

theorem items?_skipSpace (fuel : Nat) (input : Input) :
    items? fuel (skipSpace input) = items? fuel input := by
  cases fuel with
  | zero => rfl
  | succ fuel => simp only [items?, value?_skipSpace]

theorem members?_skipSpace (fuel : Nat) (input : Input) :
    members? fuel (skipSpace input) = members? fuel input := by
  cases fuel with
  | zero => rfl
  | succ fuel => simp only [members?, skipSpace_skipSpace]

theorem value?_object {rest : Input} {fuel : Nat} {input : Input}
    {members : List (Option String × Json)} (read : members? fuel input = some (members, rest)) :
    value? (fuel + 1) (some '\x7b' :: input) = some (.object members, rest) := by
  rw [← members?_skipSpace] at read
  simp only [value?, skipSpace_cons (show isSpace (some '\x7b') = false from rfl)]
  split
  · rename_i closed
    rw [closed] at read
    cases fuel with
    | zero => simp [members?] at read
    | succ fuel => simp [members?, skipSpace, isSpace] at read
  · rw [read]
    rfl

theorem value?_array {rest : Input} {fuel : Nat} {input : Input} {items : List Json}
    (read : items? fuel input = some (items, rest)) :
    value? (fuel + 1) (some '[' :: input) = some (.array items, rest) := by
  rw [← items?_skipSpace] at read
  simp only [value?, skipSpace_cons (show isSpace (some '[') = false from rfl)]
  split
  · rename_i closed
    rw [closed] at read
    rcases fuel with _ | _ | fuel
    · simp [items?] at read
    · simp [items?, value?] at read
    · simp [items?, value?, skipSpace, isSpace, number?, numeral?, digits] at read
  · rw [read]
    rfl

theorem chars_whole (n : Nat) :
    (Json.number (some (.whole (n : Int)))).chars = Nat.toDigits 10 n := by
  simp only [chars, Number.chars]
  exact Nat.toList_repr

/-- A text is read as a value, with whatever behind it that continues no number. -/
def Reads (cs : List Char) (j : Json) : Prop :=
  ∀ fuel rest, Closed rest → 2 * cs.length ≤ fuel →
    value? fuel (cs.map some ++ rest) = some (j, rest)

theorem reads_of_succ {cs : List Char} {j : Json} (filled : cs ≠ [])
    (read : ∀ fuel rest, Closed rest → 2 * cs.length ≤ fuel + 1 →
      value? (fuel + 1) (cs.map some ++ rest) = some (j, rest)) : Reads cs j := by
  intro fuel rest closed enough
  have some_ := List.length_pos_iff.mpr filled
  cases fuel with
  | zero => omega
  | succ fuel => exact read fuel rest closed enough

theorem reads_number {cs : List Char} {n : Option Number}
    (front : ∀ c ∈ cs.head?, c.isDigit = true)
    (read : ∀ rest, Closed rest → number? false (cs.map some ++ rest) = some (.number n, rest)) :
    Reads cs (.number n) := by
  cases cs with
  | nil => exact absurd (read [] nofun) (by simp [number?, numeral?, digits])
  | cons d ds =>
    refine reads_of_succ (by simp) fun fuel rest closed _ => ?_
    exact (value?_digit (front d rfl) fuel _).trans (read rest closed)

theorem reads_text (s : String) : Reads (textChars s) (.text (some s)) := by
  refine reads_of_succ (by simp [textChars]) fun fuel rest _ _ => ?_
  simp only [textChars, List.map_cons, List.cons_append, value?,
    skipSpace_cons (show isSpace (some '"') = false from rfl), text?_textChars s rest]
  rfl

theorem items?_reads {pieces : List (List Char)} {items : List Json}
    (reads : List.Forall₂ Reads pieces items) (filled : items ≠ []) (fuel : Nat) (rest : Input)
    (enough : 2 * (separated [','] pieces).length + 1 ≤ fuel) :
    items? fuel ((separated [','] pieces).map some ++ some ']' :: rest) = some (items, rest) := by
  induction reads generalizing fuel with
  | nil => exact (filled rfl).elim
  | @cons piece item pieces items first others ih =>
    obtain ⟨fuel, rfl⟩ : ∃ less, fuel = less + 1 := ⟨fuel - 1, by omega⟩
    cases others with
    | nil =>
      simp only [separated] at enough ⊢
      have read := first fuel (some ']' :: rest) (closed_cons (by decide) rest) (by omega)
      simp only [items?, read, Option.bind_eq_bind, Option.bind_some,
        skipSpace_cons (show isSpace (some ']') = false from rfl)]
      rfl
    | cons second others =>
      simp only [separated, List.length_append, List.length_cons, List.map_append, List.map_cons,
        List.append_assoc, List.cons_append, List.nil_append] at enough ⊢
      have read (more : Input) :=
        first fuel (some ',' :: more) (closed_cons (by decide) more) (by omega)
      have reads := ih (by simp) fuel (by omega)
      simp only [items?, read, Option.bind_eq_bind, Option.bind_some,
        skipSpace_cons (show isSpace (some ',') = false from rfl), reads]
      rfl

theorem reads_array {pieces : List (List Char)} {items : List Json}
    (reads : List.Forall₂ Reads pieces items) :
    Reads ('[' :: separated [','] pieces ++ [']']) (.array items) := by
  refine reads_of_succ (by simp) fun fuel rest _ enough => ?_
  cases reads with
  | nil => rfl
  | cons first others =>
    have read := items?_reads (.cons first others) (by simp) fuel rest (by
      simp only [List.length_append, List.length_cons, List.length_nil] at enough
      omega)
    simpa using value?_array read

/-- A line is read as a member, with space in front and after the colon. -/
def ReadsLine (indent between cs : List Char) (member : Option String × Json) : Prop :=
  ∃ key value, cs = indent ++ textChars key ++ ':' :: (between ++ value) ∧
    member.1 = some key ∧ Reads value member.2

theorem members?_reads {indent between gap tail : List Char} (indentSpaces : Spaces indent)
    (betweenSpaces : Spaces between) (gapSpaces : Spaces gap) (tailSpaces : Spaces tail)
    {lines : List (List Char)} {members : List (Option String × Json)}
    (reads : List.Forall₂ (ReadsLine indent between) lines members) (filled : members ≠ [])
    (fuel : Nat) (rest : Input) (enough : 2 * (separated (',' :: gap) lines).length + 1 ≤ fuel) :
    members? fuel (gap.map some ++ ((separated (',' :: gap) lines).map some ++
      (tail.map some ++ some '\x7d' :: rest))) = some (members, rest) := by
  induction reads generalizing fuel with
  | nil => exact (filled rfl).elim
  | @cons cs member lines members first others ih =>
    obtain ⟨fuel, rfl⟩ : ∃ less, fuel = less + 1 := ⟨fuel - 1, by omega⟩
    obtain ⟨_, value⟩ := member
    obtain ⟨key, chars, rfl, rfl, first⟩ := first
    have keyed (more : Input) : text? ((key.toList.flatMap escapedChar).map some ++
        some '"' :: more) = some (some key, more) := by
      simpa using text?_textChars key more
    cases others with
    | nil =>
      have closed := closed_spaces tailSpaces (closed_cons (c := '\x7d') (by decide) rest)
      simp only [separated, List.length_append, List.length_cons] at enough
      have read := first fuel _ closed (by omega)
      simp only [separated, textChars, List.map_append, List.map_cons, List.append_assoc,
        List.cons_append, List.nil_append, members?, skipSpace_spaces gapSpaces,
        skipSpace_spaces indentSpaces, skipSpace_cons (show isSpace (some '"') = false from rfl),
        keyed, Option.bind_eq_bind, Option.bind_some,
        skipSpace_cons (show isSpace (some ':') = false from rfl), value?_spaces betweenSpaces, read,
        skipSpace_spaces tailSpaces, skipSpace_cons (show isSpace (some '\x7d') = false from rfl)]
      rfl
    | cons second others =>
      simp only [separated, List.length_append, List.length_cons] at enough ih
      have reads := ih (by simp) fuel (by omega)
      have read (more : Input) :=
        first fuel (some ',' :: more) (closed_cons (by decide) more) (by omega)
      simp only [separated, textChars, List.map_append, List.map_cons, List.append_assoc,
        List.cons_append, List.nil_append] at reads ⊢
      simp only [members?, skipSpace_spaces gapSpaces, skipSpace_spaces indentSpaces,
        skipSpace_cons (show isSpace (some '"') = false from rfl), keyed, Option.bind_eq_bind,
        Option.bind_some, skipSpace_cons (show isSpace (some ':') = false from rfl),
        value?_spaces betweenSpaces, read, skipSpace_cons (show isSpace (some ',') = false from rfl),
        reads]
      rfl

theorem reads_object {lines : List (List Char)} {members : List (Option String × Json)}
    (reads : List.Forall₂ (ReadsLine [] []) lines members) :
    Reads ('\x7b' :: separated [','] lines ++ ['\x7d']) (.object members) := by
  refine reads_of_succ (by simp) fun fuel rest _ enough => ?_
  cases reads with
  | nil => rfl
  | cons first others =>
    have none_ : Spaces [] := by simp [Spaces]
    have read := members?_reads none_ none_ none_ none_ (.cons first others) (by simp) fuel rest (by
      simp only [List.length_append, List.length_cons, List.length_nil] at enough
      omega)
    simpa using value?_object read

mutual

theorem reads_chars : ∀ j : Json, Plain j → Reads j.chars j
  | .null, _ => reads_of_succ (by simp [chars]) fun _ _ _ _ => rfl
  | .bool true, _ => reads_of_succ (by simp [chars, toString]) fun _ _ _ _ => rfl
  | .bool false, _ => reads_of_succ (by simp [chars, toString]) fun _ _ _ _ => rfl
  | .number none, plain => plain.elim
  | .number (some (.real x)), plain => plain.elim
  | .number (some (.whole n)), plain => by
    obtain ⟨positive, small⟩ := plain
    obtain ⟨m, rfl⟩ := Int.eq_ofNat_of_zero_le positive
    rw [chars_whole]
    refine reads_number (fun c front => ?_) fun rest closed => number?_toDigits (by omega) closed
    exact allDigits_toDigits m c (List.mem_of_mem_head? front)
  | .text none, plain => by simp [Plain] at plain
  | .text (some s), _ => reads_text s
  | .array items, plain => reads_array (reads_itemsChars items plain)
  | .object members, plain => by
    rw [chars, membersChars_eq]
    exact reads_object (reads_lines [] [] members plain)

theorem reads_itemsChars : ∀ items : List Json, PlainItems items →
    List.Forall₂ Reads (itemsChars items) items
  | [], _ => .nil
  | item :: items, plain => .cons (reads_chars item plain.1) (reads_itemsChars items plain.2)

theorem reads_lines (indent between : List Char) : ∀ members : List (Option String × Json),
    PlainMembers members →
      List.Forall₂ (ReadsLine indent between) (members.map (line indent between)) members
  | [], _ => .nil
  | (none, _) :: _, plain => by simp [PlainMembers] at plain
  | (some key, value) :: members, plain =>
    .cons ⟨key, value.chars, rfl, rfl, reads_chars value plain.2.1⟩
      (reads_lines indent between members plain.2.2)

end

theorem closed_nil : Closed [] := nofun

theorem Reads.parse? {cs : List Char} {j : Json} (reads : Reads cs j) :
    Json.parse? (String.ofList cs) = some j := by
  have read := reads (2 * (cs.map some).length + 2) [] closed_nil (by simp)
  simp only [List.append_nil] at read
  simp only [Json.parse?, String.toList_ofList, parseInput?, read]
  rfl

theorem parse?_compact {j : Json} (plain : Plain j) : parse? j.compact = some j :=
  (reads_chars j plain).parse?

theorem toList_spread (members : List (String × Json)) :
    (spread members).toList = '\x7b' :: '\n' :: (separated [',', '\n']
      ((members.map fun member => (some member.1, member.2)).map (line [' ', ' '] [' '])) ++
        ['\n', '\x7d']) := by
  simp [spread, line, Function.comp_def]

theorem parseBytes?_spread {members : List (String × Json)} (filled : members ≠ [])
    (plain : Plain (ofFields members)) :
    parseBytes? (Utf8.encode (spread members)) = some (ofFields members) := by
  obtain ⟨keyed, object, some_keyed, form⟩ : ∃ keyed, ofFields members = .object keyed ∧
      keyed ≠ [] ∧ (spread members).toList = '\x7b' :: '\n' ::
        (separated [',', '\n'] (keyed.map (line [' ', ' '] [' '])) ++ ['\n', '\x7d']) := by
    exact ⟨_, rfl, by simpa using filled, toList_spread members⟩
  rw [object] at plain ⊢
  have lines := reads_lines [' ', ' '] [' '] keyed plain
  have indent : Spaces [' ', ' '] := by simp [Spaces, isSpace]
  have between : Spaces [' '] := by simp [Spaces, isSpace]
  have newline : Spaces ['\n'] := by simp [Spaces, isSpace]
  have read := members?_reads indent between newline newline lines some_keyed
    (2 * ((spread members).toList.map some).length + 1) [] (by
      simp only [form, List.length_map, List.length_cons, List.length_append]
      omega)
  have whole := value?_object read
  simp only [List.map_cons, List.map_nil, List.cons_append, List.nil_append] at whole
  rw [parseBytes?, Utf8.scanned_encode, parseInput?]
  simp only [form, List.map_cons, List.map_append, List.map_nil] at whole ⊢
  rw [whole]
  simp [skipSpace]

/-- What is written is plain, and is read as what it was written for. -/
structure Lawful {α : Type} (write : α → Json) (read : Json → Result α) : Prop where
  plain (a : α) : Plain (write a)
  read_write (a : α) : read (write a) = .ok a

theorem lawful_text : Lawful ofText readText where
  plain _ := rfl
  read_write _ := rfl

theorem lawful_bool : Lawful .bool readBool where
  plain _ := trivial
  read_write _ := rfl

theorem Lawful.list {α : Type} {write : α → Json} {read : Json → Result α}
    (lawful : Lawful write read) :
    Lawful (fun items => .array (items.map write)) (readList read) where
  plain items := by
    suffices PlainItems (items.map write) from this
    induction items with
    | nil => trivial
    | cons item items ih => exact ⟨lawful.plain item, ih⟩
  read_write items := by
    rw [readList]
    induction items with
    | nil => rfl
    | cons item items ih =>
      rw [List.map_cons, readItems, lawful.read_write, ih]
      rfl

namespace Shape

theorem readMembers_cons {α : Type} {shape : Shape α} {origin : Origin} {seen : List String}
    {record : α} {key : String} {value : Json} {members : List (Option String × Json)}
    {field : Field α} {set : α → α} {outcome : Result (List String × α)}
    (found : shape.fields.find? (·.name = key) = some field) (first : seen.contains key = false)
    (read : field.read origin value = .ok set)
    (others : shape.readMembers origin (key :: seen) (set record) members = outcome) :
    shape.readMembers origin seen record ((some key, value) :: members) = outcome := by
  simp only [readMembers, found, first, read]
  exact others

theorem read_object {α : Type} {shape : Shape α} {origin : Origin} {record : α}
    {members : List (Option String × Json)} {seen : List String}
    (members_ : shape.readMembers origin [] shape.blank members = .ok (seen, record))
    (complete : (shape.fields.find? fun field => field.required && !seen.contains field.name) =
      none) : shape.read origin (.object members) = .ok record := by
  simp only [read, members_, bind, Except.bind, complete]
  rfl

end Shape

theorem readDocument_ok {α : Type} {shape : Shape α} {j : Json} {record : α}
    (read : shape.read .document j = .ok record) : readDocument shape (some j) = .ok record := by
  simp only [readDocument, read]

theorem readCount_ofNat {n : Nat} (small : n < 2 ^ 32) :
    readCount (.ofNat n) = .ok n := by
  simp only [readCount, ofNat]
  rw [if_pos ⟨by omega, by exact_mod_cast small⟩]
  rfl

end CallChart.Json
