import CallChart.Dot.Document
import Mathlib.Tactic.Common

namespace CallChart.Dot

inductive Written : Char → List Char → Prop where
  | quote : Written '"' ['\\', '"']
  | backslash : Written '\\' ['\\', '\\']
  | newline : Written '\n' ['\\', 'n']
  | carriage : Written '\r' []
  | plain {c : Char} : c ≠ '"' → c ≠ '\\' → c ≠ '\n' → c ≠ '\r' → Written c [c]

theorem written_literalChar (c : Char) : Written c (literalChar c) := by
  unfold literalChar
  split
  · exact .quote
  · exact .backslash
  · exact .newline
  · exact .carriage
  · exact .plain ‹_› ‹_› ‹_› ‹_›

inductive Reader where
  | outside
  | inside (backslashes : Nat)
  deriving DecidableEq, Repr

namespace Reader

def next : Reader → Char → Reader
  | outside, c => if c = '"' then inside 0 else outside
  | inside backslashes, c =>
    if c = '"' ∧ backslashes % 2 = 0 then outside
    else if c = '\\' then inside (backslashes + 1)
    else inside 0

def after (r : Reader) (cs : List Char) : Reader :=
  cs.foldl next r

def bare : Reader → List Char → List Char
  | _, [] => []
  | outside, c :: rest => if c = '"' then bare (inside 0) rest else c :: bare outside rest
  | inside backslashes, c :: rest => bare ((inside backslashes).next c) rest

theorem after_append (r : Reader) (cs ds : List Char) :
    r.after (cs ++ ds) = (r.after cs).after ds :=
  List.foldl_append

theorem bare_append (r : Reader) (cs ds : List Char) :
    r.bare (cs ++ ds) = r.bare cs ++ (r.after cs).bare ds := by
  induction cs generalizing r with
  | nil => cases r <;> rfl
  | cons c cs ih =>
    cases r with
    | outside =>
      simp only [List.cons_append, bare, after, List.foldl_cons, next]
      split
      · exact ih _
      · exact congrArg (c :: ·) (ih _)
    | inside n => exact ih _

theorem after_outside {cs : List Char} (free : '"' ∉ cs) : outside.after cs = outside := by
  induction cs with
  | nil => rfl
  | cons c cs ih =>
    simp only [List.mem_cons, not_or] at free
    simp only [after, List.foldl_cons, next, if_neg (Ne.symm free.1)]
    exact ih free.2

theorem bare_outside {cs : List Char} (free : '"' ∉ cs) : outside.bare cs = cs := by
  induction cs with
  | nil => rfl
  | cons c cs ih =>
    simp only [List.mem_cons, not_or] at free
    rw [bare, if_neg (Ne.symm free.1), ih free.2]

def Open (r : Reader) : Prop :=
  ∃ backslashes, r = inside backslashes ∧ backslashes % 2 = 0

theorem Open.written {r : Reader} {c : Char} {cs : List Char} (opened : r.Open)
    (char : Written c cs) : (r.after cs).Open ∧ r.bare cs = [] := by
  obtain ⟨n, rfl, even⟩ := opened
  -- Behind an even number of backslashes, one more hides a quote and two more hide nothing.
  have odd : (n + 1) % 2 ≠ 0 := by omega
  cases char with
  | quote => exact ⟨⟨0, by simp [after, next, odd], rfl⟩, by simp [bare, next]⟩
  | backslash => exact ⟨⟨n + 2, by simp [after, next], by omega⟩, by simp [bare, next]⟩
  | newline => exact ⟨⟨0, by simp [after, next], rfl⟩, by simp [bare, next]⟩
  | carriage => exact ⟨⟨n, rfl, even⟩, rfl⟩
  | plain quote backslash =>
    exact ⟨⟨0, by simp [after, next, quote, backslash], rfl⟩, by simp [bare]⟩

theorem Open.body {r : Reader} (opened : r.Open) (cs : List Char) :
    (r.after (cs.flatMap literalChar)).Open ∧ r.bare (cs.flatMap literalChar) = [] := by
  induction cs generalizing r with
  | nil =>
    obtain ⟨n, rfl, even⟩ := opened
    exact ⟨⟨n, rfl, even⟩, rfl⟩
  | cons c cs ih =>
    obtain ⟨stays, hidden⟩ := opened.written (written_literalChar c)
    obtain ⟨opened, rest⟩ := ih stays
    rw [List.flatMap_cons, after_append, bare_append, hidden, rest]
    exact ⟨opened, rfl⟩

theorem Open.close {r : Reader} (opened : r.Open) : r.after ['"'] = outside ∧ r.bare ['"'] = [] := by
  obtain ⟨n, rfl, even⟩ := opened
  simp [after, bare, next, even]

theorem after_literal (s : String) : outside.after (literal s) = outside := by
  have opened : (inside 0).Open := ⟨0, rfl, rfl⟩
  have closed := (opened.body s.toList).1.close.1
  rw [← after_append] at closed
  exact closed

theorem bare_literal (s : String) : outside.bare (literal s) = [] := by
  have opened : (inside 0).Open := ⟨0, rfl, rfl⟩
  obtain ⟨stays, hidden⟩ := opened.body s.toList
  have whole := bare_append (inside 0) (s.toList.flatMap literalChar) ['"']
  rw [hidden, stays.close.2] at whole
  exact whole

end Reader

theorem Written.newline_not_mem {c : Char} {cs : List Char} (char : Written c cs) : '\n' ∉ cs := by
  cases char with
  | plain _ _ newline => simpa using Ne.symm newline
  | _ => simp

theorem newline_not_mem_literal (s : String) : '\n' ∉ literal s := by
  have body : '\n' ∉ s.toList.flatMap literalChar := by
    intro within
    obtain ⟨c, -, inside⟩ := List.mem_flatMap.mp within
    exact (written_literalChar c).newline_not_mem inside
  simp [literal, body]

def withoutReturns (s : String) : List Char :=
  s.toList.filter (· ≠ '\r')

def escaped? : Char → Option Char
  | '"' => some '"'
  | '\\' => some '\\'
  | 'n' => some '\n'
  | _ => none

/-- The text that a literal's body stands for, if its escapes are those of quotes, backslashes and line
breaks. -/
def unescape? : List Char → Option (List Char)
  | '\\' :: c :: rest => (escaped? c).bind fun c => (unescape? rest).map (c :: ·)
  | ['\\'] => none
  | c :: rest => (unescape? rest).map (c :: ·)
  | [] => some []

theorem Written.unescape?_append {c : Char} {cs : List Char} (char : Written c cs)
    (rest : List Char) :
    unescape? (cs ++ rest) = (unescape? rest).map ([c].filter (· ≠ '\r') ++ ·) := by
  cases char with
  | plain _ backslash _ carriage =>
    rw [List.singleton_append, unescape?]
    · simp [carriage]
    · exact fun _ _ same _ => backslash same
    · exact fun same _ => backslash same
  | carriage => simp
  | _ => simp [unescape?, escaped?]

theorem unescape?_body (cs : List Char) :
    unescape? (cs.flatMap literalChar) = some (cs.filter (· ≠ '\r')) := by
  induction cs with
  | nil => rfl
  | cons c cs ih =>
    rw [List.flatMap_cons, (written_literalChar c).unescape?_append, ih, Option.map_some,
      ← List.filter_append, List.singleton_append]

theorem unescape_of_unescape? {cs value : List Char} (read : unescape? cs = some value) :
    unescape cs = value := by
  induction cs using unescape?.induct generalizing value with
  | case1 c rest ih =>
    simp only [unescape?, Option.bind_eq_some_iff, Option.map_eq_some_iff] at read
    obtain ⟨d, known, others, inner, rfl⟩ := read
    have tail := ih inner
    unfold escaped? at known
    split at known
    all_goals cases known
    all_goals simp [unescape, tail]
  | case2 => cases read
  | case3 c rest notEscape notEnd ih =>
    rw [unescape?] at read
    · obtain ⟨others, inner, rfl⟩ := Option.map_eq_some_iff.mp read
      rw [unescape, ih inner]
      · exact fun more same others => notEscape 'n' more same others
      · exact notEscape
    · exact notEscape
    · exact notEnd
  | case4 =>
    obtain rfl := Option.some.inj read
    rfl

theorem unescape_body (cs : List Char) :
    unescape (cs.flatMap literalChar) = cs.filter (· ≠ '\r') :=
  unescape_of_unescape? (unescape?_body cs)

theorem literal_eq_iff {s t : String} :
    literal s = literal t ↔ withoutReturns s = withoutReturns t := by
  constructor
  · intro same
    have bodies := List.append_cancel_right (List.tail_eq_of_cons_eq same)
    rw [withoutReturns, withoutReturns, ← unescape_body, ← unescape_body, bodies]
  · intro same
    have skipped (cs : List Char) :
        cs.flatMap literalChar = (cs.filter (· ≠ '\r')).flatMap literalChar := by
      induction cs with
      | nil => rfl
      | cons c cs ih =>
        by_cases carriage : c = '\r'
        · simp [carriage, literalChar, ih]
        · simp [carriage, ih]
    rw [literal, literal, skipped, skipped t.toList]
    exact congrArg (fun cs => '"' :: cs.flatMap literalChar ++ ['"']) same

theorem scanLiteral_append (s : String) (rest : List Char) :
    scanLiteral (s.toList.flatMap literalChar ++ '"' :: rest) =
      some (s.toList.flatMap literalChar, rest) := by
  induction s.toList with
  | nil => simp [scanLiteral]
  | cons c cs ih =>
    have written := written_literalChar c
    rw [List.flatMap_cons, List.append_assoc]
    generalize literalChar c = piece at written
    cases written with
    | plain quote backslash =>
      rw [List.singleton_append, scanLiteral, ih]
      · rfl
      · exact fun same => quote same
      · exact fun _ _ same _ => backslash same
    | _ => simp [scanLiteral, ih]

theorem eq_of_scanLiteral {cs body rest : List Char} (scanned : scanLiteral cs = some (body, rest)) :
    cs = body ++ '"' :: rest := by
  induction cs using scanLiteral.induct generalizing body rest with
  | case1 => cases scanned
  | case2 others =>
    simp only [scanLiteral, Option.some.injEq, Prod.mk.injEq] at scanned
    obtain ⟨rfl, rfl⟩ := scanned
    rfl
  | case3 c others ih =>
    simp only [scanLiteral, Option.map_eq_some_iff, Prod.mk.injEq] at scanned
    obtain ⟨⟨b, r⟩, inner, rfl, rfl⟩ := scanned
    simp only [List.cons_append, ih inner]
  | case4 c others quote backslash ih =>
    rw [scanLiteral] at scanned
    · simp only [Option.map_eq_some_iff, Prod.mk.injEq] at scanned
      obtain ⟨⟨b, r⟩, inner, rfl, rfl⟩ := scanned
      simp only [List.cons_append, ih inner]
    · exact quote
    · exact backslash

theorem scanLiteral_extend {cs body rest : List Char} (scanned : scanLiteral cs = some (body, rest))
    (more : List Char) : scanLiteral (cs ++ more) = some (body, rest ++ more) := by
  induction cs using scanLiteral.induct generalizing body rest with
  | case1 => cases scanned
  | case2 others =>
    simp only [scanLiteral, Option.some.injEq, Prod.mk.injEq] at scanned
    obtain ⟨rfl, rfl⟩ := scanned
    rfl
  | case3 c others ih =>
    simp only [scanLiteral, Option.map_eq_some_iff, Prod.mk.injEq] at scanned
    obtain ⟨⟨b, r⟩, inner, rfl, rfl⟩ := scanned
    simp only [List.cons_append, scanLiteral, ih inner, Option.map_some]
  | case4 c others quote backslash ih =>
    rw [scanLiteral] at scanned
    · simp only [Option.map_eq_some_iff, Prod.mk.injEq] at scanned
      obtain ⟨⟨b, r⟩, inner, rfl, rfl⟩ := scanned
      -- A backslash here would be the last character, and nothing would have been scanned behind it.
      have plain : c ≠ '\\' := by
        rintro rfl
        cases others with
        | nil => cases inner
        | cons d others => exact backslash d others rfl rfl
      rw [List.cons_append, scanLiteral, ih inner, Option.map_some]
      · exact fun same => quote same
      · exact fun _ _ same _ => plain same
    · exact quote
    · exact backslash

/-- A quoted text is one literal from its first character to its last: the scanner takes its body and
nothing of what follows, and finds no end before. With the three escapes undone the body is the text
without its carriage returns, so these are all that quoted texts do not tell apart, and no line break
is left in it. -/
theorem quote_decodes (s : String) :
    (∃ body, (quote s).toList = '"' :: (body ++ ['"']) ∧
      (∀ rest, scanLiteral (body ++ '"' :: rest) = some (body, rest)) ∧
      (∀ front back, body ++ ['"'] = front ++ back → back ≠ [] → scanLiteral front = none) ∧
      unescape? body = some (withoutReturns s)) ∧
    (∀ t, quote s = quote t ↔ withoutReturns s = withoutReturns t) ∧ '\n' ∉ (quote s).toList := by
  have chars : (quote s).toList = literal s := String.toList_ofList
  refine ⟨⟨s.toList.flatMap literalChar, chars, scanLiteral_append s, ?_, unescape?_body _⟩,
    fun t => ?_, ?_⟩
  · intro front back cut filled
    cases early : scanLiteral front with
    | none => rfl
    | some found =>
      have whole := scanLiteral_append s []
      rw [cut, scanLiteral_extend early back, Option.some.injEq, Prod.mk.injEq] at whole
      exact (filled (List.append_eq_nil_iff.mp whole.2).2).elim
  · rw [quote, quote, String.ofList_inj, literal_eq_iff]
  · rw [chars]
    exact newline_not_mem_literal s

end CallChart.Dot
