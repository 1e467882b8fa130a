import CallChart.Dot.Document
import CallChart.Proofs.Dot.Literal
import CallChart.Proofs.Text.Split

namespace CallChart.Dot

def isBrace (c : Char) : Bool :=
  c == '\x7b' || c == '\x7d'

def balanced : Nat → List Char → Bool
  | depth, [] => depth == 0
  | depth, '\x7b' :: rest => balanced (depth + 1) rest
  | 0, '\x7d' :: _ => false
  | depth + 1, '\x7d' :: rest => balanced depth rest
  | depth, _ :: rest => balanced depth rest

def isPlain (cs : List Char) : Bool :=
  cs.all fun c => c ≠ '"' && c ≠ '\n' && !isBrace c

/-- Part of a line that holds no line break and ends outside of literals, and its braces there. -/
structure Neat (cs braces : List Char) : Prop where
  unbroken : '\n' ∉ cs
  closed : Reader.outside.after cs = .outside
  braces : (Reader.outside.bare cs).filter isBrace = braces

namespace Neat

theorem append {cs ds braces braces' : List Char} (first : Neat cs braces)
    (second : Neat ds braces') :
    Neat (cs ++ ds) (braces ++ braces') where
  unbroken := by simp [first.unbroken, second.unbroken]
  closed := by rw [Reader.after_append, first.closed, second.closed]
  braces := by
    rw [Reader.bare_append, first.closed, List.filter_append, first.braces, second.braces]

theorem ofPlain {cs : List Char} (plain : isPlain cs = true) : Neat cs [] := by
  have each : ∀ c ∈ cs, (c ≠ '"' ∧ c ≠ '\n') ∧ isBrace c = false := by
    simpa [isPlain] using plain
  have quote : '"' ∉ cs := fun within => (each _ within).1.1 rfl
  refine ⟨fun within => (each _ within).1.2 rfl, Reader.after_outside quote, ?_⟩
  rw [Reader.bare_outside quote, List.filter_eq_nil_iff]
  intro c within
  simp [(each c within).2]

theorem literal (s : String) : Neat (literal s) [] where
  unbroken := newline_not_mem_literal s
  closed := Reader.after_literal s
  braces := by rw [Reader.bare_literal, List.filter_nil]

theorem plain_append {cs ds braces : List Char} (plain : isPlain cs = true)
    (rest : Neat ds braces) :
    Neat (cs ++ ds) braces :=
  (ofPlain plain).append rest

theorem append_plain {cs ds braces : List Char} (first : Neat cs braces)
    (plain : isPlain ds = true) :
    Neat (cs ++ ds) braces := by
  have both := first.append (ofPlain plain)
  rwa [List.append_nil] at both

end Neat

/-- Lines that are neat each, and the braces of all of them. -/
inductive NeatLines : List (List Char) → List Char → Prop where
  | nil : NeatLines [] []
  | cons {line braces : List Char} {lines : List (List Char)} {braces' : List Char} :
    Neat line braces → NeatLines lines braces' → NeatLines (line :: lines) (braces ++ braces')

namespace NeatLines

theorem single {line braces : List Char} (neat : Neat line braces) : NeatLines [line] braces := by
  have one := cons neat nil
  rwa [List.append_nil] at one

theorem append {lines lines' : List (List Char)} {braces braces' : List Char}
    (first : NeatLines lines braces) (second : NeatLines lines' braces') :
    NeatLines (lines ++ lines') (braces ++ braces') := by
  induction first with
  | nil => exact second
  | cons neat _ ih =>
    rw [List.append_assoc]
    exact cons neat ih

def joined (lines : List (List Char)) : List Char :=
  lines.flatMap (· ++ ['\n'])

theorem joined_cons (line : List Char) (lines : List (List Char)) :
    joined (line :: lines) = line ++ '\n' :: joined lines := by
  simp [joined]

theorem split_joined {lines : List (List Char)} {braces : List Char}
    (neat : NeatLines lines braces) :
    Text.splitChars '\n' (joined lines) = lines ++ [[]] := by
  induction neat with
  | nil => rfl
  | cons line _ ih =>
    rw [joined_cons, Text.splitChars_append, Text.splitChars_plain line.unbroken, ih]
    rfl

theorem joined_neat {lines : List (List Char)} {braces : List Char}
    (neat : NeatLines lines braces) :
    Reader.outside.after (joined lines) = .outside ∧
    (Reader.outside.bare (joined lines)).filter isBrace = braces := by
  induction neat with
  | nil => exact ⟨rfl, rfl⟩
  | cons line _ ih =>
    rw [joined_cons, Reader.after_append, Reader.bare_append, line.closed, List.filter_append,
      line.braces]
    exact ⟨ih.1, congrArg _ ih.2⟩

theorem closed_at_break {lines : List (List Char)} {braces : List Char}
    (neat : NeatLines lines braces) {before rest : List Char}
    (cut : joined lines = before ++ '\n' :: rest) : Reader.outside.after before = .outside := by
  induction neat generalizing before with
  | nil => simp [joined] at cut
  | @cons line _ lines _ first _ ih =>
    rw [joined_cons] at cut
    rcases List.append_eq_append_iff.mp cut with ⟨more, rfl, tail⟩ | ⟨more, rfl, tail⟩
    · cases more with
      | nil => simpa using first.closed
      | cons c more =>
        obtain ⟨rfl, later⟩ := List.cons.inj tail
        have stays : Reader.outside.after ['\n'] = .outside := rfl
        rw [Reader.after_append, first.closed, ← List.singleton_append, Reader.after_append, stays]
        exact ih later
    · cases more with
      | nil => simpa using first.closed
      | cons c more =>
        obtain ⟨rfl, -⟩ := List.cons.inj tail
        exact (first.unbroken (by simp)).elim

end NeatLines

mutual

def Statement.isNeat : Statement → Bool
  | .setting a => isPlain a.1.toList
  | .defaults kind attributes => isPlain kind.toList && attributes.all (isPlain ·.1.toList)
  | .node _ attributes => attributes.all (isPlain ·.1.toList)
  | .edge _ _ attributes => attributes.all (isPlain ·.1.toList)
  | .subgraph _ body => areNeat body
  | .space => true

def areNeat : List Statement → Bool
  | [] => true
  | s :: rest => s.isNeat && areNeat rest

end

mutual

def Statement.braces : Statement → List Char
  | .subgraph _ body => '\x7b' :: bodyBraces body ++ ['\x7d']
  | _ => []

def bodyBraces : List Statement → List Char
  | [] => []
  | s :: rest => s.braces ++ bodyBraces rest

end

theorem areNeat_append (first second : List Statement) :
    areNeat (first ++ second) = (areNeat first && areNeat second) := by
  induction first with
  | nil => rfl
  | cons s rest ih => simp [areNeat, ih, Bool.and_assoc]

theorem areNeat_iff {body : List Statement} :
    areNeat body = true ↔ ∀ s ∈ body, s.isNeat = true := by
  induction body with
  | nil => simp [areNeat]
  | cons s rest ih => simp [areNeat, ih]

theorem bodyBraces_append (first second : List Statement) :
    bodyBraces (first ++ second) = bodyBraces first ++ bodyBraces second := by
  induction first with
  | nil => rfl
  | cons s rest ih => simp [bodyBraces, ih]

theorem neat_indentation (level : Nat) : isPlain (indentation level) = true := by
  simp [isPlain, indentation, isBrace]

theorem neat_attributeChars {a : Attribute} (plain : isPlain a.1.toList = true) :
    Neat (attributeChars a) [] := by
  have sign : isPlain ['='] = true := rfl
  exact .plain_append plain (.plain_append sign (.literal a.2))

theorem neat_joinedAttributes {attributes : List Attribute}
    (plain : attributes.all (isPlain ·.1.toList) = true) : Neat (joinedAttributes attributes) [] := by
  induction attributes with
  | nil => exact .ofPlain rfl
  | cons a rest ih =>
    rw [List.all_cons, Bool.and_eq_true] at plain
    cases rest with
    | nil => exact neat_attributeChars plain.1
    | cons b rest =>
      have blank : isPlain [' '] = true := rfl
      exact (neat_attributeChars plain.1).append (.plain_append blank (ih plain.2))

theorem neat_attributeList {attributes : List Attribute}
    (plain : attributes.all (isPlain ·.1.toList) = true) : Neat (attributeList attributes) [] :=
  .append_plain (.plain_append (by decide) (neat_joinedAttributes plain)) (by decide)

mutual

theorem Statement.neat_lines (level : Nat) (s : Statement) (neat : s.isNeat = true) :
    NeatLines (s.lines level) s.braces := by
  have indented := neat_indentation level
  cases s with
  | setting a =>
    exact .single (.append_plain (.plain_append indented (neat_attributeChars neat)) rfl)
  | defaults kind attributes =>
    rw [Statement.isNeat, Bool.and_eq_true] at neat
    have word := (Neat.ofPlain indented).append (.ofPlain neat.1)
    exact .single (word.append (neat_attributeList neat.2))
  | node name attributes =>
    have named := Neat.plain_append indented (.literal name)
    exact .single (named.append (neat_attributeList neat))
  | edge source target attributes =>
    have left := Neat.plain_append indented (.literal source)
    have arrow : isPlain " -> ".toList = true := by decide
    have ends := (left.append_plain arrow).append (.literal target)
    exact .single (ends.append (neat_attributeList neat))
  | subgraph name body =>
    have head := (Neat.plain_append indented (.ofPlain (by decide : isPlain "subgraph ".toList))).append
      (.literal name)
    have opening : Neat " \x7b".toList ['\x7b'] := ⟨by decide, by decide, by decide⟩
    have closing : Neat ['\x7d'] ['\x7d'] := ⟨by decide, by decide, by decide⟩
    exact ((NeatLines.single (head.append opening)).append
      (body_neat_lines (level + 1) body neat)).append (.single (.plain_append indented closing))
  | space => exact .single (.ofPlain rfl)

theorem body_neat_lines (level : Nat) (body : List Statement) (neat : areNeat body = true) :
    NeatLines (bodyLines level body) (bodyBraces body) := by
  cases body with
  | nil => exact .nil
  | cons s rest =>
    rw [areNeat, Bool.and_eq_true] at neat
    exact (s.neat_lines level neat.1).append (body_neat_lines level rest neat.2)

end

end CallChart.Dot
