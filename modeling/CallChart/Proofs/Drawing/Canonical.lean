import CallChart.Describe
import CallChart.Proofs.Graph.Built
import CallChart.Proofs.Options.Normalized
import Mathlib.Data.Set.Basic

namespace CallChart

namespace Text

theorem isBlankText_iff {s : String} : isBlankText s = true ↔ trim s = "" := by
  have start : s.toList.all isBlank = true ↔ trimStart s.toList = [] := by
    rw [trimStart, List.dropWhile_eq_nil_iff, List.all_eq_true]
  rw [isBlankText, start]
  constructor
  · intro empty
    simp [trim, trimChars, empty, trimEnd]
  · intro empty
    by_contra filled
    -- What is left starts with a character that is not blank, and that one stays.
    obtain ⟨c, rest, front⟩ := List.exists_cons_of_ne_nil filled
    have black := List.head?_dropWhile_not isBlank s.toList
    rw [← trimStart, front] at black
    have within : c ∈ s.toList :=
      (List.dropWhile_suffix isBlank).subset (by rw [← trimStart, front]; exact List.mem_cons_self)
    exact trim_ne_empty within (by simpa using black) empty

end Text

namespace Options

/-- Entries without white space at their ends, none of them blank. -/
def Tidy (entries : List String) : Prop :=
  ∀ s ∈ entries, Text.isBlankText s = false ∧ Text.trim s = s

instance (entries : List String) : Decidable (Tidy entries) :=
  inferInstanceAs (Decidable (∀ s ∈ entries, _))

theorem tidy_commaList (s : String) : Tidy (Text.commaList s) := by
  intro entry within
  simp only [Text.commaList, List.mem_map, List.mem_filter, decide_eq_true_eq] at within
  obtain ⟨cs, ⟨⟨piece, -, rfl⟩, filled⟩, rfl⟩ := within
  have trimmed : Text.trim (String.ofList (Text.trimChars piece)) =
      String.ofList (Text.trimChars piece) := by
    rw [Text.trim, String.toList_ofList, Text.trimChars_trimChars]
  refine ⟨?_, trimmed⟩
  rw [← Bool.not_eq_true, Text.isBlankText_iff, trimmed]
  simpa using filled

def entrySet (entries : List String) : Set String :=
  {s | s ≠ "" ∧ ∃ t ∈ entries, Text.trim t = s}

/-- Options that agree, white space, order and repetition left aside. -/
structure Agree (o p : Options) : Prop where
  focus : Text.trim o.focus = Text.trim p.focus
  limited : entrySet o.limited = entrySet p.limited
  ignored : entrySet o.ignored = entrySet p.ignored
  included : entrySet o.included = entrySet p.included
  group : o.group = p.group
  nostd : o.nostd = p.nostd
  nointer : o.nointer = p.nointer
  tests : o.tests = p.tests
  retention : o.retention = p.retention
  style : o.style = p.style

theorem normalizedPrefixes_eq_iff_entrySet {entries entries' : List String} :
    normalizedPrefixes entries = normalizedPrefixes entries' ↔
      entrySet entries = entrySet entries' := by
  rw [normalizedPrefixes_eq_iff, Set.ext_iff]
  simp only [mem_trimmedEntries, entrySet, Set.mem_ofPred_eq]

theorem normalized_eq_iff {o p : Options} : o.normalized = p.normalized ↔ Agree o p := by
  simp only [normalized, Options.mk.injEq, normalizedPrefixes_eq_iff_entrySet]
  constructor
  · rintro ⟨focus, group, limited, ignored, included, nostd, nointer, tests, retention, style⟩
    exact ⟨focus, limited, ignored, included, group, nostd, nointer, tests, retention, style⟩
  · rintro ⟨focus, limited, ignored, included, group, nostd, nointer, tests, retention, style⟩
    exact ⟨focus, group, limited, ignored, included, nostd, nointer, tests, retention, style⟩

namespace Tidy

theorem mem_normalizedPrefixes {entries : List String} (tidy : Tidy entries) {s : String} :
    s ∈ normalizedPrefixes entries ↔ s ∈ entries := by
  rw [Options.mem_normalizedPrefixes, mem_trimmedEntries]
  constructor
  · rintro ⟨-, t, within, rfl⟩
    rwa [(tidy t within).2]
  · intro within
    obtain ⟨filled, trimmed⟩ := tidy s within
    refine ⟨?_, s, within, trimmed⟩
    rintro rfl
    simp [Text.isBlankText] at filled

theorem isEmpty_normalizedPrefixes {entries : List String} (tidy : Tidy entries) :
    (normalizedPrefixes entries).isEmpty = entries.isEmpty := by
  rw [Bool.eq_iff_iff, List.isEmpty_iff, List.isEmpty_iff, List.eq_nil_iff_forall_not_mem,
    List.eq_nil_iff_forall_not_mem]
  simp only [tidy.mem_normalizedPrefixes]

theorem startsWithAny_normalizedPrefixes {entries : List String} (tidy : Tidy entries)
    (path : String) :
    CallGraph.startsWithAny path (normalizedPrefixes entries) =
      CallGraph.startsWithAny path entries := by
  rw [Bool.eq_iff_iff, CallGraph.startsWithAny, CallGraph.startsWithAny, List.any_eq_true,
    List.any_eq_true]
  simp only [tidy.mem_normalizedPrefixes]

end Tidy

/-- Options whose prefixes are all tidy, as they are when they come from texts. -/
structure TidyPrefixes (o : Options) : Prop where
  limited : Tidy o.limited
  ignored : Tidy o.ignored
  included : Tidy o.included

end Options

namespace CallGraph

theorem resolveFocus_trim (g : CallGraph) (focus : String) :
    g.resolveFocus (Text.trim focus) = g.resolveFocus focus := by
  simp only [resolveFocus, Text.trim_trim]

theorem resolveFocus_normalized (g : CallGraph) (o : Options) :
    g.resolveFocus o.normalized.focus = g.resolveFocus o.focus :=
  g.resolveFocus_trim o.focus

theorem keeps_normalized {o : Options} (tidy : o.TidyPrefixes) (g : CallGraph) :
    g.keeps o.normalized = g.keeps o := by
  funext retained id f
  simp only [keeps, Options.normalized, tidy.limited.isEmpty_normalizedPrefixes,
    tidy.included.isEmpty_normalizedPrefixes, tidy.limited.startsWithAny_normalizedPrefixes,
    tidy.ignored.startsWithAny_normalizedPrefixes, tidy.included.startsWithAny_normalizedPrefixes]

theorem select_normalized {o : Options} (tidy : o.TidyPrefixes) (g : CallGraph) :
    g.select o.normalized = g.select o := by
  have selection (ids : List Nat) : g.selection o.normalized ids = g.selection o ids := by
    have near : g.near o.normalized ids = g.near o ids := rfl
    simp only [CallGraph.selection, keptNodes, near, keeps_normalized tidy]
  rw [select_eq, select_eq, resolveFocus_normalized]
  exact congrArg (fun f => (g.resolveFocus o.focus).map f) (funext selection)

theorem drawing_normalized {o : Options} (tidy : o.TidyPrefixes) (g : CallGraph) :
    g.drawing o.normalized = g.drawing o := by
  unfold drawing
  rw [select_normalized tidy g]
  cases g.select o <;> rfl

theorem describe_eq_drawing {o : Options} (tidy : o.TidyPrefixes) (valid : o.check = .ok ())
    (g : CallGraph) :
    g.describe o = g.drawing o := by
  have checked : o.normalized.check = .ok () := valid
  rw [← drawing_normalized tidy]
  simp only [describe, checked, bind, Except.bind]

/-- The canonical form is canonical, identifies options that agree and no others, and changes
nothing in what is selected and drawn where no prefix is blank or padded. -/
theorem normalized_canonical :
    (∀ o : Options, o.normalized.normalized = o.normalized) ∧
    (∀ o p : Options, o.normalized = p.normalized ↔ Options.Agree o p) ∧
    (∀ s, Options.Tidy (Text.commaList s)) ∧
    ∀ (g : CallGraph) (o : Options), o.TidyPrefixes →
      g.select o.normalized = g.select o ∧
      (o.check = .ok () → g.drawing o = g.describe o) := by
  refine ⟨Options.normalized_normalized, fun o p => Options.normalized_eq_iff,
    Options.tidy_commaList, fun g o tidy => ⟨select_normalized tidy g, fun valid => ?_⟩⟩
  exact (describe_eq_drawing tidy valid g).symm

def unordered : Options :=
  { Options.default with
    focus := " lib.Do\n", limited := ["lib", "app", "lib"], ignored := ["fmt", "app/x", "fmt"] }

def unorderedGraph : CallGraph where
  packages := [⟨"fmt", "fmt", false⟩, ⟨"lib", "lib", false⟩]
  functions := [⟨"lib.Do", "Do", "lib", none, true, false, false⟩,
    ⟨"fmt.Print", "Print", "fmt", none, true, false, false⟩]
  edges := [⟨0, 1, 1, 0⟩]

theorem unordered_canonical : unordered.TidyPrefixes ∧ unordered.check = .ok () ∧
    unordered.normalized ≠ unordered ∧
    unorderedGraph.select unordered = .ok ⟨unorderedGraph, [0], [], [0]⟩ ∧
    unorderedGraph.select unordered.normalized = .ok ⟨unorderedGraph, [0], [], [0]⟩ ∧
    unorderedGraph.drawing unordered = unorderedGraph.describe unordered := by
  have tidy : unordered.TidyPrefixes :=
    ⟨by decide +kernel, by decide +kernel, by decide +kernel⟩
  have valid : unordered.check = .ok () := by decide +kernel
  have selected : unorderedGraph.select unordered = .ok ⟨unorderedGraph, [0], [], [0]⟩ := by
    decide +kernel
  obtain ⟨same, drawn⟩ := normalized_canonical.2.2.2 unorderedGraph unordered tidy
  exact ⟨tidy, valid, by decide +kernel, selected, same.trans selected, drawn valid⟩

end CallGraph
end CallChart
