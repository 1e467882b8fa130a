import CallChart.Text.Split
import Mathlib.Data.String.Basic
import Mathlib.Order.Basic

namespace CallChart

/-- Insertion before the first element of a higher rank, or in the place of one of the same rank. -/
structure InsertsBy {α β : Type} [LinearOrder β] (rank : α → β) (insert : α → List α → List α) :
    Prop where
  first (a : α) : insert a [] = [a]
  before {a k : α} (rest : List α) : rank a < rank k → insert a (k :: rest) = a :: k :: rest
  replaces {a k : α} (rest : List α) : rank a = rank k → insert a (k :: rest) = a :: rest
  behind {a k : α} (rest : List α) : rank k < rank a → insert a (k :: rest) = k :: insert a rest

namespace InsertsBy

theorem comm_of_lt {α β : Type} [LinearOrder β] {rank : α → β} {insert : α → List α → List α}
    {a b : α} (rule : InsertsBy rank insert) (less : rank a < rank b) (l : List α) :
    insert a (insert b l) = insert b (insert a l) := by
  induction l with
  | nil => rw [rule.first, rule.first, rule.before _ less, rule.behind _ less, rule.first]
  | cons k rest ih =>
    rcases lt_trichotomy (rank b) (rank k) with second | second | second
    · rw [rule.before _ second, rule.before _ less, rule.before _ (less.trans second),
        rule.behind _ less, rule.before _ second]
    · have first : rank a < rank k := second ▸ less
      rw [rule.replaces _ second, rule.before _ less, rule.before _ first, rule.behind _ less,
        rule.replaces _ second]
    · rw [rule.behind _ second]
      rcases lt_trichotomy (rank a) (rank k) with first | first | first
      · rw [rule.before _ first, rule.before _ first, rule.behind _ less, rule.behind _ second]
      · rw [rule.replaces _ first, rule.replaces _ first, rule.behind _ less]
      · rw [rule.behind _ first, rule.behind _ first, rule.behind _ second, ih]

theorem comm {α β : Type} [LinearOrder β] {rank : α → β} {insert : α → List α → List α} {a b : α}
    (rule : InsertsBy rank insert) (apart : rank a ≠ rank b) (l : List α) :
    insert a (insert b l) = insert b (insert a l) := by
  rcases lt_or_gt_of_ne apart with less | more
  · exact rule.comm_of_lt less l
  · exact (rule.comm_of_lt more l).symm

theorem mem_insert {α β : Type} [LinearOrder β] {rank : α → β} {insert : α → List α → List α}
    {a : α} (rule : InsertsBy rank insert) (injective : Function.Injective rank) {x : α}
    {l : List α} : x ∈ insert a l ↔ x = a ∨ x ∈ l := by
  induction l with
  | nil => simp [rule.first]
  | cons k rest ih =>
    rcases lt_trichotomy (rank a) (rank k) with first | first | first
    · simp [rule.before _ first]
    · obtain rfl := injective first
      simp [rule.replaces _ rfl]
    · rw [rule.behind _ first, List.mem_cons, ih, List.mem_cons]
      exact or_left_comm

theorem mem_of_mem_insert {α β : Type} [LinearOrder β] {rank : α → β} {insert : α → List α → List α}
    {a : α} (rule : InsertsBy rank insert) {x : α} {l : List α} (within : x ∈ insert a l) :
    x = a ∨ x ∈ l := by
  induction l with
  | nil => simpa [rule.first] using within
  | cons k rest ih =>
    rcases lt_trichotomy (rank a) (rank k) with first | first | first
    · simpa [rule.before _ first] using within
    · rw [rule.replaces _ first] at within
      exact (List.mem_cons.mp within).imp_right (List.mem_cons_of_mem _)
    · rw [rule.behind _ first] at within
      rcases List.mem_cons.mp within with rfl | within
      · exact .inr List.mem_cons_self
      · exact (ih within).imp_right (List.mem_cons_of_mem _)

theorem sorted_insert {α β : Type} [LinearOrder β] {rank : α → β} {insert : α → List α → List α}
    {a : α} (rule : InsertsBy rank insert) {l : List α}
    (sorted : l.Pairwise fun x y => rank x < rank y) :
    (insert a l).Pairwise fun x y => rank x < rank y := by
  induction l with
  | nil => simp [rule.first]
  | cons k rest ih =>
    obtain ⟨least, others⟩ := List.pairwise_cons.mp sorted
    rcases lt_trichotomy (rank a) (rank k) with first | first | first
    · rw [rule.before _ first, List.pairwise_cons]
      refine ⟨fun y within => ?_, sorted⟩
      rcases List.mem_cons.mp within with rfl | within
      · exact first
      · exact first.trans (least y within)
    · rw [rule.replaces _ first, List.pairwise_cons, first]
      exact ⟨least, others⟩
    · rw [rule.behind _ first, List.pairwise_cons]
      refine ⟨fun y within => ?_, ih others⟩
      rcases rule.mem_of_mem_insert within with rfl | within
      · exact first
      · exact least y within

theorem mem_foldr {α β : Type} [LinearOrder β] {rank : α → β} {insert : α → List α → List α}
    (rule : InsertsBy rank insert) (injective : Function.Injective rank) {x : α} {l : List α} :
    x ∈ l.foldr insert [] ↔ x ∈ l := by
  induction l with
  | nil => simp
  | cons a rest ih => rw [List.foldr_cons, rule.mem_insert injective, ih, List.mem_cons]

theorem sorted_foldr {α β : Type} [LinearOrder β] {rank : α → β} {insert : α → List α → List α}
    (rule : InsertsBy rank insert) (l : List α) :
    (l.foldr insert []).Pairwise fun x y => rank x < rank y := by
  induction l with
  | nil => exact .nil
  | cons a rest ih => exact rule.sorted_insert ih

end InsertsBy

theorem Text.insertSorted_insertsBy : InsertsBy id Text.insertSorted where
  first _ := rfl
  before _ less := if_pos less
  replaces {a k} _ same := by
    obtain rfl : a = k := same
    simp [Text.insertSorted]
  behind {a k} _ more := by
    have more : k < a := more
    rw [Text.insertSorted, if_neg more.asymm, if_neg more.ne']

end CallChart
