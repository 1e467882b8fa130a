import CallChart.Graph
import CallChart.Proofs.Graph.Sorted
import Mathlib.Tactic.Common

namespace CallChart

namespace CallGraph

def Calls (g : CallGraph) (i j : Nat) : Prop :=
  ∃ e ∈ g.edges, e.caller = i ∧ e.callee = j

inductive Path (g : CallGraph) : Nat → Nat → Nat → Prop where
  | nil (i : Nat) : Path g 0 i i
  | cons {n i j k : Nat} : g.Calls i j → Path g n j k → Path g (n + 1) i k

theorem Path.snoc {g : CallGraph} {i j k n : Nat} (path : g.Path n i j) (called : g.Calls j k) :
    g.Path (n + 1) i k := by
  induction path with
  | nil => exact .cons called (.nil k)
  | cons first _ ih => exact .cons first (ih called)

theorem Path.last {g : CallGraph} {i k n : Nat} (path : g.Path (n + 1) i k) :
    ∃ j, g.Path n i j ∧ g.Calls j k := by
  induction n generalizing i with
  | zero =>
    obtain _ | ⟨called, rest⟩ := path
    obtain _ | _ := rest
    exact ⟨i, .nil i, called⟩
  | succ n ih =>
    obtain _ | ⟨called, rest⟩ := path
    obtain ⟨j, before, last⟩ := ih rest
    exact ⟨j, .cons called before, last⟩

/-- Whether a path of at most so many calls leads here from some root. -/
def Within (g : CallGraph) (roots : List Nat) (n j : Nat) : Prop :=
  ∃ i ∈ roots, ∃ m ≤ n, g.Path m i j

theorem within_zero {g : CallGraph} {roots : List Nat} {j : Nat} :
    g.Within roots 0 j ↔ j ∈ roots := by
  constructor
  · rintro ⟨i, root, m, short, path⟩
    obtain rfl := Nat.le_zero.mp short
    obtain _ | _ := path
    exact root
  · exact fun root => ⟨j, root, 0, Nat.le_refl 0, .nil j⟩

theorem Within.mono {g : CallGraph} {roots : List Nat} {j n m : Nat}
    (within : g.Within roots m j) (le : m ≤ n) : g.Within roots n j := by
  obtain ⟨i, root, l, short, path⟩ := within
  exact ⟨i, root, l, Nat.le_trans short le, path⟩

theorem Within.call {g : CallGraph} {roots : List Nat} {i j n : Nat} (within : g.Within roots n i)
    (called : g.Calls i j) :
    g.Within roots (n + 1) j := by
  obtain ⟨r, root, m, short, path⟩ := within
  exact ⟨r, root, m + 1, Nat.succ_le_succ short, path.snoc called⟩

theorem within_succ {g : CallGraph} {roots : List Nat} {j n : Nat} : g.Within roots (n + 1) j ↔
    g.Within roots n j ∨ ∃ i, g.Within roots n i ∧ g.Calls i j := by
  constructor
  · rintro ⟨r, root, m, short, path⟩
    rcases Nat.le_or_eq_of_le_succ short with short | rfl
    · exact .inl ⟨r, root, m, short, path⟩
    · obtain ⟨i, before, called⟩ := path.last
      exact .inr ⟨i, ⟨r, root, n, Nat.le_refl n, before⟩, called⟩
  · rintro (within | ⟨i, within, called⟩)
    · exact within.mono (Nat.le_succ n)
    · exact within.call called

def Allows (depth : Option Nat) (n : Nat) : Prop :=
  ∀ d ∈ depth, n ≤ d

theorem allows_succ_iff {depth : Option Nat} {n : Nat} :
    Allows depth (n + 1) ↔ depth.any (· ≤ n) = false := by
  cases depth with
  | none => simp [Allows]
  | some d =>
    simp only [Allows, Option.mem_def, Option.some.injEq, forall_eq', Option.any_some,
      decide_eq_false_iff_not]
    omega

theorem Allows.mono {depth : Option Nat} {n m : Nat} (allowed : Allows depth n)
    (le : m ≤ n) : Allows depth m :=
  fun d limit => Nat.le_trans le (allowed d limit)

theorem visits (d : Nat) (ids : List Nat) (s : Search) : ∃ fresh : List Nat,
    (∀ j ∈ fresh, j ∈ ids) ∧ (∀ j ∈ ids, j ∈ s.seen ∨ j ∈ fresh) ∧
    (ids.foldl (Search.visit d) s).queue = s.queue ++ fresh.map (·, d) ∧
    ∀ j, j ∈ (ids.foldl (Search.visit d) s).seen ↔ j ∈ s.seen ∨ j ∈ fresh := by
  induction ids generalizing s with
  | nil => exact ⟨[], by simp⟩
  | cons i rest ih =>
    obtain ⟨fresh, visited, all, queue, seen⟩ := ih (s.visit d i)
    rw [List.foldl_cons]
    by_cases before : i ∈ s.seen
    · have same : s.visit d i = s := by simp [Search.visit, before]
      rw [same] at queue seen all ⊢
      refine ⟨fresh, fun j within => List.mem_cons_of_mem _ (visited j within), ?_, queue, seen⟩
      exact List.forall_mem_cons.mpr ⟨.inl before, all⟩
    · have put : s.visit d i = ⟨insertPosition i s.seen, s.queue ++ [(i, d)]⟩ := by
        simp [Search.visit, before]
      rw [put] at queue seen all ⊢
      simp only [mem_insertPosition] at seen all
      refine ⟨i :: fresh, ?_, ?_, by simpa using queue, fun j => ?_⟩
      · exact List.forall_mem_cons.mpr
          ⟨List.mem_cons_self, fun j within => List.mem_cons_of_mem _ (visited j within)⟩
      · refine List.forall_mem_cons.mpr ⟨.inr List.mem_cons_self, fun j within => ?_⟩
        rw [List.mem_cons, or_left_comm]
        exact or_assoc.mp (all j within)
      · rw [seen, List.mem_cons, ← or_assoc, or_comm (a := j = i)]

/-- A search that has come to a distance: it has still to look at `here`, and has put `next` in line
behind them. -/
structure Level (g : CallGraph) (roots : List Nat) (depth : Option Nat) (d : Nat)
    (here next : List Nat) (s : Search) : Prop where
  queue : s.queue = here.map (·, d) ++ next.map (·, d + 1)
  allowed : Allows depth d
  ofHere {j : Nat} : j ∈ here → g.Within roots d j
  ofNext {j : Nat} : j ∈ next → g.Within roots (d + 1) j ∧ Allows depth (d + 1)
  near {j : Nat} : j ∈ s.seen → g.Within roots d j ∨ j ∈ next
  seen {j : Nat} : g.Within roots d j → j ∈ s.seen
  further {j : Nat} : Allows depth (d + 1) → g.Within roots (d + 1) j →
    j ∈ s.seen ∨ ∃ i ∈ here, g.Calls i j

namespace Level

theorem start (g : CallGraph) (roots : List Nat) (depth : Option Nat) :
    Level g roots depth 0 (positionSet roots) []
      ⟨positionSet roots, (positionSet roots).map (·, 0)⟩ where
  queue := by simp
  allowed := fun _ _ => Nat.zero_le _
  ofHere := fun root => within_zero.mpr (mem_positionSet.mp root)
  ofNext := nofun
  near := fun seen => .inl (within_zero.mpr (mem_positionSet.mp seen))
  seen := fun within => mem_positionSet.mpr (within_zero.mp within)
  further := by
    intro j _ within
    rcases within_succ.mp within with within | ⟨i, within, called⟩
    · exact .inl (mem_positionSet.mpr (within_zero.mp within))
    · exact .inr ⟨i, mem_positionSet.mpr (within_zero.mp within), called⟩

theorem deeper {g : CallGraph} {roots next : List Nat} {depth : Option Nat} {s : Search} {i d : Nat}
    (level : Level g roots depth d [] next s) (waiting : i ∈ next) :
    Level g roots depth (d + 1) next [] s := by
  have allowed := (level.ofNext waiting).2
  have seen {j : Nat} (within : g.Within roots (d + 1) j) : j ∈ s.seen := by
    simpa using level.further allowed within
  constructor
  case queue => simpa using level.queue
  case allowed => exact allowed
  case ofHere => exact fun within => (level.ofNext within).1
  case ofNext => exact nofun
  case near =>
    intro j before
    rcases level.near before with within | within
    · exact .inl (within.mono (Nat.le_succ d))
    · exact .inl (level.ofNext within).1
  case seen => exact seen
  case further =>
    intro j _ within
    rcases within_succ.mp within with within | ⟨i, within, called⟩
    · exact .inl (seen within)
    · rcases level.near (seen within) with near | far
      · exact .inl (seen (near.call called))
      · exact .inr ⟨i, far, called⟩

theorem first {g : CallGraph} {roots here next : List Nat} {depth : Option Nat} {d : Nat}
    {current distance : Nat} {seen : List Nat} {rest : List (Nat × Nat)}
    (level : Level g roots depth d here next ⟨seen, (current, distance) :: rest⟩) :
    ∃ here next, Level g roots depth distance (current :: here) next
      ⟨seen, (current, distance) :: rest⟩ := by
  have queue := level.queue
  cases here with
  | cons i here =>
    obtain ⟨rfl, rfl⟩ : current = i ∧ distance = d := by simpa using (List.cons.inj queue).1
    exact ⟨here, next, level⟩
  | nil =>
    cases next with
    | nil => simp at queue
    | cons i next =>
      obtain ⟨rfl, rfl⟩ : current = i ∧ distance = d + 1 := by simpa using (List.cons.inj queue).1
      exact ⟨next, [], level.deeper List.mem_cons_self⟩

theorem explore {g : CallGraph} {roots here next : List Nat} {depth : Option Nat} {i d : Nat}
    {seen : List Nat} {rest : List (Nat × Nat)}
    (level : Level g roots depth d (i :: here) next ⟨seen, (i, d) :: rest⟩) :
    ∃ next, Level g roots depth d here next (g.explore depth i d ⟨seen, rest⟩) := by
  have queue : rest = here.map (·, d) ++ next.map (·, d + 1) := by simpa using level.queue
  have ofHere {j : Nat} (within : j ∈ here) := level.ofHere (List.mem_cons_of_mem i within)
  have first := level.ofHere List.mem_cons_self
  unfold CallGraph.explore
  split
  · rename_i far
    refine ⟨next, queue, level.allowed, ofHere, level.ofNext, level.near, level.seen, ?_⟩
    intro j allowed
    rw [allows_succ_iff, far] at allowed
    cases allowed
  · rename_i near
    have allowed : Allows depth (d + 1) := allows_succ_iff.mpr (by simpa using near)
    obtain ⟨fresh, called, all, queue', seen'⟩ := visits (d + 1) (g.callees i) ⟨seen, rest⟩
    refine ⟨next ++ fresh, ?_⟩
    constructor
    case queue => rw [queue', queue, List.map_append, List.append_assoc]
    case allowed => exact level.allowed
    case ofHere => exact ofHere
    case ofNext =>
      intro j within
      rcases List.mem_append.mp within with within | within
      · exact level.ofNext within
      · exact ⟨first.call (mem_callees.mp (called j within)), allowed⟩
    case near =>
      intro j before
      rcases (seen' j).mp before with before | within
      · exact (level.near before).imp_right (List.mem_append_left _)
      · exact .inr (List.mem_append_right _ within)
    case seen => exact fun within => (seen' _).mpr (.inl (level.seen within))
    case further =>
      intro j _ within
      rcases level.further allowed within with before | ⟨k, within, callsIt⟩
      · exact .inl ((seen' j).mpr (.inl before))
      · rcases List.mem_cons.mp within with rfl | within
        · exact .inl ((seen' j).mpr (all j (mem_callees.mpr callsIt)))
        · exact .inr ⟨k, within, callsIt⟩

theorem finished {g : CallGraph} {roots here next : List Nat} {depth : Option Nat} {j d : Nat}
    {seen : List Nat} (level : Level g roots depth d here next ⟨seen, []⟩) :
    j ∈ seen ↔ ∃ n, Allows depth n ∧ g.Within roots n j := by
  obtain ⟨rfl, rfl⟩ : here = [] ∧ next = [] := by simpa using level.queue
  have near {j : Nat} (before : j ∈ seen) : g.Within roots d j := by simpa using level.near before
  constructor
  · exact fun before => ⟨d, level.allowed, near before⟩
  · rintro ⟨n, allowed, within⟩
    rcases Nat.lt_or_ge d n with far | short
    · -- One call more leads nowhere else, and so no number of calls does.
      have closed {j : Nat} (within : g.Within roots (d + 1) j) : g.Within roots d j :=
        near (by simpa using level.further (allowed.mono far) within)
      refine level.seen ?_
      clear allowed
      induction n, far using Nat.le_induction generalizing j with
      | base => exact closed within
      | succ n _ ih =>
        rcases within_succ.mp within with within | ⟨i, within, called⟩
        · exact ih within
        · exact closed ((ih within).call called)
    · exact level.seen (within.mono short)

theorem mem_search {g : CallGraph} {roots here next : List Nat} {depth : Option Nat} {s : Search}
    {j d : Nat} (level : Level g roots depth d here next s) :
    j ∈ g.search depth s ↔ ∃ n, Allows depth n ∧ g.Within roots n j := by
  induction s using CallGraph.search.induct g depth generalizing d here next with
  | case1 seen =>
    rw [search]
    exact level.finished
  | case2 seen current distance rest ih =>
    obtain ⟨here, next, level⟩ := level.first
    obtain ⟨next, level⟩ := level.explore
    rw [search]
    exact ih level

end Level

theorem mem_reachable_iff_within {g : CallGraph} {roots : List Nat} {depth : Option Nat} {j : Nat} :
    j ∈ g.reachable roots depth ↔ ∃ n, Allows depth n ∧ g.Within roots n j :=
  (Level.start g roots depth).mem_search

theorem mem_reachable {g : CallGraph} {roots : List Nat} {depth : Option Nat} {j : Nat} :
    j ∈ g.reachable roots depth ↔
    ∃ i ∈ roots, ∃ n, (∀ d ∈ depth, n ≤ d) ∧ g.Path n i j := by
  rw [mem_reachable_iff_within]
  constructor
  · rintro ⟨n, allowed, i, root, m, short, path⟩
    exact ⟨i, root, m, allowed.mono short, path⟩
  · rintro ⟨i, root, n, allowed, path⟩
    exact ⟨n, allowed, i, root, n, Nat.le_refl n, path⟩

/-- So many rounds of a search lead from one state to another. -/
inductive Rounds (g : CallGraph) (depth : Option Nat) : Nat → Search → Search → Prop where
  | none (s : Search) : Rounds g depth 0 s s
  | round {n current distance : Nat} {seen : List Nat} {rest : List (Nat × Nat)} {s : Search} :
    Rounds g depth n (g.explore depth current distance ⟨seen, rest⟩) s →
    Rounds g depth (n + 1) ⟨seen, (current, distance) :: rest⟩ s

theorem rounds_search (g : CallGraph) (depth : Option Nat) (s : Search) :
    ∃ n ≤ g.ahead s, g.Rounds depth n s ⟨g.search depth s, []⟩ := by
  induction s using CallGraph.search.induct g depth with
  | case1 seen =>
    rw [search]
    exact ⟨0, Nat.zero_le _, .none _⟩
  | case2 seen current distance rest ih =>
    obtain ⟨n, few, rounds⟩ := ih
    have fewer := ahead_explore (g := g) depth current distance ⟨seen, rest⟩
    rw [search]
    refine ⟨n + 1, ?_, .round rounds⟩
    simp only [ahead, List.length_cons] at few fewer ⊢
    omega

theorem insertPosition_insertsBy : InsertsBy id insertPosition where
  first _ := rfl
  before _ less := if_pos less
  replaces {i k} rest same := by
    obtain rfl : i = k := same
    rw [insertPosition, if_neg (Nat.lt_irrefl i), if_pos rfl]
  behind {i k} rest more := by
    have more : k < i := more
    rw [insertPosition, if_neg (Nat.lt_asymm more), if_neg (Nat.ne_of_gt more)]

theorem positionSet_increasing (ids : List Nat) : (positionSet ids).Pairwise (· < ·) := by
  induction ids with
  | nil => exact .nil
  | cons i rest ih => exact insertPosition_insertsBy.sorted_insert ih

theorem explore_increasing {g : CallGraph} {depth : Option Nat} {s : Search}
    (current distance : Nat) (sorted : s.seen.Pairwise (· < ·)) :
    (g.explore depth current distance s).seen.Pairwise (· < ·) := by
  unfold explore
  split
  · exact sorted
  · induction g.callees current generalizing s with
    | nil => exact sorted
    | cons id rest ih =>
      refine ih ?_
      unfold Search.visit
      split
      · exact sorted
      · exact insertPosition_insertsBy.sorted_insert sorted

theorem search_increasing {g : CallGraph} {depth : Option Nat} {s : Search}
    (sorted : s.seen.Pairwise (· < ·)) :
    (g.search depth s).Pairwise (· < ·) := by
  induction s using CallGraph.search.induct g depth with
  | case1 seen =>
    rw [search]
    exact sorted
  | case2 seen current distance rest ih =>
    rw [search]
    exact ih (explore_increasing current distance sorted)

/-- Breadth-first search is exact at every depth: it comes to its end after at most one round for each
root and each edge, and then has just what paths that are no longer than the depth lead to. -/
theorem reachable_exactly (g : CallGraph) (roots : List Nat) (depth : Option Nat) :
    (∃ n ≤ (positionSet roots).length + g.edges.length,
      g.Rounds depth n ⟨positionSet roots, (positionSet roots).map (·, 0)⟩
        ⟨g.reachable roots depth, []⟩) ∧
    (g.reachable roots depth).Pairwise (· < ·) ∧
    ∀ j, j ∈ g.reachable roots depth ↔
      ∃ i ∈ roots, ∃ n, (∀ d ∈ depth, n ≤ d) ∧ g.Path n i j := by
  refine ⟨?_, search_increasing (positionSet_increasing roots), fun j => mem_reachable⟩
  obtain ⟨n, few, rounds⟩ := rounds_search g depth
    ⟨positionSet roots, (positionSet roots).map (·, 0)⟩
  refine ⟨n, few.trans ?_, rounds⟩
  rw [ahead, List.length_map, Nat.add_comm]
  exact Nat.add_le_add_left (List.length_filter_le _ _) _

end CallGraph
end CallChart
