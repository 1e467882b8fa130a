import CallChart.Cluster
import CallChart.Proofs.Insertion
import Mathlib.Data.List.Perm.Basic
import Mathlib.Data.List.Sort
import Mathlib.Data.Prod.Lex
import Mathlib.Data.String.Basic

namespace CallChart

namespace CallGraph

theorem insertPackage_insertsBy : InsertsBy Package.path insertPackage where
  first _ := rfl
  before _ less := if_pos less
  replaces _ same := by rw [insertPackage, if_neg (same ▸ lt_irrefl _), if_pos same]
  behind _ more := by rw [insertPackage, if_neg more.asymm, if_neg more.ne']

theorem find?_insertPackage (p : Package) (packages : List Package) (path : String) :
    (insertPackage p packages).find? (·.path = path) =
      if p.path = path then some p else packages.find? (·.path = path) := by
  have rule := insertPackage_insertsBy
  induction packages with
  | nil => rw [rule.first, List.find?_singleton]; simp
  | cons q rest ih =>
    rcases lt_trichotomy p.path q.path with first | first | first
    · rw [rule.before _ first, List.find?_cons]
      split <;> rename_i named <;> simp_all
    · rw [rule.replaces _ first, List.find?_cons, List.find?_cons, ← first]
      split <;> rename_i named <;> simp_all
    · rw [rule.behind _ first, List.find?_cons, List.find?_cons, ih]
      split
      · rename_i named
        have other : p.path ≠ path := by
          rw [← of_decide_eq_true named]
          exact first.ne'
        rw [if_neg other]
      · rfl

theorem package?_addPackages (packages : List Package) (g : CallGraph) (path : String) :
    (packages.foldl addPackage g).package? path =
      (packages.filter (·.path = path)).getLast?.or (g.package? path) := by
  induction packages generalizing g with
  | nil => rfl
  | cons p rest ih =>
    rw [List.foldl_cons, ih, package?, addPackage, find?_insertPackage, List.filter_cons]
    by_cases named : p.path = path
    · rw [if_pos named, if_pos (decide_eq_true named), List.getLast?_cons]
      cases (rest.filter (·.path = path)).getLast? <;> rfl
    · rw [if_neg named, if_neg (by simpa using named)]
      rfl

theorem addPackages_increasing (packages : List Package) {g : CallGraph}
    (sorted : g.packages.Pairwise (·.path < ·.path)) :
    (packages.foldl addPackage g).packages.Pairwise (·.path < ·.path) := by
  induction packages generalizing g with
  | nil => exact sorted
  | cons p rest ih => exact ih (insertPackage_insertsBy.sorted_insert sorted)

theorem addPackages_perm {packages packages' : List Package} (perm : packages.Perm packages')
    (apart : (packages.map (·.path)).Nodup) (g : CallGraph) :
    packages.foldl addPackage g = packages'.foldl addPackage g := by
  refine perm.foldl_eq' (fun p first q second g => ?_) g
  by_cases same : p = q
  · rw [same]
  · have paths : q.path ≠ p.path := fun equal =>
      same (List.inj_on_of_nodup_map apart first second equal.symm)
    exact congrArg (fun l => { g with packages := l })
      (insertPackage_insertsBy.comm paths g.packages)

theorem package?_eq_some_iff {g : CallGraph} (sorted : g.packages.Pairwise (·.path < ·.path))
    {path : String} {p : Package} : g.package? path = some p ↔ p ∈ g.packages ∧ p.path = path := by
  have apart : (g.packages.map (·.path)).Nodup :=
    List.pairwise_map.mpr (sorted.imp fun less => less.ne)
  constructor
  · intro found
    exact ⟨List.mem_of_find?_eq_some found, by simpa using List.find?_some found⟩
  · rintro ⟨within, rfl⟩
    cases found : g.package? p.path with
    | none => simpa using List.find?_eq_none.mp found p within
    | some q =>
      have named : q.path = p.path := by simpa using List.find?_some found
      rw [List.inj_on_of_nodup_map apart (List.mem_of_find?_eq_some found) within named]

end CallGraph

namespace ClusterKey

def rank : ClusterKey → Bool ×ₗ String ×ₗ String
  | .package path => toLex (false, toLex (path, ""))
  | .type path typeName => toLex (true, toLex (path, typeName))

theorem rank_injective : Function.Injective rank := by
  intro a b same
  cases a <;> cases b <;> simp_all [rank]

theorem before_iff {a b : ClusterKey} : a.before b = true ↔ a.rank < b.rank := by
  cases a <;> cases b <;> simp [before, rank, Prod.Lex.toLex_lt_toLex]

def insert (key : ClusterKey) : List ClusterKey → List ClusterKey
  | [] => [key]
  | k :: rest =>
    if key.before k then key :: k :: rest
    else if key = k then k :: rest
    else k :: insert key rest

def sorted (keys : List ClusterKey) : List ClusterKey :=
  keys.foldr insert []

theorem insert_insertsBy : InsertsBy rank insert where
  first _ := rfl
  before _ less := if_pos (before_iff.mpr less)
  replaces {a k} _ same := by
    obtain rfl := rank_injective same
    rw [insert, if_neg fun less => lt_irrefl _ (before_iff.mp less), if_pos rfl]
  behind {a k} _ more := by
    rw [insert, if_neg fun less => more.asymm (before_iff.mp less),
      if_neg fun (same : a = k) => more.ne' (congrArg rank same)]

theorem sorted_perm {keys keys' : List ClusterKey} (perm : keys.Perm keys') :
    sorted keys = sorted keys' := by
  refine perm.foldr_eq' (fun a _ b _ l => ?_) []
  by_cases same : a = b
  · rw [same]
  · exact insert_insertsBy.comm (rank_injective.ne fun equal => same equal.symm) l

theorem mem_sorted {key : ClusterKey} {keys : List ClusterKey} : key ∈ sorted keys ↔ key ∈ keys :=
  insert_insertsBy.mem_foldr rank_injective

theorem sorted_increasing (keys : List ClusterKey) :
    (sorted keys).Pairwise fun a b => a.rank < b.rank :=
  insert_insertsBy.sorted_foldr keys

theorem sorted_nodup (keys : List ClusterKey) : (sorted keys).Nodup :=
  (sorted_increasing keys).imp fun less same => less.ne (congrArg rank same)

end ClusterKey

theorem mergeSort_increasing {α β : Type} [LinearOrder β] (rank : α → β) (l : List α) :
    (l.mergeSort fun a b => decide (rank a ≤ rank b)).Pairwise fun a b => rank a ≤ rank b := by
  have trans (a b c : α) (first : decide (rank a ≤ rank b) = true)
      (second : decide (rank b ≤ rank c) = true) : decide (rank a ≤ rank c) = true := by
    rw [decide_eq_true_eq] at *
    exact first.trans second
  have total (a b : α) : (decide (rank a ≤ rank b) || decide (rank b ≤ rank a)) = true := by
    simpa using le_total (rank a) (rank b)
  simpa using List.pairwise_mergeSort trans total l

theorem mergeSort_map {α α' β : Type} [LinearOrder β] {move : α → α'} {rank : α → β}
    {rank' : α' → β} {l : List α} {l' : List α'} (perm : l'.Perm (l.map move))
    (kept : ∀ a, rank' (move a) = rank a)
    (apart : ∀ a ∈ l, ∀ b ∈ l, rank a = rank b → a = b) :
    l'.mergeSort (fun a b => decide (rank' a ≤ rank' b)) =
      (l.mergeSort fun a b => decide (rank a ≤ rank b)).map move := by
  refine List.Perm.eq_of_pairwise ?_ (mergeSort_increasing rank' l') ?_ ?_
  · intro a b first second (below : rank' a ≤ rank' b) (above : rank' b ≤ rank' a)
    have first := perm.mem_iff.mp ((List.mergeSort_perm _ _).mem_iff.mp first)
    obtain ⟨a, within, rfl⟩ := List.mem_map.mp first
    obtain ⟨b, within', rfl⟩ := List.mem_map.mp second
    have within' := (List.mergeSort_perm _ _).mem_iff.mp within'
    have same := le_antisymm below above
    rw [kept, kept] at same
    rw [apart a within b within' same]
  · rw [List.pairwise_map]
    simpa only [kept] using mergeSort_increasing rank l
  · exact ((List.mergeSort_perm _ _).trans perm).trans ((List.mergeSort_perm _ _).map move).symm

end CallChart
