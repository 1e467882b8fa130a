import CallChart.Graph
import Mathlib.Algebra.GroupWithZero.Nat
import Mathlib.Data.List.Induction
import Mathlib.Data.List.Nodup
import Mathlib.Data.List.Perm.Basic
import Mathlib.Tactic.Common

namespace CallChart

namespace Edge

def ends (e : Edge) : Nat × Nat := (e.caller, e.callee)

theorem joins_iff {e : Edge} {i j : Nat} : e.joins i j = true ↔ e.ends = (i, j) := by
  simp [joins, ends]

@[simp] theorem ends_record (e : Edge) (dynamic : Bool) : (e.record dynamic).ends = e.ends := by
  cases dynamic <;> rfl

@[simp] theorem sites_record (e : Edge) (dynamic : Bool) :
    (e.record dynamic).sites = e.sites + 1 := by
  cases dynamic <;> simp [record, sites] <;> omega

theorem record_record (e : Edge) (dynamic other : Bool) :
    (e.record dynamic).record other = (e.record other).record dynamic := by
  cases dynamic <;> cases other <;> rfl

end Edge

namespace CallGraph

def edgeBetween (edges : List Edge) (i j : Nat) : Edge :=
  (edges.find? (·.joins i j)).getD ⟨i, j, 0, 0⟩

theorem edgeBetween_recordCall (caller callee : Nat) (dynamic : Bool) (edges : List Edge)
    (i j : Nat) : edgeBetween (recordCall caller callee dynamic edges) i j =
      if (caller, callee) = (i, j) then (edgeBetween edges i j).record dynamic
      else edgeBetween edges i j := by
  induction edges with
  | nil =>
    have fresh : (Edge.record ⟨caller, callee, 0, 0⟩ dynamic).joins i j = true ↔
        (caller, callee) = (i, j) := by
      rw [Edge.joins_iff, Edge.ends_record]
      rfl
    simp only [edgeBetween, recordCall, List.find?_cons, List.find?_nil]
    split
    · rename_i joined
      obtain ⟨rfl, rfl⟩ := Prod.mk.inj (fresh.mp joined)
      simp
    · rename_i apart
      rw [if_neg fun same => by simp [fresh.mpr same] at apart]
  | cons e rest ih =>
    simp only [recordCall]
    by_cases mine : e.joins caller callee = true
    · rw [if_pos mine]
      have same : (e.record dynamic).joins i j = e.joins i j := by
        rw [Bool.eq_iff_iff, Edge.joins_iff, Edge.joins_iff, Edge.ends_record]
      simp only [edgeBetween, List.find?_cons, same]
      rw [Edge.joins_iff] at mine
      split
      · rename_i joined
        rw [Edge.joins_iff] at joined
        rw [if_pos (mine.symm.trans joined)]
        rfl
      · rename_i apart
        rw [if_neg fun equal => by simp [Edge.joins_iff.mpr (mine.trans equal)] at apart]
    · rw [if_neg mine]
      simp only [edgeBetween, List.find?_cons] at ih ⊢
      split
      · rename_i joined
        rw [Edge.joins_iff] at joined
        rw [if_neg fun equal => mine (Edge.joins_iff.mpr (joined.trans equal.symm))]
      · exact ih

/-- No pair has two edges, every edge has a call, and it joins two of the functions there are. -/
structure EdgesWell (count : Nat) (edges : List Edge) : Prop where
  single : (edges.map Edge.ends).Nodup
  called {e : Edge} : e ∈ edges → 0 < e.sites
  inside {e : Edge} : e ∈ edges → e.caller < count ∧ e.callee < count

theorem ends_recordCall (caller callee : Nat) (dynamic : Bool) (edges : List Edge) :
    (recordCall caller callee dynamic edges).map Edge.ends =
      if (caller, callee) ∈ edges.map Edge.ends then edges.map Edge.ends
      else edges.map Edge.ends ++ [(caller, callee)] := by
  induction edges with
  | nil =>
    simp only [recordCall, List.map_cons, List.map_nil, Edge.ends_record]
    rfl
  | cons e rest ih =>
    simp only [recordCall]
    by_cases mine : e.joins caller callee = true
    · rw [if_pos mine]
      simp [Edge.joins_iff.mp mine]
    · rw [if_neg mine]
      have other : (caller, callee) ≠ e.ends := fun same => mine (Edge.joins_iff.mpr same.symm)
      simp only [List.map_cons, ih, List.mem_cons, other, false_or]
      split <;> rfl

theorem mem_recordCall {edges : List Edge} {caller callee : Nat} {dynamic : Bool} {e : Edge}
    (within : e ∈ recordCall caller callee dynamic edges) :
    e ∈ edges ∨ ∃ d : Edge, e = d.record dynamic ∧ d.ends = (caller, callee) := by
  induction edges with
  | nil =>
    obtain rfl := List.mem_singleton.mp within
    exact .inr ⟨_, rfl, rfl⟩
  | cons d rest ih =>
    simp only [recordCall] at within
    split at within
    · rename_i mine
      rcases List.mem_cons.mp within with rfl | within
      · exact .inr ⟨d, rfl, Edge.joins_iff.mp mine⟩
      · exact .inl (List.mem_cons_of_mem _ within)
    · rcases List.mem_cons.mp within with rfl | within
      · exact .inl List.mem_cons_self
      · exact (ih within).imp_left (List.mem_cons_of_mem _)

theorem sites_recordCall (caller callee : Nat) (dynamic : Bool) (edges : List Edge) :
    ((recordCall caller callee dynamic edges).map Edge.sites).sum =
      (edges.map Edge.sites).sum + 1 := by
  induction edges with
  | nil =>
    simp only [recordCall, List.map_cons, List.map_nil, List.sum_cons, Edge.sites_record]
    rfl
  | cons e rest ih =>
    simp only [recordCall]
    split
    · simp only [List.map_cons, List.sum_cons, Edge.sites_record]
      omega
    · simp only [List.map_cons, List.sum_cons, ih]
      omega

theorem recordCall_eq (caller callee : Nat) (dynamic : Bool) (edges : List Edge) :
    recordCall caller callee dynamic edges =
      match edges.findIdx? (·.joins caller callee) with
      | some i => edges.modify i (·.record dynamic)
      | none => edges ++ [Edge.record ⟨caller, callee, 0, 0⟩ dynamic] := by
  induction edges with
  | nil => rfl
  | cons e rest ih =>
    rw [recordCall, List.findIdx?_cons, ih]
    split
    · rfl
    · cases rest.findIdx? (·.joins caller callee) <;> rfl

namespace EdgesWell

theorem nil (count : Nat) : EdgesWell count [] := ⟨List.nodup_nil, nofun, nofun⟩

theorem recordCall {edges : List Edge} {caller callee count : Nat} (well : EdgesWell count edges)
    (first : caller < count) (second : callee < count) (dynamic : Bool) :
    EdgesWell count (recordCall caller callee dynamic edges) where
  single := by
    rw [ends_recordCall]
    split
    · exact well.single
    · rename_i fresh
      exact well.single.append (List.nodup_singleton _) (by simpa using fresh)
  called := by
    intro e within
    rcases mem_recordCall within with before | ⟨d, rfl, -⟩
    · exact well.called before
    · simp
  inside := by
    intro e within
    rcases mem_recordCall within with before | ⟨d, rfl, joined⟩
    · exact well.inside before
    · have ends := (d.ends_record dynamic).trans joined
      obtain ⟨rfl, rfl⟩ := Prod.mk.inj ends
      exact ⟨first, second⟩

theorem mem_iff {edges : List Edge} {count : Nat} {e : Edge} (well : EdgesWell count edges) :
    e ∈ edges ↔ 0 < e.sites ∧ edgeBetween edges e.caller e.callee = e := by
  constructor
  · intro within
    refine ⟨well.called within, ?_⟩
    unfold edgeBetween
    cases found : edges.find? (·.joins e.caller e.callee) with
    | none => simpa [Edge.joins] using List.find?_eq_none.mp found e within
    | some d =>
      have joined : d.joins e.caller e.callee = true := by simpa using List.find?_some found
      have same : d.ends = e.ends := Edge.joins_iff.mp joined
      exact List.inj_on_of_nodup_map well.single (List.mem_of_find?_eq_some found) within same
  · rintro ⟨called, between⟩
    unfold edgeBetween at between
    cases found : edges.find? (·.joins e.caller e.callee) with
    | none =>
      rw [found] at between
      rw [← between] at called
      simp [Edge.sites] at called
    | some d =>
      rw [found] at between
      obtain rfl : d = e := between
      exact List.mem_of_find?_eq_some found

end EdgesWell

structure Site where
  caller : Nat
  callee : Nat
  dynamic : Bool

def recordAll (sites : List Site) (edges : List Edge) : List Edge :=
  sites.foldl (fun edges s => recordCall s.caller s.callee s.dynamic edges) edges

theorem EdgesWell.recordAll {edges : List Edge} {count : Nat} {sites : List Site}
    (well : EdgesWell count edges) (inside : ∀ s ∈ sites, s.caller < count ∧ s.callee < count) :
    EdgesWell count (recordAll sites edges) := by
  induction sites generalizing edges with
  | nil => exact well
  | cons s rest ih =>
    obtain ⟨first, others⟩ := List.forall_mem_cons.mp inside
    exact ih (well.recordCall first.1 first.2 s.dynamic) others

theorem edgeBetween_recordAll (sites : List Site) (edges : List Edge) (i j : Nat) :
    edgeBetween (recordAll sites edges) i j =
      (sites.filter fun s => (s.caller, s.callee) = (i, j)).foldl
        (fun e s => e.record s.dynamic) (edgeBetween edges i j) := by
  induction sites generalizing edges with
  | nil => rfl
  | cons s rest ih =>
    rw [recordAll, List.foldl_cons, ← recordAll, ih, edgeBetween_recordCall, List.filter_cons]
    by_cases mine : (s.caller, s.callee) = (i, j)
    · rw [if_pos mine, if_pos (decide_eq_true mine), List.foldl_cons]
    · rw [if_neg mine, if_neg (by simpa using mine)]

theorem foldl_record_eq (sites : List Site) (e : Edge) :
    sites.foldl (fun e s => e.record s.dynamic) e =
      { e with
        staticSites := e.staticSites + sites.countP (!·.dynamic)
        dynamicSites := e.dynamicSites + sites.countP (·.dynamic) } := by
  induction sites generalizing e with
  | nil => rfl
  | cons s rest ih =>
    rw [List.foldl_cons, ih]
    cases dynamic : s.dynamic <;> simp [Edge.record, dynamic] <;> omega

theorem foldl_record (sites : List Site) (e : Edge) :
    let counted := sites.foldl (fun e s => e.record s.dynamic) e
    counted.ends = e.ends ∧ counted.sites = e.sites + sites.length ∧
      counted.isDynamic = (e.isDynamic || sites.any (·.dynamic)) := by
  have all := sites.length_eq_countP_add_countP (·.dynamic)
  simp only [Bool.not_eq_true, Bool.decide_eq_false] at all
  rw [foldl_record_eq]
  refine ⟨rfl, ?_, ?_⟩
  · simp only [Edge.sites]
    omega
  · rw [Bool.eq_iff_iff]
    simp only [Edge.isDynamic, Bool.or_eq_true, decide_eq_true_eq, List.any_eq_true,
      Nat.add_pos_iff_pos_or_pos, List.countP_pos_iff]

theorem eraseDups_concat {α : Type} [BEq α] [LawfulBEq α] (l : List α) (a : α) :
    (l ++ [a]).eraseDups = if l.contains a then l.eraseDups else l.eraseDups ++ [a] := by
  rw [List.eraseDups_append]
  split <;> rename_i within <;> simp_all [List.removeAll, List.eraseDups_cons]

theorem eraseDups_nodup {α : Type} [BEq α] [LawfulBEq α] (l : List α) : l.eraseDups.Nodup := by
  induction l using List.reverseRecOn with
  | nil => exact List.nodup_nil
  | append_singleton l a ih =>
    rw [eraseDups_concat]
    split
    · exact ih
    · rename_i missing
      have missing : a ∉ l.eraseDups := by simpa using missing
      exact ih.append (List.nodup_singleton a) (by simpa using missing)

theorem ends_recordAll (sites : List Site) :
    (recordAll sites []).map Edge.ends = (sites.map fun s => (s.caller, s.callee)).eraseDups := by
  induction sites using List.reverseRecOn with
  | nil => rfl
  | append_singleton sites s ih =>
    have last : recordAll (sites ++ [s]) [] =
        recordCall s.caller s.callee s.dynamic (recordAll sites []) := by simp [recordAll]
    rw [last, ends_recordCall, ih, List.map_append, List.map_singleton, eraseDups_concat]
    simp only [List.mem_eraseDups, List.contains_iff_mem]

def countedEdge (sites : List Site) (i j : Nat) : Edge where
  caller := i
  callee := j
  staticSites := sites.countP fun s => (s.caller, s.callee) = (i, j) ∧ s.dynamic = false
  dynamicSites := sites.countP fun s => (s.caller, s.callee) = (i, j) ∧ s.dynamic = true

theorem edgeBetween_recordAll_nil (sites : List Site) (i j : Nat) :
    edgeBetween (recordAll sites []) i j = countedEdge sites i j := by
  rw [edgeBetween_recordAll, foldl_record_eq, List.countP_filter, List.countP_filter]
  simp [edgeBetween, countedEdge, and_comm]

theorem recordAll_eq {count : Nat} {sites : List Site}
    (inside : ∀ s ∈ sites, s.caller < count ∧ s.callee < count) :
    recordAll sites [] =
      (sites.map fun s => (s.caller, s.callee)).eraseDups.map fun p => countedEdge sites p.1 p.2 := by
  have well := (EdgesWell.nil count).recordAll inside
  have counted : ∀ e ∈ recordAll sites [], countedEdge sites e.ends.1 e.ends.2 = e := by
    intro e within
    rw [← edgeBetween_recordAll_nil]
    exact (well.mem_iff.mp within).2
  rw [← ends_recordAll, List.map_map]
  exact (List.map_id _).symm.trans (List.map_congr_left fun e within => (counted e within).symm)

theorem recordAll_perm {count : Nat} {sites sites' : List Site} (perm : sites.Perm sites')
    (inside : ∀ s ∈ sites, s.caller < count ∧ s.callee < count) :
    (recordAll sites []).Perm (recordAll sites' []) := by
  have well := (EdgesWell.nil count).recordAll inside
  have well' := (EdgesWell.nil count).recordAll fun s within => inside s (perm.mem_iff.mpr within)
  have same (i j : Nat) :
      edgeBetween (recordAll sites []) i j = edgeBetween (recordAll sites' []) i j := by
    rw [edgeBetween_recordAll, edgeBetween_recordAll]
    exact (perm.filter _).foldl_eq' (fun s _ t _ e => Edge.record_record e s.dynamic t.dynamic) _
  rw [List.perm_ext_iff_of_nodup well.single.of_map well'.single.of_map]
  intro e
  rw [well.mem_iff, well'.mem_iff, same]

end CallGraph
end CallChart
