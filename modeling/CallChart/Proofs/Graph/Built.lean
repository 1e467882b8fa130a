import CallChart.Analysis
import CallChart.Proofs.Graph.Renumbered
import CallChart.Proofs.Text.Split

namespace CallChart

namespace CallGraph

def site? (g : CallGraph) (call : Export.Call) : Option Site := do
  let caller ← g.find? call.caller
  let callee ← g.find? call.callee
  pure ⟨caller, callee, call.dynamic⟩

theorem find?_isSome_iff {g : CallGraph} {name : String} :
    (g.find? name).isSome ↔ name ∈ g.functions.map (·.name) := by
  simp [find?, List.findIdx?_isSome]

theorem lt_of_find? {g : CallGraph} {name : String} {i : Nat} (found : g.find? name = some i) :
    i < g.functions.length :=
  (List.findIdx?_eq_some_iff_getElem.mp found).1

theorem site?_eq_some_iff {g : CallGraph} {call : Export.Call} {s : Site} : g.site? call = some s ↔
    g.find? call.caller = some s.caller ∧ g.find? call.callee = some s.callee ∧
      call.dynamic = s.dynamic := by
  obtain ⟨caller, callee, dynamic⟩ := s
  simp only [site?, Option.bind_eq_bind, Option.bind_eq_some_iff, Option.pure_def,
    Option.some.injEq, Site.mk.injEq]
  constructor
  · rintro ⟨i, first, j, second, rfl, rfl, same⟩
    exact ⟨first, second, same⟩
  · rintro ⟨first, second, same⟩
    exact ⟨caller, first, callee, second, rfl, rfl, same⟩

theorem position_eq_iff {g : CallGraph} (apart : g.NamesApart) {name : String} {i j : Nat}
    {f : Function} (found : g.find? name = some j) (there : g.functions[i]? = some f) :
    j = i ↔ name = f.name := by
  obtain ⟨d, at', rfl⟩ := (find?_eq_some_iff apart).mp found
  constructor
  · rintro rfl
    rw [Option.some.inj (at'.symm.trans there)]
  · exact apart at' there

theorem inside_sites {g : CallGraph} (calls : List Export.Call) : ∀ s ∈ calls.filterMap g.site?,
    s.caller < g.functions.length ∧ s.callee < g.functions.length := by
  intro s within
  obtain ⟨call, -, found⟩ := List.mem_filterMap.mp within
  obtain ⟨caller, callee, -⟩ := site?_eq_some_iff.mp found
  exact ⟨lt_of_find? caller, lt_of_find? callee⟩

end CallGraph

namespace Export

open CallGraph

theorem nodup_of_addFunctions {g g' : CallGraph} {functions : List Function}
    (added : addFunctions g functions = .ok g') (once : (g.functions.map (·.name)).Nodup) :
    (g.functions.map (·.name) ++ functions.map (·.name)).Nodup := by
  induction functions generalizing g with
  | nil => simpa using once
  | cons f rest ih =>
    simp only [addFunctions, addFunction] at added
    by_cases taken : (g.find? f.resolved.name).isSome
    · simp [taken] at added
    · by_cases unknown : (g.package? f.resolved.package).isNone
      · simp [taken, unknown] at added
      · have fresh : f.resolved.name ∉ g.functions.map (·.name) := mt find?_isSome_iff.mpr taken
        rw [if_neg taken, if_neg unknown] at added
        have later := ih added (by
          rw [List.map_append]
          exact once.append (List.nodup_singleton _) (by simpa using fresh))
        simpa [Function.resolved] using later

theorem addFunctions_eq_ok_iff {g g' : CallGraph} {functions : List Function}
    (apart : (g.functions.map (·.name) ++ functions.map (·.name)).Nodup) :
    addFunctions g functions = .ok g' ↔
      (∀ f ∈ functions, (g.package? f.package).isSome) ∧
      g' = { g with functions := g.functions ++ functions.map Function.resolved } := by
  induction functions generalizing g with
  | nil =>
    simp only [addFunctions, Except.ok.injEq, List.map_nil, List.append_nil]
    exact ⟨fun same => ⟨nofun, same.symm⟩, fun ⟨_, same⟩ => same.symm⟩
  | cons f rest ih =>
    have fresh : (g.find? f.resolved.name).isSome = false := by
      rw [← Bool.not_eq_true, find?_isSome_iff]
      intro taken
      exact (List.nodup_append.mp apart).2.2 _ taken _ (by simp [Function.resolved]) rfl
    rw [addFunctions, addFunction, if_neg (by simp [fresh])]
    by_cases known : (g.package? f.package).isSome
    · have later : (({ g with functions := g.functions ++ [f.resolved] } :
          CallGraph).functions.map (·.name) ++ rest.map (·.name)).Nodup := by
        simpa [Function.resolved] using apart
      have missing : ¬ (g.package? f.resolved.package).isNone := by
        simpa [Function.resolved, Option.isSome_iff_ne_none] using known
      simp only [if_neg missing, ih later, List.forall_mem_cons, known, true_and, List.map_cons,
        List.append_assoc, List.singleton_append]
      rfl
    · have missing : (g.package? f.resolved.package).isNone := by
        simpa [Function.resolved] using known
      simp [missing, known]

theorem addCalls_eq_ok_iff {g g' : CallGraph} {calls : List Call} : addCalls g calls = .ok g' ↔
    (∀ c ∈ calls, (g.site? c).isSome) ∧
    g' = { g with edges := recordAll (calls.filterMap g.site?) g.edges } := by
  induction calls generalizing g with
  | nil =>
    simp only [addCalls, Except.ok.injEq]
    exact ⟨fun same => ⟨nofun, same.symm⟩, fun ⟨_, same⟩ => same.symm⟩
  | cons c rest ih =>
    rw [addCalls]
    cases caller : g.find? c.caller with
    | none => simp [site?, caller]
    | some i =>
      cases callee : g.find? c.callee with
      | none => simp [site?, caller, callee]
      | some j =>
        have there : g.site? c = some ⟨i, j, c.dynamic⟩ := by simp [site?, caller, callee]
        simp only [ih, List.forall_mem_cons, there, Option.isSome_some, true_and,
          List.filterMap_cons_some there]
        rfl

def declared (x : Export) (entry : String) : CallGraph where
  packages := ((x.packages.map (Package.resolved entry)).foldl addPackage .empty).packages
  functions := x.functions.map Function.resolved
  edges := []

def built (x : Export) (entry : String) : CallGraph :=
  { x.declared entry with edges := recordAll (x.calls.filterMap (x.declared entry).site?) [] }

/-- Whether every function's package and both functions of every call are in the export. -/
def Fits (x : Export) (entry : String) : Prop :=
  (∀ f ∈ x.functions, ((x.declared entry).package? f.package).isSome) ∧
  ∀ c ∈ x.calls, ((x.declared entry).site? c).isSome

theorem foldl_addPackage (packages : List CallChart.Package) (g : CallGraph) :
    packages.foldl addPackage g =
      { g with packages := (packages.foldl addPackage g).packages } := by
  induction packages generalizing g with
  | nil => rfl
  | cons p rest ih => exact ih (g.addPackage p)

theorem foldl_declared (x : Export) (entry : String) :
    (x.packages.map (Package.resolved entry)).foldl addPackage .empty =
      ⟨(x.declared entry).packages, [], []⟩ :=
  foldl_addPackage _ _

theorem graph_eq_ok_iff {x : Export} {g : CallGraph} {entry : String}
    (names : (x.functions.map (·.name)).Nodup) :
    x.graph entry = .ok g ↔ x.Fits entry ∧ g = x.built entry := by
  have added (g : CallGraph) : addFunctions ⟨(x.declared entry).packages, [], []⟩ x.functions =
      .ok g ↔ (∀ f ∈ x.functions, ((x.declared entry).package? f.package).isSome) ∧
        g = x.declared entry :=
    addFunctions_eq_ok_iff names
  rw [graph, foldl_declared, Fits, and_assoc]
  cases functions : addFunctions ⟨(x.declared entry).packages, [], []⟩ x.functions with
  | error fault =>
    refine ⟨nofun, fun ⟨known, _⟩ => ?_⟩
    have ok := (added (x.declared entry)).mpr ⟨known, rfl⟩
    simp [functions] at ok
  | ok h =>
    obtain ⟨known, rfl⟩ := (added h).mp functions
    rw [and_iff_right known]
    exact addCalls_eq_ok_iff

def callsBetween (x : Export) (caller callee : String) : List Call :=
  x.calls.filter fun c => c.caller = caller ∧ c.callee = callee

/-- A graph that an export has, with names that tell its functions apart. -/
structure Builds (x : Export) (entry : String) (g : CallGraph) : Prop where
  names : (x.functions.map (·.name)).Nodup
  fits : x.Fits entry
  graph : g = x.built entry

theorem builds_of_graph {x : Export} {g : CallGraph} {entry : String}
    (built : x.graph entry = .ok g) : x.Builds entry g := by
  have names : (x.functions.map (·.name)).Nodup := by
    rw [graph, foldl_declared] at built
    cases functions : addFunctions ⟨(x.declared entry).packages, [], []⟩ x.functions with
    | error fault => simp [functions, bind, Except.bind] at built
    | ok h => simpa using nodup_of_addFunctions functions List.nodup_nil
  obtain ⟨fits, same⟩ := (graph_eq_ok_iff names).mp built
  exact ⟨names, fits, same⟩

namespace Builds

theorem declared_apart {x : Export} {g : CallGraph} {entry : String} (builds : x.Builds entry g) :
    (x.declared entry).NamesApart := by
  refine namesApart_of_nodup ?_
  rw [declared, List.map_map]
  exact builds.names

theorem apart {x : Export} {g : CallGraph} {entry : String} (builds : x.Builds entry g) :
    g.NamesApart := by
  rw [builds.graph]
  exact builds.declared_apart

theorem package_isSome {x : Export} {g : CallGraph} {entry : String} (builds : x.Builds entry g)
    {f : CallChart.Function} (within : f ∈ g.functions) :
    (g.package? f.package).isSome := by
  rw [builds.graph] at within ⊢
  obtain ⟨raw, there, rfl⟩ := List.mem_map.mp within
  exact builds.fits.1 raw there

theorem well {x : Export} {g : CallGraph} {entry : String} (builds : x.Builds entry g) :
    EdgesWell g.functions.length g.edges := by
  rw [builds.graph]
  exact (EdgesWell.nil _).recordAll (inside_sites x.calls)

theorem sites_between {x : Export} {g : CallGraph} {entry : String} (builds : x.Builds entry g)
    {i j : Nat} {f k : CallChart.Function} (caller : (x.declared entry).functions[i]? = some f)
    (callee : (x.declared entry).functions[j]? = some k) :
    ((x.calls.filterMap (x.declared entry).site?).filter fun s => (s.caller, s.callee) = (i, j)) =
      (x.callsBetween f.name k.name).map fun c => ⟨i, j, c.dynamic⟩ := by
  have apart := builds.declared_apart
  have known := builds.fits.2
  unfold callsBetween
  generalize x.calls = calls at known
  induction calls with
  | nil => rfl
  | cons c rest ih =>
    -- A call is at the site (i, j) just if its names are those of the functions there.
    obtain ⟨there, others⟩ := List.forall_mem_cons.mp known
    obtain ⟨s, found⟩ := Option.isSome_iff_exists.mp there
    obtain ⟨first, second, dynamic⟩ := site?_eq_some_iff.mp found
    have callers := position_eq_iff apart first caller
    have callees := position_eq_iff apart second callee
    rw [List.filterMap_cons_some found, List.filter_cons, List.filter_cons, ih others]
    by_cases mine : c.caller = f.name ∧ c.callee = k.name
    · obtain ⟨rfl, rfl⟩ := And.intro (callers.mpr mine.1) (callees.mpr mine.2)
      simp [mine, dynamic]
    · have other : (s.caller, s.callee) ≠ (i, j) := by
        intro same
        obtain ⟨sameCaller, sameCallee⟩ := Prod.mk.inj same
        exact mine ⟨callers.mp sameCaller, callees.mp sameCallee⟩
      simp [mine, other]

theorem edgeBetween {x : Export} {g : CallGraph} {entry : String} (builds : x.Builds entry g)
    {i j : Nat} {f k : CallChart.Function} (caller : g.functions[i]? = some f)
    (callee : g.functions[j]? = some k) :
    let e := CallGraph.edgeBetween g.edges i j
    let calls := x.callsBetween f.name k.name
    e.ends = (i, j) ∧ e.sites = calls.length ∧ e.isDynamic = calls.any (·.dynamic) := by
  obtain rfl := builds.graph
  have sites := builds.sites_between caller callee
  have counted := foldl_record
    ((x.callsBetween f.name k.name).map fun c => ⟨i, j, c.dynamic⟩) ⟨i, j, 0, 0⟩
  have edge : CallGraph.edgeBetween (x.built entry).edges i j =
      ((x.callsBetween f.name k.name).map fun c => (⟨i, j, c.dynamic⟩ : Site)).foldl
        (fun e s => e.record s.dynamic) ⟨i, j, 0, 0⟩ := by
    rw [← sites]
    exact edgeBetween_recordAll _ [] i j
  rw [edge]
  simpa [Edge.ends, Edge.sites, Edge.isDynamic, List.any_map, Function.comp_def] using counted

end Builds
end Export

namespace Export

open CallGraph

def lastPackage? (x : Export) (path : String) : Option Package :=
  (x.packages.filter (·.path = path)).getLast?

/-- An export whose names fit together for an entry package. -/
structure Resolvable (x : Export) (entry : String) (tests : Bool) : Prop where
  names : (x.functions.map (·.name)).Nodup
  packages : ∀ f ∈ x.functions, f.package ∈ x.packages.map (·.path)
  calls : ∀ c ∈ x.calls,
    c.caller ∈ x.functions.map (·.name) ∧ c.callee ∈ x.functions.map (·.name)
  entry : ∃ p, x.lastPackage? entry = some p ∧ (p.name = "main" ∨ tests = true)

/-- A package as a graph has it: what is not said of it follows from its path. -/
structure Package.Becomes (entry : String) (raw : Package) (p : CallChart.Package) : Prop where
  path : p.path = raw.path
  name : p.name = raw.name
  std : raw.std = some p.std ∨ raw.std = none ∧ (p.std = true ↔
    '.' ∉ CallChart.Package.root raw.path ∧
      CallChart.Package.root raw.path ≠ CallChart.Package.root entry)

/-- A function as a graph has it: what is not said of it follows from its name. -/
structure Function.Becomes (raw : Function) (f : CallChart.Function) : Prop where
  name : f.name = raw.name
  package : f.package = raw.package
  receiver : f.receiver = raw.receiver.map fun r => ⟨r.typeName, r.pointer⟩
  synthetic : f.synthetic = raw.synthetic
  test : f.test = raw.test
  short : raw.short = some f.short ∨ raw.short = none ∧ '.' ∉ f.short.toList ∧
    (f.short = raw.name ∨ ∃ front, raw.name.toList = front ++ '.' :: f.short.toList)
  exported : raw.exported = some f.exported ∨ raw.exported = none ∧
    (f.exported = true ↔ ∃ c rest, f.short.toList = c :: rest ∧ Text.isCapital c = true)

def position (x : Export) (name : String) : Nat :=
  x.functions.findIdx (·.name = name)

def edge (x : Export) (caller callee : String) : Edge where
  caller := x.position caller
  callee := x.position callee
  staticSites := x.calls.countP fun c => (c.caller, c.callee) = (caller, callee) ∧ c.dynamic = false
  dynamicSites := x.calls.countP fun c => (c.caller, c.callee) = (caller, callee) ∧ c.dynamic = true

/-- A graph that has just what an export says: a package for each path, the functions in their order,
and an edge for each pair with a call, in the order of the first calls. -/
structure Depicts (x : Export) (entry : String) (g : CallGraph) : Prop where
  paths : g.packages.Pairwise (·.path < ·.path)
  packages (p : CallChart.Package) :
    p ∈ g.packages ↔ ∃ raw, x.lastPackage? p.path = some raw ∧ raw.Becomes entry p
  functions : List.Forall₂ Function.Becomes x.functions g.functions
  ids (i : Nat) (f : CallChart.Function) : g.functions[i]? = some f → g.find? f.name = some i
  edges : g.edges =
    (x.calls.map fun c => (c.caller, c.callee)).eraseDups.map fun pair => x.edge pair.1 pair.2

theorem lastPackage?_isSome_iff {x : Export} {path : String} :
    (x.lastPackage? path).isSome ↔ path ∈ x.packages.map (·.path) := by
  rw [lastPackage?, List.getLast?_isSome, ne_eq, List.filter_eq_nil_iff]
  simp

theorem declared_package? (x : Export) (entry path : String) :
    (x.declared entry).package? path = (x.lastPackage? path).map (Package.resolved entry) := by
  have last := package?_addPackages (x.packages.map (Package.resolved entry)) .empty path
  rw [List.filter_map, List.getLast?_map] at last
  exact last.trans (Option.or_none ..)

theorem fits_iff {x : Export} {entry : String} : x.Fits entry ↔
    (∀ f ∈ x.functions, f.package ∈ x.packages.map (·.path)) ∧
    ∀ c ∈ x.calls,
      c.caller ∈ x.functions.map (·.name) ∧ c.callee ∈ x.functions.map (·.name) := by
  have names : (x.declared entry).functions.map (·.name) = x.functions.map (·.name) := by
    rw [declared, List.map_map]
    rfl
  refine and_congr ?_ ?_
  · simp only [declared_package?, Option.isSome_map, lastPackage?_isSome_iff]
  · refine forall_congr' fun c => imp_congr_right fun _ => ?_
    rw [← names, ← find?_isSome_iff, ← find?_isSome_iff, site?]
    cases (x.declared entry).find? c.caller <;> cases (x.declared entry).find? c.callee <;> simp

theorem graphFor_eq_ok_iff {x : Export} {g : CallGraph} {entry : String} {tests : Bool} :
    x.graphFor entry tests = .ok g ↔ x.Resolvable entry tests ∧ g = x.built entry := by
  have named : (x.built entry).package? entry =
      (x.lastPackage? entry).map (Package.resolved entry) := declared_package? x entry entry
  constructor
  · intro chosen
    unfold graphFor at chosen
    cases graph : x.graph entry with
    | error fault => simp [graph, bind, Except.bind] at chosen
    | ok h =>
      obtain ⟨names, fits, rfl⟩ := builds_of_graph graph
      obtain ⟨packages, calls⟩ := fits_iff.mp fits
      simp only [graph, bind, Except.bind, named] at chosen
      cases last : x.lastPackage? entry with
      | none => simp [last] at chosen
      | some p =>
        simp only [last, Option.map_some] at chosen
        split at chosen
        · cases chosen
        · rename_i main
          have main : p.name = "main" ∨ tests = true := by
            simpa [Package.resolved, imp_iff_not_or] using main
          exact ⟨⟨names, packages, calls, p, last, main⟩, (Except.ok.inj chosen).symm⟩
  · rintro ⟨⟨names, packages, calls, p, last, main⟩, rfl⟩
    have graph : x.graph entry = .ok (x.built entry) :=
      (graph_eq_ok_iff names).mpr ⟨fits_iff.mpr ⟨packages, calls⟩, rfl⟩
    have main : ¬ ((p.resolved entry).name ≠ "main" ∧ ¬ tests = true) := by
      simpa [Package.resolved, imp_iff_not_or] using main
    simp only [graphFor, graph, bind, Except.bind, named, last, Option.map_some, if_neg main]
    rfl

theorem Package.becomes_iff {entry : String} {raw : Package} {p : CallChart.Package} :
    raw.Becomes entry p ↔ p = raw.resolved entry := by
  have standard : CallChart.Package.isStandard raw.path entry = true ↔
      '.' ∉ CallChart.Package.root raw.path ∧
        CallChart.Package.root raw.path ≠ CallChart.Package.root entry := by
    simp [CallChart.Package.isStandard]
  constructor
  · rintro ⟨path, name, std⟩
    obtain ⟨_, _, std'⟩ := p
    obtain rfl := path
    obtain rfl := name
    rcases std with said | ⟨silent, derived⟩
    · simp [resolved, said]
    · rw [← standard, ← Bool.eq_iff_iff] at derived
      simpa [resolved, silent] using derived
  · rintro rfl
    refine ⟨rfl, rfl, ?_⟩
    cases said : raw.std with
    | some std => exact .inl (by simp [resolved, said])
    | none => exact .inr ⟨rfl, by simpa [resolved, said] using standard⟩

theorem Function.becomes_resolved (raw : Function) : raw.Becomes raw.resolved where
  name := rfl
  package := rfl
  receiver := rfl
  synthetic := rfl
  test := rfl
  short := by
    cases said : raw.short with
    | some short => exact .inl (by simp [resolved, shortName, said])
    | none =>
      have short : raw.resolved.short = Text.afterLast '.' raw.name := by
        simp [resolved, shortName, said]
      rw [short]
      exact .inr ⟨rfl, Text.not_mem_afterLast '.' raw.name, Text.afterLast_cases '.' raw.name⟩
  exported := by
    cases said : raw.exported with
    | some exported => exact .inl (by simp [resolved, said])
    | none =>
      refine .inr ⟨rfl, ?_⟩
      simp only [resolved, said, Option.getD_none, isExportedName]
      split <;> simp_all

theorem eraseDups_map {α β : Type} [BEq α] [LawfulBEq α] [BEq β] [LawfulBEq β] {f : α → β}
    {l : List α} (apart : ∀ a ∈ l, ∀ b ∈ l, f a = f b → a = b) :
    (l.map f).eraseDups = l.eraseDups.map f := by
  induction l using List.reverseRecOn with
  | nil => rfl
  | append_singleton l a ih =>
    have ih := ih fun b first c second =>
      apart b (List.mem_append_left _ first) c (List.mem_append_left _ second)
    have again : (l.map f).contains (f a) = l.contains a := by
      rw [Bool.eq_iff_iff, List.contains_iff_mem, List.contains_iff_mem, List.mem_map]
      constructor
      · rintro ⟨b, within, same⟩
        rwa [apart b (List.mem_append_left _ within) a (by simp) same] at within
      · exact fun within => ⟨a, within, rfl⟩
    rw [List.map_append, List.map_singleton, eraseDups_concat, eraseDups_concat, again, ih]
    split
    · rfl
    · rw [List.map_append, List.map_singleton]

theorem position_inj {x : Export} {a b : String} (first : a ∈ x.functions.map (·.name))
    (second : b ∈ x.functions.map (·.name)) (same : x.position a = x.position b) : a = b := by
  have stands {name : String} (within : name ∈ x.functions.map (·.name)) :
      (x.functions[x.position name]?).map (·.name) = some name := by
    obtain ⟨f, there, rfl⟩ := List.mem_map.mp within
    have inside : x.position f.name < x.functions.length :=
      List.findIdx_lt_length_of_exists ⟨f, there, by simp⟩
    have named : x.functions[x.position f.name].name = f.name :=
      of_decide_eq_true (List.findIdx_getElem (w := inside))
    rw [List.getElem?_eq_getElem inside, Option.map_some, named]
  have names := stands first
  rw [same, stands second] at names
  exact (Option.some.inj names).symm

def site (x : Export) (c : Call) : Site :=
  ⟨x.position c.caller, x.position c.callee, c.dynamic⟩

theorem site?_declared {x : Export} {entry : String} {c : Call}
    (known : ((x.declared entry).site? c).isSome) :
    (x.declared entry).site? c = some (x.site c) := by
  have position {name : String} {i : Nat} (found : (x.declared entry).find? name = some i) :
      i = x.position name := by
    rw [find?, declared, List.findIdx?_map] at found
    exact (List.findIdx?_eq_some_iff_findIdx_eq.mp found).2.symm
  obtain ⟨s, found⟩ := Option.isSome_iff_exists.mp known
  obtain ⟨caller, callee, dynamic⟩ := site?_eq_some_iff.mp found
  rw [found, site, dynamic, ← position caller, ← position callee]

theorem Builds.edges {x : Export} {g : CallGraph} {entry : String} (builds : x.Builds entry g) :
    g.edges =
    (x.calls.map fun c => (c.caller, c.callee)).eraseDups.map fun pair => x.edge pair.1 pair.2 := by
  obtain ⟨-, fits, rfl⟩ := builds
  have declared := (fits_iff.mp fits).2
  have sites : x.calls.filterMap (x.declared entry).site? = x.calls.map x.site := by
    rw [← List.filterMap_eq_map]
    exact List.filterMap_congr fun c within => site?_declared (fits.2 c within)
  let positions (pair : String × String) : Nat × Nat := (x.position pair.1, x.position pair.2)
  -- Calls are between the same functions just if they name the same functions.
  have apart : ∀ p ∈ x.calls.map (fun c => (c.caller, c.callee)),
      ∀ q ∈ x.calls.map (fun c => (c.caller, c.callee)), positions p = positions q → p = q := by
    simp only [List.forall_mem_map]
    intro c within d within' same
    obtain ⟨callers, callees⟩ := Prod.mk.inj same
    have callers := position_inj (declared c within).1 (declared d within').1 callers
    have callees := position_inj (declared c within).2 (declared d within').2 callees
    exact Prod.ext callers callees
  have pairs : (x.calls.map x.site).map (fun s => (s.caller, s.callee)) =
      (x.calls.map fun c => (c.caller, c.callee)).map positions := by
    rw [List.map_map, List.map_map]
    rfl
  have edges : (x.built entry).edges = recordAll (x.calls.map x.site) [] :=
    congrArg (fun sites => recordAll sites []) sites
  have inside := inside_sites (g := x.declared entry) x.calls
  rw [sites] at inside
  rw [edges, recordAll_eq inside, pairs, eraseDups_map apart, List.map_map]
  refine List.map_congr_left fun pair within => ?_
  have within := List.mem_eraseDups.mp within
  have same : ∀ c ∈ x.calls,
      (((x.site c).caller, (x.site c).callee) = positions pair ↔ (c.caller, c.callee) = pair) :=
    fun c there => ⟨apart _ (List.mem_map_of_mem there) pair within, fun h => h ▸ rfl⟩
  have counted (dynamic : Bool) :
      (x.calls.map x.site).countP (fun s => (s.caller, s.callee) = positions pair ∧
        s.dynamic = dynamic) =
      x.calls.countP fun c => (c.caller, c.callee) = pair ∧ c.dynamic = dynamic := by
    rw [List.countP_map]
    refine List.countP_congr fun c there => ?_
    rw [Function.comp, decide_eq_true_iff, decide_eq_true_iff]
    exact and_congr_left fun _ => same c there
  exact congrArg₂ (Edge.mk (x.position pair.1) (x.position pair.2)) (counted false) (counted true)

theorem Builds.depicts {x : Export} {g : CallGraph} {entry : String} (builds : x.Builds entry g) :
    x.Depicts entry g where
  paths := by
    rw [builds.graph]
    exact addPackages_increasing _ .nil
  packages p := by
    have paths : (x.declared entry).packages.Pairwise (·.path < ·.path) :=
      addPackages_increasing _ .nil
    have found : p ∈ (x.declared entry).packages ↔
        (x.declared entry).package? p.path = some p := by
      rw [package?_eq_some_iff paths, and_iff_left rfl]
    rw [builds.graph]
    refine found.trans ?_
    simp only [declared_package?, Option.map_eq_some_iff, Package.becomes_iff]
    exact exists_congr fun raw => and_congr_right fun _ => eq_comm
  functions := by
    rw [builds.graph]
    refine List.forall₂_map_right_iff.mpr (List.forall₂_same.mpr fun raw _ => ?_)
    exact Function.becomes_resolved raw
  ids i f there := (find?_eq_some_iff builds.apart).mpr ⟨f, there, rfl⟩
  edges := builds.edges

end Export

namespace Analysis

theorem resolve_builds {x : Export} {bytes : List UInt8} {entry : String} {tests : Bool}
    {a : Analysis} (resolved : resolve x bytes entry tests = .ok a) :
    x.Builds entry a.graph := by
  unfold resolve at resolved
  split at resolved
  · cases resolved
  · rename_i graph chosen
    obtain rfl := Except.ok.inj resolved
    obtain ⟨⟨names, packages, calls, -⟩, built⟩ := Export.graphFor_eq_ok_iff.mp chosen
    exact ⟨names, Export.fits_iff.mpr ⟨packages, calls⟩, built⟩

theorem resolve_of_graphFor {x : Export} {entry : String} {tests : Bool} {g : CallGraph}
    (chosen : x.graphFor entry tests = .ok g) (bytes : List UInt8) :
    ∃ a, resolve x bytes entry tests = .ok a ∧ a.graph = g := by
  simp only [resolve, chosen]
  exact ⟨_, rfl, rfl⟩

/-- An export resolves just if its names fit together, and then its graph is what it says. -/
theorem resolve_fits (x : Export) (bytes : List UInt8) (entry : String) (tests : Bool) :
    (x.Resolvable entry tests ∧
      ∃ a, resolve x bytes entry tests = .ok a ∧ x.Depicts entry a.graph) ∨
    ¬ x.Resolvable entry tests ∧
      ∃ reason, resolve x bytes entry tests = .error (.analysisUnavailable entry reason) := by
  cases chosen : x.graphFor entry tests with
  | ok g =>
    obtain ⟨resolvable, -⟩ := Export.graphFor_eq_ok_iff.mp chosen
    obtain ⟨a, resolved, -⟩ := resolve_of_graphFor chosen bytes
    exact .inl ⟨resolvable, a, resolved, (resolve_builds resolved).depicts⟩
  | error fault =>
    refine .inr ⟨fun resolvable => ?_, fault.message, by rw [resolve, chosen]⟩
    have built := Export.graphFor_eq_ok_iff.mpr ⟨resolvable, rfl⟩
    rw [chosen] at built
    cases built

end Analysis
end CallChart
