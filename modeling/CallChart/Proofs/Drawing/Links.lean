import CallChart.Proofs.Drawing.Complete
import CallChart.Proofs.Options.Normalized
import CallChart.Proofs.Text.Percent
import CallChart.Service.Message
import Mathlib.Data.List.TakeWhile

namespace CallChart

open Dot

theorem ofTarget_focusLink (target : String) :
    ServiceRequest.ofTarget .get (focusLink target) = ⟨.get, "/render", [("focus", target)]⟩ := by
  have chars : (focusLink target).toList =
      "/render".toList ++ '?' :: ("focus".toList ++ '=' :: Percent.encodeChars target) := by
    simp [focusLink, Percent.encode]
  have whole : (focusLink target).toList.takeWhile (· ≠ '#') = (focusLink target).toList := by
    have hash : '#' ∉ (focusLink target).toList := by
      rw [chars]
      simp [Percent.not_mem_encodeChars (c := '#') rfl]
    rw [List.takeWhile_eq_self_iff]
    exact fun c within => decide_eq_true fun same => hash (same ▸ within)
  have plain : '&' ∉ "focus".toList ++ '=' :: Percent.encodeChars target := by
    simp [Percent.not_mem_encodeChars (c := '&') rfl]
  have key : Percent.decodeForm "focus".toList = "focus" :=
    Percent.decodeForm_encodeChars "focus"
  have query : Percent.formPairs ("focus".toList ++ '=' :: Percent.encodeChars target) =
      [("focus", target)] := by
    have filled : ["focus".toList ++ '=' :: Percent.encodeChars target].filter (· ≠ []) =
        ["focus".toList ++ '=' :: Percent.encodeChars target] := by simp
    rw [Percent.formPairs, Text.splitChars_plain plain, filled, List.map_cons, List.map_nil,
      Text.takeWhile_plain (by decide),
      Text.dropWhile_plain (by decide), List.drop_succ_cons, List.drop_zero, key,
      Percent.decodeForm_encodeChars]
  have path : ServiceRequest.local? (focusLink target).toList = some (focusLink target).toList := by
    rw [chars]
    rfl
  rw [ServiceRequest.ofTarget, whole, path]
  simp only [chars]
  rw [Text.takeWhile_plain (by decide), Text.dropWhile_plain (by decide), if_neg (by decide),
    List.drop_succ_cons, List.drop_zero, query]
  rfl

namespace CallGraph

/-- Whether a function has this name, or a package has it as its path or its name. -/
def Knows (g : CallGraph) (name : String) : Prop :=
  (∃ f ∈ g.functions, f.name = name) ∨ ∃ p ∈ g.packages, p.path = name ∨ p.name = name

theorem resolveFocus_cases (g : CallGraph) (focus : String) :
    ((Text.trim focus = "" ∨ g.Knows (Text.trim focus)) ∧ ∃ ids, g.resolveFocus focus = .ok ids) ∨
    ¬ (Text.trim focus = "" ∨ g.Knows (Text.trim focus)) ∧
      g.resolveFocus focus = .error (.focusNotFound (Text.trim focus)) := by
  by_cases empty : Text.trim focus = ""
  · exact .inl ⟨.inl empty, [], by simp [resolveFocus, empty]⟩
  simp only [resolveFocus, empty, ↓reduceIte, false_or]
  cases found : g.find? (Text.trim focus) with
  | some id =>
    obtain ⟨small, named, -⟩ := List.findIdx?_eq_some_iff_getElem.mp found
    exact .inl ⟨.inl ⟨_, List.getElem_mem small, by simpa using named⟩, _, rfl⟩
  | none =>
    have unnamed (f : Function) (within : f ∈ g.functions) : f.name ≠ Text.trim focus := by
      simpa using List.findIdx?_eq_none_iff.mp found f within
    cases package : g.package? (Text.trim focus) with
    | some p =>
      have path : p.path = Text.trim focus := by simpa using List.find?_some package
      exact .inl ⟨.inr ⟨p, List.mem_of_find?_eq_some package, .inl path⟩, _, rfl⟩
    | none =>
      have elsewhere (p : Package) (within : p ∈ g.packages) : p.path ≠ Text.trim focus := by
        simpa using List.find?_eq_none.mp package p within
      by_cases none : (g.packages.filter (·.name = Text.trim focus)).map (·.path) = []
      · have nameless (p : Package) (within : p ∈ g.packages) : p.name ≠ Text.trim focus := by
          simpa using List.filter_eq_nil_iff.mp (List.map_eq_nil_iff.mp none) p within
        refine .inr ⟨?_, by simp [none]⟩
        rintro (⟨f, within, named⟩ | ⟨p, within, named | named⟩)
        · exact unnamed f within named
        · exact elsewhere p within named
        · exact nameless p within named
      · obtain ⟨p, chosen⟩ := List.exists_mem_of_ne_nil _ (mt List.map_eq_nil_iff.mpr none)
        obtain ⟨within, named⟩ := List.mem_filter.mp chosen
        exact .inl ⟨.inr ⟨p, within, .inr (by simpa using named)⟩, _, by simp [none]; rfl⟩

end CallGraph

namespace CallGraph

/-- Whether a key is the one of a function's package or of its type. -/
def KeyOf (g : CallGraph) (key : ClusterKey) : Prop :=
  ∃ f ∈ g.functions, key = packageKey f ∨ key = typeKey f

theorem function_of_mem_keysOf {g : CallGraph} {ids : List Nat} {key : Function → ClusterKey}
    {k : ClusterKey} (within : k ∈ g.keysOf ids key) : ∃ f ∈ g.functions, k = key f := by
  obtain ⟨id, -, f, there, rfl⟩ := mem_keysOf.mp within
  exact ⟨f, List.mem_of_getElem? there, rfl⟩

theorem function_of_mem_flatClusters {g : CallGraph} {ids : List Nat} {k : Cluster}
    {key : Function → ClusterKey} (within : k ∈ Cluster.allOf (g.flatClusters ids key)) :
    ∃ f ∈ g.functions, k.key = key f := by
  obtain ⟨cluster, made, inside⟩ := Cluster.mem_allOf.mp within
  obtain ⟨k', there, rfl⟩ := List.mem_map.mp made
  obtain rfl : k = _ := by simpa [Cluster.all, Cluster.allOf] using inside
  exact function_of_mem_keysOf there

theorem keyOf_of_mem_nestedClusters {g : CallGraph} {ids : List Nat} {k : Cluster}
    (within : k ∈ Cluster.allOf (g.nestedClusters ids)) :
    g.KeyOf k.key := by
  obtain ⟨cluster, made, inside⟩ := Cluster.mem_allOf.mp within
  obtain ⟨k', there, rfl⟩ := List.mem_map.mp made
  rcases List.mem_cons.mp inside with rfl | inside
  · obtain ⟨f, within, same⟩ := function_of_mem_keysOf there
    exact ⟨f, within, .inl same⟩
  · obtain ⟨f, within, same⟩ := function_of_mem_flatClusters inside
    exact ⟨f, within, .inr same⟩

end CallGraph

theorem Selection.keyOf_of_mem_clustered {s : Selection} {mode : GroupMode} {k : Cluster}
    (within : k ∈ Cluster.allOf (s.clustered mode).clusters) : s.graph.KeyOf k.key := by
  rw [s.clustered_eq] at within
  cases mode with
  | none => simp [Selection.divided, Cluster.allOf] at within
  | package =>
    obtain ⟨f, within, same⟩ := CallGraph.function_of_mem_flatClusters within
    exact ⟨f, within, .inl same⟩
  | type =>
    obtain ⟨f, within, same⟩ := CallGraph.function_of_mem_flatClusters within
    exact ⟨f, within, .inr same⟩
  | packageType => exact CallGraph.keyOf_of_mem_nestedClusters within

namespace Export.Builds

theorem resolveFocus_key {x : Export} {entry : String} {g : CallGraph} {key : ClusterKey}
    (builds : x.Builds entry g) (paths : ∀ p ∈ g.packages, Text.trim p.path = p.path)
    (known : g.KeyOf key) :
    (∃ ids, g.resolveFocus key.text = .ok ids) ↔
      (∃ path, key = .package path) ∨ g.Knows (Text.trim key.text) := by
  obtain ⟨f, within, same⟩ := known
  obtain ⟨p, there⟩ := Option.isSome_iff_exists.mp (builds.package_isSome within)
  have path : p.path = f.package := by simpa using List.find?_some there
  have member := List.mem_of_find?_eq_some there
  cases key with
  | package path' =>
    -- A function without receiver has its package as its key among types too.
    have same : path' = f.package := by
      rcases same with same | same
      · exact ClusterKey.package.inj same
      · unfold CallGraph.typeKey at same
        cases receiver : f.receiver <;> simp_all
    have name : g.Knows (Text.trim path') := by
      rw [same, ← path, paths p member]
      exact .inr ⟨p, member, .inl rfl⟩
    refine ⟨fun _ => .inl ⟨path', rfl⟩, fun _ => ?_⟩
    rcases g.resolveFocus_cases path' with ⟨-, found⟩ | ⟨unknown, -⟩
    · exact found
    · exact (unknown (.inr name)).elim
  | type path' typeName =>
    -- The dot stays, so the text is not taken for an empty focus.
    have filled : Text.trim (ClusterKey.type path' typeName).text ≠ "" :=
      Text.trim_ne_empty (c := '.') (by simp [ClusterKey.text]) (by decide)
    have other : ¬ ∃ path, ClusterKey.type path' typeName = .package path := nofun
    rcases g.resolveFocus_cases (ClusterKey.type path' typeName).text with
      ⟨known, found⟩ | ⟨unknown, lost⟩
    · exact ⟨fun _ => .inr (known.resolve_left filled), fun _ => found⟩
    · rw [not_or] at unknown
      rw [lost]
      exact ⟨nofun, fun known => (known.elim other unknown.2).elim⟩

end Export.Builds

theorem withoutReturns_focusLink (name : String) :
    withoutReturns (focusLink name) = (focusLink name).toList := by
  have kept : ∀ c ∈ (focusLink name).toList, c ≠ '\r' := by
    intro c within same
    simp [same, focusLink, Percent.encode, Percent.not_mem_encodeChars (c := '\r') rfl] at within
  rw [withoutReturns, List.filter_eq_self]
  exact fun c within => decide_eq_true (kept c within)

def Dot.ReadFrame.link? (frame : ReadFrame) : Option String :=
  (frame.settings.lookup "URL".toList).map String.ofList

theorem Clustering.links_document (c : Clustering) (style : Style) :
    (readFrames (textLines (c.document style).text)).map ReadFrame.link? =
      (Cluster.allOf c.clusters).map fun k => some (focusLink k.key.text) := by
  rw [c.readFrames_document, frames_document, List.map_map, List.map_map,
    ← Cluster.map_placedIn [] 0, List.map_map]
  refine List.map_congr_left fun p _ => ?_
  have link : (frameAt p.1 p.2).readBack.settings.lookup "URL".toList =
      some (focusLink p.2.key.text).toList := by
    rw [← withoutReturns_focusLink]
    simp [Frame.readBack, frameAt, clusterAttributes, clusterSettings, Statement.setting?, readBack,
      List.lookup_cons]
  rw [Function.comp, Function.comp, Function.comp, ReadFrame.link?, link, Option.map_some,
    String.ofList_toList]

/-- Every subgraph has a link that asks for its cluster's text as the focus. This focus is found for
packages, and for types just if something else has the text as its name. -/
structure Linked (g : CallGraph) (c : Clustering) (text : String) : Prop where
  links : (readFrames (textLines text)).map ReadFrame.link? =
    (Cluster.allOf c.clusters).map fun k => some (focusLink k.key.text)
  request {k : Cluster} : k ∈ Cluster.allOf c.clusters →
    ServiceRequest.ofTarget .get (focusLink k.key.text) = ⟨.get, "/render", [("focus", k.key.text)]⟩
  found_iff {k : Cluster} : k ∈ Cluster.allOf c.clusters →
    ((∃ ids, g.resolveFocus k.key.text = .ok ids) ↔
      (∃ path, k.key = .package path) ∨ g.Knows (Text.trim k.key.text))

namespace Analysis

theorem describe_linked {x : Export} {bytes : List UInt8} {entry text : String} {tests : Bool}
    {a : Analysis} {o : Options} (resolved : resolve x bytes entry tests = .ok a)
    (paths : ∀ p ∈ a.graph.packages, Text.trim p.path = p.path)
    (described : a.graph.describe o = .ok text) :
    ∃ s, a.graph.select o.normalized = .ok s ∧
      let c := s.clustered o.group
      text = (c.document o.style).text ∧ Linked a.graph c text := by
  have builds := resolve_builds resolved
  obtain ⟨-, s, selected, rfl⟩ := CallGraph.describe_eq_ok_iff.mp described
  obtain ⟨focus, graph⟩ := CallGraph.select_eq_ok selected
  refine ⟨s, selected, rfl, Clustering.links_document _ _, fun _ => ofTarget_focusLink _, ?_⟩
  intro k within
  have known := Selection.keyOf_of_mem_clustered within
  rw [graph] at known
  exact builds.resolveFocus_key paths known

def serving : Export where
  packages := [⟨"app", "main", none⟩, ⟨"lib", "lib", some false⟩]
  functions := [⟨"app.main", "app", none, none, none, false, false⟩,
    ⟨"lib.Do", "lib", none, none, none, false, false⟩,
    ⟨"(*lib.Server).Start", "lib", none, some ⟨"Server", true⟩, none, false, false⟩]
  calls := [⟨"app.main", "lib.Do", false⟩, ⟨"app.main", "(*lib.Server).Start", true⟩]

theorem graphFor_serving : serving.graphFor "app" false = .ok (serving.built "app") := by
  decide +kernel

theorem select_serving : (serving.built "app").select everyFunction.normalized =
    .ok ⟨serving.built "app", [0, 1, 2], [0, 1], []⟩ := by
  decide +kernel

theorem serving_linked : ∃ a text s,
    resolve serving [] "app" false = .ok a ∧
    (∀ p ∈ a.graph.packages, Text.trim p.path = p.path) ∧
    a.graph.describe everyFunction = .ok text ∧
    a.graph.select everyFunction.normalized = .ok s ∧
    let c := s.clustered .packageType
    (Cluster.allOf c.clusters).map Cluster.key =
      [.package "app", .package "lib", .type "lib" "Server"] ∧
    text = (c.document everyFunction.style).text ∧ Linked a.graph c text := by
  obtain ⟨a, resolved, graph, described⟩ :=
    exists_described graphFor_serving check_everyFunction select_serving []
  have paths : ∀ p ∈ a.graph.packages, Text.trim p.path = p.path := by
    rw [graph]
    decide +kernel
  obtain ⟨s, selected, same, linked⟩ := describe_linked resolved paths described
  rw [graph, select_serving] at selected
  obtain rfl := Except.ok.inj selected
  exact ⟨a, _, _, resolved, paths, described, graph ▸ select_serving, by decide +kernel, same, linked⟩

/-- The link of a type leads to no focus. -/
theorem serving_type_not_found : ∃ a text s,
    resolve serving [] "app" false = .ok a ∧
    (∀ p ∈ a.graph.packages, Text.trim p.path = p.path ∧ Text.trim p.name = p.name) ∧
    (∀ f ∈ a.graph.functions, Text.trim f.name = f.name) ∧
    a.graph.describe everyFunction = .ok text ∧
    a.graph.select everyFunction.normalized = .ok s ∧
    text = ((s.clustered .packageType).document everyFunction.style).text ∧
    some "/render?focus=lib.Server" ∈ (readFrames (textLines text)).map ReadFrame.link? ∧
    a.graph.resolveFocus "lib.Server" = .error (.focusNotFound "lib.Server") := by
  obtain ⟨a, resolved, graph, described⟩ :=
    exists_described graphFor_serving check_everyFunction select_serving []
  refine ⟨a, _, _, resolved, ?_, ?_, described, graph ▸ select_serving, rfl, ?_, ?_⟩
  · rw [graph]
    decide +kernel
  · rw [graph]
    decide +kernel
  · rw [Clustering.links_document]
    decide +kernel
  · rw [graph]
    decide +kernel

end Analysis
end CallChart
