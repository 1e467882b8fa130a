import CallChart.Proofs.Analysis
import CallChart.Proofs.Cache.Entry
import CallChart.Proofs.Cache.Store
import CallChart.Proofs.Rendering.Request

namespace CallChart

open Files

structure Session where
  renderers : List Renderer
  files : Files

namespace Session

inductive Event where
  | start (path : String) (bytes : List UInt8) (entry : String) (tests : Bool) (output : Output)
  | render (who : Nat) (o : Options) (refresh : Bool) (now : Timestamp)
  | clear
  | other (change : Files → Files)

def step (engine : Engine) (directory : String) (s : Session) : Event → Session
  | .start path bytes entry tests output =>
    match Analysis.load path bytes entry tests with
    | .error _ => s
    | .ok analysis =>
      { s with renderers := s.renderers ++ [⟨analysis, ⟨some directory⟩, output, 0⟩] }
  | .render who o refresh now =>
    match s.renderers[who]? with
    | none => s
    | some r =>
      let (_, r, files, _) := r.render engine o refresh now s.files
      ⟨s.renderers.set who r, files⟩
  | .clear => { s with files := (Cache.clear ⟨some directory⟩ s.files).2 }
  | .other change => { s with files := change s.files }

def run (engine : Engine) (directory : String) (s : Session) (events : List Event) : Session :=
  events.foldl (step engine directory) s

@[simp] theorem run_nil (engine : Engine) (directory : String) (s : Session) :
    s.run engine directory [] = s := rfl

@[simp] theorem run_cons (engine : Engine) (directory : String) (s : Session) (event : Event)
    (rest : List Event) :
    s.run engine directory (event :: rest) =
      (s.step engine directory event).run engine directory rest := rfl

def digested (s : Session) : Event → List (List UInt8)
  | .start path bytes entry tests _ =>
    if (Analysis.load path bytes entry tests).isOk then
      [Analysis.identityBytes bytes entry tests]
    else []
  | .render who o _ _ =>
    match s.renderers[who]? with
    | none => []
    | some r =>
      if (r.admitted o).isOk then [Fingerprint.preimage r.analysis.id o r.output.format] else []
  | _ => []

/-- The byte strings that are digested in the course of events. -/
def inputs (engine : Engine) (directory : String) (s : Session) : List Event → List (List UInt8)
  | [] => []
  | event :: rest => s.digested event ++ inputs engine directory (s.step engine directory event) rest

/-- Output bases lie outside of the cache directory, clocks show valid times, and nobody else changes
a file of the cache directory. -/
def Event.Fair (directory : String) : Event → Prop
  | .start _ _ _ _ output =>
    ∀ base, output.base = some base → ¬ steps directory <+: steps base
  | .render _ _ _ now => now.isValid = true
  | .clear => True
  | .other change => ∀ fs q, steps directory <+: q → (change fs).fileAt q = fs.fileAt q

/-- An analysis was loaded, and what was digested for it is known. -/
def Loaded (known : List (List UInt8)) (analysis : Analysis) : Prop :=
  ∃ path bytes entry tests, Analysis.load path bytes entry tests = .ok analysis ∧
    Analysis.identityBytes bytes entry tests ∈ known

/-- A rendering can be asked for, and what is digested for it is known. -/
structure Asked (known : List (List UInt8)) (analysis : Analysis) (o : Options) (format : String) :
    Prop where
  loaded : Loaded known analysis
  finite : o.style.nodesep.isFinite = true
  within : Fingerprint.preimage analysis.id o format ∈ known

theorem renders_of_fingerprint {convert : Converter} {known : List (List UInt8)} {a : Artifact}
    {o o' : Options} {format format' : String} {analysis analysis' : Analysis}
    (free : CollisionFree known) (asked : Asked known analysis o format)
    (asked' : Asked known analysis' o' format') (renders : a.Renders convert analysis o format)
    (same : a.fingerprint = Fingerprint.compute analysis'.id o' format') :
    a.Renders convert analysis' o' format' := by
  obtain ⟨path, bytes, entry, tests, loaded, within⟩ := asked.loaded
  obtain ⟨path', bytes', entry', tests', loaded', within'⟩ := asked'.loaded
  have texts : Fingerprint.compute analysis.id o format =
      Fingerprint.compute analysis'.id o' format' := renders.fingerprint.symm.trans same
  have preimages := free.hex asked.within asked'.within (congrArg Fingerprint.text texts)
  obtain ⟨ids, options, rfl⟩ := Fingerprint.preimage_inj
    ((Analysis.length_encode_id loaded).trans (Analysis.length_encode_id loaded').symm)
    asked.finite asked'.finite preimages
  obtain rfl := Analysis.load_inj free loaded loaded' within within' ids
  refine ⟨same, ?_, renders.image, renders.format⟩
  rw [← CallGraph.describe_normalized, ← options, CallGraph.describe_normalized]
  exact renders.description

/-- An artifact that was asked for and can be stored. -/
structure Made (convert : Converter) (known : List (List UInt8)) (a : Artifact) : Prop where
  storable : Cache.Storable a
  origin : ∃ analysis o format, Asked known analysis o format ∧ a.Renders convert analysis o format

/-- Every entry lacks its metadata or holds an artifact that was made. -/
def Genuine (convert : Converter) (known : List (List UInt8)) (directory : String) (fs : Files) :
    Prop :=
  ∀ fp, IsName fp.text →
    fs.fileAt (Cache.entryPlace directory fp Cache.metadataFile) = none ∨
      ∃ a, a.fingerprint = fp ∧ Made convert known a ∧ Cache.Holds fs directory a

theorem genuine_iff {convert : Converter} {directory : String} {known : List (List UInt8)}
    {fs : Files} : Genuine convert known directory fs ↔
    Cache.Filled (Made convert known) directory fs := .rfl

theorem Genuine.spared {convert : Converter} {directory : String} {known : List (List UInt8)}
    {fs fs' : Files} (genuine : Genuine convert known directory fs)
    (same : ∀ q, steps directory <+: q → fs'.fileAt q = fs.fileAt q) :
    Genuine convert known directory fs' :=
  genuine_iff.mpr ((genuine_iff.mp genuine).spared same)

theorem Genuine.clear {convert : Converter} {directory : String} {known : List (List UInt8)}
    {fs : Files} (genuine : Genuine convert known directory fs) :
    Genuine convert known directory (Cache.clear ⟨some directory⟩ fs).2 :=
  genuine_iff.mpr (genuine_iff.mp genuine).clear

structure Started (known : List (List UInt8)) (directory : String) (r : Renderer) : Prop where
  cache : r.cache = ⟨some directory⟩
  outside : ∀ base, r.output.base = some base → ¬ steps directory <+: steps base
  loaded : Loaded known r.analysis

theorem Started.counted {directory : String} {known : List (List UInt8)} {r : Renderer}
    (started : Started known directory r) :
    Started known directory r.counted :=
  ⟨started.cache, started.outside, started.loaded⟩

theorem writeOutputs_artifact {a : Artifact} {fs : Files} {output : Output} {rendering : Rendering}
    (done : (Renderer.writeOutputs output a fs).1 = .ok rendering) : rendering.artifact = a := by
  simp only [Renderer.writeOutputs] at done
  split at done
  · cases done
  · cases done
    rfl

/-- If all that a renderer computes now is of some kind, a request keeps the entries filled with that
kind and comes to an artifact of it. -/
theorem render_filled {engine : Engine} {directory : String} {r : Renderer} {o : Options}
    {fs : Files} {now : Timestamp} {kind : Artifact → Prop} (refresh : Bool)
    (enabled : r.cache = ⟨some directory⟩)
    (outside : ∀ base, r.output.base = some base → ¬ steps directory <+: steps base)
    (spares : engine.Spares (steps directory)) (valid : now.isValid = true)
    (storable : ∀ a, kind a → Cache.Storable a)
    (fresh : (r.admitted o).isOk = true → ∀ a, Cache.Storable a →
      a.Renders (engine.answersOn fs) r.analysis o r.output.format → kind a)
    (filled : Cache.Filled kind directory fs) :
    Cache.Filled kind directory (r.render engine o refresh now fs).2.2.1 ∧
      ∀ rendering, (r.render engine o refresh now fs).1 = .ok rendering →
        (r.admitted o).isOk = true ∧ kind rendering.artifact ∧
          rendering.artifact.fingerprint = Fingerprint.compute r.analysis.id o r.output.format := by
  cases admitted : r.admitted o with
  | error e =>
    rw [Renderer.render_obtained (Renderer.obtained_of_refused admitted)]
    exact ⟨filled, fun rendering done => by cases done⟩
  | ok p =>
    have accepted : (r.admitted o).isOk = true := by
      rw [admitted]
      rfl
    obtain ⟨plain, rfl, -⟩ := Renderer.admitted_eq admitted
    have same : r.fingerprint o.normalized = Fingerprint.compute r.analysis.id o r.output.format := by
      rw [Renderer.fingerprint_eq, Fingerprint.compute_normalized]
    have kept (a : Artifact) {fs : Files} (filled : Cache.Filled kind directory fs) :
        Cache.Filled kind directory (Renderer.writeOutputs r.output a fs).2 :=
      filled.kept fun fp name digest => Output.writeOutputs_entry a fs plain outside digest name
    cases found : r.cache.stored? (r.fingerprint o.normalized) refresh fs with
    | some a =>
      rw [Renderer.render_obtained (Renderer.obtained_of_found admitted found)]
      simp only [Cache.stored?, Option.ite_none_left_eq_some] at found
      rw [enabled, same] at found
      obtain ⟨own, itself⟩ := filled.load storable (Fingerprint.isName_compute _ _ _) found.2
      refine ⟨kept a filled, fun rendering done => ⟨rfl, ?_⟩⟩
      rw [writeOutputs_artifact done]
      exact ⟨itself, own⟩
    | none =>
      obtain ⟨result, fs', asked, outcome, changed, renders⟩ :=
        Renderer.obtained_of_missing engine now admitted found
      rw [Renderer.render_obtained outcome]
      have spared : Cache.Filled kind directory fs' := by
        rcases changed with rfl | ⟨description, rfl⟩
        · exact filled
        · exact filled.spared (spares description r.output.format fs)
      cases result with
      | error e => exact ⟨spared, fun rendering done => by cases done⟩
      | ok a =>
        obtain ⟨renders, created⟩ := renders a rfl
        have storable' : Cache.Storable a := by
          refine ⟨?_, ?_, created ▸ valid⟩
          · rw [renders.fingerprint]
            exact Fingerprint.isName_compute _ _ _
          · rw [renders.format]
            exact fun slash => ((Output.plain_of_checkFormat plain).2 _ slash).2 rfl
        have itself := fresh accepted a storable' renders
        have stored := spared.store storable' itself
        rw [← enabled] at stored
        refine ⟨kept a stored, fun rendering done => ⟨rfl, ?_⟩⟩
        rw [writeOutputs_artifact done]
        exact ⟨itself, renders.fingerprint⟩

theorem render_genuine {engine : Engine} {convert : Converter} {directory : String}
    {known : List (List UInt8)} {r : Renderer} {o : Options} {fs : Files} {now : Timestamp}
    (refresh : Bool) (free : CollisionFree known) (answers : engine.Answers convert)
    (spares : engine.Spares (steps directory)) (genuine : Genuine convert known directory fs)
    (started : Started known directory r) (valid : now.isValid = true)
    (within : (r.admitted o).isOk = true →
      Fingerprint.preimage r.analysis.id o r.output.format ∈ known) :
    Started known directory (r.render engine o refresh now fs).2.1 ∧
      Genuine convert known directory (r.render engine o refresh now fs).2.2.1 ∧
        ∀ rendering, (r.render engine o refresh now fs).1 = .ok rendering →
          rendering.artifact.Renders convert r.analysis o r.output.format := by
  have asked (accepted : (r.admitted o).isOk = true) :
      Asked known r.analysis o r.output.format :=
    ⟨started.loaded, Renderer.finite_of_admitted accepted, within accepted⟩
  have same : engine.answersOn fs = convert := by
    funext description format
    exact answers description format fs
  obtain ⟨filled, renders⟩ := render_filled refresh started.cache
    started.outside spares valid (fun a made => made.storable)
    (fun accepted a storable renders => ⟨storable, _, _, _, asked accepted, same ▸ renders⟩)
    (genuine_iff.mp genuine)
  refine ⟨?_, genuine_iff.mpr filled, fun rendering done => ?_⟩
  · rcases Renderer.renderer_render r engine o refresh now fs with kept | counted
    · rwa [kept]
    · rw [counted]
      exact started.counted
  · obtain ⟨accepted, made, own⟩ := renders rendering done
    obtain ⟨analysis', o', format', asked', renders⟩ := made.origin
    exact renders_of_fingerprint free asked' (asked accepted) renders own

/-- All renderers belong to the cache directory, and its entries are genuine. -/
structure Coherent (convert : Converter) (known : List (List UInt8)) (directory : String)
    (s : Session) : Prop where
  started : ∀ r ∈ s.renderers, Started known directory r
  genuine : Genuine convert known directory s.files

theorem step_coherent {engine : Engine} {convert : Converter} {directory : String}
    {known : List (List UInt8)} {s : Session} (free : CollisionFree known)
    (answers : engine.Answers convert) (spares : engine.Spares (steps directory))
    (coherent : Coherent convert known directory s) {event : Event} (fair : event.Fair directory)
    (within : ∀ x ∈ s.digested event, x ∈ known) :
    Coherent convert known directory (s.step engine directory event) := by
  cases event with
  | start path bytes entry tests output =>
    simp only [step]
    cases loaded : Analysis.load path bytes entry tests with
    | error e => exact coherent
    | ok analysis =>
      have input : Analysis.identityBytes bytes entry tests ∈ known :=
        within _ (by simp [digested, loaded, Except.isOk, Except.toBool])
      refine ⟨fun r member => ?_, coherent.genuine⟩
      rcases List.mem_append.mp member with member | member
      · exact coherent.started r member
      · rw [List.mem_singleton.mp member]
        exact ⟨rfl, fair, path, bytes, entry, tests, loaded, input⟩
  | render who o refresh now =>
    simp only [step]
    cases running : s.renderers[who]? with
    | none => exact coherent
    | some r =>
      have input (accepted : (r.admitted o).isOk = true) :
          Fingerprint.preimage r.analysis.id o r.output.format ∈ known :=
        within _ (by simp [digested, running, accepted])
      obtain ⟨started, genuine, -⟩ := render_genuine refresh free answers spares coherent.genuine
        (coherent.started r (List.mem_of_getElem? running)) fair input
      refine ⟨fun r' member => ?_, genuine⟩
      rcases List.mem_or_eq_of_mem_set member with member | rfl
      · exact coherent.started r' member
      · exact started
  | clear => exact ⟨coherent.started, coherent.genuine.clear⟩
  | other change => exact ⟨coherent.started, coherent.genuine.spared (fair s.files)⟩

theorem run_coherent {engine : Engine} {convert : Converter} {directory : String}
    {known : List (List UInt8)} {s : Session} (free : CollisionFree known)
    (answers : engine.Answers convert) (spares : engine.Spares (steps directory))
    (coherent : Coherent convert known directory s) {events : List Event}
    (fair : ∀ event ∈ events, event.Fair directory)
    (within : ∀ x ∈ s.inputs engine directory events, x ∈ known) :
    Coherent convert known directory (s.run engine directory events) := by
  induction events generalizing s with
  | nil => exact coherent
  | cons event rest ih =>
    simp only [inputs, List.mem_append] at within
    apply ih
    · exact step_coherent free answers spares coherent (fair event List.mem_cons_self)
        fun x member => within x (.inl member)
    · exact fun e member => fair e (List.mem_cons_of_mem _ member)
    · exact fun x member => within x (.inr member)

theorem running_step {engine : Engine} {directory : String} {s : Session} {r : Renderer} {who : Nat}
    (running : s.renderers[who]? = some r) (event : Event) :
    ∃ count, (s.step engine directory event).renderers[who]? =
      some { r with computations := count } := by
  cases event with
  | start path bytes entry tests output =>
    refine ⟨r.computations, ?_⟩
    simp only [step]
    split
    · exact running
    · exact (List.getElem?_append_left (List.getElem?_eq_some_iff.mp running).1).trans running
  | render other o refresh now =>
    simp only [step]
    cases asked : s.renderers[other]? with
    | none => exact ⟨_, running⟩
    | some q =>
      by_cases same : other = who
      · subst same
        obtain rfl : q = r := Option.some.inj (asked.symm.trans running)
        refine ⟨(q.render engine o refresh now s.files).2.1.computations, ?_⟩
        simp only [List.getElem?_set_self (List.getElem?_eq_some_iff.mp asked).1]
        rcases q.renderer_render engine o refresh now s.files with kept | counted
        · rw [kept]
        · rw [counted]
          rfl
      · exact ⟨_, (List.getElem?_set_ne same).trans running⟩
  | clear => exact ⟨_, running⟩
  | other change => exact ⟨_, running⟩

theorem digested_render {s : Session} {r : Renderer} {o : Options} {who : Nat} {refresh : Bool}
    {now : Timestamp} (running : s.renderers[who]? = some r)
    (accepted : (r.admitted o).isOk = true) :
    s.digested (.render who o refresh now) =
      [Fingerprint.preimage r.analysis.id o r.output.format] := by
  simp [digested, running, accepted]

theorem inputs_append (engine : Engine) (directory : String) (s : Session)
    (before after : List Event) : s.inputs engine directory (before ++ after) =
      s.inputs engine directory before ++
        (s.run engine directory before).inputs engine directory after := by
  induction before generalizing s with
  | nil => rfl
  | cons event rest ih =>
    simp only [List.cons_append, inputs, ih, List.append_assoc]
    rfl

/-- In every run over a cache directory that has no finished entry at first, a request that succeeds
gets what belongs to its renderer and its options, and a computation is counted exactly if the request
can be rendered and nothing is taken from the cache. -/
theorem render_coherent (engine : Engine) (convert : Converter) (directory : String) (files : Files)
    (events : List Event) (who : Nat) (o : Options) (refresh : Bool) (now : Timestamp)
    (answers : engine.Answers convert) (spares : engine.Spares (steps directory))
    (unfinished : ∀ fp, files.fileAt (Cache.entryPlace directory fp Cache.metadataFile) = none)
    (fair : ∀ event ∈ events ++ [.render who o refresh now], event.Fair directory)
    (free : CollisionFree
      (inputs engine directory ⟨[], files⟩ (events ++ [.render who o refresh now])))
    {r : Renderer} (running : (run engine directory ⟨[], files⟩ events).renderers[who]? = some r) :
    let s := run engine directory ⟨[], files⟩ events
    (∀ rendering, (r.render engine o refresh now s.files).1 = .ok rendering →
      r.analysis.graph.describe o = .ok rendering.artifact.description ∧
        rendering.artifact.format = r.output.format ∧
        rendering.artifact.fingerprint = r.fingerprint o ∧
        imageOf convert rendering.artifact.description r.output.format =
          .ok rendering.artifact.image) ∧
    (r.render engine o refresh now s.files).2.1.computations = r.computations +
      if (r.admitted o).isOk = true ∧
        (refresh = true ∨ r.cache.load (r.fingerprint o) s.files = none) then 1 else 0 := by
  intro s
  refine ⟨fun rendering done => ?_, Renderer.computations_render r engine o refresh now s.files⟩
  rw [inputs_append] at free
  have start (known : List (List UInt8)) : Coherent convert known directory ⟨[], files⟩ :=
    ⟨nofun, fun fp _ => .inl (unfinished fp)⟩
  have coherent := run_coherent free answers spares (start _)
    (fun event member => fair event (List.mem_append_left _ member))
    (fun x member => List.mem_append_left _ member)
  have input (accepted : (r.admitted o).isOk = true) :
      Fingerprint.preimage r.analysis.id o r.output.format ∈
        inputs engine directory ⟨[], files⟩ events ++
          s.inputs engine directory [.render who o refresh now] :=
    List.mem_append_right _ (by simp [inputs, digested, s, running, accepted])
  obtain ⟨-, -, renders⟩ := render_genuine refresh free answers spares coherent.genuine
    (coherent.started r (List.mem_of_getElem? running)) (fair (.render who o refresh now) (by simp))
    input
  have rendered := renders rendering done
  exact ⟨rendered.description, rendered.format,
    rendered.fingerprint.trans (Renderer.fingerprint_eq r o).symm, rendered.image⟩

def sampleExport : List UInt8 :=
  Utf8.encode ("\x7b\"packages\":[\x7b\"path\":\"app\",\"name\":\"main\"\x7d]," ++
    "\"functions\":[\x7b\"name\":\"app.main\",\"package\":\"app\"\x7d]\x7d")

def sampleStart : Event :=
  .start "graph.json" sampleExport "app" false ⟨none, "svg"⟩

def sampleTime : Timestamp := ⟨2024, 5, 6, 7, 8, 9, 0⟩

theorem sampleTime_valid : sampleTime.isValid = true := by decide

def sampleAnswers : Converter := fun description format =>
  ((Engine.tagging none).convert description format .empty).1

theorem sample_loads : ∃ a, Analysis.load "graph.json" sampleExport "app" false = .ok a :=
  Analysis.exists_of_isOk (by decide +kernel)

theorem sample_digests {a : Analysis}
    (loaded : Analysis.load "graph.json" sampleExport "app" false = .ok a) :
    Sha256.digest (Analysis.identityBytes sampleExport "app" false) ≠
      Sha256.digest (Fingerprint.preimage a.id .default "svg") := by
  rw [Analysis.load_id loaded]
  -- Texts that are made from characters are encoded without their detour through a string.
  simp only [Fingerprint.preimage, Options.text, Json.compact, Sha256.hex, Utf8.encode,
    String.toList_ofList]
  decide +kernel

def sampleEvents : List Event :=
  [sampleStart, .render 0 .default false sampleTime]

theorem sample_admitted (a : Analysis) (count : Nat) :
    ((⟨a, ⟨some "cache"⟩, ⟨none, "svg"⟩, count⟩ : Renderer).admitted .default).isOk = true := by
  have format : Engine.checkFormat "svg" = .ok () := by decide
  have options : Options.default.normalized.check = .ok () := by decide +kernel
  simp only [Renderer.admitted, format, options, bind, Except.bind, pure, Except.pure, Except.isOk,
    Except.toBool]

theorem sample_started {a : Analysis}
    (loaded : Analysis.load "graph.json" sampleExport "app" false = .ok a) :
    (step (.tagging none) "cache" ⟨[], .empty⟩ sampleStart).renderers[0]? =
    some ⟨a, ⟨some "cache"⟩, ⟨none, "svg"⟩, 0⟩ := by
  simp only [step, sampleStart, loaded, List.nil_append, List.getElem?_cons_zero]

theorem sample_running {a : Analysis}
    (loaded : Analysis.load "graph.json" sampleExport "app" false = .ok a) : ∃ count,
    (run (.tagging none) "cache" ⟨[], .empty⟩ sampleEvents).renderers[0]? =
      some ⟨a, ⟨some "cache"⟩, ⟨none, "svg"⟩, count⟩ := by
  have started := sample_started loaded
  rw [sampleEvents, run_cons, run_cons, run_nil]
  generalize step (.tagging none) "cache" ⟨[], .empty⟩ sampleStart = s at started ⊢
  exact running_step started _

theorem sample_inputs {a : Analysis}
    (loaded : Analysis.load "graph.json" sampleExport "app" false = .ok a) :
    inputs (.tagging none) "cache" ⟨[], .empty⟩
    (sampleEvents ++ [.render 0 .default false sampleTime]) =
      [Analysis.identityBytes sampleExport "app" false,
        Fingerprint.preimage a.id .default "svg", Fingerprint.preimage a.id .default "svg"] := by
  obtain ⟨count, running⟩ := sample_running loaded
  have start : digested ⟨[], .empty⟩ sampleStart =
      [Analysis.identityBytes sampleExport "app" false] := by
    simp only [digested, sampleStart, loaded, Except.isOk, Except.toBool, ↓reduceIte]
  rw [inputs_append, sampleEvents]
  simp only [inputs, start, List.append_nil]
  rw [digested_render (sample_started loaded) (sample_admitted a 0)]
  rw [← sampleEvents, digested_render running (sample_admitted a count)]
  rfl

/-- The second of two renders takes from the cache what the first has left there. -/
theorem second_render_coherent :
    ∃ r, (run (.tagging none) "cache" ⟨[], .empty⟩ sampleEvents).renderers[0]? = some r ∧
      (∀ rendering, (r.render (.tagging none) .default false sampleTime
          (run (.tagging none) "cache" ⟨[], .empty⟩ sampleEvents).files).1 = .ok rendering →
        r.analysis.graph.describe .default = .ok rendering.artifact.description ∧
          rendering.artifact.format = r.output.format ∧
          rendering.artifact.fingerprint = r.fingerprint .default ∧
          imageOf sampleAnswers rendering.artifact.description r.output.format =
            .ok rendering.artifact.image) ∧
      (r.render (.tagging none) .default false sampleTime
          (run (.tagging none) "cache" ⟨[], .empty⟩ sampleEvents).files).2.1.computations =
        r.computations + if (r.admitted .default).isOk = true ∧
          (false = true ∨ r.cache.load (r.fingerprint .default)
            (run (.tagging none) "cache" ⟨[], .empty⟩ sampleEvents).files = none) then 1 else 0 := by
  obtain ⟨a, loaded⟩ := sample_loads
  obtain ⟨count, running⟩ := sample_running loaded
  refine ⟨_, running, render_coherent (.tagging none) sampleAnswers "cache" .empty sampleEvents 0
    .default false sampleTime ?_ ?_ ?_ ?_ ?_ running⟩
  · exact fun _ _ _ => rfl
  · exact fun _ _ _ _ _ => rfl
  · exact fun _ => fileAt_empty _
  · intro event member
    simp only [sampleEvents, List.cons_append, List.nil_append, List.mem_cons, List.not_mem_nil,
      or_false, or_self] at member
    rcases member with rfl | rfl
    · rintro base ⟨⟩
    · exact sampleTime_valid
  · rw [sample_inputs loaded]
    exact CollisionFree.of_ne (sample_digests loaded)

end Session
end CallChart
