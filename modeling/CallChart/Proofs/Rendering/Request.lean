import CallChart.Proofs.Rendering.Outputs

namespace CallChart

open Files

abbrev Converter := String → String → Except Failure (List UInt8)

namespace Engine

def Answers (engine : Engine) (convert : Converter) : Prop :=
  ∀ description format fs, (engine.convert description format fs).1 = convert description format

def answersOn (engine : Engine) (fs : Files) : Converter :=
  fun description format => (engine.convert description format fs).1

/-- No file at the place or below it is changed. -/
def Spares (engine : Engine) (place : Path) : Prop :=
  ∀ description format fs q, place <+: q →
    (engine.convert description format fs).2.fileAt q = fs.fileAt q

end Engine

def imageOf (convert : Converter) (description format : String) :
    Except Failure (Option (List UInt8)) :=
  if format = Output.descriptionFormat then .ok none else (convert description format).map some

/-- An artifact is the rendering of an analysis under options in a format. -/
structure Artifact.Renders (a : Artifact) (convert : Converter) (analysis : Analysis) (o : Options)
    (format : String) : Prop where
  fingerprint : a.fingerprint = Fingerprint.compute analysis.id o format
  description : analysis.graph.describe o = .ok a.description
  image : imageOf convert a.description format = .ok a.image
  format : a.format = format

theorem CallGraph.describe_normalized (g : CallGraph) (o : Options) :
    g.describe o.normalized = g.describe o := by
  simp [describe]

namespace Renderer

theorem fingerprint_eq (r : Renderer) (o : Options) :
    r.fingerprint o = Fingerprint.compute r.analysis.id o r.output.format :=
  Fingerprint.compute_normalized _ _ _

def obtained (r : Renderer) (engine : Engine) (o : Options) (refresh : Bool) (now : Timestamp)
    (fs : Files) : Except Failure Artifact × Renderer × Files × Bool :=
  match r.begin o refresh now fs with
  | (.settled result, r, fs) => (result, r, fs, false)
  | (.image fp description, r, fs) =>
    let (answer, fs) := engine.convert description r.output.format fs
    let (result, fs) := r.complete fp description answer now fs
    (result, r, fs, true)

theorem render_obtained {r : Renderer} {engine : Engine} {o : Options} {refresh : Bool}
    {now : Timestamp} {fs : Files} {result : Except Failure Artifact} {r' : Renderer} {fs' : Files}
    {asked : Bool} (known : r.obtained engine o refresh now fs = (result, r', fs', asked)) :
    r.render engine o refresh now fs =
      ((r'.deliver result fs').1, r', (r'.deliver result fs').2, asked) := by
  simp only [obtained] at known
  rcases begun : r.begin o refresh now fs with ⟨result | ⟨fp, description⟩, r₁, fs₁⟩ <;>
    simp only [begun] at known <;> cases known <;> simp only [render, begun]

def counted (r : Renderer) : Renderer :=
  { r with computations := r.computations + 1 }

theorem admitted_eq {r : Renderer} {o p : Options} (admitted : r.admitted o = .ok p) :
    Engine.checkFormat r.output.format = .ok () ∧ p = o.normalized ∧ o.normalized.check = .ok () := by
  simp only [Renderer.admitted, bind, Except.bind] at admitted
  split at admitted
  · cases admitted
  · rename_i plain
    split at admitted
    · cases admitted
    · rename_i valid
      cases admitted
      exact ⟨plain, rfl, valid⟩

theorem finite_of_admitted {r : Renderer} {o : Options} (accepted : (r.admitted o).isOk = true) :
    o.style.nodesep.isFinite = true := by
  cases admitted : r.admitted o with
  | error e => simp [admitted, Except.isOk, Except.toBool] at accepted
  | ok p => exact Options.finite_of_check (admitted_eq admitted).2.2

theorem obtained_of_refused {r : Renderer} {engine : Engine} {o : Options} {refresh : Bool}
    {now : Timestamp} {fs : Files} {e : Failure} (refused : r.admitted o = .error e) :
    r.obtained engine o refresh now fs = (.error e, r, fs, false) := by
  simp [obtained, begin, lookUp, refused]

theorem obtained_of_found {r : Renderer} {engine : Engine} {o p : Options} {refresh : Bool}
    {now : Timestamp} {fs : Files} {a : Artifact} (admitted : r.admitted o = .ok p)
    (found : r.cache.stored? (r.fingerprint p) refresh fs = some a) :
    r.obtained engine o refresh now fs = (.ok a, r, fs, false) := by
  simp [obtained, begin, lookUp, admitted, found]

/-- What is computed is what belongs to the options, and it is stored. Before that nobody but the engine
has changed files. -/
theorem obtained_of_missing {r : Renderer} {o p : Options} {refresh : Bool} {fs : Files}
    (engine : Engine) (now : Timestamp) (admitted : r.admitted o = .ok p)
    (missing : r.cache.stored? (r.fingerprint p) refresh fs = none) :
    ∃ result fs' asked,
      r.obtained engine o refresh now fs = (result, r.counted, r.cache.settle result fs', asked) ∧
        (fs' = fs ∨ ∃ description, fs' = (engine.convert description r.output.format fs).2) ∧
        ∀ a, result = .ok a →
          a.Renders (engine.answersOn fs) r.analysis o r.output.format ∧ a.createdAt = now := by
  obtain ⟨-, rfl, -⟩ := admitted_eq admitted
  have same : r.fingerprint o.normalized = Fingerprint.compute r.analysis.id o r.output.format := by
    rw [fingerprint_eq, Fingerprint.compute_normalized]
  cases described : r.analysis.graph.describe o with
  | error e =>
    have known : r.compute (r.fingerprint o.normalized) o.normalized now = .settled (.error e) := by
      simp only [compute, CallGraph.describe_normalized, described]
    simp only [obtained, begin, lookUp, admitted, missing, start, known]
    exact ⟨.error e, fs, false, rfl, .inl rfl, fun a done => by cases done⟩
  | ok description =>
    by_cases plain : r.output.format = Output.descriptionFormat
    · have known : r.compute (r.fingerprint o.normalized) o.normalized now =
          .settled (.ok (r.artifact (r.fingerprint o.normalized) description none now)) := by
        simp only [compute, CallGraph.describe_normalized, described, if_pos plain]
      simp only [obtained, begin, lookUp, admitted, missing, start, known]
      refine ⟨_, fs, false, rfl, .inl rfl, fun a made => ?_⟩
      cases made
      exact ⟨⟨same, described, if_pos plain, rfl⟩, rfl⟩
    · have known : r.compute (r.fingerprint o.normalized) o.normalized now =
          .image (r.fingerprint o.normalized) description := by
        simp only [compute, CallGraph.describe_normalized, described, if_neg plain]
      simp only [obtained, begin, lookUp, admitted, missing, start, known]
      refine ⟨_, (engine.convert description r.output.format fs).2, true, rfl,
        .inr ⟨description, rfl⟩, fun a made => ?_⟩
      simp only [complete] at made
      cases answer : (engine.convert description r.output.format fs).1 with
      | error e => simp [answer, Except.map] at made
      | ok image =>
        simp only [answer, Except.map, Except.ok.injEq] at made
        subst made
        refine ⟨⟨same, described, ?_, rfl⟩, rfl⟩
        rw [imageOf, if_neg plain]
        exact congrArg (·.map some) answer

theorem renderer_render_begin (r : Renderer) (engine : Engine) (o : Options) (refresh : Bool)
    (now : Timestamp) (fs : Files) :
    (r.render engine o refresh now fs).2.1 = (r.begin o refresh now fs).2.1 := by
  simp only [render]
  split <;> rename_i known <;> rw [known]

theorem renderer_render (r : Renderer) (engine : Engine) (o : Options) (refresh : Bool)
    (now : Timestamp) (fs : Files) :
    (r.render engine o refresh now fs).2.1 = r ∨
      (r.render engine o refresh now fs).2.1 = r.counted := by
  rw [renderer_render_begin, begin]
  split
  · exact .inl rfl
  · rw [start]
    split <;> exact .inr rfl

theorem computations_render (r : Renderer) (engine : Engine) (o : Options) (refresh : Bool)
    (now : Timestamp) (fs : Files) :
    (r.render engine o refresh now fs).2.1.computations = r.computations +
      if (r.admitted o).isOk = true ∧
        (refresh = true ∨ r.cache.load (r.fingerprint o) fs = none) then 1 else 0 := by
  rw [renderer_render_begin]
  cases admitted : r.admitted o with
  | error e => simp [begin, lookUp, admitted, Except.isOk, Except.toBool]
  | ok p =>
    obtain ⟨-, rfl, -⟩ := admitted_eq admitted
    have same : r.fingerprint o.normalized = r.fingerprint o := by
      rw [fingerprint_eq, fingerprint_eq, Fingerprint.compute_normalized]
    have start_counts (fp : Fingerprint) (o : Options) :
        (r.start fp o now fs).2.1.computations = r.computations + 1 := by
      simp only [start]
      split <;> rfl
    simp only [begin, lookUp, admitted, same, Except.isOk, Except.toBool, true_and]
    cases refresh with
    | true => simp [Cache.stored?, start_counts]
    | false =>
      cases loaded : r.cache.load (r.fingerprint o) fs with
      | none => simp [Cache.stored?, loaded, start_counts]
      | some a => simp [Cache.stored?, loaded]

end Renderer
end CallChart
