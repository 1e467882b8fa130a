import CallChart.Proofs.Options.Overrides
import CallChart.Proofs.Service.Snapshots

namespace CallChart

theorem Failure.IsInvalid.code {e : Failure} (invalid : e.IsInvalid) :
    (ServiceReply.ofFailure e).code = 400 := by
  obtain ⟨key, value, reason, rfl⟩ := invalid
  rfl

namespace Renderer

/-- The time that an artifact bears: a description is there at once, and an image when the engine
has made it. -/
def made (r : Renderer) (begun ended : Timestamp) : Timestamp :=
  if r.output.format = Output.descriptionFormat then begun else ended

theorem compute_made (r : Renderer) (fp : Fingerprint) (o : Options) (begun ended : Timestamp) :
    r.compute fp o (r.made begun ended) = r.compute fp o begun := by
  unfold compute made
  split
  · rfl
  · split <;> rfl

theorem start_made (r : Renderer) (fp : Fingerprint) (o : Options) (begun ended : Timestamp)
    (fs : Files) : r.start fp o (r.made begun ended) fs = r.start fp o begun fs := by
  simp only [start, compute_made]

theorem format_of_start {r : Renderer} {fp : Fingerprint} {o : Options} {begun : Timestamp}
    {fp' : Fingerprint} {description : String} {r' : Renderer} {fs fs' : Files}
    (started : r.start fp o begun fs = (.image fp' description, r', fs')) :
    r.output.format ≠ Output.descriptionFormat := by
  unfold start at started
  split at started
  · cases started
  · rename_i unsettled
    unfold compute at started unsettled
    split at started
    · cases started
    · split at started
      · cases started
      · assumption

end Renderer

theorem StatusBoard.finish_begin (b : StatusBoard) (result : Except Failure Rendering) :
    b.begin.finish b.next result = ⟨b.next, .ofResult b.next result⟩ := by
  simp [finish, begin, RenderStatus.generation]

namespace Service

def rendered (s : Service) (o : Options) (refresh : Bool) (now : Timestamp) : Service :=
  let (result, renderer, files, asked) := s.renderer.render s.engine o refresh now s.files
  { s with
    renderer := renderer
    files := files
    board := ⟨s.board.next, .ofResult s.board.next result⟩
    conversions := s.conversions + asked.toNat }

theorem settle_idle {s : Service} (idle : s.waiting = []) (now : Timestamp) : s.settle now = s := by
  obtain ⟨options, renderer, engine, viewer, files, board, waiting, conversions⟩ := s
  cases idle
  rfl

theorem settle_trigger {s : Service} {o : Options} {refresh : Bool} {begun ended : Timestamp}
    (idle : s.waiting = []) :
    (s.trigger o refresh begun).settle ended =
      s.rendered o refresh (s.renderer.made begun ended) := by
  obtain ⟨options, renderer, engine, viewer, files, board, waiting, conversions⟩ := s
  obtain rfl : waiting = [] := idle
  simp only [trigger, rendered, Renderer.render, Renderer.begin]
  cases renderer.lookUp o refresh files with
  | settled result =>
    simp only [conclude, StatusBoard.finish_begin]
    rfl
  | missing fp o =>
    simp only [isWaiting, List.any_nil, Bool.false_eq_true, ↓reduceIte, launch,
      Renderer.start_made]
    rcases started : renderer.start fp o begun files with ⟨result | ⟨fp', description⟩, r, fs⟩
    · simp only [conclude, StatusBoard.finish_begin]
      rfl
    · have image := Renderer.format_of_start started
      simp only [settle, finish, List.nil_append, List.foldl_cons, List.foldl_nil, conclude,
        StatusBoard.finish_begin, Renderer.made, if_neg image]
      rfl

theorem lastSet_eq (key : String) (query : List (String × String)) :
    lastSet key query = (lastNamed key query).any fun pair => isSet pair.2 := by
  induction query using List.reverseRecOn with
  | nil => rfl
  | append_singleton query pair ih =>
    rw [lastSet, List.foldl_append, List.foldl_cons, List.foldl_nil, lastNamed_append]
    split
    · rfl
    · exact ih

end Service

namespace OptionsStore

/-- The options that a trigger starts from: those of the launch if its last `reset` is set, wherever
that stands among the parameters, and otherwise those in force. -/
def base (store : OptionsStore) (query : List (String × String)) : Options :=
  if (lastNamed "reset" query).any fun pair => Service.isSet pair.2 then store.defaults
  else store.current

def wanted (store : OptionsStore) (query : List (String × String)) : Options :=
  (Service.overrides query).foldl Options.put (store.base query)

def Admits (store : OptionsStore) (query : List (String × String)) : Prop :=
  (store.base query).Accepts (Service.overrides query)

instance (store : OptionsStore) (query : List (String × String)) : Decidable (store.Admits query) :=
  inferInstanceAs (Decidable (Options.Accepts _ _))

theorem requested_eq (store : OptionsStore) (query : List (String × String)) :
    store.requested query =
      store.settle (((store.base query).applyOverrides (Service.overrides query)).map (·.1)) := by
  simp only [requested, base, Service.lastSet_eq, reset, change]
  split <;> rfl

theorem requested_admitted {store : OptionsStore} {query : List (String × String)}
    (admits : store.Admits query) :
    store.requested query = (.ok (store.wanted query), ⟨store.wanted query, store.defaults⟩) := by
  obtain ⟨count, applied⟩ := Options.applyOverrides_accepted admits
  rw [requested_eq, applied]
  rfl

theorem requested_refused {store : OptionsStore} {query : List (String × String)}
    (refuses : ¬ store.Admits query) :
    ∃ e, store.requested query = (.error e, store) ∧ e.IsInvalid := by
  obtain ⟨e, refused, invalid⟩ := Options.applyOverrides_refused refuses
  refine ⟨e, ?_, invalid⟩
  rw [requested_eq, refused]
  rfl

end OptionsStore

namespace Service

/-- A request, with the time when it comes and the time when the engine has made the image that it
may need. -/
structure Visit where
  request : ServiceRequest
  begun : Timestamp
  ended : Timestamp

namespace Visit

def endpoint? (v : Visit) : Option Endpoint :=
  match Service.endpoint? v.request.path, v.request.method with
  | some .cache, .delete => some .cache
  | some .cache, _ => none
  | some e, .get => some e
  | some e, .head => some e
  | _, _ => none

end Visit

def serve (s : Service) (v : Visit) : ServiceReply × Service :=
  let (reply, s) := s.handle v.request v.begun
  (reply, s.settle v.ended)

def serveAll (s : Service) (visits : List Visit) : Service :=
  visits.foldl (fun s v => (s.serve v).2) s

def outcome (s : Service) (v : Visit) : Except Failure Rendering :=
  (s.renderer.render s.engine (s.options.wanted v.request.query)
    ((lastNamed "refresh" v.request.query).any fun pair => isSet pair.2)
    (s.renderer.made v.begun v.ended) s.files).1

def Triggers (s : Service) (v : Visit) : Prop :=
  v.endpoint? = some .render ∧ s.options.Admits v.request.query

instance (s : Service) (v : Visit) : Decidable (s.Triggers v) :=
  inferInstanceAs (Decidable (_ ∧ _))

def outcomes (s : Service) : List Visit → List (Except Failure Rendering)
  | [] => []
  | v :: visits =>
    (if s.Triggers v then [s.outcome v] else []) ++ outcomes (s.serve v).2 visits

theorem handle_snd (s : Service) (v : Visit) :
    (s.handle v.request v.begun).2 =
      match v.endpoint? with
      | some e => (s.answer v.request.query v.begun e).2
      | none => s := by
  simp only [handle, Visit.endpoint?]
  rcases endpoint? v.request.path with - | (- | - | - | - | - | -) <;>
    cases v.request.method <;> rfl

theorem triggered_admitted {s : Service} {query : List (String × String)}
    (admits : s.options.Admits query) (now : Timestamp) :
    s.triggered query now = (.redirect s.viewer,
      { s with options := ⟨s.options.wanted query, s.options.defaults⟩ }.trigger
        (s.options.wanted query) (lastSet "refresh" query) now) := by
  rw [triggered_eq, OptionsStore.requested_admitted admits]

theorem triggered_refused {s : Service} {query : List (String × String)}
    (refuses : ¬ s.options.Admits query) (now : Timestamp) :
    ∃ e, s.triggered query now = (.ofFailure e, s) ∧ e.IsInvalid := by
  obtain ⟨e, refused, invalid⟩ := OptionsStore.requested_refused refuses
  exact ⟨e, by rw [triggered_eq, refused], invalid⟩

theorem exchange_cases (s : Service) (query : List (String × String)) :
    (s.exchange query).2 = s ∨
      ∃ payload o, s.options.current.merge payload = .ok o ∧
        (s.exchange query).2 = { s with options := ⟨o, s.options.defaults⟩ } := by
  unfold exchange
  split
  · exact .inl rfl
  · split
    · exact .inl rfl
    · rename_i payload _ _
      simp only [OptionsStore.merge]
      cases merged : s.options.current.merge payload with
      | error e => exact .inl rfl
      | ok o => exact .inr ⟨payload, o, merged, rfl⟩

theorem exchange_one {s : Service} {query : List (String × String)} {key payload : String}
    (given : query.filter (·.1 = "opts") = [(key, payload)]) (text : Text.trim payload ≠ "") :
    s.exchange query = match s.options.current.merge payload with
      | .error e => (.ofFailure e, s)
      | .ok o => (.json 200 o.text, { s with options := ⟨o, s.options.defaults⟩ }) := by
  simp only [exchange, given, List.filter_cons, text, ne_eq, not_false_eq_true, decide_true,
    ↓reduceIte, List.filter_nil, OptionsStore.merge]
  cases s.options.current.merge payload <;> rfl

theorem exchange_none {s : Service} {query : List (String × String)}
    (given : query.filter (·.1 = "opts") = []) :
    s.exchange query = (.json 200 s.options.current.text, s) := by
  simp only [exchange, given, List.filter_nil]
  rfl

theorem serve_triggers {s : Service} {v : Visit} (idle : s.waiting = []) (triggers : s.Triggers v) :
    (s.serve v).2.options = ⟨s.options.wanted v.request.query, s.options.defaults⟩ ∧
    (s.serve v).2.board = ⟨s.board.next, .ofResult s.board.next (s.outcome v)⟩ ∧
    (s.serve v).2.waiting = [] ∧ (s.serve v).2.viewer = s.viewer := by
  obtain ⟨render, admits⟩ := triggers
  have served : (s.serve v).2 = (s.handle v.request v.begun).2.settle v.ended := rfl
  rw [served, handle_snd, render]
  simp only [answer, triggered_admitted admits]
  rw [settle_trigger (by exact idle), lastSet_eq]
  exact ⟨rfl, rfl, idle, rfl⟩

theorem handle_otherwise {s : Service} {v : Visit} (quiet : ¬ s.Triggers v) :
    ∃ o fs, (s.handle v.request v.begun).2 =
        { s with options := ⟨o, s.options.defaults⟩, files := fs } ∧
      (o = s.options.current ∨
        v.endpoint? = some .options ∧ ∃ payload, s.options.current.merge payload = .ok o) := by
  rw [handle_snd]
  cases asked : v.endpoint? with
  | none => exact ⟨s.options.current, s.files, rfl, .inl rfl⟩
  | some e =>
    cases e with
    | options =>
      simp only [answer]
      rcases s.exchange_cases v.request.query with kept | ⟨payload, o, merged, changed⟩
      · rw [kept]
        exact ⟨s.options.current, s.files, rfl, .inl rfl⟩
      · rw [changed]
        exact ⟨o, s.files, rfl, .inr ⟨trivial, payload, merged⟩⟩
    | render =>
      have refuses : ¬ s.options.Admits v.request.query := fun admits => quiet ⟨asked, admits⟩
      obtain ⟨e, refused, -⟩ := triggered_refused refuses v.begun
      simp only [answer, refused]
      exact ⟨s.options.current, s.files, rfl, .inl rfl⟩
    | cache =>
      simp only [answer, clearCache]
      rcases s.renderer.cache.clear s.files with ⟨e | removed, fs⟩ <;>
        exact ⟨s.options.current, fs, rfl, .inl rfl⟩
    | artifact => exact ⟨s.options.current, s.files, rfl, .inl rfl⟩
    | description => exact ⟨s.options.current, s.files, rfl, .inl rfl⟩
    | health => exact ⟨s.options.current, s.files, rfl, .inl rfl⟩

theorem serve_otherwise {s : Service} {v : Visit} (idle : s.waiting = []) (quiet : ¬ s.Triggers v) :
    ∃ o fs, (s.serve v).2 = { s with options := ⟨o, s.options.defaults⟩, files := fs } ∧
      (o = s.options.current ∨
        v.endpoint? = some .options ∧ ∃ payload, s.options.current.merge payload = .ok o) := by
  obtain ⟨o, fs, handled, origin⟩ := handle_otherwise quiet
  refine ⟨o, fs, ?_, origin⟩
  have served : (s.serve v).2 = (s.handle v.request v.begun).2.settle v.ended := rfl
  rw [served, handled, settle_idle (by exact idle)]

/-- The service between two visits. Nothing is under way, and the status is the outcome of the last
render. -/
structure Rests (defaults : Options) (viewer : String) (last : Option (Except Failure Rendering))
    (s : Service) : Prop where
  idle : s.waiting = []
  launch : s.options.defaults = defaults
  viewer : s.viewer = viewer
  status : s.board.latest = last.elim .idle (.ofResult s.board.begun)
  valid : defaults.check = .ok () → s.options.current.check = .ok ()

namespace Rests

theorem new (defaults : Options) (renderer : Renderer) (engine : Engine) (viewer : String)
    (files : Files) : Rests defaults viewer none (.new (.new defaults) renderer engine viewer files) :=
  ⟨rfl, rfl, rfl, rfl, id⟩

theorem serve {s : Service} {defaults : Options} {viewer : String}
    {last : Option (Except Failure Rendering)} (rests : Rests defaults viewer last s) (v : Visit) :
    Rests defaults viewer (if s.Triggers v then some (s.outcome v) else last) (s.serve v).2 := by
  split
  · rename_i triggers
    obtain ⟨options, board, idle, shown⟩ := serve_triggers rests.idle triggers
    constructor
    case idle => exact idle
    case launch => rw [options, ← rests.launch]
    case viewer => rw [shown, rests.viewer]
    case status =>
      rw [board]
      rfl
    case valid =>
      intro _
      rw [options]
      exact triggers.2.2
  · rename_i quiet
    obtain ⟨o, fs, served, origin⟩ := serve_otherwise rests.idle quiet
    rw [served]
    refine ⟨rests.idle, rests.launch, rests.viewer, rests.status, fun valid => ?_⟩
    rcases origin with rfl | ⟨-, payload, merged⟩
    · exact rests.valid valid
    · exact Options.check_of_merge merged

theorem serveAll {s : Service} {defaults : Options} {viewer : String}
    {last : Option (Except Failure Rendering)} (rests : Rests defaults viewer last s)
    (visits : List Visit) :
    Rests defaults viewer ((s.outcomes visits).getLast?.or last) (s.serveAll visits) := by
  induction visits generalizing s last with
  | nil => exact rests
  | cons v visits ih =>
    have later := ih (rests.serve v)
    have same : (s.outcomes (v :: visits)).getLast?.or last =
        ((s.serve v).2.outcomes visits).getLast?.or
          (if s.Triggers v then some (s.outcome v) else last) := by
      rw [outcomes, List.getLast?_append, Option.or_assoc]
      split <;> rfl
    rw [same]
    exact later

end Rests

def Visit.Asks (v : Visit) (method : Method) (path : String) : Prop :=
  v.request.method = method ∧ v.request.path = path

/-- What is served of the last render, by its outcome. -/
def latestReply (ready : Rendering → ServiceReply) :
    Option (Except Failure Rendering) → ServiceReply
  | none => .plain 404 "nothing rendered yet"
  | some (.ok rendering) => ready rendering
  | some (.error e) => .ofFailure e

/-- A visit leaves the options in force and the status as they were. -/
def Keeps (s : Service) (v : Visit) : Prop :=
  (s.serve v).2.options = s.options ∧ (s.serve v).2.board = s.board

/-- A visit is refused for an invalid option, and changes nothing. -/
def Refuses (s : Service) (v : Visit) : Prop :=
  ∃ e : Failure, e.IsInvalid ∧ (s.serve v).1 = .ofFailure e ∧ (s.serve v).1.code = 400 ∧ s.Keeps v

/-- How the service deals with one more visit, `last` being what the last render came to. -/
structure Serves (defaults : Options) (viewer : String) (last : Option (Except Failure Rendering))
    (s : Service) (v : Visit) : Prop where
  launch : s.options.defaults = defaults
  status : s.board.latest = last.elim .idle (.ofResult s.board.begun)
  accepted : v.Asks .get "/render" → s.options.Admits v.request.query →
    (s.serve v).1 = .redirect viewer ∧
    (s.serve v).2.options = ⟨s.options.wanted v.request.query, defaults⟩ ∧
    (s.serve v).2.board = ⟨s.board.next, .ofResult s.board.next (s.outcome v)⟩
  refused : v.Asks .get "/render" → ¬ s.options.Admits v.request.query → s.Refuses v
  admits : defaults.check = .ok () → (s.options.Admits v.request.query ↔
    (∀ pair ∈ overrides v.request.query, Options.Readable pair) ∧
      ∀ key pair, lastNamed key (overrides v.request.query) = some pair →
        Options.default.Accepts [pair])
  merged {key payload : String} : v.Asks .get "/options" →
    v.request.query.filter (·.1 = "opts") = [(key, payload)] → Text.trim payload ≠ "" →
    (∃ o, s.options.current.merge payload = .ok o ∧ (s.serve v).1 = .json 200 o.text ∧
      (s.serve v).2.options = ⟨o, defaults⟩ ∧ (s.serve v).2.board = s.board) ∨
    ((∃ e, s.options.current.merge payload = .error e) ∧ s.Refuses v)
  told : v.Asks .get "/options" → v.request.query.filter (·.1 = "opts") = [] →
    (s.serve v).1 = .json 200 s.options.current.text ∧ s.Keeps v
  kept : v.Asks .get "/artifact" ∨ v.Asks .get "/artifact/gv" ∨ v.Asks .get "/api/health" ∨
    v.Asks .delete "/cache" → s.Keeps v
  artifact : v.Asks .get "/artifact" → (s.serve v).1 = latestReply imageReply last
  description : v.Asks .get "/artifact/gv" →
    (s.serve v).1 = latestReply (fun r => descriptionReply r.artifact.description) last

theorem endpoint?_get {v : Visit} {e : Endpoint} (get : v.request.method = .get)
    (asked : Service.endpoint? v.request.path = some e) (uncached : e ≠ .cache) :
    v.endpoint? = some e := by
  simp only [Visit.endpoint?, get, asked]

theorem handle_get {s : Service} {v : Visit} {e : Endpoint} (get : v.request.method = .get)
    (asked : Service.endpoint? v.request.path = some e) (uncached : e ≠ .cache) :
    s.handle v.request v.begun = s.answer v.request.query v.begun e := by
  simp only [handle, get, asked]

theorem keeps_otherwise {s : Service} {v : Visit} (idle : s.waiting = [])
    (triggers : v.endpoint? ≠ some .render) (exchanges : v.endpoint? ≠ some .options) :
    s.Keeps v := by
  obtain ⟨o, fs, served, origin⟩ := serve_otherwise idle (v := v) fun render => triggers render.1
  rcases origin with rfl | ⟨options, -⟩
  · rw [Keeps, served]
    exact ⟨rfl, rfl⟩
  · exact (exchanges options).elim

theorem keeps_of_handle {s : Service} {v : Visit} (idle : s.waiting = []) {reply : ServiceReply}
    (handled : s.handle v.request v.begun = (reply, s)) : (s.serve v).1 = reply ∧ s.Keeps v := by
  simp only [Keeps, serve, handled, settle_idle idle, and_self]

theorem latest_eq {s : Service} {last : Option (Except Failure Rendering)}
    (status : s.board.latest = last.elim .idle (.ofResult s.board.begun))
    (ready : Rendering → ServiceReply) : s.latest ready = latestReply ready last := by
  rw [latest, status]
  rcases last with - | - | - <;> rfl

theorem Rests.serves {s : Service} {defaults : Options} {viewer : String}
    {last : Option (Except Failure Rendering)} (rests : Rests defaults viewer last s) (v : Visit) :
    Serves defaults viewer last s v where
  launch := rests.launch
  status := rests.status
  accepted := by
    rintro ⟨get, path⟩ admits
    have asked : Service.endpoint? v.request.path = some .render := by rw [path]; rfl
    have triggers : s.Triggers v := ⟨endpoint?_get get asked nofun, admits⟩
    obtain ⟨options, board, -, -⟩ := serve_triggers rests.idle triggers
    refine ⟨?_, by rw [options, rests.launch], board⟩
    have reply : (s.serve v).1 = (s.handle v.request v.begun).1 := rfl
    rw [reply, handle_get get asked nofun]
    simp only [answer, triggered_admitted admits, rests.viewer]
  refused := by
    rintro ⟨get, path⟩ refuses
    have asked : Service.endpoint? v.request.path = some .render := by rw [path]; rfl
    obtain ⟨e, refused, invalid⟩ := triggered_refused refuses v.begun
    have handled := handle_get (s := s) get asked nofun
    simp only [answer, refused] at handled
    obtain ⟨reply, keeps⟩ := keeps_of_handle rests.idle handled
    exact ⟨e, invalid, reply, by rw [reply, invalid.code], keeps⟩
  admits := by
    intro valid
    refine Options.accepts_iff ?_
    unfold OptionsStore.base
    split
    · rwa [rests.launch]
    · exact rests.valid valid
  merged := by
    rintro key payload ⟨get, path⟩ given text
    have asked : Service.endpoint? v.request.path = some .options := by rw [path]; rfl
    have handled := handle_get (s := s) get asked nofun
    simp only [answer, exchange_one given text] at handled
    cases merged : s.options.current.merge payload with
    | error e =>
      have invalid := Options.merge_onlyInvalid _ _ e merged
      rw [merged] at handled
      obtain ⟨reply, keeps⟩ := keeps_of_handle rests.idle handled
      exact .inr ⟨⟨e, rfl⟩, e, invalid, reply, by rw [reply, invalid.code], keeps⟩
    | ok o =>
      rw [merged] at handled
      refine .inl ⟨o, rfl, ?_⟩
      simp only [Service.serve, handled, rests.launch]
      rw [settle_idle (by exact rests.idle)]
      exact ⟨trivial, rfl, rfl⟩
  told := by
    rintro ⟨get, path⟩ given
    have asked : Service.endpoint? v.request.path = some .options := by rw [path]; rfl
    have handled := handle_get (s := s) get asked nofun
    simp only [answer, exchange_none given] at handled
    exact keeps_of_handle rests.idle handled
  kept := by
    rintro (⟨method, path⟩ | ⟨method, path⟩ | ⟨method, path⟩ | ⟨method, path⟩) <;>
      refine keeps_otherwise rests.idle ?_ ?_ <;>
      simp [Visit.endpoint?, Service.endpoint?, method, path]
  artifact := by
    rintro ⟨get, path⟩
    have asked : Service.endpoint? v.request.path = some .artifact := by rw [path]; rfl
    have handled := handle_get (s := s) get asked nofun
    rw [answer, latest_eq rests.status] at handled
    exact (keeps_of_handle rests.idle handled).1
  description := by
    rintro ⟨get, path⟩
    have asked : Service.endpoint? v.request.path = some .description := by rw [path]; rfl
    have handled := handle_get (s := s) get asked nofun
    rw [answer, latest_eq rests.status] at handled
    exact (keeps_of_handle rests.idle handled).1

/-- After any visits, each of which ends with its render, the next one is answered by the launch
options, the options in force and the outcome of the last render that was accepted, and changes just
these. -/
theorem serves_in_sequence (defaults : Options) (renderer : Renderer) (engine : Engine)
    (viewer : String) (files : Files) (visits : List Visit) (v : Visit) :
    let launched := new (.new defaults) renderer engine viewer files
    Serves defaults viewer (launched.outcomes visits).getLast? (launched.serveAll visits) v := by
  intro launched
  have rests := (Rests.new defaults renderer engine viewer files).serveAll visits
  rw [Option.or_none] at rests
  exact rests.serves v

def vacantRenderer : Renderer :=
  ⟨⟨"", "app", false, ⟨[], [], []⟩⟩, ⟨none⟩, ⟨none, Output.descriptionFormat⟩, 0⟩

def vacant : Service :=
  new (.new .default) vacantRenderer (.tagging none) "/artifact" .empty

def visit (path : String) (query : List (String × String)) : Visit :=
  ⟨⟨.get, path, query⟩, ⟨1970, 1, 1, 0, 0, 0, 0⟩, ⟨1970, 1, 1, 0, 0, 0, 0⟩⟩

def astray : List Visit :=
  [visit "/render" [("focus", "nowhere")], visit "/render" [("focus", "app"), ("tests", "maybe")]]

/-- The failure of the render is served, as the refused trigger came to nothing. -/
theorem astray_served :
    ((vacant.serveAll astray).serve (visit "/artifact" [])).1 =
        .ofFailure (.focusNotFound "nowhere") ∧
      (vacant.serveAll astray).options.current.focus = "nowhere" := by
  have served := serves_in_sequence .default vacantRenderer (.tagging none) "/artifact" .empty
    astray (visit "/artifact" [])
  have last : (vacant.outcomes astray).getLast? = some (.error (.focusNotFound "nowhere")) := by
    decide +kernel
  have reply := served.artifact ⟨rfl, rfl⟩
  rw [← vacant, last] at reply
  exact ⟨reply, by decide +kernel⟩

/-- An override that is refused alone is accepted if another value for its option follows. -/
theorem superseded_accepted :
    let alone := visit "/render" [("nodesep", "-1")]
    let superseded := visit "/render" [("nodesep", "-1"), ("nodesep", "0.5")]
    vacant.Refuses alone ∧ (vacant.serve superseded).1 = .redirect "/artifact" ∧
      (vacant.serve superseded).2.options.current.style.nodesep = .ofDecimal false 5 (-1) := by
  intro alone superseded
  have rests := Rests.new .default vacantRenderer (.tagging none) "/artifact" .empty
  have admits : vacant.options.Admits superseded.request.query := by decide +kernel
  obtain ⟨reply, options, -⟩ := (rests.serves superseded).accepted ⟨rfl, rfl⟩ admits
  refine ⟨(rests.serves alone).refused ⟨rfl, rfl⟩ (by decide +kernel), reply, ?_⟩
  rw [vacant, options]
  decide +kernel

end Service
end CallChart
