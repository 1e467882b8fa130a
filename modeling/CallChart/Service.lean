import CallChart.Options.Store
import CallChart.Service.MediaType
import CallChart.Service.Message
import CallChart.Service.Status

namespace CallChart

def Program.name : String := "callvis"

def Program.version : String := "0.1.0"

structure Waiting where
  fingerprint : Fingerprint
  description : String
  generations : List Nat
  deriving DecidableEq, Repr

structure Service where
  options : OptionsStore
  renderer : Renderer
  engine : Engine
  viewer : String
  files : Files
  board : StatusBoard
  waiting : List Waiting
  conversions : Nat

namespace Service

def new (options : OptionsStore) (renderer : Renderer) (engine : Engine) (viewer : String)
    (files : Files) : Service :=
  ⟨options, renderer, engine, viewer, files, .new, [], 0⟩

/-- A render has its artifact or its failure: the output files are written and the status set. -/
def conclude (s : Service) (result : Except Failure Artifact) (generation : Nat) : Service :=
  let (rendering, files) := s.renderer.deliver result s.files
  { s with files := files, board := s.board.finish generation rendering }

def isWaiting (s : Service) (fp : Fingerprint) : Bool :=
  s.waiting.any (·.fingerprint = fp)

def join (s : Service) (fp : Fingerprint) (generation : Nat) : Service :=
  { s with
    waiting := s.waiting.map fun w =>
      if w.fingerprint = fp then { w with generations := w.generations ++ [generation] } else w }

def launch (s : Service) (fp : Fingerprint) (o : Options) (now : Timestamp) (generation : Nat) :
    Service :=
  let (start, renderer, files) := s.renderer.start fp o now s.files
  let s := { s with renderer := renderer, files := files }
  match start with
  | .settled result => s.conclude result generation
  | .image fp description =>
    { s with waiting := s.waiting ++ [⟨fp, description, [generation]⟩] }

def trigger (s : Service) (o : Options) (refresh : Bool) (now : Timestamp) : Service :=
  let generation := s.board.next
  let s := { s with board := s.board.begin }
  match s.renderer.lookUp o refresh s.files with
  | .settled result => s.conclude result generation
  | .missing fp o =>
    if s.isWaiting fp then s.join fp generation else s.launch fp o now generation

def finish (s : Service) (now : Timestamp) (w : Waiting) : Service :=
  let (answer, files) := s.engine.convert w.description s.renderer.output.format s.files
  let (result, files) := s.renderer.complete w.fingerprint w.description answer now files
  w.generations.foldl (fun s generation => s.conclude result generation)
    { s with files := files, conversions := s.conversions + 1 }

def settle (s : Service) (now : Timestamp) : Service :=
  s.waiting.foldl (fun s w => s.finish now w) { s with waiting := [] }

def renderNow (s : Service) (o : Options) (refresh : Bool) (now : Timestamp) : Service :=
  (s.trigger o refresh now).settle now

def isSet (value : String) : Bool :=
  ["true", "1", "on", "yes"].contains (Text.trim value)

def lastSet (key : String) (query : List (String × String)) : Bool :=
  query.foldl (fun set pair => if pair.1 = key then isSet pair.2 else set) false

def overrides (query : List (String × String)) : List (String × String) :=
  query.filter fun pair => pair.1 ≠ "refresh" ∧ pair.1 ≠ "reset"

/-- Merges a partial option set, if there is one, and answers with the options in force. -/
def exchange (s : Service) (query : List (String × String)) : ServiceReply × Service :=
  match query.filter (·.1 = "opts") with
  | _ :: _ :: _ =>
    (.plain 400 "Failed to deserialize query string: duplicate field `opts`", s)
  | given =>
    match given.filter fun pair => Text.trim pair.2 ≠ "" with
    | [] => (.json 200 s.options.serialize, s)
    | (_, payload) :: _ =>
      match s.options.merge payload with
      | (.error e, _) => (.ofFailure e, s)
      | (.ok _, options) => (.json 200 options.serialize, { s with options := options })

def triggered (s : Service) (query : List (String × String)) (now : Timestamp) :
    ServiceReply × Service :=
  let pairs := overrides query
  let (result, options) :=
    if lastSet "reset" query then s.options.reset pairs else s.options.change pairs
  match result with
  | .error e => (.ofFailure e, s)
  | .ok o =>
    (.redirect s.viewer,
      { s with options := options }.trigger o (lastSet "refresh" query) now)

def latest (s : Service) (ready : Rendering → ServiceReply) : ServiceReply :=
  match s.board.latest with
  | .idle => .plain 404 "nothing rendered yet"
  | .pending generation =>
    { ServiceReply.plain 202 ("render #" ++ toString generation ++ " in progress") with
      retryAfter := some "1" }
  | .ready _ rendering => ready rendering
  | .failed _ e => .ofFailure e

def descriptionReply (description : String) : ServiceReply :=
  .typed 200 "text/vnd.graphviz; charset=utf-8" (Utf8.encode description)

def imageReply (rendering : Rendering) : ServiceReply :=
  match rendering.artifact.image with
  | some image => .typed 200 (MediaType.ofFormat rendering.artifact.format) image
  | none => descriptionReply rendering.artifact.description

def clearCache (s : Service) : ServiceReply × Service :=
  let (result, files) := s.renderer.cache.clear s.files
  let s := { s with files := files }
  match result with
  | .error e => (.ofFailure e, s)
  | .ok removed => (.json 200 (Json.ofFields [("removed", .ofNat removed)]).compact, s)

def health (s : Service) : ServiceReply :=
  .json 200 (Json.ofFields [("status", .ofText "ok"), ("version", .ofText Program.version),
    ("entry", .ofText s.renderer.analysis.entry), ("render", .ofText s.board.latest.label),
    ("computations", .ofNat s.renderer.computations)]).compact

inductive Endpoint where
  | options
  | render
  | artifact
  | description
  | cache
  | health
  deriving DecidableEq, Repr

def endpoint? : String → Option Endpoint
  | "/options" => some .options
  | "/render" => some .render
  | "/artifact" => some .artifact
  | "/artifact/gv" => some .description
  | "/cache" => some .cache
  | "/api/health" => some .health
  | _ => none

def Endpoint.methods : Endpoint → String
  | .cache => "DELETE"
  | _ => "GET,HEAD"

def answer (s : Service) (query : List (String × String)) (now : Timestamp) :
    Endpoint → ServiceReply × Service
  | .options => s.exchange query
  | .render => s.triggered query now
  | .artifact => (s.latest imageReply, s)
  | .description => (s.latest fun r => descriptionReply r.artifact.description, s)
  | .cache => s.clearCache
  | .health => (s.health, s)

/-- Answers a request. Every path may be asked which methods it has, also one that has none. -/
def handle (s : Service) (request : ServiceRequest) (now : Timestamp) : ServiceReply × Service :=
  match endpoint? request.path, request.method with
  | e, .options => (.offering (e.map Endpoint.methods), s)
  | none, _ => (.bare 404, s)
  | some .cache, .delete => s.answer request.query now .cache
  | some .cache, _ => (.notAllowed Endpoint.cache.methods, s)
  | some e, .get => s.answer request.query now e
  | some e, .head =>
    let (reply, s) := s.answer request.query now e
    (reply.withoutBody, s)
  | some e, _ => (.notAllowed e.methods, s)

def summary (s : Service) : String :=
  "ServerState \x7b runner: " ++ s.renderer.summary s.engine ++ ", viewer_url: " ++
    Text.quoted s.viewer ++ ", generation: " ++ toString s.board.begun ++ " \x7d"

end Service
end CallChart
