import CallChart.Launch.Settings
import CallChart.Service
import CallChart.Shell.Engine

namespace CallChart.Launch

inductive Outcome where
  | done
  | failed (cause : LaunchFailure)
  | serving (service : Service) (location : String)

structure Launched where
  outcome : Outcome
  files : Files
  opened : List String

def readAnalysis (s : Settings) (fs : Files) : Except LaunchFailure Analysis :=
  match fs.read s.graph with
  | .error fault =>
    .error (.analysis (.analysisUnavailable s.entry
      ("cannot read " ++ s.graph ++ ": " ++ fault.message)))
  | .ok bytes =>
    match Analysis.readExport s.graph bytes s.entry with
    | .error e => .error (.analysis e)
    | .ok x =>
      if !x.hasPackage s.entry then .error (.unknownPackage s.entry s.graph)
      else
        match Analysis.resolve x bytes s.entry s.options.tests with
        | .error e => .error (.analysis e)
        | .ok analysis => .ok analysis

def rendererOf (s : Settings) (analysis : Analysis) : Renderer :=
  ⟨analysis, ⟨s.cacheDir⟩, s.output, 0⟩

def engineOf (s : Settings) (environment : Environment) : Engine :=
  .program environment s.dot (s.dotTimeout * 1000)

def renderOnce (s : Settings) (engine : Engine) (analysis : Analysis) (now : Timestamp)
    (fs : Files) : Launched :=
  let (result, _, fs, _) := (rendererOf s analysis).render engine s.options false now fs
  match result with
  | .error e => ⟨.failed (.render e), fs, []⟩
  | .ok _ => ⟨.done, fs, []⟩

def viewerLocation (address viewer : String) : String :=
  if Text.startsWith "http://" viewer ∨ Text.startsWith "https://" viewer then viewer
  else "http://" ++ address ++ "/" ++ String.ofList (viewer.toList.dropWhile (· = '/'))

/-- Renders for the first time, and sends a browser to the viewer if there is something to see. -/
def prepare (s : Settings) (engine : Engine) (analysis : Analysis) (address : String)
    (now : Timestamp) (fs : Files) : Launched :=
  let service := (Service.new (.new s.options) (rendererOf s analysis) engine
    s.viewerUrl fs).renderNow s.options false now
  let opened := match service.board.latest with
    | .ready .. => if s.skipBrowser then [] else [viewerLocation address s.viewerUrl]
    | _ => []
  ⟨.serving service address, service.files, opened⟩

def run (s : Settings) (environment : Environment) (now : Timestamp) (fs : Files) : Launched :=
  match readAnalysis s fs with
  | .error e => ⟨.failed e, fs, []⟩
  | .ok analysis =>
    match s.mode with
    | .batch => renderOnce s (engineOf s environment) analysis now fs
    | .serve host port =>
      prepare s (engineOf s environment) analysis (host ++ ":" ++ toString port) now fs

def unreachable (location : String) : LaunchFailure :=
  .address location "Cannot assign requested address (os error 99)"

end CallChart.Launch
