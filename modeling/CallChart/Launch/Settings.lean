import CallChart.Failure
import CallChart.Files
import CallChart.Launch.Arguments
import CallChart.Number.Reading
import CallChart.Options
import CallChart.Options.Exchange
import CallChart.Rendering
import CallChart.Toml.Reader

namespace CallChart

inductive LaunchFailure where
  | configUnreadable (path reason : String)
  | configInvalid (path : Option String)
  | commandOption (cause : Failure)
  | configOption (cause : Failure)
  | addressForm (value : String)
  | addressPort (value : String) (cause : CountError)
  | unknownPackage (package graph : String)
  | analysis (cause : Failure)
  | render (cause : Failure)
  | address (location reason : String)
  deriving DecidableEq, Repr

namespace LaunchFailure

def chain : LaunchFailure → List String
  | .configUnreadable path reason => ["failed to read config file " ++ path, reason]
  | .configInvalid none => ["invalid config file"]
  | .configInvalid (some path) => ["in " ++ path, "invalid config file"]
  | .commandOption cause => ["invalid command-line option", cause.message]
  | .configOption cause => ["invalid option in config file", cause.message]
  | .addressForm value => ["expected host:port for --http, got " ++ Text.quoted value]
  | .addressPort value cause => ["invalid port in --http " ++ Text.quoted value, cause.message]
  | .unknownPackage package graph =>
    ["package " ++ Text.quoted package ++ " not found in " ++ graph]
  | .analysis cause => [cause.message]
  | .render cause => ["render failed", cause.message]
  | .address location reason => ["failed to bind " ++ location, reason]

def cause? : LaunchFailure → Option Failure
  | .commandOption cause => some cause
  | .configOption cause => some cause
  | .analysis cause => some cause
  | .render cause => some cause
  | _ => none

def isUsage : LaunchFailure → Bool
  | .unknownPackage .. => true
  | _ => false

def exitCode (e : LaunchFailure) : Nat :=
  if e.isUsage then 2 else 1

def indented (first : String) (margin : Nat) (text : String) : String :=
  first ++ ("\n" ++ String.ofList (List.replicate margin ' ')).intercalate
    (text.splitOn "\n")

def causesText : List String → String
  | [] => ""
  | [cause] => "\n\nCaused by:\n" ++ indented "    " 4 cause
  | causes =>
    "\n\nCaused by:" ++ String.join (causes.zipIdx.map fun (cause, n) =>
      "\n" ++ indented ("    " ++ toString n ++ ": ") 7 cause)

def report (e : LaunchFailure) : String :=
  match e.chain with
  | [] => ""
  | text :: causes =>
    if e.isUsage then "error: " ++ text ++ "\n"
    else "Error: " ++ text ++ causesText causes ++ "\n"

end LaunchFailure
end CallChart

namespace CallChart.Launch

structure Config where
  graph : Option String
  file : Option String
  format : Option String
  cacheDir : Option String
  http : Option String
  viewerUrl : Option String
  skipBrowser : Option Bool
  dot : Option String
  dotTimeout : Option Nat
  options : Option Options
  deriving DecidableEq, Repr

namespace Config

def blank : Config := ⟨none, none, none, none, none, none, none, none, none, none⟩

def usualPath : String := "callvis.toml"

def readSeconds : Json → Json.Result Nat
  | .number (some (.whole n)) =>
    if 0 ≤ n then .ok n.toNat else .error (.wrongValue (.number (.whole n)) "u64")
  | j => .error (Json.mismatch "u64" j)

def shape : Json.Shape Config where
  title := "Config"
  exact := true
  blank := blank
  fields := [
    ⟨"graph", false, fun _ j => (Json.readText j).map fun s c => { c with graph := some s }⟩,
    ⟨"file", false, fun _ j => (Json.readText j).map fun s c => { c with file := some s }⟩,
    ⟨"format", false, fun _ j => (Json.readText j).map fun s c => { c with format := some s }⟩,
    ⟨"cache_dir", false, fun _ j =>
      (Json.readText j).map fun s c => { c with cacheDir := some s }⟩,
    ⟨"http", false, fun _ j => (Json.readText j).map fun s c => { c with http := some s }⟩,
    ⟨"viewer_url", false, fun _ j =>
      (Json.readText j).map fun s c => { c with viewerUrl := some s }⟩,
    ⟨"skip_browser", false, fun _ j =>
      (Json.readBool j).map fun b c => { c with skipBrowser := some b }⟩,
    ⟨"dot", false, fun _ j => (Json.readText j).map fun s c => { c with dot := some s }⟩,
    ⟨"dot_timeout", false, fun _ j =>
      (readSeconds j).map fun n c => { c with dotTimeout := some n }⟩,
    ⟨"options", false, fun origin j =>
      (Options.shape.read origin j).map fun o c => { c with options := some o }⟩]

def parse? (text : String) : Option Config :=
  (Toml.parse? text).bind fun j => (shape.read .settings j).toOption

def ofText (text : String) : Except LaunchFailure Config :=
  match parse? text with
  | some c => .ok c
  | none => .error (.configInvalid none)

def ofFile (fs : Files) (path : String) : Except LaunchFailure Config :=
  match fs.read path with
  | .error fault => .error (.configUnreadable path fault.message)
  | .ok bytes =>
    match Utf8.decode? bytes with
    | none => .error (.configUnreadable path "stream did not contain valid UTF-8")
    | some text =>
      match parse? text with
      | some c => .ok c
      | none => .error (.configInvalid (some path))

/-- The file that was named, which has to be there, or else the usual one if it is there. -/
def load (fs : Files) (named : Option String) : Except LaunchFailure Config :=
  match named with
  | some path => ofFile fs path
  | none => if fs.isFile usualPath then ofFile fs usualPath else .ok blank

end Config

inductive Mode where
  | batch
  | serve (host : String) (port : Nat)
  deriving DecidableEq, Repr

structure Settings where
  entry : String
  graph : String
  options : Options
  output : Output
  cacheDir : Option String
  mode : Mode
  viewerUrl : String
  skipBrowser : Bool
  dot : String
  dotTimeout : Nat
  deriving DecidableEq, Repr

namespace Settings

def usualGraph : String := "callgraph.json"

def usualAddress : String := "127.0.0.1:7878"

def usualHost : String := "127.0.0.1"

def usualViewer : String := "/artifact"

def usualFormat : String := "svg"

def usualEngine : String := "dot"

def usualTimeout : Nat := 60

/-- Host and port, which the last colon separates. Without a host it is the local one. -/
def addressOf (value : String) : Except LaunchFailure (String × Nat) :=
  match Text.splitLast ':' value.toList with
  | none => .error (.addressForm value)
  | some (host, port) =>
    match count? (Nat.pow 2 16) (String.ofList port) with
    | .error cause => .error (.addressPort value cause)
    | .ok port => .ok (if host = [] then usualHost else String.ofList host, port)

def optionsOf (a : Arguments) (c : Config) : Except LaunchFailure Options :=
  match (c.options.getD .default).applyOverrides a.overrides with
  | .error e => .error (.commandOption e)
  | .ok (o, _) =>
    match o.check with
    | .error e => .error (.configOption e)
    | .ok () => .ok o

def modeOf (a : Arguments) (c : Config) : Except LaunchFailure Mode :=
  match a.file <|> c.file with
  | some _ => .ok .batch
  | none => do
    let (host, port) ← addressOf ((a.http <|> c.http).getD usualAddress)
    pure (.serve host port)

def resolve (a : Arguments) (c : Config) : Except LaunchFailure Settings := do
  let options ← optionsOf a c
  let mode ← modeOf a c
  pure {
    entry := a.package
    graph := (a.graph <|> c.graph).getD usualGraph
    options := options
    output := ⟨a.file <|> c.file, (a.format <|> c.format).getD usualFormat⟩
    cacheDir := a.cacheDir <|> c.cacheDir
    mode := mode
    viewerUrl := (a.viewerUrl <|> c.viewerUrl).getD usualViewer
    skipBrowser := a.skipBrowser || c.skipBrowser.getD false
    dot := (a.dot <|> c.dot).getD usualEngine
    dotTimeout := (a.dotTimeout <|> c.dotTimeout).getD usualTimeout }

end Settings
end CallChart.Launch
