import CallChart.Launch.Environment
import CallChart.Number.Reading
import CallChart.Number.Shortest
import CallChart.Text.Split

namespace CallChart.Launch

inductive Flag where
  | graph
  | focus
  | group
  | limit
  | ignore
  | only
  | nostd
  | nointer
  | tests
  | retention
  | file
  | format
  | cacheDir
  | minlen
  | nodesep
  | nodeshape
  | nodestyle
  | rankdir
  | http
  | viewerUrl
  | skipBrowser
  | dot
  | dotTimeout
  | config
  | verbose
  | help
  | version
  deriving DecidableEq, Repr

inductive FlagKind where
  | text
  | path
  | choice
  | count
  | real
  | seconds
  | switch
  deriving DecidableEq, Repr

inductive Refusal where
  | unknownArgument
  | invalidValue
  | valueValidation
  | missingRequired
  | conflict
  | tooManyValues
  | help
  | version
  | unfitVariable
  deriving DecidableEq, Repr

def Refusal.exitCode : Refusal → Nat
  | .help => 0
  | .version => 0
  | .unfitVariable => 101
  | _ => 2

namespace Flag

def names : List (String × Flag) := [
  ("graph", .graph), ("focus", .focus), ("group", .group), ("limit", .limit),
  ("ignore", .ignore), ("include", .only), ("nostd", .nostd), ("nointer", .nointer),
  ("tests", .tests), ("retention", .retention), ("file", .file), ("format", .format),
  ("cache-dir", .cacheDir), ("minlen", .minlen), ("nodesep", .nodesep),
  ("nodeshape", .nodeshape), ("nodestyle", .nodestyle), ("rankdir", .rankdir),
  ("http", .http), ("viewer-url", .viewerUrl), ("skip-browser", .skipBrowser), ("dot", .dot),
  ("dot-timeout", .dotTimeout), ("config", .config), ("verbose", .verbose), ("help", .help),
  ("version", .version)]

def ofName? (name : String) : Option Flag :=
  names.lookup name

def ofLetter? : Char → Option Flag
  | 'v' => some .verbose
  | 'h' => some .help
  | 'V' => some .version
  | _ => none

def kind : Flag → FlagKind
  | .graph => .path
  | .file => .path
  | .cacheDir => .path
  | .dot => .path
  | .config => .path
  | .nostd => .choice
  | .nointer => .choice
  | .tests => .choice
  | .minlen => .count
  | .nodesep => .real
  | .dotTimeout => .seconds
  | .skipBrowser => .switch
  | .verbose => .switch
  | .help => .switch
  | .version => .switch
  | _ => .text

end Flag

def choice? : String → Option Bool
  | "true" => some true
  | "false" => some false
  | _ => none

def smallCount? (s : String) : Option Nat :=
  match s.toList with
  | '-' :: digits =>
    if digits ≠ [] ∧ digits.all (· = '0') then some 0 else none
  | _ => (count? (Nat.pow 2 32) s).toOption

def seconds? (s : String) : Option Nat :=
  (count? (Nat.pow 2 64) s).toOption

def FlagKind.check (value : String) : FlagKind → Except Refusal Unit
  | .text => .ok ()
  | .path => if value = "" then .error .invalidValue else .ok ()
  | .choice => if (choice? value).isSome then .ok () else .error .invalidValue
  | .count => if (smallCount? value).isSome then .ok () else .error .valueValidation
  | .real => if (Binary64.ofText? value).isSome then .ok () else .error .valueValidation
  | .seconds => if (seconds? value).isSome then .ok () else .error .valueValidation
  | .switch => .ok ()

inductive Pending where
  | nothing
  | flag (f : Flag)
  | value (f : Flag) (text : String)
  | package (text : String)
  deriving DecidableEq, Repr

structure Parsing where
  given : List (Flag × String)
  package : Option String
  pending : Pending
  trailing : Bool
  deriving DecidableEq, Repr

namespace Parsing

def start : Parsing := ⟨[], none, .nothing, false⟩

def has (p : Parsing) (f : Flag) : Bool :=
  p.given.any (·.1 = f)

def accept (p : Parsing) (f : Flag) (value : String) : Except Refusal Parsing :=
  if p.has f then .error .conflict
  else do
    f.kind.check value
    pure { p with given := (f, value) :: p.given }

def settle (p : Parsing) : Except Refusal Parsing :=
  match p.pending with
  | .nothing => .ok p
  | .flag _ => .error .invalidValue
  | .value f text => { p with pending := .nothing }.accept f text
  | .package text =>
    if text = "" then .error .invalidValue
    else .ok { p with pending := .nothing, package := some text }

def switch (p : Parsing) (f : Flag) : Except Refusal Parsing := do
  let p ← p.settle
  match f with
  | .help => throw .help
  | .version => throw .version
  | f => p.accept f "true"

def long (p : Parsing) (name : String) (value : Option String) : Except Refusal Parsing :=
  match Flag.ofName? name with
  | none => .error .unknownArgument
  | some f =>
    match f.kind, value with
    | .switch, some _ => .error .tooManyValues
    | .switch, none => p.switch f
    | _, some value => do (← p.settle).accept f value
    | .choice, none => do (← p.settle).accept f "true"
    | _, none => do pure { ← p.settle with pending := .flag f }

def letters (p : Parsing) : List Char → Except Refusal Parsing
  | [] => .ok p
  | c :: rest =>
    match Flag.ofLetter? c with
    | none => .error .unknownArgument
    | some f => do letters (← p.switch f) rest

def word (p : Parsing) (text : String) : Except Refusal Parsing :=
  match p.package, p.pending with
  | none, .package _ => .error .unknownArgument
  | none, _ => do pure { ← p.settle with pending := .package text }
  | some _, _ => .error .unknownArgument

/-- A word that does not look like a flag: the value that is waited for, or a package. -/
def plain (p : Parsing) (text : String) : Except Refusal Parsing :=
  match p.pending with
  | .flag f => .ok { p with pending := .value f text }
  | _ => p.word text

def step (p : Parsing) (text : String) : Except Refusal Parsing :=
  if p.trailing then p.word text
  else
    match text.toList with
    | ['-', '-'] => .ok { p with trailing := true }
    | '-' :: '-' :: cs =>
      p.long (String.ofList (cs.takeWhile (· ≠ '=')))
        (match cs.dropWhile (· ≠ '=') with
        | [] => none
        | _ :: value => some (String.ofList value))
    | '-' :: c :: cs => p.letters (c :: cs)
    | _ => p.plain text

def steps (p : Parsing) : List String → Except Refusal Parsing
  | [] => .ok p
  | text :: rest => do steps (← p.step text) rest

def standIns : List (String × Flag) :=
  [("CALLVIS_GRAPH", .graph), ("CALLVIS_CACHE_DIR", .cacheDir), ("CALLVIS_DOT", .dot)]

def fill (environment : Environment) (p : Parsing) :
    List (String × Flag) → Except Refusal Parsing
  | [] => .ok p
  | (name, f) :: rest =>
    match environment.lookup name with
    | none => fill environment p rest
    | some value =>
      if p.has f then fill environment p rest else do fill environment (← p.accept f value) rest

end Parsing

structure Arguments where
  package : String
  graph : Option String
  focus : Option String
  group : Option String
  limit : Option String
  ignore : Option String
  only : Option String
  nostd : Option Bool
  nointer : Option Bool
  tests : Option Bool
  retention : Option String
  file : Option String
  format : Option String
  cacheDir : Option String
  minlen : Option Nat
  nodesep : Option Binary64
  nodeshape : Option String
  nodestyle : Option String
  rankdir : Option String
  http : Option String
  viewerUrl : Option String
  skipBrowser : Bool
  dot : Option String
  dotTimeout : Option Nat
  config : Option String
  verbose : Bool
  deriving DecidableEq, Repr

namespace Arguments

def ofGiven (package : String) (given : List (Flag × String)) : Arguments where
  package := package
  graph := given.lookup .graph
  focus := given.lookup .focus
  group := given.lookup .group
  limit := given.lookup .limit
  ignore := given.lookup .ignore
  only := given.lookup .only
  nostd := (given.lookup .nostd).bind choice?
  nointer := (given.lookup .nointer).bind choice?
  tests := (given.lookup .tests).bind choice?
  retention := given.lookup .retention
  file := given.lookup .file
  format := given.lookup .format
  cacheDir := given.lookup .cacheDir
  minlen := (given.lookup .minlen).bind smallCount?
  nodesep := (given.lookup .nodesep).bind Binary64.ofText?
  nodeshape := given.lookup .nodeshape
  nodestyle := given.lookup .nodestyle
  rankdir := given.lookup .rankdir
  http := given.lookup .http
  viewerUrl := given.lookup .viewerUrl
  skipBrowser := (given.lookup .skipBrowser).isSome
  dot := given.lookup .dot
  dotTimeout := (given.lookup .dotTimeout).bind seconds?
  config := given.lookup .config
  verbose := (given.lookup .verbose).isSome

def read (environment : Environment) (words : List String) :
    Except Refusal Arguments := do
  let p ← Parsing.start.steps words
  let p ← p.settle
  let p ← p.fill environment Parsing.standIns
  match p.package with
  | none => throw .missingRequired
  | some package => pure (ofGiven package p.given)

def readWithFile (environment : Environment) (fs : Files) (words : List String) :
    Except Refusal (Environment × Arguments) := do
  match environment.extend? fs with
  | none => throw .unfitVariable
  | some environment => pure (environment, ← read environment words)

def boolText (b : Bool) : String :=
  if b then "true" else "false"

def overrides (a : Arguments) : List (String × String) :=
  [("focus", a.focus), ("group", a.group), ("limit", a.limit), ("ignore", a.ignore),
    ("include", a.only), ("nostd", a.nostd.map boolText), ("nointer", a.nointer.map boolText),
    ("tests", a.tests.map boolText), ("retention", a.retention),
    ("minlen", a.minlen.map toString), ("nodesep", a.nodesep.map Layout.plain.text),
    ("nodeshape", a.nodeshape), ("nodestyle", a.nodestyle), ("rankdir", a.rankdir)].filterMap
    fun pair => pair.2.map fun value => (pair.1, value)

end Arguments
end CallChart.Launch
