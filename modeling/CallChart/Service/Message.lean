import CallChart.Failure
import CallChart.Json.Value
import CallChart.Text.Percent

namespace CallChart

inductive Method where
  | get
  | head
  | delete
  | options
  | other
  deriving DecidableEq, Repr

namespace Method

def ofText : String → Method
  | "GET" => .get
  | "HEAD" => .head
  | "DELETE" => .delete
  | "OPTIONS" => .options
  | _ => .other

end Method

structure ServiceRequest where
  method : Method
  path : String
  query : List (String × String)
  deriving DecidableEq, Repr

namespace ServiceRequest

def isSchemeChar (c : Char) : Bool :=
  c.isAlphanum || c == '+' || c == '-' || c == '.'

/-- The part of a written target from the path on. A target that names a host has a scheme and two
slashes before it; a host alone has no path. -/
def local? (cs : List Char) : Option (List Char) :=
  match cs with
  | '/' :: _ => some cs
  | ['*'] => some cs
  | _ =>
    match cs.dropWhile isSchemeChar with
    | ':' :: '/' :: '/' :: rest => some (rest.dropWhile fun c => c ≠ '/' ∧ c ≠ '?')
    | _ => none

/-- Takes a written target apart: the path, the query behind a question mark, and a fragment, which
is not part of the request. An empty path in front of a host is a slash. -/
def ofTarget (method : Method) (target : String) : ServiceRequest :=
  match local? (target.toList.takeWhile (· ≠ '#')) with
  | none => ⟨method, "", []⟩
  | some cs =>
    let path := cs.takeWhile (· ≠ '?')
    ⟨method, if path = [] then "/" else String.ofList path,
      Percent.formPairs ((cs.dropWhile (· ≠ '?')).drop 1)⟩

end ServiceRequest

structure ServiceReply where
  code : Nat
  mediaType : Option String
  location : Option String
  retryAfter : Option String
  allow : Option String
  body : List UInt8
  deriving DecidableEq, Repr

namespace ServiceReply

def bare (code : Nat) : ServiceReply :=
  ⟨code, none, none, none, none, []⟩

def typed (code : Nat) (mediaType : String) (body : List UInt8) : ServiceReply :=
  { bare code with mediaType := some mediaType, body := body }

def plain (code : Nat) (text : String) : ServiceReply :=
  typed code "text/plain; charset=utf-8" (Utf8.encode text)

def json (code : Nat) (text : String) : ServiceReply :=
  typed code "application/json" (Utf8.encode text)

def redirect (location : String) : ServiceReply :=
  { bare 303 with location := some location }

def offering (methods : Option String) : ServiceReply :=
  { bare 200 with allow := methods }

def notAllowed (methods : String) : ServiceReply :=
  { bare 405 with allow := some methods }

def codeOf : Failure → Nat
  | .focusNotFound _ => 404
  | .invalidOption .. => 400
  | .engineUnavailable _ => 502
  | .engineFailed _ => 502
  | .analysisUnavailable .. => 500
  | .taskFailed _ => 500
  | .fileFault .. => 500

def ofFailure (e : Failure) : ServiceReply :=
  json (codeOf e)
    (Json.ofFields [("error", .ofText e.message), ("recoverable", .bool e.isRecoverable)]).compact

def withoutBody (r : ServiceReply) : ServiceReply :=
  { r with body := [] }

end ServiceReply
end CallChart
