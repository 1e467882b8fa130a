import CallChart.Engine
import CallChart.Shell.Run

namespace CallChart.Engine

/-- The first path at which there is something to start. A place that must not be started counts
only if there is no other, and any other fault counts at once. -/
def search (start : String → Except FileFault Invocation) (denied : Bool) :
    List String → Except FileFault Invocation
  | [] => .error (if denied then .permissionDenied else .notFound)
  | path :: rest =>
    match start path with
    | .ok i => .ok i
    | .error .notFound => search start denied rest
    | .error .notDirectory => search start denied rest
    | .error .permissionDenied => search start true rest
    | .error fault => .error fault

def withSearchPath (environment : List (String × String)) : List (String × String) :=
  if (environment.lookup "PATH").isSome then environment
  else ("PATH", ":".intercalate System.searchPath) :: environment

def candidates (environment : List (String × String)) (program : String) : List String :=
  (Text.split ':' ((environment.lookup "PATH").getD "")).map fun directory =>
    if directory = "" then program else directory ++ "/" ++ program

def start (fs : Files) (environment : List (String × String)) (program : String)
    (arguments : List String) : Except FileFault Invocation :=
  let words := (program :: arguments).map Utf8.encode
  let resolve (path : String) : Except FileFault Invocation :=
    Invocation.resolve (Shell.Disk.ofFiles fs) Shell.Disk.home Invocation.depthLimit path words
  if program.toList.contains '\x00' then .error .zeroInName
  else if program = "" then .error .notFound
  else if program.toList.contains '/' then resolve program
  else if Files.nameLimit < program.utf8ByteSize then .error .nameTooLong
  else search resolve false (candidates environment program)

def program (environment : List (String × String)) (path : String) (limit : Nat) : Engine :=
  let environment := withSearchPath environment
  external (fun arguments limit input fs => do
    let invocation ← start fs environment path arguments
    pure (Shell.run fs environment limit invocation input)) path limit

end CallChart.Engine
