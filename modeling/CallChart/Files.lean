import CallChart.Text.Split

namespace CallChart

abbrev Path := List String

inductive Entry where
  | file (bytes : List UInt8) (executable : Bool)
  | directory
  deriving DecidableEq, Repr

def Entry.isDirectory : Entry → Bool
  | .directory => true
  | .file .. => false

inductive FileFault where
  | notFound
  | permissionDenied
  | present
  | notDirectory
  | isDirectory
  | execFormat
  | nameTooLong
  | invalid
  | notEmpty
  | tooManyLinks
  | notPermitted
  | busy
  | badDescriptor
  | zeroInName
  deriving DecidableEq, Repr

namespace FileFault

def reason : FileFault → String
  | .notFound => "No such file or directory"
  | .execFormat => "Exec format error"
  | .permissionDenied => "Permission denied"
  | .present => "File exists"
  | .notDirectory => "Not a directory"
  | .isDirectory => "Is a directory"
  | .invalid => "Invalid argument"
  | .nameTooLong => "File name too long"
  | .notEmpty => "Directory not empty"
  | .tooManyLinks => "Too many levels of symbolic links"
  | .notPermitted => "Operation not permitted"
  | .busy => "Device or resource busy"
  | .badDescriptor => "Bad file descriptor"
  | .zeroInName => "file name contained an unexpected NUL byte"

def number? : FileFault → Option Nat
  | .notPermitted => some 1
  | .notFound => some 2
  | .execFormat => some 8
  | .badDescriptor => some 9
  | .permissionDenied => some 13
  | .busy => some 16
  | .present => some 17
  | .notDirectory => some 20
  | .isDirectory => some 21
  | .invalid => some 22
  | .nameTooLong => some 36
  | .notEmpty => some 39
  | .tooManyLinks => some 40
  | .zeroInName => none

def message (fault : FileFault) : String :=
  match fault.number? with
  | some n => fault.reason ++ " (os error " ++ toString n ++ ")"
  | none => fault.reason

end FileFault

/-- The entries below the two directories that are always there: the working directory, which has
the empty path, and the root. -/
structure Files where
  entries : List (Path × Entry)
  deriving DecidableEq, Repr

namespace Files

def empty : Files := ⟨[]⟩

def root : Path := ["/"]

/-- The directory that holds the one at a path. The root holds itself, and what holds the working
directory has only double dots for its path. -/
def back (here : Path) : Path :=
  if here = root then root
  else if here.all (· = "..") then here ++ [".."]
  else here.dropLast

/-- What is at a path. The working directory, what holds it and the root are always there. -/
def lookup? (fs : Files) (p : Path) : Option Entry :=
  if p.all (· = "..") ∨ p = root then some .directory else fs.entries.lookup p

def below (fs : Files) : List (Path × Entry) :=
  fs.entries.filter fun (p, _) => p.head? ≠ some "/" && p.head? ≠ some ".."

def put (fs : Files) (p : Path) (e : Entry) : Files :=
  ⟨(p, e) :: fs.entries.filter (·.1 ≠ p)⟩

def drop (fs : Files) (p : Path) : Files :=
  ⟨fs.entries.filter (·.1 ≠ p)⟩

def dropTree (fs : Files) (p : Path) : Files :=
  ⟨fs.entries.filter fun e => !p.isPrefixOf e.1⟩

def nameLimit : Nat := 255

def pathLimit : Nat := 4095

def start (path : String) : Path :=
  if Text.startsWith "/" path then root else []

def strides (path : String) : List String :=
  (Text.split '/' path).filter (· ≠ "")

/-- The place that a written path leads to when all directories on the way are there: a single dot
goes nowhere and a double dot goes back. -/
def steps (path : String) : Path :=
  (strides path).foldl (fun here step =>
    if step = "." then here else if step = ".." then back here else here ++ [step]) (start path)

def written : Path → String
  | "/" :: rest => "/" ++ "/".intercalate rest
  | p => "/".intercalate p

def parent (path : String) : String :=
  written (start path ++ (strides path).dropLast)

def walk (fs : Files) (here : Path) : List String → Except FileFault Path
  | [] => .ok here
  | step :: rest =>
    match fs.lookup? here with
    | none => .error .notFound
    | some (.file ..) => .error .notDirectory
    | some .directory =>
      if step = "." then walk fs here rest
      else if step = ".." then walk fs (back here) rest
      else if nameLimit < step.utf8ByteSize then .error .nameTooLong
      else walk fs (here ++ [step]) rest

def locate (fs : Files) (path : String) : Except FileFault Path := do
  if path.toList.contains '\x00' then throw .zeroInName
  if path = "" then throw .notFound
  if pathLimit < path.utf8ByteSize then throw .nameTooLong
  fs.walk (start path) (strides path)

def entryAt (fs : Files) (path : String) : Except FileFault (Path × Option Entry) := do
  let p ← fs.locate path
  match fs.lookup? p with
  | some (.file ..) =>
    if path.toList.getLast? = some '/' then throw .notDirectory else pure (p, fs.lookup? p)
  | e => pure (p, e)

def exists? (fs : Files) (path : String) : Bool :=
  match fs.entryAt path with
  | .ok (_, some _) => true
  | _ => false

def isFile (fs : Files) (path : String) : Bool :=
  match fs.entryAt path with
  | .ok (_, some (.file ..)) => true
  | _ => false

def read (fs : Files) (path : String) : Except FileFault (List UInt8) := do
  match (← fs.entryAt path).2 with
  | none => throw .notFound
  | some .directory => throw .isDirectory
  | some (.file bytes _) => pure bytes

def write (fs : Files) (path : String) (bytes : List UInt8) : Except FileFault Files := do
  let (p, e) ← fs.entryAt path
  match e with
  | some .directory => throw .isDirectory
  | some (.file _ executable) => pure (fs.put p (.file bytes executable))
  | none =>
    if path.toList.getLast? = some '/' then throw .isDirectory
    else pure (fs.put p (.file bytes false))

/-- What came of an operation, and the files after it. One that stops midway leaves behind what it
has done so far. -/
abbrev Outcome := Except FileFault Unit × Files

def whole (fs : Files) : Except FileFault Files → Outcome
  | .ok fs => (.ok (), fs)
  | .error fault => (.error fault, fs)

def makeWay (fs : Files) (here : Path) : List String → Outcome
  | [] => (.ok (), fs)
  | step :: rest =>
    if step = "." then makeWay fs here rest
    else if step = ".." then makeWay fs (back here) rest
    else
      match fs.lookup? (here ++ [step]) with
      | none =>
        if nameLimit < step.utf8ByteSize then (.error .nameTooLong, fs)
        else makeWay (fs.put (here ++ [step]) .directory) (here ++ [step]) rest
      | some .directory => makeWay fs (here ++ [step]) rest
      | some (.file ..) => (.error (if rest = [] then .present else .notDirectory), fs)

def makeDirectories (fs : Files) (path : String) : Outcome :=
  if path = "" then (.ok (), fs)
  else if path.toList.contains '\x00' then (.error .zeroInName, fs)
  else if pathLimit < path.utf8ByteSize then (.error .nameTooLong, fs)
  else fs.makeWay (start path) (strides path)

def removeFile (fs : Files) (path : String) : Except FileFault Files := do
  let (p, e) ← fs.entryAt path
  match e with
  | none => throw .notFound
  | some .directory => throw .isDirectory
  | some (.file ..) => pure (fs.drop p)

/-- Removes a directory with all that is in it. One that is named by a dot can be emptied, but not
removed. -/
def removeTree (fs : Files) (path : String) : Outcome :=
  match fs.entryAt path with
  | .error fault => (.error fault, fs)
  | .ok (_, none) => (.error .notFound, fs)
  | .ok (_, some (.file ..)) => (.error .notDirectory, fs)
  | .ok (p, some .directory) =>
    if (strides path).getLast? = some "." then
      (.error .invalid, ⟨fs.below.filter fun e => e.1 = p ∨ !p.isPrefixOf e.1⟩)
    else (.ok (), fs.dropTree p)

def rename (fs : Files) (source target : String) : Except FileFault Files := do
  let (p, e) ← fs.entryAt source
  match e with
  | none => throw .notFound
  | some .directory => throw .isDirectory
  | some file =>
    let (q, there) ← fs.entryAt target
    match there with
    | some .directory => throw .isDirectory
    | _ => pure ((fs.drop p).put q file)

def names (fs : Files) (path : String) : Except FileFault (List String) := do
  let (p, e) ← fs.entryAt path
  match e with
  | none => throw .notFound
  | some (.file ..) => throw .notDirectory
  | some .directory =>
    pure (fs.entries.filterMap fun (q, _) =>
      if q.dropLast = p then q.getLast? else none)

def joined (directory name : String) : String :=
  if Text.startsWith "/" name then name
  else if directory = "" ∨ directory.toList.getLast? = some '/' then directory ++ name
  else directory ++ "/" ++ name

end Files

inductive FileStep where
  | makeDirectories (path : String)
  | removeIfPresent (path : String)
  | write (path : String) (bytes : List UInt8)
  | rename (source target : String)
  deriving DecidableEq, Repr

namespace FileStep

def apply (fs : Files) : FileStep → Files.Outcome
  | .makeDirectories path => fs.makeDirectories path
  | .removeIfPresent path =>
    match fs.removeFile path with
    | .error .notFound => (.ok (), fs)
    | other => fs.whole other
  | .write path bytes => fs.whole (fs.write path bytes)
  | .rename source target => fs.whole (fs.rename source target)

def path : FileStep → String
  | .makeDirectories path => path
  | .removeIfPresent path => path
  | .write path _ => path
  | .rename _ target => target

/-- Takes the steps in order. At the first that fails it stops, and what was done before stays. -/
def run (fs : Files) : List FileStep → Except (FileStep × FileFault) Unit × Files
  | [] => (.ok (), fs)
  | step :: rest =>
    match step.apply fs with
    | (.ok (), fs) => run fs rest
    | (.error fault, fs) => (.error (step, fault), fs)

end FileStep
end CallChart
