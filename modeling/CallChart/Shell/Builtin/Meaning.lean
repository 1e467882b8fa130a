import CallChart.Shell.Builtin.Basic

namespace CallChart.Shell.Builtin

open CallChart.Shell.Action

def placesIn (directories : String) (name : String) : List String :=
  (Text.split ':' directories).map fun d => if d = "" then name else d ++ "/" ++ name

def searchPath : Action String := do
  pure (textOf ((← valueOf? "PATH").getD []))

def firstProgram (fault : FileFault) : List String → Action (Except FileFault String)
  | [] => pure (.error fault)
  | path :: rest => do
    match ← entryAt path with
    | .ok (_, some n) =>
      if n.isFile ∧ n.isExecutable then pure (.ok path)
      else firstProgram .permissionDenied rest
    | .ok (_, none) => firstProgram fault rest
    | .error .notFound => firstProgram fault rest
    | .error .notDirectory => firstProgram fault rest
    | .error other => firstProgram other rest

/-- Where a program is. A name with a slash is its own path, and others are looked for in the usual
directories if `usual` says so, or in those of the environment, where a found one is kept. -/
def findProgram (usual : Bool) (name : String) : Action (Except FileFault String) := do
  if name.toList.contains '/' then pure (.ok name)
  else if usual then firstProgram .notFound (placesIn (":".intercalate System.searchPath) name)
  else
    match (← get).found.lookup name with
    | some (path, false) => pure (.ok path)
    | _ =>
      match ← firstProgram .notFound (placesIn (← searchPath) name) with
      | .ok path =>
        let fresh (f : String × String × Bool) : String × String × Bool :=
          if f.1 = name then (name, path, false) else f
        modify fun s => { s with found :=
          if (s.found.lookup name).isSome then s.found.map fresh
          else s.found ++ [(name, path, false)] }
        pure (.ok path)
      | .error fault =>
        modify fun s => { s with found := s.found.filter (·.1 ≠ name) }
        pure (.error fault)

def findBefore (name : String) : Action Unit := do
  let _ ← findProgram false name

def missing (fault : FileFault) : String :=
  match fault with
  | .notFound => "not found"
  | .notDirectory => "not found"
  | fault => fault.reason

def ordinary : List String :=
  ["[", "alias", "bg", "cd", "chdir", "command", "echo", "false", "fg", "getopts", "hash", "jobs",
    "kill", "printf", "pwd", "read", "test", "true", "type", "ulimit", "umask", "unalias", "wait"]

def assigning : List String := ["alias", "export", "local", "readonly"]

inductive Meaning where
  | keyword
  | inserted (text : List Char)
  | function
  | builtin (special : Bool)
  | program (path : String) (known : Bool)
  | nothing
  deriving DecidableEq, Repr

def meaning (usual : Bool) (name : String) : Action Meaning := do
  let s ← get
  if reserved.contains name then pure .keyword
  else
    match s.aliases.lookup name with
    | some text => pure (.inserted text)
    | none =>
      if (s.functions.lookup name).isSome ∧ !usual then pure .function
      else if specialCommands.contains name then pure (.builtin true)
      else if ordinary.contains name then pure (.builtin false)
      else
        match if usual then none else s.found.lookup name with
        | some (path, _) => pure (.program path true)
        | none =>
          match ← findProgram usual name with
          | .error _ => pure .nothing
          | .ok path =>
            let there := (← node? path).isSome
            pure (if there then .program path false else .nothing)

def describe (inWords usual : Bool) (w : Bytes) : Action Nat := do
  let name := textOf w
  let tell (words short : String) : Action Nat := do
    putLine (if inWords then name ++ words else short)
    pure 0
  match ← meaning usual name with
  | .keyword => tell " is a shell keyword" name
  | .inserted text =>
    let text := text.map byteOf
    if inWords then
      output (w ++ bytesOf " is an alias for " ++ text ++ [0x0A])
    else
      output (bytesOf "alias " ++ w ++ [0x3D] ++ quotedBytes text ++ [0x0A])
    pure 0
  | .function => tell " is a shell function" name
  | .builtin true => tell " is a special shell builtin" name
  | .builtin false => tell " is a shell builtin" name
  | .program path known =>
    tell (" is" ++ (if known then " a tracked alias for" else "") ++ " " ++ path) path
  | .nothing =>
    if inWords then putLine (name ++ ": not found")
    pure 127

def describeAll : Builtin := fun words => do
  let statuses ← words.mapM (describe true false)
  pure (statuses.foldl Nat.lor 0)

def describeOne : Builtin := fun words => do
  let (given, words) ← flags "pvV" words
  match words with
  | w :: _ =>
    if given.contains 'v' ∨ given.contains 'V' then
      describe (given.contains 'V') (given.contains 'p') w
    else pure 0
  | [] => pure 0

def commandTable : Nat := 31

def showPrograms : Builtin := fun words => do
  let (given, words) ← flags "r" words
  if !given.isEmpty then
    modify fun s => { s with found := [] }
    pure 0
  else
    match words with
    | [] =>
      for (_, path, stale) in inTable commandTable (← get).found do
        putLine (path ++ if stale then "*" else "")
      pure 0
    | words =>
      let mut status := 0
      for w in words do
        let name := textOf w
        let s ← get
        if !specialCommands.contains name ∧ !ordinary.contains name ∧
            (s.functions.lookup name).isNone then
          modify fun s => { s with found := s.found.filter (·.1 ≠ name) }
          match ← findProgram false name with
          | .ok _ => pure ()
          | .error fault =>
            complain (name ++ ": " ++ missing fault)
            status := 1
      pure status

end CallChart.Shell.Builtin
