import CallChart.Shell.Program

namespace CallChart.Shell

open CallChart.Shell.Action

def orderVariables : Action Unit :=
  modify fun s =>
    { s with bindings := (Builtin.inTable Builtin.variableTable s.bindings.reverse).reverse }

def replace (perform : Perform) : Builtin := fun words => do
  let (_, words) ← Builtin.flags "" words
  match words with
  | [] => pure 0
  | w :: _ =>
    let name := textOf w
    match ← Builtin.findProgram false name with
    | .error fault => unstarted name fault
    | .ok path =>
      orderVariables
      perform (.replacement path words)
    throw .exit

def source (perform : Perform) : Builtin := fun words => do
  let (_, words) ← Builtin.flags "" words
  match words with
  | [] => pure 0
  | w :: _ =>
    let name := textOf w
    let isFile (path : String) : Action Bool := do
      pure (((← node? path).map Node.isFile).getD false)
    let found ← if name.toList.contains '/' then pure (some name)
      else (Builtin.placesIn (← Builtin.searchPath) name).findM? isFile
    match found with
    | none => fail (name ++ ": not found")
    | some path =>
      match ← openInput path with
      | .error fault => Target.fault "open" path "No such file" fault
      | .ok id =>
        let s ← get
        modify fun s => { s with reader := path ++ ": ", guarded := false, last := false }
        let r ← if ((← getWorld).unreadable? id).isSome then pure (.ok false)
          else ending (runStream perform id)
        modify fun t => { t with guarded := s.guarded, last := s.last }
        let status := (← get).status
        match r with
        | .ok ran => pure (if ran then status else 0)
        | .error (.back _) => pure status
        | .error j => throw j

def builtin? (perform : Perform) (name : String) : Option Builtin :=
  match name with
  | "." => some (source perform)
  | "exec" => some (replace perform)
  | name => (Builtin.table perform).lookup name

/-- Calls a command of the shell, whose messages name it. Output is written when it ends. A failure
is one of the script if the command is special. -/
def callBuiltin (name : String) (special : Bool) (body : Action Nat) : Action Unit := do
  let s ← get
  set { s with reader := name ++ ": ", buffer := some [], unwritten := none }
  let restore : Action Unit :=
    modify fun t => { t with reader := s.reader, buffer := s.buffer, unwritten := s.unwritten }
  match ← ending body with
  | .ok status =>
    flush
    let failed := (← get).unwritten.isSome
    if failed then complain (name ++ ": I/O error")
    restore
    setStatus (if failed then Nat.lor status 1 else status)
  | .error .fault =>
    restore
    if special then throw .fault
  | .error j =>
    restore
    throw j

def callDepthLimit : Nat := 1000

def restoreKept : Action Unit := do
  match (← get).kept with
  | [] => pure ()
  | (variables', switches) :: frames =>
    for (name, v) in variables' do
      putVariable name v
      noticeChange name
    match switches with
    | some switches => modify fun s => { s with switches := switches }
    | none => pure ()
    modify fun s => { s with kept := frames }

def callFunction (perform : Perform) (body : Command) (arguments : List Bytes) : Action Unit := do
  let s ← get
  if callDepthLimit ≤ s.calls then
    fail ("Maximum function recursion depth (" ++ toString callDepthLimit ++ ") reached")
  set { s with
    arguments := arguments, option := (1, none), loops := 0, kept := ([], none) :: s.kept
    calls := s.calls + 1, last := false }
  let r ← ending (perform (.command body))
  restoreKept
  modify fun t => { t with
    arguments := s.arguments, option := s.option, loops := s.loops, calls := s.calls
    last := s.last }
  match r with
  | .error (.back _) => pure ()
  | r => settle r

structure Choice where
  given : List Bytes
  chosen : List Bytes
  rest : List Word
  builtin : Bool
  special : Bool
  plain : Bool
  usual : Bool

def firstFields (perform : Perform) : List Word → Action (List Bytes × List Word)
  | [] => pure ([], [])
  | w :: rest => do
    match ← wordFields (captured perform) w with
    | [] => firstFields perform rest
    | fields => pure (fields, rest)

def behindCommand (perform : Perform) : Nat → Choice → List Bytes → Action (Choice × Bool)
  | 0, c, _ => pure (c, false)
  | fuel + 1, c, [] => do
    match ← firstFields perform c.rest with
    | ([], _) => pure ({ c with rest := [] }, false)
    | (fields, rest) =>
      behindCommand perform fuel { c with given := c.given ++ fields, rest := rest } fields
  | fuel + 1, c, w :: more => do
    match (textOf w).toList with
    | ['-', '-'] =>
      match more with
      | [] =>
        match ← firstFields perform c.rest with
        | ([], _) => pure ({ c with rest := [] }, false)
        | (fields, rest) =>
          pure ({ c with given := c.given ++ fields, rest := rest, chosen := fields }, true)
      | more => pure ({ c with chosen := more }, true)
    | '-' :: letter :: letters =>
      if (letter :: letters).all (· = 'p') then
        behindCommand perform fuel { c with usual := true } more
      else pure (c, false)
    | _ => pure ({ c with chosen := w :: more }, true)

def choose (perform : Perform) : Nat → Bool → Choice → Action Choice
  | 0, _, c => pure c
  | fuel + 1, first, c => do
    let name := textOf (c.chosen.headD [])
    if (!c.plain && ((← get).functions.lookup name).isSome) ∨ (builtin? perform name).isNone then
      pure { c with builtin := false }
    else
      let special := if first then specialCommands.contains name else c.special
      let c := { c with builtin := true, special := special }
      if name ≠ "command" then pure c
      else
        let (c, runs) ← behindCommand perform (c.rest.length + c.chosen.length + 2) c
          (c.chosen.drop 1)
        if runs then choose perform fuel false { c with plain := true }
        else pure c

def chosen? (perform : Perform) (words : List Word) : Action (Option Choice) := do
  match ← firstFields perform words with
  | ([], _) => pure none
  | (given, rest) =>
    let c ← choose perform (words.length + given.length + 2) true
      ⟨given, given, rest, false, false, false, false⟩
    let takes := c.builtin ∧ Builtin.assigning.contains (textOf (c.chosen.headD []))
    let more ← c.rest.mapM fun w => do
      if takes ∧ isAssignment w then pure [← assignedBytes (captured perform) w]
      else wordFields (captured perform) w
    pure (some { c with
      given := c.given ++ more.flatten, chosen := c.chosen ++ more.flatten, rest := [] })

def trace (perform : Perform) (errors : Option Nat) (shown : List Bytes) : Action Unit := do
  let s ← get
  if s.switches.contains .xtrace ∧ !s.tracing then
    let mark := (← valueOf? "PS4").getD []
    let text := mark.map fun b => Char.ofNat b.toNat
    let mark ← match (Source.ofText text [] s.documents).freeText with
      | .error _ => pure mark
      | .ok (word, source) =>
        modify fun s => { s with tracing := true, documents := source.documents }
        let bytes ← afterwards (fillWord (captured perform) .quotation false word)
          (modify fun s => { s with tracing := false })
        modify fun t => { t with status := s.status }
        pure (bytesIn bytes)
    match errors with
    | some id => let _ ← writeStream id (mark ++ List.intercalate [0x20] shown ++ [0x0A])
    | none => pure ()

/-- Gives values to variables one after another. Each is kept first if it is to be given back, and
the result holds what was assigned and what the values were before. -/
def assignAll (perform : Perform) (exported keeps : Bool) :
    List Word → Action (List Bytes × List (String × Option Variable))
  | [] => pure ([], [])
  | w :: rest => do
    let text ← assignedBytes (captured perform) w
    let (name, value) := Builtin.splitAssignment text
    let old := (← get).bindings.lookup name
    assign name (value.getD [])
    if exported then
      let v := ((← get).bindings.lookup name).getD ⟨none, false, false⟩
      putVariable name (some { v with exported := true })
    let (texts, kept) ← assignAll perform exported keeps rest
    pure (text :: texts, if keeps then (name, old) :: kept else kept)

def callProgram (perform : Perform) (usual : Bool) (words : List Bytes) : Action Unit := do
  let name := textOf (words.headD [])
  match ← Builtin.findProgram usual name with
  | .error fault =>
    complain (name ++ ": " ++ Builtin.missing fault)
    setStatus 127
  | .ok path =>
    orderVariables
    if ← mayBecome then
      perform (.replacement path words)
      throw .exit
    else perform (.program path words)

def call (perform : Perform) (c : Choice) : Action Unit := do
  let functions := (← get).functions.filter fun _ => !c.plain
  match c.chosen with
  | [] => pure ()
  | w :: arguments =>
    let name := textOf w
    match if c.builtin then builtin? perform name else none with
    | some body => callBuiltin name c.special (body arguments)
    | none =>
      match functions.lookup name with
      | some body => callFunction perform body arguments
      | none => callProgram perform c.usual c.chosen

/-- Runs a simple command: its words are filled in, its redirections made and its assignments. They
hold for the command alone, unless it is a special one or there is none. -/
def runSimple (perform : Perform) (line : Nat) (assignments words : List Word)
    (rs : List Redirect) : Action Unit := do
  modify fun s => { s with line := line, filled := 0 }
  let c ← chosen? perform words
  let errors ← streamOf 2
  let targets ← rs.mapM (Target.ofRedirect perform)
  let special := (c.map (·.special)).getD false
  let replaces := (c.map fun c =>
    c.builtin && c.chosen.head? == some (bytesOf "exec")).getD false
  let before := (← get).channels
  if !(← redirectSafely perform targets) then
    setStatus 2
    if special then throw .fault
  else
    let keeps := c.isSome ∧ !special
    let exported := keeps ∨ (replaces ∧ (c.map fun c => decide (1 < c.chosen.length)) = some true)
    let body : Action (List (String × Option Variable)) := do
      let (texts, kept) ← assignAll perform exported keeps assignments
      trace perform errors (texts ++ (c.map (·.given)).getD [])
      match c with
      | none => modify fun s => { s with status := s.filled }
      | some c =>
        let r ← ending (call perform c)
        for (name, v) in kept.reverse do
          putVariable name v
          noticeChange name
        settle r
      pure kept
    let r ← ending body
    if !replaces then restoreChannels (targets.map (·.1)) before
    let _ ← settle r

end CallChart.Shell
