import CallChart.Shell.Call

namespace CallChart.Shell

open CallChart.Shell.Action

/-- Runs a command: traps of signals run before and behind it, and the script ends if it fails and
nobody looks at that. Some commands leave this to those inside of them. -/
def visit (perform : Perform) (watched : Bool) (body : Action Unit) : Action Unit := do
  if !(← isOn .noexec) then
    Builtin.runTraps perform
    let ends := watched && (← isOn .errexit) && !(← get).guarded
    body
    Builtin.runTraps perform
    if ends ∧ (← get).status ≠ 0 then throw .exit

def guarding (guarded : Bool) (body : Action Unit) : Action Unit := do
  let before := (← get).guarded
  modify fun s => { s with guarded := before || guarded }
  afterwards body (modify fun s => { s with guarded := before })

def inside (body : Action Unit) : Action Unit := do
  let before := (← get).last
  modify fun s => { s with last := false }
  afterwards body (modify fun s => { s with last := before })

def inLoop (body : Action Unit) : Action Bool := do
  let s ← get
  set { s with loops := s.loops + 1 }
  let r ← ending (inside body)
  modify fun t => { t with loops := s.loops, guarded := s.guarded }
  match r with
  | .ok () => pure true
  | .error (.leave n) => if n ≤ 1 then pure false else throw (.leave (n - 1))
  | .error (.again n) => if n ≤ 1 then pure true else throw (.again (n - 1))
  | .error j => throw j

def roundLimit : Nat := 100000

def runLoop (perform : Perform) (untilSuccess : Bool) (condition body : List Statement) :
    Nat → Nat → Action Unit
  | 0, _ => endless
  | rounds + 1, status => do
    let s ← get
    set { s with loops := s.loops + 1 }
    let r ← ending (inside (guarding true (perform (.statements condition))))
    modify fun t => { t with loops := s.loops, guarded := s.guarded, last := s.last }
    match r with
    | .error (.leave n) => if n ≤ 1 then setStatus status else throw (.leave (n - 1))
    | .error (.again n) =>
      if n ≤ 1 then runLoop perform untilSuccess condition body rounds status
      else throw (.again (n - 1))
    | .error j => throw j
    | .ok () =>
      if ((← get).status = 0) == untilSuccess then setStatus status
      else if ← inLoop (perform (.statements body)) then
        runLoop perform untilSuccess condition body rounds (← get).status

def runEach (perform : Perform) (name : String) (body : List Statement) :
    List Bytes → Action Unit
  | [] => pure ()
  | w :: rest => do
    assign name w
    if ← inLoop (perform (.statements body)) then runEach perform name body rest

def runArms (perform : Perform) (otherwise : List Statement) :
    List (List Statement × List Statement) → Action Unit
  | [] => if otherwise.isEmpty then setStatus 0 else perform (.statements otherwise)
  | (condition, body) :: rest => do
    inside (guarding true (perform (.statements condition)))
    if (← get).status = 0 then perform (.statements body)
    else runArms perform otherwise rest

def runChoices (perform : Perform) (subject : Bytes) :
    List (List Word × List Statement) → Action Unit
  | [] => setStatus 0
  | (patterns, body) :: rest => do
    let hit ← patterns.anyM fun w => do
      pure (Pattern.matchesAll (← wordPattern (captured perform) w) subject)
    if hit then
      if body.isEmpty then setStatus 0 else perform (.statements body)
    else runChoices perform subject rest

def runSubshell (perform : Perform) (body : List Statement) (rs : List Redirect) :
    Action Unit := do
  let targets ← rs.mapM (Target.ofRedirect perform)
  let inner : Action Unit := do
    redirectAll perform targets
    perform (.statements body)
  if ← mayBecome then
    modify fun s => { s with traps := [], jobs := [], caught := [], loops := 0 }
    inner
    throw .exit
  else setStatus (← inChild perform inner).code

def Command.isWatched : Command → Bool
  | .simple .. => true
  | .subshell .. => true
  | _ => false

def runInner (perform : Perform) : Command → Action Unit
  | .simple line assignments words rs => runSimple perform line assignments words rs
  | .group body => perform (.statements body)
  | .subshell line body rs => do
    modify fun s => { s with line := line }
    runSubshell perform body rs
  | .redirected line body rs => do
    modify fun s => { s with line := line }
    redirected perform rs (inside (perform (.command body)))
  | .branch arms otherwise => runArms perform otherwise arms
  | .loop untilSuccess condition body =>
    runLoop perform untilSuccess condition body roundLimit 0
  | .each line name words body => do
    modify fun s => { s with line := line }
    let words ← match words with
      | none => pure (← get).arguments
      | some words => fields (captured perform) words
    if words.isEmpty then setStatus 0 else runEach perform name body words
  | .choice line subject arms => do
    modify fun s => { s with line := line }
    runChoices perform (← wordBytes (captured perform) subject) arms
  | .function name body => do
    modify fun s => { s with functions := (name, body) :: s.functions.filter (·.1 ≠ name) }
    setStatus 0

def runCommand (perform : Perform) (c : Command) : Action Unit :=
  match c with
  | .group _ => runInner perform c
  | c => visit perform c.isWatched (runInner perform c)

def findEarly : Command → Action Unit
  | .simple _ _ (w :: _) _ => do
    match Word.bare? w with
    | some cs =>
      let name := String.ofList cs
      let known := specialCommands.contains name || Builtin.ordinary.contains name
      if !known ∧ ((← get).functions.lookup name).isNone then Builtin.findBefore name
    | none => pure ()
  | _ => pure ()

/-- Runs the commands of a pipe, each on a clock that starts at the same time. A command that would
write for ever ends when the ones behind it do. -/
def runPipe (perform : Perform) (start : Nat) : Option Nat → Nat → List Command → Action Unit
  | _, _, [] => pure ()
  | input, finish, c :: rest => do
    findEarly c
    modifyWorld fun w => { w with elapsed := start }
    let out ← if rest.isEmpty then pure none else do pure (some (← openStream (.output [])))
    let r ← ending <| inChild perform do
      match input with
      | some id => connect 0 (some id)
      | none => pure ()
      match out with
      | some id => connect 1 (some id)
      | none => pure ()
      perform (.command c)
    let w ← getWorld
    let finish := max finish w.elapsed
    match r, out with
    | .ok e, none =>
      modifyWorld fun w => { w with elapsed := finish }
      setStatus e.code
    | .ok _, some id =>
      let ready := max w.elapsed (w.heldUntil id)
      modifyWorld fun w => w.setStream id (.input (w.written id) ready true)
      runPipe perform start (some id) finish rest
    | .error .late, some id =>
      if w.limit ≤ w.elapsed then throw .late
      else
        modifyWorld fun w => w.setStream id (.input (w.written id) w.elapsed false)
        runPipe perform start (some id) finish rest
    | .error j, _ => throw j

def runPipeline (perform : Perform) : Pipeline → Action Unit
  | .mk negated commands => do
    let body : Action Unit := match commands with
      | [c] => perform (.command c)
      | commands => visit perform true do
        runPipe perform (← getWorld).elapsed none 0 commands
        pass 0
    if negated then
      inside (guarding true body)
      setStatus (if (← get).status = 0 then 1 else 0)
    else body

def runJoined (perform : Perform) : List (Bool × Pipeline) → Action Unit
  | [] => pure ()
  | (both, p) :: rest => do
    if ((← get).status = 0) == both then
      if rest.isEmpty then runPipeline perform p
      else inside (guarding true (runPipeline perform p))
    runJoined perform rest

def runForeground (perform : Perform) (first : Pipeline) (rest : List (Bool × Pipeline)) :
    Action Unit := do
  if rest.isEmpty then runPipeline perform first
  else
    inside (guarding true (runPipeline perform first))
    runJoined perform rest

/-- Runs commands in the background: their time goes by beside that of the script. They get no input
and no signals from a keyboard. -/
def runBackground (perform : Perform) (parts : Nat) (body : Action Unit) : Action Unit := do
  let before ← get
  let w := before.world
  let r ← ending <| asProcess <| closing perform do
    connect 0 (some (← openStream .nothing))
    modify fun s => { s with
      guarded := false, traps := (2, []) :: (3, []) :: s.traps.filter fun t => t.1 ≠ 2 && t.1 ≠ 3 }
    body
  let finish := max (w.elapsed + 1) (← getWorld).elapsed
  let (finish, e) ← match r with
    | .ok e => pure (finish, e)
    | .error .late => pure (max finish w.limit, Ending.status 0)
    | .error j => throw j
  modifyWorld fun w' => { w' with
    elapsed := w.elapsed, ended := (w.pid, finish) :: w'.ended.filter (·.1 ≠ w.pid) }
  modify fun s =>
    let number := Builtin.freeNumber s.jobs
    let signal := match e with
      | .signal n => some n
      | .status _ => none
    let job : Job := ⟨number, w.pid, parts, finish, e.code, signal, false, false⟩
    { s with
      jobs := job :: s.jobs.filter (·.number ≠ number), latest := some w.pid, status := 0 }

def runStatement (perform : Perform) : Statement → Action Unit
  | .mk first rest background =>
    if background then
      let parts := match first, rest with
        | .mk false commands, [] => commands.length
        | _, _ => 1
      visit perform false (runBackground perform parts (runForeground perform first rest))
    else runForeground perform first rest

def runStatements (perform : Perform) : List Statement → Action Unit
  | [] => pure ()
  | [s] => runStatement perform s
  | s :: rest => do
    inside (runStatement perform s)
    runStatements perform rest

/-- Performs tasks that stand in each other at most so deep. The first number counts programs that
start each other; such a chain goes on until the time is over. -/
def Perform.ofDepth : Nat → Nat → Perform
  | _, 0, _ => throw (.killed 11)
  | programs, depth + 1, .statements body => runStatements (ofDepth programs depth) body
  | programs, depth + 1, .command body => runCommand (ofDepth programs depth) body
  | 0, _ + 1, _ => throw .late
  | programs + 1, depth + 1, .program path words => spawn (ofDepth programs depth) path words
  | programs + 1, depth + 1, .replacement path words =>
    becomeAt (ofDepth programs depth) path words

def depthLimit : Nat := 20000

def programLimit : Nat := 1000

def firstProcess : Nat := 1000

def Session.start (files : Files) (environment : List (String × String)) (limit : Nat)
    (input : Bytes) (expected : List Sent) : Session where
  world :=
    { disk := .ofFiles files
      streams := #[.input input 0 true, .output [], .output []]
      elapsed := 0
      limit := limit
      pid := firstProcess + 1
      first := firstProcess
      alive := [firstProcess]
      signals := expected
      expected := expected
      sent := []
      ended := []
      holds := [] }
  name := ""
  root := firstProcess
  pid := firstProcess
  started := 0
  taken := []
  arguments := []
  bindings := environment.reverse.map fun (name, value) =>
    (name, ⟨some (bytesOf value), true, false⟩)
  functions := []
  aliases := []
  switches := []
  channels := [(0, 0), (1, 1), (2, 2)]
  directory := Disk.home
  called := Disk.written Disk.home
  mask := 0o22
  traps := []
  caught := []
  jobs := []
  latest := none
  status := 0
  filled := 0
  line := 0
  reading := 0
  reader := ""
  loops := 0
  kept := []
  calls := 0
  last := false
  guarded := false
  option := (1, none)
  pending := none
  documents := #[]
  found := []
  limits := []
  buffer := none
  unwritten := none
  tracing := false

def signalRounds : Nat := 32

/-- Runs a process. What is sent to a process in the background comes to it only when that is known
as it runs, and so the run begins anew as long as there is more to know. -/
def runKnowing (start : List Sent → Session) (body : Action Unit) :
    Nat → List Sent → Except Jump Unit × Session
  | 0, expected => body (start expected)
  | rounds + 1, expected =>
    let r := body (start expected)
    let sent := r.2.world.sent.reverse
    if sent = expected then r else runKnowing start body rounds sent

def run (files : Files) (environment : List (String × String)) (limit : Nat) (i : Invocation)
    (input : Bytes) : Report :=
  let (r, s) := runKnowing (.start files environment limit input)
    (become (Perform.ofDepth programLimit depthLimit) i) signalRounds []
  let w := s.world
  let time := max w.elapsed (max (w.heldUntil 1) (w.heldUntil 2))
  { output := w.written 1
    errors := w.written 2
    ending := match r with
      | .error (.killed n) => .signal n
      | _ => .ofStatus s.status
    time := match r with
      | .error .late => max time limit
      | _ => time
    files := w.disk.toFiles files }

end CallChart.Shell
