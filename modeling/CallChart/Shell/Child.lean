import CallChart.Shell.Builtin.Meaning
import CallChart.Shell.Builtin.Place
import CallChart.Shell.Builtin.Signals
import CallChart.Shell.Builtin.Test
import CallChart.Shell.Builtin.Variables

namespace CallChart.Shell.Builtin

open CallChart.Shell.Action

def levels (words : List Bytes) : Action Nat := do
  let n ← match words with
    | [] => pure 1
    | w :: _ =>
      let n ← natural w
      if n = 0 then illegalNumber w else pure n
  pure (min n (← get).loops)

def leaveLoops : Builtin := fun words => do
  let n ← levels words
  setStatus 0
  if n = 0 then pure 0 else throw (.leave n)

def nextRound : Builtin := fun words => do
  let n ← levels words
  setStatus 0
  if n = 0 then pure 0 else throw (.again n)

def leaveScript : Builtin := fun words => do
  match words with
  | [] =>
    let s ← get
    setStatus (s.pending.getD s.status)
  | w :: _ => setStatus (← natural w)
  throw .exit

def leaveFunction : Builtin := fun words => do
  match words with
  | [] => throw (.back false)
  | w :: _ =>
    setStatus (← natural w)
    throw (.back true)

def evaluateWords (perform : Perform) : Builtin := fun words => do
  if ← runText perform false false (List.intercalate [0x20] words) then pure (← get).status
  else pure 0

def table (perform : Perform) : List (String × Builtin) := [
  (":", fun _ => pure 0), ("true", fun _ => pure 0), ("false", fun _ => pure 1),
  ("echo", echoWords), ("printf", printFormatted), ("test", testWords), ("[", bracketed),
  ("break", leaveLoops), ("continue", nextRound), ("exit", leaveScript),
  ("return", leaveFunction), ("eval", evaluateWords perform),
  ("cd", changeDirectory), ("chdir", changeDirectory), ("pwd", showDirectory),
  ("umask", changeMask), ("ulimit", changeLimits), ("times", showTimes),
  ("export", exportNames false), ("readonly", exportNames true), ("unset", unsetNames),
  ("local", setLocal), ("read", readVariables), ("set", setParameters),
  ("shift", shiftParameters), ("getopts", nextOption), ("alias", setAliases),
  ("unalias", dropAliases), ("trap", setTraps), ("kill", killProcesses), ("wait", waitJobs),
  ("jobs", showJobs), ("fg", moveJob), ("bg", moveJob), ("type", describeAll),
  ("command", describeOne), ("hash", showPrograms)]

end CallChart.Shell.Builtin

namespace CallChart.Shell

open CallChart.Shell.Action

def closing (perform : Perform) (body : Action Unit) : Action Unit := do
  match ← ending body with
  | .error (.killed n) => throw (.killed n)
  | .error .late => throw .late
  | _ =>
    let s ← get
    match s.traps.lookup 0 with
    | none => pure ()
    | some text =>
      set { s with
        traps := s.traps.filter (·.1 ≠ 0), pending := some s.status, reader := ""
        guarded := false, last := false, loops := 0, buffer := none }
      match ← ending (Builtin.runText perform false false text) with
      | .error (.killed n) => throw (.killed n)
      | .error .late => throw .late
      | .error .exit => pure ()
      | .error .fault => pure ()
      | _ => setStatus s.status

def asProcess (body : Action Unit) : Action Ending := do
  let s ← get
  let pid := s.world.pid
  set { s with
    world := { s.world with pid := pid + 1, alive := pid :: s.world.alive }
    pid := pid, started := s.world.elapsed, taken := [], traps := s.traps.filter (·.2.isEmpty)
    caught := [], jobs := [], loops := 0, buffer := none, unwritten := none, last := true }
  let r ← ending body
  let t ← get
  let child : Sent := ⟨s.pid, 17, t.world.elapsed, false⟩
  set { s with world := { t.world with
    alive := s.world.alive, ended := (pid, t.world.elapsed) :: t.world.ended
    signals := if (s.traps.lookup 17).isSome then child :: t.world.signals
      else t.world.signals } }
  match r with
  | .error .late => throw .late
  | .error (.killed n) => pure (.signal n)
  | _ => pure (.ofStatus t.status)

def report : Ending → Action Unit
  | .signal n => if n ≠ 2 ∧ n ≠ 13 then writeText 2 (Signal.description n ++ "\n") else pure ()
  | .status _ => pure ()

def inChild (perform : Perform) (body : Action Unit) : Action Ending := do
  let e ← asProcess (closing perform body)
  Builtin.noticeJobs
  takeSignals
  report e
  pure e

def mayBecome : Action Bool := do
  let s ← get
  pure (s.last && s.traps.all (·.2.isEmpty))

def captured (perform : Perform) (body : List Statement) : Action Bytes := do
  if body.isEmpty then pure []
  else
    let id ← openStream (.output [])
    let e ← inChild perform do
      connect 1 (some id)
      modify fun s => { s with guarded := false }
      perform (.statements body)
    let w ← getWorld
    modifyWorld fun w => { w with elapsed := max w.elapsed (w.heldUntil id) }
    pass 0
    modify fun s => { s with filled := e.code }
    let bytes := (w.written id).filter (· ≠ 0)
    pure ((bytes.reverse.dropWhile (· = 0x0A)).reverse)

inductive Target where
  | file (kind : RedirectKind) (path : String)
  | channel (source : Option Nat)
  | document (number : Nat) (literal : Bool)
  deriving DecidableEq, Repr

namespace Target

def ofRedirect (perform : Perform) : Redirect → Action (Nat × Target)
  | .document place number literal => pure (place, .document number literal)
  | .file place kind word => do
    let bytes ← wordBytes (captured perform) word
    if kind = .duplicate then
      match bytes with
      | [0x2D] => pure (place, .channel none)
      | [b] =>
        match digits? [b] with
        | some n => pure (place, .channel (some n))
        | none => badChannel
      | _ => badChannel
    else pure (place, .file kind (textOf bytes))
where
  digits? := Builtin.digits?
  badChannel {α : Type} : Action α := do
    complainAt (← get).reading "Syntax error: Bad fd number"
    setStatus 2
    throw .fault

def fault {α : Type} (verb path missing : String) (fault : FileFault) : Action α :=
  let reason := match fault with
    | .notFound => missing
    | .notDirectory => missing
    | fault => fault.reason
  fail ("cannot " ++ verb ++ " " ++ path ++ ": " ++ reason)

def openFile (kind : RedirectKind) (path : String) : Action Nat := do
  let created (r : Except FileFault Nat) : Action Nat :=
    match r with
    | .ok id => pure id
    | .error e => fault "create" path "Directory nonexistent" e
  match kind with
  | .input =>
    match ← openInput path with
    | .ok id => pure id
    | .error e => fault "open" path "No such file" e
  | .append => do created (← openOutput path .append)
  | .both => do created (← openOutput path .keep)
  | .output => do
    if (← isOn .noclobber) ∧ ((← node? path).map Node.isFile) = some true ∧
        (channelOf? path).isNone then
      fail ("cannot create " ++ path ++ ": File exists")
    created (← openOutput path .empty)
  | _ => do created (← openOutput path .empty)

def apply (perform : Perform) (place : Nat) : Target → Action Unit
  | .file kind path => do connect place (some (← openFile kind path))
  | .channel none => connect place none
  | .channel (some n) => do
    if n ≠ place then
      match ← streamOf n with
      | some id => connect place (some id)
      | none => fail (toString n ++ ": Bad file descriptor")
  | .document number literal => do
    let word := ((← get).documents[number]?).getD []
    let bytes ← if literal then pure (word.characters.map byteOf)
      else do pure (bytesIn (← fillWord (captured perform) .quotation false word))
    let now := (← getWorld).elapsed
    connect place (some (← openStream (.input bytes now true)))

end Target

def restoreChannels (channels : List Nat) (before : List (Nat × Nat)) : Action Unit :=
  channels.forM fun c => connect c (before.lookup c)

def redirectAll (perform : Perform) (targets : List (Nat × Target)) : Action Unit :=
  targets.forM fun (channel, t) => t.apply perform channel

def redirectSafely (perform : Perform) (targets : List (Nat × Target)) : Action Bool := do
  let before := (← get).channels
  match ← ending (redirectAll perform targets) with
  | .ok () => pure true
  | .error .fault =>
    restoreChannels (targets.map (·.1)) before
    pure false
  | .error j => throw j

def redirected (perform : Perform) (rs : List Redirect) (body : Action Unit) : Action Unit := do
  let targets ← rs.mapM (Target.ofRedirect perform)
  let before := (← get).channels
  if ← redirectSafely perform targets then
    afterwards body (restoreChannels (targets.map (·.1)) before)
  else setStatus 2

end CallChart.Shell
