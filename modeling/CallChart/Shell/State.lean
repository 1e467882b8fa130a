import CallChart.Shell.Disk
import CallChart.Shell.Syntax
import CallChart.System

namespace CallChart.Shell

inductive Stream where
  | input (rest : Bytes) (ready : Nat) (ends : Bool)
  | zeros
  | output (chunks : List (Nat × Bytes))
  | file (node offset : Nat) (append readable writable : Bool)
  | directory
  | nothing
  | full
  deriving Repr

structure Sent where
  process : Nat
  number : Nat
  time : Nat
  group : Bool
  deriving DecidableEq, Repr

structure World where
  disk : Disk
  streams : Array Stream
  elapsed : Nat
  limit : Nat
  pid : Nat
  first : Nat
  alive : List Nat
  signals : List Sent
  expected : List Sent
  sent : List Sent
  ended : List (Nat × Nat)
  holds : List (Nat × Nat)

namespace World

def now (w : World) : Int := Disk.beginning + w.elapsed

def openStream (w : World) (s : Stream) : Nat × World :=
  (w.streams.size, { w with streams := w.streams.push s })

def stream (w : World) (id : Nat) : Stream :=
  w.streams[id]?.getD .nothing

def setStream (w : World) (id : Nat) (s : Stream) : World :=
  { w with streams := w.streams.setIfInBounds id s }

def written (w : World) (id : Nat) : Bytes :=
  match w.stream id with
  | .output chunks =>
    (chunks.reverse.mergeSort fun a b => a.1 ≤ b.1).flatMap (·.2)
  | _ => []

def nodeBytes (w : World) (node : Nat) : Bytes :=
  ((w.disk.nodes[node]?).map (·.bytes)).getD []

def setBytes (w : World) (node : Nat) (bytes : Bytes) : World :=
  match w.disk.nodes[node]? with
  | some n =>
    { w with disk := w.disk.setNode node { n with body := .file bytes, modified := w.now } }
  | none => w

def overwritten (old : Bytes) (offset : Nat) (new : Bytes) : Bytes :=
  if offset = old.length then old ++ new
  else
    old.take offset ++ List.replicate (offset - old.length) 0 ++ new ++
      old.drop (offset + new.length)

def write (w : World) (id : Nat) (bytes : Bytes) : Option String × World :=
  match w.stream id with
  | .output chunks => (none, w.setStream id (.output ((w.elapsed, bytes) :: chunks)))
  | .file node offset append readable writable =>
    if !writable then (some "Bad file descriptor", w)
    else
      let old := w.nodeBytes node
      let offset := if append then old.length else offset
      let w := w.setBytes node (overwritten old offset bytes)
      (none, w.setStream id (.file node (offset + bytes.length) append readable writable))
  | .full => (some "No space left on device", w)
  | .nothing => (none, w)
  | .zeros => (none, w)
  | _ => (some "Bad file descriptor", w)

def heldUntil (w : World) (id : Nat) : Nat :=
  let written := match w.stream id with
    | .output chunks => chunks.map (·.1)
    | _ => []
  ((w.holds.filter (·.1 = id)).map (·.2) ++ written).foldl max 0

def readable (w : World) (id : Nat) : Bytes :=
  match w.stream id with
  | .input rest _ _ => rest
  | .file node offset _ true _ => (w.nodeBytes node).drop offset
  | _ => []

def ends (w : World) (id : Nat) : Bool :=
  match w.stream id with
  | .input _ _ ends => ends
  | .zeros => false
  | .full => false
  | _ => true

def unreadable? (w : World) (id : Nat) : Option FileFault :=
  match w.stream id with
  | .directory => some .isDirectory
  | .file _ _ _ readable _ => if readable then none else some .badDescriptor
  | .output _ => some .badDescriptor
  | _ => none

def consume (w : World) (id : Nat) (count : Nat) : World :=
  match w.stream id with
  | .input rest ready ends =>
    { w.setStream id (.input (rest.drop count) ready ends) with elapsed := max w.elapsed ready }
  | .file node offset append readable writable =>
    w.setStream id (.file node (offset + count) append readable writable)
  | _ => w

end World

structure Variable where
  value : Option Bytes
  exported : Bool
  fixed : Bool
  deriving DecidableEq, Repr

inductive Switch where
  | errexit
  | noglob
  | ignoreeof
  | interactive
  | monitor
  | noexec
  | stdin
  | xtrace
  | verbose
  | vi
  | emacs
  | noclobber
  | allexport
  | notify
  | nounset
  | privileged
  | nolog
  | debug
  deriving DecidableEq, Repr

namespace Switch

def all : List (Switch × String × Option Char) := [
  (.errexit, "errexit", some 'e'), (.noglob, "noglob", some 'f'),
  (.ignoreeof, "ignoreeof", some 'I'), (.interactive, "interactive", some 'i'),
  (.monitor, "monitor", some 'm'), (.noexec, "noexec", some 'n'), (.stdin, "stdin", some 's'),
  (.xtrace, "xtrace", some 'x'), (.verbose, "verbose", some 'v'), (.vi, "vi", some 'V'),
  (.emacs, "emacs", some 'E'), (.noclobber, "noclobber", some 'C'),
  (.allexport, "allexport", some 'a'), (.notify, "notify", some 'b'),
  (.nounset, "nounset", some 'u'), (.privileged, "privileged", some 'p'), (.nolog, "nolog", none),
  (.debug, "debug", none)]

end Switch

structure Job where
  number : Nat
  pid : Nat
  parts : Nat
  finish : Nat
  status : Nat
  signal : Option Nat
  noticed : Bool
  waited : Bool
  deriving DecidableEq, Repr

structure Session where
  world : World
  name : String
  root : Nat
  pid : Nat
  started : Nat
  taken : List Sent
  arguments : List Bytes
  bindings : List (String × Variable)
  functions : List (String × Command)
  aliases : List (String × List Char)
  switches : List Switch
  channels : List (Nat × Nat)
  directory : Path
  called : String
  mask : Nat
  traps : List (Nat × Bytes)
  caught : List Nat
  jobs : List Job
  latest : Option Nat
  status : Nat
  filled : Nat
  line : Nat
  reading : Nat
  reader : String
  loops : Nat
  kept : List (List (String × Option Variable) × Option (List Switch))
  calls : Nat
  last : Bool
  guarded : Bool
  option : Nat × Option Nat
  pending : Option Nat
  documents : Array Word
  found : List (String × String × Bool)
  limits : List (Char × String)
  buffer : Option (List Bytes)
  unwritten : Option String
  tracing : Bool

inductive Jump where
  | leave (levels : Nat)
  | again (levels : Nat)
  | back (given : Bool)
  | exit
  | fault
  | killed (signal : Nat)
  | late
  deriving DecidableEq, Repr

abbrev Action := ExceptT Jump (StateM Session)

/-- What is left to other parts of the shell: to run statements, or a program with its name and
arguments, and to leave the status behind. -/
inductive Task where
  | statements (body : List Statement)
  | command (body : Command)
  | program (path : String) (words : List Bytes)
  | replacement (path : String) (words : List Bytes)

abbrev Perform := Task → Action Unit

namespace Action

def modifyWorld (f : World → World) : Action Unit :=
  modify fun s => { s with world := f s.world }

def getWorld : Action World := do
  pure (← get).world

def setStatus (status : Nat) : Action Unit :=
  modify fun s => { s with status := status }

def isOn (switch : Switch) : Action Bool := do
  pure ((← get).switches.contains switch)

def streamOf (channel : Nat) : Action (Option Nat) := do
  pure ((← get).channels.lookup channel)

def openStream (s : Stream) : Action Nat := do
  let (id, w) := (← getWorld).openStream s
  modifyWorld fun _ => w
  pure id

def connect (channel : Nat) (id : Option Nat) : Action Unit :=
  modify fun s =>
    let others := s.channels.filter (·.1 ≠ channel)
    { s with channels := match id with
      | some id => (channel, id) :: others
      | none => others }

def writeStream (id : Nat) (bytes : Bytes) : Action (Option String) := do
  if bytes.isEmpty then pure none
  else
    let (fault, w) := (← getWorld).write id bytes
    modifyWorld fun _ => w
    pure fault

def write (channel : Nat) (bytes : Bytes) : Action (Option String) := do
  match ← streamOf channel with
  | some id => writeStream id bytes
  | none => pure (some "Bad file descriptor")

def writeText (channel : Nat) (text : String) : Action Unit := do
  let _ ← write channel (bytesOf text)

def output (bytes : Bytes) : Action Unit := do
  match (← get).buffer with
  | some chunks => modify fun s => { s with buffer := some (bytes :: chunks) }
  | none =>
    match ← write 1 bytes with
    | some fault => modify fun s => { s with unwritten := some fault }
    | none => pure ()

def flush : Action Unit := do
  match (← get).buffer with
  | some chunks =>
    let bytes := chunks.reverse.flatten
    if !bytes.isEmpty then
      modify fun s => { s with buffer := none }
      output bytes
      modify fun s => { s with buffer := some [] }
  | none => pure ()

def hold (time : Nat) : Action Unit := do
  let channels := (← get).channels.map (·.2)
  modifyWorld fun w =>
    { w with
      holds := channels.map (·, time) ++ w.holds.filter fun h =>
        !channels.contains h.1 || time < h.2 }

inductive Effect where
  | nothing
  | trap
  | stop
  | death
  deriving DecidableEq, Repr

def effectOf (number : Nat) : Action Effect := do
  let traps := (← get).traps
  pure <| match if Signal.cannotBeCaught number then none else traps.lookup number with
    | some text => if text.isEmpty then .nothing else .trap
    | none =>
      if number = 0 ∨ Signal.isHarmless number then .nothing
      else if Signal.stops number then .stop
      else .death

def signalsUntil (time : Nat) : Action (List Sent) := do
  let s ← get
  let mine := s.world.signals.filter fun x =>
    (x.process = s.pid || (x.group && x.process < s.pid && s.started ≤ x.time)) &&
      x.time ≤ time && !s.taken.contains x
  pure (mine.mergeSort fun a b => a.time ≤ b.time)

def pass (milliseconds : Nat) : Action Unit := do
  let time := (← getWorld).elapsed + milliseconds
  match ← (← signalsUntil time).findM? fun x => do pure ((← effectOf x.number) = .death) with
  | some x =>
    modifyWorld fun w => { w with elapsed := max w.elapsed x.time }
    hold (← getWorld).elapsed
    throw (.killed x.number)
  | none =>
    modifyWorld fun w => { w with elapsed := time }
    hold time
    let w ← getWorld
    if w.limit ≤ w.elapsed then throw .late

def endless {α : Type} : Action α := do
  let coming := (← getWorld).signals.map (·.time)
  match ← (← signalsUntil (coming.foldl max 0)).findM? fun x => do
      pure ((← effectOf x.number) = .death) with
  | some x => pass (x.time - (← getWorld).elapsed)
  | none => pure ()
  throw .late

/-- Takes the signals that have come by now. Those with a trap wait until it runs; one that ends
the process has done so when it came. -/
def takeSignals : Action Unit := do
  let s ← get
  if !s.world.signals.isEmpty then
    let mine ← signalsUntil s.world.elapsed
    if !mine.isEmpty then
      modifyWorld fun w =>
        { w with signals := w.signals.filter fun x => x.group || !mine.contains x }
      modify fun s => { s with taken := mine.filter (·.group) ++ s.taken }
      for x in mine do
        match ← effectOf x.number with
        | .nothing => pure ()
        | .trap =>
          modify fun s => { s with caught := x.number :: s.caught.filter (· ≠ x.number) }
        | .stop => throw .late
        | .death =>
          hold s.world.elapsed
          modifyWorld fun w => { w with elapsed := min w.elapsed x.time }
          throw (.killed x.number)

def raise (number : Nat) : Action Unit := do
  let s ← get
  modifyWorld fun w => { w with signals := ⟨s.pid, number, w.elapsed, false⟩ :: w.signals }
  takeSignals

def readStream (id : Nat) : Action Bytes := do
  let w ← getWorld
  if w.ends id then
    let bytes := w.readable id
    modifyWorld (·.consume id bytes.length)
    pure bytes
  else endless

def readSome (id count : Nat) : Action Bytes := do
  let w ← getWorld
  match w.stream id with
  | .zeros => pure (List.replicate count 0)
  | .full => pure (List.replicate count 0)
  | _ =>
    let bytes := (w.readable id).take count
    if bytes.length < count ∧ !w.ends id then endless
    modifyWorld (·.consume id bytes.length)
    pure bytes

def takeLine (id : Nat) : Action (Bytes × Bool) := do
  let w ← getWorld
  let bytes := w.readable id
  let line := bytes.takeWhile (· ≠ 0x0A)
  let ended := !(bytes.drop line.length).isEmpty
  if !ended ∧ !w.ends id then endless
  modifyWorld (·.consume id (line.length + if ended then 1 else 0))
  pure (line, ended)

def complainAt (line : Nat) (message : String) : Action Unit := do
  let s ← get
  writeText 2 (s.name ++ ": " ++ toString line ++ ": " ++ s.reader ++ message ++ "\n")

def complain (message : String) : Action Unit := do
  complainAt (← get).line message

def fail {α : Type} (message : String) : Action α := do
  complain message
  setStatus 2
  throw .fault

def valueOf? (name : String) : Action (Option Bytes) := do
  pure (((← get).bindings.lookup name).bind (·.value))

def putVariable (name : String) (v : Option Variable) : Action Unit :=
  modify fun s => { s with bindings := match v with
    | some v =>
      if (s.bindings.lookup name).isSome then
        s.bindings.map fun b => if b.1 = name then (name, v) else b
      else (name, v) :: s.bindings
    | none => s.bindings.filter (·.1 ≠ name) }

def noticeChange (name : String) : Action Unit := do
  if name = "OPTIND" then
    let n := ((← valueOf? "OPTIND").map fun v =>
      v.foldl (fun n b => n * 10 + (b.toNat - 0x30)) 0).getD 1
    modify fun s => { s with option := (max n 1, none) }
  else if name = "PATH" then modify fun s => { s with found := [] }

def change (name : String) (f : Variable → Option Variable) : Action Unit := do
  let v := ((← get).bindings.lookup name).getD ⟨none, false, false⟩
  if v.fixed then fail (name ++ ": is read only")
  else
    putVariable name (f v)
    noticeChange name

def assign (name : String) (value : Bytes) : Action Unit := do
  let exported ← isOn .allexport
  change name fun v => some { v with value := some value, exported := v.exported || exported }

def ending {α : Type} (action : Action α) : Action (Except Jump α) := fun s =>
  match action s with
  | (r, s) => (.ok r, s)

def settle {α : Type} : Except Jump α → Action α
  | .ok a => pure a
  | .error j => throw j

def afterwards {α : Type} (action : Action α) (finally' : Action Unit) : Action α := do
  let r ← ending action
  finally'
  settle r

def entryAt (path : String) : Action (Except FileFault (Path × Option Node)) := do
  let s ← get
  pure (s.world.disk.entry true s.directory path)

def linkAt (path : String) : Action (Except FileFault (Path × Option Node)) := do
  let s ← get
  pure (s.world.disk.entry false s.directory path)

def node? (path : String) : Action (Option Node) := do
  match ← entryAt path with
  | .ok (_, n) => pure n
  | .error _ => pure none

def modifyDisk (f : Disk → Disk) : Action Unit :=
  modifyWorld fun w => { w with disk := f w.disk }

def touchDirectory (p : Path) : Action Unit := do
  let now := (← getWorld).now
  modifyDisk (·.change p.dropLast fun n => { n with modified := now })

def create (p : Path) (body : Body) (mode : Nat) : Action Unit := do
  let s ← get
  modifyDisk (·.add p ⟨body, Disk.permitted mode s.mask, s.world.now, 0, 0⟩)
  touchDirectory p

def channelOf? (path : String) : Option Nat :=
  match path with
  | "/dev/stdin" => some 0
  | "/dev/stdout" => some 1
  | "/dev/stderr" => some 2
  | path =>
    ["/dev/fd/", "/proc/self/fd/"].findSome? fun start =>
      if Text.startsWith start path then (path.toList.drop start.length |> String.ofList).toNat?
      else none

def deviceStream (name : String) : Stream :=
  match name with
  | "zero" => .zeros
  | "full" => .full
  | _ => .nothing

def openChannel (channel : Nat) : Action (Except FileFault Nat) := do
  match ← streamOf channel with
  | none => pure (.error .notFound)
  | some id =>
    match (← getWorld).stream id with
    | .file node _ append readable writable =>
      pure (.ok (← openStream (.file node 0 append readable writable)))
    | _ => pure (.ok id)

def openInput (path : String) : Action (Except FileFault Nat) := do
  match channelOf? path with
  | some channel => openChannel channel
  | none =>
    match ← entryAt path with
    | .error fault => pure (.error fault)
    | .ok (_, none) => pure (.error .notFound)
    | .ok (p, some n) =>
      match n.body with
      | .directory => pure (.ok (← openStream .directory))
      | .file _ =>
        let index := ((← getWorld).disk.index? p).getD 0
        pure (.ok (← openStream (.file index 0 false true false)))
      | .device name => pure (.ok (← openStream (deviceStream name)))
      | .pipe => endless
      | .link _ => pure (.error .notFound)

inductive Opening where
  | empty
  | append
  | keep
  deriving DecidableEq, Repr

def openOutput (path : String) (opening : Opening) : Action (Except FileFault Nat) := do
  match channelOf? path with
  | some channel => openChannel channel
  | none =>
    let path' := if path.toList.getLast? = some '/' then path ++ "." else path
    match ← entryAt path' with
    | .error .notFound =>
      if path' = path then pure (.error .notFound)
      else
        match ← entryAt (String.ofList path.toList.dropLast) with
        | .ok (_, none) => pure (.error .isDirectory)
        | _ => pure (.error .notFound)
    | .error fault => pure (.error fault)
    | .ok (p, none) =>
      create p (.file []) 0o666
      let index := ((← getWorld).disk.index? p).getD 0
      pure (.ok (← openStream (.file index 0 (opening = .append) (opening = .keep) true)))
    | .ok (p, some n) =>
      match n.body with
      | .directory => pure (.error .isDirectory)
      | .device name => pure (.ok (← openStream (deviceStream name)))
      | .file _ =>
        let index := ((← getWorld).disk.index? p).getD 0
        if opening = .empty then modifyWorld (·.setBytes index [])
        pure (.ok (← openStream (.file index 0 (opening = .append) (opening = .keep) true)))
      | .pipe => endless
      | .link _ => pure (.error .notFound)

end Action
end CallChart.Shell
