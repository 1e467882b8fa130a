import CallChart.Shell.Tool.EditScript

namespace CallChart.Shell.Tool.Edit

open CallChart.Shell.Action

inductive Sink where
  | main
  | standard
  | stream (id : Nat)
  deriving DecidableEq

inductive Queued where
  | text (bs : Bytes)
  | file (name : Bytes)

structure Opened where
  name : Bytes
  id : Nat
  lines : List Bytes
  complete : Bool
  ends : Bool

structure Manner where
  program : Array Instruction
  name : String
  silent : Bool
  ending : UInt8
  width : Nat
  separate : Bool
  inPlace : Option Bytes
  follows : Bool
  sinks : List (Bytes × Sink)

structure State where
  operands : List Bytes
  input : Option Opened
  number : Nat
  pattern : Bytes
  held : Bytes
  whole : Bool
  heldWhole : Bool
  queued : List Queued
  ranges : List (Nat × Bool × Nat)
  latest : Option Regex
  substituted : Bool
  ended : Option Nat
  status : Nat
  missing : List Sink
  written : List Bytes
  readers : List (Bytes × Bytes)

def State.put (s : State) (m : Manner) (sink : Sink) (bs : Bytes) : Action State := do
  match sink with
  | .stream id =>
    let _ ← writeStream id bs
    pure s
  | .main =>
    if m.inPlace.isSome then pure { s with written := bs :: s.written }
    else
      output bs
      pure s
  | .standard =>
    output bs
    pure s

def State.mend (s : State) (m : Manner) (sink : Sink) : Action State := do
  if s.missing.contains sink then
    let t : State := { s with missing := s.missing.filter (· ≠ sink) }
    t.put m sink [m.ending]
  else pure s

def State.putWhole (s : State) (m : Manner) (sink : Sink) (bs : Bytes) : Action State := do
  (← s.mend m sink).put m sink bs

def State.putLine (s : State) (m : Manner) (sink : Sink) (bs : Bytes) (whole : Bool) :
    Action State := do
  let s ← s.mend m sink
  if whole then s.put m sink (bs ++ [m.ending])
  else
    let t : State := { s with missing := sink :: s.missing }
    t.put m sink bs

def sinkOf (m : Manner) (name : Bytes) : Sink := (m.sinks.lookup name).getD .main

def State.flush (s : State) (m : Manner) : Action State := do
  match s.queued with
  | [] => pure s
  | queued =>
    let emptied : State := { s with queued := [] }
    let mut t ← emptied.mend m .main
    for q in queued.reverse do
      match q with
      | .text bs => t ← t.put m .main bs
      | .file name =>
        match ← openInput (textOf name) with
        | .ok id =>
          if ((← getWorld).unreadable? id).isNone then
            t ← t.put m .main (← readStream id)
        | .error _ => pure ()
    pure t

def complainOf (m : Manner) (message : Bytes) : Action Unit := do
  let _ ← write 2 (bytesOf (m.name ++ ": ") ++ message ++ [0x0A])

def State.stop (s : State) (m : Manner) (message : Bytes) : Action State := do
  complainOf m message
  pure { s with ended := some 4, operands := [], input := none }

def openedAs (m : Manner) (name : Bytes) (id : Nat) : Action Opened := do
  let w ← getWorld
  let (bytes, ends) ← match w.stream id with
    | .file .. => pure (w.readable id, true)
    | _ => readReady id
  pure ⟨name, id, linesBy m.ending bytes, bytes.isEmpty || bytes.getLast? == some m.ending, ends⟩

def State.close (s : State) (m : Manner) : Action State := do
  match m.inPlace, s.input with
  | some suffix, some i =>
    let bytes := s.written.reverse.flatten
    let s := { s with input := none, written := [], missing := [] }
    let found ← if m.follows then entryAt (textOf i.name) else linkAt (textOf i.name)
    match found with
    | .ok (p, some n) =>
      let old ← node? (textOf i.name)
      let base := bytesOf (p.getLast?.getD "")
      let kept := if suffix.contains 0x2A then
          suffix.flatMap fun b => if b = 0x2A then base else [b]
        else base ++ suffix
      let kept := if kept.contains 0x2F then kept
        else i.name.take (i.name.length - (lastPart i.name).length) ++ kept
      let moved : Except FileFault Unit ← if suffix.isEmpty then do
          modifyDisk (·.unlink p)
          pure (.ok ())
        else
          match ← linkAt (textOf kept) with
          | .error fault => pure (.error fault)
          | .ok (q, _) => do
            modifyDisk (·.rename p q)
            pure (.ok ())
      match moved with
      | .error fault =>
        s.stop m (bytesOf "cannot rename " ++ i.name ++ bytesOf (": " ++ fault.reason))
      | .ok () =>
        create p (.file bytes) 0o600
        let owner := old.getD n
        modifyDisk (·.change p fun n =>
          { n with mode := owner.mode, owner := owner.owner, group := owner.group })
        pure s
    | _ => pure s
  | _, _ => pure { s with input := none }
where
  lastPart (w : Bytes) : Bytes := (w.reverse.takeWhile (· ≠ 0x2F)).reverse

def State.openNext (m : Manner) : Nat → State → Action State
  | 0, s => pure s
  | fuel + 1, s => do
    match s.operands with
    | [] => pure s
    | name :: operands =>
      let s := { s with operands := operands }
      let s := if m.separate then { s with number := 0, ranges := [], readers := [] } else s
      let unreadable (fault : FileFault) : Action State := do
        complainOf m (bytesOf "can't read " ++ name ++ bytesOf (": " ++ fault.reason))
        State.openNext m fuel { s with status := 2 }
      if name = [0x2D] ∧ m.inPlace.isNone then
        match ← streamOf 0 with
        | none => unreadable .badDescriptor
        | some id =>
          let i ← openedAs m name id
          if i.lines.isEmpty ∧ i.ends then State.openNext m fuel s
          else pure { s with input := some i }
      else
        match ← entryAt (textOf name) with
        | .error fault => unreadable fault
        | .ok (_, none) => unreadable .notFound
        | .ok (_, some n) =>
          if m.inPlace.isSome ∧ !n.isFile then
            s.stop m (bytesOf "couldn't edit " ++ name ++ bytesOf ": not a regular file")
          else
            match ← openInput (textOf name) with
            | .error fault => unreadable fault
            | .ok id =>
              match (← getWorld).unreadable? id with
              | some fault =>
                s.stop m (bytesOf "read error on " ++ name ++ bytesOf (": " ++ fault.reason))
              | none =>
                let i ← openedAs m name id
                if i.lines.isEmpty ∧ i.ends then
                  let t : State := { s with input := some i }
                  State.openNext m fuel (← t.close m)
                else pure { s with input := some i }

def State.isDry (s : State) : Action Bool := do
  match s.input with
  | none => pure true
  | some i => if i.lines.isEmpty ∧ !i.ends then endless else pure i.lines.isEmpty

def State.atLast (s : State) (m : Manner) : Action (Bool × State) := do
  if !(← s.isDry) then pure (false, s)
  else if m.separate then pure (true, s)
  else
    let t ← State.openNext m (s.operands.length + 1) s
    pure (← t.isDry, t)

def State.advance (s : State) (m : Manner) : Action (Option Bytes × State) := do
  let s ← s.flush m
  let s ← if ← s.isDry then do
      let s ← s.close m
      State.openNext m (s.operands.length + 1) s
    else pure s
  match s.input with
  | none => pure (none, s)
  | some i =>
    match i.lines with
    | [] => pure (none, s)
    | line :: rest =>
      let whole := !rest.isEmpty || i.complete
      match (← getWorld).stream i.id with
      | .file .. => modifyWorld (·.consume i.id (line.length + if whole then 1 else 0))
      | _ => pure ()
      pure (some line, { s with
        input := some { i with lines := rest }, number := s.number + 1, whole := whole
        substituted := false })

def State.finds? (s : State) (w : Wanted) (place : Nat) : Option (Option Regex.Match × State) :=
  (w.regex <|> s.latest).map fun r =>
    (r.find? ⟨s.pattern.toArray, w.fold, w.lines⟩ place, { s with latest := some r })

def State.noExpression (s : State) (m : Manner) : Action State := do
  complainOf m (bytesOf "-e expression #1, char 0: no previous regular expression")
  pure { s with ended := some 1, operands := [], input := none }

def State.hits (s : State) (m : Manner) (a : Address) : Action (Bool × State) := do
  match a with
  | .line n => pure (s.number == n, s)
  | .last => s.atLast m
  | .every first step => pure (first ≤ s.number && (s.number - first) % step == 0, s)
  | .hit w =>
    match s.finds? w 0 with
    | some (found, s) => pure (found.isSome, s)
    | none => pure (false, ← s.noExpression m)
  | .later _ => pure (false, s)
  | .multiple _ => pure (false, s)

/-- Where the range of an instruction stands: nothing before it began, then whether it goes on, and
up to which line. A range from line zero goes on from the beginning. -/
def State.range? (s : State) (index : Nat) (first : Option Address) : Option (Bool × Nat) :=
  match s.ranges.lookup index, first with
  | none, some (.line 0) => some (true, 0)
  | found, _ => found

def State.setRange (s : State) (index : Nat) (on : Bool) (stop : Nat) : State :=
  { s with ranges := (index, on, stop) :: s.ranges.filter (·.1 ≠ index) }

def State.inRange (s : State) (index : Nat) : Bool := (s.ranges.lookup index).any (·.1)

def State.begin (s : State) (index : Nat) (second : Address) : Bool × State :=
  match second with
  | .line n => (true, s.setRange index (decide (s.number < n)) n)
  | .later n => (true, s.setRange index (decide (0 < n)) (s.number + n))
  | .multiple n =>
    let stop := if n = 0 then s.number else s.number + n - s.number % n
    (true, s.setRange index (decide (s.number < stop)) stop)
  | _ => (true, s.setRange index true 0)

def State.atBound (s : State) (index stop : Nat) : Bool × State :=
  (decide (s.number ≤ stop), if stop ≤ s.number then s.setRange index false stop else s)

def State.selected (s : State) (m : Manner) (index : Nat) (sel : Selector) :
    Action (Bool × State) := do
  let (hit, s) ← match sel.first, sel.second with
    | none, _ => pure (true, s)
    | some a, none => s.hits m a
    | some a, some b =>
      let on (s : State) : State := s.setRange index true 0
      let off (s : State) : State := s.setRange index false 0
      match s.range? index sel.first with
      | some (true, stop) =>
        match b with
        | .line _ => pure (s.atBound index stop)
        | .later _ => pure (s.atBound index stop)
        | .multiple _ => pure (s.atBound index stop)
        | b =>
          let (last, s) ← s.hits m b
          pure (true, if last then off s else on s)
      | before =>
        match a with
        | .line n =>
          if before.isSome ∨ s.number < n then pure (false, s)
          else
            match b with
            | .line stop =>
              pure (if n < s.number ∧ stop < s.number then (false, off s) else s.begin index b)
            | b => pure (s.begin index b)
        | a =>
          let (hit, s) ← s.hits m a
          pure (if hit then s.begin index b else (false, s))
  pure (hit != sel.negated, s)

def recased (all once : LetterCase) (bs : Bytes) : Bytes :=
  let change (c : LetterCase) (b : UInt8) : UInt8 :=
    match c with
    | .keep => b
    | .upper => Regex.upper b
    | .lower => Regex.lower b
  match bs.map (change all), bs with
  | b :: rest, first :: _ => (if once = .keep then b else change once first) :: rest
  | bs, _ => bs

def filled (text : Array UInt8) (m : Regex.Match) (parts : List Part) : Bytes :=
  let step (state : List Bytes × LetterCase × LetterCase) (part : Part) :
      List Bytes × LetterCase × LetterCase :=
    let (done, all, once) := state
    let put (bs : Bytes) : List Bytes × LetterCase × LetterCase :=
      (recased all once bs :: done, all, if bs.isEmpty then once else .keep)
    match part with
    | .text bs => put bs
    | .group 0 => put (text.extract m.start m.stop).toList
    | .group n =>
      match m.captures.lookup n with
      | some (low, high) => put (text.extract low high).toList
      | none => put []
    | .casing c => (done, c, .keep)
    | .once c => (done, all, c)
  (parts.foldl step ([], .keep, .keep)).1.reverse.flatten

def replaced (r : Regex) (sub : Substitution) (text : Array UInt8) :
    Nat → Nat → Nat → Option Nat → List Bytes × Bool
  | 0, _, place, _ => ([(text.extract place text.size).toList], false)
  | fuel + 1, count, place, previous =>
    match r.find? ⟨text, sub.wanted.fold, sub.wanted.lines⟩ place with
    | none => ([(text.extract place text.size).toList], false)
    | some m =>
      let before := (text.extract place m.start).toList
      let empty := m.start = m.stop
      let one := (text.extract m.start (m.start + 1)).toList
      if empty ∧ previous = some m.start then
        if m.start < text.size then
          let (tail, hit) := replaced r sub text fuel count (m.start + 1) none
          (before :: one :: tail, hit)
        else ([before], false)
      else
        let count := count + 1
        let wanted := if sub.all then sub.nth ≤ count else sub.nth = count
        let piece := if wanted then filled text m sub.parts
          else (text.extract m.start m.stop).toList
        if wanted ∧ !sub.all then
          ([before, piece, (text.extract m.stop text.size).toList], true)
        else if empty then
          if m.start < text.size then
            let (tail, hit) := replaced r sub text fuel count (m.start + 1) none
            (before :: piece :: one :: tail, hit || wanted)
          else ([before, piece], wanted)
        else
          let (tail, hit) := replaced r sub text fuel count m.stop (some m.stop)
          (before :: piece :: tail, hit || wanted)

def commandOutput (perform : Perform) (text : Bytes) : Action Bytes := do
  let before ← streamOf 1
  let id ← openStream (.output [])
  connect 1 (some id)
  afterwards (perform (.program "/bin/sh" [bytesOf "sh", bytesOf "-c", text])) (connect 1 before)
  let w ← getWorld
  modifyWorld fun w => { w with elapsed := max w.elapsed (w.heldUntil id) }
  pass 0
  pure (w.written id)

def commandLine (perform : Perform) (m : Manner) (text : Bytes) : Action Bytes := do
  let bytes ← commandOutput perform text
  pure (if bytes.getLast? = some m.ending then bytes.dropLast else bytes)

def State.substitute (perform : Perform) (s : State) (m : Manner) (sub : Substitution) :
    Action State := do
  match sub.wanted.regex <|> s.latest with
  | none => s.noExpression m
  | some r =>
    let text := s.pattern.toArray
    let (result, hit) := replaced r sub text (text.size + 2) 0 0 none
    let s := { s with latest := some r }
    if !hit then pure s
    else
      let show' (on : Bool) (s : State) : Action State := do
        if on then s.putLine m .main s.pattern s.whole else pure s
      let s := { s with pattern := result.flatten, substituted := true }
      let s ← if sub.runs then do
          let s ← show' sub.early s
          let line ← commandLine perform m s.pattern
          show' sub.late { s with pattern := line }
        else show' (sub.early || sub.late) s
      match sub.file with
      | some file => s.putLine m (sinkOf m file) s.pattern s.whole
      | none => pure s

def revealed (m : Manner) (width : Nat) (bs : Bytes) : Bytes :=
  let shape (b : UInt8) : Bytes :=
    if b = 0x5C then [0x5C, 0x5C] else if isPrintable b then [b] else bytesOf (escapedByte b)
  let step (s : Nat × List Bytes) (b : UInt8) : Nat × List Bytes :=
    let piece := shape b
    if 0 < width ∧ width - 1 < s.1 + piece.length then
      (piece.length, piece :: [0x5C, 0x0A] :: s.2)
    else (s.1 + piece.length, piece :: s.2)
  (bs.foldl step (0, [])).2.reverse.flatten ++ [0x24, m.ending]

inductive Course where
  | goOn
  | goTo (index : Nat)
  | done
  | again

def labelIndex (program : Array Instruction) (name : Bytes) : Nat :=
  if name.isEmpty then program.size
  else
    (program.findIdx? fun i =>
      match i.function with
      | .label other => other == name
      | _ => false).getD program.size

def firstLine (m : Manner) (bs : Bytes) : Bytes := bs.takeWhile (· ≠ m.ending)

def State.readLine (s : State) (name : Bytes) : Action (Bytes × State) := do
  let left ← match s.readers.lookup name with
    | some left => pure left
    | none =>
      match ← openInput (textOf name) with
      | .ok id =>
        if ((← getWorld).unreadable? id).isSome then pure [] else readStream id
      | .error _ => pure []
  let line := left.takeWhile (· ≠ 0x0A)
  let line := left.take (line.length + 1)
  pure (line, { s with
    readers := (name, left.drop line.length) :: s.readers.filter (·.1 ≠ name) })

def step (perform : Perform) (m : Manner) (index : Nat) (s : State) (f : Function) :
    Action (State × Course) := do
  let goOn (s : State) : Action (State × Course) := pure (s, .goOn)
  match f with
  | .block _ => goOn s
  | .close => goOn s
  | .label _ => goOn s
  | .substitute sub => goOn (← s.substitute perform m sub)
  | .exchange pairs => goOn { s with pattern := s.pattern.map fun b => (pairs.lookup b).getD b }
  | .print => goOn (← s.putLine m .main s.pattern s.whole)
  | .printFirst =>
    let line := firstLine m s.pattern
    goOn (← s.putLine m .main line (s.whole || line.length < s.pattern.length))
  | .delete => pure (s, .done)
  | .deleteFirst =>
    let line := firstLine m s.pattern
    if line.length < s.pattern.length then
      pure ({ s with pattern := s.pattern.drop (line.length + 1) }, .again)
    else pure (s, .done)
  | .next =>
    let (last, s) ← s.atLast m
    if last then
      pure (← if m.silent then pure s else s.putLine m .main s.pattern s.whole, .done)
    else
      let s ← if m.silent then pure s else s.putLine m .main s.pattern s.whole
      match ← s.advance m with
      | (some line, s) => goOn { s with pattern := line }
      | (none, s) => pure ({ s with ended := some s.status }, .done)
  | .appendNext =>
    let (last, s) ← s.atLast m
    if last then
      pure (← if m.silent then pure s else s.putLine m .main s.pattern s.whole, .done)
    else
      match ← s.advance m with
      | (some line, s) => goOn { s with pattern := s.pattern ++ m.ending :: line }
      | (none, s) => pure ({ s with ended := some s.status }, .done)
  | .hold => goOn { s with held := s.pattern, heldWhole := s.whole }
  | .holdMore => goOn { s with held := s.held ++ m.ending :: s.pattern, heldWhole := s.whole }
  | .recall => goOn { s with pattern := s.held, whole := s.heldWhole }
  | .recallMore =>
    goOn { s with pattern := s.pattern ++ m.ending :: s.held, whole := s.heldWhole }
  | .swap =>
    goOn { s with
      pattern := s.held, held := s.pattern, whole := s.heldWhole, heldWhole := s.whole }
  | .quit status =>
    let s ← if m.silent then pure s else s.putLine m .main s.pattern s.whole
    let s ← (← s.mend m .main).flush m
    pure ({ s with ended := some status }, .done)
  | .quitSilently status => pure ({ s with ended := some status, queued := [] }, .done)
  | .number => goOn (← s.putWhole m .main (bytesOf (toString s.number ++ "\n")))
  | .fileName =>
    goOn (← s.putWhole m .main (((s.input.map (·.name)).getD [0x2D]) ++ [m.ending]))
  | .append text => goOn { s with queued := .text text :: s.queued }
  | .insert text => goOn (← s.putWhole m .main text)
  | .change text =>
    pure (← if s.inRange index then pure s else s.putWhole m .main text, .done)
  | .run text =>
    if text.isEmpty then goOn { s with pattern := ← commandLine perform m s.pattern }
    else
      let s ← s.mend m .main
      goOn (← s.put m .main (← commandOutput perform text.dropLast))
  | .jump name => pure (s, .goTo (labelIndex m.program name))
  | .jumpIf name substituted =>
    let t := { s with substituted := false }
    if s.substituted = substituted then pure (t, .goTo (labelIndex m.program name)) else goOn t
  | .reveal width => goOn (← s.putWhole m .main (revealed m (width.getD m.width) s.pattern))
  | .clear => goOn { s with pattern := [] }
  | .readFile name => goOn { s with queued := .file name :: s.queued }
  | .readLine name =>
    let (line, s) ← s.readLine name
    goOn (if line.isEmpty then s else { s with queued := .text line :: s.queued })
  | .write name => goOn (← s.putLine m (sinkOf m name) s.pattern s.whole)
  | .writeFirst name =>
    let line := firstLine m s.pattern
    goOn (← s.putLine m (sinkOf m name) line (s.whole || line.length < s.pattern.length))

def cycleLimit : Nat := 100000

def cycle (perform : Perform) (m : Manner) : Nat → Nat → State → Action (State × Bool)
  | 0, _, _ => endless
  | fuel + 1, index, s => do
    match m.program[index]? with
    | none => pure (← if m.silent then pure s else s.putLine m .main s.pattern s.whole, false)
    | some i =>
      let (hit, s) ← s.selected m index i.selector
      if s.ended.isSome then pure (s, false)
      else if !hit then
        match i.function with
        | .block stop => cycle perform m fuel (max stop (index + 1)) s
        | _ => cycle perform m fuel (index + 1) s
      else
        let (s, course) ← step perform m index s i.function
        if s.ended.isSome then pure (s, false)
        else
          match course with
          | .goOn => cycle perform m fuel (index + 1) s
          | .goTo target => cycle perform m fuel target s
          | .done => pure (s, false)
          | .again => pure (s, true)

def lineLimit : Nat := 1000000

def cycles (perform : Perform) (m : Manner) : Nat → Bool → State → Action State
  | 0, _, _ => endless
  | fuel + 1, again, s => do
    if again then
      let (s, again) ← cycle perform m cycleLimit 0 s
      if s.ended.isSome then pure s else cycles perform m fuel again s
    else
      match ← s.advance m with
      | (none, s) => pure s
      | (some line, s) =>
        if s.ended.isSome then pure s
        else
          let (s, again) ← cycle perform m cycleLimit 0 { s with pattern := line }
          if s.ended.isSome then pure s else cycles perform m fuel again s

def known : Known := ⟨"bsnrzuE", "efli?", [("binary", 'b'), ("regexp-extended", 'r'),
  ("debug", '\x02'), ("in-place?", 'i'), ("expression=", 'e'), ("file=", 'f'),
  ("line-length=", 'l'), ("null-data", 'z'), ("zero-terminated", 'z'), ("quiet", 'n'),
  ("posix", '\x05'), ("silent", 'n'), ("sandbox", '\x06'), ("separate", 's'),
  ("unbuffered", 'u'), ("version", '\x07'), ("help", '\x04'), ("follow-symlinks", '\x03')]⟩

def usage (name : String) : String :=
  "Usage: " ++ name ++ " [OPTION]... \x7bscript-only-if-no-other-script\x7d [input-file]...\n\n"

def sourcesOf (name : String) (g : Given) :
    Action (Except Nat (List (Origin × Bytes) × List Bytes)) := do
  let mut found : List (Origin × Bytes) := []
  let mut number := 0
  for (c, v) in g.options do
    if c = 'e' then
      number := number + 1
      found := (.argument number, v) :: found
    else if c = 'f' then
      let path := if v = [0x2D] then "/dev/stdin" else textOf v
      match ← openInput path with
      | .error fault =>
        writeText 2 (name ++ ": couldn't open file " ++ textOf v ++ ": " ++ fault.reason ++ "\n")
        return .error 4
      | .ok id =>
        match (← getWorld).unreadable? id with
        | some fault =>
          writeText 2 (name ++ ": read error on " ++ textOf v ++ ": " ++ fault.reason ++ "\n")
          return .error 4
        | none => found := (.file v, ← readStream id) :: found
  if !found.isEmpty then pure (.ok (found.reverse, g.operands))
  else
    match g.operands with
    | [] =>
      writeText 2 (usage name)
      pure (.error 1)
    | script :: rest => pure (.ok ([(.argument 1, script)], rest))

def openSinks (inPlace : Bool) : List Bytes → Action (Except Bytes (List (Bytes × Sink)))
  | [] => pure (.ok [])
  | name :: rest => do
    let opened : Except Bytes Sink ← match textOf name with
      | "/dev/stdout" => pure (.ok (if inPlace then .standard else .main))
      | path =>
        match ← openOutput path .empty with
        | .ok id => pure (.ok (.stream id))
        | .error fault =>
          pure (.error (bytesOf "couldn't open file " ++ name ++ bytesOf (": " ++ fault.reason)))
    match opened with
    | .error message => pure (.error message)
    | .ok sink => pure ((← openSinks inPlace rest).map ((name, sink) :: ·))

end CallChart.Shell.Tool.Edit

namespace CallChart.Shell.Tool

open CallChart.Shell.Action

def sed (perform : Perform) : Tool := fun name words => do
  match parse Edit.known false (words.length + 1) words with
  | .error message =>
    writeText 2 (name ++ ": " ++ message ++ "\n" ++ Edit.usage name)
    pure 1
  | .ok g =>
    if g.has '\x07' then
      putLine (versionOf "sed")
      pure 0
    else if g.has '\x04' then
      output (bytesOf (Edit.usage name))
      pure 0
    else
      match ← Edit.sourcesOf name g with
      | .error status => pure status
      | .ok (sources, operands) =>
        let inPlace := (g.value? 'i')
        let fails (fault : Bytes) (status : Nat) : Action Nat := do
          let _ ← write 2 (bytesOf (name ++ ": ") ++ fault ++ [0x0A])
          pure status
        let (r, source) := ((Edit.readSources sources).run).run
          { origin := .argument 1, rest := [], taken := 0, line := 1, instructions := #[]
            blocks := [], pending := none, extended := g.has 'E' || g.has 'r'
            closed := g.has '\x06', silent := g.has 'n', first := true, targets := [] }
        match ← Edit.openSinks inPlace.isSome source.targets.reverse.eraseDups, r with
        | .error message, _ => fails message 4
        | _, .error fault => fails fault.message fault.status
        | .ok sinks, .ok () =>
          if inPlace.isSome ∧ operands.isEmpty then fails (bytesOf "no input files") 4
          else
            let width := ((g.value? 'l').bind fun w =>
              digits? (w.takeWhile ByteClass.isDigit)).getD (if g.has 'l' then 0 else 70)
            let m : Edit.Manner := {
              program := source.instructions, name := name, silent := source.silent
              ending := if g.has 'z' then 0 else 0x0A, width := width
              separate := g.has 's' || inPlace.isSome, inPlace := inPlace
              follows := g.has '\x03', sinks := sinks }
            let operands := if operands.isEmpty then [[0x2D]] else operands
            let s ← Edit.cycles perform m Edit.lineLimit false {
              operands := operands, input := none, number := 0, pattern := [], held := []
              whole := true, heldWhole := true, queued := [], ranges := [], latest := none
              substituted := false, ended := none, status := 0, missing := [], written := []
              readers := [] }
            let s ← s.flush m
            let s ← s.close m
            pure (s.ended.getD s.status)

end CallChart.Shell.Tool
