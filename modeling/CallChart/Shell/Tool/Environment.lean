import CallChart.Shell.Tool.Basic

namespace CallChart.Shell.Tool

open CallChart.Shell.Action

def environment : Action (List (String × Bytes)) := do
  pure ((← get).bindings.reverse.filterMap fun (name, v) =>
    if v.exported then v.value.map (name, ·) else none)

def printenv : Tool := withLeadingOptions ⟨"0", "", [("null", '0')]⟩ 2 fun _ g => do
  let tail : Bytes := if g.has '0' then [0] else [0x0A]
  let all ← environment
  if g.operands.isEmpty then
    for (name, value) in all do
      output (bytesOf (name ++ "=") ++ value ++ tail)
    pure 0
  else
    let found := g.operands.map fun w => all.lookup (textOf w)
    for value in found do
      match value with
      | some value => output (value ++ tail)
      | none => pure ()
    pure (statusOf (found.all Option.isSome))

namespace Splitting

inductive Quotes where
  | none
  | single
  | double
  deriving DecidableEq

structure State where
  words : List Bytes
  word : Option Bytes

def State.push (s : State) (bs : Bytes) : State :=
  { s with word := some (bs.reverse ++ s.word.getD []) }

def State.close (s : State) : State :=
  match s.word with
  | some w => ⟨w.reverse :: s.words, none⟩
  | none => s

def State.all (s : State) : List Bytes := s.close.words.reverse

def escaped? (c : UInt8) : Option UInt8 :=
  [(0x66, 0x0C), (0x6E, 0x0A), (0x72, 0x0D), (0x74, 0x09), (0x76, 0x0B), (0x23, 0x23), (0x24, 0x24),
    (0x22, 0x22), (0x27, 0x27), (0x5C, 0x5C)].lookup c

def words (value : String → Bytes) : Nat → Quotes → State → Bytes → Except String (List Bytes)
  | 0, _, s, _ => .ok s.all
  | _, q, s, [] => if q = .none then .ok s.all else .error "no terminating quote in -S string"
  | fuel + 1, q, s, b :: rest =>
    let isSpace := ByteClass.isSpace b
    if b = 0x27 ∧ q ≠ .double then
      words value fuel (if q = .single then .none else .single) (s.push []) rest
    else if q = .single then
      match b, rest with
      | 0x5C, c :: more =>
        if c = 0x5C ∨ c = 0x27 then words value fuel q (s.push [c]) more
        else words value fuel q (s.push [b]) rest
      | _, _ => words value fuel q (s.push [b]) rest
    else if b = 0x22 then
      words value fuel (if q = .double then .none else .double) (s.push []) rest
    else if isSpace ∧ q = .none then words value fuel q s.close rest
    else if b = 0x23 ∧ q = .none ∧ s.word.isNone then .ok s.all
    else if b = 0x5C then
      match rest with
      | [] => .error "invalid backslash at end of string in -S"
      | c :: more =>
        if c = 0x63 then
          if q = .double then .error "'\\c' must not appear in double-quoted -S string"
          else .ok s.all
        else if c = 0x5F then
          if q = .double then words value fuel q (s.push [0x20]) more
          else words value fuel q s.close more
        else
          match escaped? c with
          | some e => words value fuel q (s.push [e]) more
          | none => .error ("invalid sequence '\\" ++ textOf [c] ++ "' in -S")
    else if b = 0x24 then
      let name := (rest.drop 1).takeWhile ByteClass.isWord
      let more := (rest.drop 1).drop name.length
      if rest.head? = some 0x7B ∧ more.head? = some 0x7D ∧ !name.isEmpty then
        let filled := value (textOf name)
        words value fuel q (if filled.isEmpty then s else s.push filled) (more.drop 1)
      else
        .error ("only $\x7bVARNAME\x7d expansion is supported, error at: " ++ textOf (b :: rest))
    else words value fuel q (s.push [b]) rest

end Splitting

def envKnown : Known := ⟨"i0v", "uSC", [("ignore-environment", 'i'), ("null", '0'), ("unset=", 'u'),
  ("chdir=", 'C'), ("default-signal?", '\x02'), ("ignore-signal?", '\x03'),
  ("block-signal?", '\x04'), ("list-signal-handling", '\x05'), ("debug", 'v'),
  ("split-string=", 'S')]⟩

def upToText? (words : List Bytes) : Option (Given × Nat) :=
  (List.range (words.length + 1)).findSome? fun count =>
    match parse envKnown true (words.length + 1) (words.take count) with
    | .ok g => if g.has 'S' then some (g, count) else none
    | .error _ => none

def envWords (all : List (String × Bytes)) : Nat → List Bytes → Except (Bool × String) Given
  | 0, words => .ok ⟨[], words⟩
  | fuel + 1, words =>
    match upToText? words with
    | none =>
      match parse envKnown true (words.length + 1) words with
      | .error message => .error (true, message)
      | .ok g => .ok g
    | some (g, count) =>
      let value (name : String) : Bytes := (all.lookup name).getD []
      let text := (g.value? 'S').getD []
      match Splitting.words value (text.length + 2) .none ⟨[], none⟩ text with
      | .error message => .error (false, message)
      | .ok more =>
        match envWords all fuel (more ++ words.drop count) with
        | .error e => .error e
        | .ok h => .ok { h with options := g.options.filter (·.1 ≠ 'S') ++ h.options }

def setEnvironment (w : Bytes) : Action Unit := do
  let (name, value) := Builtin.splitAssignment w
  putVariable name (some ⟨some (value.getD []), true, false⟩)

def env (perform : Perform) : Tool := fun name words => do
  match envWords (← environment) (words.length + 4) words with
  | .error (usual, message) =>
    if !usual then
      say name message
      pure 125
    else if message = "invalid option -- ' '" then
      say name message
      misuse name "use -[v]S to pass options in shebang lines" 125
    else misuse name message 125
  | .ok g =>
    let bare := g.operands.head? = some [0x2D]
    let operands := if bare then g.operands.drop 1 else g.operands
    let removed := g.values 'u'
    match removed.find? fun w => w.isEmpty || w.contains 0x3D with
    | some w =>
      say name ("cannot unset " ++ quote w ++ ": Invalid argument")
      pure 125
    | none =>
      let kept (v : String × Variable) : Bool :=
        v.2.exported && !(g.has 'i' || bare) && !removed.contains (bytesOf v.1)
      modify fun s => { s with bindings := s.bindings.filter kept }
      let assignments := operands.takeWhile (·.contains 0x3D)
      for w in assignments do
        setEnvironment w
      let command := operands.drop assignments.length
      if g.has '0' ∧ !command.isEmpty then
        misuse name "cannot specify --null (-0) with command" 125
      else if (g.value? 'C').isSome ∧ command.isEmpty then
        misuse name "must specify command with --chdir (-C)" 125
      else if command.isEmpty then
        for (key, value) in ← environment do
          output (bytesOf (key ++ "=") ++ value ++ if g.has '0' then [0] else [0x0A])
        pure 0
      else
        let fault ← match g.value? 'C' with
          | none => pure none
          | some place =>
            match ← entryAt (textOf place) with
            | .error fault => pure (some fault)
            | .ok (_, none) => pure (some .notFound)
            | .ok (p, some n) =>
              if n.isDirectory then
                modify fun s => { s with directory := p }
                pure none
              else pure (some .notDirectory)
        match fault, g.value? 'C' with
        | some fault, some place =>
          say name ("cannot change directory to " ++ quote place ++ ": " ++ fault.reason)
          pure 125
        | _, _ =>
          replaced perform command fun fault => do
            sayUnstarted name command fault
            if fault = .notFound ∧ (command.headD []).contains 0x20 then
              say name "use -[v]S to pass options in shebang lines"

def priorityLetter : Char := 'e'

def niceness : Action Int := do
  pure ((((← get).limits.lookup priorityLetter).bind String.toInt?).getD 0)

def niceWords : Nat → List Bytes → List Bytes
  | 0, ws => ws
  | _, [] => []
  | fuel + 1, w :: rest =>
    let body := w.drop 1
    let number := if body.head? = some 0x2D ∨ body.head? = some 0x2B then body.drop 1 else body
    if w.head? = some 0x2D ∧ (number.head?.map ByteClass.isDigit).getD false then
      bytesOf "-n" :: body :: niceWords fuel rest
    else if w = bytesOf "-n" ∨ w = bytesOf "--adjustment" then
      w :: rest.take 1 ++ niceWords fuel (rest.drop 1)
    else w :: rest

def nice (perform : Perform) : Tool := fun name words =>
  withLeadingOptions ⟨"", "n", [("adjustment=", 'n')]⟩ 125 (fun name g => do
    let given := g.value? 'n'
    let text := given.map textOf
    let number := text.map fun t =>
      (if Text.startsWith "+" t then String.ofList (t.toList.drop 1) else t).toInt?
    match number, g.operands with
    | some none, _ =>
      say name ("invalid adjustment " ++ quote (given.getD []))
      pure 125
    | some _, [] => misuse name "a command must be given with an adjustment" 125
    | none, [] =>
      putLine (toString (← niceness))
      pure 0
    | number, command =>
      let adjustment := (number.bind (fun x => x)).getD 10
      let value := max (-20) (min 19 ((← niceness) + adjustment))
      modify fun s => { s with limits := (priorityLetter, toString value) :: s.limits }
      replaced perform command (sayUnstarted name command)) name
    (niceWords (words.length + 1) words)

def nohup (perform : Perform) : Tool := withLeadingOptions ⟨"", "", []⟩ 125 fun name g => do
  if g.operands.isEmpty then misuse name "missing operand" 125
  else
    modify fun s => { s with traps := (1, []) :: s.traps.filter (·.1 ≠ 1) }
    replaced perform g.operands (sayFailedRun name g.operands)

def setsid (perform : Perform) : Tool := withLeadingOptions ⟨"cfwhV", "", [("ctty", 'c'),
    ("fork", 'f'), ("wait", 'w')]⟩ 1 fun name g => do
  if g.operands.isEmpty then misuse name "no command specified" 1
  else
    replaced perform g.operands fun fault =>
      say name ("failed to execute " ++ textOf (g.operands.headD []) ++ ": " ++ fault.reason)

def stdbuf (perform : Perform) : Tool := withLeadingOptions ⟨"", "ioe", [("error=", 'e'),
    ("input=", 'i'), ("output=", 'o')]⟩ 125 fun name g => do
  let isMode (w : Bytes) : Bool := w == [0x4C] || (count? w).isSome
  match g.options.find? fun o => !isMode o.2 with
  | some (_, w) =>
    say name ("invalid mode " ++ quote w)
    pure 125
  | none =>
    if g.operands.isEmpty then misuse name "missing operand" 125
    else if g.options.isEmpty then misuse name "you must specify a buffering mode option" 125
    else replaced perform g.operands (sayFailedRun name g.operands)

end CallChart.Shell.Tool
