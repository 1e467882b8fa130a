import CallChart.Shell.Builtin.Basic

namespace CallChart.Shell.Builtin

open CallChart.Shell.Action

def signal? (first : Nat) (w : Bytes) : Option Nat :=
  match digits? w with
  | some n => if n < Signal.count then some n else none
  | none =>
    let name := (textOf w).toList.map Char.toUpper
    (List.range Signal.count).find? fun n => first ≤ n && (Signal.shellName n).toList == name

def setTraps : Builtin := fun words => do
  let (_, words) ← flags "" words
  match words with
  | [] =>
    for (number, text) in (← get).traps.mergeSort fun a b => a.1 ≤ b.1 do
      output (bytesOf "trap -- " ++ quotedBytes text ++
        bytesOf (" " ++ Signal.shellName number ++ "\n"))
    pure 0
  | w :: rest =>
    let resets := rest.isEmpty ∨ ((digits? w).any (· < Signal.count))
    let text := if resets ∨ w = [0x2D] then none else some w
    go text (if resets then words else rest)
where
  go (text : Option Bytes) : List Bytes → Action Nat
    | [] => pure 0
    | w :: rest => do
      match signal? 0 w with
      | none =>
        writeText 2 ("trap: " ++ textOf w ++ ": bad trap\n")
        pure 1
      | some number =>
        modify fun s =>
          let others := s.traps.filter (·.1 ≠ number)
          { s with traps := match text with
            | some text => (number, text) :: others
            | none => others }
        go text rest

def runTraps (perform : Perform) : Action Unit := do
  takeSignals
  let s ← get
  if !s.caught.isEmpty then
    let status := s.pending.getD s.status
    for number in s.caught.mergeSort do
      modify fun s => { s with caught := s.caught.filter (· ≠ number) }
      match (← get).traps.lookup number with
      | none => pure ()
      | some text =>
        modify fun s => { s with pending := some status, guarded := false, last := false }
        let r ← ending (runText perform false false text)
        modify fun t => { t with
          pending := s.pending, guarded := s.guarded, last := s.last
          status := match r with
            | .error .exit => t.status
            | .error .fault => t.status
            | .error (.back true) => t.status
            | _ => status }
        let _ ← settle r

def isOver (j : Job) : Action Bool := do
  pure (j.finish ≤ (← getWorld).elapsed)

def setJob (j : Job) : Action Unit :=
  modify fun s => { s with jobs := s.jobs.map fun i => if i.number = j.number then j else i }

def noticeJobs : Action Unit := do
  let now := (← getWorld).elapsed
  modify fun s => { s with jobs := s.jobs.map fun j =>
    { j with noticed := j.noticed || j.finish ≤ now } }

def freeNumber (jobs : List Job) : Nat :=
  let taken (n : Nat) : Bool := jobs.any fun j => j.number = n && !(j.noticed && j.waited)
  ((List.range (jobs.length + 1)).map (· + 1)).find? (!taken ·) |>.getD 1

def job (w : Option Bytes) : Action Job := do
  let jobs := (← get).jobs
  let shown := match w with
    | some w => textOf w
    | none => "(null)"
  let choose (j : Option Job) (message : String) : Action Job :=
    match j with
    | some j => pure j
    | none => fail message
  match w.map fun w => (textOf w).toList with
  | none => choose jobs.head? "No current job"
  | some ['%'] => choose jobs.head? "No current job"
  | some ['%', '%'] => choose jobs.head? "No current job"
  | some ['%', '+'] => choose jobs.head? "No current job"
  | some ['%', '-'] => choose jobs[1]? "No previous job"
  | some ('%' :: rest) =>
    let named := match digits? (bytesOf (String.ofList rest)) with
      | some n => jobs.find? (·.number = n)
      | none => none
    choose named ("No such job: " ++ shown)
  | some _ => fail ("No such job: " ++ shown)

def endingOf (j : Job) : String :=
  match j.signal with
  | some n => Signal.description n
  | none => if j.status = 0 then "Done" else "Done(" ++ toString j.status ++ ")"

def jobWidth : Nat := 33

def showJob (mode : Option Char) (j : Job) : Action Unit := do
  let jobs := (← get).jobs
  let mark := if (jobs.head?.map (·.number)) = some j.number then "+"
    else if (jobs[1]?.map (·.number)) = some j.number then "-" else " "
  if mode = some 'p' then putLine (toString (j.pid + 1 - j.parts))
  else
    let ended ← isOver j
    let first := "[" ++ toString j.number ++ "] " ++ mark ++ " "
    let line := first ++ (if mode = some 'l' then toString (j.pid + 1 - j.parts) ++ " " else "") ++
      if ended then endingOf j else "Running"
    let room (n : Nat) : String := String.ofList (List.replicate (max n 1) ' ')
    let line := line ++ room (jobWidth - line.length)
    if mode = some 'l' then
      let others := (List.range (j.parts - 1)).map fun i =>
        let start := " |\n" ++ room first.length ++ toString (j.pid + 2 - j.parts + i) ++ " "
        start ++ room (jobWidth - (start.length - 3))
      putLine (line ++ String.join others)
    else putLine (line ++ String.join (List.replicate (j.parts - 1) " | "))
    if ended then
      modify fun s => { s with jobs := s.jobs.filter (·.number ≠ j.number) }

def showJobs : Builtin := fun words => do
  let (given, words) ← flags "lp" words
  noticeJobs
  let mode := given.getLast?
  if words.isEmpty then
    for j in (← get).jobs do
      showJob mode j
  else
    for w in words do
      showJob mode (← job (some w))
  pure 0

def moveJob : Builtin := fun words => do
  let (_, words) ← flags "" words
  let w := words.head?
  let _ ← job w
  fail ("job " ++ (match w with
    | some w => textOf w
    | none => "(null)") ++ " not created under job control")

def waitUntil (time : Nat) : Action Bool := do
  let trapped ← (← signalsUntil time).findM? fun x => do
    pure (x.number ≠ 17 && (← effectOf x.number) ≠ .nothing)
  let now := (← getWorld).elapsed
  match trapped with
  | some x =>
    if now < x.time then pass (x.time - now)
    takeSignals
    pure false
  | none =>
    if now < time then pass (time - now)
    pure true

def waitJobs : Builtin := fun words => do
  let (_, words) ← flags "" words
  if words.isEmpty then
    let jobs := (← get).jobs
    if ← waitUntil ((jobs.map (·.finish)).foldl max (← getWorld).elapsed) then
      modify fun s => { s with
        jobs := s.jobs.map fun j => { j with noticed := true, waited := true } }
      pure 0
    else interrupted
  else go 127 words
where
  interrupted : Action Nat := do
    pure (128 + ((← get).caught.foldl min Signal.count))
  go (status : Nat) : List Bytes → Action Nat
    | [] => pure status
    | w :: rest => do
      let j ← if w.head? = some 0x25 then do pure (some (← job (some w)))
        else do
          let n ← natural w
          pure ((← get).jobs.find? (·.pid = n))
      match j with
      | none => go 127 rest
      | some j =>
        if ← waitUntil j.finish then
          if !j.noticed then
            match j.signal with
            | some n => if n ≠ 2 ∧ n ≠ 13 then writeText 2 (Signal.description n ++ "\n")
            | none => pure ()
          noticeJobs
          setJob { j with noticed := true, waited := true }
          go j.status rest
        else interrupted

def send (number : Nat) (process : Int) : Action Bool := do
  let s ← get
  let w := s.world
  if process = s.pid ∨ process = 0 then
    raise number
    pure true
  else
    match process with
    | .negSucc _ => pure false
    | .ofNat process =>
      let sent : Sent := ⟨process, number, w.elapsed, false⟩
      if process < s.world.first then pure (number = 0)
      else if w.alive.contains process then
        modifyWorld fun w => { w with signals := sent :: w.signals }
        pure true
      else if w.expected.contains sent then
        modifyWorld fun w => { w with sent := sent :: w.sent }
        pure true
      else
        match w.ended.lookup process with
        | some time =>
          if w.elapsed < time then
            if number ≠ 0 then modifyWorld fun w => { w with sent := sent :: w.sent }
            pure true
          else pure (s.jobs.any fun j => j.pid = process && !j.noticed)
        | none => pure false

def killUsage : String :=
  "Usage: kill [-s sigspec | -signum | -sigspec] [pid | job]... or\nkill -l [exitstatus]"

def showSignals : List Bytes → Action Nat
  | [] => do
    putLine "0"
    for n in (List.range Signal.count).drop 1 do
      putLine (Signal.shellName n)
    pure 0
  | w :: _ => do
    let n ← natural w
    let n := if 128 < n then n - 128 else n
    if 0 < n ∧ n < Signal.count then
      putLine (Signal.shellName n)
      pure 0
    else fail ("invalid signal number or exit status: " ++ textOf w)

def target (w : Bytes) : Action Int := do
  match w with
  | 0x25 :: _ =>
    let j ← job (some w)
    pure (-(j.pid : Int) - 1)
  | 0x2D :: rest => do pure (-((← natural rest : Nat) : Int))
  | w => do pure ((← natural w : Nat) : Int)

def killProcesses : Builtin := fun words => do
  match words with
  | [] => fail killUsage
  | w :: rest =>
    let (number, list, targets) ←
      if w.head? ≠ some 0x2D then pure (none, false, words)
      else
        match signal? 1 (w.drop 1) with
        | some n => pure (some n, false, rest)
        | none => do
          let (given, words) ← options "l" "s" (words.length + 1) words
          let mut number := none
          for (c, value) in given do
            if c = 's' then
              match signal? 1 value with
              | some n => number := some n
              | none => fail ("invalid signal number or name: " ++ textOf value)
          pure (number, given.any (·.1 == 'l'), words)
    if list then
      if number.isSome then fail killUsage
      showSignals targets
    else
      if targets.isEmpty then fail killUsage
      let mut status := 0
      for w in targets do
        if !(← send (number.getD 15) (← target w)) then
          complain "No such process\n"
          status := 1
      pure status

end CallChart.Shell.Builtin
