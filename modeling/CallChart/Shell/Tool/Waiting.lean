import CallChart.Shell.Tool.Amount
import CallChart.Shell.Tool.Basic

namespace CallChart.Shell.Tool

open CallChart.Shell.Action

def secondsOf? (unit : Bytes) : Option Nat :=
  match textOf unit with
  | "" => some 1
  | "s" => some 1
  | "m" => some 60
  | "h" => some 3600
  | "d" => some 86400
  | _ => none

def duration? (w : Bytes) : Option (Option Nat) :=
  (Amount.read? w).bind fun (amount, rest) =>
    (secondsOf? rest).bind fun factor =>
      match amount with
      | .infinite false => some none
      | .exact negative num den =>
        if negative ∧ 0 < num then none
        else some (some ((num * factor * 1000 + den - 1) / den))
      | _ => none

def sleep : Tool := withLeadingOptions ⟨"", "", []⟩ 1 fun name g => do
  if g.operands.isEmpty then misuse name "missing operand" 1
  else
    let wrong := g.operands.filter fun w => (duration? w).isNone
    if !wrong.isEmpty then
      for w in wrong do
        say name ("invalid time interval " ++ quote w)
      sayTry name
      pure 1
    else
      let times := g.operands.filterMap duration?
      if times.any Option.isNone then endless
      pass ((times.filterMap (fun x => x)).foldl (· + ·) 0)
      pure 0

def yes : Tool := withLeadingOptions ⟨"", "", []⟩ 1 fun name g => do
  let line := (if g.operands.isEmpty then [0x79] else List.intercalate [0x20] g.operands) ++ [0x0A]
  output (List.replicate (endlessLength / line.length + 1) line).flatten
  flush
  match (← get).unwritten with
  | some fault =>
    modify fun s => { s with unwritten := none }
    say name ("standard output: " ++ fault)
    pure 1
  | none => endless

def signalOf? (w : Bytes) : Option Nat :=
  let name := (textOf w).toList.map Char.toUpper
  let name := if ['S', 'I', 'G'].isPrefixOf name then name.drop 3 else name
  match digits? w with
  | some n => if n < Signal.count then some n else none
  | none =>
    match Builtin.signal? 0 (bytesOf (String.ofList name)) with
    | some n => some n
    | none => (Signal.names.find? fun s => s.2.toList == name).map (·.1)

structure Deadline where
  time : Nat
  signal : Nat
  kill : Option Nat
  alone : Bool

def Deadline.signals (d : Deadline) (process : Nat) : List Sent :=
  ⟨process, d.signal, d.time, !d.alone⟩ ::
    (d.kill.map fun time => (⟨process, 9, time, !d.alone⟩ : Sent)).toList

def runUntil (perform : Perform) (d : Option Deadline) (path : String) (command : List Bytes) :
    Action Ending := do
  let process := (← getWorld).pid
  let coming := (d.map fun d => d.signals process).getD []
  modifyWorld fun w => { w with signals := coming ++ w.signals }
  let e ← waited perform path command
  modifyWorld fun w => { w with signals := w.signals.filter (!coming.contains ·) }
  pure e

def timeout (perform : Perform) : Tool := fun name words => do
  let known : Known := ⟨"fv", "ks", [("foreground", 'f'), ("kill-after=", 'k'),
    ("preserve-status", 'p'), ("signal=", 's'), ("verbose", 'v')]⟩
  withLeadingOptions known 125 (fun name g => do
    let wrongTime (w : Bytes) : Action Nat :=
      misuse name ("invalid time interval " ++ quote w) 125
    match (g.values 'k').find? fun w => (duration? w).isNone, (g.value? 's').map signalOf? with
    | some w, _ => wrongTime w
    | none, some none => misuse name (quote ((g.value? 's').getD []) ++ ": invalid signal") 125
    | none, signal =>
      match g.operands with
      | time :: command =>
        if command.isEmpty then
          sayTry name
          pure 125
        else
          match duration? time with
          | none => wrongTime time
          | some time =>
            let start := (← getWorld).elapsed
            let signal := (signal.bind (fun x => x)).getD 15
            let later (base : Nat) (t : Option Nat) : Option Nat :=
              t.bind fun n => if n = 0 then none else some (base + n)
            let kill := (g.value? 'k').bind fun w => (duration? w).getD none
            let d : Option Deadline := (later start time).map fun stop =>
              ⟨stop, signal, later stop kill, g.has 'f'⟩
            match ← located command with
            | .error fault =>
              sayFailedRun name command fault
              pure (unstartedStatus fault)
            | .ok path =>
              let e ← runUntil perform d path command
              let now := (← getWorld).elapsed
              let isOver (t : Option Nat) : Bool := t.any (· ≤ now)
              let late := isOver (d.map (·.time))
              let killed := isOver (d.bind (·.kill))
              let shows (n : Nat) : Action Unit :=
                say name ("sending signal " ++ Signal.shellName n ++ " to command " ++
                  quote (command.headD []))
              if g.has 'v' ∧ late then
                shows signal
                if killed then shows 9
              let forced := late && (killed || signal = 9)
              if forced ∧ !g.has 'f' then throw (.killed 9)
              else
                match e with
                | .signal n =>
                  if late then pure (if g.has 'p' ∨ n = 9 then 128 + n else 124)
                  else throw (.killed n)
                | .status n => pure (if late ∧ !g.has 'p' then 124 else n)
      | [] =>
        sayTry name
        pure 125) name words

end CallChart.Shell.Tool
