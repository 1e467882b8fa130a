import CallChart.Shell.Pattern
import CallChart.Shell.Tool.Copy
import CallChart.Shell.Tool.Naming

namespace CallChart.Shell.Tool

open CallChart.Shell.Action

namespace Repeats

inductive Setting where
  | none
  | prepend
  | append
  | separate
  | both
  deriving DecidableEq

structure Wanted where
  skippedFields : Nat
  skippedBytes : Nat
  compared : Option Nat
  fold : Bool
  counts : Bool
  unique : Bool
  first : Bool
  later : Bool
  ending : UInt8

def Wanted.part (w : Wanted) (line : Bytes) : Bytes :=
  let blank (b : UInt8) : Bool := ByteClass.isBlank b || b == 0x0A
  let rec skip : Nat → Bytes → Bytes
    | 0, bs => bs
    | n + 1, bs => if bs.isEmpty then [] else skip n ((bs.dropWhile blank).dropWhile (!blank ·))
  let bs := (skip w.skippedFields line).drop w.skippedBytes
  let bs := match w.compared with
    | some n => bs.take n
    | none => bs
  if w.fold then bs.map Order.upperByte else bs

def Wanted.alike (w : Wanted) (a b : Bytes) : Bool := w.part a == w.part b

def Wanted.runs (w : Wanted) (lines : List Bytes) : List (List Bytes) :=
  lines.foldr (fun line (runs : List (List Bytes)) =>
    match runs with
    | (next :: more) :: rest =>
      if w.alike line next then (line :: next :: more) :: rest else [line] :: runs
    | runs => [line] :: runs) []

def grouped (w : Wanted) (setting : Setting) (runs : List (List Bytes)) : Bytes :=
  let between : Bytes := if setting = .none then [] else [w.ending]
  let before : Bytes := if setting = .prepend ∨ setting = .both then between else []
  let after : Bytes := if setting = .append ∨ setting = .both then between else []
  let bodies := runs.map fun run => unlinesBy w.ending run
  if runs.isEmpty then []
  else if setting = .append then List.intercalate between bodies ++ after
  else if setting = .separate then List.intercalate between bodies
  else (bodies.map (before ++ ·)).flatten ++ after

def chosen (w : Wanted) (setting : Setting) (runs : List (List Bytes)) : Bytes :=
  let step (s : Bool × List Bytes) (run : List Bytes) : Bool × List Bytes :=
    let count := run.length
    let row (wanted : Bool) (line : Bytes) : Bytes :=
      if !wanted then []
      else
        let lead := if w.counts then bytesOf (padLeft 7 (toString count) ++ " ") else []
        lead ++ line ++ [w.ending]
    match run with
    | [] => s
    | [line] => (s.1, row w.unique line :: s.2)
    | line :: more =>
      let apart : Bytes :=
        if setting = .prepend ∨ (setting = .separate ∧ s.1) then [w.ending] else []
      (true, (apart ++ row w.first line ++
        (if w.later then more.flatMap (row true) else [])) :: s.2)
  ((runs.foldl step (false, [])).2.reverse).flatten

def known : Known := ⟨"cdDiuz0123456789", "fsw", [("all-repeated?", 'D'), ("check-chars=", 'w'),
  ("count", 'c'), ("group?", '\x02'), ("ignore-case", 'i'), ("repeated", 'd'),
  ("skip-chars=", 's'), ("skip-fields=", 'f'), ("unique", 'u'), ("zero-terminated", 'z')]⟩

def count? (w : Bytes) : Option Nat :=
  match countOf "" w with
  | .ok n => some n
  | .error .tooLarge => some countLimit
  | .error _ => none

def withNewOptions (words : List Bytes) : List Bytes :=
  words.map fun w =>
    match w with
    | 0x2B :: d :: ds => if (d :: ds).all ByteClass.isDigit then bytesOf "-s" ++ d :: ds else w
    | w => w

end Repeats

def uniq : Tool := fun name words =>
  withOptions Repeats.known 1 (fun name g => do
    let groups := ["prepend", "append", "separate", "both"]
    let repeats := ["none", "prepend", "separate"]
    let wrong (c : Char) (what : String) : Option String :=
      ((g.values c).find? fun w => (Repeats.count? w).isNone).map fun w =>
        textOf w ++ ": invalid number of " ++ what
    let fault := wrong 'f' "fields to skip" <|> wrong 's' "bytes to skip" <|>
      wrong 'w' "bytes to compare"
    let others := ['c', 'd', 'D', 'u'].any g.has
    match (g.values 'D').find? fun w => !w.isEmpty && (choice? repeats w).isNone,
        (g.values '\x02').find? fun w => !w.isEmpty && (choice? groups w).isNone, fault with
    | some w, _, _ => wrongChoice name "--all-repeated" repeats w 1
    | none, some w, _ => wrongChoice name "--group" groups w 1
    | none, none, some message => do
      say name message
      pure 1
    | none, none, none =>
      if g.has '\x02' ∧ others then misuse name "--group is mutually exclusive with -c/-d/-D/-u" 1
      else if g.has 'D' ∧ g.has 'c' then
        misuse name "printing all duplicated lines and repeat counts is meaningless" 1
      else if 2 < g.operands.length then extraOperand name (g.operands.getD 2 [])
      else
        let digits := (g.options.map (·.1)).filter Char.isDigit
        let number (c : Char) : Option Nat := (g.value? c).bind Repeats.count?
        let old := if digits.isEmpty then none else digits? (Utf8.encodeChars digits)
        let w : Repeats.Wanted := ⟨((number 'f') <|> old).getD 0, (number 's').getD 0, number 'w',
          g.has 'i', g.has 'c', !(g.has 'd' || g.has 'D'), !g.has 'u', g.has 'D',
          if g.has 'z' then 0 else 0x0A⟩
        let setting (w : Option Bytes) (usual : Repeats.Setting) (all : List String) :
            Repeats.Setting :=
          match w.bind (choice? all) with
          | some "prepend" => .prepend
          | some "append" => .append
          | some "separate" => .separate
          | some "both" => .both
          | some _ => .none
          | none => usual
        let input := g.operands.headD [0x2D]
        let source ← if input = [0x2D] then opened name input
          else
            match ← openInput (textOf input) with
            | .ok id => pure (some id)
            | .error fault => do
              sayOf name input fault.reason
              pure none
        match source with
        | none => pure 1
        | some id =>
          let target ← match (g.operands[1]?).filter (· ≠ [0x2D]) with
            | none => pure (some none)
            | some path =>
              match ← openOutput (textOf path) .empty with
              | .ok id => pure (some (some id))
              | .error fault => do
                sayOf name path fault.reason
                pure none
          match target with
          | none => pure 1
          | some target =>
            match (← getWorld).unreadable? id with
            | some fault =>
              say name ("error reading " ++ quoted input ++ ": " ++ fault.reason)
              pure 1
            | none =>
              let (bytes, ended) ← readReady id
              let runs := w.runs (linesBy w.ending bytes)
              let shown := if g.has '\x02' then
                  Repeats.grouped w (setting (g.value? '\x02') .separate groups) runs
                else Repeats.chosen w (setting (g.value? 'D') .none repeats) runs
              match target with
              | none => output shown
              | some id => let _ ← writeStream id shown
              if ended then pure 0 else endless) name (Repeats.withNewOptions words)

end CallChart.Shell.Tool
