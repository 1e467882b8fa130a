import CallChart.Shell.Pattern
import CallChart.Shell.Tool.Basic

namespace CallChart.Shell.Tool

open CallChart.Shell.Action

structure Counts where
  lines : Nat
  words : Nat
  bytes : Nat
  longest : Nat

namespace Counts

def zero : Counts := ⟨0, 0, 0, 0⟩

def add (a b : Counts) : Counts :=
  ⟨a.lines + b.lines, a.words + b.words, a.bytes + b.bytes, max a.longest b.longest⟩

structure Scan where
  counts : Counts
  column : Nat
  inside : Bool

def Scan.next (s : Scan) (b : UInt8) : Scan :=
  let c := { s.counts with bytes := s.counts.bytes + 1, longest := max s.counts.longest s.column }
  if b = 0x0A then ⟨{ c with lines := c.lines + 1 }, 0, false⟩
  else if b = 0x0D ∨ b = 0x0C then ⟨c, 0, false⟩
  else if b = 0x09 then ⟨c, s.column + 8 - s.column % 8, false⟩
  else if b = 0x20 then ⟨c, s.column + 1, false⟩
  else if b = 0x0B then ⟨c, s.column, false⟩
  else if isPrintable b then
    ⟨{ c with words := c.words + if s.inside then 0 else 1 }, s.column + 1, true⟩
  else ⟨c, s.column, s.inside⟩

def ofBytes (bs : Bytes) : Counts :=
  let s := bs.foldl Scan.next ⟨zero, 0, false⟩
  { s.counts with longest := max s.counts.longest s.column }

end Counts

def namesIn (name : String) (file : Bytes) : Action (Option (List Bytes)) := do
  if file = [0x2D] then contents name file
    >>= fun bytes => pure (bytes.map (linesBy 0))
  else
    match ← openInput (textOf file) with
    | .error fault =>
      say name ("cannot open " ++ quoted file ++ " for reading: " ++ fault.reason)
      pure none
    | .ok id =>
      match (← getWorld).unreadable? id with
      | some fault =>
        say name (named file ++ ": read error: " ++ fault.reason)
        pure none
      | none => pure (some (linesBy 0 (← readStream id)))

inductive Counted where
  | operand (w : Bytes)
  | nameless (place : String)

def wc : Tool := withOptions
    ⟨"lwcmL", "", [("bytes", 'c'), ("chars", 'm'), ("lines", 'l'), ("words", 'w'),
      ("max-line-length", 'L'), ("files0-from=", 'F')]⟩ 1 fun name g => do
  let all := !(['l', 'w', 'c', 'm', 'L'].any g.has)
  let columns (c : Counts) : List Nat :=
    (if all ∨ g.has 'l' then [c.lines] else []) ++ (if all ∨ g.has 'w' then [c.words] else []) ++
      (if g.has 'm' then [c.bytes] else []) ++ (if all ∨ g.has 'c' then [c.bytes] else []) ++
      (if g.has 'L' then [c.longest] else [])
  let listed ← match g.value? 'F', g.operands with
    | none, operands => pure (Except.ok (operands.map fun w =>
        if w.isEmpty then Counted.nameless "" else .operand w))
    | some _, w :: _ => do
      say name ("extra operand " ++ quoted w)
      writeText 2 "file operands cannot be combined with --files0-from\n"
      sayTry name
      pure (.error 1)
    | some file, [] => do
      match ← namesIn name file with
      | none => pure (.error 1)
      | some names => pure (.ok (names.zipIdx.map fun (w, i) =>
          if w.isEmpty then Counted.nameless (named file ++ ":" ++ toString (i + 1) ++ ": ")
          else .operand w))
  match listed with
  | .error status => pure status
  | .ok operands =>
    let standard := operands.isEmpty ∧ !g.has 'F'
    let operands := if standard then [.operand [0x2D]] else operands
    let sizes ← operands.filterMapM fun
      | .nameless _ => pure none
      | .operand w => do
        if w = [0x2D] then
          match ← streamOf 0 with
          | none => pure none
          | some id =>
            let world ← getWorld
            match world.stream id with
            | .file node .. => pure (some (some (world.nodeBytes node).length))
            | _ => pure (some none)
        else
          match ← node? (textOf w) with
          | none => pure none
          | some n => pure (some (if n.isFile then some n.size else none))
    let digits := (toString ((sizes.filterMap id).foldl (· + ·) 0)).length
    let alone := operands.length = 1 ∧ (columns .zero).length = 1
    let width := if alone ∨ (g.value? 'F') = some [0x2D] then 1
      else if sizes.any Option.isNone then max digits 7 else digits
    let row (c : Counts) (label : Bytes) : Bytes :=
      bytesOf (" ".intercalate ((columns c).map fun n => padLeft width (toString n))) ++
        (if label.isEmpty then [] else 0x20 :: label) ++ [0x0A]
    let mut total : Counts := .zero
    let mut whole := true
    for counted in operands do
      match counted with
      | .nameless place =>
        say name (place ++ "invalid zero-length file name")
        whole := false
      | .operand w =>
        let closed : Bool := w = [0x2D] ∧ (← streamOf 0).isNone
        match ← if closed then pure none else opened name w with
        | none =>
          whole := false
          if closed then
            say name ((if standard then "'standard input'" else "-") ++ ": Bad file descriptor")
            output (row .zero (if standard then [] else w))
            say name "-: Bad file descriptor"
        | some id =>
          let c ← match ← drained name w id with
            | some bytes => pure (Counts.ofBytes bytes)
            | none => do
              whole := false
              pure .zero
          total := total.add c
          output (row c (if standard then [] else w))
    if 1 < operands.length then output (row total (bytesOf "total"))
    pure (statusOf whole)

end CallChart.Shell.Tool
