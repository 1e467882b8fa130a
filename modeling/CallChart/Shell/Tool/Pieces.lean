import CallChart.Shell.Format
import CallChart.Shell.Regex
import CallChart.Shell.Tool.Basic
import CallChart.Shell.Tool.Columns

namespace CallChart.Shell.Tool

open CallChart.Shell.Action

namespace Splitting

inductive Manner where
  | lines (count : Nat)
  | bytes (count : Nat)
  | lineBytes (count : Nat)
  | chunks (count : Nat) (only : Option Nat)
  | lineChunks (count : Nat) (only : Option Nat)
  | turns (count : Nat) (only : Option Nat)

def records (ending : UInt8) (bs : Bytes) : List Bytes :=
  let (last, rest) := bs.foldr (fun b (s : Bytes × List Bytes) =>
    if b = ending then ([b], if s.1.isEmpty then s.2 else s.1 :: s.2) else (b :: s.1, s.2))
    (([] : Bytes), ([] : List Bytes))
  if last.isEmpty then rest else last :: rest

def inGroups {α : Type} (size : Nat) : Nat → List α → List (List α)
  | 0, _ => []
  | _, [] => []
  | fuel + 1, items => items.take size :: inGroups size fuel (items.drop size)

def fitting (size : Nat) : Nat → Bytes → List Bytes → List Bytes
  | 0, _, _ => []
  | _, held, [] => if held.isEmpty then [] else [held]
  | fuel + 1, held, r :: rest =>
    if held.length + r.length ≤ size then fitting size fuel (held ++ r) rest
    else if !held.isEmpty then held :: fitting size fuel [] (r :: rest)
    else
      r.take size :: fitting size fuel [] (r.drop size :: rest)

def chunkStart (total count i : Nat) : Nat :=
  i * (total / count) + min i (total % count)

def pieces (m : Manner) (ending : UInt8) (bs : Bytes) : List Bytes :=
  match m with
  | .lines n => (inGroups n (bs.length + 1) (records ending bs)).map List.flatten
  | .bytes n => inGroups n (bs.length + 1) bs
  | .lineBytes n => fitting n (2 * bs.length + 2) [] (records ending bs)
  | .chunks n _ => (List.range n).map fun i =>
      let start := chunkStart bs.length n i
      (bs.drop start).take (chunkStart bs.length n (i + 1) - start)
  | .lineChunks n _ =>
    let rs := records ending bs
    let starts := (rs.foldl (fun (s : Nat × List (Nat × Bytes)) r =>
      (s.1 + r.length, (s.1, r) :: s.2)) (0, [])).2.reverse
    (List.range n).map fun i =>
      let low := chunkStart bs.length n i
      let high := chunkStart bs.length n (i + 1)
      ((starts.filter fun (place, _) => low ≤ place ∧ place < high).map (·.2)).flatten
  | .turns n _ =>
    let rs := (records ending bs).zipIdx
    (List.range n).map fun i => ((rs.filter fun (_, k) => k % n = i).map (·.1)).flatten

def Manner.only? : Manner → Option Nat
  | .chunks _ only => only
  | .lineChunks _ only => only
  | .turns _ only => only
  | _ => none

def suffix (alphabet : String) (width n : Nat) : String :=
  let letters := alphabet.toList
  let base := letters.length
  String.ofList ((List.range width).reverse.map fun i =>
    (letters[n / Nat.pow base i % base]?).getD ' ')

def ending? (alphabet : String) (width : Option Nat) (n : Nat) : Option String :=
  let base := alphabet.length
  match width with
  | some w => if n < Nat.pow base w then some (suffix alphabet w n) else none
  | none =>
    let last := (alphabet.toList.getLast?).getD ' '
    let short := (base - 1) * base
    if n < short then some (suffix alphabet 2 n)
    else
      let n := n - short
      let longer := (base - 1) * Nat.pow base 2
      if n < longer then some (last.toString ++ suffix alphabet 3 n)
      else some (last.toString ++ last.toString ++ suffix alphabet 4 (n - longer))

def readChunks (w : Bytes) : Except String Manner :=
  let parts := splitBytes 0x2F w
  let (kind, parts) : Option Char × List Bytes := match parts with
    | [0x6C] :: rest => (some 'l', rest)
    | [0x72] :: rest => (some 'r', rest)
    | parts => (none, parts)
  let number (what : String) (w : Bytes) : Except String Nat :=
    match countOf "" w with
    | .ok 0 => .error ("invalid " ++ what ++ ": " ++ quote w)
    | .ok n => .ok n
    | .error _ => .error ("invalid " ++ what ++ ": " ++ quote w)
  let make (n : Nat) (only : Option Nat) : Manner :=
    match kind with
    | some 'l' => .lineChunks n only
    | some _ => .turns n only
    | none => .chunks n only
  match parts with
  | [n] => (number "number of chunks" n).map (make · none)
  | [k, n] => do
    let count ← number "number of chunks" n
    let only ← number "chunk number" k
    if count < only then throw ("invalid chunk number: " ++ quote k)
    pure (make count (some only))
  | _ => .error ("invalid number of chunks: " ++ quote w)

def mannerOf (g : Given) : Except String Manner := do
  let size (c : Char) (what : String) (w : Bytes) : Except String Nat :=
    match countOf sizeLetters w with
    | .ok 0 => .error ("invalid number of " ++ what ++ ": " ++ quote w)
    | .ok n => .ok n
    | .error fault =>
      let _ := c
      .error ("invalid number of " ++ what ++ ": " ++ quote w ++
        if fault = .tooLarge then ": Value too large for defined data type" else "")
  let digits := (g.options.map (·.1)).filter Char.isDigit
  let kinds := (g.options.map (·.1)).filter ['b', 'C', 'l', 'n'].contains
  let kinds := if digits.isEmpty then kinds else '0' :: kinds
  if 1 < kinds.length then throw "cannot split in more than one way"
  match kinds with
  | ['b'] => (size 'b' "bytes" ((g.value? 'b').getD [])).map .bytes
  | ['C'] => (size 'C' "bytes" ((g.value? 'C').getD [])).map .lineBytes
  | ['l'] => (size 'l' "lines" ((g.value? 'l').getD [])).map .lines
  | ['n'] => readChunks ((g.value? 'n').getD [])
  | ['0'] => (size 'l' "lines" (Utf8.encodeChars digits)).map .lines
  | _ => pure (.lines 1000)

def feed (perform : Perform) (name : String) (command : Bytes) (path : String) (piece : Bytes) :
    Action (Option Nat) := do
  let shell := (← valueOf? "SHELL").getD (bytesOf "/bin/sh")
  putVariable "FILE" (some ⟨some (bytesOf path), true, false⟩)
  let ready := (← getWorld).elapsed
  let before ← streamOf 0
  connect 0 (some (← openStream (.input piece ready true)))
  let words := [(splitBytes 0x2F shell).getLastD shell, bytesOf "-c", command]
  let e ← waited perform (textOf shell) words
  connect 0 before
  let about := "with FILE=" ++ named (bytesOf path) ++ ", "
  match e with
  | .status 0 => pure none
  | .status n =>
    say name (about ++ "exit " ++ toString n ++ " from command: " ++ textOf command)
    pure (some n)
  | .signal n =>
    if n = 13 then pure none
    else
      let signal := (Signal.names.lookup n).getD (toString n)
      say name (about ++ "signal " ++ signal ++ " from command: " ++ textOf command)
      pure (some (n + 128))

end Splitting

def split (perform : Perform) : Tool := withOptions
    ⟨"deux0123456789", "abClnt", [("additional-suffix=", '\x02'), ("bytes=", 'b'),
    ("elide-empty-files", 'e'), ("filter=", '\x03'), ("hex-suffixes?", 'x'),
    ("line-bytes=", 'C'), ("lines=", 'l'), ("number=", 'n'), ("numeric-suffixes?", 'd'),
    ("separator=", 't'), ("suffix-length=", 'a'), ("unbuffered", 'u'), ("verbose", '\x04')]⟩ 1
    fun name g => do
  let width := (g.value? 'a').map (countOf "")
  let separator : Except String UInt8 := match g.value? 't' with
    | none => .ok 0x0A
    | some [] => .error "empty record separator"
    | some [b] => .ok b
    | some [0x5C, 0x30] => .ok 0
    | some w => .error ("multi-character separator " ++ quote w)
  match g.operands, Splitting.mannerOf g, width, separator with
  | _, .error "cannot split in more than one way", _, _ =>
    misuse name "cannot split in more than one way" 1
  | _, .error message, _, _ =>
    say name message
    pure 1
  | _, _, some (.error _), _ =>
    say name ("invalid suffix length: " ++ quote ((g.value? 'a').getD []))
    pure 1
  | _, _, _, .error message =>
    say name message
    pure 1
  | _ :: _ :: w :: _, _, _, _ => extraOperand name w
  | operands, .ok manner, width, .ok separator =>
    let operand := operands.headD [0x2D]
    let source ← if operand = [0x2D] then opened name operand
      else
        match ← openInput (textOf operand) with
        | .ok id => pure (some id)
        | .error fault => do
          say name ("cannot open " ++ quoted operand ++ " for reading: " ++ fault.reason)
          pure none
    match source with
    | none => pure 1
    | some id =>
      match (← getWorld).unreadable? id with
      | some fault =>
        say name (named operand ++ ": " ++ fault.reason)
        pure 1
      | none =>
        let pieces := Splitting.pieces manner separator (← readStream id)
        match manner.only? with
        | some k =>
          if g.has '\x03' then
            misuse name "--filter does not process a chunk extracted to stdout" 1
          else
            output ((pieces[k - 1]?).getD [])
            pure 0
        | none =>
          let kind := g.last? ['d', 'x']
          let alphabet := match kind with
            | some 'd' => "0123456789"
            | some _ => "0123456789abcdef"
            | none => "abcdefghijklmnopqrstuvwxyz"
          let start := match kind.bind g.value? with
            | some w => (digits? w).getD 0
            | none => 0
          let given := match width.bind (·.toOption) with
            | some 0 => none
            | w => w
          let counted : Option Nat := match manner with
            | .chunks n _ => some n
            | .lineChunks n _ => some n
            | .turns n _ => some n
            | _ => none
          let needed (n : Nat) : Nat :=
            ((List.range 20).find? fun w => n ≤ Nat.pow alphabet.length w).getD 20
          let width := match given, counted with
            | some w, _ => some w
            | none, some n => some (max 2 (needed (n + start)))
            | none, none => if start = 0 then none else some 2
          let first := operands.getD 1 (bytesOf "x")
          let pieces := if g.has 'e' then pieces.filter (!·.isEmpty) else pieces
          let mut failure : Option Nat := none
          for (piece, i) in pieces.zipIdx do
            if failure.isNone then
              match Splitting.ending? alphabet width (i + start) with
              | none =>
                say name "output file suffixes exhausted"
                failure := some 1
              | some suffix =>
                let path := textOf first ++ suffix ++ textOf ((g.value? '\x02').getD [])
                match g.value? '\x03' with
                | some command =>
                  if g.has '\x04' then
                    putLine ("executing with FILE=" ++ named (bytesOf path))
                  failure ← Splitting.feed perform name command path piece
                | none =>
                  if g.has '\x04' then putLine ("creating file " ++ quotedText path)
                  match ← openOutput path .empty with
                  | .ok id => let _ ← writeStream id piece
                  | .error fault =>
                    say name (named (bytesOf path) ++ ": " ++ fault.reason)
                    failure := some 1
          pure (failure.getD 0)

namespace Cutting

inductive Place where
  | line (n : Nat)
  | hit (r : Regex) (offset : Int) (skips : Bool)

structure Step where
  text : Bytes
  place : Place
  more : Option Nat

def readPlace (w : Bytes) : Except String Place :=
  match w with
  | d :: rest =>
    if d = 0x2F ∨ d = 0x25 then
      let body := rest.reverse.dropWhile (· ≠ d)
      if body.isEmpty then .error (textOf w ++ ": closing delimiter '" ++ textOf [d] ++ "' missing")
      else
        let text := (body.drop 1).reverse
        let behind := rest.drop (text.length + 1)
        let (negative, ds) := match behind with
          | 0x2D :: ds => (true, ds)
          | 0x2B :: ds => (false, ds)
          | ds => (false, ds)
        let offset : Except String Nat := if behind.isEmpty then .ok 0
          else
            match digits? ds with
            | some n => .ok n
            | none => .error (textOf w ++ ": integer expected after delimiter")
        match Regex.read .basic text, offset with
        | .error message, _ => .error (textOf w ++ ": invalid regular expression: " ++ message)
        | _, .error message => .error message
        | .ok e, .ok n => .ok (.hit e.regex (if negative then -(n : Int) else n) (d = 0x25))
    else
      match digits? w with
      | some 0 => .error (textOf w ++ ": line number must be greater than zero")
      | some n => .ok (.line n)
      | none => .error (quote w ++ ": invalid pattern")
  | [] => .error ("'': invalid pattern")

def readSteps : Nat → List Bytes → Except String (List Step)
  | 0, _ => .ok []
  | _, [] => .ok []
  | fuel + 1, w :: rest => do
    let place ← readPlace w
    let (more, rest) : Option Nat × List Bytes ← match rest with
      | (0x7B :: body) :: rest' =>
        match body.getLast? with
        | some 0x7D =>
          if body = [0x2A, 0x7D] then pure (none, rest')
          else
            match digits? body.dropLast with
            | some n => pure (some n, rest')
            | none => throw (textOf (0x7B :: body) ++
                "\x7d: integer required between '\x7b' and '\x7d'")
        | _ => throw (textOf (0x7B :: body) ++ ": '\x7d' is required in repeat count")
      | rest => pure (some 0, rest)
    pure (⟨w, place, more⟩ :: (← readSteps fuel rest))

structure State where
  lines : List Bytes
  number : Nat
  pieces : List (List Bytes)
  fault : Option String

def Step.run (s : Step) (again : Nat) (st : State) : Option State :=
  let repeated := if again = 0 then "" else " on repetition " ++ toString again
  match s.place with
  | .line n =>
    let n := n * (again + 1)
    if n < st.number ∨ st.number + st.lines.length < n ∨
        (st.lines.length + st.number = n ∧ st.lines.isEmpty) then
      some { st with fault := some (quote s.text ++ ": line number out of range" ++ repeated) }
    else
      let count := n - st.number
      some { st with
        lines := st.lines.drop count, number := n, pieces := st.lines.take count :: st.pieces }
  | .hit r offset skips =>
    let start := if again = 0 ∧ st.number = 1 ∧ st.pieces.isEmpty then 0 else 1
    let start := if st.pieces.isEmpty ∧ again = 0 then 0 else start
    let hit := (st.lines.drop start).findIdx? fun line =>
      (r.find? ⟨line.toArray, false, false⟩ 0).isSome
    match hit with
    | none =>
      if s.more.isNone then none
      else some { st with fault := some (quote s.text ++ ": match not found" ++ repeated) }
    | some i =>
      let count : Int := (i + start : Nat) + offset
      if count < 0 ∨ (st.lines.length : Int) < count then
        some { st with fault := some (quote s.text ++ ": line number out of range" ++ repeated) }
      else
        let count := count.toNat
        some { st with
          lines := st.lines.drop count, number := st.number + count
          pieces := if skips then st.pieces else st.lines.take count :: st.pieces }

def Step.runAll (s : Step) : Nat → Nat → State → State
  | 0, _, st => st
  | fuel + 1, again, st =>
    let wanted : Bool := match s.more with
      | none => true
      | some n => again ≤ n
    if !wanted ∨ st.fault.isSome then st
    else
      match s.run again st with
      | none => st
      | some st => s.runAll fuel (again + 1) st

end Cutting

def csplit : Tool := withOptions ⟨"ksqz", "bfn", [("digits=", 'n'), ("elide-empty-files", 'z'),
    ("keep-files", 'k'), ("prefix=", 'f'), ("quiet", 's'), ("silent", 's'), ("suffix-format=", 'b'),
    ("suppress-matched", '\x02')]⟩ 1 fun name g => do
  match g.operands with
  | [] => missingOperand name "operand"
  | [w] => misuse name ("missing operand after " ++ quote w) 1
  | file :: patterns =>
    match Cutting.readSteps (patterns.length + 1) patterns with
    | .error message =>
      say name message
      pure 1
    | .ok steps =>
      let source ← if file = [0x2D] then opened name file
        else
          match ← openInput (textOf file) with
          | .ok id => pure (some id)
          | .error fault => do
            say name ("cannot open " ++ quoted file ++ " for reading: " ++ fault.reason)
            pure none
      match source with
      | none => pure 1
      | some id =>
        let lines := Splitting.records 0x0A (← readStream id)
        let s := steps.foldl (fun st (s : Cutting.Step) => s.runAll (lines.length + 2) 0 st)
          ⟨lines, 1, [], none⟩
        let all := (s.lines :: s.pieces).reverse.map List.flatten
        let all := if g.has 'z' then all.filter (!·.isEmpty) else all
        let prefix' := textOf ((g.value? 'f').getD (bytesOf "xx"))
        let digits := (((g.value? 'n').bind digits?)).getD 2
        match s.fault with
        | some message => say name message
        | none => pure ()
        for (piece, i) in all.zipIdx do
          if !g.has 's' ∧ !g.has 'q' then putLine (toString piece.length)
          let suffix := match g.value? 'b' with
            | some format => textOf (Format.print format [bytesOf (toString i)]).1
            | none => textOf (Format.digitBytes 10 false (some digits) i)
          match ← openOutput (prefix' ++ suffix) .empty with
          | .error fault => say name (prefix' ++ suffix ++ ": " ++ fault.reason)
          | .ok id =>
            let _ ← writeStream id piece
            if s.fault.isSome ∧ !g.has 'k' then
              match ← entryAt (prefix' ++ suffix) with
              | .ok (p, some _) => removeName p
              | _ => pure ()
        pure (if s.fault.isSome then 1 else 0)

namespace Blocks

def names : List String :=
  ["if", "of", "ibs", "obs", "bs", "cbs", "skip", "iseek", "seek", "oseek", "count", "conv",
    "iflag", "oflag", "status"]

def conversions : List String :=
  ["ascii", "ebcdic", "ibm", "block", "unblock", "lcase", "ucase", "sparse", "swab", "noerror",
    "nocreat", "excl", "notrunc", "sync", "fdatasync", "fsync"]

def flags : List String :=
  ["append", "binary", "cio", "direct", "directory", "dsync", "noatime", "nocache", "noctty",
    "nofollow", "nolinks", "nonblock", "sync", "text", "fullblock", "count_bytes", "skip_bytes",
    "seek_bytes"]

def number (w : Bytes) : Except String (Nat × Bool) :=
  let invalid : Except String (Nat × Bool) := .error ("invalid number: " ++ quote w)
  let text := textOf w
  let isBytes := text.toList.getLast? = some 'B' ∧
    ((text.toList.dropLast.getLast?).map Char.isDigit).getD false
  let text := if isBytes then String.ofList text.toList.dropLast else text
  let factors := (Text.split 'x' text).map fun part => countOf "bcEGkKMPTwYZ" (bytesOf part)
  match factors.mapM (·.toOption) with
  | some ns =>
    let n := ns.foldl (· * ·) 1
    if countLimit < n then
      .error ("invalid number: " ++ quote w ++ ": Value too large for defined data type")
    else .ok (n, isBytes)
  | none =>
    if factors.any fun f => match f with
        | .error .tooLarge => true
        | _ => false then
      .error ("invalid number: " ++ quote w ++ ": Value too large for defined data type")
    else invalid

def fault? (w : Bytes) : Option (String × Bool) :=
  let name := textOf (w.takeWhile (· ≠ 0x3D))
  let value := (w.dropWhile (· ≠ 0x3D)).drop 1
  let wrong (known : List String) : Option Bytes :=
    (splitBytes 0x2C value).find? fun v => !known.contains (textOf v)
  if !w.contains 0x3D ∨ !names.contains name then
    some ("unrecognized operand " ++ quote w, true)
  else
    match name with
    | "if" => none
    | "of" => none
    | "conv" => (wrong conversions).map fun v => ("invalid conversion: " ++ quote v, true)
    | "iflag" => (wrong flags).map fun v => ("invalid input flag: " ++ quote v, true)
    | "oflag" => (wrong flags).map fun v => ("invalid output flag: " ++ quote v, true)
    | "status" => if ["none", "noxfer", "progress"].contains (textOf value) then none
      else some ("invalid status level: " ++ quote value, true)
    | name =>
      match number value with
      | .error message => some (message, false)
      | .ok (0, _) => if ["ibs", "obs", "bs", "cbs"].contains name then
          some ("invalid number: " ++ quote value, false) else none
      | .ok _ => none

def swapped : Bytes → Bytes
  | a :: b :: rest => b :: a :: swapped rest
  | bs => bs

def blocked (size : Nat) (bs : Bytes) : Bytes × Nat :=
  let lines := linesOf bs
  ((lines.map fun line => line.take size ++ List.replicate (size - line.length) 0x20).flatten,
    (lines.filter fun line => size < line.length).length)

def unblocked (size : Nat) (bs : Bytes) : Bytes :=
  unlines ((Splitting.inGroups size (bs.length + 1) bs).map fun r =>
    (r.reverse.dropWhile (· = 0x20)).reverse)

def sizeText (n : Nat) : String :=
  let scaled (base : Nat) (units : List String) : Option String :=
    if n < base then none
    else
      let i := ((List.range 7).filter fun i => Nat.pow base (i + 1) ≤ n).length
      let unit := Nat.pow base i
      let tenths := Format.rounded (n * 10) unit
      let shown := if tenths < 100 then toString (tenths / 10) ++ "." ++ toString (tenths % 10)
        else toString (Format.rounded n unit)
      some (shown ++ " " ++ (units[i - 1]?).getD "" ++ "B")
  let plain := toString n ++ if n = 1 then " byte" else " bytes"
  match scaled 1000 ["k", "M", "G", "T", "P", "E"], scaled 1024 ["Ki", "Mi", "Gi", "Ti", "Pi"] with
  | some a, some b => plain ++ " (" ++ a ++ ", " ++ b ++ ")"
  | some a, none => plain ++ " (" ++ a ++ ")"
  | none, _ => plain

structure Job where
  source : Option Bytes
  target : Option Bytes
  inputSize : Nat
  outputSize : Nat
  recordSize : Nat
  skipped : Nat
  sought : Nat
  limit : Option Nat
  conversions : List String
  appends : Bool
  status : String

def Job.ofWords (words : List Bytes) : Job :=
  let value? (key : String) : Option Bytes :=
    words.reverse.findSome? fun w =>
      let start := bytesOf (key ++ "=")
      if start.isPrefixOf w then some (w.drop start.length) else none
  let number? (key : String) : Option (Nat × Bool) :=
    (value? key).bind fun w => (number w).toOption
  let size (key : String) : Option Nat := (number? key).map (·.1)
  let listed (key : String) : List String :=
    ((value? key).map fun w => (splitBytes 0x2C w).map textOf).getD []
  let inputSize := ((size "bs") <|> size "ibs").getD 512
  let outputSize := ((size "bs") <|> size "obs").getD 512
  let places (keys : List String) (unit : Nat) (flag : Bool) : Option Nat :=
    (keys.findSome? number?).map fun (n, isBytes) => if isBytes ∨ flag then n else n * unit
  let reads := listed "iflag"
  let writes := listed "oflag"
  ⟨value? "if", value? "of", inputSize, outputSize, (size "cbs").getD 0,
    (places ["skip", "iseek"] inputSize (reads.contains "skip_bytes")).getD 0,
    (places ["seek", "oseek"] outputSize (writes.contains "seek_bytes")).getD 0,
    places ["count"] inputSize (reads.contains "count_bytes"), listed "conv",
    writes.contains "append", ((value? "status").map textOf).getD ""⟩

def Job.has (j : Job) (conversion : String) : Bool := j.conversions.contains conversion

def Job.sourceName (j : Job) : Bytes := j.source.getD (bytesOf "standard input")

def Job.targetName (j : Job) : Bytes := j.target.getD (bytesOf "standard output")

def standardStream (channel : Nat) : Action (Except FileFault Nat) := do
  match ← streamOf channel with
  | some id => pure (.ok id)
  | none => pure (.error .badDescriptor)

def Job.openSource (j : Job) : Action (Except FileFault Nat) :=
  match j.source with
  | some path => openInput (textOf path)
  | none => standardStream 0

def Job.openTarget (j : Job) : Action (Except FileFault Nat) := do
  match j.target with
  | none => standardStream 1
  | some path =>
    let missing := (← node? (textOf path)).isNone
    if missing ∧ j.has "nocreat" then pure (.error .notFound)
    else if !missing ∧ j.has "excl" then pure (.error .present)
    else if j.appends then openOutput (textOf path) .append
    else if j.sought ≠ 0 ∨ j.has "notrunc" then openOutput (textOf path) .keep
    else openOutput (textOf path) .empty

/-- Goes over the first bytes of a file that is written to; what is behind them goes away unless it
is to be kept. -/
def Job.place (j : Job) (target : Nat) : Action Unit := do
  let w ← getWorld
  match w.stream target with
  | .file node offset append readable writable =>
    if 0 < j.sought then
      let start := offset + j.sought
      if !j.has "notrunc" ∧ j.target.isSome then
        let kept := (w.nodeBytes node).take start
        modifyWorld (·.setBytes node (kept ++ List.replicate (start - kept.length) 0))
      modifyWorld (·.setStream target (.file node start append readable writable))
  | _ => pure ()

def Job.changed (j : Job) (bytes : Bytes) : Bytes × Nat :=
  let part := bytes.length % j.inputSize
  let bytes := if j.has "sync" ∧ part ≠ 0 then
      bytes ++ List.replicate (j.inputSize - part)
        (if j.has "block" ∨ j.has "unblock" then 0x20 else 0)
    else bytes
  let bytes := if j.has "swab" then swapped bytes else bytes
  let bytes := if j.has "ucase" then bytes.map Regex.upper
    else if j.has "lcase" then bytes.map Regex.lower else bytes
  if j.recordSize = 0 then (bytes, 0)
  else if j.has "block" then blocked j.recordSize bytes
  else if j.has "unblock" then (unblocked j.recordSize bytes, 0)
  else (bytes, 0)

def recordText (size length : Nat) : String :=
  toString (length / size) ++ "+" ++ if length % size = 0 then "0" else "1"

def Job.report (j : Job) (read written : String) (truncated length : Nat) : Action Unit := do
  if j.status ≠ "none" then
    writeText 2 (read ++ " records in\n" ++ written ++ " records out\n")
    if 0 < truncated then
      writeText 2 (toString truncated ++ " truncated record" ++
        (if truncated = 1 then "" else "s") ++ "\n")
    if j.status ≠ "noxfer" then
      writeText 2 (sizeText length ++ " copied, 1e-05 s, " ++ toString length ++ " B/s\n")

def Job.run (j : Job) (name : String) (source target : Nat) : Action Nat := do
  match (← getWorld).unreadable? source with
  | some f =>
    say name ("error reading " ++ quoted j.sourceName ++ ": " ++ f.reason)
    j.report "0+0" "0+0" 0 0
    pure 1
  | none =>
    let before : Bytes ← readSome source j.skipped
    if before.length < j.skipped then
      say name (named j.sourceName ++ ": cannot skip to specified offset")
    let bytes : Bytes ← match j.limit with
      | some n => readSome source n
      | none => readStream source
    let (changed, truncated) := j.changed bytes
    j.place target
    let wrong : Option String ← writeStream target changed
    match wrong with
    | some message =>
      say name ("error writing " ++ quoted j.targetName ++ ": " ++ message)
      j.report (recordText j.inputSize bytes.length) "0+0" truncated 0
      pure 1
    | none =>
      j.report (recordText j.inputSize bytes.length) (recordText j.outputSize changed.length)
        truncated changed.length
      pure 0

end Blocks

def dd : Tool := withLeadingOptions ⟨"", "", []⟩ 1 fun name g => do
  let words := g.operands
  let unopened (path : Bytes) (f : FileFault) : Action Nat := do
    say name ("failed to open " ++ quoted path ++ ": " ++ f.reason)
    pure 1
  match words.findSome? Blocks.fault? with
  | some (message, true) => misuse name message 1
  | some (message, false) =>
    say name message
    pure 1
  | none =>
    let j := Blocks.Job.ofWords words
    match ← j.openSource with
    | .error f => unopened j.sourceName f
    | .ok source =>
      match ← j.openTarget with
      | .error f =>
        if j.target.isSome then unopened j.targetName f
        else
          say name ("error writing " ++ quoted j.targetName ++ ": " ++ f.reason)
          say name ("closing output file " ++ quoted j.targetName ++ ": " ++ f.reason)
          pure 1
      | .ok target => j.run name source target

end CallChart.Shell.Tool
