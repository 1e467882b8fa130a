import CallChart.Shell.Tool.Basic

namespace CallChart.Shell.Tool

open CallChart.Shell.Action

namespace Batch

structure Item where
  text : Bytes
  last : Bool

structure Reading where
  items : List Item
  word : Option Bytes

/-- The items that blanks part. Quotes hold an item together and a backslash a byte; a line that
ends with a blank goes on. With `whole` items are lines. The result tells also which mark is left
open. -/
def read (whole : Bool) : Option UInt8 → UInt8 → Reading → Bytes → List Item × Option UInt8
  | quote, _, r, [] =>
    match quote, r.word with
    | some q, _ => (r.items.reverse, some q)
    | none, some w => ((⟨w.reverse, true⟩ :: r.items).reverse, none)
    | none, none => (r.items.reverse, none)
  | quote, before, r, b :: rest =>
    let push (b : UInt8) : Reading := { r with word := some (b :: r.word.getD []) }
    match quote with
    | some q =>
      if q = 0x5C then read whole none b (push b) rest
      else if b = q then read whole none b { r with word := some (r.word.getD []) } rest
      else if b = 0x0A then (r.items.reverse, some q)
      else read whole quote b (push b) rest
    | none =>
      if b = 0x5C then read whole (some b) b r rest
      else if b = 0x22 ∨ b = 0x27 then
        read whole (some b) b { r with word := some (r.word.getD []) } rest
      else if b = 0x0A then
        let goesOn := ByteClass.isBlank before
        match r.word with
        | some w => read whole none b ⟨⟨w.reverse, !goesOn⟩ :: r.items, none⟩ rest
        | none =>
          let items := match r.items with
            | i :: others => if goesOn then r.items else ⟨i.text, true⟩ :: others
            | [] => []
          read whole none b ⟨items, none⟩ rest
      else if ByteClass.isSpace b ∧ !(whole ∧ r.word.isSome) then
        match r.word with
        | some w => read whole none b ⟨⟨w.reverse, false⟩ :: r.items, none⟩ rest
        | none => read whole none b r rest
      else read whole none b (push b) rest

def partsBy (d : UInt8) (bytes : Bytes) : List Item := (linesBy d bytes).map (⟨·, true⟩)

structure Bounds where
  items : Option Nat
  lines : Option Nat
  room : Nat

structure Portion where
  items : List Bytes
  count : Nat
  lines : Nat
  used : Nat

def need (w : Bytes) : Nat := w.length + 1

def batches (bounds : Bounds) (fixed : Nat) : Portion → List Item → List (List Bytes) × Bool
  | b, [] => (if b.count = 0 then [] else [b.items.reverse], false)
  | b, i :: rest =>
    if bounds.room < fixed + need i.text then
      (if b.count = 0 then [] else [b.items.reverse], true)
    else
      let full := 0 < b.count ∧ bounds.room < b.used + need i.text
      let (done, b) := if full then ([b.items.reverse], ⟨[], 0, 0, fixed⟩) else ([], b)
      let b : Portion := ⟨i.text :: b.items, b.count + 1, b.lines + if i.last then 1 else 0,
        b.used + need i.text⟩
      let ends := bounds.items = some b.count ∨ bounds.lines = some b.lines
      let (more, tooLong) := if ends then
          let (more, tooLong) := batches bounds fixed ⟨[], 0, 0, fixed⟩ rest
          (b.items.reverse :: more, tooLong)
        else batches bounds fixed b rest
      (done ++ more, tooLong)

def substituted (mark value : Bytes) : Nat → Bytes → Bytes
  | 0, bs => bs
  | _, [] => []
  | fuel + 1, b :: rest =>
    if mark.isPrefixOf (b :: rest) ∧ !mark.isEmpty then
      value ++ substituted mark value fuel ((b :: rest).drop mark.length)
    else b :: substituted mark value fuel rest

def shown (w : Bytes) : String :=
  let plain := w.map fun b => if b = 0x3A then 0x61 else b
  if named plain = textOf plain then textOf w else quoted w

def runAll (perform : Perform) (name : String) (traces : Bool) (input : Option Nat) :
    Nat → List (List Bytes) → Action Nat
  | status, [] => pure status
  | status, words :: rest => do
    let called := textOf (words.headD [])
    if traces then writeText 2 (" ".intercalate (words.map shown) ++ "\n")
    match ← located words with
    | .error fault =>
      say name (called ++ ": " ++ fault.reason)
      pure (unstartedStatus fault)
    | .ok path =>
      let before ← streamOf 0
      match input with
      | some id => connect 0 (some id)
      | none => pure ()
      let e ← waited perform path words
      connect 0 before
      match e with
      | .signal n =>
        say name (called ++ ": terminated by signal " ++ toString n)
        pure 125
      | .status 0 => runAll perform name traces input status rest
      | .status 255 =>
        say name (called ++ ": exited with status 255; aborting")
        pure (if status = 0 then 124 else status)
      | .status _ => runAll perform name traces input 123 rest

def known : Known := ⟨"0oprtx", "adEe?i?Il?LnPs", [
  ("null", '0'), ("arg-file=", 'a'), ("delimiter=", 'd'), ("eof?", 'e'), ("replace?", 'i'),
  ("max-lines?", 'l'), ("max-args=", 'n'), ("open-tty", 'o'), ("interactive", 'p'),
  ("no-run-if-empty", 'r'), ("max-chars=", 's'), ("verbose", 't'), ("show-limits", '\x02'),
  ("exit", 'x'), ("max-procs=", 'P'), ("process-slot-var=", '\x03')]⟩

structure Settings where
  items : Option Nat
  lines : Option Nat
  room : Nat
  mark : Option Bytes
  delimiter : Option UInt8
  ending : Option Bytes
  file : Option Bytes

def usualRoom : Nat := 131072

def delimiterOf (w : Bytes) : Except String UInt8 :=
  match w with
  | [b] => .ok b
  | 0x5C :: c :: rest =>
    let number (base : Nat) (ds : Bytes) : Except String UInt8 :=
      let value (b : UInt8) : Nat :=
        if ByteClass.isDigit b then b.toNat - 0x30
        else if ByteClass.isUpper b then b.toNat - 0x37 else b.toNat - 0x57
      .ok (UInt8.ofNat (ds.foldl (fun n b => n * base + value b) 0))
    match [(0x61, 0x07), (0x62, 0x08), (0x66, 0x0C), (0x6E, 0x0A), (0x72, 0x0D), (0x74, 0x09),
        (0x76, 0x0B), (0x5C, 0x5C)].lookup c with
    | some b =>
      if rest.isEmpty then .ok b
      else .error ("Invalid escape sequence " ++ textOf w ++ " in input delimiter specification.")
    | none =>
      if c = 0x78 then number 16 rest
      else if 0x30 ≤ c ∧ c ≤ 0x37 then number 8 (c :: rest)
      else .error ("Invalid escape sequence " ++ textOf w ++ " in input delimiter specification.")
  | w => .error ("Invalid input delimiter specification " ++ textOf w ++
      ": the delimiter must be either a single character or an escape sequence starting with \\.")

abbrev Fault := Bool × String

def numberOf (letter : Char) (low : Nat) (w : Bytes) : Except Fault Nat :=
  let option := " for -" ++ letter.toString ++ " option"
  match digits? w with
  | none => .error (true, "invalid number \"" ++ textOf w ++ "\"" ++ option)
  | some n =>
    if n < low then
      .error (true, "value " ++ textOf w ++ option ++ " should be >= " ++ toString low)
    else .ok n

def Settings.follow (s : Settings) (o : Char × Bytes) : Except Fault (Settings × List String) := do
  let (c, v) := o
  let ignoring (option previous : String) (given : Bool) : List String :=
    if given then ["warning: options " ++ option ++ " are mutually exclusive, ignoring previous " ++
      previous ++ " value"] else []
  let replacing (mark : Bytes) : Settings × List String :=
    ({ s with mark := some mark, items := none, lines := none },
      ignoring "--max-args and --replace/-I/-i" "--max-args" (s.items.any (1 < ·)) ++
      ignoring "--max-lines and --replace/-I/-i" "--max-lines" s.lines.isSome)
  let counting (option : String) (n : Nat) : Settings × List String :=
    ({ s with lines := some n, items := none, mark := none },
      ignoring ("--max-args and " ++ option) "--max-args" s.items.isSome ++
      ignoring ("--replace and " ++ option) "--replace" s.mark.isSome)
  match c with
  | '0' => pure ({ s with delimiter := some 0 }, [])
  | 'a' => pure ({ s with file := some v }, [])
  | 'd' =>
    match delimiterOf v with
    | .ok b => pure ({ s with delimiter := some b }, [])
    | .error message => .error (false, message)
  | 'E' => pure ({ s with ending := if v.isEmpty then none else some v }, [])
  | 'e' => pure ({ s with ending := if v.isEmpty then none else some v }, [])
  | 'I' => pure (replacing v)
  | 'i' => pure (replacing (if v.isEmpty then bytesOf "\x7b\x7d" else v))
  | 'L' => do pure (counting "-L" (← numberOf 'L' 1 v))
  | 'l' => do pure (counting "--max-lines/-l" (← if v.isEmpty then pure 1 else numberOf 'l' 1 v))
  | 'n' =>
    let n ← numberOf 'n' 1 v
    if n = 1 ∧ s.mark.isSome then pure (s, [])
    else
      pure ({ s with items := some n, lines := none, mark := none },
        ignoring "--max-lines and --max-args/-n" "--max-lines" s.lines.isSome ++
        ignoring "--replace and --max-args/-n" "--replace" s.mark.isSome)
  | 's' =>
    match numberOf 's' 1 v with
    | .ok n => pure ({ s with room := min usualRoom n }, [])
    | .error (_, message) => .error (false, message)
  | 'P' =>
    let _ ← numberOf 'P' 0 v
    pure (s, [])
  | _ => pure (s, [])

def Settings.followAll (s : Settings) : List (Char × Bytes) → Except Fault (Settings × List String)
  | [] => .ok (s, [])
  | o :: rest => do
    let (s, warnings) ← s.follow o
    let (s, more) ← s.followAll rest
    pure (s, warnings ++ more)

def Settings.items? (s : Settings) (bytes : Bytes) : List Item × Option UInt8 :=
  match s.delimiter with
  | some d => (partsBy d bytes, none)
  | none =>
    let (items, quote) := read s.mark.isSome none 0x0A ⟨[], none⟩ bytes
    match s.ending with
    | some w => (items.takeWhile (·.text ≠ w), quote)
    | none => (items, quote)

def Settings.calls (s : Settings) (always : Bool) (command : List Bytes) (items : List Item) :
    List (List Bytes) × Bool :=
  match s.mark with
  | some mark =>
    (items.map fun i => command.map fun w => substituted mark i.text (w.length + 1) w, false)
  | none =>
    let fixed := (command.map need).foldl (· + ·) 0
    let (parts, tooLong) := batches ⟨s.items, s.lines, s.room⟩ fixed ⟨[], 0, 0, fixed⟩ items
    let parts := if parts.isEmpty ∧ always ∧ !tooLong then [[]] else parts
    (parts.map (command ++ ·), tooLong)

end Batch

def xargs (perform : Perform) : Tool := withLeadingOptions Batch.known 1 fun name g => do
  let start : Batch.Settings := ⟨none, none, Batch.usualRoom, none, none, none, none⟩
  match start.followAll g.options with
  | .error (hint, message) =>
    say name message
    if hint then sayTry name
    pure 1
  | .ok (s, warnings) =>
    for warning in warnings do
      say name warning
    let opened ← match s.file with
      | some file =>
        match ← openInput (textOf file) with
        | .ok id => pure (some id)
        | .error fault =>
          say name ("Cannot open input file " ++ quote file ++ ": " ++ fault.reason)
          pure none
      | none => streamOf 0
    match opened with
    | none => pure 1
    | some id =>
      let (bytes, ended) ← if ((← getWorld).unreadable? id).isSome then pure ([], true)
        else readReady id
      let (items, quote) := s.items? bytes
      let command := if g.operands.isEmpty then [bytesOf "echo"] else g.operands
      let (calls, tooLong) := s.calls (!g.has 'r' && quote.isNone) command items
      match quote with
      | some q =>
        if q ≠ 0x5C then
          say name ("unmatched " ++ (if q = 0x22 then "double" else "single") ++
            " quote; by default quotes are special to xargs unless you use the -0 option")
      | none => pure ()
      let input ← match s.file with
        | some _ => pure none
        | none => do pure (some (← openStream .nothing))
      let status ← Batch.runAll perform name (g.has 't') input 0 calls
      if tooLong then
        say name "argument line too long"
        pure 1
      else if quote.any (· ≠ 0x5C) then pure 1
      else if !ended then endless
      else pure status

end CallChart.Shell.Tool
