import CallChart.Shell.Regex
import CallChart.Shell.Tool.Basic

namespace CallChart.Shell.Tool

open CallChart.Shell.Action

structure Showing where
  all : Bool
  nonblank : Bool
  squeeze : Bool
  visible : Bool
  tabs : Bool
  ends : Bool

structure ShowingState where
  newlines : Nat
  number : Nat

def visibleByte (b : UInt8) : Bytes :=
  let low (b : UInt8) : Bytes :=
    if b < 0x20 then [0x5E, b + 0x40] else if b = 0x7F then [0x5E, 0x3F] else [b]
  if b = 0x09 then [b] else if b < 0x80 then low b else [0x4D, 0x2D] ++ low (b - 0x80)

def Showing.run (f : Showing) : ShowingState → Bytes → Bytes → ShowingState × Bytes
  | s, out, [] => (s, out)
  | s, out, 0x0A :: rest =>
    let newlines := s.newlines + 1
    if f.squeeze ∧ 2 < newlines then f.run { s with newlines := newlines } out rest
    else
      let counted := newlines > 1 && f.all && !f.nonblank
      let out := if counted then numbered s.number out else out
      let out := if f.ends then 0x24 :: out else out
      f.run ⟨newlines, if counted then s.number + 1 else s.number⟩ (0x0A :: out) rest
  | s, out, b :: rest =>
    let counted := 0 < s.newlines && (f.all || f.nonblank)
    let out := if counted then numbered s.number out else out
    let shown : Bytes :=
      if b = 0x09 then (if f.tabs then [0x5E, 0x49] else [b])
      else if b = 0x0D ∧ f.ends ∧ rest.head? = some 0x0A then [0x5E, 0x4D]
      else if f.visible then visibleByte b else [b]
    f.run ⟨0, if counted then s.number + 1 else s.number⟩ (shown.reverse ++ out) rest
where
  numbered (n : Nat) (out : Bytes) : Bytes :=
    (bytesOf (padLeft 6 (toString n) ++ "\t")).reverse ++ out

def readsItself (id : Nat) : Action Bool := do
  let w ← getWorld
  match w.stream id, (← streamOf 1).map w.stream with
  | .file a here _ _ _, some (.file b there append _ _) =>
    pure (a = b && here < if append then (w.nodeBytes b).length else there)
  | _, _ => pure false

def cat : Tool := withOptions
    ⟨"benstuvAET", "", [("number-nonblank", 'b'), ("number", 'n'), ("squeeze-blank", 's'),
      ("show-nonprinting", 'v'), ("show-ends", 'E'), ("show-tabs", 'T'), ("show-all", 'A')]⟩ 1
    fun name g => do
  let has (cs : List Char) : Bool := cs.any g.has
  let f : Showing := ⟨g.has 'n', g.has 'b', g.has 's', has ['A', 'e', 't', 'v'],
    has ['A', 'T', 't'], has ['A', 'E', 'e']⟩
  let plain := !has ['b', 'e', 'n', 's', 't', 'v', 'A', 'E', 'T']
  if (← streamOf 1).isNone then
    say name "standard output: Bad file descriptor"
    pure 1
  else directly do
    let mut state : ShowingState := ⟨1, 1⟩
    let mut whole := true
    for operand in sources g do
      match ← opened name operand with
      | none => whole := false
      | some id =>
        match (← getWorld).unreadable? id with
        | some fault =>
          sayOf name operand fault.reason
          whole := false
        | none =>
          if ← readsItself id then
            sayOf name operand "input file is output file"
            whole := false
          else
            let (bytes, ended) ← readReady id
            let (next, out) := if plain then (state, bytes)
              else
                let (next, out) := f.run state [] bytes
                (next, out.reverse)
            output out
            if (← get).unwritten.isSome then return 1
            if !ended then endless
            state := next
    if operandsRead g ∧ (← streamOf 0).isNone then
      say name "closing standard input: Bad file descriptor"
      whole := false
    pure (statusOf whole)
where
  operandsRead (g : Given) : Bool := (sources g).contains [0x2D]

def tee : Tool := withOptions ⟨"aip", "", [("append", 'a'), ("ignore-interrupts", 'i'),
    ("output-error?", 'p')]⟩ 1 fun name g => do
  let modes := ["warn", "warn-nopipe", "exit", "exit-nopipe"]
  match (g.values 'p').find? fun w => !w.isEmpty && (choice? modes w).isNone with
  | some w => wrongChoice name "--output-error" modes w 1
  | none => directly do
    let mut outputs : List (Bytes × Nat) := []
    let mut whole := true
    for file in g.operands do
      match ← openOutput (textOf file) (if g.has 'a' then .append else .empty) with
      | .ok id => outputs := outputs ++ [(file, id)]
      | .error fault =>
        sayOf name file fault.reason
        whole := false
    let (bytes, ended) ← match ← streamOf 0 with
      | some id => readReady id
      | none => do
        say name "read error: Bad file descriptor"
        whole := false
        pure ([], true)
    match ← write 1 bytes with
    | some fault =>
      if !bytes.isEmpty then
        say name ("'standard output': " ++ fault)
        whole := false
    | none => pure ()
    for (file, id) in outputs do
      match ← writeStream id bytes with
      | some fault =>
        sayOf name file fault
        whole := false
      | none => pure ()
    if !ended then endless
    pure (statusOf whole)

def separatorsBefore (find : Nat → Option (Nat × Nat)) : Nat → Nat → List (Nat × Nat)
  | 0, _ => []
  | fuel + 1, place =>
    match find place with
    | some (start, stop) => (start, stop) :: separatorsBefore find fuel start
    | none => []

/-- The records of a text from the last one on. A separator belongs to the record before it, or
behind it if `before` says so. -/
def recordsBackwards (before : Bool) (bytes : Array UInt8) (places : List (Nat × Nat)) : Bytes :=
  let part (start stop : Nat) : Bytes := (bytes.extract start stop).toList
  let step (s : Nat × List Bytes) (place : Nat × Nat) : Nat × List Bytes :=
    let cut := if before then place.1 else place.2
    (cut, part cut s.1 :: s.2)
  let (first, parts) := places.foldl step (bytes.size, [])
  (part 0 first :: parts).reverse.flatten

def tac : Tool := withOptions
    ⟨"br", "s", [("before", 'b'), ("regex", 'r'), ("separator=", 's')]⟩ 1 fun name g => do
  let separator := (g.value? 's').getD [0x0A]
  let separator := if separator.isEmpty then [0] else separator
  match if g.has 'r' then (Regex.read .editor separator).map some else .ok none with
  | .error message =>
    say name message
    pure 1
  | .ok regex =>
    let mut whole := true
    for operand in sources g do
      let source ← if operand = [0x2D] then do
          if (← streamOf 0).isNone then
            say name "'standard input': read error: Bad file descriptor"
          opened name operand
        else
          match ← openInput (textOf operand) with
          | .ok id => pure (some id)
          | .error fault =>
            say name ("failed to open " ++ quoted operand ++ " for reading: " ++ fault.reason)
            pure none
      match source with
      | none => whole := false
      | some id =>
        match (← getWorld).unreadable? id with
        | some fault =>
          sayOf name operand ("read error: " ++
            if fault = .isDirectory then "Invalid argument" else fault.reason)
          whole := false
        | none =>
          let bytes := (← readStream id).toArray
          let find (place : Nat) : Option (Nat × Nat) :=
            match regex with
            | none =>
              let starts := (List.range (place + 1 - separator.length)).reverse
              (starts.find? fun i =>
                (bytes.extract i (i + separator.length)).toList == separator).map
                fun i => (i, i + separator.length)
            | some r =>
              ((List.range place).reverse).findSome? fun i =>
                (r.regex.matchAt? ⟨bytes.extract 0 place, false, false⟩ i).map fun m =>
                  (m.start, m.stop)
          let find := if separator.length = 1 ∧ regex.isNone then
              fun place => lastByte bytes (separator.headD 0) place
            else find
          output (recordsBackwards (g.has 'b') bytes
            (separatorsBefore find (bytes.size + 1) bytes.size))
    pure (statusOf whole)
where
  lastByte (bytes : Array UInt8) (b : UInt8) : Nat → Option (Nat × Nat)
    | 0 => none
    | n + 1 => if bytes[n]? = some b then some (n, n + 1) else lastByte bytes b n

def rev : Tool := withOptions ⟨"", "", []⟩ 1 fun name g => do
  let mut whole := true
  for operand in sources g do
    let shown := if g.operands.isEmpty then "stdin" else textOf operand
    let source ← if g.operands.isEmpty then streamOf 0
      else
        match ← openInput (textOf operand) with
        | .ok id => pure (some id)
        | .error fault =>
          say name ("cannot open " ++ textOf operand ++ ": " ++ fault.reason)
          pure none
    match source with
    | none => whole := false
    | some id =>
      match (← getWorld).unreadable? id with
      | some fault =>
        say name (shown ++ ": 0: " ++ fault.reason)
        whole := false
      | none =>
        let bytes ← readStream id
        let good := bytes.takeWhile (· < 0x80)
        if good.length = bytes.length then output (overLines (·.map List.reverse) bytes)
        else
          let count := good.count 0x0A
          output (unlines (((linesOf good).take count).map List.reverse))
          say name (shown ++ ": " ++ toString count ++
            ": Invalid or incomplete multibyte or wide character")
          whole := false
  pure (statusOf whole)

def signedCount (signs : List UInt8) (bytes : Bytes) : Except CountFault (Option UInt8 × Nat) :=
  match bytes with
  | [] => .error .invalid
  | b :: rest =>
    if signs.contains b then (countOf sizeLetters rest).map (some b, ·)
    else (countOf sizeLetters bytes).map (none, ·)

def linesLength (ending : UInt8) (count : Nat) (bs : Bytes) : Nat :=
  (bs.foldl (fun (s : Nat × Nat) b =>
    if s.1 = 0 then s else (if b = ending then s.1 - 1 else s.1, s.2 + 1)) (count, 0)).2

def title (first : Bool) (operand : Bytes) : Bytes :=
  (if first then [] else [0x0A]) ++ bytesOf "==> " ++
    (if operand = [0x2D] then bytesOf "standard input" else operand) ++ bytesOf " <==\n"

def blockSize : Nat := 8192

def headOf (id : Nat) (lines : Bool) (ending : UInt8) (count : Nat) : Action Bytes := do
  let w ← getWorld
  match w.stream id with
  | .zeros => if lines ∧ ending ≠ 0 then endless else readSome id count
  | _ =>
    if !lines then readSome id count
    else
      let bytes := w.readable id
      let length := linesLength ending count bytes
      let part := bytes.take length
      let short := part.count ending < count
      if short ∧ !w.ends id then endless
      let consumed := match w.stream id with
        | .input .. => ((length + blockSize - 1) / blockSize) * blockSize
        | _ => length
      modifyWorld (·.consume id (min consumed bytes.length))
      pure part

def partsOf (name : String) (g : Given) (part : Nat → Action Bytes) : Action Nat := do
  let operands := sources g
  let titled := match g.last? ['q', 'v'] with
    | some 'q' => false
    | some _ => true
    | none => decide (1 < operands.length)
  let mut first := true
  let mut whole := true
  for operand in operands do
    let standard := operand = [0x2D]
    let shown := if standard then bytesOf "standard input" else operand
    let source ← if standard then
        match ← streamOf 0 with
        | some id => pure (.ok id)
        | none => pure (.error FileFault.badDescriptor)
      else openInput (textOf operand)
    match source with
    | .error fault =>
      if standard then
        say name ((if name = "tail" then "cannot fstat " else "error reading ") ++ quoted shown ++
          ": " ++ fault.reason)
        say name ("-: " ++ fault.reason)
      else say name ("cannot open " ++ quoted operand ++ " for reading: " ++ fault.reason)
      whole := false
    | .ok id =>
      if titled then output (title first operand)
      first := false
      match (← getWorld).unreadable? id with
      | some fault =>
        say name ("error reading " ++ quoted shown ++ ": " ++ fault.reason)
        whole := false
      | none => output (← part id)
  pure (statusOf whole)

/-- The word of options in the old style, a number with letters, as the words that it stands for;
or the letter that is wrong in it. -/
def oldHead (w : Bytes) : Except Char (List Bytes) :=
  let body := w.drop 1
  let number := body.takeWhile fun b => 0x30 ≤ b && b ≤ 0x39
  let rec go (kind : Char) (factor : String) (more : List Bytes) :
      List Char → Except Char (Char × String × List Bytes)
    | [] => .ok (kind, factor, more)
    | c :: cs =>
      match c with
      | 'c' => go 'c' "" more cs
      | 'b' => go 'c' "b" more cs
      | 'k' => go 'c' "k" more cs
      | 'm' => go 'c' "m" more cs
      | 'l' => go 'n' factor more cs
      | 'q' => go kind factor (more ++ [bytesOf "-q"]) cs
      | 'v' => go kind factor (more ++ [bytesOf "-v"]) cs
      | 'z' => go kind factor (more ++ [bytesOf "-z"]) cs
      | c => .error c
  match go 'n' "" [] (textOf (body.drop number.length)).toList with
  | .error c => .error c
  | .ok (kind, factor, more) =>
    .ok (bytesOf ("-" ++ kind.toString) :: (number ++ bytesOf factor) :: more)

def isOldOption (w : Bytes) : Bool :=
  match w with
  | 0x2D :: d :: _ => 0x30 ≤ d && d ≤ 0x39
  | _ => false

def lateDigit? (g : Given) : Option Char := (g.options.map (·.1)).find? Char.isDigit

def head : Tool := fun name words => do
  let old := match words with
    | w :: rest => if isOldOption w then (oldHead w).map (· ++ rest) else .ok words
    | [] => .ok words
  let wrong (c : Char) : Action Nat := misuse name ("invalid trailing option -- " ++ c.toString) 1
  match old with
  | .error c => wrong c
  | .ok words =>
    withOptions ⟨"qvz0123456789", "nc", [("bytes=", 'c'), ("lines=", 'n'), ("quiet", 'q'),
        ("silent", 'q'), ("verbose", 'v'), ("zero-terminated", 'z')]⟩ 1 (fun name g => do
      match lateDigit? g with
      | some c => return ← wrong c
      | none => pure ()
      let option := (g.last? ['n', 'c']).getD 'n'
      let given := (g.value? option).getD (bytesOf "10")
      let ending : UInt8 := if g.has 'z' then 0 else 0x0A
      match signedCount [0x2D] given with
      | .error fault =>
        let digits := if given.head? = some 0x2D then given.drop 1 else given
        sayCount name ("number of " ++ if option = 'n' then "lines" else "bytes") digits fault
        pure 1
      | .ok (sign, count) =>
        partsOf name g fun id => do
          match sign with
          | none => headOf id (option = 'n') ending count
          | some _ =>
            let bytes ← readStream id
            if option = 'c' then pure (bytes.take (bytes.length - count))
            else
              let total := (linesBy ending bytes).length
              pure (bytes.take (linesLength ending (total - count) bytes))) name words

def oldTail? (words : List Bytes) : Option (List Bytes) :=
  match words with
  | [] => none
  | w :: rest =>
    let body := w.drop 1
    let number := body.takeWhile fun b => 0x30 ≤ b && b ≤ 0x39
    let letters := (textOf (body.drop number.length)).toList
    let (kind, letters) := match letters with
      | 'b' :: more => ("b", more)
      | 'c' :: more => ("c", more)
      | 'l' :: more => ("l", more)
      | letters => ("", letters)
    let follows := letters == ['f']
    let form := (w.head? == some 0x2B || (w.head? == some 0x2D && !number.isEmpty) ||
        (w.head? == some 0x2D && kind = "l")) &&
      (letters.isEmpty || follows) && rest.length ≤ 1 && w.length > 1
    let form := form && (w.head? == some 0x2D || !number.isEmpty || kind ≠ "" || follows)
    if !form then none
    else
      let count := if number.isEmpty then bytesOf "10" else number
      let count := if w.head? = some 0x2B then 0x2B :: count else count
      let option := if kind = "c" ∨ kind = "b" then "-c" else "-n"
      some (bytesOf option :: (count ++ if kind = "b" then [0x62] else []) ::
        (if follows then [bytesOf "-f"] else []) ++ rest)

def tail : Tool := fun name words => do
  let words := (oldTail? words).getD words
  withOptions ⟨"fFqvz0123456789", "ncs", [("bytes=", 'c'), ("follow?", 'f'), ("lines=", 'n'),
      ("max-unchanged-stats=", 'M'), ("pid=", 'P'), ("quiet", 'q'), ("retry", 'R'),
      ("silent", 'q'), ("sleep-interval=", 's'), ("verbose", 'v'), ("zero-terminated", 'z')]⟩ 1
      (fun name g => do
    match lateDigit? g with
    | some c =>
      say name ("option used in invalid context -- " ++ c.toString)
      pure 1
    | none =>
      let option := (g.last? ['n', 'c']).getD 'n'
      let given := (g.value? option).getD (bytesOf "10")
      let ending : UInt8 := if g.has 'z' then 0 else 0x0A
      let modes := ["descriptor", "name"]
      match (g.values 'f').find? fun w => !w.isEmpty && (choice? modes w).isNone with
      | some w => return ← wrongChoice name "--follow" modes w 1
      | none => pure ()
      match signedCount [0x2D, 0x2B] given with
      | .error fault =>
        let digits := if given.head? = some 0x2D then given.drop 1 else given
        sayCount name ("number of " ++ if option = 'n' then "lines" else "bytes") digits fault
        pure 1
      | .ok (sign, count) =>
        let status ← partsOf name g fun id => do
          let bytes ← readStream id
          let total := if option = 'c' then bytes.length else (linesBy ending bytes).length
          let skipped := if sign = some 0x2B then count - 1 else total - count
          pure (if option = 'c' then bytes.drop skipped
            else bytes.drop (linesLength ending skipped bytes))
        if g.has 'f' ∨ g.has 'F' then
          let missing ← (sources g).filterM fun w => do
            pure (w ≠ [0x2D] && (← node? (textOf w)).isNone)
          if missing.length = (sources g).length ∧ g.has 'f' then
            say name "no files remaining"
            pure 1
          else
            flush
            endless
        else pure status) name words

end CallChart.Shell.Tool
