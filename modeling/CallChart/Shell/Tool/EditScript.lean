import CallChart.Shell.Regex
import CallChart.Shell.Tool.Basic

namespace CallChart.Shell.Tool.Edit

structure Wanted where
  regex : Option Regex
  fold : Bool
  lines : Bool

inductive Address where
  | line (n : Nat)
  | last
  | hit (w : Wanted)
  | every (first step : Nat)
  | later (n : Nat)
  | multiple (n : Nat)

structure Selector where
  first : Option Address
  second : Option Address
  negated : Bool

inductive LetterCase where
  | keep
  | upper
  | lower
  deriving DecidableEq

inductive Part where
  | text (bs : Bytes)
  | group (n : Nat)
  | casing (c : LetterCase)
  | once (c : LetterCase)

structure Substitution where
  wanted : Wanted
  parts : List Part
  all : Bool
  nth : Nat
  runs : Bool
  early : Bool
  late : Bool
  file : Option Bytes

inductive Function where
  | block (stop : Nat)
  | close
  | substitute (s : Substitution)
  | exchange (pairs : List (UInt8 × UInt8))
  | print
  | printFirst
  | delete
  | deleteFirst
  | next
  | appendNext
  | hold
  | holdMore
  | recall
  | recallMore
  | swap
  | quit (status : Nat)
  | quitSilently (status : Nat)
  | number
  | fileName
  | append (text : Bytes)
  | insert (text : Bytes)
  | change (text : Bytes)
  | run (text : Bytes)
  | label (name : Bytes)
  | jump (name : Bytes)
  | jumpIf (name : Bytes) (substituted : Bool)
  | reveal (width : Option Nat)
  | clear
  | readFile (name : Bytes)
  | readLine (name : Bytes)
  | write (name : Bytes)
  | writeFirst (name : Bytes)

structure Instruction where
  selector : Selector
  function : Function

inductive Origin where
  | argument (number : Nat)
  | file (name : Bytes)

structure Fault where
  message : Bytes
  status : Nat

structure Source where
  origin : Origin
  rest : Bytes
  taken : Nat
  line : Nat
  instructions : Array Instruction
  blocks : List (Nat × Bytes)
  pending : Option Bytes
  extended : Bool
  closed : Bool
  silent : Bool
  first : Bool
  targets : List Bytes

abbrev Reader := ExceptT Fault (StateM Source)

def rest : Reader Bytes := do
  pure (← get).rest

def Source.place (s : Source) (column : Nat) : Bytes :=
  match s.origin with
  | .argument n => bytesOf ("-e expression #" ++ toString n ++ ", char " ++ toString column)
  | .file name => bytesOf "file " ++ name ++ bytesOf (" line " ++ toString s.line)

def wrongBytes {α : Type} (message : Bytes) : Reader α := do
  let s ← get
  throw ⟨s.place s.taken ++ bytesOf ": " ++ message, 1⟩

def wrong {α : Type} (message : String) : Reader α := wrongBytes (bytesOf message)

def skip (n : Nat) : Reader Unit :=
  modify fun s =>
    let gone := s.rest.take n
    { s with
      rest := s.rest.drop n, taken := s.taken + gone.length
      line := s.line + gone.countP (· == 0x0A) }

def goTo (more : Bytes) : Reader Unit := do
  skip ((← rest).length - more.length)

def takeWhile (p : UInt8 → Bool) : Reader Bytes := do
  let taken := (← rest).takeWhile p
  skip taken.length
  pure taken

def skipWhile (p : UInt8 → Bool) : Reader Unit := do
  let _ ← takeWhile p

def isBlank (b : UInt8) : Bool := b == 0x20 || b == 0x09

def next? : Reader (Option UInt8) := do
  skipWhile isBlank
  let b := (← rest).head?
  skip 1
  pure b

def unread (b : Option UInt8) : Reader Unit :=
  match b with
  | some b => modify fun s =>
      { s with
        rest := b :: s.rest, taken := s.taken - 1
        line := if b = 0x0A then s.line - 1 else s.line }
  | none => pure ()

/-- A set in brackets behind its opening, and the rest. It may hold the delimiter. If it does not
end, there is only a rest. -/
def bracketText : Nat → Bool → Bytes → Except Bytes (Bytes × Bytes)
  | 0, _, bs => .error bs
  | _, _, [] => .error []
  | fuel + 1, first, b :: rest =>
    let add (front rest : Bytes) : Except Bytes (Bytes × Bytes) :=
      (bracketText fuel false rest).map fun (t, r) => (front ++ t, r)
    let classEnd (mark : UInt8) : Option Nat :=
      (List.range rest.length).find? fun i =>
        1 ≤ i && (rest[i]? == some mark && rest[i + 1]? == some 0x5D)
    if b = 0x0A then .error (b :: rest)
    else if b = 0x5D ∧ !first then .ok ([b], rest)
    else if b = 0x5E ∧ first then
      match rest with
      | 0x5D :: more => add [0x5E, 0x5D] more
      | rest => add [b] rest
    else if b = 0x5C ∧ rest.head? = some 0x6E then add [0x0A] (rest.drop 1)
    else if b = 0x5B then
      match rest with
      | mark :: _ =>
        match if (bytesOf ":.=").contains mark then classEnd mark else none with
        | some i => add (b :: rest.take (i + 2)) (rest.drop (i + 2))
        | none => add [b] rest
      | [] => add [b] rest
    else add [b] rest

/-- The text up to a delimiter, and the rest. A backslash takes the meaning of the delimiter away.
If the text does not end, there is only a rest. -/
def delimitedText (d : UInt8) (isPattern : Bool) : Nat → Bytes → Except Bytes (Bytes × Bytes)
  | 0, bs => .error bs
  | _, [] => .error []
  | fuel + 1, b :: rest =>
    let add (front rest : Bytes) : Except Bytes (Bytes × Bytes) :=
      (delimitedText d isPattern fuel rest).map fun (t, r) => (front ++ t, r)
    if b = d then .ok ([], rest)
    else if b = 0x0A then .error (b :: rest)
    else if b = 0x5C then
      match rest with
      | [] => .error []
      | c :: more =>
        if c = 0x6E ∧ isPattern then add [0x0A] more
        else if c = 0x0A then add [c] more
        else if c = d ∧ (isPattern ∨ c ≠ 0x26) then add [c] more
        else add [b, c] more
    else if b = 0x5B ∧ isPattern then
      match bracketText (rest.length + 1) true rest with
      | .ok (text, more) => add (b :: text) more
      | .error more => .error more
    else add [b] rest

def delimited (d : UInt8) (isPattern : Bool) (message : String) : Reader Bytes := do
  let bs ← rest
  match delimitedText d isPattern (bs.length + 1) bs with
  | .ok (text, more) =>
    goTo more
    pure text
  | .error more =>
    goTo more
    wrong message

def digitsOf (base most : Nat) (bs : Bytes) : Option (Nat × Bytes) :=
  let isDigit (b : UInt8) : Bool :=
    if base = 16 then ByteClass.isHex b else 0x30 ≤ b && b.toNat < 0x30 + base
  let value (b : UInt8) : Nat :=
    if ByteClass.isDigit b then b.toNat - 0x30 else (Regex.lower b).toNat - 0x61 + 10
  let ds := (bs.take most).takeWhile isDigit
  if ds.isEmpty then none
  else some (ds.foldl (fun n b => n * base + value b) 0, bs.drop ds.length)

def escape? (bs : Bytes) : Option (UInt8 × Bytes) :=
  let byte (r : Option (Nat × Bytes)) : Option (UInt8 × Bytes) :=
    r.map fun (n, more) => (UInt8.ofNat n, more)
  match bs with
  | 0x61 :: more => some (0x07, more)
  | 0x66 :: more => some (0x0C, more)
  | 0x72 :: more => some (0x0D, more)
  | 0x74 :: more => some (0x09, more)
  | 0x76 :: more => some (0x0B, more)
  | 0x63 :: 0x5C :: more => some (0x1C, more.drop 1)
  | 0x63 :: b :: more => some (Regex.upper b ^^^ 0x40, more)
  | 0x64 :: more => byte (digitsOf 10 3 more)
  | 0x6F :: more => byte (digitsOf 8 3 more)
  | 0x78 :: more => byte (digitsOf 16 2 more)
  | _ => none

/-- A text whose escapes are filled in. Other backslashes stay, or go with `bare`, where a newline
may be written as a letter, too. -/
def cooked (bare : Bool) : Nat → Bytes → Bytes
  | 0, bs => bs
  | _, [] => []
  | fuel + 1, b :: rest =>
    if b ≠ 0x5C then b :: cooked bare fuel rest
    else
      match escape? rest, rest with
      | some (c, more), _ => c :: cooked bare fuel more
      | none, c :: more =>
        (if !bare then [b, c] else if c = 0x6E then [0x0A] else [c]) ++ cooked bare fuel more
      | none, [] => [b]

def expression (text : Bytes) : Reader (Option Regex.Expression) := do
  if text.isEmpty then pure none
  else
    let form := if (← get).extended then Regex.Notation.extended else Regex.Notation.plain
    match Regex.read form (cooked false (text.length + 1) text) with
    | .ok e => pure (some e)
    | .error message =>
      if message = Regex.lonelyMessage then throw ⟨bytesOf message, 4⟩ else wrong message

def wantedOf (text : Bytes) (fold lines : Bool) : Reader Wanted := do
  if text.isEmpty ∧ (fold ∨ lines) then wrong "cannot specify modifiers on empty regexp"
  pure ⟨(← expression text).map (·.regex), fold, lines⟩

def numberFrom (b : Option UInt8) : Reader Nat := do
  unread b
  pure ((digits? (← takeWhile ByteClass.isDigit)).getD 0)

def modifiers (fold lines : Bool) : Nat → Reader (Bool × Bool)
  | 0 => pure (fold, lines)
  | fuel + 1 => do
    match ← next? with
    | some 0x49 => modifiers true lines fuel
    | some 0x4D => modifiers fold true fuel
    | b =>
      unread b
      pure (fold, lines)

def addressFrom (b : Option UInt8) : Reader (Option Address) := do
  let pattern (d : UInt8) : Reader (Option Address) := do
    let text ← delimited d true "unterminated address regex"
    let (fold, lines) ← modifiers false false ((← rest).length + 1)
    pure (some (.hit (← wantedOf text fold lines)))
  match b with
  | none => pure none
  | some 0x24 => pure (some .last)
  | some 0x2F => pattern 0x2F
  | some 0x5C =>
    match (← rest).head? with
    | none => wrong "unterminated address regex"
    | some d =>
      skip 1
      pattern d
  | some 0x2B => pure (some (.later (← numberFrom (← next?))))
  | some 0x7E => pure (some (.multiple (← numberFrom (← next?))))
  | some b =>
    if !ByteClass.isDigit b then pure none
    else
      let n ← numberFrom (some b)
      match ← next? with
      | some 0x7E =>
        let step ← numberFrom (← next?)
        pure (some (if step = 0 then .line n else .every n step))
      | c =>
        unread c
        pure (some (.line n))

def selectorFrom (b : Option UInt8) : Reader (Selector × Option UInt8) := do
  let first ← addressFrom b
  let mut b := b
  let mut second : Option Address := none
  match first with
  | none => pure ()
  | some (.later _) => wrong "invalid usage of +N or ~N as first address"
  | some (.multiple _) => wrong "invalid usage of +N or ~N as first address"
  | some a =>
    b ← next?
    if b = some 0x2C then
      second ← addressFrom (← next?)
      if second.isNone then wrong "unexpected \x60,'"
      b ← next?
    match a, second with
    | .line 0, some (.hit _) => pure ()
    | .line 0, _ =>
      wrong "invalid usage of line address 0"
    | _, _ => pure ()
  if b = some 0x21 then
    b ← next?
    if b = some 0x21 then wrong "multiple \x60!'s"
    pure (⟨first, second, true⟩, b)
  else pure (⟨first, second, false⟩, b)

def endCommand : Reader Unit := do
  match ← next? with
  | none => pure ()
  | some b =>
    if b = 0x7D ∨ b = 0x23 then unread (some b)
    else if b ≠ 0x0A ∧ b ≠ 0x3B then wrong "extra characters after command"

def readLabel : Reader Bytes := do
  skipWhile isBlank
  takeWhile fun b => !ByteClass.isSpace b && b != 0x3B && b != 0x7D

def refuseIfClosed : Reader Unit := do
  if (← get).closed then wrong "e/r/w commands disabled in sandbox mode"

def readName : Reader Bytes := do
  refuseIfClosed
  skipWhile isBlank
  let name ← takeWhile (· ≠ 0x0A)
  if name.isEmpty then wrong "missing filename in r/R/w/W commands"
  skip 1
  pure name

def readTarget : Reader Bytes := do
  let name ← readName
  modify fun s => { s with targets := name :: s.targets }
  pure name

def replacementParts : Nat → Bytes → List Part
  | 0, _ => []
  | _, [] => []
  | fuel + 1, b :: rest =>
    if b = 0x26 then .group 0 :: replacementParts fuel rest
    else if b ≠ 0x5C then .text [b] :: replacementParts fuel rest
    else
      match escape? rest, rest with
      | some (c, more), _ => .text [c] :: replacementParts fuel more
      | none, [] => [.text [b]]
      | none, [0x63] => [.text [b]]
      | none, c :: more =>
        let part : Part :=
          if ByteClass.isDigit c then .group (c.toNat - 0x30)
          else
            match c with
            | 0x6E => .text [0x0A]
            | 0x55 => .casing .upper
            | 0x4C => .casing .lower
            | 0x45 => .casing .keep
            | 0x75 => .once .upper
            | 0x6C => .once .lower
            | c => .text [c]
        part :: replacementParts fuel more

structure Flags where
  fold : Bool
  lines : Bool
  all : Bool
  nth : Option Nat
  runs : Bool
  early : Bool
  late : Bool
  file : Option Bytes

def readFlags : Nat → Flags → Reader Flags
  | 0, f => pure f
  | fuel + 1, f => do
    let b := (← rest).head?
    skip 1
    match b with
    | none => pure f
    | some 0x69 => readFlags fuel { f with fold := true }
    | some 0x49 => readFlags fuel { f with fold := true }
    | some 0x6D => readFlags fuel { f with lines := true }
    | some 0x4D => readFlags fuel { f with lines := true }
    | some 0x65 =>
      refuseIfClosed
      readFlags fuel { f with runs := true }
    | some 0x70 =>
      if f.early ∨ f.late then wrong "multiple \x60p' options to \x60s' command"
      readFlags fuel (if f.runs then { f with late := true } else { f with early := true })
    | some 0x67 =>
      if f.all then wrong "multiple \x60g' options to \x60s' command"
      readFlags fuel { f with all := true }
    | some 0x77 => pure { f with file := some (← readTarget) }
    | some 0x0A => pure f
    | some 0x3B => pure f
    | some b =>
      if b = 0x7D ∨ b = 0x23 then
        unread (some b)
        pure f
      else if isBlank b then readFlags fuel f
      else if b = 0x0D ∧ (← rest).head? = some 0x0A then
        skip 1
        pure f
      else if ByteClass.isDigit b then
        if f.nth.isSome then wrong "multiple number options to \x60s' command"
        let n ← numberFrom (some b)
        if n = 0 then wrong "number option to \x60s' command may not be zero"
        readFlags fuel { f with nth := some n }
      else wrong "unknown option to \x60s'"

def readSubstitution : Reader Substitution := do
  let message := "unterminated \x60s' command"
  match (← rest).head? with
  | none => wrong message
  | some d =>
    skip 1
    let pattern ← delimited d true message
    let text ← delimited d false message
    let parts := replacementParts (text.length + 1) text
    let f ← readFlags ((← rest).length + 1) ⟨false, false, false, none, false, false, false, none⟩
    let w ← wantedOf pattern f.fold f.lines
    let groups := ((← expression pattern).map (·.groups)).getD 9
    let highest := (parts.map fun p =>
      match p with
      | .group n => n
      | _ => 0).foldl max 0
    if groups < highest then
      wrong ("invalid reference \\" ++ toString highest ++ " on \x60s' command's RHS")
    pure ⟨w, parts, f.all, f.nth.getD 1, f.runs, f.early, f.late, f.file⟩

def readExchange : Reader (List (UInt8 × UInt8)) := do
  let message := "unterminated \x60y' command"
  let plain (text : Bytes) : Bytes :=
    let rec go : Nat → Bytes → Bytes
      | 0, bs => bs
      | _, [] => []
      | fuel + 1, b :: rest =>
        if b ≠ 0x5C then b :: go fuel rest
        else
          match escape? rest, rest with
          | some (c, more), _ => c :: go fuel more
          | none, c :: more => (if c = 0x6E then 0x0A else c) :: go fuel more
          | none, [] => [b]
    go (text.length + 1) text
  match (← rest).head? with
  | none => wrong message
  | some d =>
    skip 1
    let old := plain (← delimited d false message)
    let new := plain (← delimited d false message)
    if old.length ≠ new.length then wrong "strings for \x60y' command are different lengths"
    endCommand
    pure (old.zip new).reverse

/-- A text of lines, each of which but the last ends with a backslash, as far as it goes, the rest,
and whether the text has come to its end. -/
def rawText : Nat → Bytes → Bytes × Bytes × Bool
  | 0, bs => ([], bs, true)
  | _, [] => ([0x0A], [], true)
  | fuel + 1, b :: rest =>
    if b = 0x0A then ([b], rest, true)
    else
      match if b = 0x5C then some rest else none with
      | some [] => ([0x0A], [], false)
      | some (c :: more) =>
        let (text, r) := rawText fuel more
        (b :: c :: text, r)
      | none =>
        let (text, r) := rawText fuel rest
        (b :: text, r)

def readText (before : Bytes) : Reader Bytes := do
  let bs ← rest
  let (text, more, ended) := rawText (bs.length + 1) bs
  goTo more
  let text := before ++ text
  if ended then pure (cooked true (text.length + 1) text)
  else
    modify fun s => { s with pending := some text }
    pure text

def readAddition (b : Option UInt8) : Reader Bytes := do
  match b with
  | none => wrong "expected \\ after \x60a', \x60c' or \x60i'"
  | some 0x5C =>
    let bs ← rest
    match bs with
    | [] =>
      modify fun s => { s with pending := some [] }
      pure []
    | c :: _ =>
      if c = 0x0A then skip 1
      readText []
  | b =>
    unread b
    readText []

def add (selector : Selector) (f : Function) : Reader Unit :=
  modify fun s => { s with instructions := s.instructions.push ⟨selector, f⟩ }

def readAmount : Reader (Option Nat) := do
  match ← next? with
  | some b =>
    if ByteClass.isDigit b then pure (some (← numberFrom (some b)))
    else
      unread (some b)
      pure none
  | none => pure none

def isNewer (version : Bytes) : Bool :=
  let numbers := (linesBy 0x2E version).map fun w => (digits? w).getD 0
  match numbers with
  | [] => false
  | [a] => 4 < a
  | a :: b :: more => 4 < a || (a == 4 && (9 < b || (b == 9 && more.any (0 < ·))))

def readFunction (selector : Selector) (letter : UInt8) : Reader Unit := do
  let simple (f : Function) : Reader Unit := do
    endCommand
    add selector f
  let adding (f : Bytes → Function) : Reader Unit := do
    add selector (f (← readAddition (← next?)))
  match Char.ofNat letter.toNat with
  | '#' =>
    if selector.first.isSome then wrong "comments don't accept any addresses"
    let s ← get
    let isMark := s.first ∧ s.taken = 1 ∧ s.rest.head? = some 0x6E ∧
      (s.rest.drop 1).headD 0x0A = 0x0A
    if isMark then modify fun s => { s with silent := true }
    skipWhile (· ≠ 0x0A)
  | '\x7b' =>
    let s ← get
    let start := match s.origin with
      | .argument _ => s.place 0
      | .file _ => s.place s.taken
    set { s with blocks := (s.instructions.size, start) :: s.blocks }
    add selector (.block 0)
  | '\x7d' =>
    let s ← get
    match s.blocks with
    | [] => wrong "unexpected \x60\x7d'"
    | (start, _) :: others =>
      if selector.first.isSome then wrong "\x7d doesn't want any addresses"
      match s.instructions[start]? with
      | some i =>
        set { s with
          blocks := others
          instructions := s.instructions.setIfInBounds start
            { i with function := .block s.instructions.size } }
      | none => pure ()
      endCommand
  | 's' => add selector (.substitute (← readSubstitution))
  | 'y' => add selector (.exchange (← readExchange))
  | 'p' => simple .print
  | 'P' => simple .printFirst
  | 'd' => simple .delete
  | 'D' => simple .deleteFirst
  | 'n' => simple .next
  | 'N' => simple .appendNext
  | 'h' => simple .hold
  | 'H' => simple .holdMore
  | 'g' => simple .recall
  | 'G' => simple .recallMore
  | 'x' => simple .swap
  | '=' => simple .number
  | 'F' => simple .fileName
  | 'z' => simple .clear
  | 'l' =>
    let n ← readAmount
    simple (.reveal n)
  | 'q' =>
    if selector.second.isSome then wrong "command only uses one address"
    let n ← readAmount
    simple (.quit (n.getD 0))
  | 'Q' =>
    if selector.second.isSome then wrong "command only uses one address"
    let n ← readAmount
    simple (.quitSilently (n.getD 0))
  | 'a' => adding .append
  | 'i' => adding .insert
  | 'c' => adding .change
  | 'e' =>
    refuseIfClosed
    match ← next? with
    | none => add selector (.run [])
    | some 0x0A => add selector (.run [])
    | b => add selector (.run (← readAddition b))
  | ':' =>
    if selector.first.isSome then wrong ": doesn't want any addresses"
    let name ← readLabel
    if name.isEmpty then wrong "\":\" lacks a label"
    add selector (.label name)
  | 'b' => add selector (.jump (← readLabel))
  | 't' => add selector (.jumpIf (← readLabel) true)
  | 'T' => add selector (.jumpIf (← readLabel) false)
  | 'r' => add selector (.readFile (← readName))
  | 'R' => add selector (.readLine (← readName))
  | 'w' => add selector (.write (← readTarget))
  | 'W' => add selector (.writeFirst (← readTarget))
  | 'v' =>
    let version ← readLabel
    if isNewer version then wrong "expected newer version of sed"
  | _ => wrongBytes (bytesOf "unknown command: \x60" ++ [letter] ++ bytesOf "'")

def readCommands : Nat → Reader Unit
  | 0 => pure ()
  | fuel + 1 => do
    skipWhile fun b => ByteClass.isSpace b || b == 0x3B
    if (← rest).isEmpty then pure ()
    else
      let (selector, letter) ← selectorFrom (← next?)
      match letter with
      | none => wrong "missing command"
      | some letter =>
        readFunction selector letter
        readCommands fuel

def Function.withText (text : Bytes) : Function → Function
  | .append _ => .append text
  | .insert _ => .insert text
  | .change _ => .change text
  | .run _ => .run text
  | f => f

def readSource (origin : Origin) (text : Bytes) : Reader Unit := do
  modify fun s => { s with origin := origin, rest := text, taken := 0, line := 1 }
  match (← get).pending with
  | some before =>
    modify fun s => { s with pending := none }
    let more ← readText before
    modify fun s => { s with
      instructions := s.instructions.modify (s.instructions.size - 1) fun i =>
        { i with function := i.function.withText more } }
  | none => pure ()
  readCommands (text.length + 1)
  modify fun s => { s with first := false }

def readSources (sources : List (Origin × Bytes)) : Reader Unit := do
  for (origin, text) in sources do
    readSource origin text
  let s ← get
  match s.blocks with
  | (_, place) :: _ => throw ⟨place ++ bytesOf ": unmatched \x60\x7b'", 1⟩
  | [] => pure ()
  let labels := s.instructions.toList.filterMap fun i =>
    match i.function with
    | .label name => some name
    | _ => none
  for i in s.instructions do
    let wanted := match i.function with
      | .jump name => name
      | .jumpIf name _ => name
      | _ => []
    if !wanted.isEmpty ∧ !labels.contains wanted then
      throw ⟨bytesOf "can't find label for jump to \x60" ++ wanted ++ bytesOf "'", 4⟩

end CallChart.Shell.Tool.Edit
