import CallChart.Shell.Regex
import CallChart.Shell.Tool.Copy
import CallChart.Shell.Tool.Naming

namespace CallChart.Shell.Tool

open CallChart.Shell.Action

namespace Search

structure Wanted where
  patterns : List Regex
  fold : Bool
  eager : Bool

def Wanted.find? (w : Wanted) (line : Array UInt8) (place : Nat) : Option (Nat × Nat) :=
  (w.patterns.filterMap fun r =>
    let v : Regex.View := ⟨line, w.fold, false⟩
    (if w.eager then r.findFirst? v place else r.find? v place).map fun m =>
      (m.start, m.stop)).foldl
      (fun best m =>
        match best with
        | none => some m
        | some b => if m.1 < b.1 ∨ (m.1 = b.1 ∧ b.2 < m.2) then some m else some b) none

def Wanted.all (w : Wanted) (line : Array UInt8) : Nat → Nat → List (Nat × Bytes)
  | 0, _ => []
  | fuel + 1, place =>
    match w.find? line place with
    | none => []
    | some (start, stop) =>
      if stop = start then
        if line.size ≤ stop then [] else w.all line fuel (stop + 1)
      else (start, (line.extract start stop).toList) :: w.all line fuel stop

def partsOfText (bs : Bytes) : List Bytes :=
  bs.foldr (fun b (lines : List Bytes) =>
    if b = 0x0A then [] :: lines
    else
      match lines with
      | [] => [[b]]
      | line :: rest => (b :: line) :: rest) [[]]

def otherWords : List (String × String) :=
  [("Unmatched ( or \\(", "missing closing parenthesis"),
    ("Unmatched ) or \\)", "unmatched closing parenthesis"),
    (Regex.unmatchedBracket, "missing terminating ] for character class"),
    ("Invalid preceding regular expression", "quantifier does not follow a repeatable item"),
    ("Trailing backslash", "\\ at end of pattern"),
    ("Invalid back reference", "reference to non-existent subpattern"),
    ("Invalid content of \\\x7b\\\x7d", "numbers out of order in \x7b\x7d quantifier"),
    ("Invalid character class name", "unknown POSIX class name"),
    ("Invalid range end", "range out of order in character class"),
    ("Regular expression too big", "number too big in \x7b\x7d quantifier")]

def foldMark : Bytes := bytesOf "(?i)"

def readPattern (kind : Char) (text : Bytes) : Except String Regex.Expression :=
  match kind with
  | 'F' => .ok ⟨Regex.literal text, 0, []⟩
  | 'E' => Regex.read .lenient text
  | 'P' =>
    (Regex.read .looking (if foldMark.isPrefixOf text then text.drop 4 else text)).mapError
      fun message => (otherWords.lookup message).getD message
  | _ => Regex.read .basic text

def readPatterns (g : Given) (kind : Char) (texts : List Bytes) :
    Except String (List Regex × List String) := do
  let expressions ← (texts.flatMap partsOfText).mapM (readPattern kind)
  let wrap (r : Regex) : Regex :=
    let r := if g.has 'w' then .seq (.clear false) (.seq r (.clear true)) else r
    if g.has 'x' then .seq .start (.seq r .stop) else r
  pure (expressions.map fun e => wrap e.regex, (expressions.flatMap (·.warnings)).eraseDups)

def behindHits (distance left : Nat) : List Bool → List Bool
  | [] => []
  | hit :: rest =>
    let left := if hit then distance + 1 else left
    decide (0 < left) :: behindHits distance (left - 1) rest

def nearHits (before after : Nat) (hits : List Bool) : List Bool :=
  (behindHits after 0 hits).zipWith (· || ·) (behindHits before 0 hits.reverse).reverse

def firstHits : Nat → List Bool → List Bool
  | _, [] => []
  | 0, _ :: rest => false :: firstHits 0 rest
  | n + 1, true :: rest => true :: firstHits n rest
  | n + 1, false :: rest => false :: firstHits (n + 1) rest

structure Manner where
  wanted : Wanted
  inverted : Bool
  limit : Option Nat
  before : Nat
  after : Nat
  separator : Option Bytes
  ending : UInt8
  asText : Bool
  skipsBinary : Bool
  label : Bytes
  named : Bool
  given : Given

def Manner.has (m : Manner) (c : Char) : Bool := m.given.has c

/-- What stands before a line: the name of the input, and numbers, each with a mark behind it.
Numbers are as wide as those of the size of the input if things are to stand below each other. -/
def Manner.lead (m : Manner) (label : Bytes) (size : Nat) (mark : UInt8) (number offset : Nat) :
    Bytes :=
  let name := if m.named then label ++ (if m.has 'Z' then [0] else [mark]) else []
  let count (c : Char) (n : Nat) : Bytes :=
    if m.has c then
      bytesOf (padLeft (if m.has 'T' then (toString size).length else 0) (toString n)) ++ [mark]
    else []
  let tab : Bytes := if m.has 'T' ∧ (m.named ∨ m.has 'n' ∨ m.has 'b') then [0x09] else []
  name ++ count 'n' number ++ count 'b' offset ++ tab

structure Line where
  text : Bytes
  number : Nat
  offset : Nat
  hit : Bool
  shown : Bool

def Manner.lines (m : Manner) (bytes : Bytes) : List Line :=
  let texts := linesBy m.ending bytes
  let hits := texts.map fun t => (m.wanted.find? t.toArray 0).isSome != m.inverted
  let hits := match m.limit with
    | some n => firstHits n hits
    | none => hits
  let near := nearHits m.before m.after hits
  let offsets := (texts.foldl (fun (s : Nat × List Nat) t => (s.1 + t.length + 1, s.1 :: s.2))
    (0, [])).2.reverse
  ((texts.zip offsets).zip (hits.zip near)).zipIdx.map fun (((t, o), hit, near), i) =>
    ⟨t, i + 1, o, hit, near⟩

def Manner.shown (m : Manner) (label : Bytes) (size : Nat) (first : Bool) (lines : List Line) :
    List Bytes :=
  let step (s : Option Nat × List Bytes) (l : Line) : Option Nat × List Bytes :=
    if !l.shown then s
    else
      let apart : Bool := match s.1 with
        | some n => n + 1 < l.number
        | none => !first
      let between : Bytes := match m.separator with
        | some bs => if apart then bs ++ [0x0A] else []
        | none => []
      let mark : UInt8 := if l.hit then 0x3A else 0x2D
      let matched : Bytes :=
        if !m.has 'o' then m.lead label size mark l.number l.offset ++ l.text ++ [m.ending]
        else if !l.hit ∨ m.inverted then []
        else
          (m.wanted.all l.text.toArray (l.text.length + 2) 0).flatMap fun (place, bs) =>
            m.lead label size mark l.number (l.offset + place) ++ bs ++ [m.ending]
      (some l.number, (between ++ matched) :: s.2)
  (lines.foldl step (none, [])).2.reverse

structure Outcome where
  found : Bool
  failed : Bool
  shown : Bool

def lengthUpTo (lines : List Line) (total : Nat) : Nat :=
  match (lines.reverse.find? (·.shown)) with
  | some l => min total (l.offset + l.text.length + 1)
  | none => total

def Manner.search (m : Manner) (label : Bytes) (first : Bool) (id : Nat) : Action Outcome := do
  let w ← getWorld
  let bytes := w.readable id
  let binary := m.ending = 0x0A ∧ bytes.contains 0 ∧ !m.asText
  let lines := m.lines (if binary then bytes.map fun b => if b = 0 then 0x0A else b else bytes)
  let count := (lines.filter (·.hit)).length
  let early : Bool := m.limit = some count
  let consumed := match w.stream id with
    | .file .. => if early then lengthUpTo lines bytes.length else bytes.length
    | _ => bytes.length
  modifyWorld (·.consume id consumed)
  let count := if binary ∧ m.skipsBinary then 0 else count
  let found : Bool := 0 < count
  let nameLine : Bytes := label ++ (if m.has 'Z' then [0] else [0x0A])
  let mut shown := false
  if m.has 'q' then pure ()
  else if m.has 'l' ∨ m.has 'L' then
    if found = (m.given.last? ['l', 'L'] = some 'l') then output nameLine
  else if m.has 'c' then
    output ((if m.named then label ++ (if m.has 'Z' then [0] else [0x3A]) else []) ++
      bytesOf (toString count) ++ [0x0A])
  else if binary then
    if found then putLine ("grep: " ++ textOf label ++ ": binary file matches")
  else
    let parts := m.shown label bytes.length first lines
    if !parts.isEmpty then shown := true
    for part in parts do
      output part
  let stops := early || (found && (m.has 'q' || m.has 'l' || m.has 'L' || binary))
  if !w.ends id ∧ !stops then endless
  pure ⟨found, false, shown⟩

structure Choice where
  included : List (List Pattern)
  excluded : List (List Pattern)
  excludedDirectories : List (List Pattern)

def Choice.ofGiven (g : Given) : Choice :=
  let read (c : Char) := (g.values c).map Pattern.ofBytes
  ⟨read '\x02', read '\x03', read '\x04'⟩

def matchesAny (ps : List (List Pattern)) (name : String) : Bool :=
  ps.any fun p => Pattern.matchesAll p (bytesOf name)

def Choice.wants (c : Choice) (name : String) : Bool :=
  (c.included.isEmpty || matchesAny c.included name) && !matchesAny c.excluded name

def filesBelow (c : Choice) (follow : Bool) : Nat → String → Path → Action (List String)
  | 0, _, _ => pure []
  | fuel + 1, label, p => do
    let parts ← (← namesAt p).mapM fun name => do
      let path := if label.isEmpty then name else inside label name
      match (← getWorld).disk.entry follow p name with
      | .ok (q, some n) =>
        if n.isDirectory then
          if matchesAny c.excludedDirectories name then pure []
          else filesBelow c follow fuel path q
        else if n.isFile then pure (if c.wants name then [path] else [])
        else pure []
      | _ => pure []
    pure parts.flatten

def isOutput (id : Nat) : Action Bool := do
  let w ← getWorld
  match w.stream id, (← streamOf 1).map w.stream with
  | .file a .., some (.file b ..) => pure (a == b)
  | _, _ => pure false

def Manner.searchOperand (m : Manner) (operand : Bytes) (first : Bool) : Action Outcome := do
  let failed : Outcome := ⟨false, true, false⟩
  let standard := operand = [0x2D]
  let label := if standard then m.label else operand
  let complain (reason : String) : Action Outcome := do
    if !m.has 's' then say "grep" (textOf label ++ ": " ++ reason)
    pure failed
  let source : Except FileFault Nat ← if standard then
      match ← streamOf 0 with
      | some id => pure (.ok id)
      | none => pure (.error .badDescriptor)
    else openInput (textOf operand)
  match source with
  | .error fault => complain fault.reason
  | .ok id =>
    match (← getWorld).unreadable? id with
    | some .isDirectory =>
      match (m.given.value? 'd').map textOf with
      | some "skip" => pure ⟨false, false, false⟩
      | _ => complain "Is a directory"
    | some fault => complain fault.reason
    | none =>
      let showing := !(['q', 'l', 'L', 'c'].any m.has)
      if showing ∧ m.limit ≠ some 1 ∧ (← isOutput id) then
        complain "input file is also the output"
      else m.search label first id

def inputs (g : Given) (operands : List Bytes) : Action (List Bytes) := do
  let recursive := g.has 'r' ∨ g.has 'R' ∨ (g.value? 'd').map textOf = some "recurse"
  let choice := Choice.ofGiven g
  let parts ← operands.mapM fun w => do
    if w = [0x2D] ∧ !(recursive ∧ g.operands.isEmpty) then pure [w]
    else
      match ← entryAt (textOf w) with
      | .ok (p, some n) =>
        if n.isDirectory then
          if recursive then
            if matchesAny choice.excludedDirectories (lastStep (textOf w)) then pure []
            else
              let paths ← filesBelow choice (g.has 'R') 1000 (textOf w) p
              pure (paths.map bytesOf)
          else pure [w]
        else if choice.wants (lastStep (textOf w)) then pure [w] else pure []
      | _ => pure [w]
  pure parts.flatten

def usage : String :=
  "Usage: grep [OPTION]... PATTERNS [FILE]...\nTry 'grep --help' for more information.\n"

def known : Known := ⟨"0123456789EFGHILPTUVZabchilnoqRrsuvwxyz", "ABCDXdefm",
  [("after-context=", 'A'), ("basic-regexp", 'G'), ("before-context=", 'B'),
    ("binary", 'U'), ("binary-files=", '\x05'), ("byte-offset", 'b'), ("color?", '\x06'),
    ("colour?", '\x06'), ("context=", 'C'), ("count", 'c'), ("devices=", 'D'),
    ("directories=", 'd'), ("dereference-recursive", 'R'), ("exclude=", '\x03'),
    ("exclude-dir=", '\x04'), ("exclude-from=", '\x07'), ("extended-regexp", 'E'),
    ("file=", 'f'), ("files-with-matches", 'l'), ("files-without-match", 'L'),
    ("fixed-regexp", 'F'), ("fixed-strings", 'F'), ("group-separator=", '\x08'),
    ("ignore-case", 'i'), ("include=", '\x02'), ("initial-tab", 'T'), ("invert-match", 'v'),
    ("label=", '\x09'), ("line-buffered", 'u'), ("line-number", 'n'), ("line-regexp", 'x'),
    ("max-count=", 'm'), ("no-filename", 'h'), ("no-group-separator", '\x0b'),
    ("no-ignore-case", '\x0c'), ("no-messages", 's'), ("null", 'Z'), ("null-data", 'z'),
    ("only-matching", 'o'), ("perl-regexp", 'P'), ("quiet", 'q'), ("recursive", 'r'),
    ("regexp=", 'e'), ("silent", 'q'), ("text", 'a'), ("unix-byte-offsets", 'u'),
    ("version", 'V'), ("with-filename", 'H'), ("word-regexp", 'w')]⟩

def lineCount? (w : Bytes) : Option (Option Nat) :=
  match countOf "" w with
  | .ok n => some (some n)
  | .error .tooLarge => some none
  | .error _ => none

def wrongValue (g : Given) : Option String :=
  let bad (c : Char) : Option Bytes := (g.values c).find? fun w =>
    (lineCount? w).isNone && !(c == 'm' && (w.head? == some 0x2D && (digits? (w.drop 1)).isSome))
  let context := ['A', 'B', 'C'].findSome? bad
  match context, bad 'm', g.value? '\x05', g.value? 'd', g.value? 'D' with
  | some w, _, _, _, _ => some (textOf w ++ ": invalid context length argument")
  | _, some _, _, _, _ => some "invalid max count"
  | _, _, some w, _, _ =>
    if ["binary", "text", "without-match"].contains (textOf w) then none
    else some "unknown binary-files type"
  | _, _, _, _, some w =>
    if ["read", "skip"].contains (textOf w) then none else some "unknown devices method"
  | _, _, _, _, _ => none

def Manner.ofGiven (g : Given) (kind : Char) (folded : Bool) (patterns : List Regex)
    (several : Bool) : Manner :=
  let digits := (g.options.map (·.1)).filter Char.isDigit
  let number (c : Char) : Option Nat :=
    (g.value? c).bind fun w => (lineCount? w).map (·.getD countLimit)
  let around := (number 'C') <|>
    (if digits.isEmpty then none else digits? (Utf8.encodeChars digits))
  let before := (number 'B') <|> around
  let after := (number 'A') <|> around
  let separates := before.isSome || after.isSome
  let folds := match g.last? ['i', 'y', '\x0c'] with
    | some c => c ≠ '\x0c'
    | none => false
  let separator := match g.last? ['\x08', '\x0b'] with
    | some '\x08' => g.value? '\x08'
    | some _ => none
    | none => some (bytesOf "--")
  let binary := ((g.value? '\x05').map textOf).getD ""
  let named := match g.last? ['H', 'h'] with
    | some c => c = 'H'
    | none => several
  ⟨⟨patterns, folds || folded, kind = 'P'⟩, g.has 'v', number 'm', before.getD 0, after.getD 0,
    if separates then separator else none, if g.has 'z' then 0 else 0x0A,
    g.has 'a' || binary = "text", g.has 'I' || binary = "without-match",
    (g.value? '\x09').getD (bytesOf "(standard input)"), named, g⟩

end Search

def patternsOf (name : String) (g : Given) :
    Action (Except Nat (Option (List Bytes × List Bytes))) := do
  let files := g.values 'f'
  let mut texts := g.values 'e'
  let mut failure : Option Nat := none
  for file in files do
    if failure.isNone then
      match ← contents name file with
      | some bytes => if !bytes.isEmpty then texts := texts ++ linesOf bytes
      | none => failure := some 2
  match failure with
  | some status => pure (.error status)
  | none =>
    if g.has 'e' ∨ g.has 'f' then pure (.ok (some (texts, g.operands)))
    else
      match g.operands with
      | [] => pure (.ok none)
      | p :: rest => pure (.ok (some ([p], rest)))

def grepAs (kind : Char) : Tool := fun _ words => do
  let name := "grep"
  match parse Search.known false (words.length + 1) words with
  | .error message =>
    say name message
    writeText 2 Search.usage
    pure 2
  | .ok g =>
    let modes := ["read", "recurse", "skip"]
    match Search.wrongValue g, (g.values 'd').find? fun w => (choice? modes w).isNone with
    | some message, _ =>
      say name message
      pure 2
    | none, some w =>
      sayWords name "--directories" (modes.map ([·])) w
      writeText 2 Search.usage
      pure 2
    | none, none =>
      if g.has 'V' then
        putLine (versionOf name)
        pure 0
      else
        match ← patternsOf name g with
        | .error status => pure status
        | .ok none =>
          writeText 2 Search.usage
          pure 2
        | .ok (some (texts, operands)) =>
          let kinds := (g.options.map (·.1)).filter ['E', 'F', 'G', 'P'].contains
          let kinds := (if kind = 'G' then kinds else kind :: kinds).eraseDups
          let kind := kinds.headD 'G'
          match if 1 < kinds.length then .error "conflicting matchers specified"
              else Search.readPatterns g kind texts with
          | .error message =>
            say name message
            pure 2
          | .ok (patterns, warnings) =>
            for warning in warnings do
              say name ("warning: " ++ warning)
            let recursive := g.has 'r' || g.has 'R'
            let bare := recursive && operands.isEmpty
            let found ← if bare then
                Search.filesBelow (.ofGiven g) (g.has 'R') 1000 "" (← get).directory
                  >>= fun paths => pure (paths.map bytesOf)
              else Search.inputs g (if operands.isEmpty then [[0x2D]] else operands)
            let searchesTree := recursive || (g.value? 'd').map textOf == some "recurse"
            let several := 1 < operands.length || bare ||
              (searchesTree && (← isDirectoryAt (textOf (operands.headD []))))
            let folds := kind = 'P' ∧ texts.any Search.foldMark.isPrefixOf
            let m := Search.Manner.ofGiven g kind folds patterns several
            if m.limit = some 0 then pure 1
            else
              let mut total : Search.Outcome := ⟨false, false, false⟩
              for operand in found do
                if !(total.found ∧ g.has 'q') then
                  let o ← m.searchOperand operand !total.shown
                  total := ⟨total.found || o.found, total.failed || o.failed,
                    total.shown || o.shown⟩
              pure (if total.failed ∧ !(total.found ∧ g.has 'q') then 2
                else if total.found then 0 else 1)

def grep : Tool := grepAs 'G'

end CallChart.Shell.Tool
