import CallChart.Executable
import CallChart.Shell.Child

namespace CallChart.Shell

abbrev Tool := String → List Bytes → Action Nat

namespace Tool

open CallChart.Shell.Action

def digits? (bytes : Bytes) : Option Nat := Builtin.digits? bytes

def putLine (text : String) : Action Unit := Builtin.putLine text

/-- The options that a program knows: letters without and with a value, and long names. A question
mark behind a letter or a long name tells that its value may be missing; an equality sign behind a
long name, that it has one. -/
structure Known where
  flags : String
  valued : String
  long : List (String × Char)

structure Given where
  options : List (Char × Bytes)
  operands : List Bytes

namespace Given

def has (g : Given) (c : Char) : Bool := g.options.any (·.1 == c)

def value? (g : Given) (c : Char) : Option Bytes :=
  (g.options.reverse.find? (·.1 == c)).map (·.2)

def values (g : Given) (c : Char) : List Bytes :=
  (g.options.filter (·.1 == c)).map (·.2)

def last? (g : Given) (cs : List Char) : Option Char :=
  (g.options.reverse.find? fun o => cs.contains o.1).map (·.1)

end Given

def Known.valueOf? (known : Known) (c : Char) : Option Bool :=
  let rec go : List Char → Option Bool
    | [] => none
    | d :: rest => if d = c ∧ c ≠ '?' then some (rest.head? == some '?') else go rest
  go known.valued.toList

def letters (known : Known) (next : List Bytes) :
    List Char → Except String (List (Char × Bytes) × List Bytes)
  | [] => .ok ([], next)
  | c :: rest =>
    if known.flags.toList.contains c then do
      let (more, next) ← letters known next rest
      pure ((c, []) :: more, next)
    else
      match known.valueOf? c with
      | none => .error ("invalid option -- '" ++ c.toString ++ "'")
      | some true => .ok ([(c, Utf8.encodeChars rest)], next)
      | some false =>
        match rest, next with
        | _ :: _, next => .ok ([(c, Utf8.encodeChars rest)], next)
        | [], value :: rest => .ok ([(c, value)], rest)
        | [], [] => .error ("option requires an argument -- '" ++ c.toString ++ "'")

def longOption (known : Known) (text : String) (next : List Bytes) :
    Except String ((Char × Bytes) × List Bytes) :=
  let cs := text.toList
  let name := String.ofList (cs.takeWhile (· ≠ '='))
  let value := if cs.contains '=' then some (Utf8.encodeChars ((cs.dropWhile (· ≠ '=')).drop 1))
    else none
  let bare (long : String) : String :=
    String.ofList (long.toList.takeWhile fun c => c ≠ '=' ∧ c ≠ '?')
  let exact := known.long.filter fun o => bare o.1 == name
  let candidates := if exact.isEmpty then known.long.filter fun o => Text.startsWith name (bare o.1)
    else exact
  match candidates with
  | [] => .error ("unrecognized option '--" ++ text ++ "'")
  | (long, c) :: more =>
    if more.any (·.2 ≠ c) then
      .error ("option '--" ++ text ++ "' is ambiguous; possibilities:" ++
        String.join (candidates.map fun o => " '--" ++ bare o.1 ++ "'"))
    else if long.toList.contains '=' then
      match value, next with
      | some v, next => .ok ((c, v), next)
      | none, v :: next => .ok ((c, v), next)
      | none, [] => .error ("option '--" ++ bare long ++ "' requires an argument")
    else if long.toList.contains '?' then .ok ((c, value.getD []), next)
    else
      match value with
      | some _ => .error ("option '--" ++ bare long ++ "' doesn't allow an argument")
      | none => .ok ((c, []), next)

def parse (known : Known) (strict : Bool) : Nat → List Bytes → Except String Given
  | 0, words => .ok ⟨[], words⟩
  | _, [] => .ok ⟨[], []⟩
  | fuel + 1, w :: rest =>
    match (textOf w).toList with
    | ['-', '-'] => .ok ⟨[], rest⟩
    | '-' :: '-' :: long => do
      let (o, rest) ← longOption known (String.ofList long) rest
      let g ← parse known strict fuel rest
      pure { g with options := o :: g.options }
    | '-' :: c :: cs => do
      let (os, rest) ← letters known rest (c :: cs)
      let g ← parse known strict fuel rest
      pure { g with options := os ++ g.options }
    | _ =>
      if strict then .ok ⟨[], w :: rest⟩
      else do
        let g ← parse known strict fuel rest
        pure { g with operands := w :: g.operands }

def say (name message : String) : Action Unit := do
  flush
  writeText 2 (name ++ ": " ++ message ++ "\n")

def sayTry (name : String) : Action Unit :=
  writeText 2 ("Try '" ++ name ++ " --help' for more information.\n")

def misuse (name message : String) (status : Nat) : Action Nat := do
  say name message
  sayTry name
  pure status

def isPrintable (b : UInt8) : Bool := 0x20 ≤ b && b < 0x7F

def escapedByte (b : UInt8) : String :=
  match [(0x07, "\\a"), (0x08, "\\b"), (0x09, "\\t"), (0x0A, "\\n"), (0x0B, "\\v"),
      (0x0C, "\\f"), (0x0D, "\\r")].lookup b with
  | some s => s
  | none =>
    let digit (n : Nat) : Char := Nat.digitChar (n % 8)
    String.ofList ['\\', digit (b.toNat / 64), digit (b.toNat / 8), digit b.toNat]

def quote (w : Bytes) : String :=
  "'" ++ String.join (w.map fun b =>
    if b = 0x27 then "\\'" else if b = 0x5C then "\\\\"
    else if isPrintable b then textOf [b] else escapedByte b) ++ "'"

def quoted (w : Bytes) : String :=
  let breaks (b : UInt8) : Bool := (bytesOf "\"$`\\!").contains b || !isPrintable b
  if w.contains 0x27 ∧ !w.any breaks then "\"" ++ textOf w ++ "\""
  else
    let step (s : String × Bool) (b : UInt8) : String × Bool :=
      if !isPrintable b then (s.1 ++ (if s.2 then "" else "'$'") ++ escapedByte b, true)
      else
        let start := s.1 ++ if s.2 then "''" else ""
        (start ++ if b = 0x27 then "'\\''" else textOf [b], false)
    (w.foldl step ("'", false)).1 ++ "'"

def named (w : Bytes) : String :=
  let special := bytesOf " !\"$&()*;<=>[^`|?\\':"
  let needs := w.isEmpty || w.any (fun b => special.contains b || !isPrintable b) ||
    w.head? == some 0x23 || w.head? == some 0x7E || w == [0x7B] || w == [0x7D]
  if needs then quoted w else textOf w

def sayOf (name : String) (file : Bytes) (message : String) : Action Unit :=
  say name (named file ++ ": " ++ message)

def versionOf (program : String) : String :=
  if ["grep", "egrep", "fgrep"].contains program then "grep (GNU grep) 3.8"
  else if program = "sed" then "sed (GNU sed) 4.9"
  else if ["find", "xargs"].contains program then program ++ " (GNU findutils) 4.9.0"
  else if ["diff", "cmp"].contains program then program ++ " (GNU diffutils) 3.8"
  else program ++ " (GNU coreutils) 9.1"

def withParsed (strict : Bool) (known : Known) (status : Nat)
    (body : String → Given → Action Nat) : Tool :=
  fun name words => do
    match parse { known with long := known.long ++ [("version", '\x01')] } strict
        (words.length + 1) words with
    | .ok g =>
      if g.has '\x01' then
        putLine (versionOf ((Text.split '/' name).getLastD name))
        pure 0
      else body name g
    | .error message => misuse name message status

def withOptions (known : Known) (status : Nat) (body : String → Given → Action Nat) : Tool :=
  withParsed false known status body

def withLeadingOptions (known : Known) (status : Nat) (body : String → Given → Action Nat) :
    Tool :=
  withParsed true known status body

def statusOf (done : Bool) : Nat := if done then 0 else 1

def choice? (choices : List String) (w : Bytes) : Option String :=
  let text := textOf w
  if choices.contains text then some text
  else
    match choices.filter (Text.startsWith text ·) with
    | [c] => some c
    | _ => none

def sayWords (name option : String) (groups : List (List String)) (w : Bytes) : Action Unit := do
  let ambiguous := 1 < (groups.flatten.filter (Text.startsWith (textOf w) ·)).length
  say name ((if ambiguous then "ambiguous" else "invalid") ++ " argument " ++ quote w ++ " for '" ++
    option ++ "'")
  writeText 2 "Valid arguments are:\n"
  for words in groups do
    writeText 2 ("  - " ++ ", ".intercalate (words.map fun c => "'" ++ c ++ "'") ++ "\n")

def wrongWord (name option : String) (groups : List (List String)) (w : Bytes) (status : Nat) :
    Action Nat := do
  sayWords name option groups w
  sayTry name
  pure status

def wrongChoice (name option : String) (choices : List String) (w : Bytes) (status : Nat) :
    Action Nat :=
  wrongWord name option (choices.map ([·])) w status

inductive Refusal where
  | plain (message : String)
  | usage (message : String)
  | word (option : String) (choices : List String) (given : Bytes)

def Refusal.tell (name : String) : Refusal → Action Nat
  | .plain message => do
    say name message
    pure 1
  | .usage message => misuse name message 1
  | .word option choices given => wrongChoice name option choices given 1

/-- What a program says about output that cannot be written, and how it ends then. Some notice only
when they close their output, and do not know any more what was wrong. -/
def writeFailure (program fault : String) : List String × Nat :=
  let closed := fault = FileFault.reason .badDescriptor
  let late := "write error" ++ if closed then ": " ++ fault else ""
  let plain := ["write error: " ++ fault]
  match program with
  | "sort" => (["fflush failed: 'standard output': " ++ fault, late], 2)
  | "find" => (["'standard output': " ++ fault, late], 1)
  | "sed" => (["couldn't " ++ (if closed then "close" else "flush") ++ " stdout: " ++ fault], 4)
  | "mawk" => (["close failed on file \"/dev/stdout\" (" ++ fault ++ ")"], 2)
  | "diff" => (["standard output: " ++ fault], 2)
  | "env" => (plain, 125)
  | "expr" => (plain, 3)
  | "tty" => (plain, 3)
  | "getopt" => (plain, 3)
  | "hostname" => ([], 0)
  | "gzip" => (["stdout: " ++ fault], 1)
  | _ =>
    if ["wc", "du", "sum", "cksum", "md5sum", "sha1sum", "sha224sum", "sha256sum", "sha384sum",
        "sha512sum", "b2sum"].contains program then ([late], 1)
    else if ["grep", "egrep", "fgrep", "ls", "dir", "vdir", "printenv", "cmp"].contains program then
      (plain, 2)
    else (plain, 1)

def perform (program : String) (tool : Tool) (name : String) (words : List Bytes) :
    Action Unit := do
  modify fun s => { s with buffer := some [], unwritten := none }
  match ← ending (tool name words) with
  | .ok status =>
    flush
    match (← get).unwritten with
    | none => setStatus status
    | some fault =>
      let (messages, failure) := writeFailure program fault
      if program = "gzip" then writeText 2 "\n"
      for message in messages do say name message
      setStatus failure
  | .error (.killed n) => throw (.killed n)
  | .error j =>
    flush
    throw j

def directly {α : Type} (body : Action α) : Action α := do
  flush
  modify fun s => { s with buffer := none }
  afterwards body (modify fun s => { s with buffer := some [] })

def opened (name : String) (operand : Bytes) : Action (Option Nat) := do
  if operand = [0x2D] then
    match ← streamOf 0 with
    | some id => pure (some id)
    | none =>
      say name "-: Bad file descriptor"
      pure none
  else
    match ← openInput (textOf operand) with
    | .ok id => pure (some id)
    | .error fault =>
      sayOf name operand fault.reason
      pure none

def drained (name : String) (operand : Bytes) (id : Nat) : Action (Option Bytes) := do
  match (← getWorld).unreadable? id with
  | some fault =>
    sayOf name operand fault.reason
    pure none
  | none => pure (some (← readStream id))

def contents (name : String) (operand : Bytes) : Action (Option Bytes) := do
  match ← opened name operand with
  | none => pure none
  | some id => drained name operand id

def sources (g : Given) : List Bytes :=
  if g.operands.isEmpty then [[0x2D]] else g.operands

def endlessLength : Nat := 1048576

structure Read where
  bytes : Bytes
  whole : Bool
  ended : Bool

def readReady (id : Nat) : Action (Bytes × Bool) := do
  let w ← getWorld
  match w.stream id with
  | .zeros => pure (List.replicate endlessLength 0, false)
  | .full => pure (List.replicate endlessLength 0, false)
  | _ =>
    let bytes := w.readable id
    modifyWorld (·.consume id bytes.length)
    pure (bytes, w.ends id)

def readAll (name : String) : List Bytes → Action Read
  | [] => pure ⟨[], true, true⟩
  | operand :: rest => do
    match ← opened name operand with
    | none =>
      let r ← readAll name rest
      pure { r with whole := false }
    | some id =>
      match (← getWorld).unreadable? id with
      | some fault =>
        sayOf name operand fault.reason
        let r ← readAll name rest
        pure { r with whole := false }
      | none =>
        let (bytes, ended) ← readReady id
        if ended then
          let r ← readAll name rest
          pure { r with bytes := bytes ++ r.bytes }
        else pure ⟨bytes, true, false⟩

def filtered (r : Read) (bytes : Bytes) : Action Nat := do
  output bytes
  if r.ended then pure (statusOf r.whole) else endless

def linesBy (ending : UInt8) (bytes : Bytes) : List Bytes :=
  let cut := bytes.foldr (fun b (s : Bytes × List Bytes) =>
    if b = ending then ([], s.1 :: s.2) else (b :: s.1, s.2)) (([] : Bytes), ([] : List Bytes))
  let lines := cut.1 :: cut.2
  if lines.getLast? = some [] then lines.dropLast else lines

def linesOf (bytes : Bytes) : List Bytes := linesBy 0x0A bytes

def unlinesBy (ending : UInt8) (lines : List Bytes) : Bytes :=
  lines.flatMap (· ++ [ending])

def unlines (lines : List Bytes) : Bytes := unlinesBy 0x0A lines

def joinedLines (ended : Bool) (lines : List Bytes) : Bytes :=
  let bytes := unlines lines
  if ended then bytes else bytes.dropLast

def overLines (f : List Bytes → List Bytes) (bytes : Bytes) : Bytes :=
  joinedLines (bytes.isEmpty ∨ bytes.getLast? = some 0x0A) (f (linesOf bytes))

def countLimit : Nat := 18446744073709551615

inductive CountFault where
  | invalid
  | suffix
  | tooLarge
  deriving DecidableEq, Repr

def multiplier? (letters text : String) : Option Nat :=
  match text.toList with
  | [] => some 1
  | c :: rest =>
    if !letters.toList.contains c then none
    else
      let power := ["kK", "mM", "gG", "tT", "P", "E", "Z", "Y"].findIdx? (·.toList.contains c)
      match c, power, rest with
      | 'b', _, [] => some 512
      | 'c', _, [] => some 1
      | 'w', _, [] => some 2
      | _, some i, [] => some (Nat.pow 1024 (i + 1))
      | _, some i, ['i', 'B'] => some (Nat.pow 1024 (i + 1))
      | _, some i, ['B'] => some (Nat.pow 1000 (i + 1))
      | _, some i, ['D'] => some (Nat.pow 1000 (i + 1))
      | _, _, _ => none

def countOf (letters : String) (bytes : Bytes) : Except CountFault Nat :=
  let body := bytes.dropWhile fun b => b = 0x20 || (0x09 ≤ b && b ≤ 0x0D)
  let body := if body.head? = some 0x2B then body.drop 1 else body
  let number := body.takeWhile fun b => 0x30 ≤ b && b ≤ 0x39
  let rest := textOf (body.drop number.length)
  let factor := multiplier? letters rest
  let n := if number.isEmpty ∧ rest ≠ "" ∧ letters.toList.contains (rest.toList.headD ' ')
    then some 1 else digits? number
  match n with
  | none => .error .invalid
  | some n =>
    match factor with
    | none => .error .suffix
    | some factor => if countLimit < n * factor then .error .tooLarge else .ok (n * factor)

def sizeLetters : String := "bkKmMGTPEZY"

def count? (bytes : Bytes) : Option Nat := (countOf sizeLetters bytes).toOption

def sayCount (name what : String) (w : Bytes) (fault : CountFault) : Action Unit :=
  say name ("invalid " ++ what ++ ": " ++ quote w ++
    if fault = .tooLarge then ": Value too large for defined data type" else "")

def padLeft (width : Nat) (s : String) : String :=
  String.ofList (List.replicate (width - s.length) ' ') ++ s

def padRight (width : Nat) (s : String) : String :=
  s ++ String.ofList (List.replicate (width - s.length) ' ')

def usualPath : Bytes := bytesOf "/bin:/usr/bin"

def located (words : List Bytes) : Action (Except FileFault String) := do
  let name := textOf (words.headD [])
  if name = "" then pure (.error .notFound)
  else
    let path := textOf ((← valueOf? "PATH").getD usualPath)
    let found ← if name.toList.contains '/' then pure (.ok name)
      else Builtin.firstProgram .notFound (Builtin.placesIn path name)
    match found with
    | .error fault => pure (.error fault)
    | .ok path =>
      let s ← get
      match Invocation.resolve s.world.disk s.directory Invocation.depthLimit path words with
      | .error .execFormat => pure (.ok path)
      | .error fault => pure (.error fault)
      | .ok _ => pure (.ok path)

def unstartedStatus (fault : FileFault) : Nat := if fault = .notFound then 127 else 126

def replaced (perform : Perform) (words : List Bytes) (complain : FileFault → Action Unit) :
    Action Nat := do
  match ← located words with
  | .error fault =>
    complain fault
    pure (unstartedStatus fault)
  | .ok path =>
    perform (.replacement path words)
    pure (← get).status

def waited (perform : Perform) (path : String) (words : List Bytes) : Action Ending :=
  asProcess (perform (.replacement path words))

def sayFailedRun (name : String) (words : List Bytes) (fault : FileFault) : Action Unit :=
  say name ("failed to run command " ++ quote (words.headD []) ++ ": " ++ fault.reason)

def sayUnstarted (name : String) (words : List Bytes) (fault : FileFault) : Action Unit :=
  say name (quote (words.headD []) ++ ": " ++ fault.reason)

end Tool
end CallChart.Shell
