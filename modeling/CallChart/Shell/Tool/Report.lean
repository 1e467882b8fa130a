import CallChart.Shell.Tool.Calendar
import CallChart.Shell.Tool.Amount
import CallChart.Shell.Tool.Transfer

namespace CallChart.Shell.Tool

open CallChart.Shell.Action

def inHex (n : Nat) : String := String.ofList (Nat.toDigits 16 n)

def inOctal (n : Nat) : String := String.ofList (Nat.toDigits 8 n)

def rawMode (n : Node) : Nat :=
  (match n.body with
    | .file _ => 0o100000
    | .directory => 0o040000
    | .link _ => 0o120000
    | .device _ => 0o020000
    | .pipe => 0o010000) + n.mode

def inField (flags : List Char) (width : Nat) (text : String) : String :=
  if flags.contains '-' then padRight width text
  else if flags.contains '0' ∧ text.toList.all Char.isDigit then
    String.ofList (List.replicate (width - text.length) '0') ++ text
  else padLeft width text

def fullTime (ms : Int) : String := Calendar.format ms "%Y-%m-%d %H:%M:%S.%N %z".toList

def quotedTarget (w : Bytes) (n : Node) : String :=
  match n.body with
  | .link target => quoted w ++ " -> " ++ quotedText target
  | _ => quoted w

def secondsText (ms : Int) (places : Option Nat) : String :=
  let whole := toString (ms / 1000)
  match places with
  | none => whole
  | some n => whole ++ "." ++ String.ofList
      ((Timestamp.padded 3 (ms % 1000).toNat ++ List.replicate n '0').take n)

def property (s : Session) (w : Bytes) (p : Path) (n : Node) (places : Option Nat) (c : Char) :
    String :=
  match c with
  | 'a' => inOctal n.mode
  | 'A' => Mode.describe n
  | 'b' => toString (blocks n)
  | 'B' => "512"
  | 'C' => "?"
  | 'd' => "45"
  | 'D' => "2d"
  | 'f' => inHex (rawMode n)
  | 'F' => describedKind n
  | 'g' => toString n.group
  | 'G' => groupName n.group
  | 'h' => toString (s.world.disk.linkCount p)
  | 'i' => toString (131072 + (s.world.disk.index? p).getD 0)
  | 'm' => "/"
  | 'n' => textOf w
  | 'N' => quotedTarget w n
  | 'o' => "4096"
  | 's' => toString n.size
  | 't' => match n.body with
    | .device _ => "1"
    | _ => "0"
  | 'T' => match n.body with
    | .device _ => "3"
    | _ => "0"
  | 'u' => toString n.owner
  | 'U' => userName n.owner
  | 'w' => fullTime n.modified
  | 'W' => secondsText n.modified places
  | 'x' => fullTime n.modified
  | 'X' => secondsText n.modified places
  | 'y' => fullTime n.modified
  | 'Y' => secondsText n.modified places
  | 'z' => fullTime n.modified
  | 'Z' => secondsText n.modified places
  | _ => "?"

def filledFormat (s : Session) (escapes : Bool) (w : Bytes) (p : Path) (n : Node) :
    Nat → List Char → List Char
  | 0, _ => []
  | _, [] => []
  | fuel + 1, c :: rest =>
    if c = '%' then
      let flags := rest.takeWhile fun c => "-+ #0'".toList.contains c
      let rest' := rest.drop flags.length
      let digits := rest'.takeWhile Char.isDigit
      let rest' := rest'.drop digits.length
      let (places, rest') := match rest' with
        | '.' :: more =>
          let ds := more.takeWhile Char.isDigit
          (some (if ds.isEmpty then 9 else Calendar.value ds), more.drop ds.length)
        | more => (none, more)
      match rest' with
      | [] => ['%']
      | '%' :: more => '%' :: filledFormat s escapes w p n fuel more
      | k :: more =>
        let text := property s w p n places k
        let text := if places.isSome ∧ !("WXYZ".toList.contains k) then
          String.ofList (text.toList.take (places.getD 0)) else text
        (inField flags (Calendar.value digits) text).toList ++
          filledFormat s escapes w p n fuel more
    else if c = '\\' ∧ escapes then
      match rest with
      | [] => [c]
      | 'n' :: more => '\n' :: filledFormat s escapes w p n fuel more
      | 't' :: more => '\t' :: filledFormat s escapes w p n fuel more
      | '\\' :: more => '\\' :: filledFormat s escapes w p n fuel more
      | '"' :: more => '"' :: filledFormat s escapes w p n fuel more
      | 'a' :: more => '\x07' :: filledFormat s escapes w p n fuel more
      | 'e' :: more => '\x1b' :: filledFormat s escapes w p n fuel more
      | 'x' :: more =>
        let ds := (more.takeWhile fun c => c.isDigit || ('a' ≤ c && c ≤ 'f') ||
          ('A' ≤ c && c ≤ 'F')).take 2
        let value := ds.foldl (fun n c => n * 16 +
          (if c.isDigit then c.toNat - 48 else c.toLower.toNat - 87)) 0
        Char.ofNat value :: filledFormat s escapes w p n fuel (more.drop ds.length)
      | k :: more =>
        if Mode.isOctal k then
          let ds := (rest.takeWhile Mode.isOctal).take 3
          Char.ofNat (Mode.octal ds) :: filledFormat s escapes w p n fuel (rest.drop ds.length)
        else k :: filledFormat s escapes w p n fuel more
    else c :: filledFormat s escapes w p n fuel rest

def usualReport (n : Node) : String :=
  let device := match n.body with
    | .device _ => "     Device type: 1,3"
    | _ => ""
  "  File: " ++ (match n.body with
    | .link target => "%n -> " ++ target
    | _ => "%n") ++
    "\n  Size: %-10s\tBlocks: %-10b IO Block: %-6o %F\nDevice: 0,%d\tInode: %-10i  Links: " ++
    (if device = "" then "%h" else "%-5h" ++ device) ++
    "\nAccess: (%04a/%10.10A)  Uid: (%5u/%8U)   Gid: (%5g/%8G)\n" ++
    "Access: %x\nModify: %y\nChange: %z\n Birth: %w\n"

def stat : Tool := withOptions ⟨"LftZ", "c", [("cached=", '\x03'), ("dereference", 'L'),
    ("file-system", 'f'), ("format=", 'c'), ("printf=", '\x02'), ("terse", 't')]⟩ 1 fun name g => do
  if g.operands.isEmpty then missingOperand name "operand"
  else eachOperand g.operands fun w => do
    match ← present (g.has 'L') (textOf w) with
    | .error fault =>
      refuse name ((if g.has 'f' then "cannot read file system information for "
        else "cannot statx ") ++ quoted w ++ ": " ++ fault.reason)
    | .ok (p, n) =>
      let s ← get
      let fill (escapes : Bool) (format : Bytes) : Bytes :=
        let cs := (textOf format).toList
        Utf8.encodeChars (filledFormat s escapes w p n (cs.length + 1) cs)
      match g.last? ['c', '\x02'] with
      | some 'c' => output (fill false ((g.value? 'c').getD []) ++ [0x0A])
      | some _ => output (fill true ((g.value? '\x02').getD []))
      | none =>
        if g.has 't' then
          output (fill false (bytesOf "%n %s %b %f %u %g %D %i %h %t %T %X %Y %Z %W %o") ++ [0x0A])
        else output (fill false (bytesOf (usualReport n)))
      pure true

inductive Existing where
  | all
  | allButLast
  | nothing
  deriving DecidableEq

def canonical (existing : Existing) (path : String) : Action (Except FileFault String) := do
  match ← entryAt path, existing with
  | .ok (p, some _), _ => pure (.ok (Disk.written p))
  | .ok (_, none), .all => pure (.error .notFound)
  | .ok (p, none), _ => pure (.ok (Disk.written p))
  | .error fault, .nothing =>
    if fault = .tooManyLinks ∨ path = "" then pure (.error fault)
    else
      let s ← get
      let steps := Files.strides path
      let start : Path := if Text.startsWith "/" path then [] else s.directory
      let lead := (List.range (steps.length + 1)).reverse.findSome? fun i =>
        match s.world.disk.walk true Disk.linkLimit start (steps.take i) with
        | .ok p => if (s.world.disk.node? p).isSome then some (p, steps.drop i) else none
        | .error _ => none
      let (p, rest) := lead.getD (start, steps)
      pure (.ok (Disk.written (rest.foldl (fun (here : Path) step =>
        if step = "." then here else if step = ".." then here.dropLast else here ++ [step]) p)))
  | .error fault, .allButLast =>
    let bare := withoutSlashes path
    if fault = .notFound ∧ bare ≠ path then
      match ← entryAt bare with
      | .ok (p, none) => pure (.ok (Disk.written p))
      | _ => pure (.error fault)
    else pure (.error fault)
  | .error fault, .all => pure (.error fault)

def readlink : Tool := withOptions ⟨"femnqsvz", "", [("canonicalize", 'f'),
    ("canonicalize-existing", 'e'), ("canonicalize-missing", 'm'), ("no-newline", 'n'),
    ("quiet", 'q'), ("silent", 's'), ("verbose", 'v'), ("zero", 'z')]⟩ 1 fun name g => do
  if g.operands.isEmpty then missingOperand name "operand"
  else
    let single := g.operands.length = 1
    if g.has 'n' ∧ !single then say name "ignoring --no-newline with multiple arguments"
    let ending : Bytes := if g.has 'n' ∧ single then [] else if g.has 'z' then [0] else [0x0A]
    eachOperand g.operands fun w => do
      let result ← match g.last? ['f', 'e', 'm'] with
        | some 'f' => canonical .allButLast (textOf w)
        | some 'e' => canonical .all (textOf w)
        | some _ => canonical .nothing (textOf w)
        | none => do
          match ← present false (textOf w) with
          | .error fault => pure (.error fault)
          | .ok (_, n) =>
            match n.body with
            | .link target => pure (.ok target)
            | _ => pure (.error .invalid)
      match result with
      | .ok text =>
        output (bytesOf text ++ ending)
        pure true
      | .error fault =>
        if g.last? ['q', 's', 'v'] = some 'v' then
          say name (named w ++ ": " ++ fault.reason)
        pure false

def plainPath (here : Path) (path : String) : String :=
  Disk.written ((Files.strides path).foldl (fun (here : Path) step =>
    if step = "." then here else if step = ".." then here.dropLast else here ++ [step])
    (if Text.startsWith "/" path then [] else here))

def realpath : Tool := withOptions ⟨"eELmPqsz", "", [("canonicalize-existing", 'e'),
    ("canonicalize-missing", 'm'), ("logical", 'L'), ("no-symlinks", 's'), ("physical", 'P'),
    ("quiet", 'q'), ("relative-base=", '\x02'), ("relative-to=", '\x03'), ("strip", 's'),
    ("zero", 'z')]⟩ 1 fun name g => do
  let s ← get
  let existing := match g.last? ['e', 'm', 'E'] with
    | some 'e' => Existing.all
    | some 'm' => .nothing
    | _ => .allButLast
  let resolve (path : String) : Action (Except FileFault String) := do
    match g.last? ['L', 'P', 's'] with
    | some 's' =>
      if path = "" then pure (.error .notFound)
      else if existing = .all ∧ (← node? path).isNone then pure (.error .notFound)
      else pure (.ok (plainPath s.directory path))
    | some 'L' => canonical existing (plainPath s.directory path)
    | _ => canonical existing path
  if g.operands.isEmpty then missingOperand name "operand"
  else
    let steps (path : String) : Path := Files.strides path
    let base? ← match g.value? '\x02' with
      | some w => do pure ((← resolve (textOf w)).toOption)
      | none => pure none
    let to? ← match g.value? '\x03' with
      | some w => do pure ((← resolve (textOf w)).toOption)
      | none => pure none
    eachOperand g.operands fun w => do
      match ← resolve (textOf w) with
      | .error fault =>
        if !g.has 'q' then say name (named w ++ ": " ++ fault.reason)
        pure false
      | .ok path =>
        let relative (there : String) : String := relativePath (steps path) (steps there)
        let within (base : String) : Bool := (steps base).isPrefixOf (steps path)
        let shown := match to?, base? with
          | some there, some base => if within base then relative there else path
          | some there, none => relative there
          | none, some base => if within base then relative base else path
          | none, none => path
        output (bytesOf shown ++ [if g.has 'z' then 0 else 0x0A])
        pure true

structure Measure where
  name : String
  given : Given
  style : Size.Style
  depth : Option Nat
  apparent : Bool

namespace Measure

def row (m : Measure) (size : Nat) (path : String) : Action Unit :=
  output (bytesOf (m.style.show size ++ "\t" ++ path) ++
    [if m.given.has '0' then 0 else 0x0A])

def own (m : Measure) (n : Node) : Nat :=
  if m.apparent then (match n.body with
    | .directory => 4096
    | _ => n.size) else blocks n * 512

def run (m : Measure) : Nat → Nat → List Nat → String → Path → Node → Action (Nat × List Nat)
  | 0, _, seen, _, _, _ => pure (0, seen)
  | fuel + 1, level, seen, path, p, n => do
    let index := (← nodeIndex? p).getD 0
    let left (name : String) : Bool := (m.given.values '\x02').any fun pattern =>
      Pattern.matchesAll (Pattern.ofBytes pattern) (bytesOf name)
    if seen.contains index ∧ !m.given.has 'l' then pure (0, seen)
    else
      let seen := index :: seen
      let shows := m.depth.all (level ≤ ·)
      if !n.isDirectory then
        let size := m.own n
        if (m.given.has 'a' ∨ level = 0) ∧ shows then m.row size path
        pure (size, seen)
      else
        let mut total := m.own n
        let mut separate := m.own n
        let mut seen' := seen
        for name in (← namesAt p).filter (!left ·) do
          match (← getWorld).disk.node? (p ++ [name]) with
          | some child =>
            let (size, after) ← m.run fuel (level + 1) seen' (inside path name) (p ++ [name]) child
            seen' := after
            total := total + size
            if !child.isDirectory then separate := separate + size
          | none => pure ()
        if shows then m.row (if m.given.has 'S' then separate else total) path
        pure (total, seen')

end Measure

def du : Tool := withOptions ⟨"0abcDHhklLmPsSx", "BdtX", [("all", 'a'), ("apparent-size", '\x03'),
    ("block-size=", 'B'), ("bytes", 'b'), ("count-links", 'l'), ("dereference", 'L'),
    ("dereference-args", 'D'), ("exclude=", '\x02'), ("human-readable", 'h'), ("max-depth=", 'd'),
    ("no-dereference", 'P'), ("null", '0'), ("one-file-system", 'x'), ("separate-dirs", 'S'),
    ("si", '\x04'), ("summarize", 's'), ("threshold=", 't'), ("total", 'c')]⟩ 1 fun name g => do
  let depth := (g.value? 'd').map fun w => (w, digits? w)
  let block := (g.value? 'B').map fun w => (w, Size.Style.read? w)
  match depth, block with
  | some (w, none), _ => misuse name ("invalid maximum depth " ++ quote w) 1
  | _, some (w, none) =>
    say name ("invalid --block-size argument " ++ quote w)
    pure 1
  | depth, block =>
    let depth := depth.bind (·.2)
    if g.has 'a' ∧ g.has 's' then
      misuse name "cannot both summarize and show all entries" 1
    else if g.has 's' ∧ depth.any (· ≠ 0) then
      misuse name ("warning: summarizing conflicts with --max-depth=" ++
        toString (depth.getD 0)) 1
    else
      let style : Size.Style := match g.last? ['h', '\x04', 'k', 'm', 'B', 'b'] with
        | some 'h' => .readable 1024
        | some '\x04' => .readable 1000
        | some 'm' => .units 1048576 ""
        | some 'b' => .units 1 ""
        | some 'B' => (block.bind (·.2)).getD (.units 1024 "")
        | _ => .units 1024 ""
      let m : Measure :=
        ⟨name, g, style, if g.has 's' then some 0 else depth, g.has 'b' || g.has '\x03'⟩
      let operands := if g.operands.isEmpty then [bytesOf "."] else g.operands
      let mut total := 0
      let mut seen : List Nat := []
      let mut whole := true
      for w in operands do
        match ← present (g.has 'L' || g.has 'D' || g.has 'H') (textOf w) with
        | .error fault =>
          say name ("cannot access " ++ quoted w ++ ": " ++ fault.reason)
          whole := false
        | .ok (p, n) =>
          let (size, after) ← m.run 10000 0 seen (textOf w) p n
          total := total + size
          seen := after
      if g.has 'c' then m.row total "total"
      pure (statusOf whole)

end CallChart.Shell.Tool
