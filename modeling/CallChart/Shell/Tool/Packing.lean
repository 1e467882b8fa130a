import CallChart.Digest.Checksums
import CallChart.Packed.Reader
import CallChart.Shell.Tool.Calendar
import CallChart.Shell.Tool.Naming

namespace CallChart.Shell.Tool

open CallChart.Shell.Action

namespace Packing

structure Header where
  name : Option Bytes
  time : Nat
  deriving DecidableEq, Repr

def numberBytes : Nat → Nat → Bytes
  | 0, _ => []
  | count + 1, n => UInt8.ofNat n :: numberBytes count (n / 256)

def numberIn (bs : Bytes) : Nat := bs.foldr (fun b n => n * 256 + b.toNat) 0

def member (level : Nat) (h : Header) (bytes : Bytes) : Bytes :=
  [0x1F, 0x8B, 8, if h.name.isSome then 8 else 0] ++ numberBytes 4 h.time ++
    [if level = 1 then 4 else if level = 9 then 2 else 0, 3] ++
    (match h.name with
      | some name => name ++ [0]
      | none => []) ++
    Packed.pack level bytes ++ numberBytes 4 (Checksum.cyclicLowFirst bytes).toNat ++
    numberBytes 4 bytes.length

inductive Fault where
  | ended
  | notPacked
  | method (n : Nat)
  | invalid
  | checksum
  | length
  deriving DecidableEq, Repr

def Fault.message (name label : String) (f : Fault) : String :=
  let lead := name ++ ": " ++ label ++ ": "
  match f with
  | .ended => "\n" ++ lead ++ "unexpected end of file\n"
  | .notPacked => "\n" ++ lead ++ "not in gzip format\n"
  | .method n => lead ++ "unknown method " ++ toString n ++ " -- not supported\n"
  | .invalid => "\n" ++ lead ++ "invalid compressed data--format violated\n"
  | .checksum => "\n" ++ lead ++ "invalid compressed data--crc error\n"
  | .length => "\n" ++ lead ++ "invalid compressed data--length error\n"

def Fault.isFatal : Fault → Bool
  | .notPacked => false
  | .method _ => false
  | _ => true

def zeroEnded (bs : Bytes) : Except Fault (Bytes × Bytes) :=
  let text := bs.takeWhile (· ≠ 0)
  if text.length = bs.length then .error .ended else .ok (text, bs.drop (text.length + 1))

def readHeader (bs : Bytes) : Except Fault (Header × Bytes) := do
  match bs with
  | [] => .error .ended
  | [0] => .error .notPacked
  | [_] => .error .ended
  | a :: b :: rest =>
    if a ≠ 0x1F ∨ !(b = 0x8B ∨ b = 0x9E) then .error .notPacked
    else
      match rest with
      | [] => .error .ended
      | m :: rest =>
        if m ≠ 8 then .error (.method m.toNat)
        else if rest.length < 7 then .error .ended
        else
          let flags := (rest.headD 0).toNat
          let time := numberIn ((rest.drop 1).take 4)
          let rest := rest.drop 7
          let rest ← if flags / 4 % 2 = 0 then pure rest
            else
              let size := 2 + numberIn (rest.take 2)
              if rest.length < size then .error .ended else pure (rest.drop size)
          let (name, rest) ← if flags / 8 % 2 = 0 then pure (none, rest)
            else do
              let (text, rest) ← zeroEnded rest
              pure (some text, rest)
          let rest ← if flags / 16 % 2 = 0 then pure rest
            else do pure (← zeroEnded rest).2
          let rest ← if flags / 2 % 2 = 0 then pure rest
            else if rest.length < 2 then .error .ended else pure (rest.drop 2)
          pure (⟨name, time⟩, rest)

/-- What packed bytes stand for, the header of the first member, how many bytes of the last one are
no packed bytes, the checksum of the last one, and what is wrong in the end. -/
structure Unpacked where
  bytes : Bytes
  header : Option Header
  frame : Nat
  faults : List Fault
  junk : Bool

def unpackAll : Nat → Bytes → Unpacked → Unpacked
  | 0, _, u => u
  | fuel + 1, bs, u =>
    let first := u.header.isNone
    match readHeader bs with
    | .error fault =>
      if first ∨ fault ≠ .notPacked then { u with faults := [fault] }
      else { u with junk := bs.any (· ≠ 0) }
    | .ok (h, rest) =>
      let u := { u with
        header := u.header.orElse fun _ => some h
        frame := if first then bs.length - rest.length + 8 else u.frame }
      let (bytes, behind) := Packed.unpack rest
      let total := { u with bytes := u.bytes ++ bytes }
      match behind with
      | .error .ended => { total with faults := [.ended] }
      | .error .invalid => { u with faults := [.invalid] }
      | .ok behind =>
        if behind.length < 8 then { total with faults := [.ended] }
        else
          let wrong := (if numberIn (behind.take 4) = (Checksum.cyclicLowFirst bytes).toNat then []
              else [Fault.checksum]) ++
            if numberIn ((behind.drop 4).take 4) = bytes.length % 4294967296 then []
              else [.length]
          let behind := behind.drop 8
          if !wrong.isEmpty then { total with faults := wrong }
          else if behind.isEmpty then total
          else unpackAll fuel behind total

def unpacked (bs : Bytes) : Unpacked :=
  unpackAll (bs.length + 1) bs ⟨[], none, 0, [], false⟩

structure Wanted where
  name : String
  given : Given
  unpacks : Bool
  toOutput : Bool
  suffix : String
  level : Nat

def Wanted.has (w : Wanted) (c : Char) : Bool := w.given.has c

def Wanted.isNameless (w : Wanted) : Bool := w.given.last? ['n', 'N'] = some 'n'

structure Progress where
  status : Nat
  listed : Nat
  packedSize : Nat
  size : Nat
  frame : Nat
  broken : Bool

abbrev Step := StateT Progress Action

def failed : Step Unit := modify fun s => { s with status := 1 }

def warned : Step Unit := modify fun s => { s with status := if s.status = 0 then 2 else s.status }

def warn (w : Wanted) (message : String) : Step Unit := do
  if !w.has 'q' then (say w.name message : Action Unit)
  warned

def tell (text : String) : Step Unit := do
  (flush : Action Unit)
  (writeText 2 text : Action Unit)

def ratio (gain total : Int) : String :=
  let tenths : Int := if total = 0 then 0
    else if gain < 0 then -((-gain * 2000 + total) / (2 * total))
    else (gain * 2000 + total) / (2 * total)
  let n := tenths.natAbs
  padLeft 5 ((if tenths < 0 then "-" else "") ++ toString (n / 10) ++ "." ++ toString (n % 10)) ++
    "%"

def suffixes (w : Wanted) : List String :=
  [w.suffix, ".gz", ".z", ".taz", ".tgz", "-gz", "-z", "_z"]

def suffixOf? (w : Wanted) (name : String) : Option String :=
  let cs := name.toList
  (suffixes w).findSome? fun suffix =>
    let start := cs.length - suffix.length
    let tail := cs.drop start
    if suffix.length < cs.length ∧ cs[start - 1]? ≠ some '/' ∧
        (tail = suffix.toList ∨ tail.map Char.toLower = suffix.toList) then
      some (String.ofList tail)
    else none

def bareName (name suffix : String) : String :=
  let cs := name.toList
  let bare := String.ofList (cs.take (cs.length - suffix.length))
  let lower := String.ofList (suffix.toList.map Char.toLower)
  if lower = ".tgz" ∨ lower = ".taz" then bare ++ ".tar" else bare

structure Source where
  label : String
  bytes : Bytes
  time : Nat
  base : Option Bytes

def tellFaults (w : Wanted) (label : String) (u : Unpacked) : Step Unit := do
  for fault in u.faults do
    tell (fault.message w.name label)
    failed
    if fault.isFatal then modify fun s => { s with broken := true }
  if u.junk then
    if !w.has 'q' then
      tell ("\n" ++ w.name ++ ": " ++ label ++ ": decompression OK, trailing garbage ignored\n")
    warned

def worked (w : Wanted) (source : Source) : Step (Option (Bytes × String)) := do
  let size : Int := source.bytes.length
  if !w.unpacks then
    let h : Header := ⟨if w.isNameless then none else source.base,
      if w.isNameless then 0 else source.time⟩
    let packed := member w.level h source.bytes
    let frame : Nat := 18 + ((h.name.map fun n => n.length + 1).getD 0)
    pure (some (packed, ratio (size - ((packed.length : Int) - (frame : Int))) size))
  else
    let u := unpacked source.bytes
    if w.has 'f' ∧ w.toOutput ∧ u.header.isNone ∧ !w.has 't' then pure (some (source.bytes, ""))
    else
      if w.toOutput ∧ !w.has 't' then (output u.bytes : Action Unit)
      tellFaults w source.label u
      if !u.faults.isEmpty then pure none
      else
        let total : Int := u.bytes.length
        pure (some (if w.toOutput then [] else u.bytes, ratio (total - (size - u.frame)) total))

def list (w : Wanted) (source : Source) (target : String) : Step Unit := do
  let u := unpacked source.bytes
  if u.header.isNone ∨ u.faults.any Fault.isFatal then tellFaults w source.label u
  else
    let width := 19
    let crc := inHex8 (Checksum.cyclicLowFirst u.bytes).toNat
    let s ← get
    if s.listed = 0 then
      (output (bytesOf ((if w.has 'v' then "method  crc     date  time  " else "") ++
        if w.has 'q' then "" else padLeft width "compressed" ++ " " ++
          padLeft width "uncompressed" ++ "  ratio uncompressed_name\n")) : Action Unit)
    let size := source.bytes.length
    let total := u.bytes.length
    set { s with
      listed := s.listed + 1, packedSize := s.packedSize + size, size := s.size + total
      frame := u.frame }
    let lead := if w.has 'v' then "defla " ++ crc ++ " " ++ date source.time ++ " " else ""
    (output (bytesOf (lead ++
      padLeft width (toString size) ++ " " ++ padLeft width (toString total) ++ " " ++
      ratio ((total : Int) - ((size : Int) - u.frame)) total ++ " " ++ target ++ "\n")) :
      Action Unit)
where
  inHex8 (n : Nat) : String :=
    let digits := Nat.toDigits 16 n
    String.ofList (List.replicate (8 - digits.length) '0' ++ digits)
  date (seconds : Nat) : String :=
    if seconds = 0 then "            " else Calendar.format (seconds * 1000) "%b %e %H:%M".toList

def listTotals (w : Wanted) : Step Unit := do
  let s ← get
  if 1 < s.listed ∧ !w.has 'q' then
    (output (bytesOf ((if w.has 'v' then "                            " else "") ++
      padLeft 19 (toString s.packedSize) ++ " " ++ padLeft 19 (toString s.size) ++ " " ++
      ratio ((s.size : Int) - ((s.packedSize : Int) - s.frame)) s.size ++ " (totals)\n")) :
      Action Unit)

def workOnInput (w : Wanted) : Step Unit := do
  match ← (streamOf 0 : Action _) with
  | none =>
    (say w.name "standard input: Bad file descriptor" : Action Unit)
    failed
  | some id =>
    let world ← (getWorld : Action World)
    match world.unreadable? id with
    | some fault =>
      (say w.name ("stdin: " ++ fault.reason) : Action Unit)
      failed
      modify fun s => { s with broken := true }
    | none =>
      let time : Int := match world.stream id with
        | .file node _ _ _ _ => ((world.disk.nodes[node]?).map (·.modified)).getD 0 / 1000
        | _ => 0
      let (bytes, ended) ← (readReady id : Action _)
      if !ended then (endless : Action Unit)
      let source : Source := ⟨"stdin", bytes, time.toNat, none⟩
      let w := { w with toOutput := true }
      if w.has 'l' then list w source "stdout"
      else
        match ← worked w source with
        | none => pure ()
        | some (out, gain) =>
          if !w.has 't' then (output out : Action Unit)
          if w.has 'v' then
            if w.has 't' then tell " OK\n" else if !w.unpacks then tell (gain ++ "\n")

def replace (w : Wanted) (path target : String) (n : Node) (time : Int) (bytes : Bytes) :
    Action Unit := do
  match ← linkAt target with
  | .error _ => pure ()
  | .ok (q, old) =>
    if old.isSome then removeName q
    create q (.file bytes) 0o600
    modifyDisk (·.change q fun m => { m with
      mode := n.mode, modified := time, owner := n.owner, group := n.group })
    if !w.has 'k' then
      match ← linkAt path with
      | .ok (p, some _) => removeName p
      | _ => pure ()

def opened (w : Wanted) (path : String) : Action (Except (String × FileFault) (String × Node)) := do
  match ← present true path with
  | .ok (_, n) => pure (.ok (path, n))
  | .error fault =>
    if !w.unpacks ∨ fault ≠ .notFound ∨ (suffixOf? w path).isSome then pure (.error (path, fault))
    else
      let found ← [w.suffix, ".gz", ".z", "-z", ".Z"].findSomeM? fun suffix => do
        match ← present true (path ++ suffix) with
        | .ok (_, n) => pure (some (path ++ suffix, n))
        | .error _ => pure none
      match found with
      | some r => pure (.ok r)
      | none => pure (.error (path ++ w.suffix, fault))

def refusal? (w : Wanted) (n : Node) (names : Nat) : Option String :=
  if !n.isFile then some " is not a directory or a regular file - ignored"
  else if Nat.land n.mode 0o4000 ≠ 0 then some " is set-user-ID on execution - ignored"
  else if Nat.land n.mode 0o2000 ≠ 0 then some " is set-group-ID on execution - ignored"
  else if w.has 'f' then none
  else if Nat.land n.mode 0o1000 ≠ 0 then some " has the sticky bit set - file ignored"
  else if 2 ≤ names then
    some (" has " ++ toString (names - 1) ++ " other link" ++
      (if names = 2 then "" else "s") ++ " -- file ignored")
  else none

def targetOf (w : Wanted) (path : String) : Step (Option String) := do
  let quiet := w.has 'q' || (w.has 'r' && !w.has 'v')
  if w.toOutput ∧ !w.has 'l' ∧ !w.has 't' then pure (some "stdout")
  else
    match w.unpacks, suffixOf? w path with
    | true, some suffix => pure (some (bareName path suffix))
    | true, none =>
      if !w.has 'r' ∧ (w.has 'l' ∨ w.has 't') then pure (some path)
      else
        if w.has 'v' ∨ !quiet then
          (say w.name (path ++ ": unknown suffix -- ignored") : Action Unit)
        if w.has 'v' ∨ !w.has 'r' then warned
        pure none
    | false, some suffix =>
      if w.has 'f' then pure (some (path ++ w.suffix))
      else
        if w.has 'v' ∨ !quiet then
          (say w.name (path ++ " already has " ++ suffix ++ " suffix -- unchanged") : Action Unit)
        pure none
    | false, none => pure (some (path ++ w.suffix))

def named (w : Wanted) (bytes : Bytes) (target : String) : String :=
  let own := (readHeader bytes).toOption.bind (·.1.name)
  match if w.unpacks ∧ w.given.last? ['n', 'N'] = some 'N' then own else none with
  | some name =>
    let start := (target.toList.reverse.dropWhile (· ≠ '/')).reverse
    String.ofList start ++ lastStep (textOf name)
  | none => target

def workOnFile (w : Wanted) (path : String) (n : Node) (target : String) : Step Unit := do
  let bytes ← if n.isFile then pure n.bytes
    else
      match ← (openInput path : Action _) with
      | .error _ => pure []
      | .ok id => do pure (← (readReady id : Action _)).1
  let source : Source := ⟨path, bytes, if n.isFile then (n.modified / 1000).toNat else 0,
    some (bytesOf (lastStep path))⟩
  if w.has 'l' then list w source (named w bytes target)
  else
    let inPlace := !w.toOutput && !w.has 't'
    let target := if inPlace then named w bytes target else target
    let occupied ← if inPlace ∧ !w.has 'f' then do
        pure (← (present false target : Action _)).toOption.isSome
      else pure false
    let readable := !w.unpacks || (w.has 'f' && w.toOutput) ||
      (readHeader bytes).toOption.isSome
    if occupied ∧ readable then
      tell (w.name ++ ": " ++ target ++ " already exists;\tnot overwritten\n")
      warned
    else
      if w.has 'v' ∧ readable then tell (path ++ ":\t")
      match ← worked w source with
      | none => pure ()
      | some (out, gain) =>
        if w.has 't' then
          if w.has 'v' then tell " OK\n"
        else
          let time := if w.unpacks ∧ w.given.last? ['n', 'N'] = some 'N' then
              match (unpacked bytes).header with
              | some h => if h.time = 0 then n.modified else (h.time : Int) * 1000
              | none => n.modified
            else n.modified
          if w.toOutput then (output out : Action Unit)
          else (replace w path target n time out : Action Unit)
          if w.has 'v' then
            tell (gain ++ " -- " ++ (if w.has 'k' then "created" else "replaced with") ++ " " ++
              target ++ "\n")

def workAt (w : Wanted) : Nat → String → Step Unit
  | 0, _ => pure ()
  | fuel + 1, path => do
    if (← get).broken then pure ()
    else if path = "-" then workOnInput w
    else
      match ← (opened w path : Action _) with
      | .error (tried, fault) =>
        (say w.name (tried ++ ": " ++ fault.reason) : Action Unit)
        failed
      | .ok (path, n) =>
        if n.isDirectory then
          if w.has 'r' then
            match ← (present true path : Action _) with
            | .error _ => pure ()
            | .ok (p, _) =>
              for name in ← (namesAt p : Action _) do
                workAt w fuel (inside path name)
          else warn w (path ++ " is a directory -- ignored")
        else
          let names ← do
            match ← (present true path : Action _) with
            | .ok (p, _) => pure ((← (getWorld : Action World)).disk.linkCount p)
            | .error _ => pure 1
          match if w.toOutput then none else refusal? w n names with
          | some reason => warn w (path ++ reason)
          | none =>
            match ← targetOf w path with
            | none => pure ()
            | some target => workOnFile w path n target

def known : Known := ⟨"acdfhHklLmMnNqrtvVZ123456789?\x03", "bS", [("ascii", 'a'),
  ("to-stdout", 'c'), ("stdout", 'c'), ("decompress", 'd'), ("uncompress", 'd'), ("force", 'f'),
  ("help", 'h'), ("keep", 'k'), ("list", 'l'), ("license", 'L'), ("no-name", 'n'), ("name", 'N'),
  ("quiet", 'q'), ("silent", 'q'), ("synchronous", '\x03'), ("recursive", 'r'), ("suffix=", 'S'),
  ("test", 't'), ("verbose", 'v'), ("version", 'V'), ("fast", '1'), ("best", '9'), ("lzw", 'Z'),
  ("bits=", 'b'), ("rsyncable", '\x03')]⟩

def run (leading : List Char) : Tool := fun _ words => do
  let name := "gzip"
  match parse known false (words.length + 1) words with
  | .error message =>
    say name message
    writeText 2 ("Try \x60" ++ name ++ " --help' for more information.\n")
    pure 1
  | .ok g =>
    let g := { g with options := leading.map (·, []) ++ g.options }
    let level := match g.last? "123456789".toList with
      | some c => c.toNat - '0'.toNat
      | none => 6
    let suffix := textOf ((g.value? 'S').getD (bytesOf ".gz"))
    if g.has 'V' then
      putLine (name ++ " 1.12")
      pure 0
    else if suffix = "" ∨ suffix.toList.contains '/' then
      say name ("invalid suffix '" ++ suffix ++ "'")
      pure 1
    else
      if g.has 'a' ∧ !g.has 'q' then say name "option --ascii ignored on this system"
      let w : Wanted := ⟨name, g, g.has 'd' || g.has 't' || g.has 'l', g.has 'c', suffix, level⟩
      let body : Step Unit := do
        if g.operands.isEmpty then workOnInput w
        else
          for operand in g.operands do
            workAt w 4096 (textOf operand)
        if g.has 'l' then listTotals w
      let (_, s) ← body.run ⟨0, 0, 0, 0, 0, false⟩
      pure s.status

end Packing

def gzip : Tool := Packing.run []

def gunzip : Tool := Packing.run ['d']

def zcat : Tool := Packing.run ['c', 'd']

end CallChart.Shell.Tool
