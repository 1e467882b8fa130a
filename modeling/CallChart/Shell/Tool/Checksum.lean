import CallChart.Digest.Checksums
import CallChart.Shell.Pattern
import CallChart.Shell.Tool.Basic

namespace CallChart.Shell.Tool

open CallChart.Shell.Action

structure DigestKind where
  title : String
  length : Nat
  digest : Nat → Bytes → Bytes

def digestKinds : List (String × DigestKind) :=
  [("md5", ⟨"MD5", 16, fun _ => Md5.digest⟩), ("sha1", ⟨"SHA1", 20, fun _ => Sha1.digest⟩),
    ("sha224", ⟨"SHA224", 28, fun _ => Sha256.digestShort⟩),
    ("sha256", ⟨"SHA256", 32, fun _ => Sha256.digest⟩),
    ("sha384", ⟨"SHA384", 48, fun _ => Sha512.digestShort⟩),
    ("sha512", ⟨"SHA512", 64, fun _ => Sha512.digest⟩),
    ("blake2b", ⟨"BLAKE2b", 64, Blake2b.digest⟩)]

def escapedName (w : Bytes) : Bytes × Bytes :=
  if w.any fun b => b = 0x5C || b = 0x0A || b = 0x0D then
    ([0x5C], w.flatMap fun b => if b = 0x5C then bytesOf "\\\\"
      else if b = 0x0A then bytesOf "\\n" else if b = 0x0D then bytesOf "\\r" else [b])
  else ([], w)

def unescapedName : Bytes → Option Bytes
  | [] => some []
  | 0x5C :: 0x6E :: rest => (unescapedName rest).map (0x0A :: ·)
  | 0x5C :: 0x72 :: rest => (unescapedName rest).map (0x0D :: ·)
  | 0x5C :: 0x5C :: rest => (unescapedName rest).map (0x5C :: ·)
  | 0x5C :: _ => none
  | b :: rest => (unescapedName rest).map (b :: ·)

def digestLine (kind : DigestKind) (length : Nat) (tagged binary zero : Bool) (w bytes : Bytes) :
    Bytes :=
  let (mark, shown) := if zero then ([], w) else escapedName w
  let hex := bytesOf (Sha256.hex (kind.digest length bytes))
  let title := kind.title ++
    if length = kind.length then "" else "-" ++ toString (8 * length)
  let line := if tagged then bytesOf (title ++ " (") ++ shown ++ bytesOf ") = " ++ hex
    else hex ++ [0x20, if binary then 0x2A else 0x20] ++ shown
  mark ++ line ++ [if zero then 0 else 0x0A]

def readDigestLine (kind : DigestKind) (fixed : Bool) (line : Bytes) : Option (Bytes × Bytes) :=
  let line := if line.getLast? = some 0x0D then line.dropLast else line
  let line := line.dropWhile ByteClass.isBlank
  let (escaped, line) := match line with
    | 0x5C :: rest => (true, rest)
    | line => (false, line)
  let fits (hex : Bytes) : Bool :=
    (hex.length == 2 * kind.length ||
      (!fixed && hex.length % 2 == 0 && hex.length != 0 && hex.length ≤ 2 * kind.length)) &&
      hex.all ByteClass.isHex
  let result (hex name : Bytes) : Option (Bytes × Bytes) :=
    if !fits hex then none
    else (if escaped then unescapedName name else some name).map (hex, ·)
  if (bytesOf kind.title).isPrefixOf line then
    let rest := line.drop kind.title.utf8ByteSize
    let rest := if rest.head? = some 0x2D ∧ !fixed then
      (rest.drop 1).dropWhile ByteClass.isDigit else rest
    let rest := if rest.head? = some 0x20 then rest.drop 1 else rest
    match rest with
    | 0x28 :: rest =>
      let hex := (rest.reverse.takeWhile ByteClass.isHex).reverse
      let before := (rest.take (rest.length - hex.length)).reverse.dropWhile ByteClass.isBlank
      match before with
      | 0x3D :: before =>
        match before.dropWhile ByteClass.isBlank with
        | 0x29 :: name => result hex name.reverse
        | _ => none
      | _ => none
    | _ => none
  else
    let hex := line.takeWhile ByteClass.isHex
    match line.drop hex.length with
    | b :: name =>
      if !ByteClass.isBlank b then none
      else
        match name with
        | 0x20 :: (c :: name) => result hex (c :: name)
        | 0x2A :: (c :: name) => result hex (c :: name)
        | [] => none
        | name => result hex name
    | [] => none

structure Checked where
  formatted : Nat
  matching : Nat
  improper : Nat
  unread : Nat
  failed : Nat

def checkDigests (kind : DigestKind) (name : String) (g : Given) (file : Bytes) : Action Bool := do
  let label := if file = [0x2D] then "'standard input'" else named file
  match ← contents name file with
  | none => pure false
  | some bytes =>
    let status := g.has '\x02'
    let quiet := status ∨ g.has '\x03'
    let mut c : Checked := ⟨0, 0, 0, 0, 0⟩
    for (line, i) in (linesOf bytes).zipIdx do
      if line.head? ≠ some 0x23 ∧ !line.isEmpty then
        match readDigestLine kind (kind.title ≠ "BLAKE2b") line with
        | none =>
          if g.has 'w' then
            say name (label ++ ": " ++ toString (i + 1) ++ ": improperly formatted " ++
              kind.title ++ " checksum line")
          c := { c with improper := c.improper + 1 }
        | some (hex, w) =>
          c := { c with formatted := c.formatted + 1 }
          let (mark, shown) := escapedName w
          let missing ← do
            if w = [0x2D] then pure false else pure (← node? (textOf w)).isNone
          if missing ∧ g.has '\x05' then pure ()
          else
            match ← contents name w with
            | none =>
              c := { c with unread := c.unread + 1 }
              if !status then output (mark ++ shown ++ bytesOf ": FAILED open or read\n")
            | some bytes =>
              let lower := hex.map fun b => if 0x41 ≤ b ∧ b ≤ 0x46 then b + 0x20 else b
              if lower = bytesOf (Sha256.hex (kind.digest (hex.length / 2) bytes)) then
                c := { c with matching := c.matching + 1 }
                if !quiet then output (mark ++ shown ++ bytesOf ": OK\n")
              else
                c := { c with failed := c.failed + 1 }
                if !status then output (mark ++ shown ++ bytesOf ": FAILED\n")
    if c.formatted = 0 then
      say name (label ++ ": no properly formatted checksum lines found")
      pure false
    else
      let warn (count : Nat) (one many : String) : Action Unit := do
        if 0 < count then
          say name ("WARNING: " ++ toString count ++ " " ++ if count = 1 then one else many)
      if !status then
        warn c.improper "line is improperly formatted" "lines are improperly formatted"
        warn c.unread "listed file could not be read" "listed files could not be read"
        warn c.failed "computed checksum did NOT match" "computed checksums did NOT match"
        if g.has '\x05' ∧ c.matching = 0 then say name (label ++ ": no file was verified")
      pure (c.failed = 0 && c.unread = 0 && (!g.has '\x05' || 0 < c.matching) &&
        (!g.has '\x04' || c.improper = 0))

def digestLength (kind : DigestKind) (name : String) (g : Given) : Action (Except Nat Nat) := do
  match g.value? 'l' with
  | none => pure (.ok kind.length)
  | some w =>
    let refuse (message : String) : Action (Except Nat Nat) := do
      if message ≠ "" then
        say name ("invalid length: " ++ quote w)
        say name message
      else say name ("invalid length: " ++ quote w)
      pure (.error 1)
    match countOf "" w with
    | .error _ => refuse ""
    | .ok n =>
      if n = 0 then pure (.ok kind.length)
      else if 8 * kind.length < n then
        refuse ("maximum digest length for '" ++ kind.title ++ "' is " ++
          toString (8 * kind.length) ++ " bits")
      else if n % 8 ≠ 0 then refuse "length is not a multiple of 8"
      else pure (.ok (n / 8))

def checkOptions : List (Char × String) :=
  [('\x05', "ignore-missing"), ('\x02', "status"), ('w', "warn"), ('\x03', "quiet"),
    ('\x04', "strict")]

def digestKnown (lengths : Bool) : Known :=
  ⟨"bctwz", if lengths then "l" else "",
    [("binary", 'b'), ("check", 'c'), ("ignore-missing", '\x05'), ("quiet", '\x03'),
      ("status", '\x02'), ("strict", '\x04'), ("tag", '\x06'), ("text", 't'), ("warn", 'w'),
      ("zero", 'z')] ++ if lengths then [("length=", 'l')] else []⟩

def digests (kind : DigestKind) (name : String) (tagged : Bool) (g : Given) : Action Nat := do
  match ← digestLength kind name g with
  | .error status => pure status
  | .ok length =>
    let checks := g.has 'c'
    let binary := g.last? ['b', 't'] = some 'b' ∨ tagged
    if tagged ∧ g.last? ['b', 't', '\x06'] = some 't' then
      misuse name "--tag does not support --text mode" 1
    else if g.has 'z' ∧ checks then
      misuse name "the --zero option is not supported when verifying checksums" 1
    else if g.has '\x06' ∧ checks then
      misuse name "the --tag option is meaningless when verifying checksums" 1
    else if (g.has 'b' ∨ g.has 't') ∧ checks then
      misuse name "the --binary and --text options are meaningless when verifying checksums" 1
    else
      match if checks then none else checkOptions.find? fun o => g.has o.1 with
      | some (_, option) =>
        misuse name
          ("the --" ++ option ++ " option is meaningful only when verifying checksums") 1
      | none =>
        let mut whole := true
        for operand in sources g do
          if checks then
            if !(← checkDigests kind name g operand) then whole := false
          else
            match ← contents name operand with
            | none => whole := false
            | some bytes =>
              output (digestLine kind length tagged binary (g.has 'z') operand bytes)
        pure (statusOf whole)

def digestTool (algorithm : String) : Tool :=
  match digestKinds.lookup algorithm with
  | none => fun _ _ => pure 1
  | some kind => withOptions (digestKnown (algorithm = "blake2b")) 1 fun name g =>
    digests kind name (g.has '\x06') g

def blocksOf (size length : Nat) : Nat := (length + size - 1) / size

def sums (name : String) (g : Given) (row : Bytes → Bool → String) : Action Nat := do
  let mut whole := true
  for operand in sources g do
    match ← contents name operand with
    | none => whole := false
    | some bytes =>
      let label := if g.operands.isEmpty then [] else 0x20 :: operand
      output (bytesOf (row bytes (1 < (sources g).length)) ++ label ++ [0x0A])
  pure (statusOf whole)

def rotatedSum (bytes : Bytes) (_ : Bool) : String :=
  let digits := toString (Checksum.rotated bytes)
  String.ofList (List.replicate (5 - digits.length) '0') ++ digits ++ " " ++
    padLeft 5 (toString (blocksOf 1024 bytes.length))

def foldedSum (bytes : Bytes) (_ : Bool) : String :=
  toString (Checksum.folded bytes) ++ " " ++ toString (blocksOf 512 bytes.length)

def cyclicSum (bytes : Bytes) (_ : Bool) : String :=
  toString (Checksum.cyclic bytes).toNat ++ " " ++ toString bytes.length

def sum : Tool := withOptions ⟨"rs", "", [("sysv", 's')]⟩ 1 fun name g =>
  sums name g (if g.last? ['r', 's'] = some 's' then foldedSum else rotatedSum)

def cksum : Tool :=
  let known := digestKnown true
  withOptions { known with
      valued := "al", flags := "cwz"
      long := known.long ++ [("algorithm=", 'a'), ("untagged", '\x07')] } 1 fun name g => do
    let algorithms := ["bsd", "sysv", "crc"] ++ digestKinds.map (·.1)
    match (g.values 'a').find? fun w => (choice? algorithms w).isNone with
    | some w => wrongChoice name "--algorithm" algorithms w 1
    | none =>
      let algorithm := ((g.value? 'a').bind (choice? algorithms)).getD "crc"
      match digestKinds.lookup algorithm with
      | some kind =>
        digests kind name (!g.has '\x07' && !g.has 'c') g
      | none =>
        if g.has 'c' then
          say name "--check is not supported with --algorithm=\x7bbsd,sysv,crc\x7d"
          pure 1
        else
          sums name g (if algorithm = "bsd" then rotatedSum
            else if algorithm = "sysv" then foldedSum else cyclicSum)

end CallChart.Shell.Tool
