import CallChart.Shell.Format
import CallChart.Shell.Tool.Amount
import CallChart.Shell.Tool.Naming

namespace CallChart.Shell.Tool

open CallChart.Shell.Action

namespace Translation

structure Mark where
  byte : UInt8
  escaped : Bool
  deriving DecidableEq

def Mark.isPlain (m : Mark) (b : UInt8) : Bool := !m.escaped && m.byte == b

def unescape : Nat → Bytes → List Mark × List String
  | 0, _ => ([], [])
  | _, [] => ([], [])
  | _, [0x5C] => ([⟨0x5C, false⟩],
      ["warning: an unescaped backslash at end of string is not portable"])
  | fuel + 1, 0x5C :: c :: rest =>
    match Format.octal? c with
    | none =>
      let b := if c = 0x65 then c else (Format.escaped? c).getD c
      let (ms, warnings) := unescape fuel rest
      (⟨b, true⟩ :: ms, warnings)
    | some _ =>
      let digits := (c :: rest).takeWhile (fun b => (Format.octal? b).isSome) |>.take 3
      let value (ds : Bytes) : Nat := ds.foldl (fun n b => n * 8 + (b.toNat - 0x30)) 0
      let tooLarge := 255 < value digits
      let used := if tooLarge then digits.take 2 else digits
      let (ms, warnings) := unescape fuel ((c :: rest).drop used.length)
      let text (ds : Bytes) : String := textOf ds
      (⟨UInt8.ofNat (value used), true⟩ :: ms,
        (if tooLarge then ["warning: the ambiguous octal escape \\" ++ text digits ++
          " is being\n\tinterpreted as the 2-byte sequence \\0" ++ text used ++ ", " ++
          text (digits.drop 2)] else []) ++ warnings)
  | fuel + 1, b :: rest =>
    let (ms, warnings) := unescape fuel rest
    (⟨b, false⟩ :: ms, warnings)

inductive Part where
  | byte (b : UInt8)
  | range (low high : UInt8)
  | named (name : String)
  | equivalent (b : UInt8)
  | repeated (b : UInt8) (count : Nat)
  deriving DecidableEq

def bytesIn (ms : List Mark) : Bytes := ms.map (·.byte)

def closing? (delimiter : UInt8) : Nat → List Mark → Option Nat
  | n, a :: b :: rest =>
    if a.isPlain delimiter ∧ b.isPlain 0x5D then some n
    else closing? delimiter (n + 1) (b :: rest)
  | _, _ => none

def isStarred (ms : List Mark) : Bool :=
  match ms.drop 1 with
  | star :: rest =>
    star.isPlain 0x2A && match rest.dropWhile (ByteClass.isDigit ·.byte) with
      | m :: _ => m.isPlain 0x5D
      | [] => false
  | [] => false

def repeat? (ms : List Mark) : Except String (Option (Part × List Mark)) :=
  match ms with
  | m :: star :: rest =>
    if !star.isPlain 0x2A then .ok none
    else
      let count := rest.takeWhile fun m => !m.escaped && m.byte != 0x5D
      match rest.drop count.length with
      | close :: more =>
        if !close.isPlain 0x5D then .ok none
        else
          let ds := bytesIn count
          if ds.isEmpty then .ok (some (.repeated m.byte 0, more))
          else
            let octal := ds.head? = some 0x30
            let good := ds.all fun b =>
              if octal then (Format.octal? b).isSome else ByteClass.isDigit b
            let n := Amount.number (if octal then 8 else 10) ds
            if !good ∨ countLimit ≤ n then
              .error ("invalid repeat count " ++ quote ds ++ " in [c*n] construct")
            else .ok (some (.repeated m.byte n, more))
      | [] => .ok none
  | _ => .ok none

def printable (b : UInt8) : String :=
  if isPrintable b then textOf [b]
  else
    let digit (n : Nat) : Char := Nat.digitChar (n % 8)
    String.ofList ['\\', digit (b.toNat / 64), digit (b.toNat / 8), digit b.toNat]

def bracketed (ms : List Mark) : Except String (Option (Part × List Mark)) :=
  match ms with
  | m :: rest =>
    let delimiter := if m.isPlain 0x3A then some (0x3A : UInt8)
      else if m.isPlain 0x3D then some 0x3D else none
    match delimiter.bind fun d => (closing? d 0 rest).map (d, ·) with
    | none => repeat? ms
    | some (d, length) =>
      let body := bytesIn (rest.take length)
      let more := rest.drop (length + 2)
      if body.isEmpty then
        .error (if d = 0x3A then "missing character class name '[::]'"
          else "missing equivalence class character '[==]'")
      else if d = 0x3A ∧ (ByteClass.byName.lookup (textOf body)).isSome then
        .ok (some (.named (textOf body), more))
      else if d = 0x3D ∧ body.length = 1 then .ok (some (.equivalent (body.headD 0), more))
      else if isStarred ms then repeat? ms
      else .error (if d = 0x3A then "invalid character class " ++ quote body
        else textOf body ++ ": equivalence class operand must be a single character")
  | [] => .ok none

def readParts : Nat → List Mark → Except String (List Part)
  | 0, _ => .ok []
  | fuel + 1, ms =>
    match ms with
    | a :: b :: c :: rest => do
      match ← (if a.isPlain 0x5B then bracketed (b :: c :: rest) else .ok none) with
      | some (part, more) => pure (part :: (← readParts fuel more))
      | none =>
        if b.isPlain 0x2D then
          if c.byte < a.byte then
            throw ("range-endpoints of '" ++ printable a.byte ++ "-" ++ printable c.byte ++
              "' are in reverse collating sequence order")
          else pure (.range a.byte c.byte :: (← readParts fuel rest))
        else pure (.byte a.byte :: (← readParts fuel (b :: c :: rest)))
    | ms => pure (ms.map fun m => .byte m.byte)

def allBytes : Bytes := (List.range 256).map UInt8.ofNat

def members (name : String) : Bytes :=
  allBytes.filter ((ByteClass.byName.lookup name).getD fun _ => false)

def Part.bytes : Part → Bytes
  | .byte b => [b]
  | .range low high => (List.range (high.toNat - low.toNat + 1)).map fun i =>
      UInt8.ofNat (low.toNat + i)
  | .named name => members name
  | .equivalent b => [b]
  | .repeated b n => List.replicate n b

def bytesOfParts (parts : List Part) : Bytes := parts.flatMap Part.bytes

def isIndefinite (p : Part) : Bool :=
  match p with
  | .repeated _ 0 => true
  | _ => false

def isNamed (p : Part) : Bool :=
  match p with
  | .named _ => true
  | _ => false

def isAligned (one two : List Part) : Bool :=
  let starts (parts : List Part) : List (Nat × Bool) :=
    (parts.foldl (fun (s : Nat × List (Nat × Bool)) p =>
      (s.1 + p.bytes.length, (s.1, match p with
        | .named "upper" => true
        | .named "lower" => true
        | _ => false) :: s.2)) (0, [])).2
  let first := starts one
  (starts two).all fun (place, isLetters) => !isLetters || first.contains (place, true)

structure Wanted where
  complement : Bool
  truncates : Bool
  translates : Bool

def secondSet (w : Wanted) (old : Bytes) (one two : List Part) : Except String Bytes := do
  if 1 < (two.filter isIndefinite).length then
    throw "only one [c*] repeat construct may appear in string2"
  if !w.translates ∧ two.any isIndefinite then
    throw "the [c*] construct may appear in string2 only when translating"
  let fixed := (bytesOfParts two).length
  let two := two.map fun p =>
    match p with
    | .repeated b 0 => Part.repeated b (old.length - fixed)
    | p => p
  let new := bytesOfParts two
  if !w.translates then
    pure new
  else
    if two.any fun p => match p with
        | .equivalent _ => true
        | _ => false then
      throw "[=c=] expressions may not appear in string2 when translating"
    if two.any fun p => isNamed p ∧ p ≠ .named "upper" ∧ p ≠ .named "lower" then
      throw ("when translating, the only character classes that may appear in\n" ++
        "string2 are 'upper' and 'lower'")
    if !w.complement ∧ !isAligned one two then
      throw "misaligned [:upper:] and/or [:lower:] construct"
    let new ← if old.length ≤ new.length ∨ w.truncates then pure new
      else
        match two.getLast? with
        | none => throw "when not truncating set1, string2 must be non-empty"
        | some last =>
          if isNamed last then
            throw ("when translating with string1 longer than string2,\n" ++
              "the latter string must not end with a character class")
          else
            let filler := match last with
              | .repeated b _ => b
              | _ => new.getLastD 0
            if new.isEmpty ∧ !isIndefinite last then
              throw "when not truncating set1, string2 must be non-empty"
            else pure (new ++ List.replicate (old.length - new.length) filler)
    if w.complement ∧ one.any isNamed ∧
        !(new.length = old.length ∧ new.all (· = new.headD 0)) then
      throw ("when translating with complemented character classes,\n" ++
        "string2 must map all characters in the domain to one")
    pure new

def squeezed (holds : UInt8 → Bool) (bs : Bytes) : Bytes :=
  (bs.foldl (fun (kept : Bytes) b =>
    if holds b ∧ kept.head? = some b then kept else b :: kept) []).reverse

def table (old new : Bytes) : Array UInt8 :=
  (old.zip new).foldl (fun (table : Array UInt8) (a, b) => table.setIfInBounds a.toNat b)
    allBytes.toArray

end Translation

def tr : Tool := withLeadingOptions
    ⟨"cCdst", "", [("complement", 'c'), ("delete", 'd'), ("squeeze-repeats", 's'),
      ("truncate-set1", 't')]⟩ 1 fun name g => do
  let deletes := g.has 'd'
  let squeezes := g.has 's'
  let least := if deletes = squeezes then 2 else 1
  let most := if deletes ∧ !squeezes then 1 else 2
  match g.operands with
  | [] => missingOperand name "operand"
  | first :: more =>
    if g.operands.length < least then
      say name ("missing operand after " ++ quote first)
      writeText 2 (if deletes
        then "Two strings must be given when both deleting and squeezing repeats.\n"
        else "Two strings must be given when translating.\n")
      sayTry name
      pure 1
    else if most < g.operands.length then
      say name ("extra operand " ++ quote ((g.operands[most]?).getD []))
      if g.operands.length = 2 then
        writeText 2 "Only one string may be given when deleting without squeezing repeats.\n"
      sayTry name
      pure 1
    else
      let complement : Bool := g.has 'c' ∨ g.has 'C'
      let w : Translation.Wanted := ⟨complement, g.has 't', most = 2 ∧ !deletes ∧ !more.isEmpty⟩
      let marks (bs : Bytes) := Translation.unescape (bs.length + 1) bs
      let (ms, warnings) := marks first
      for warning in warnings do
        say name warning
      match Translation.readParts (ms.length + 1) ms with
      | .error message =>
        say name message
        pure 1
      | .ok one =>
        let (ms, warnings) := marks (more.headD [])
        for warning in warnings do
          say name warning
        let second := Translation.readParts (ms.length + 1) ms
        if one.any Translation.isIndefinite ∧ second.toOption.isSome then
          say name "the [c*] repeat construct may not appear in string1"
          pure 1
        else
          let listed := Translation.bytesOfParts one
          let inSet := listed.foldl (fun (t : Array Bool) b => t.setIfInBounds b.toNat true)
            (Array.replicate 256 false)
          let isOld (b : UInt8) : Bool := ((inSet[b.toNat]?).getD false) != complement
          let old := if complement then Translation.allBytes.filter isOld else listed
          let set := second.bind fun two =>
            if more.isEmpty then .ok [] else Translation.secondSet w old one two
          match set with
          | .error message =>
            say name message
            pure 1
          | .ok new =>
            let isNew (b : UInt8) : Bool := new.contains b
            let r ← readAll name [[0x2D]]
            let bs := r.bytes
            let bs := if deletes then
                let kept := bs.filter (!isOld ·)
                if squeezes then Translation.squeezed isNew kept else kept
              else if more.isEmpty then Translation.squeezed isOld bs
              else
                let table := Translation.table old new
                let bs := bs.map fun b => (table[b.toNat]?).getD b
                if squeezes then Translation.squeezed isNew bs else bs
            filtered r bs

end CallChart.Shell.Tool
