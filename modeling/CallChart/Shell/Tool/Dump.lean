import CallChart.Number.Shortest
import CallChart.Shell.Format
import CallChart.Shell.Tool.Naming

namespace CallChart.Shell.Tool

open CallChart.Shell.Action

namespace Dump

inductive Kind where
  | signed
  | unsigned
  | octal
  | hex
  | real
  | named
  | char
  deriving DecidableEq

/-- One notation of a row: how many bytes make up a cell, how wide a cell is, and whether the bytes
themselves are shown behind the row. -/
structure Notation where
  kind : Kind
  size : Nat
  trailer : Bool

def Notation.width (n : Notation) : Nat :=
  match n.kind with
  | .signed => ([(1, 4), (2, 6), (4, 11), (8, 20)].lookup n.size).getD 20
  | .unsigned => ([(1, 3), (2, 5), (4, 10), (8, 20)].lookup n.size).getD 20
  | .octal => ([(1, 3), (2, 6), (4, 11), (8, 22)].lookup n.size).getD 22
  | .hex => 2 * n.size
  | .real => if n.size = 4 then 15 else if n.size = 8 then 24 else 29
  | .named => 3
  | .char => 3

def value (bs : Bytes) : Nat := bs.foldr (fun b n => n * 256 + b.toNat) 0

def names : List String :=
  ["nul", "soh", "stx", "etx", "eot", "enq", "ack", "bel", "bs", "ht", "nl", "vt", "ff", "cr",
    "so", "si", "dle", "dc1", "dc2", "dc3", "dc4", "nak", "syn", "etb", "can", "em", "sub", "esc",
    "fs", "gs", "rs", "us", "sp"]

def charText (b : UInt8) : String :=
  if b = 0 then "\\0"
  else if isPrintable b then textOf [b]
  else
    match escapedByte b |>.toList with
    | ['\\', a, b, c] => String.ofList [a, b, c]
    | cs => String.ofList cs

def realText (fractionBits exponentBits : Nat) (n : Nat) : String :=
  let fraction := n % Nat.pow 2 fractionBits
  let biased := n / Nat.pow 2 fractionBits % Nat.pow 2 exponentBits
  let negative := n / Nat.pow 2 (fractionBits + exponentBits) % 2 = 1
  let sign := if negative then "-" else ""
  if biased + 1 = Nat.pow 2 exponentBits then sign ++ if fraction = 0 then "inf" else "nan"
  else
    let bias := Nat.pow 2 (exponentBits - 1) - 1
    let mantissa := if biased = 0 then fraction else fraction + Nat.pow 2 fractionBits
    let shift : Int := (max biased 1 : Nat) - (bias + fractionBits : Nat)
    let num := if 0 ≤ shift then mantissa * Nat.pow 2 shift.toNat else mantissa
    let den := if 0 ≤ shift then 1 else Nat.pow 2 (-shift).toNat
    if mantissa = 0 then sign ++ "0"
    else
      /- As few digits as are still nearer to this number than to any other one. -/
      let near (digits : Nat) : Bool :=
        let (ds, e) := Format.scientific num den (digits - 1)
        let power : Int := e - (digits - 1 : Nat)
        let a := if 0 ≤ power then ds * Nat.pow 10 power.toNat else ds
        let b := if 0 ≤ power then 1 else Nat.pow 10 (-power).toNat
        let difference := ((a * den : Nat) - (num * b : Nat) : Int).natAbs
        /- Half of the distance between neighbours is half of the number over its mantissa. -/
        difference * 2 * mantissa ≤ num * b
      let digits := ((List.range 40).find? fun d => near (d + 1)).getD 39 + 1
      sign ++ textOf (Format.magnitudeText 0x67 false (some digits) num den)

def Notation.cell (n : Notation) (bs : Bytes) : String :=
  let v := value bs
  match n.kind with
  | .signed =>
    let limit := Nat.pow 2 (8 * n.size)
    toString (if limit ≤ 2 * v then (v : Int) - limit else v)
  | .unsigned => toString v
  | .octal => textOf (Format.digitBytes 8 false (some n.width) v)
  | .hex => textOf (Format.digitBytes 16 false (some n.width) v)
  | .real => if n.size = 4 then realText 23 8 v else realText 52 11 v
  | .named =>
    let b := v % 128
    if b = 127 then "del" else (names[b]?).getD (textOf [UInt8.ofNat b])
  | .char => charText (UInt8.ofNat v)

structure Wanted where
  notations : List Notation
  radix : Char
  perRow : Nat
  abbreviates : Bool
  bigFirst : Bool

def Wanted.address (w : Wanted) (n : Nat) : String :=
  match w.radix with
  | 'o' => textOf (Format.digitBytes 8 false (some 7) n)
  | 'd' => textOf (Format.digitBytes 10 false (some 7) n)
  | 'x' => textOf (Format.digitBytes 16 false (some 6) n)
  | _ => ""

/-- The cells of a row in one notation. All notations take up the same room, so cells may have
blanks in front of them. -/
def Wanted.cells (w : Wanted) (n : Notation) (bs : Bytes) : String :=
  let fields := w.perRow / n.size
  let room := (w.notations.map fun n => (n.width + 1) * (w.perRow / n.size)).foldl max 0
  let pad := room - n.width * fields
  let count := (bs.length + n.size - 1) / n.size
  String.join ((List.range count).map fun i =>
    let part := (bs.drop (i * n.size)).take n.size
    let part := part ++ List.replicate (n.size - part.length) 0
    let part := if w.bigFirst then part.reverse else part
    let before := pad * (fields - i) / fields
    let after := pad * (fields - i - 1) / fields
    padLeft (before - after + n.width) (n.cell part))

def Wanted.row (w : Wanted) (address : Nat) (bs : Bytes) : String :=
  String.join (w.notations.zipIdx.map fun (n, i) =>
    let lead := w.address address
    let lead := if i = 0 then lead else String.ofList (List.replicate lead.length ' ')
    let cells := w.cells n bs
    let trailer := if !n.trailer then "" else
      let missing := (w.perRow - bs.length) / n.size
      let shown := bs.map fun b => if isPrintable b then b else 0x2E
      String.ofList (List.replicate (missing * (n.width + 1)) ' ') ++ "  >" ++ textOf shown ++ "<"
    lead ++ cells ++ trailer ++ "\n")

def Wanted.rows (w : Wanted) : Nat → Nat → Option Bytes → Bool → Bytes → List String
  | 0, _, _, _, _ => []
  | _, _, _, _, [] => []
  | fuel + 1, address, before, starred, bs =>
    let part := bs.take w.perRow
    let rest := bs.drop w.perRow
    let next := address + part.length
    if w.abbreviates ∧ before = some part then
      (if starred then [] else ["*\n"]) ++ w.rows fuel next before true rest
    else w.row address part :: w.rows fuel next (some part) false rest

def sizeOf (kind : Kind) (bs : Bytes) (whole : Bytes) : Except String (Nat × Bytes) :=
  let ds := bs.takeWhile ByteClass.isDigit
  let sizes := if kind = .real then [4, 8, 16] else [1, 2, 4, 8]
  if !ds.isEmpty then
    let n := (digits? ds).getD 0
    if sizes.contains n then .ok (n, bs.drop ds.length)
    else .error ("invalid type string " ++ quote whole ++ ";\nthis system doesn't provide a " ++
      toString n ++ "-byte " ++ (if kind = .real then "floating point" else "integral") ++ " type")
  else
    let letters : List (UInt8 × Nat) := if kind = .real then [(0x46, 4), (0x44, 8), (0x4C, 16)]
      else [(0x43, 1), (0x53, 2), (0x49, 4), (0x4C, 8)]
    match bs with
    | b :: rest =>
      match letters.lookup b with
      | some n => .ok (n, rest)
      | none => .ok (if kind = .real then 8 else 4, bs)
    | [] => .ok (if kind = .real then 8 else 4, [])

def readNotations (whole : Bytes) : Nat → Bytes → Except String (List Notation)
  | 0, _ => .ok []
  | _, [] => .ok []
  | fuel + 1, c :: rest => do
    let kind ← match Char.ofNat c.toNat with
      | 'd' => pure Kind.signed
      | 'u' => pure .unsigned
      | 'o' => pure .octal
      | 'x' => pure .hex
      | 'f' => pure .real
      | 'a' => pure .named
      | 'c' => pure .char
      | c => throw ("invalid character '" ++ c.toString ++ "' in type string " ++ quote whole)
    let (size, rest) ← if kind = .named ∨ kind = .char then pure (1, rest)
      else sizeOf kind rest whole
    let (trailer, rest) := match rest with
      | 0x7A :: more => (true, more)
      | rest => (false, rest)
    pure (⟨kind, size, trailer⟩ :: (← readNotations whole fuel rest))

def short : List (Char × String) :=
  [('a', "a"), ('b', "o1"), ('c', "c"), ('d', "u2"), ('f', "fF"), ('e', "fD"), ('F', "fD"),
    ('h', "x2"), ('H', "x4"), ('i', "dI"), ('I', "dL"), ('l', "dL"), ('L', "dL"), ('o', "o2"),
    ('O', "o4"), ('B', "o2"), ('D', "u4"), ('s', "d2"), ('x', "x2"), ('X', "x4")]

def notationsOf (g : Given) : Except String (List Notation) := do
  let parts ← g.options.mapM fun (c, w) =>
    if c = 't' then readNotations w (w.length + 1) w
    else
      match short.lookup c with
      | some text => readNotations (bytesOf text) 5 (bytesOf text)
      | none => pure []
  let all := parts.flatten
  pure (if all.isEmpty then [⟨.octal, 2, false⟩] else all)

def number (w : Bytes) : Except CountFault Nat :=
  let octal (ds : Bytes) : Option Nat :=
    if ds.all fun b => 0x30 ≤ b && b ≤ 0x37 then
      some (ds.foldl (fun n b => n * 8 + (b.toNat - 0x30)) 0) else none
  match w with
  | 0x30 :: x :: ds =>
    if (x = 0x78 ∨ x = 0x58) ∧ !ds.isEmpty ∧ ds.all ByteClass.isHex then
      .ok (ds.foldl (fun n b => n * 16 + (if ByteClass.isDigit b then b.toNat - 0x30
        else if ByteClass.isUpper b then b.toNat - 0x37 else b.toNat - 0x57)) 0)
    else
      match octal (x :: ds) with
      | some n => .ok n
      | none => .error .suffix
  | w => countOf "bkKmMGTPEZY" w

def strings (least : Nat) : Nat → Nat → Bytes → List (Nat × Bytes)
  | 0, _, _ => []
  | _, _, [] => []
  | fuel + 1, address, b :: rest =>
    let run := (b :: rest).takeWhile isPrintable
    let behind := (b :: rest).drop run.length
    if run.isEmpty then strings least fuel (address + 1) rest
    else
      let more := strings least fuel (address + run.length + 1) (behind.drop 1)
      if least ≤ run.length ∧ behind.head? = some 0 then (address, run) :: more else more

def load (name : String) : List Bytes → Action (Read × Bool)
  | [] => pure (⟨[], true, true⟩, false)
  | w :: rest => do
    let present := w == [0x2D] || (← node? (textOf w)).isSome
    let r ← readAll name [w]
    let (more, opened) ← if r.ended then load name rest else pure (⟨[], true, false⟩, true)
    pure (⟨r.bytes ++ more.bytes, r.whole && more.whole, r.ended && more.ended⟩,
      present || opened)

end Dump

def od : Tool := withOptions ⟨"abcdDeFfhHiIlLoOBsvxX", "AjNStw?", [("address-radix=", 'A'),
    ("endian=", '\x02'), ("format=", 't'), ("output-duplicates", 'v'), ("read-bytes=", 'N'),
    ("skip-bytes=", 'j'), ("strings?", 'S'), ("traditional", '\x03'), ("width?", 'w')]⟩ 1
    fun name g => do
  let count (c : Char) : Except String (Option Nat) :=
    match g.value? c with
    | none => .ok none
    | some w =>
      match Dump.number w with
      | .ok n => .ok (some n)
      | .error fault => .error ("invalid " ++ (if fault = .suffix then "suffix in " else "") ++
          (if c = 'w' then "--width argument " else "-" ++ c.toString ++ " argument ") ++ quote w ++
          if fault = .tooLarge then ": Value too large for defined data type" else "")
  let radix := (g.value? 'A').getD (bytesOf "o")
  let settings : Except String (List Dump.Notation × Option Nat × Option Nat × Option Nat) := do
    let skipped ← count 'j'
    let limit ← count 'N'
    let least ← count 'S'
    let notations ← Dump.notationsOf g
    pure (notations, skipped, limit, least)
  if !(["o", "d", "x", "n"].contains (textOf (radix.take 1))) then
    say name ("invalid output address radix '" ++ textOf (radix.take 1) ++
      "'; it must be one character from [doxn]")
    pure 1
  else
    match (g.values '\x02').find? fun w => (choice? ["little", "big"] w).isNone, settings with
    | some w, _ => wrongChoice name "--endian" ["little", "big"] w 1
    | none, .error message =>
      say name message
      pure 1
    | none, .ok (notations, skipped, limit, least) =>
      let least2 := (notations.map (·.size)).foldl Nat.lcm 1
      let usual := if least2 < 16 then least2 * (16 / least2) else least2
      let given := (g.value? 'w').map fun w =>
        if w.isEmpty then 32 else ((Dump.number w).toOption).getD 0
      let perRow ← match given with
        | none => pure usual
        | some n =>
          if n ≠ 0 ∧ n % least2 = 0 then pure n
          else do
            say name ("warning: invalid width " ++ toString n ++ "; using " ++ toString least2 ++
              " instead")
            pure least2
      let (r, opened) ← Dump.load name (sources g)
      let skip := skipped.getD 0
      if !opened then pure 1
      else if r.bytes.length < skip then
        say name "cannot skip past end of combined input"
        pure 1
      else
        let bytes := r.bytes.drop skip
        let bytes := match limit with
          | some n => bytes.take n
          | none => bytes
        let w : Dump.Wanted := ⟨notations, (textOf radix).toList.headD 'o', perRow, !g.has 'v',
          ((g.value? '\x02').bind (choice? ["little", "big"])) == some "big"⟩
        match least with
        | some n =>
          for (address, run) in Dump.strings n (bytes.length + 1) skip bytes do
            let lead := w.address address
            output (bytesOf (if w.radix = 'n' then "" else lead ++ " ") ++ run ++ [0x0A])
        | none =>
          output (bytesOf (String.join (w.rows (bytes.length + 1) skip none false bytes)))
          if w.radix ≠ 'n' then putLine (w.address (skip + bytes.length))
        if r.ended ∨ limit.isSome then pure (statusOf r.whole) else endless

end CallChart.Shell.Tool
