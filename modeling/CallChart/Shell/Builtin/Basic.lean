import CallChart.Shell.Expansion
import CallChart.Shell.Grammar

namespace CallChart.Shell

open CallChart.Shell.Action

abbrev Builtin := List Bytes → Action Nat

namespace Builtin

def illegalNumber {α : Type} (w : Bytes) : Action α :=
  fail ("Illegal number: " ++ textOf w)

def digits? (bytes : Bytes) : Option Nat :=
  if bytes.isEmpty ∨ bytes.any (fun b => b < 0x30 || 0x39 < b) then none
  else some (bytes.foldl (fun n b => n * 10 + (b.toNat - 0x30)) 0)

def numberLimit : Nat := 2147483647

def natural (w : Bytes) : Action Nat :=
  match digits? w with
  | some n => if numberLimit < n then illegalNumber w else pure n
  | none => illegalNumber w

def options (flags valued : String) : Nat → List Bytes → Action (List (Char × Bytes) × List Bytes)
  | 0, ws => pure ([], ws)
  | _, [] => pure ([], [])
  | fuel + 1, w :: rest =>
    match (textOf w).toList with
    | ['-', '-'] => pure ([], rest)
    | '-' :: c :: cs => do
      let (found, rest) ← letters (c :: cs) rest
      let (more, rest) ← options flags valued fuel rest
      pure (found ++ more, rest)
    | _ => pure ([], w :: rest)
where
  letters : List Char → List Bytes → Action (List (Char × Bytes) × List Bytes)
    | [], rest => pure ([], rest)
    | c :: cs, rest => do
      if flags.toList.contains c then
        let (more, rest) ← letters cs rest
        pure ((c, []) :: more, rest)
      else if valued.toList.contains c then
        match cs, rest with
        | _ :: _, rest => pure ([(c, Utf8.encodeChars cs)], rest)
        | [], value :: rest => pure ([(c, value)], rest)
        | [], [] => fail ("No arg for -" ++ c.toString ++ " option")
      else fail ("Illegal option -" ++ c.toString)

def flags (known : String) (words : List Bytes) : Action (List Char × List Bytes) := do
  let (given, rest) ← options known "" (words.length + 1) words
  pure (given.map (·.1), rest)

def putLine (text : String) : Action Unit :=
  output (bytesOf (text ++ "\n"))

def quotedBytes (bytes : Bytes) : Bytes :=
  let quote : UInt8 := 0x27
  let isQuote (b : UInt8) : Bool := b == quote
  let rec go : Nat → Bytes → Bytes
    | 0, _ => []
    | _, [] => []
    | fuel + 1, bs =>
      let plain := bs.takeWhile (!isQuote ·)
      let rest := bs.drop plain.length
      let quotes := rest.takeWhile isQuote
      let head := if plain.isEmpty then [] else quote :: plain ++ [quote]
      let tail := if quotes.isEmpty then [] else 0x22 :: quotes ++ [0x22]
      head ++ tail ++ go fuel (rest.drop quotes.length)
  if bytes.isEmpty then [quote, quote] else go (bytes.length + 1) bytes

def splitAssignment (w : Bytes) : String × Option Bytes :=
  let name := w.takeWhile (· ≠ 0x3D)
  (textOf name, if name.length < w.length then some (w.drop (name.length + 1)) else none)

/-- Where names of commands and aliases are kept in a table of some size: a sum of their bytes, in
which the first one counts seventeen times. -/
def bucket (size : Nat) (name : String) : Nat :=
  let bytes := bytesOf name
  (bytes.foldl (fun n b => n + b.toNat) ((bytes.headD 0).toNat * 16)) % size

def variableTable : Nat := 39

def inTable {α : Type} (size : Nat) (entries : List (String × α)) : List (String × α) :=
  entries.mergeSort fun a b => bucket size a.1 ≤ bucket size b.1

/-- Reads the commands of a text one after another and performs each before the next one is read.
Shown lines and the line of a fault count from the beginning of the text. The result tells whether
there were any commands. -/
def runSource (perform : Perform) (shows last : Bool) : Nat → Bool → Source → Action Bool
  | 0, ran, _ => pure ran
  | fuel + 1, ran, source => do
    let s ← get
    let source := { source with
      aliases := s.aliases, documents := s.documents
      verbose := shows && s.switches.contains .verbose }
    let show' (lines : List (List Char)) : Action Unit := do
      for line in lines.reverse do
        let _ ← write 2 (line.map byteOf)
    match source.command? with
    | .error fault =>
      show' fault.shown
      complainAt fault.line fault.message
      setStatus 2
      throw .fault
    | .ok (body, source) =>
      show' source.shown
      modify fun s => { s with documents := source.documents, reading := source.line }
      match body with
      | none => pure ran
      | some body =>
        if body.isEmpty ∨ (← isOn .noexec) then runSource perform shows last fuel ran source
        else
          let ends := last && source.again && source.token == .ending
          modify fun s => { s with last := ends }
          perform (.statements body)
          runSource perform shows last fuel true source

/-- Runs the commands of a text. `shows` tells whether its lines may be shown, and `last` whether
the process ends with the text; the result tells whether there were any commands. -/
def runText (perform : Perform) (shows last : Bool) (text : Bytes) : Action Bool := do
  let s ← get
  let characters := (text.filter (· ≠ 0)).map fun b => Char.ofNat b.toNat
  afterwards
    (runSource perform shows last (characters.length + 2) false (.ofText characters [] #[]))
    (modify fun t => { t with reading := s.reading, last := s.last })

end Builtin
end CallChart.Shell
