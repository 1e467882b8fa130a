import CallChart.Shell.Tool.ChangeReport
import CallChart.Shell.Tool.Naming
import CallChart.Shell.Tool.Report
import CallChart.Shell.Tool.Amount

namespace CallChart.Shell.Tool

open CallChart.Shell.Action

namespace Comparing

def misused (name message : String) : Action Nat := do
  say name message
  writeText 2 (name ++ ": Try '" ++ name ++ " --help' for more information.\n")
  pure 2

def bytesAt (path : String) : Action (Except FileFault Bytes) := do
  let opened ← if path = "-" then do
      pure ((← streamOf 0).elim (.error FileFault.badDescriptor) Except.ok)
    else openInput path
  match opened with
  | .error fault => pure (.error fault)
  | .ok id =>
    match (← getWorld).unreadable? id with
    | some fault => pure (.error fault)
    | none =>
      let (bytes, ended) ← readReady id
      if !ended then endless
      pure (.ok bytes)

def shownByte (b : UInt8) : String :=
  let low (n : Nat) : String :=
    if n < 32 then "^" ++ (Char.ofNat (n + 64)).toString
    else if n = 127 then "^?" else (Char.ofNat n).toString
  if b < 0x80 then low b.toNat else "M-" ++ low (b.toNat - 128)

def octal3 (b : UInt8) : String :=
  padLeft 3 (String.ofList (Nat.toDigits 8 b.toNat))

def firstPair : Nat → Nat → Bytes → Bytes → Option (Nat × Nat × UInt8 × UInt8)
  | i, line, a :: as, b :: bs =>
    if a = b then firstPair (i + 1) (if a = 0x0A then line + 1 else line) as bs
    else some (i, line, a, b)
  | _, _, _, _ => none

def allPairs (i : Nat) : Bytes → Bytes → List (Nat × UInt8 × UInt8)
  | a :: as, b :: bs =>
    if a = b then allPairs (i + 1) as bs else (i, a, b) :: allPairs (i + 1) as bs
  | _, _ => []

def skips? (w : Bytes) : Option (Nat × Nat) :=
  match count? w with
  | some n => some (n, n)
  | none =>
    let first := w.takeWhile (· ≠ 0x3A)
    if first.length = w.length then none
    else
      match count? first, count? (w.drop (first.length + 1)) with
      | some m, some n => some (m, n)
      | _, _ => none

def pairRows (showsBytes : Bool) (width : Nat) (pairs : List (Nat × UInt8 × UInt8)) : Bytes :=
  pairs.flatMap fun (i, a, b) =>
    bytesOf (padLeft width (toString i) ++ " " ++ octal3 a ++ " " ++
      (if showsBytes then padRight 4 (shownByte a) ++ " " ++ octal3 b ++ " " ++ shownByte b
      else octal3 b) ++ "\n")

structure Pairing where
  name : String
  given : Given
  skip : Nat × Nat
  limit : Option Nat

def Pairing.sayEnd (p : Pairing) (path : String) (text : Bytes) : Action Unit :=
  let breaks := text.count 0x0A
  say p.name ("EOF on " ++ path ++
    if text.isEmpty then " which is empty"
    else " after byte " ++ toString text.length ++
      if p.given.has 'l' then ""
      else if text.getLast? = some 0x0A then ", line " ++ toString breaks
      else ", in line " ++ toString (breaks + 1))

def Pairing.compare (p : Pairing) (path path' : String) (a b : Bytes) : Action Nat := do
  let cut (n : Nat) (bs : Bytes) : Bytes :=
    let bs := bs.drop n
    match p.limit with
    | some limit => bs.take limit
    | none => bs
  let a := cut p.skip.1 a
  let b := cut p.skip.2 b
  if a = b then pure 0
  else if p.given.has 's' then pure 1
  else
    let least := min a.length b.length
    let ended : Action Unit :=
      if a.length < b.length then p.sayEnd path a
      else if b.length < a.length then p.sayEnd path' b else pure ()
    if p.given.has 'l' then
      let longest := max a.length b.length
      let width := (toString (p.limit.elim longest (min longest))).length
      output (pairRows (p.given.has 'b') width (allPairs 1 (a.take least) (b.take least)))
      ended
      pure 1
    else
      match firstPair 1 1 a b with
      | some (i, line, x, y) =>
        putLine (path ++ " " ++ path' ++ " differ: " ++
          (if p.given.has 'b' then "byte " else "char ") ++ toString i ++ ", line " ++
          toString line ++
          if p.given.has 'b' then " is " ++ octal3 x ++ " " ++ shownByte x ++ " " ++ octal3 y ++
            " " ++ shownByte y
          else "")
        pure 1
      | none =>
        ended
        pure 1

end Comparing

def cmp : Tool := fun name words => do
  let known : Known := ⟨"blsv", "in", [("bytes=", 'n'), ("help", '\x02'), ("ignore-initial=", 'i'),
    ("print-bytes", 'b'), ("quiet", 's'), ("silent", 's'), ("verbose", 'l'), ("version", 'v')]⟩
  match parse known false (words.length + 1) words with
  | .error message => Comparing.misused name message
  | .ok g =>
    if g.has 'v' then
      putLine (versionOf name)
      pure 0
    else
      let skip := (g.value? 'i').map fun w => (w, Comparing.skips? w)
      let limit := (g.value? 'n').map fun w => (w, count? w)
      match skip, limit, g.operands with
      | some (w, none), _, _ =>
        Comparing.misused name ("invalid --ignore-initial value " ++ quote w)
      | _, some (w, none), _ => Comparing.misused name ("invalid --bytes value " ++ quote w)
      | skip, limit, operands =>
        if g.has 'l' ∧ g.has 's' then Comparing.misused name "options -l and -s are incompatible"
        else
          match operands with
          | [] => Comparing.misused name ("missing operand after " ++
              quote ((bytesOf name :: words).getLastD []))
          | first :: rest =>
            match rest.drop 3 with
            | w :: _ => Comparing.misused name ("extra operand " ++ quote w)
            | [] =>
              let given := (skip.bind (·.2)).getD (0, 0)
              let second := rest.headD [0x2D]
              let counts := (rest.drop 1).map fun w => (w, count? w)
              match counts.find? (·.2.isNone) with
              | some (w, _) =>
                Comparing.misused name ("invalid --ignore-initial value " ++ quote w)
              | none =>
                let more (i : Nat) : Nat := ((counts[i]?).bind (·.2)).getD 0
                let p : Comparing.Pairing := ⟨name, g, (max given.1 (more 0), max given.2 (more 1)),
                  limit.bind (·.2)⟩
                let path := textOf first
                let path' := textOf second
                if path = path' then pure 0
                else
                  match ← Comparing.bytesAt path with
                  | .error fault =>
                    if !g.has 's' then say name (path ++ ": " ++ fault.reason)
                    pure 2
                  | .ok a =>
                    match ← Comparing.bytesAt path' with
                    | .error fault =>
                      if !g.has 's' then say name (path' ++ ": " ++ fault.reason)
                      pure 2
                    | .ok b => p.compare path path' a b

namespace Comparing

structure Wanted where
  name : String
  given : Given
  switches : List Bytes
  style : ChangeStyle
  around : Nat
  manner : ChangeReport.Manner
  layout : ChangeReport.Layout
  unimportant : ChangeReport.Trivial

def Wanted.has (w : Wanted) (c : Char) : Bool := w.given.has c

structure Side where
  path : String
  node : Option Node
  bytes : Bytes
  time : Int

def Side.isDirectory (s : Side) : Bool := s.node.any Node.isDirectory

def side (w : Wanted) (mayMiss : Bool) (path : String) : Action (Except FileFault Side) := do
  if path = "-" then
    match ← bytesAt path with
    | .error fault => pure (.error fault)
    | .ok bytes =>
      let now := (← getWorld).now
      pure (.ok ⟨path, some ⟨.file bytes, 0o600, now, 0, 0⟩, bytes, now⟩)
  else
    match ← present (!w.has '\x05') path with
    | .error .notFound => pure (if mayMiss then .ok ⟨path, none, [], 0⟩ else .error .notFound)
    | .error fault => pure (.error fault)
    | .ok (_, n) =>
      if n.isDirectory ∨ n.isLink then pure (.ok ⟨path, some n, [], n.modified⟩)
      else
        match ← bytesAt path with
        | .error fault => pure (.error fault)
        | .ok bytes => pure (.ok ⟨path, some n, bytes, n.modified⟩)

def plainName (path : String) : String :=
  let bs := bytesOf path
  if bs.all fun b => ByteClass.isGraph b ∧ b ≠ 0x22 ∧ b ≠ 0x5C then path
  else
    "\"" ++ String.join (bs.map fun b =>
      if b = 0x22 then "\\\"" else if b = 0x5C then "\\\\"
      else if isPrintable b then textOf [b] else escapedByte b) ++ "\""

def heading (w : Wanted) (mark : String) (index : Nat) (s : Side) : Bytes :=
  match (w.given.values 'L')[index]? with
  | some label => bytesOf (mark ++ " ") ++ label ++ [0x0A]
  | none =>
    let form := if w.style = .context then "%a %b %e %H:%M:%S %Y" else "%Y-%m-%d %H:%M:%S.%N %z"
    bytesOf (mark ++ " " ++ plainName s.path ++ "\t" ++ Calendar.format s.time form.toList ++ "\n")

def labelOf (w : Wanted) (index : Nat) (s : Side) : String :=
  match (w.given.values 'L')[index]? with
  | some label => textOf label
  | none => s.path

def compareFiles (w : Wanted) (inTree : Bool) (a b : Side) : Action Nat := do
  let differ (what : String) : Action Unit :=
    putLine (what ++ " " ++ labelOf w 0 a ++ " and " ++ labelOf w 1 b ++ " differ")
  let isBinary (s : Side) : Bool := (s.bytes.take 32768).contains 0
  if !w.has 'a' ∧ (isBinary a ∨ isBinary b) then
    if a.bytes = b.bytes then same
    else
      if w.has 'q' then
        differ "Files"
        pure 1
      else
        differ "Binary files"
        pure 2
  else
    let edits := w.style = .editing ∨ w.style = .forward
    let textOf (bytes : Bytes) : ChangeReport.Text :=
      let t := ChangeReport.Text.ofBytes bytes
      if edits then { t with complete := true } else t
    let t := textOf a.bytes
    let t' := textOf b.bytes
    let cs := if a.bytes = b.bytes then [] else
      ChangeReport.changes w.manner
        (if w.style = .unified ∨ w.style = .context then w.around else 0)
        t t'
    let counts := cs.any (!w.unimportant.covers t t' ·)
    if w.has 'q' then
      if counts then
        differ "Files"
        pure 1
      else same
    else
      let isWhole : Bool := match w.style with
        | .columns => true
        | .merged _ => true
        | _ => false
      if counts ∨ isWhole then
        if inTree then
          putLine (" ".intercalate ("diff" :: (w.switches.map named) ++
            [plainName a.path, plainName b.path]))
        if w.style = .unified then output (heading w "---" 0 a ++ heading w "+++" 1 b)
        if w.style = .context then output (heading w "***" 0 a ++ heading w "---" 1 b)
        output (ChangeReport.report w.layout w.style w.around w.unimportant t t' cs)
      let broken := if edits ∧ a.path ≠ b.path then [a, b].filter fun s =>
        !s.bytes.isEmpty ∧ s.bytes.getLast? ≠ some 0x0A else []
      for s in broken do
        say w.name (s.path ++ ": No newline at end of file\n")
      if !broken.isEmpty then pure 2
      else if counts then pure 1 else same
where
  same : Action Nat := do
    if w.has 's' then
      putLine ("Files " ++ labelOf w 0 a ++ " and " ++ labelOf w 1 b ++ " are identical")
    pure 0

def sayOnly (directory name : String) : Action Nat := do
  putLine ("Only in " ++ withoutSlashes directory ++ ": " ++ name)
  pure 1

def namesIn (s : Side) : Action (List String) := do
  match s.node, ← present true s.path with
  | some _, .ok (p, _) => namesAt p
  | _, _ => pure []

def Wanted.sorted (w : Wanted) (names : List String) : List String :=
  (names.mergeSort fun x y => decide (x ≤ y)).filter fun name =>
    !(w.given.values 'x').any fun pattern =>
      Pattern.matchesAll (Pattern.ofBytes pattern) (bytesOf name)

def compareAt (w : Wanted) : Nat → Bool → String → String → Action Nat
  | 0, _, _, _ => pure 0
  | fuel + 1, inTree, path, path' => do
    match ← side w (w.has 'N' || w.has 'P') path, ← side w (w.has 'N') path' with
    | .ok a, .ok b =>
      let inside' (names : List String) : Action Nat := do
        let statuses ← names.mapM fun name =>
          compareAt w fuel true (inside path name) (inside path' name)
        pure (statuses.foldl max 0)
      match a.node, b.node with
      | none, none => do
        for p in [path, path'] do
          say w.name (p ++ ": " ++ FileFault.notFound.reason)
        pure 2
      | some n, some n' =>
        if n.isDirectory ∧ n'.isDirectory then
          if inTree ∧ !w.has 'r' then do
            putLine ("Common subdirectories: " ++ path ++ " and " ++ path')
            pure 0
          else do
            let left ← namesIn a
            let right ← namesIn b
            let statuses ← (w.sorted (left ++ right).eraseDups).mapM fun name =>
              if (right.contains name ∨ w.has 'N') ∧
                  (left.contains name ∨ w.has 'N' ∨ w.has 'P') then
                compareAt w fuel true (inside path name) (inside path' name)
              else sayOnly (if left.contains name then path else path') name
            pure (statuses.foldl max 0)
        else if !inTree ∧ (n.isDirectory ∨ n'.isDirectory) then
          if path = "-" ∨ path' = "-" then do
            say w.name "cannot compare '-' to a directory"
            pure 2
          else
            let (p, p') := if n.isDirectory then (inside path (lastStep path'), path')
              else (path, inside path' (lastStep path))
            compareAt w fuel false p p'
        else if n.isDirectory ∨ n'.isDirectory ∨ n.isLink ≠ n'.isLink then do
          putLine ("File " ++ path ++ " is a " ++ describedKind n ++ " while file " ++ path' ++
            " is a " ++ describedKind n')
          pure 1
        else if n.isLink then
          if n.body = n'.body then pure 0
          else do
            putLine ("Symbolic links " ++ path ++ " and " ++ path' ++ " differ")
            pure 1
        else compareFiles w inTree a b
      | some n, none =>
        if !n.isDirectory then compareFiles w inTree a b
        else if w.has 'r' then do inside' (w.sorted (← namesIn a))
        else sayOnly (pathBefore path) (lastStep path)
      | none, some n =>
        if !n.isDirectory then compareFiles w inTree a b
        else if w.has 'r' then do inside' (w.sorted (← namesIn b))
        else sayOnly (pathBefore path') (lastStep path')
    | first, second => do
      for (p, s) in [(path, first), (path', second)] do
        match s with
        | .error fault => say w.name (p ++ ": " ++ fault.reason)
        | .ok _ => pure ()
      pure 2

def stylesOf (g : Given) : List ChangeStyle :=
  g.options.filterMap fun (c, v) =>
    match c with
    | 'c' => some .context
    | 'C' => some .context
    | 'u' => some .unified
    | 'U' => some .unified
    | 'e' => some .editing
    | 'f' => some .forward
    | 'n' => some .counted
    | 'y' => some .columns
    | 'D' => some (.merged v)
    | '\x02' => some .normal
    | _ => none

def known : Known := ⟨"0123456789abBcdeEfhHilnNpPqrstTuvwyZ", "CDFILSUWxX", [("brief", 'q'),
  ("color?", '\x04'), ("context?", 'C'), ("ed", 'e'), ("exclude=", 'x'), ("expand-tabs", 't'),
  ("forward-ed", 'f'), ("help", '\x06'), ("horizon-lines=", '\x07'), ("ifdef=", 'D'),
  ("ignore-all-space", 'w'), ("ignore-blank-lines", 'B'), ("ignore-case", 'i'),
  ("ignore-file-name-case", '\x07'), ("ignore-matching-lines=", 'I'),
  ("ignore-space-change", 'b'), ("ignore-tab-expansion", 'E'), ("ignore-trailing-space", 'Z'),
  ("initial-tab", 'T'), ("label=", 'L'), ("left-column", '\x0E'), ("minimal", 'd'),
  ("new-file", 'N'), ("no-dereference", '\x05'), ("normal", '\x02'), ("rcs", 'n'),
  ("recursive", 'r'), ("report-identical-files", 's'), ("show-c-function", 'p'),
  ("show-function-line=", 'F'), ("side-by-side", 'y'), ("speed-large-files", 'H'),
  ("strip-trailing-cr", '\x0F'), ("suppress-common-lines", '\x10'), ("tabsize=", '\x11'),
  ("text", 'a'), ("unidirectional-new-file", 'P'), ("unified?", 'U'), ("version", 'v'),
  ("width=", 'W')]⟩

/-- The lines around changes that options ask for. Options that are digits make a number, which
counts unless there is a greater one of another option. -/
def aroundOf (g : Given) : Except String Nat := do
  let around ← g.options.foldlM (fun around (c, v) =>
    if c = 'c' ∨ c = 'u' then .ok (max around 3)
    else if c = 'C' ∨ c = 'U' then
      if v.isEmpty then .ok (max around 3)
      else
        match digits? v with
        | some n => .ok (max around n)
        | none => .error ("invalid context length " ++ quote v)
    else .ok around) 0
  let ds := (g.options.map (·.1)).filter Char.isDigit
  if ds.isEmpty then pure around
  else
    let n := Calendar.value ds
    let isGiven := g.options.any fun (c, v) => (c = 'C' ∨ c = 'U') ∧ !v.isEmpty
    pure (if isGiven then max around n else n)

def positive (g : Given) (c : Char) (what : String) (usual : Nat) : Except String Nat :=
  match g.value? c with
  | none => .ok usual
  | some v =>
    match digits? v with
    | some (n + 1) => .ok (n + 1)
    | _ => .error ("invalid " ++ what ++ " " ++ quote v)

def expression (g : Given) (c : Char) : Except String (Option Regex) :=
  match g.value? c with
  | none => .ok none
  | some v =>
    match Regex.read .basic v with
    | .ok e => .ok (some e.regex)
    | .error message => .error (textOf v ++ ": " ++ message)

def withoutOperands (words operands : List Bytes) : List Bytes :=
  (words.reverse.foldl (fun (kept : List Bytes × List Bytes) w =>
    match kept.2 with
    | o :: rest => if o = w then (kept.1, rest) else (w :: kept.1, kept.2)
    | [] => (w :: kept.1, [])) ([], operands.reverse)).1

def wantedOf (name : String) (words : List Bytes) (g : Given) : Except (Bool × String) Wanted := do
  let hinted {α : Type} (r : Except String α) : Except (Bool × String) α :=
    r.mapError (true, ·)
  let around ← hinted (aroundOf g)
  let width ← hinted (positive g 'W' "width" 130)
  let tabSize ← hinted (positive g '\x11' "tabsize" 8)
  let important ← (expression g 'I').mapError (false, ·)
  let functions ← (expression g 'F').mapError (false, ·)
  let styles := (stylesOf g).eraseDups
  if 1 < styles.length then throw (true, "conflicting output style options")
  let style := styles.headD (if g.has 'p' then .context else .normal)
  let around := if g.has 'p' ∧ styles.isEmpty then 3 else around
  if 2 < (g.values 'L').length then throw (false, "too many file label options")
  let manner : ChangeReport.Manner :=
    ⟨g.has 'i', g.has 'w', g.has 'b', g.has 'Z', g.has 'E', g.has '\x0F', tabSize⟩
  let marksEnd := match style with
    | .normal => true
    | .unified => true
    | .context => true
    | _ => false
  let starts : Option Regex := if g.has 'p' then
      (Regex.read .basic (bytesOf "^[[:alpha:]$_]")).toOption.map (·.regex) else functions
  let layout : ChangeReport.Layout :=
    ⟨g.has 'T', g.has 't', tabSize, width, g.has '\x0E', g.has '\x10', marksEnd, starts⟩
  let blanks := g.has 'w' || g.has 'b' || g.has 'Z'
  pure ⟨name, g, withoutOperands words g.operands, style, around, manner, layout,
    ⟨g.has 'B', blanks, important⟩⟩

end Comparing

def diff : Tool := fun name words => do
  match parse Comparing.known false (words.length + 1) words with
  | .error message => Comparing.misused name message
  | .ok g =>
    if g.has 'v' then
      putLine (versionOf name)
      pure 0
    else
      match Comparing.wantedOf name words g with
      | .error (true, message) => Comparing.misused name message
      | .error (false, message) => do
        say name message
        pure 2
      | .ok w =>
        match g.operands with
        | [a, b] => Comparing.compareAt w 4096 false (textOf a) (textOf b)
        | _ :: _ :: c :: _ => Comparing.misused name ("extra operand " ++ quote c)
        | _ => Comparing.misused name ("missing operand after " ++
            quote ((bytesOf name :: words).getLastD []))

end CallChart.Shell.Tool
