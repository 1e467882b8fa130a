import CallChart.Difference
import CallChart.Shell.Regex
import CallChart.Shell.Tool.Basic
import Std.Data.HashMap

namespace CallChart.Shell.Tool

inductive ChangeStyle where
  | normal
  | unified
  | context
  | editing
  | forward
  | counted
  | columns
  | merged (name : Bytes)
  deriving DecidableEq, Repr

namespace ChangeReport

structure Text where
  lines : Array Bytes
  complete : Bool

def Text.ofBytes (bytes : Bytes) : Text :=
  ⟨(linesOf bytes).toArray, bytes.isEmpty || bytes.getLast? == some 0x0A⟩

def Text.line (t : Text) (i : Nat) : Bytes := t.lines.getD i []

def Text.isComplete (t : Text) (i : Nat) : Bool := t.complete || i + 1 < t.lines.size

structure Manner where
  fold : Bool
  allBlanks : Bool
  someBlanks : Bool
  lastBlanks : Bool
  tabs : Bool
  returns : Bool
  tabSize : Nat

def withoutTabs (size : Nat) (line : Bytes) : Bytes :=
  (line.foldl (fun (out : Bytes × Nat) b =>
    if b = 0x09 then
      let count := size - out.2 % size
      (List.replicate count 0x20 ++ out.1, out.2 + count)
    else (b :: out.1, out.2 + 1)) ([], 0)).1.reverse

def withSingleBlanks : Bytes → Bytes
  | [] => []
  | b :: rest =>
    if ByteClass.isSpace b then
      match withSingleBlanks rest with
      | c :: more => if c = 0x20 then c :: more else 0x20 :: c :: more
      | [] => [0x20]
    else b :: withSingleBlanks rest

def withoutLastBlanks (line : Bytes) : Bytes :=
  (line.reverse.dropWhile ByteClass.isSpace).reverse

def Manner.plain (m : Manner) (line : Bytes) : Bytes :=
  let line := if m.returns ∧ line.getLast? = some 0x0D then line.dropLast else line
  let line := if m.tabs then withoutTabs m.tabSize line else line
  let line := if m.allBlanks then line.filter (!ByteClass.isSpace ·)
    else if m.someBlanks then withSingleBlanks (withoutLastBlanks line)
    else if m.lastBlanks then withoutLastBlanks line else line
  if m.fold then line.map Regex.lower else line

def Manner.seesEnd (m : Manner) : Bool := !(m.allBlanks || m.someBlanks || m.lastBlanks)

def commonStart (a b : Text) : Nat :=
  ((List.range (min a.lines.size b.lines.size)).takeWhile fun i =>
    a.line i = b.line i ∧ a.isComplete i = b.isComplete i).length

def commonEnd (a b : Text) (start : Nat) : Nat :=
  if a.complete ≠ b.complete then 0
  else
    ((List.range (min a.lines.size b.lines.size - start)).takeWhile fun i =>
      a.line (a.lines.size - 1 - i) = b.line (b.lines.size - 1 - i)).length

def numbered (m : Manner) (t : Text) (start stop : Nat) (known : Std.HashMap (Bytes × Bool) Nat) :
    Array Nat × Std.HashMap (Bytes × Bool) Nat :=
  (List.range (stop - start)).foldl (fun (numbers, known) k =>
    let key := (m.plain (t.line (start + k)), !m.seesEnd || t.isComplete (start + k))
    match known[key]? with
    | some n => (numbers.push n, known)
    | none => (numbers.push (known.size + 1), known.insert key (known.size + 1))) (#[], known)

/-- The changes from one text to another. Lines at both ends that are the same are not looked at,
but so many of them. -/
def changes (m : Manner) (around : Nat) (a b : Text) : List Difference.Change :=
  let start := commonStart a b - around
  let stop := commonEnd a b start - around
  let (old, known) := numbered m a start (a.lines.size - stop) ∅
  let (new, _) := numbered m b start (b.lines.size - stop) known
  (Difference.between old new).map fun c => { c with old := c.old + start, new := c.new + start }

structure Trivial where
  blank : Bool
  skipsBlanks : Bool
  pattern : Option Regex

def Trivial.holds (t : Trivial) (line : Bytes) : Bool :=
  let bare := if t.skipsBlanks then line.filter (!ByteClass.isSpace ·) else line
  (t.blank && bare.isEmpty) ||
    t.pattern.any fun r => (r.find? ⟨line.toArray, false, false⟩ 0).isSome

def Trivial.covers (t : Trivial) (a b : Text) (c : Difference.Change) : Bool :=
  (t.blank || t.pattern.isSome) &&
    (List.range c.deleted).all (fun k => t.holds (a.line (c.old + k))) &&
    (List.range c.inserted).all fun k => t.holds (b.line (c.new + k))

def range (start count : Nat) : String :=
  if count ≤ 1 then toString (start + count)
  else toString (start + 1) ++ "," ++ toString (start + count)

def letter (c : Difference.Change) : String :=
  if c.deleted = 0 then "a" else if c.inserted = 0 then "d" else "c"

def hunks (around : Nat) (ignored : Difference.Change → Bool) :
    List Difference.Change → List (List Difference.Change)
  | [] => []
  | c :: rest =>
    match hunks around ignored rest with
    | (next :: more) :: others =>
      let limit := if ignored c ∨ ignored next then around else 2 * around + 1
      if next.old - (c.old + c.deleted) < limit then (c :: next :: more) :: others
      else [c] :: (next :: more) :: others
    | others => [c] :: others

structure Layout where
  tabFirst : Bool
  expands : Bool
  tabSize : Nat
  width : Nat
  leftOnly : Bool
  changesOnly : Bool
  marksEnd : Bool
  functions : Option Regex

def Layout.put (l : Layout) (mark : String) (t : Text) (i : Nat) : Bytes :=
  let line := t.line i
  let line := if l.expands then withoutTabs l.tabSize line else line
  bytesOf mark ++ line ++
    if t.isComplete i then [0x0A]
    else if l.marksEnd then bytesOf "\n\\ No newline at end of file\n" else []

def Layout.putAll (l : Layout) (mark : String) (t : Text) (start count : Nat) : Bytes :=
  (List.range count).flatMap fun k => l.put mark t (start + k)

def Layout.gap (l : Layout) (usual : String) : String := if l.tabFirst then "\t" else usual

def normalHunk (l : Layout) (a b : Text) (c : Difference.Change) : Bytes :=
  bytesOf (range c.old c.deleted ++ letter c ++ range c.new c.inserted ++ "\n") ++
    l.putAll ("<" ++ l.gap " ") a c.old c.deleted ++
    (if c.deleted ≠ 0 ∧ c.inserted ≠ 0 then bytesOf "---\n" else []) ++
    l.putAll (">" ++ l.gap " ") b c.new c.inserted

def covered (around : Nat) (a b : Text) (cs : List Difference.Change) :
    (Nat × Nat) × (Nat × Nat) :=
  let first := cs.headD ⟨0, 0, 0, 0⟩
  let last := cs.getLastD ⟨0, 0, 0, 0⟩
  let start := first.old - around
  let start' := first.new - around
  let stop := min a.lines.size (last.old + last.deleted + around)
  let stop' := min b.lines.size (last.new + last.inserted + around)
  ((start, stop - start), (start', stop' - start'))

def Layout.heading (l : Layout) (a : Text) (place : Nat) : Bytes :=
  match l.functions with
  | none => []
  | some r =>
    match (List.range place).reverse.find? fun i =>
        (r.find? ⟨(a.line i).toArray, false, false⟩ 0).isSome with
    | none => []
    | some i => 0x20 :: withoutLastBlanks ((a.line i).take 40)

def unifiedRange (start count : Nat) : String :=
  if count = 0 then toString start ++ ",0"
  else if count = 1 then toString (start + 1)
  else toString (start + 1) ++ "," ++ toString count

def unifiedLines (l : Layout) (a b : Text) : Nat → Nat → List Difference.Change → Bytes
  | i, stop, [] => l.putAll (l.gap " ") a i (stop - i)
  | i, stop, c :: rest =>
    let mark (text : String) : String := text ++ if l.tabFirst then "\t" else ""
    l.putAll (l.gap " ") a i (c.old - i) ++ l.putAll (mark "-") a c.old c.deleted ++
      l.putAll (mark "+") b c.new c.inserted ++
      unifiedLines l a b (c.old + c.deleted) stop rest

def unifiedHunk (l : Layout) (around : Nat) (a b : Text) (cs : List Difference.Change) : Bytes :=
  let ((start, count), (start', count')) := covered around a b cs
  bytesOf ("@@ -" ++ unifiedRange start count ++ " +" ++ unifiedRange start' count' ++ " @@") ++
    l.heading a start ++ [0x0A] ++ unifiedLines l a b start (start + count) cs

/-- One half of a hunk: lines with marks. The changes tell where lines change, how many do, and
whether there are others in their place. -/
def halfHunk (l : Layout) (t : Text) (start count : Nat) (alone : String)
    (places : List (Nat × Nat × Bool)) : Bytes :=
  (List.range count).flatMap fun k =>
    let i := start + k
    let mark := match places.find? fun (place, size, _) => place ≤ i ∧ i < place + size with
      | some (_, _, true) => "!"
      | some (_, _, false) => alone
      | none => " "
    l.put (mark ++ l.gap " ") t i

def contextHunk (l : Layout) (around : Nat) (a b : Text) (cs : List Difference.Change) : Bytes :=
  let ((start, count), (start', count')) := covered around a b cs
  bytesOf "***************" ++ l.heading a start ++
    bytesOf ("\n*** " ++ range start count ++ " ****\n") ++
    (if cs.any (0 < ·.deleted) then
      halfHunk l a start count "-" (cs.map fun c => (c.old, c.deleted, 0 < c.inserted))
    else []) ++
    bytesOf ("--- " ++ range start' count' ++ " ----\n") ++
    if cs.any (0 < ·.inserted) then
      halfHunk l b start' count' "+" (cs.map fun c => (c.new, c.inserted, 0 < c.deleted))
    else []

def editedLines (l : Layout) (b : Text) : Nat → Nat → Bool → Bytes
  | _, 0, puts => if puts then bytesOf ".\n" else []
  | i, count + 1, puts =>
    let again := if puts then [] else bytesOf "a\n"
    if b.line i = [0x2E] ∧ b.isComplete i then
      again ++ bytesOf "..\n.\ns/.//\n" ++ editedLines l b (i + 1) count false
    else
      let line := l.put "" b i
      again ++ line ++ (if b.isComplete i then [] else [0x0A]) ++
        editedLines l b (i + 1) count true

def editingHunk (l : Layout) (b : Text) (c : Difference.Change) : Bytes :=
  bytesOf (range c.old c.deleted ++ letter c ++ "\n") ++
    if c.inserted = 0 then [] else editedLines l b c.new c.inserted true

def forwardHunk (l : Layout) (b : Text) (c : Difference.Change) : Bytes :=
  let place := if c.deleted ≤ 1 then toString (c.old + c.deleted)
    else toString (c.old + 1) ++ " " ++ toString (c.old + c.deleted)
  bytesOf (letter c ++ place ++ "\n") ++
    if c.inserted = 0 then [] else l.putAll "" b c.new c.inserted ++ bytesOf ".\n"

def countedHunk (l : Layout) (b : Text) (c : Difference.Change) : Bytes :=
  (if c.deleted = 0 then []
    else bytesOf ("d" ++ toString (c.old + 1) ++ " " ++ toString c.deleted ++ "\n")) ++
    if c.inserted = 0 then []
    else bytesOf ("a" ++ toString (c.old + c.deleted) ++ " " ++ toString c.inserted ++ "\n") ++
      l.putAll "" b c.new c.inserted

def Layout.halves (l : Layout) : Nat × Nat :=
  let tab := if l.expands then 1 else l.tabSize
  let room := tab + 3
  let middle := l.width / 2 + room / 2 + (if l.width % 2 = 1 ∧ room % 2 = 1 then 1 else 0)
  let column := middle - middle % tab
  let half := min (column - 3) (l.width - column)
  (half, if half = 0 then l.width else column)

def Layout.fill (l : Layout) (start stop : Nat) : Bytes :=
  if l.expands then List.replicate (stop - start) 0x20
  else
    let tabs := stop / l.tabSize - start / l.tabSize
    let start := if tabs = 0 then start else stop / l.tabSize * l.tabSize
    List.replicate tabs 0x09 ++ List.replicate (stop - start) 0x20

def Layout.half (l : Layout) (width : Nat) : Nat → Nat → Bytes → Bytes × Nat
  | _, out, [] => ([], out)
  | place, out, b :: rest =>
    if b = 0x09 then
      let spaces := l.tabSize - place % l.tabSize
      let stop := out + spaces
      let (shown, out) : Bytes × Nat :=
        if place ≠ out then ([], out)
        else if l.expands then
          (List.replicate (min stop width - out) 0x20, max out (min stop width))
        else if stop < width then ([b], stop) else ([], out)
      let (more, out) := l.half width (place + spaces) out rest
      (shown ++ more, out)
    else if b < 0x20 then
      let (more, out) := l.half width place out rest
      ((if place < width then b :: more else more), out)
    else if place < width then
      let (more, out) := l.half width (place + 1) (place + 1) rest
      (b :: more, out)
    else l.half width (place + 1) out rest

def Layout.beside (l : Layout) (a b : Text) (left right : Option Nat) (mark : Char) : Bytes :=
  let (width, column) := l.halves
  let leftEnds := left.any a.isComplete
  let rightEnds := right.any b.isComplete
  let (first, place) := match left with
    | some i => l.half width 0 0 (a.line i)
    | none => ([], 0)
  let mark := if mark = '|' ∧ leftEnds ≠ rightEnds then (if leftEnds then '/' else '\\') else mark
  let (second, place) := if mark = ' ' then ([], place)
    else
      let middle := (width + column - 1) / 2
      (l.fill place middle ++ [UInt8.ofNat mark.toNat], max place middle + 1)
  let third := match right with
    | some j =>
      let line := b.line j
      if line.isEmpty ∧ b.isComplete j then []
      else l.fill place column ++ (l.half width 0 0 line).1
    | none => []
  first ++ second ++ third ++ if leftEnds || rightEnds then [0x0A] else []

def Layout.same (l : Layout) (a b : Text) (i j stop stop' : Nat) : Bytes :=
  if l.changesOnly then []
  else
    let both := if l.leftOnly then 0 else min (stop - i) (stop' - j)
    ((List.range both).flatMap fun k => l.beside a b (some (i + k)) (some (j + k)) ' ') ++
      (if l.leftOnly then [] else
        (List.range (stop' - j - both)).flatMap fun k =>
          l.beside a b none (some (j + both + k)) ')') ++
      (List.range (stop - i - both)).flatMap fun k =>
        l.beside a b (some (i + both + k)) none '('

def columns (l : Layout) (a b : Text) : Nat → Nat → List Difference.Change → Bytes
  | i, j, [] => l.same a b i j a.lines.size b.lines.size
  | i, j, c :: rest =>
    let both := min c.deleted c.inserted
    l.same a b i j c.old c.new ++
      ((List.range both).flatMap fun k => l.beside a b (some (c.old + k)) (some (c.new + k)) '|') ++
      ((List.range (c.inserted - both)).flatMap fun k =>
        l.beside a b none (some (c.new + both + k)) '>') ++
      ((List.range (c.deleted - both)).flatMap fun k =>
        l.beside a b (some (c.old + both + k)) none '<') ++
      columns l a b (c.old + c.deleted) (c.new + c.inserted) rest

def merged (l : Layout) (name : Bytes) (a b : Text) : Nat → List Difference.Change → Bytes
  | i, [] => l.putAll "" a i (a.lines.size - i)
  | i, c :: rest =>
    let say (before after : String) : Bytes := bytesOf before ++ name ++ bytesOf after
    l.putAll "" a i (c.old - i) ++
      (if c.inserted = 0 then
        say "#ifndef " "\n" ++ l.putAll "" a c.old c.deleted ++ say "#endif /* ! " " */\n"
      else if c.deleted = 0 then
        say "#ifdef " "\n" ++ l.putAll "" b c.new c.inserted ++ say "#endif /* " " */\n"
      else
        say "#ifndef " "\n" ++ l.putAll "" a c.old c.deleted ++ say "#else /* " " */\n" ++
          l.putAll "" b c.new c.inserted ++ say "#endif /* " " */\n") ++
      merged l name a b (c.old + c.deleted) rest

def report (l : Layout) (style : ChangeStyle) (around : Nat) (t : Trivial) (a b : Text)
    (cs : List Difference.Change) : Bytes :=
  let counted := cs.filter (!t.covers a b ·)
  let together := (hunks around (t.covers a b) cs).filter (!·.all (t.covers a b))
  match style with
  | .normal => counted.flatMap (normalHunk l a b)
  | .unified => together.flatMap (unifiedHunk l around a b)
  | .context => together.flatMap (contextHunk l around a b)
  | .editing => counted.reverse.flatMap (editingHunk l b)
  | .forward => counted.flatMap (forwardHunk l b)
  | .counted => counted.flatMap (countedHunk l b)
  | .columns => columns l a b 0 0 counted
  | .merged name => merged l name a b 0 counted

end ChangeReport
end CallChart.Shell.Tool
