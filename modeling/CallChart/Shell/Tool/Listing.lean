import CallChart.Shell.Pattern
import CallChart.Shell.Tool.Amount
import CallChart.Shell.Tool.Calendar
import CallChart.Shell.Tool.Transfer

namespace CallChart.Shell.Tool

open CallChart.Shell.Action

namespace Listing

inductive Layout where
  | one
  | long
  | down
  | across
  | commas
  deriving DecidableEq

inductive Sorting where
  | name
  | unsorted
  | time
  | size
  | extension
  | version
  | width
  deriving DecidableEq

inductive Quoting where
  | literal
  | shell
  | shellAlways
  | shellEscape
  | shellEscapeAlways
  | c
  | escape
  deriving DecidableEq

inductive Indicator where
  | none
  | slash
  | kind
  | classify
  deriving DecidableEq

structure Wanted where
  given : Given
  layout : Layout
  sorting : Sorting
  quoting : Quoting
  indicator : Indicator
  sizes : Size.Style
  blockStyle : Size.Style
  timeFormat : Option String
  width : Nat
  color : Bool

structure Item where
  name : Bytes
  path : Path
  node : Option Node
  beyond : Option Node

def Wanted.has (w : Wanted) (c : Char) : Bool := w.given.has c

def cByte (quote : Bool) (b : UInt8) : String :=
  if b = 0x22 ∧ quote then "\\\""
  else if b = 0x5C then "\\\\"
  else if b = 0x20 ∧ !quote then "\\ "
  else if isPrintable b then textOf [b] else escapedByte b

def shellName (always escapes : Bool) (w : Bytes) : Bytes :=
  let special := bytesOf " !\"$&()*;<=>[^`|?\\'\t\n"
  let needs := w.isEmpty || w.any (fun b => special.contains b || (escapes && !isPrintable b)) ||
    w.head? == some 0x23 || w.head? == some 0x7E
  if !(needs || always) then w
  else if escapes then bytesOf (quoted w)
  else if w.contains 0x27 ∧ !w.any (fun b => (bytesOf "\"$`\\").contains b) then
    0x22 :: w ++ [0x22]
  else
    0x27 :: w.flatMap (fun b => if b = 0x27 then bytesOf "'\\''" else [b]) ++ [0x27]

def Wanted.written (w : Wanted) (name : Bytes) : Bytes :=
  let text := match w.quoting with
    | .literal => name
    | .shell => shellName false false name
    | .shellAlways => shellName true false name
    | .shellEscape => shellName false true name
    | .shellEscapeAlways => shellName true true name
    | .c => 0x22 :: bytesOf (String.join (name.map (cByte true))) ++ [0x22]
    | .escape => bytesOf (String.join (name.map (cByte false)))
  if w.given.last? ['q', '\x03'] = some 'q' then
    text.map fun b => if isPrintable b then b else 0x3F
  else text

def Wanted.mark (w : Wanted) (n : Node) : Bytes :=
  match w.indicator, n.body with
  | .none, _ => []
  | _, .directory => [0x2F]
  | .slash, _ => []
  | _, .link _ => [0x40]
  | _, .pipe => [0x7C]
  | .classify, .file _ => if n.isExecutable then [0x2A] else []
  | _, _ => []

def colorOf (n : Node) (dangling : Bool) : String :=
  match n.body with
  | .directory =>
    let sticky := Nat.land n.mode 0o1000 ≠ 0
    let open' := Nat.land n.mode 0o002 ≠ 0
    if sticky ∧ open' then "30;42" else if open' then "34;42" else if sticky then "37;44"
    else "01;34"
  | .link _ => if dangling then "01;36" else "01;36"
  | .pipe => "33"
  | .device _ => "01;33"
  | .file _ =>
    if Nat.land n.mode 0o4000 ≠ 0 then "37;41"
    else if Nat.land n.mode 0o2000 ≠ 0 then "30;43"
    else if n.isExecutable then "01;32" else ""

def Wanted.colored (w : Wanted) (n : Option Node) (dangling : Bool) (text : Bytes) : Bytes :=
  match w.color, n with
  | true, some n =>
    let color := colorOf n dangling
    if color = "" then text
    else bytesOf ("\x1b[" ++ color ++ "m") ++ text ++ bytesOf "\x1b[0m"
  | _, _ => text

def half : Int := 31556952 / 2

def Wanted.time (w : Wanted) (now : Int) (n : Node) : String :=
  match w.timeFormat with
  | some format => Calendar.format n.modified format.toList
  | none =>
    let age := (now - n.modified) / 1000
    Calendar.format n.modified (if age < half ∧ 0 ≤ age then "%b %e %H:%M" else "%b %e  %Y").toList

def widest (texts : List String) : Nat := (texts.map String.length).foldl max 0

def inode (s : Session) (p : Path) : Nat := 131072 + (s.world.disk.index? p).getD 0

def Wanted.leads (w : Wanted) (s : Session) (items : List Item) : List Bytes :=
  let cell (i : Item) : List String :=
    (if w.has 'i' then [match i.node with
      | some _ => toString (inode s i.path)
      | none => "?"] else []) ++
    (if w.has 's' then [match i.node with
      | some n => w.blockStyle.show (blocks n * 512)
      | none => "?"] else [])
  let rows := items.map cell
  let widths := (List.range 2).map fun j => widest (rows.filterMap (·[j]?))
  rows.map fun row => bytesOf (String.join ((row.zip widths).map fun (text, width) =>
    (if w.layout = .commas then text else padLeft width text) ++ " "))

def Wanted.details (w : Wanted) (s : Session) (items : List Item) : List Bytes :=
  let now := s.world.now
  let person (named : Nat → String) (n : Nat) : String := if w.has 'n' then toString n else named n
  let cell (i : Item) : List (Bool × String) :=
    match i.node with
    | some n =>
      [(true, toString (s.world.disk.linkCount i.path))] ++
        (if w.has 'g' then [] else [(false, person userName n.owner)]) ++
        (if w.has 'o' ∨ w.has 'G' then [] else [(false, person groupName n.group)]) ++
        (if w.has '\x05' then [(false, person userName n.owner)] else []) ++
        [(true, match n.body with
          | .device _ => "1, 3"
          | _ => w.sizes.show n.size)]
    | none =>
      [(true, "?")] ++ (if w.has 'g' then [] else [(false, "?")]) ++
        (if w.has 'o' ∨ w.has 'G' then [] else [(false, "?")]) ++ [(true, "?")]
  let rows := items.map cell
  let widths := (List.range 6).map fun j => widest (rows.filterMap fun r => (r[j]?).map (·.2))
  /- All that is without a node here is a link to nothing. -/
  let stamps := items.map fun i => ((i.node.map fun n => w.time now n).getD "")
  let epoch := Calendar.format 0 (w.timeFormat.getD "%b %e  %Y").toList
  let stampWidth := max (widest stamps) epoch.length
  ((items.zip rows).zip stamps).map fun ((i, row), stamp) =>
    let mode := match i.node with
      | some n => Mode.describe n
      | none => "l" ++ String.ofList (List.replicate 9 '?')
    let stamp := if i.node.isNone then padLeft stampWidth "?" else stamp
    bytesOf (mode ++ " " ++ String.join ((row.zip widths).map fun ((right, text), width) =>
      (if right then padLeft width text else padRight width text) ++ " ") ++ stamp ++ " ")

structure Cell where
  text : Bytes
  width : Nat

def indent (tab : Nat) : Nat → Nat → Nat → Bytes
  | 0, _, _ => []
  | fuel + 1, start, stop =>
    if stop ≤ start then []
    else if 0 < tab ∧ (start + 1) / tab < stop / tab then
      0x09 :: indent tab fuel (start + tab - start % tab) stop
    else 0x20 :: indent tab fuel (start + 1) stop

def columnWidths? (lineWidth count : Nat) (down : Bool) (widths : List Nat) : Option (List Nat) :=
  let rows := (widths.length + count - 1) / count
  let place (i : Nat) : Nat := if down then i / rows else i % count
  let columns := widths.zipIdx.foldl (fun (columns : Array Nat) (width, i) =>
    let j := place i
    columns.modify j (max (width + if j + 1 = count then 0 else 2)))
    (Array.replicate count 3)
  if columns.foldl (· + ·) 0 < lineWidth then some columns.toList else none

def columnsOf (lineWidth : Nat) (down : Bool) (widths : List Nat) : List Nat :=
  let most := min ((lineWidth + 2) / 3) widths.length
  ((List.range most).reverse.findSome? fun i =>
    if i = 0 then none else columnWidths? lineWidth (i + 1) down widths).getD [3]

def inColumns (lineWidth tab : Nat) (down : Bool) (cells : List Cell) : Bytes :=
  let array := cells.toArray
  let columns := columnsOf lineWidth down (cells.map (·.width))
  let count := columns.length
  let rows := (cells.length + count - 1) / count
  let row (r : Nat) : Bytes :=
    let indices := (List.range count).map (fun c => if down then c * rows + r else r * count + c)
    let present := indices.filter (· < cells.length)
    ((present.zip columns).foldl (fun (s : Bytes × Nat × Nat) (i, width) =>
      match array[i]? with
      | some cell =>
        let (out, reached, wanted) := s
        (out ++ indent tab (wanted + 1) reached wanted ++ cell.text, wanted + cell.width,
          wanted + width)
      | none => s) ([], 0, 0)).1 ++ [0x0A]
  (List.range rows).flatMap row

def withSeparators (lineWidth : Nat) (separator : UInt8) (cells : List Cell) : Bytes :=
  let step (s : Bytes × Nat × Bool) (cell : Cell) : Bytes × Nat × Bool :=
    let (out, place, first) := s
    if first then (cell.text.reverse ++ out, cell.width, false)
    else if lineWidth = 0 ∨ place + cell.width + 2 < lineWidth then
      (cell.text.reverse ++ 0x20 :: separator :: out, place + 2 + cell.width, false)
    else (cell.text.reverse ++ 0x0A :: separator :: out, cell.width, false)
  ((cells.foldl step ([], 0, true)).1).reverse ++ if cells.isEmpty then [] else [0x0A]

def Wanted.show (w : Wanted) (s : Session) (items : List Item) : Bytes :=
  let leads := w.leads s items
  let ending : UInt8 := if w.has '\x06' then 0 else 0x0A
  let dangling (i : Item) : Bool := i.beyond.isNone
  let named (i : Item) : Bytes := w.colored i.node (dangling i) (w.written i.name)
  let marked (i : Item) : Bytes := match i.node with
    | some n => w.mark n
    | none => []
  if w.layout = .long then
    ((items.zip leads).zip (w.details s items)).flatMap fun ((i, lead), details) =>
      let target : Bytes := match i.node with
        | some n =>
          match n.body with
          | .link target => bytesOf " -> " ++
              w.colored i.beyond false (w.written (bytesOf target)) ++
              (match i.beyond with
                | some m => w.mark m
                | none => [])
          | _ => w.mark n
        | none => []
      lead ++ details ++ named i ++ target ++ [ending]
  else
    let cells := (items.zip leads).map fun (i, lead) =>
      (⟨lead ++ named i ++ marked i,
        lead.length + (w.written i.name).length + (marked i).length⟩ : Cell)
    match w.layout with
    | .down =>
      if w.width = 0 then withSeparators 0 0x20 cells
      else if cells.isEmpty then [] else inColumns w.width (tabSize w) true cells
    | .across =>
      if w.width = 0 then withSeparators 0 0x20 cells
      else if cells.isEmpty then [] else inColumns w.width (tabSize w) false cells
    | .commas => withSeparators w.width 0x2C cells
    | _ => cells.flatMap fun c => c.text ++ [ending]
where
  tabSize (w : Wanted) : Nat := ((w.given.value? 'T').bind digits?).getD 8

def extensionOf (name : Bytes) : Bytes :=
  if name.contains 0x2E then 0x2E :: (name.reverse.takeWhile (· ≠ 0x2E)).reverse else []

def Wanted.compare (w : Wanted) (a b : Item) : Ordering :=
  let byName := Order.compareBytes a.name b.name
  let size (i : Item) : Nat := (i.node.map Node.size).getD 0
  let time (i : Item) : Int := (i.node.map Node.modified).getD 0
  match w.sorting with
  | .name => byName
  | .unsorted => .eq
  | .time => (Ord.compare (time b) (time a)).then byName
  | .size => (Ord.compare (size b) (size a)).then byName
  | .extension => (Order.compareBytes (extensionOf a.name) (extensionOf b.name)).then byName
  | .version => (Order.compareVersions a.name b.name).then byName
  | .width => (Ord.compare (w.written a.name).length (w.written b.name).length).then byName

def Wanted.sorted (w : Wanted) (items : List Item) : List Item :=
  let isDirectory (i : Item) : Bool :=
    (i.node.map Node.isDirectory).getD false || (i.beyond.map Node.isDirectory).getD false
  if w.sorting = .unsorted then items
  else
    let before (a b : Item) : Bool :=
      let c := w.compare a b
      if w.has 'r' then c != .lt else c != .gt
    let sorted := items.mergeSort before
    if w.has '\x04' then
      sorted.filter isDirectory ++ sorted.filter (!isDirectory ·)
    else sorted

def Wanted.shows (w : Wanted) (name : String) : Bool :=
  let all := w.given.last? ['a', 'A', 'f']
  let hidden := Text.startsWith "." name
  let fits (c : Char) : Bool := (w.given.values c).any fun pattern =>
    Pattern.matchesAll (Pattern.ofBytes pattern) (bytesOf name)
  (!hidden || all.isSome) &&
    !(w.has 'B' && name.toList.getLast? == some '~') && !fits 'I' &&
    !(all.isNone && fits '\x02')

def itemAt (name : String) (label : Bytes) (path : String) (follow : Bool) :
    Action (Option Item) := do
  let complain (fault : FileFault) : Action Unit :=
    say name ("cannot access " ++ quotedText path ++ ": " ++ fault.reason)
  match ← linkAt path with
  | .error fault =>
    complain fault
    pure none
  | .ok (_, none) =>
    complain .notFound
    pure none
  | .ok (p, some n) =>
    let beyond ← node? path
    if n.isLink ∧ follow then
      match ← entryAt path with
      | .ok (q, some m) => pure (some ⟨label, q, some m, some m⟩)
      | .ok (_, none) =>
        complain .notFound
        pure none
      | .error fault =>
        complain fault
        pure none
    else pure (some ⟨label, p, some n, if n.isLink then beyond else some n⟩)

def Wanted.needsNode (w : Wanted) : Bool :=
  w.layout = .long || w.has 's' || w.has 'i' || w.has 'R' || w.has '\x04' || w.color ||
    w.indicator ≠ .none || w.sorting = .time || w.sorting = .size

def directory (name : String) (w : Wanted) : Nat → Bool → Bool → String → Action Bool
  | 0, _, _, _ => pure true
  | fuel + 1, headed, first, path => do
    match ← present true path with
    | .error fault =>
      say name ("cannot open directory " ++ quotedText path ++ ": " ++ fault.reason)
      pure false
    | .ok (p, _) =>
      let all := w.given.last? ['a', 'A', 'f']
      let names := (if all = some 'a' ∨ all = some 'f' then [".", ".."] else []) ++ (← namesAt p)
      let mut items : List Item := []
      let mut well := true
      for leaf in names.filter w.shows do
        let route := inside path leaf
        let needless := !w.needsNode && (← node? route).isNone
        match ← itemAt name (bytesOf leaf) route (w.has 'L' ∧ !needless) with
        | some item => items := items ++ [item]
        | none =>
          items := items ++ [⟨bytesOf leaf, p ++ [leaf], none, none⟩]
          well := false
      let shown := w.sorted items
      let s ← get
      let total := ((shown.filterMap (·.node)).map blocks).foldl (· + ·) 0
      let heading := if headed then (if first then [] else [0x0A]) ++
          w.written (bytesOf path) ++ bytesOf ":\n" else []
      let counted := if w.layout = .long ∨ w.has 's' then
          bytesOf ("total " ++ w.blockStyle.show (total * 512) ++ "\n") else []
      output (heading ++ counted ++ w.show s shown)
      if w.has 'R' then
        for item in shown do
          let isDirectory := (item.node.map Node.isDirectory).getD false
          if isDirectory ∧ item.name ≠ [0x2E] ∧ item.name ≠ [0x2E, 0x2E] then
            if !(← directory name w fuel true false (inside path (textOf item.name))) then
              well := false
      pure well

def run (name : String) (w : Wanted) : Action Nat := do
  let operands := if w.given.operands.isEmpty then [bytesOf "."] else w.given.operands
  let plain := w.has 'd'
  let long := w.layout = .long ∨ w.indicator = .classify
  let mut items : List Item := []
  let mut status := 0
  for operand in operands do
    let path := textOf operand
    let toDirectory ← isDirectoryAt path
    let follow := w.has 'L' ∨ w.has 'H' ∨
      (toDirectory ∧ !plain ∧ !long ∨ w.has '\x07' ∧ toDirectory)
    match ← itemAt name operand path follow with
    | some item => items := items ++ [item]
    | none => status := 2
  let isDirectory (i : Item) : Bool := !plain && (i.node.map Node.isDirectory).getD false
  let sorted := w.sorted items
  let files := sorted.filter (!isDirectory ·)
  let directories := sorted.filter isDirectory
  let s ← get
  if w.color ∧ sorted.any fun i => i.node.isSome then
    let marks := files.any fun i => (i.node.map fun n => colorOf n false) ≠ some ""
    if marks ∨ !directories.isEmpty then output (bytesOf "\x1b[0m")
  if !files.isEmpty then output (w.show s files)
  let headed := w.has 'R' || decide (1 < operands.length)
  let mut first := files.isEmpty
  for item in directories do
    if !(← directory name w 10000 headed first (textOf item.name)) then
      if status = 0 then status := 1
    first := false
  pure status

def known : Known :=
  ⟨"1abcdfghiklmnopqrstuvxABCDFGHLNQRSUXZ", "ITw",
    [("all", 'a'), ("almost-all", 'A'), ("author", '\x05'), ("block-size=", '\x10'),
      ("classify?", 'F'), ("color?", '\x11'), ("context", 'Z'), ("dereference", 'L'),
      ("dereference-command-line", 'H'), ("dereference-command-line-symlink-to-dir", '\x07'),
      ("directory", 'd'), ("escape", 'b'), ("file-type", '\x12'), ("format=", '\x13'),
      ("full-time", '\x14'), ("group-directories-first", '\x04'), ("hide-control-chars", 'q'),
      ("hide=", '\x02'), ("human-readable", 'h'), ("hyperlink?", '\x15'), ("ignore-backups", 'B'),
      ("ignore=", 'I'), ("indicator-style=", '\x16'), ("inode", 'i'), ("kibibytes", 'k'),
      ("literal", 'N'), ("no-group", 'G'), ("numeric-uid-gid", 'n'), ("quote-name", 'Q'),
      ("quoting-style=", '\x17'), ("recursive", 'R'), ("reverse", 'r'),
      ("show-control-chars", '\x03'), ("si", '\x18'), ("size", 's'), ("sort=", '\x19'),
      ("tabsize=", 'T'), ("time-style=", '\x1a'), ("time=", '\x1b'), ("width=", 'w'),
      ("zero", '\x06')]⟩

def words : List (Char × String × List (String × Char)) :=
  [('\x19', "--sort", [("none", 'U'), ("time", 't'), ("size", 'S'), ("extension", 'X'),
      ("version", 'v'), ("width", '\x1c')]),
    ('\x13', "--format", [("verbose", 'l'), ("long", 'l'), ("commas", 'm'), ("horizontal", 'x'),
      ("across", 'x'), ("vertical", 'C'), ("single-column", '1')]),
    ('\x16', "--indicator-style", [("none", '\x1d'), ("slash", 'p'), ("file-type", '\x12'),
      ("classify", 'F')]),
    ('\x1b', "--time", [("atime", 'u'), ("access", 'u'), ("use", 'u'), ("ctime", 'c'),
      ("status", 'c'), ("birth", 'u'), ("creation", 'u'), ("mtime", '\x1e'),
      ("modification", '\x1e')]),
    ('\x17', "--quoting-style", [("literal", 'N'), ("shell", '\x0e'), ("shell-always", '\x0f'),
      ("shell-escape", '\x0c'), ("shell-escape-always", '\x0b'), ("c", 'Q'), ("c-maybe", 'Q'),
      ("escape", 'b'), ("locale", 'Q'), ("clocale", 'Q')]),
    ('\x11', "--color", [("always", '\x1f'), ("yes", '\x1f'), ("force", '\x1f'), ("never", ' '),
      ("no", ' '), ("none", ' '), ("auto", ' '), ("tty", ' '), ("if-tty", ' ')]),
    ('\x15', "--hyperlink", [("always", '!'), ("yes", '!'), ("force", '!'), ("never", '"'),
      ("no", '"'), ("none", '"'), ("auto", '"'), ("tty", '"'), ("if-tty", '"')])]

def meaning? (o : Char × Bytes) : Option (Char × Bytes) :=
  match words.find? (·.1 == o.1) with
  | none => some o
  | some (c, _, choices) =>
    if o.2.isEmpty ∧ (c = '\x11' ∨ c = '\x15') then some (if c = '\x11' then '\x1f' else '!', [])
    else
      match choice? (choices.map (·.1)) o.2 with
      | some word => (choices.lookup word).map (·, [])
      | none => none

def layoutOf (g : Given) (usual : Layout) : Layout :=
  g.options.foldl (fun layout o =>
    match o.1 with
    | 'l' => .long
    | 'g' => .long
    | 'n' => .long
    | 'o' => .long
    | '\x14' => .long
    | '1' => if layout = .long then .long else .one
    | 'C' => .down
    | 'x' => .across
    | 'm' => .commas
    | '\x06' => if layout = .long then .long else .one
    | 'f' => if layout = .long then usual else layout
    | _ => layout) usual

def sortingOf (g : Given) (long : Bool) : Sorting :=
  match g.last? ['S', 't', 'U', 'X', 'v', 'f', '\x1c'] with
  | some 'S' => .size
  | some 't' => .time
  | some 'U' => .unsorted
  | some 'f' => .unsorted
  | some 'X' => .extension
  | some 'v' => .version
  | some '\x1c' => .width
  | _ => if (g.has 'u' ∨ g.has 'c') ∧ !long then .time else .name

def timeFormatOf (text : String) : Option (Option String) :=
  match text with
  | "full-iso" => some (some "%Y-%m-%d %H:%M:%S.%N %z")
  | "long-iso" => some (some "%Y-%m-%d %H:%M")
  | "iso" => some (some "%m-%d %H:%M")
  | "locale" => some none
  | text =>
    if Text.startsWith "+" text then some (some (String.ofList (text.toList.drop 1)))
    else if Text.startsWith "posix-" text then some none else none

def terminals : List String :=
  ["Eterm", "ansi", "*color*", "con[0-9]*x[0-9]*", "cons25", "console", "cygwin", "*direct*",
    "dtterm", "gnome", "hurd", "jfbterm", "konsole", "kterm", "linux", "linux-c", "mlterm", "putty",
    "rxvt*", "screen*", "st", "terminator", "tmux*", "vt100", "xterm*"]

def colorful : Action Bool := do
  let given (name : String) : Action Bool := do
    pure (((← valueOf? name).map fun w => !w.isEmpty).getD false)
  let terminal := (← valueOf? "TERM").getD []
  pure ((← given "LS_COLORS") || (← given "COLORTERM") ||
    terminals.any fun t => Pattern.matchesAll (Pattern.ofBytes (bytesOf t)) terminal)

def occasions : List (List String) :=
  [["always", "yes", "force"], ["never", "no", "none"], ["auto", "tty", "if-tty"]]

def listing (usual : Layout) (quoting : Quoting) : Tool :=
  withOptions known 2 fun name g => do
    match g.options.find? fun o => (meaning? o).isNone with
    | some o =>
      match words.find? (·.1 == o.1) with
      | some (_, option, choices) =>
        let shown := choices.map (·.1)
        let groups : List (List String) := match option with
          | "--color" => occasions
          | "--hyperlink" => occasions
          | "--format" => [["verbose", "long"], ["commas"], ["horizontal", "across"], ["vertical"],
              ["single-column"]]
          | "--time" => [["atime", "access", "use"], ["ctime", "status"],
              ["mtime", "modification"], ["birth", "creation"]]
          | _ => shown.map ([·])
        say name ("invalid argument " ++ quote o.2 ++ " for '" ++ option ++ "'")
        writeText 2 ("Valid arguments are:\n" ++ String.join (groups.map fun row =>
          "  - " ++ ", ".intercalate (row.map fun w => "'" ++ w ++ "'") ++ "\n"))
        sayTry name
        pure 1
      | none => pure 2
    | none =>
      let g := { g with options := g.options.filterMap meaning? }
      let layout := layoutOf g usual
      let style := if layout ≠ .long then none
        else (g.value? '\x1a').map fun w => (w, timeFormatOf (textOf w))
      let columns ← valueOf? "COLUMNS"
      let width? : Option Nat := match g.value? 'w' with
        | some w => digits? w
        | none => some (((columns.bind digits?).filter (0 < ·)).getD 80)
      let blockSize := (g.value? '\x10').map fun w => (w, Size.Style.read? w)
      let tabSize := (g.value? 'T').map fun w => (w, digits? w)
      match style, width?, blockSize, tabSize with
      | _, _, _, some (w, none) =>
        say name ("invalid tab size: " ++ quote w)
        pure 2
      | some (w, none), _, _, _ =>
        say name ("invalid argument " ++ quote w ++ " for 'time style'")
        writeText 2 ("Valid arguments are:\n  - [posix-]full-iso\n  - [posix-]long-iso\n" ++
          "  - [posix-]iso\n  - [posix-]locale\n  - +FORMAT (e.g., +%H:%M) for a 'date'-style " ++
          "format\n")
        sayTry name
        pure 2
      | _, none, _, _ =>
        say name ("invalid line width: " ++ quote ((g.value? 'w').getD []))
        pure 2
      | _, _, some (w, none), _ =>
        say name ("invalid --block-size argument " ++ quote w)
        pure 2
      | style, some width, blockSize, _ =>
        let wantedSize : Option Size.Style := match g.last? ['h', '\x18', '\x10'] with
          | some 'h' => some (.readable 1024)
          | some '\x18' => some (.readable 1000)
          | some _ => blockSize.bind (·.2)
          | none => none
        let w : Wanted := {
          given := g
          layout := layout
          sorting := sortingOf g (layout = .long)
          quoting := match g.last? ['Q', 'b', 'N', '\x0e', '\x0f', '\x0c', '\x0b'] with
            | some 'Q' => .c
            | some 'b' => .escape
            | some 'N' => .literal
            | some '\x0e' => .shell
            | some '\x0f' => .shellAlways
            | some '\x0c' => .shellEscape
            | some '\x0b' => .shellEscapeAlways
            | _ => quoting
          indicator := match g.last? ['F', 'p', '\x12', '\x1d'] with
            | some 'F' => .classify
            | some 'p' => .slash
            | some '\x12' => .kind
            | _ => .none
          sizes := wantedSize.getD (.units 1 "")
          blockStyle := wantedSize.getD (.units 1024 "")
          timeFormat := if g.has '\x14' then some "%Y-%m-%d %H:%M:%S.%N %z"
            else (style.bind (·.2)).getD none
          width := width
          color := g.last? ['\x1f', ' '] = some '\x1f' && (← colorful) }
        run name w

end Listing

def ls : Tool := Listing.listing .one .literal

def dir : Tool := Listing.listing .down .escape

def vdir : Tool := Listing.listing .long .escape

end CallChart.Shell.Tool
