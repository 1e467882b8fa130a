import CallChart.Shell.Tool.Batches
import CallChart.Shell.Tool.QueryWords

namespace CallChart.Shell.Tool

open CallChart.Shell.Action

namespace Finding

/-- Something that was found: where the search has begun, how far below that it is, its path as it
is shown, its own place and what lies there, and the same behind a link if that is followed. -/
structure Found where
  start : String
  level : Nat
  path : String
  place : Path
  own : Node
  reached : Path
  node : Node

structure Progress where
  status : Nat
  gathered : List (Nat × Path × Bytes)
  level : Nat
  pruned : Bool
  quits : Bool

structure Search where
  name : String
  query : Query
  course : Course
  perform : Perform

abbrev Step := StateT Progress Action

def failed : Step Unit := modify fun s => { s with status := 1 }

def blame (name path reason : String) : Step Unit := do
  say name (quotedText path ++ ": " ++ reason)
  failed

def baseName (path : String) : String :=
  let bare := withoutSlashes path
  let step := (bare.toList.reverse.takeWhile (· ≠ '/')).reverse
  if step.isEmpty then "/"
  else String.ofList (if bare = path then step else step ++ ['/'])

def leadingPath (path : String) : String :=
  let before (cs : List Char) : Option (List Char) :=
    match cs.reverse.dropWhile (· ≠ '/') with
    | [] => none
    | _ :: more => some more.reverse
  let bare := (path.toList.reverse.dropWhile (· = '/')).reverse
  match before bare, before path.toList with
  | some cs, _ => String.ofList cs
  | none, some cs => String.ofList cs
  | none, none => "."

def Found.below (f : Found) : String :=
  let cs := f.path.toList.drop f.start.length
  String.ofList (if cs.head? = some '/' then cs.drop 1 else cs)

def kindOf (n : Node) : Char :=
  let c := Mode.kindLetter n
  if c = '-' then 'f' else c

def fraction (ms : Int) : String :=
  "." ++ String.ofList (Timestamp.padded 3 (ms % 1000).toNat) ++ "0000000"

def timeText (ms : Int) (c : Char) : String :=
  let form (text : String) : String := Calendar.format ms text.toList
  match c with
  | '@' => toString (ms / 1000) ++ fraction ms
  | '+' => form "%Y-%m-%d+%H:%M:%S" ++ fraction ms
  | 'S' => form "%S" ++ fraction ms
  | 'T' => form "%H:%M:%S" ++ fraction ms
  | 'X' => form "%H:%M:%S" ++ fraction ms
  | c => form ("%" ++ c.toString)

def targetLetter (path : String) : Action Char := do
  match ← present true path with
  | .ok (_, n) => pure (kindOf n)
  | .error .tooManyLinks => pure 'L'
  | .error .notFound => pure 'N'
  | .error .notDirectory => pure 'N'
  | .error _ => pure '?'

def property (f : Found) (letter time : Char) : Action String := do
  let s ← get
  let n := f.node
  pure <| match letter with
  | 'b' => toString (blocks n)
  | 'd' => toString f.level
  | 'D' => "45"
  | 'f' => baseName f.path
  | 'F' => "overlay"
  | 'g' => groupName n.group
  | 'G' => toString n.group
  | 'h' => leadingPath f.path
  | 'H' => f.start
  | 'i' => toString (Listing.inode s f.reached)
  | 'k' => toString ((blocks n + 1) / 2)
  | 'l' => match n.body with
    | .link target => target
    | _ => ""
  | 'm' => String.ofList (Nat.toDigits 8 n.mode)
  | 'M' => Mode.describe n
  | 'n' => toString (s.world.disk.linkCount f.reached)
  | 'p' => f.path
  | 'P' => f.below
  | 's' => toString n.size
  | 'S' => if n.size = 0 then "1" else toString (blocks n * 512 / n.size)
  | 'u' => userName n.owner
  | 'U' => toString n.owner
  | 'y' => (kindOf n).toString
  | 'A' => timeText n.modified time
  | 'B' => timeText n.modified time
  | 'C' => timeText n.modified time
  | 'T' => timeText n.modified time
  | 'Z' => ""
  | _ => Calendar.format n.modified "%a %b %e %H:%M:%S".toList ++ fraction n.modified ++
      Calendar.format n.modified " %Y".toList

def fielded (flags : List Char) (width : Nat) (places : Option Nat) (letter : Char)
    (text : String) : String :=
  let pad (text : String) : String :=
    if flags.contains '-' then padRight width text else padLeft width text
  if letter = 'd' ∨ letter = 'm' then
    let text := if letter = 'm' ∧ flags.contains '#' ∧ text ≠ "0" then "0" ++ text else text
    let text := if letter = 'd' then
        (if flags.contains '+' then "+" else if flags.contains ' ' then " " else "") ++ text
      else text
    if flags.contains '0' ∧ !flags.contains '-' then
      String.ofList (List.replicate (width - text.length) '0') ++ text
    else pad text
  else
    pad (match places with
      | some n => String.ofList (text.toList.take n)
      | none => text)

def filled (f : Found) : List Segment → Action Bytes
  | [] => pure []
  | .stop :: _ => pure []
  | .text bs :: rest => do pure (bs ++ (← filled f rest))
  | .property flags width places letter time :: rest => do
    let text ← if letter = 'Y' then do pure (← targetLetter f.path).toString
      else property f letter time
    pure (bytesOf (fielded flags width places letter text) ++ (← filled f rest))

def escapedName (w : Bytes) : Bytes :=
  let letters : List (UInt8 × String) :=
    [(0x5C, "\\\\"), (0x0A, "\\n"), (0x08, "\\b"), (0x0D, "\\r"), (0x09, "\\t"), (0x0C, "\\f"),
      (0x20, "\\ "), (0x22, "\\\"")]
  w.flatMap fun b =>
    match letters.lookup b with
    | some text => bytesOf text
    | none =>
      if ByteClass.isGraph b then [b]
      else bytesOf ("\\" ++ String.ofList ([64, 8, 1].map fun d =>
        Nat.digitChar (b.toNat / d % 8)))

def recent : Int × Int := (6 * 30 * 86400000, 3600000)

def line (f : Found) : Action Bytes := do
  let s ← get
  let n := f.node
  let now := s.world.now
  let form := if now - recent.1 < n.modified ∧ n.modified < now + recent.2 then "%b %e %H:%M"
    else "%b %e  %Y"
  let target : Bytes := match n.body with
    | .link target => bytesOf " -> " ++ escapedName (bytesOf target)
    | _ => []
  let size := match n.body with
    | .device _ => "  1,   3"
    | _ => toString n.size
  pure (bytesOf (" ".intercalate [padLeft 9 (toString (Listing.inode s f.reached)),
    padLeft 6 (toString ((blocks n + 1) / 2)), Mode.describe n,
    padLeft 3 (toString (s.world.disk.linkCount f.reached)), padRight 8 (userName n.owner),
    padRight 8 (groupName n.group), padLeft 8 size, Calendar.format n.modified form.toList] ++
    " ") ++ escapedName (bytesOf f.path) ++ target ++ [0x0A])

def isMatch (fold : Bool) (r : Regex) (path : String) : Bool :=
  let text := (bytesOf path).toArray
  (r.matchAt? ⟨text, fold, true⟩ 0).any (·.stop = text.size)

def holds (c : Course) (name : String) (f : Found) : Test → Step Bool
  | .always answer => pure answer
  | .name p => pure (p.holds (bytesOf (lastName f.path)))
  | .path p => pure (p.holds (bytesOf f.path))
  | .target p =>
    match f.node.body with
    | .link target => pure (p.holds (bytesOf target))
    | _ => pure false
  | .expression fold r => pure (isMatch fold r f.path)
  | .kind false letters => pure (letters.contains (kindOf f.node))
  | .kind true letters => do
    if !f.own.isLink then pure (letters.contains (kindOf f.node))
    else if c.following = .all then pure (letters.contains 'l')
    else
      match ← (present true f.path : Action _) with
      | .ok (_, n) => pure (letters.contains (kindOf n))
      | .error .tooManyLinks => do
        blame name f.path FileFault.tooManyLinks.reason
        pure false
      | .error _ => pure (letters.contains 'l')
  | .size unit b => pure (b.holds ((f.node.size + unit - 1) / unit))
  | .time t => pure (t.holds f.node.modified)
  | .bits t file directory =>
    let wanted := if f.node.isDirectory then directory else file
    pure (match t with
      | .equal => f.node.mode = wanted
      | .all => Nat.land f.node.mode wanted = wanted
      | .any => Nat.land f.node.mode wanted ≠ 0)
  | .owner b => pure (b.holds f.node.owner)
  | .group b => pure (b.holds f.node.group)
  | .links b => do pure (b.holds ((← (getWorld : Action World)).disk.linkCount f.reached))
  | .node b => do pure (b.holds (Listing.inode (← (get : Action Session)) f.reached))
  | .empty => do
    match f.node.body with
    | .file bytes => pure bytes.isEmpty
    | .directory => do pure (← (namesAt f.reached : Action _)).isEmpty
    | _ => pure false
  | .executable => do
    match ← (present true f.path : Action _) with
    | .ok (_, n) => pure (n.isDirectory || n.isExecutable)
    | .error _ => pure false
where
  lastName (path : String) : String := lastStep (withoutSlashes path)

def put (sink : Sink) (bytes : Bytes) : Action Unit := do
  match sink with
  | .standard => output bytes
  | .stream id => let _ ← writeStream id bytes

def ran (s : Search) (directory : Option Path) (closed : Bool) (words : List Bytes) :
    Action Bool := do
  flush
  let here := (← get).directory
  modify fun t => { t with directory := directory.getD here }
  let before ← streamOf 0
  if closed then connect 0 none
  let success ← match ← located words with
    | .error fault =>
      sayUnstarted s.name words fault
      pure false
    | .ok path =>
      match ← waited s.perform path words with
      | .signal n =>
        say s.name (quote (words.headD []) ++ " terminated by signal " ++ toString n)
        pure false
      | .status n => pure (n = 0)
  connect 0 before
  modify fun t => { t with directory := here }
  pure success

def inDirectory (f : Found) : Path × Bytes :=
  let base := baseName f.path
  (f.place.dropLast, bytesOf (if Text.startsWith "/" base then base else "./" ++ base))

/-- Runs the commands that have gathered files, in the order in which they stand; those alone that
run where the files are, or all of them. -/
def finishGathered (s : Search) (alone : Bool) : Step Unit := do
  let numbered := s.course.gathering.reverse.zipIdx
  for ((inPlace, words), number) in numbered do
    if inPlace ∨ !alone then
      let files := (← get).gathered.filter (·.1 = number)
      match files with
      | [] => pure ()
      | (_, directory, _) :: _ =>
        modify fun t => { t with gathered := t.gathered.filter (·.1 ≠ number) }
        let files := files.reverse.map (·.2.2)
        if !(← (ran s (if inPlace then some directory else none) false (words ++ files) :
            Action Bool)) then failed

def delete (s : Search) (f : Found) : Step Bool := do
  if f.path = "." then pure true
  else
    let refuse (fault : FileFault) : Step Bool := do
      say s.name ("cannot delete " ++ quotedText f.path ++ ": " ++ fault.reason)
      failed
      pure false
    match ← (present false f.path : Action _) with
    | .error fault => refuse fault
    | .ok (p, n) =>
      if n.isDirectory ∧ (lastStep f.path = "." ∨ lastStep f.path = "") then refuse .invalid
      else if n.isDirectory ∧ !(← (namesAt p : Action _)).isEmpty then refuse .notEmpty
      else
        (removeName p : Action Unit)
        pure true

def act (s : Search) (f : Found) : Deed → Step Bool
  | .print sink ending => do
    (put sink (bytesOf f.path ++ [ending]) : Action Unit)
    pure true
  | .format sink segments => do
    (put sink (← (filled f segments : Action Bytes)) : Action Unit)
    pure true
  | .list sink => do
    (put sink (← (line f : Action Bytes)) : Action Unit)
    pure true
  | .call c => do
    let (directory, base) := inDirectory f
    let shown := if c.inPlace then base else bytesOf f.path
    let words := c.words.map fun w => Batch.substituted Inquiry.braces shown (w.length + 1) w
    let agreed ← if c.asks then do
        (flush : Action Unit)
        (answered ("< " ++ textOf (words.headD []) ++ " ... " ++ f.path ++ " > ? ") : Action Bool)
      else pure true
    if !agreed then pure false
    else (ran s (if c.inPlace then some directory else none) c.asks words : Action Bool)
  | .gather number => do
    let (directory, base) := inDirectory f
    let inPlace := ((s.course.gathering.reverse[number]?).map (·.1)).getD false
    modify fun t => { t with
      gathered := (number, directory, if inPlace then base else bytesOf f.path) :: t.gathered }
    pure true
  | .delete => delete s f
  | .prune => do
    modify fun t => { t with pruned := true }
    pure true
  | .quit => do
    modify fun t => { t with quits := true }
    pure true
where
  answered (question : String) : Action Bool := do
    writeText 2 question
    match ← streamOf 0 with
    | none => pure false
    | some id =>
      if ((← getWorld).unreadable? id).isSome then pure false
      else
        let (answer, _) ← directly (takeLine id)
        pure (answer.head? = some 0x79 ∨ answer.head? = some 0x59)

def answer (s : Search) (f : Found) : Query → Step Bool
  | .test t => holds s.course s.name f t
  | .deed d => act s f d
  | .not q => do pure !(← answer s f q)
  | .both a b => do
    let first ← answer s f a
    if !first ∨ (← get).quits then pure first else answer s f b
  | .either a b => do
    let first ← answer s f a
    if first ∨ (← get).quits then pure first else answer s f b
  | .sequence a b => do
    let first ← answer s f a
    if (← get).quits then pure first else answer s f b

def reach (s : Search) (level : Nat) : Step Unit := do
  if (← get).level ≠ level then finishGathered s true
  modify fun t => { t with level := level }

def look (s : Search) (start : String) (level : Nat) (path : String) : Step (Option Found) := do
  match ← (present false path : Action _) with
  | .error fault =>
    blame s.name path fault.reason
    pure none
  | .ok (place, own) =>
    let follows := s.course.following = .all ∨ (s.course.following = .operands ∧ level = 0)
    if !own.isLink ∨ !follows then pure (some ⟨start, level, path, place, own, place, own⟩)
    else
      match ← (present true path : Action _) with
      | .ok (reached, n) => pure (some ⟨start, level, path, place, own, reached, n⟩)
      | .error .notFound => pure (some ⟨start, level, path, place, own, place, own⟩)
      | .error fault =>
        blame s.name path fault.reason
        pure none

def joinedPath (directory name : String) : String :=
  if directory.toList.getLast? = some '/' then directory ++ name else directory ++ "/" ++ name

def visit (s : Search) : Nat → List (Path × String) → Found → Step Unit
  | 0, _, _ => pure ()
  | fuel + 1, above, f => do
    match above.find? (·.1 = f.reached) with
    | some (_, path) =>
      say s.name ("File system loop detected; " ++ quotedText f.path ++
        " is part of the same file system loop as " ++ quotedText path ++ ".")
      failed
    | none =>
      reach s f.level
      let asked := s.course.least ≤ f.level ∧ s.course.most.all (f.level ≤ ·)
      modify fun t => { t with pruned := false }
      if asked ∧ !s.course.insideFirst then let _ ← answer s f s.query
      let t ← get
      if t.quits then pure ()
      else
        let enters := f.node.isDirectory ∧ (!t.pruned ∨ s.course.insideFirst) ∧
          s.course.most.all (f.level < ·)
        if enters then
          if !(((← (getWorld : Action World)).disk.node? f.reached).any Node.isDirectory) then
            blame s.name f.path FileFault.notFound.reason
          else
            for name in ← (namesAt f.reached : Action _) do
              if !(← get).quits then
                match ← look s f.start (f.level + 1) (joinedPath f.path name) with
                | some child =>
                  let above := if f.node.isDirectory then (f.reached, f.path) :: above else above
                  visit s fuel above child
                | none => pure ()
        if !(← get).quits then
          reach s f.level
          if asked ∧ s.course.insideFirst then let _ ← answer s f s.query

def depthLimit : Nat := 4096

def run (s : Search) (starts : List Bytes) : Step Nat := do
  for w in starts do
    if !(← get).quits then
      let path := textOf w
      match ← look s path 0 path with
      | some f => visit s depthLimit [] f
      | none => pure ()
  finishGathered s false
  pure (← get).status

/-- The places where a search begins: those that are given, or the present one, or those that a
file lists with zeros between them. -/
def starts (name : String) (list : Option Bytes) (given : List Bytes) :
    Action (Except Unit (List Bytes)) := do
  match list, given with
  | none, [] => pure (.ok [[0x2E]])
  | none, given => pure (.ok given)
  | some _, w :: _ =>
    say name ("extra operand " ++ quote w)
    say name "file operands cannot be combined with -files0-from"
    pure (.error ())
  | some file, [] =>
    let opened ← if textOf file = "-" then do
        pure ((← streamOf 0).elim (.error FileFault.badDescriptor) Except.ok)
      else openInput (textOf file)
    match opened with
    | .error fault =>
      say name ("cannot open " ++ quote file ++ " for reading: " ++ fault.reason)
      pure (.error ())
    | .ok id =>
      let (bytes, _) ← readReady id
      pure (.ok (linesBy 0 bytes))

end Finding

def find (perform : Perform) : Tool := fun name words => do
  match Inquiry.leading .none words with
  | .error message =>
    say name message
    sayTry name
    pure 1
  | .ok (following, words) =>
    let paths := words.takeWhile (!Inquiry.isWord true ·)
    let course : Course := ⟨following, false, 0, none, [], none⟩
    let present := (← getWorld).now + 1
    let inquiry : Inquiry :=
      ⟨name, course, [], .editor, present - 86400000, [], false, false, none⟩
    let words := words.drop paths.length
    let (r, inquiry) ← (Inquiry.readWords (words.length + 1) "" words).run.run inquiry
    let tokens := inquiry.tokens.reverse
    let has (wanted : Deed → Bool) : Bool := tokens.any fun t =>
      match t with
      | .leaf (.deed d) => wanted d
      | _ => false
    let deletes := has fun d =>
      match d with
      | .delete => true
      | _ => false
    let prunes := has fun d =>
      match d with
      | .prune => true
      | _ => false
    let query : Except String Query := do
      r
      if deletes ∧ prunes ∧ !inquiry.ordered then
        throw ("The -delete action automatically turns on -depth, but -prune does nothing when " ++
          "-depth is in effect.  If you want to carry on anyway, just explicitly use the -depth " ++
          "option.")
      Query.ofTokens tokens
    match query with
    | .error message =>
      if message ≠ "" then say name message
      pure 1
    | .ok query =>
      match ← Finding.starts name inquiry.course.list paths with
      | .error _ => pure 1
      | .ok starts =>
        let search : Finding.Search := ⟨name, query, inquiry.course, perform⟩
        let (status, _) ← (Finding.run search starts).run ⟨0, [], 0, false, false⟩
        pure status

end CallChart.Shell.Tool
