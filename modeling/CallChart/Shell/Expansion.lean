import CallChart.Shell.Arithmetic
import CallChart.Shell.Pattern

namespace CallChart.Shell

open CallChart.Shell.Action

structure Mode where
  cut : Bool
  quoted : Bool
  standIn : Bool
  assignment : Option Bool
  deriving DecidableEq, Repr

namespace Mode

def text : Mode := ⟨false, false, false, none⟩

def fields : Mode := ⟨true, false, false, none⟩

def assigned : Mode := ⟨false, false, false, some false⟩

def quotation : Mode := ⟨false, true, false, none⟩

end Mode

def switchLetters (on : List Switch) : String :=
  String.ofList <| (Switch.all.reverse.filter fun s => on.contains s.1).filterMap (·.2.2)

def separators : Action Bytes := do
  pure ((← valueOf? "IFS").getD [0x20, 0x09, 0x0A])

def joinedArguments (mode : Mode) (apart : Bool) : Action Bytes := do
  let ifs ← valueOf? "IFS"
  let first : Bytes := match ifs with
    | none => [0x20]
    | some ifs => ifs.take 1
  let separator : Bytes :=
    if mode.cut ∧ mode.quoted then (if apart then [0] else first)
    else if mode.cut ∧ ifs.isSome then [0]
    else first
  pure (List.intercalate separator (← get).arguments)

def parameter? (mode : Mode) (name : String) : Action (Option Bytes) := do
  let s ← get
  match name with
  | "@" => pure (some (← joinedArguments mode true))
  | "*" => pure (some (← joinedArguments mode false))
  | "#" => number s.arguments.length
  | "?" => number s.status
  | "-" => pure (some (bytesOf (switchLetters s.switches)))
  | "$" => number s.root
  | "!" => pure (s.latest.map fun n => bytesOf (toString n))
  | name =>
    let cs := name.toList
    if cs.all Char.isDigit then
      let n := cs.foldl (fun n c => n * 10 + (c.toNat - '0'.toNat)) 0
      if n = 0 then pure (some (bytesOf s.name)) else pure s.arguments[n - 1]?
    else valueOf? name
where
  number (n : Nat) : Action (Option Bytes) := pure (some (bytesOf (toString n)))

def number? (cs : List Char) : Option Int :=
  let isBlank (c : Char) : Bool := c == ' ' || ('\t' ≤ c && c ≤ '\r')
  let body := cs.dropWhile isBlank
  let (negative, digits) := match body with
    | '-' :: rest => (true, rest)
    | '+' :: rest => (false, rest)
    | rest => (false, rest)
  let (n, rest) := Arithmetic.readNumber digits
  if digits.isEmpty ∨ !(digits.headD ' ').isDigit ∨ !rest.all isBlank then none
  else some (if negative then -n else n)

def evaluate (text : Bytes) : Action Int := do
  let s ← get
  let known (name : String) : Except String Int :=
    match ((s.bindings.lookup name).bind (·.value)) with
    | none => .ok 0
    | some value =>
      let cs := (textOf value).toList
      if cs.all fun c => c = ' ' ∨ c = '\t' ∨ c = '\n' then .ok 0
      else
        match number? cs with
        | some n => .ok n
        | none => .error ("Illegal number: " ++ textOf value)
  let wrong {α : Type} (message : String) : Action α :=
    fail ("arithmetic expression: " ++ message ++ ": \"" ++ textOf text ++ "\"")
  match Arithmetic.Expr.ofText (textOf text).toList with
  | .error message => wrong message
  | .ok e =>
    match e.eval ⟨[], known⟩ with
    | .error (.expression message) => wrong message
    | .error (.wording message) => fail message
    | .ok (n, scope) =>
      for (name, value) in scope.assigned.reverse do
        assign name (bytesOf (toString value))
      pure n

inductive Cell where
  | byte (quoted : Bool) (b : UInt8)
  | mark
  deriving DecidableEq, Repr

inductive Cutting where
  | never
  | separators
  | parameters
  deriving DecidableEq, Repr

structure Segment where
  cutting : Cutting
  cells : List Cell
  plain : Bool
  deriving Repr

def cellsOf (quoted : Bool) (bytes : Bytes) : List Cell := bytes.map (.byte quoted)

def byteOf (c : Char) : UInt8 := UInt8.ofNat c.toNat

def filledIn (quoted : Bool) (bytes : Bytes) : List Segment :=
  [⟨if quoted then .never else .separators, cellsOf quoted bytes, false⟩]

def bytesIn (segments : List Segment) : Bytes :=
  segments.flatMap fun s => s.cells.filterMap fun c =>
    match c with
    | .byte _ b => some b
    | .mark => none

def markedIn (segments : List Segment) : List Marked :=
  segments.flatMap fun s => s.cells.filterMap fun c =>
    match c with
    | .byte quoted b => some (quoted, b)
    | .mark => none

def plainBefore (mode : Mode) (inner : Bool) (c : Char) (rest : List Segment) : List Segment :=
  let cutting : Cutting := if mode.standIn ∧ !mode.quoted ∧ !inner then .separators else .never
  let cell := Cell.byte false (byteOf c)
  match rest with
  | s :: more =>
    if s.plain ∧ s.cutting = cutting then { s with cells := cell :: s.cells } :: more
    else ⟨cutting, [cell], true⟩ :: rest
  | [] => [⟨cutting, [cell], true⟩]

def tildeName (assignment : Bool) : List Piece → Option (List Char)
  | [] => some []
  | .char false c :: rest =>
    if c = '/' ∨ (c = ':' ∧ assignment) then some []
    else (tildeName assignment rest).map (c :: ·)
  | _ => none

def homeOf? (name : List Char) : Action (Option Bytes) := do
  if name.isEmpty then valueOf? "HOME"
  else
    let name := String.ofList name
    pure ((System.users.find? (·.name == name)).map fun u => bytesOf u.home)

/-- Where a text is being filled in: whether a quotation is open, whether a tilde stands for a home
here, and how many pieces are done already. -/
structure Spot where
  inner : Bool
  tilde : Bool
  skip : Nat

def cuttingOf (quoted : Bool) (name : String) : Action Cutting := do
  if !quoted then pure .separators
  else if name = "@" ∧ !(← get).arguments.isEmpty then pure .parameters
  else pure .never

def unsetFault {α : Type} (name message : String) : Action α :=
  fail (name ++ ": " ++ message)

mutual

def fillPiece (capture : List Statement → Action Bytes) (mode : Mode) :
    Piece → Action (List Segment)
  | .char escaped c => pure [⟨.never, [.byte escaped (byteOf c)], false⟩]
  | .quote => pure [⟨.never, [.mark], false⟩]
  | .output body => do pure (filledIn mode.quoted (← capture body))
  | .arithmetic pieces => do
    let n ← evaluate (bytesIn (← fillText capture .text ⟨false, false, 0⟩ pieces))
    pure (filledIn mode.quoted (bytesOf (toString n)))
  | .parameter name form pieces => do
    if form = .wrong then fail "Bad substitution"
    let value ← parameter? mode name
    let found (value : Bytes) : Action (List Segment) := do
      pure [⟨← cuttingOf mode.quoted name, cellsOf mode.quoted value, false⟩]
    let isMissing (empty : Bool) : Bool := match value with
      | none => true
      | some value => empty && value.isEmpty
    let needed : Action Unit := do
      if value.isNone ∧ (← isOn .nounset) then unsetFault name "parameter not set"
    match form with
    | .standIn empty =>
      if isMissing empty then fillText capture { mode with standIn := true } ⟨false, true, 0⟩ pieces
      else found (value.getD [])
    | .alternative empty =>
      if isMissing empty then found []
      else fillText capture { mode with standIn := true } ⟨false, true, 0⟩ pieces
    | .assign empty =>
      if isMissing empty then
        let bytes := bytesIn (← fillText capture .text ⟨false, true, 0⟩ pieces)
        if isName name.toList then assign name bytes else fail (name ++ ": bad variable name")
        found ((← parameter? mode name).getD [])
      else found (value.getD [])
    | .require empty =>
      if isMissing empty then
        let message := textOf (bytesIn (← fillText capture .text ⟨false, true, 0⟩ pieces))
        unsetFault name (if !pieces.isEmpty then message
          else if empty then "parameter not set or null" else "parameter not set")
      else found (value.getD [])
    | .length =>
      needed
      pure (filledIn mode.quoted (bytesOf (toString (value.getD []).length)))
    | .trimStart longest =>
      needed
      match value with
      | none => pure []
      | some value =>
        let pattern := markedIn (← fillText capture .text ⟨false, true, 0⟩ pieces)
        found (Pattern.withoutStart (Pattern.ofMarked pattern) longest value)
    | .trimEnd longest =>
      needed
      match value with
      | none => pure []
      | some value =>
        let pattern := markedIn (← fillText capture .text ⟨false, true, 0⟩ pieces)
        found (Pattern.withoutEnd (Pattern.ofMarked pattern) longest value)
    | _ =>
      needed
      found (value.getD [])

def fillText (capture : List Statement → Action Bytes) (mode : Mode) (spot : Spot) :
    List Piece → Action (List Segment)
  | [] => pure []
  | .quote :: .parameter "@" .plain pieces :: .quote :: rest => do
    if spot.inner then
      let mark : Segment := ⟨.never, [.mark], false⟩
      let value ← fillPiece capture mode (.parameter "@" .plain pieces)
      let more ← fillText capture mode ⟨true, false, 0⟩ rest
      pure (mark :: value ++ mark :: more)
    else
      let first ← fillPiece capture { mode with quoted := true } (.parameter "@" .plain pieces)
      let more ← fillText capture mode ⟨false, false, 0⟩ rest
      pure (first ++ more)
  | p :: rest => do
    let later : Spot := ⟨spot.inner, false, spot.skip - 1⟩
    if spot.skip ≠ 0 then fillText capture mode later rest
    else
      match p with
      | .char false c =>
        if c = '~' ∧ spot.tilde then
          let name := tildeName mode.assignment.isSome rest
          match ← (match name with
              | some name => homeOf? name
              | none => pure none) with
          | some home =>
            let more ← fillText capture mode { later with skip := (name.getD []).length } rest
            pure (⟨.never, cellsOf true home, false⟩ :: more)
          | none =>
            let more ← fillText capture mode later rest
            pure (plainBefore mode spot.inner c more)
        else
          let begins := c = '=' ∧ mode.assignment = some false
          let mode := if begins then { mode with assignment := some true } else mode
          let tilde := begins ∨ (c = ':' ∧ mode.assignment.isSome)
          let more ← fillText capture mode { later with tilde := tilde } rest
          pure (plainBefore mode spot.inner c more)
      | .quote =>
        let more ← fillText capture mode { later with inner := !spot.inner } rest
        pure (⟨.never, [.mark], false⟩ :: more)
      | p =>
        let first ← fillPiece capture { mode with quoted := mode.quoted || spot.inner } p
        let more ← fillText capture mode later rest
        pure (first ++ more)

end

structure Fields where
  done : List (List Cell)
  current : List Cell

namespace Fields

def isBlank (b : UInt8) : Bool := b == 0 || b == 0x20 || b == 0x09 || b == 0x0A

def afterSeparator (ifs : Bytes) (blank : Bool) : List Cell → List Cell
  | .byte q b :: rest =>
    if b ≠ 0 ∧ !ifs.contains b then .byte q b :: rest
    else if isBlank b then afterSeparator ifs blank rest
    else if blank then afterSeparator ifs false rest
    else .byte q b :: rest
  | cells => cells

def push (f : Fields) (c : Cell) : Fields := { f with current := c :: f.current }

def close (f : Fields) : Fields := ⟨f.current.reverse :: f.done, []⟩

def addCut (ifs : Bytes) : Nat → Fields → List Cell → Fields
  | fuel + 1, f, .byte q b :: rest =>
    if b ≠ 0 ∧ !ifs.contains b then addCut ifs fuel (f.push (.byte q b)) rest
    else if f.current.isEmpty ∧ isBlank b then addCut ifs fuel f rest
    else addCut ifs fuel f.close (afterSeparator ifs (isBlank b) rest)
  | fuel + 1, f, c :: rest => addCut ifs fuel (f.push c) rest
  | _, f, _ => f

def addParameter (f : Fields) (c : Cell) : Fields :=
  if c = .byte true 0 ∨ c = .byte false 0 then f.close else f.push c

def add (ifs : Bytes) (f : Fields) (s : Segment) : Fields :=
  match s.cutting with
  | .never => s.cells.foldl push f
  | .separators => addCut ifs (s.cells.length + 1) f s.cells
  | .parameters => s.cells.foldl addParameter f

end Fields

def fieldsOf (ifs : Bytes) (segments : List Segment) : List (List Marked) :=
  let f := segments.foldl (Fields.add ifs) ⟨[], []⟩
  let last := (segments.reverse.find? fun s => s.cutting ≠ .never).map (·.cutting)
  let f := if last == some Cutting.parameters || !f.current.isEmpty then f.close else f
  f.done.reverse.map fun cells => cells.filterMap fun c =>
    match c with
    | .byte quoted b => some (quoted, b)
    | .mark => none

def bytesLE (a b : Bytes) : Bool :=
  match a, b with
  | [], _ => true
  | _ :: _, [] => false
  | x :: xs, y :: ys => if x = y then bytesLE xs ys else x < y

def textLE (a b : String) : Bool := bytesLE (bytesOf a) (bytesOf b)

def splitSteps : List Marked → List (List Marked)
  | [] => [[]]
  | m :: rest =>
    let steps := splitSteps rest
    if m.2 = 0x2F then [] :: steps
    else
      match steps with
      | [] => [[m]]
      | step :: others => (m :: step) :: others

def matchingPaths (disk : Disk) (directory : Path) : List (List Marked) → String → List String
  | [], here => [here]
  | step :: rest, here =>
    if Pattern.isActive step then
      let pattern := Pattern.ofMarked step
      let hidden := pattern.head? == some (.byte 0x2E)
      let names := match disk.entry true directory (if here = "" then "." else here) with
        | .ok (p, some n) =>
          if n.isDirectory then (if hidden then [".", ".."] else []) ++ disk.children p else []
        | _ => []
      (names.filter fun name =>
        (hidden || !Text.startsWith "." name) && Pattern.matchesAll pattern (bytesOf name)).flatMap
        fun name =>
          if rest.isEmpty then [here ++ name]
          else matchingPaths disk directory rest (here ++ name ++ "/")
    else
      let name := textOf (Pattern.plain step)
      if rest.isEmpty then
        let there := match disk.entry (name = "") directory (here ++ name) with
          | .ok (_, some _) => true
          | _ => false
        if there then [here ++ name] else []
      else matchingPaths disk directory rest (here ++ name ++ "/")

def expandNames (field : List Marked) : Action (List Bytes) := do
  let s ← get
  let itself := field.map (·.2)
  if s.switches.contains .noglob ∨ !(splitSteps field).any Pattern.isActive then pure [itself]
  else
    match matchingPaths s.world.disk s.directory (splitSteps field) "" with
    | [] => pure [itself]
    | paths => pure ((paths.mergeSort textLE).map bytesOf)

def fillWord (capture : List Statement → Action Bytes) (mode : Mode) (tilde : Bool) (w : Word) :
    Action (List Segment) :=
  fillText capture mode ⟨false, tilde, 0⟩ w

def wordFields (capture : List Statement → Action Bytes) (w : Word) : Action (List Bytes) := do
  let segments ← fillWord capture .fields true w
  let names ← (fieldsOf (← separators) segments).mapM expandNames
  pure names.flatten

def fields (capture : List Statement → Action Bytes) : List Word → Action (List Bytes)
  | [] => pure []
  | w :: ws => do
    let names ← wordFields capture w
    let rest ← fields capture ws
    pure (names ++ rest)

def wordBytes (capture : List Statement → Action Bytes) (w : Word) : Action Bytes := do
  pure (bytesIn (← fillWord capture .text true w))

def assignedBytes (capture : List Statement → Action Bytes) (w : Word) : Action Bytes := do
  pure (bytesIn (← fillWord capture .assigned false w))

def wordPattern (capture : List Statement → Action Bytes) (w : Word) : Action (List Pattern) := do
  pure (Pattern.ofMarked (markedIn (← fillWord capture .text true w)))

end CallChart.Shell
