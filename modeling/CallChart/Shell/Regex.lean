import CallChart.Shell.Pattern

namespace CallChart.Shell

inductive Regex where
  | nothing
  | byte (b : UInt8)
  | any
  | oneOf (negated : Bool) (items : List SetItem)
  | start
  | stop
  | textStart
  | textStop
  | border (opens closes : Bool) (negated : Bool)
  | clear (behind : Bool)
  | look (behind negated : Bool) (r : Regex)
  | group (number : Nat) (r : Regex)
  | back (number : Nat)
  | seq (a b : Regex)
  | alt (a b : Regex)
  | many (r : Regex) (low : Nat) (high : Option Nat)
  | few (r : Regex) (low : Nat) (high : Option Nat)
  | cut
  deriving Repr, Inhabited

namespace Regex

structure Notation where
  groups : Bool
  marks : Bool
  braces : Option Bool
  strict : Bool
  looseBraces : Bool
  rich : Bool
  deriving DecidableEq, Repr

namespace Notation

def basic : Notation := ⟨false, false, some false, false, false, false⟩

def plain : Notation := ⟨false, false, some false, true, false, false⟩

def extended : Notation := ⟨true, true, some true, true, false, false⟩

def lenient : Notation := ⟨true, true, some true, false, true, false⟩

def editor : Notation := ⟨false, true, none, false, false, false⟩

def looking : Notation := ⟨true, true, some true, true, true, true⟩

end Notation

structure Source where
  rest : Bytes
  groups : Nat
  closed : List Nat
  warnings : List String

abbrev Reader := StateT Source (Except String)

def rest : Reader Bytes := do
  pure (← get).rest

def skip (n : Nat) : Reader Unit := modify fun s => { s with rest := s.rest.drop n }

def warn (message : String) : Reader Unit :=
  modify fun s => { s with warnings := s.warnings ++ [message] }

def unmatchedBracket : String := "Unmatched [, [^, [:, [., or [="

def setItems (escapes : Bool) : Nat → Bool → Bytes → Except String (List SetItem × Bytes)
  | 0, _, _ => .error unmatchedBracket
  | fuel + 1, first, bs =>
    match bs with
    | [] => .error (if first then "Invalid regular expression" else unmatchedBracket)
    | 0x5D :: more =>
      if first then plain fuel 0x5D more else .ok ([], more)
    | 0x5B :: 0x3A :: more =>
      let name := more.takeWhile (· ≠ 0x3A)
      match more.drop name.length with
      | 0x3A :: 0x5D :: more =>
        if (ByteClass.byName.lookup (textOf name)).isSome then
          (setItems escapes fuel false more).map fun (items, more) =>
            (.named (textOf name) :: items, more)
        else .error "Invalid character class name"
      | _ => .error unmatchedBracket
    | 0x5B :: 0x3D :: b :: 0x3D :: 0x5D :: more => plain fuel b more
    | 0x5B :: 0x2E :: b :: 0x2E :: 0x5D :: more => plain fuel b more
    | 0x5B :: 0x2E :: _ => .error "Invalid collation character"
    | 0x5B :: 0x3D :: _ => .error "Invalid collation character"
    | 0x5C :: c :: more =>
      if !escapes then plain fuel 0x5C (c :: more)
      else
        let named (name : String) : Except String (List SetItem × Bytes) :=
          (setItems escapes fuel false more).map fun (items, more) => (.named name :: items, more)
        match c with
        | 0x77 => (setItems escapes fuel false more).map fun (items, more) =>
            (.named "alnum" :: .range 0x5F 0x5F :: items, more)
        | 0x64 => named "digit"
        | 0x73 => named "space"
        | 0x6E => plain fuel 0x0A more
        | 0x74 => plain fuel 0x09 more
        | c => plain fuel c more
    | b :: more => plain fuel b more
where
  plain (fuel : Nat) (low : UInt8) (more : Bytes) : Except String (List SetItem × Bytes) :=
    match more with
    | 0x2D :: 0x5D :: _ => single fuel low more
    | 0x2D :: 0x5B :: 0x2E :: high :: 0x2E :: 0x5D :: more => range fuel low high more
    | 0x2D :: high :: more => range fuel low high more
    | more => single fuel low more
  range (fuel : Nat) (low high : UInt8) (more : Bytes) : Except String (List SetItem × Bytes) :=
    if high < low then .error "Invalid range end"
    else (setItems escapes fuel false more).map fun (items, more) =>
      (.range low high :: items, more)
  single (fuel : Nat) (b : UInt8) (more : Bytes) : Except String (List SetItem × Bytes) :=
    (setItems escapes fuel false more).map fun (items, more) => (.range b b :: items, more)

def lonelyMessage : String := "character class syntax is [[:space:]], not [:space:]"

def isLonely (bs : Bytes) : Bool :=
  let content := bs.takeWhile (· ≠ 0x5D)
  2 < content.length && content.head? == some 0x3A && content.getLast? == some 0x3A &&
    content.length < bs.length

def readSet (escapes : Bool) : Reader Regex := do
  let bs ← rest
  if isLonely bs then throw lonelyMessage
  let (negated, body) := match bs with
    | 0x5E :: body => (true, body)
    | body => (false, body)
  match setItems escapes (body.length + 1) true body with
  | .ok (items, more) =>
    modify fun s => { s with rest := more }
    pure (.oneOf negated items)
  | .error message => throw message

def escaped (rich : Bool) (b : UInt8) : Regex :=
  let word : List SetItem := [.named "alnum", .range 0x5F 0x5F]
  match b with
  | 0x77 => .oneOf false word
  | 0x57 => .oneOf true word
  | 0x73 => .oneOf false [.named "space"]
  | 0x53 => .oneOf true [.named "space"]
  | 0x62 => .border true true false
  | 0x42 => .border true true true
  | 0x3C => .border true false false
  | 0x3E => .border false true false
  | 0x60 => .textStart
  | 0x27 => .textStop
  | b =>
    if !rich then .byte b
    else
      match b with
      | 0x64 => .oneOf false [.named "digit"]
      | 0x44 => .oneOf true [.named "digit"]
      | 0x68 => .oneOf false [.named "blank"]
      | 0x6E => .byte 0x0A
      | 0x74 => .byte 0x09
      | 0x72 => .byte 0x0D
      | 0x4B => .cut
      | 0x41 => .textStart
      | 0x5A => .textStop
      | 0x7A => .textStop
      | b => .byte b

def escapable : Bytes := bytesOf "^$*.[]\\\x7b\x7d()|+?<>bBwWsS\x60'"

def strayWarning (b : UInt8) : String :=
  if ByteClass.isSpace b then "stray \\ before white space"
  else if ByteClass.isGraph b then "stray \\ before " ++ textOf [b]
  else "stray \\ before unprintable character"

def countLimit : Nat := 32767

/-- Reads counts between braces and what closes them; `bare` tells that this has no backslash. A
fault has a flag that tells whether it is one even where braces may stand for themselves. -/
def readCounts (bare : Bool) (bs : Bytes) :
    Except (Bool × String) (Nat × Option Nat × Bytes) :=
  let closing (bs : Bytes) : Option Bytes :=
    match bs with
    | 0x5C :: 0x7D :: more => if bare then none else some more
    | 0x7D :: more => if bare then some more else none
    | _ => none
  let rec item : Nat → Bytes → Bytes × Bytes
    | 0, bs => ([], bs)
    | _, [] => ([], [])
    | fuel + 1, b :: more =>
      if b = 0x2C ∨ (closing (b :: more)).isSome then ([], b :: more)
      else
        let (text, rest) := item fuel more
        (b :: text, rest)
  let number (text : Bytes) : Option Nat :=
    if text.all ByteClass.isDigit then
      some (text.foldl (fun n b => n * 10 + (b.toNat - 0x30)) 0)
    else none
  let invalid : String := "Invalid content of \\\x7b\\\x7d"
  let broken (rest : Bytes) : Except (Bool × String) (Nat × Option Nat × Bytes) :=
    .error (false, if rest.isEmpty then "Unmatched \\\x7b" else invalid)
  let checked (low : Nat) (high : Option Nat) (rest : Bytes) :
      Except (Bool × String) (Nat × Option Nat × Bytes) :=
    if countLimit < high.getD low then .error (true, "Regular expression too big")
    else .ok (low, high, rest)
  let (low, rest) := item (bs.length + 1) bs
  match number low, rest with
  | none, rest => broken rest
  | some _, [] => broken []
  | some n, 0x2C :: more =>
    let (high, rest) := item (more.length + 1) more
    match number high, closing rest with
    | none, _ => broken rest
    | some _, none => if rest.isEmpty then broken [] else .error (false, invalid)
    | some m, some rest =>
      if high.isEmpty then checked n none rest
      else if m < n then .error (true, invalid)
      else checked n (some m) rest
  | some n, rest =>
    match closing rest with
    | some rest => if low.isEmpty then .error (true, invalid) else checked n (some n) rest
    | none => .error (false, invalid)

def readRepeat (d : Notation) (bs : Bytes) : Except String (Option (Nat × Option Nat × Bytes)) :=
  let braces (bare : Bool) (more : Bytes) : Except String (Option (Nat × Option Nat × Bytes)) :=
    match readCounts bare more with
    | .ok r => .ok (some r)
    | .error (fatal, message) => if d.looseBraces ∧ !fatal then .ok none else .error message
  match bs with
  | 0x2A :: more => .ok (some (0, none, more))
  | 0x2B :: more => .ok (if d.marks then some (1, none, more) else none)
  | 0x3F :: more => .ok (if d.marks then some (0, some 1, more) else none)
  | 0x7B :: more => if d.braces = some true then braces true more else .ok none
  | 0x5C :: 0x2B :: more => .ok (if d.marks then none else some (1, none, more))
  | 0x5C :: 0x3F :: more => .ok (if d.marks then none else some (0, some 1, more))
  | 0x5C :: 0x7B :: more => if d.braces = some false then braces false more else .ok none
  | _ => .ok none

def readRepeats (d : Notation) : Nat → Regex → Reader Regex
  | 0, r => pure r
  | fuel + 1, r => do
    match readRepeat d (← rest) with
    | .error message => throw message
    | .ok none => pure r
    | .ok (some (low, high, more)) =>
      let marked := d.rich ∧ (more.head? = some 0x3F ∨ more.head? = some 0x2B)
      modify fun s => { s with rest := if marked then more.drop 1 else more }
      readRepeats d fuel
        (if marked ∧ more.head? = some 0x3F then .few r low high else .many r low high)

def atEnd (d : Notation) (depth : Nat) (bs : Bytes) : Bool :=
  match bs with
  | [] => true
  | 0x7C :: _ => d.groups
  | 0x29 :: _ => d.groups && (depth != 0 || d.rich || d.strict)
  | 0x5C :: 0x7C :: _ => !d.groups
  | 0x5C :: 0x29 :: _ => !d.groups
  | _ => false

def tooBig {α : Type} : Reader α := throw "Regular expression too big"

mutual

def readAlternatives (d : Notation) : Nat → Nat → Reader Regex
  | 0, _ => tooBig
  | fuel + 1, depth => do
    let a ← readSequence d fuel depth true
    let bar := if d.groups then [0x7C] else [0x5C, 0x7C]
    if bar.isPrefixOf (← rest) then
      skip bar.length
      pure (.alt a (← readAlternatives d fuel depth))
    else pure a

def readSequence (d : Notation) : Nat → Nat → Bool → Reader Regex
  | 0, _, _ => tooBig
  | fuel + 1, depth, first => do
    let bs ← rest
    if atEnd d depth bs then
      if depth = 0 ∧ [0x5C, 0x29].isPrefixOf bs then throw "Unmatched ) or \\)"
      else pure .nothing
    else
      match ← readLonely d first with
      | true => readSequence d fuel depth first
      | false =>
        let (a, anchor) ← readAtom d fuel depth first
        let a ← if anchor ∧ !d.groups then pure a
          else readRepeats d ((← rest).length + 1) a
        let more ← readSequence d fuel depth anchor
        pure (.seq a more)

def readLonely (d : Notation) (first : Bool) : Reader Bool := do
  let bs ← rest
  if !first then pure false
  else if !d.groups then
    if d.strict ∧ [0x5C, 0x7B].isPrefixOf bs then throw "Invalid preceding regular expression"
    pure false
  else
    match readRepeat d bs with
    | .error message => if d.strict then throw message else pure false
    | .ok none => pure false
    | .ok (some (_, _, more)) =>
      if d.strict then throw "Invalid preceding regular expression"
      let mark := if bs.head? = some 0x7B then "\x7b...\x7d" else textOf (bs.take 1)
      warn (mark ++ " at start of expression")
      modify fun s => { s with rest := more }
      pure true

def readGroup (d : Notation) : Nat → Nat → (Regex → Reader Regex) → Reader Regex
  | 0, _, _ => tooBig
  | fuel + 1, depth, finish => do
    let inner ← readAlternatives d fuel (depth + 1)
    let closing := if d.groups then [0x29] else [0x5C, 0x29]
    if closing.isPrefixOf (← rest) then
      skip closing.length
      finish inner
    else throw "Unmatched ( or \\("

def readAtom (d : Notation) : Nat → Nat → Bool → Reader (Regex × Bool)
  | 0, _, _ => tooBig
  | fuel + 1, depth, first => do
    let plain (n : Nat) (r : Regex) : Reader (Regex × Bool) := do
      skip n
      pure (r, false)
    let group : Reader (Regex × Bool) := do
      let number := (← get).groups + 1
      modify fun s => { s with groups := number }
      let r ← readGroup d fuel depth fun inner => do
        modify fun s => { s with closed := number :: s.closed }
        pure (.group number inner)
      pure (r, false)
    let special (n : Nat) (f : Regex → Regex) : Reader (Regex × Bool) := do
      skip n
      pure (← readGroup d fuel depth fun inner => pure (f inner), false)
    match ← rest with
    | [] => pure (.nothing, false)
    | 0x2E :: _ => plain 1 .any
    | 0x5B :: _ =>
      skip 1
      pure (← readSet d.rich, false)
    | 0x5E :: _ =>
      if d.groups ∨ first then
        skip 1
        pure (.start, true)
      else plain 1 (.byte 0x5E)
    | 0x24 :: more =>
      if d.groups ∨ atEnd d depth more then plain 1 .stop else plain 1 (.byte 0x24)
    | 0x28 :: more =>
      if !d.groups then plain 1 (.byte 0x28)
      else if !d.rich then
        skip 1
        group
      else
        match more with
        | 0x3F :: 0x3A :: _ => special 3 id
        | 0x3F :: 0x3D :: _ => special 3 (.look true false)
        | 0x3F :: 0x21 :: _ => special 3 (.look true true)
        | 0x3F :: 0x3C :: 0x3D :: _ => special 4 (.look false false)
        | 0x3F :: 0x3C :: 0x21 :: _ => special 4 (.look false true)
        | _ =>
          skip 1
          group
    | 0x5C :: [] => throw "Trailing backslash"
    | 0x5C :: c :: _ =>
      if c = 0x28 ∧ !d.groups then
        skip 2
        group
      else if 0x31 ≤ c ∧ c ≤ 0x39 then
        let n := c.toNat - 0x30
        if (← get).closed.contains n then plain 2 (.back n) else throw "Invalid back reference"
      else
        if !d.rich ∧ !escapable.contains c then warn (strayWarning c)
        plain 2 (escaped d.rich c)
    | b :: _ => plain 1 (.byte b)

end

structure Expression where
  regex : Regex
  groups : Nat
  warnings : List String
  deriving Repr, Inhabited

def read (d : Notation) (bs : Bytes) : Except String Expression := do
  let (r, s) ← (readAlternatives d (4 * bs.length + 8) 0).run ⟨bs, 0, [], []⟩
  if s.rest.isEmpty then pure ⟨r, s.groups, s.warnings⟩ else throw "Unmatched ) or \\)"

structure View where
  text : Array UInt8
  fold : Bool
  lines : Bool

abbrev Captures := List (Nat × Nat × Nat)

abbrev Ends := List (Nat × Captures)

def distinct (size : Nat) (ends : Ends) : Ends :=
  match ends with
  | [] => []
  | [e] => [e]
  | ends =>
    (ends.foldl (fun (s : Array Bool × Ends) e =>
      if (s.1[e.1]?).getD true then s
      else (s.1.setIfInBounds e.1 true, e :: s.2)) (Array.replicate (size + 1) false, [])).2.reverse

def lower (b : UInt8) : UInt8 := if ByteClass.isUpper b then b + 0x20 else b

def upper (b : UInt8) : UInt8 := if ByteClass.isLower b then b - 0x20 else b

def single? (fold : Bool) : Regex → Option (UInt8 → Bool)
  | .byte b => some fun c => b == c || (fold && lower b == lower c)
  | .any => some fun _ => true
  | .oneOf negated items => some fun c =>
    (items.any fun i => i.holds c || (fold && (i.holds (lower c) || i.holds (upper c)))) != negated
  | _ => none

def runLength (text : Array UInt8) (holds : UInt8 → Bool) : Nat → Nat → Nat
  | 0, _ => 0
  | limit + 1, place =>
    match text[place]? with
    | some b => if holds b then runLength text holds limit (place + 1) + 1 else 0
    | none => 0

def iterate (size : Nat) (lazy : Bool) (step : Nat → Captures → Ends) (low : Nat)
    (high : Option Nat) : Nat → Nat → Nat → Captures → Ends
  | 0, _, place, captures => [(place, captures)]
  | fuel + 1, count, place, captures =>
    let here : Ends := if low ≤ count then [(place, captures)] else []
    let full : Bool := match high with
      | some n => n ≤ count
      | none => false
    if full then here
    else
      let further := (step place captures).flatMap fun (next, captures) =>
        if place < next ∨ count < low then
          iterate size lazy step low high fuel (count + 1) next captures
        else []
      distinct size (if lazy then here ++ further else further ++ here)

def isWordAt (text : Array UInt8) (place : Nat) : Bool :=
  (text[place]?.map ByteClass.isWord).getD false

def ends (v : View) : Regex → Nat → Captures → Ends
  | .nothing, place, captures => [(place, captures)]
  | .byte b, place, captures =>
    match v.text[place]? with
    | some c => if b = c ∨ (v.fold ∧ lower b = lower c) then [(place + 1, captures)] else []
    | none => []
  | .any, place, captures => if place < v.text.size then [(place + 1, captures)] else []
  | .oneOf negated items, place, captures =>
    match v.text[place]?, single? v.fold (.oneOf negated items) with
    | some c, some holds => if holds c then [(place + 1, captures)] else []
    | _, _ => []
  | .start, place, captures =>
    if place = 0 ∨ (v.lines ∧ v.text[place - 1]? = some 0x0A) then [(place, captures)] else []
  | .stop, place, captures =>
    if place = v.text.size ∨ (v.lines ∧ v.text[place]? = some 0x0A) then [(place, captures)]
    else []
  | .textStart, place, captures => if place = 0 then [(place, captures)] else []
  | .textStop, place, captures => if place = v.text.size then [(place, captures)] else []
  | .border opens closes negated, place, captures =>
    let before := place != 0 && isWordAt v.text (place - 1)
    let behind := isWordAt v.text place
    let holds := (opens && !before && behind) || (closes && before && !behind)
    if holds != negated then [(place, captures)] else []
  | .clear behind, place, captures =>
    let hit := if behind then isWordAt v.text place
      else place != 0 && isWordAt v.text (place - 1)
    if hit then [] else [(place, captures)]
  | .look behind negated r, place, captures =>
    let found : Ends := if behind then ends v r place captures
      else (List.range (place + 1)).flatMap fun start =>
        (ends v r start captures).filter (·.1 == place)
    if negated then (if found.isEmpty then [(place, captures)] else [])
    else
      match found with
      | [] => []
      | (_, captures) :: _ => [(place, captures)]
  | .group number r, place, captures =>
    (ends v r place captures).map fun (next, captures) =>
      (next, (number, place, next) :: captures)
  | .back number, place, captures =>
    match captures.lookup number with
    | some (low, high) =>
      let part := (v.text.extract low high).toList
      let there := (v.text.extract place (place + (high - low))).toList
      let same := if v.fold then part.map lower == there.map lower else part == there
      if same then [(place + (high - low), captures)] else []
    | none => []
  | .seq a b, place, captures =>
    distinct v.text.size ((ends v a place captures).flatMap fun (next, captures) =>
      ends v b next captures)
  | .alt a b, place, captures =>
    distinct v.text.size (ends v a place captures ++ ends v b place captures)
  | .many r low high, place, captures =>
    match single? v.fold r with
    | some holds =>
      let most := match high with
        | some n => min n (v.text.size - place)
        | none => v.text.size - place
      let count := runLength v.text holds most place
      if count < low then []
      else (List.range (count - low + 1)).map fun i => (place + count - i, captures)
    | none =>
      iterate v.text.size false (ends v r) low high (v.text.size - place + low + 1) 0 place captures
  | .few r low high, place, captures =>
    iterate v.text.size true (ends v r) low high (v.text.size - place + low + 1) 0 place captures
  | .cut, place, captures => [(place, (0, place, place) :: captures)]

def literal (bs : Bytes) : Regex :=
  bs.foldr (fun b r => .seq (.byte b) r) .nothing

structure Match where
  start : Nat
  stop : Nat
  captures : Captures

def bestAt? (r : Regex) (v : View) (first : Bool) (start : Nat) : Option Match :=
  match ends v r start [] with
  | [] => none
  | e :: others =>
    let best := if first then e
      else others.foldl (fun (best : Nat × Captures) e => if best.1 < e.1 then e else best) e
    let start := ((best.2.lookup 0).map (·.1)).getD start
    some ⟨start, best.1, best.2⟩

def matchAt? (r : Regex) (v : View) (start : Nat) : Option Match := r.bestAt? v false start

def findFrom? (r : Regex) (v : View) (first : Bool) : Nat → Nat → Option Match
  | 0, _ => none
  | fuel + 1, place =>
    match r.bestAt? v first place with
    | some m => some m
    | none => findFrom? r v first fuel (place + 1)

def find? (r : Regex) (v : View) (place : Nat) : Option Match :=
  r.findFrom? v false (v.text.size + 1 - place) place

def findFirst? (r : Regex) (v : View) (place : Nat) : Option Match :=
  r.findFrom? v true (v.text.size + 1 - place) place

end Regex
end CallChart.Shell
