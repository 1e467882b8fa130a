import CallChart.Failure
import CallChart.Number.Reading

namespace CallChart

inductive GroupMode where
  | package
  | type
  | packageType
  | none
  deriving DecidableEq, Repr

inductive RankDir where
  | leftRight
  | rightLeft
  | topBottom
  | bottomTop
  deriving DecidableEq, Repr

inductive Retention where
  | direct
  | transitive
  deriving DecidableEq, Repr

namespace GroupMode

def text : GroupMode → String
  | .package => "pkg"
  | .type => "type"
  | .packageType => "pkg,type"
  | .none => "none"

def ofFlags : Bool → Bool → GroupMode
  | true, true => .packageType
  | true, false => .package
  | false, true => .type
  | false, false => .none

def flags (byPackage byType : Bool) : List String → Except String (Bool × Bool)
  | [] => .ok (byPackage, byType)
  | entry :: rest =>
    if entry = "pkg" ∨ entry = "package" then flags true byType rest
    else if entry = "type" then flags byPackage true rest
    else if entry = "none" then flags byPackage byType rest
    else .error entry

def ofText (s : String) : Except Failure GroupMode :=
  match flags false false (Text.commaList s) with
  | .ok (byPackage, byType) => .ok (ofFlags byPackage byType)
  | .error entry =>
    .error (.invalidOption "group" s
      ("unknown grouping " ++ Text.quoted entry ++ ", expected pkg, type or none"))

end GroupMode

namespace RankDir

def text : RankDir → String
  | .leftRight => "LR"
  | .rightLeft => "RL"
  | .topBottom => "TB"
  | .bottomTop => "BT"

def ofText (s : String) : Except Failure RankDir :=
  match Text.upperAscii (Text.trim s) with
  | "LR" => .ok .leftRight
  | "RL" => .ok .rightLeft
  | "TB" => .ok .topBottom
  | "BT" => .ok .bottomTop
  | _ => .error (.invalidOption "rankdir" s "expected LR, RL, TB or BT")

end RankDir

namespace Retention

def text : Retention → String
  | .direct => "direct"
  | .transitive => "transitive"

def maxDepth : Retention → Option Nat
  | .direct => some 1
  | .transitive => none

def ofName? (s : String) : Option Retention :=
  if s = "direct" then some .direct
  else if s = "transitive" then some .transitive
  else none

def ofText (s : String) : Except Failure Retention :=
  match ofName? (Text.trim s) with
  | some retention => .ok retention
  | none => .error (.invalidOption "retention" s "expected direct or transitive")

end Retention

structure Style where
  minlen : Nat
  nodesep : Binary64
  nodeshape : String
  nodestyle : String
  rankdir : RankDir
  deriving DecidableEq, Repr

structure Options where
  focus : String
  group : GroupMode
  limited : List String
  ignored : List String
  included : List String
  nostd : Bool
  nointer : Bool
  tests : Bool
  retention : Retention
  style : Style
  deriving DecidableEq, Repr

namespace Style

def default : Style where
  minlen := 2
  nodesep := .ofDecimal false 35 (-2)
  nodeshape := "box"
  nodestyle := "filled,rounded"
  rankdir := .leftRight

end Style

namespace Options

def default : Options where
  focus := "main"
  group := .package
  limited := []
  ignored := []
  included := []
  nostd := true
  nointer := true
  tests := false
  retention := .direct
  style := .default

def trimmedEntries (entries : List String) : List String :=
  (entries.map Text.trim).filter (· ≠ "")

def normalizedPrefixes (entries : List String) : List String :=
  (trimmedEntries entries).foldr Text.insertSorted []

def normalized (o : Options) : Options :=
  { o with
    focus := Text.trim o.focus
    limited := normalizedPrefixes o.limited
    ignored := normalizedPrefixes o.ignored
    included := normalizedPrefixes o.included }

def check (o : Options) : Except Failure Unit :=
  if !o.style.nodesep.isFinite || o.style.nodesep.isBelowZero then
    .error (.invalidOption "nodesep" (Layout.plain.text o.style.nodesep)
      "must be a non-negative number")
  else if Text.isBlankText o.style.nodeshape then
    .error (.invalidOption "nodeshape" "" "must not be empty")
  else .ok ()

def readSwitch (key value : String) : Except Failure Bool :=
  match Text.lowerAscii (Text.trim value) with
  | "true" => .ok true
  | "1" => .ok true
  | "on" => .ok true
  | "yes" => .ok true
  | "false" => .ok false
  | "0" => .ok false
  | "off" => .ok false
  | "no" => .ok false
  | _ => .error (.invalidOption key value "expected true or false")

def readMinlen (value : String) : Except Failure Nat :=
  match count? (Nat.pow 2 32) (Text.trim value) with
  | .ok n => .ok n
  | .error _ => .error (.invalidOption "minlen" value "expected a non-negative integer")

def readNodesep (value : String) : Except Failure Binary64 :=
  match Binary64.ofText? (Text.trim value) with
  | some x => .ok x
  | none => .error (.invalidOption "nodesep" value "expected a number")

def override? (key value : String) : Option (Except Failure (Options → Options)) :=
  match key with
  | "focus" => some (.ok fun o => { o with focus := Text.trim value })
  | "group" => some ((GroupMode.ofText value).map fun mode o => { o with group := mode })
  | "limit" => some (.ok fun o => { o with limited := Text.commaList value })
  | "ignore" => some (.ok fun o => { o with ignored := Text.commaList value })
  | "include" => some (.ok fun o => { o with included := Text.commaList value })
  | "nostd" => some ((readSwitch key value).map fun b o => { o with nostd := b })
  | "nointer" => some ((readSwitch key value).map fun b o => { o with nointer := b })
  | "tests" => some ((readSwitch key value).map fun b o => { o with tests := b })
  | "retention" => some ((Retention.ofText value).map fun r o => { o with retention := r })
  | "minlen" =>
    some ((readMinlen value).map fun n o => { o with style := { o.style with minlen := n } })
  | "nodesep" =>
    some ((readNodesep value).map fun x o => { o with style := { o.style with nodesep := x } })
  | "nodeshape" =>
    some (.ok fun o => { o with style := { o.style with nodeshape := Text.trim value } })
  | "nodestyle" =>
    some (.ok fun o => { o with style := { o.style with nodestyle := Text.trim value } })
  | "rankdir" =>
    some ((RankDir.ofText value).map fun d o => { o with style := { o.style with rankdir := d } })
  | _ => none

/-- Makes the changes from left to right and counts them. The options are not checked yet. -/
def change (o : Options) (applied : Nat) : List (String × String) → Except Failure (Options × Nat)
  | [] => .ok (o, applied)
  | (key, value) :: rest =>
    match override? key value with
    | none => change o applied rest
    | some (.error e) => .error e
    | some (.ok f) => change (f o) (applied + 1) rest

/-- The changed options, if they are valid, and the number of pairs that named an option. -/
def applyOverrides (o : Options) (pairs : List (String × String)) :
    Except Failure (Options × Nat) := do
  let (next, applied) ← change o 0 pairs
  next.check
  pure (next, applied)

end Options
end CallChart
