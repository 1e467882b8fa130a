import CallChart.Number.Shortest

namespace CallChart

namespace Json

/-- A number is whole if it is written without point and exponent and fits 64 bits. -/
inductive Number where
  | whole (n : Int)
  | real (x : Binary64)
  deriving DecidableEq, Repr

def Number.toReal : Number → Binary64
  | .whole n => .ofInt n
  | .real x => x

end Json

inductive Json where
  | null
  | bool (b : Bool)
  | number (n : Option Json.Number)
  | text (s : Option String)
  | array (items : List Json)
  | object (members : List (Option String × Json))

namespace Json

def ofText (s : String) : Json := .text (some s)

def ofNat (n : Nat) : Json := .number (some (.whole n))

def ofReal (x : Binary64) : Json :=
  if x.isFinite then .number (some (.real x)) else .null

def ofTexts (items : List String) : Json := .array (items.map ofText)

def ofFields (members : List (String × Json)) : Json :=
  .object (members.map fun (key, value) => (some key, value))

def isObject : Json → Bool
  | .object _ => true
  | _ => false

mutual

def depth : Json → Nat
  | .array items => itemsDepth items + 1
  | .object members => membersDepth members + 1
  | _ => 0

def itemsDepth : List Json → Nat
  | [] => 0
  | item :: rest => max (depth item) (itemsDepth rest)

def membersDepth : List (Option String × Json) → Nat
  | [] => 0
  | (_, value) :: rest => max (depth value) (membersDepth rest)

end

mutual

def isSound : Json → Bool
  | .number n => n.isSome
  | .text s => s.isSome
  | .array items => areSound items
  | .object members => membersSound members
  | _ => true

def areSound : List Json → Bool
  | [] => true
  | item :: rest => isSound item && areSound rest

def membersSound : List (Option String × Json) → Bool
  | [] => true
  | (key, value) :: rest => key.isSome && isSound value && membersSound rest

end

def nestingLimit : Nat := 127

def isComplete (j : Json) : Bool :=
  j.isSound && j.depth ≤ nestingLimit

/-- Replaces the member with this key or puts a new one at its place in the order of keys. -/
def insertMember (key : Option String) (value : Json) :
    List (Option String × Json) → List (Option String × Json)
  | [] => [(key, value)]
  | (k, v) :: rest =>
    if k = key then (key, value) :: rest
    else if key.getD "" < k.getD "" then (key, value) :: (k, v) :: rest
    else (k, v) :: insertMember key value rest

mutual

/-- The document as a value: members sorted by key, and of equal keys the last one. -/
def sorted : Json → Json
  | .array items => .array (sortedItems items)
  | .object members => .object (sortedMembers members [])
  | j => j

def sortedItems : List Json → List Json
  | [] => []
  | item :: rest => sorted item :: sortedItems rest

def sortedMembers : List (Option String × Json) → List (Option String × Json) →
    List (Option String × Json)
  | [], done => done
  | (key, value) :: rest, done => sortedMembers rest (insertMember key (sorted value) done)

end

def member? (key : String) : List (Option String × Json) → Option Json
  | [] => none
  | (k, v) :: rest => if k = some key then some v else member? key rest

mutual

/-- The target with the members of the patch in place of its own. Where both have an object, the
two are merged in turn. -/
def mergedInto (patch : Json) : Json → Json
  | .object slots =>
    match patch with
    | .object members => .object (mergedSlots members slots)
    | _ => patch
  | _ => patch

def mergedSlots (members : List (Option String × Json)) :
    List (Option String × Json) → List (Option String × Json)
  | [] => []
  | (key, slot) :: rest =>
    match members.lookup key with
    | none => (key, slot) :: mergedSlots members rest
    | some value => (key, mergedInto value slot) :: mergedSlots members rest

end

/-- Numbers in documents: no exponent for magnitudes from 10⁻⁵ up to 10¹⁶, and a point in every
real number. -/
def numberLayout : Layout where
  tie := .even
  positional position := decide (-4 ≤ position ∧ position ≤ 16)
  point := true
  nan := "null"
  infinity := "null"

def hexDigit (n : Nat) : Char :=
  Nat.digitChar n

def escapedChar (c : Char) : List Char :=
  match c with
  | '"' => ['\\', '"']
  | '\\' => ['\\', '\\']
  | '\x08' => ['\\', 'b']
  | '\x0C' => ['\\', 'f']
  | '\n' => ['\\', 'n']
  | '\r' => ['\\', 'r']
  | '\t' => ['\\', 't']
  | c =>
    if c.toNat < 0x20 then
      ['\\', 'u', '0', '0', hexDigit (c.toNat / 16), hexDigit (c.toNat % 16)]
    else [c]

def textChars (s : String) : List Char :=
  '"' :: s.toList.flatMap escapedChar ++ ['"']

def Number.chars : Number → List Char
  | .whole n => (toString n).toList
  | .real x => numberLayout.chars x

def separated (separator : List Char) : List (List Char) → List Char
  | [] => []
  | [piece] => piece
  | piece :: rest => piece ++ separator ++ separated separator rest

mutual

def chars : Json → List Char
  | .null => "null".toList
  | .bool b => (toString b).toList
  | .number none => "null".toList
  | .number (some n) => n.chars
  | .text s => textChars (s.getD "")
  | .array items => '[' :: separated [','] (itemsChars items) ++ [']']
  | .object members => '\x7b' :: separated [','] (membersChars members) ++ ['\x7d']

def itemsChars : List Json → List (List Char)
  | [] => []
  | item :: rest => chars item :: itemsChars rest

def membersChars : List (Option String × Json) → List (List Char)
  | [] => []
  | (key, value) :: rest => (textChars (key.getD "") ++ ':' :: chars value) :: membersChars rest

end

def compact (j : Json) : String :=
  String.ofList j.chars

def spread (members : List (String × Json)) : String :=
  let line (key : String) (value : Json) :=
    "  ".toList ++ textChars key ++ ": ".toList ++ value.chars
  let lines := members.map fun (key, value) => line key value
  String.ofList ("\x7b\n".toList ++ separated [',', '\n'] lines ++ "\n\x7d".toList)

end Json
end CallChart
