import CallChart.Json.Value
import CallChart.Text.Split
import CallChart.Toml.Literal

namespace CallChart.Toml

inductive Origin where
  | heading
  | way
  | dotted
  deriving DecidableEq, Repr

inductive Node where
  | value (j : Json)
  | table (origin : Origin) (members : List (String × Node))
  | tables (items : List (List (String × Node)))

abbrev Members := List (String × Node)

mutual

def Node.toJson : Node → Json
  | .value j => j
  | .table _ members => .object (membersJson members)
  | .tables items => .array (tablesJson items).reverse

def membersJson : List (String × Node) → List (Option String × Json)
  | [] => []
  | (key, node) :: rest => (some key, node.toJson) :: membersJson rest

def tablesJson : List (List (String × Node)) → List Json
  | [] => []
  | members :: rest => .object (membersJson members) :: tablesJson rest

end

namespace Members

def put (key : String) (node : Node) : Members → Members
  | [] => [(key, node)]
  | (k, old) :: rest => if k = key then (k, node) :: rest else (k, old) :: put key node rest

/-- Changes the table at the end of a path, which is made where it is missing: `made` says how. A
key of several parts leads through no table that has a heading. -/
def alter (made : Origin) (change : Origin → Members → Option Members) (origin : Origin)
    (members : Members) : List String → Option Members
  | [] => change origin members
  | key :: path =>
    match members.lookup key with
    | none => (alter made change made [] path).map fun inner => put key (.table made inner) members
    | some (.table o inner) =>
      if made = .dotted ∧ o = .heading then none
      else (alter made change o inner path).map fun inner => put key (.table o inner) members
    | some (.tables (latest :: earlier)) =>
      if made = .dotted then none
      else
        (alter made change .heading latest path).map fun latest =>
          put key (.tables (latest :: earlier)) members
    | some _ => none

/-- Adds a value under a key that is new to its table. The table behind a key of several parts is
one that only such keys have made. -/
def insert (path : List String) (key : String) (j : Json) (origin : Origin) (members : Members) :
    Option Members :=
  members.alter .dotted (fun o inner =>
    if (path ≠ [] ∧ o ≠ .dotted) ∨ (inner.lookup key).isSome then none
    else some (put key (.value j) inner)) origin path

def openTable (path : List String) (key : String) (members : Members) : Option Members :=
  members.alter .way (fun _ inner =>
    match inner.lookup key with
    | none => some (put key (.table .heading []) inner)
    | some (.table .way own) => some (put key (.table .heading own) inner)
    | some _ => none) .heading path

def openNext (path : List String) (key : String) (members : Members) : Option Members :=
  members.alter .way (fun _ inner =>
    match inner.lookup key with
    | none => some (put key (.tables [[]]) inner)
    | some (.tables items) => some (put key (.tables ([] :: items)) inner)
    | some _ => none) .heading path

def insertUnder (heading path : List String) (key : String) (j : Json) (members : Members) :
    Option Members :=
  members.alter .way (fun o inner => insert path key j o inner) .heading heading

end Members

def isSpace (c : Char) : Bool := c = ' ' || c = '\t'

def skipSpace (cs : List Char) : List Char :=
  cs.dropWhile isSpace

def skipComment : List Char → List Char
  | '#' :: rest => rest.dropWhile isPrintable
  | cs => cs

/-- The rest behind the end of a line, before which only space and a comment may stand. -/
def endOfLine? (cs : List Char) : Option (List Char) :=
  match skipComment (skipSpace cs) with
  | [] => some []
  | rest => lineBreak? rest

def skipFiller : Nat → List Char → List Char
  | 0, cs => cs
  | fuel + 1, cs =>
    let rest := skipComment (skipSpace cs)
    match lineBreak? rest with
    | some more => skipFiller fuel more
    | none => rest

def isBareChar (c : Char) : Bool :=
  c.isAlphanum || c = '_' || c = '-'

def readPart : List Char → Read String
  | '"' :: rest => (readBasic rest).map fun (text, rest) => (String.ofList text, rest)
  | '\'' :: rest => (readLiteral rest).map fun (text, rest) => (String.ofList text, rest)
  | cs =>
    match cs.takeWhile isBareChar with
    | [] => none
    | word => some (String.ofList word, cs.dropWhile isBareChar)

/-- How deep arrays and tables on one line may stand in each other, and how many parts a key may
have. -/
def depthLimit : Nat := 79

/-- A key: its parts, last one apart, with space around the points between them. There are at most
as many as `room` tells. -/
def readKey : (room : Nat) → List Char → Read (List String × String)
  | 0, _ => none
  | room + 1, cs =>
    match readPart (skipSpace cs) with
    | none => none
    | some (part, rest) =>
      match skipSpace rest with
      | '.' :: more =>
        match readKey room more with
        | none => none
        | some ((path, key), rest) => some ((part :: path, key), rest)
      | rest => some (([], part), rest)

def readPlain (cs : List Char) : Read Json :=
  match readMoment cs with
  | some read => some read
  | none => (word? (cs.takeWhile isTokenChar)).map fun j => (j, cs.dropWhile isTokenChar)

mutual

/-- A value of any kind. So many arrays and tables on one line may be opened as `room` tells. -/
def readValue (room : Nat) : (fuel : Nat) → List Char → Read Json
  | 0, _ => none
  | fuel + 1, cs =>
    match cs with
    | '[' :: rest =>
      if room = 0 then none
      else (readItems (room - 1) fuel rest).map fun (items, rest) => (.array items, rest)
    | '\x7b' :: rest =>
      if room = 0 then none
      else
        match skipSpace rest with
        | '\x7d' :: rest => some (.object [], rest)
        | rest =>
          (readPairs (room - 1) fuel [] rest).map fun (members, rest) =>
            (.object (membersJson members), rest)
    | '"' :: _ => (readString cs).map fun (s, rest) => (.ofText s, rest)
    | '\'' :: _ => (readString cs).map fun (s, rest) => (.ofText s, rest)
    | cs => readPlain cs

/-- The items of an array up to its end. A comma may stand behind the last one. -/
def readItems (room : Nat) : (fuel : Nat) → List Char → Read (List Json)
  | 0, _ => none
  | fuel + 1, cs =>
    match skipFiller cs.length cs with
    | ']' :: rest => some ([], rest)
    | cs =>
      match readValue room fuel cs with
      | none => none
      | some (item, rest) =>
        match skipFiller rest.length rest with
        | ',' :: rest => (readItems room fuel rest).map fun (items, rest) => (item :: items, rest)
        | ']' :: rest => some ([item], rest)
        | _ => none

def readPairs (room : Nat) : (fuel : Nat) → Members → List Char → Read Members
  | 0, _, _ => none
  | fuel + 1, members, cs =>
    match readKey depthLimit cs with
    | some ((path, key), '=' :: rest) =>
      match readValue room fuel (skipSpace rest) with
      | none => none
      | some (value, rest) =>
        match members.insert path key value .heading with
        | none => none
        | some members =>
          match skipSpace rest with
          | ',' :: rest => readPairs room fuel members rest
          | '\x7d' :: rest => some (members, rest)
          | _ => none
    | _ => none

end

structure Draft where
  members : Members
  heading : List String

def readHeading (cs : List Char) : Read (List String × String) :=
  readKey depthLimit cs

def readLine (d : Draft) (cs : List Char) : Option (Draft × List Char) :=
  match skipSpace cs with
  | '[' :: '[' :: rest => do
    let ((path, key), rest) ← readHeading rest
    let members ← d.members.openNext path key
    match rest with
    | ']' :: ']' :: rest => (endOfLine? rest).map fun rest => (⟨members, path ++ [key]⟩, rest)
    | _ => none
  | '[' :: rest => do
    let ((path, key), rest) ← readHeading rest
    let members ← d.members.openTable path key
    match rest with
    | ']' :: rest => (endOfLine? rest).map fun rest => (⟨members, path ++ [key]⟩, rest)
    | _ => none
  | rest =>
    match endOfLine? rest with
    | some rest => some (d, rest)
    | none => do
      let ((path, key), rest) ← readKey depthLimit rest
      match rest with
      | '=' :: rest => do
        let (value, rest) ← readValue depthLimit (2 * rest.length + 2) (skipSpace rest)
        let members ← d.members.insertUnder d.heading path key value
        (endOfLine? rest).map fun rest => ({ d with members := members }, rest)
      | _ => none

def readLines (d : Draft) : Nat → List Char → Option Draft
  | _, [] => some d
  | 0, _ => none
  | fuel + 1, cs =>
    match readLine d cs with
    | none => none
    | some (d, rest) => readLines d fuel rest

def parse? (s : String) : Option Json :=
  let cs := match s.toList with
    | '\uFEFF' :: rest => rest
    | cs => cs
  (readLines ⟨[], []⟩ cs.length cs).map fun d => .object (membersJson d.members)

end CallChart.Toml
