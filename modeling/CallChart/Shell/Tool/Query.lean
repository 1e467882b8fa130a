import CallChart.Shell.Regex
import CallChart.Shell.Tool.Basic

namespace CallChart.Shell.Tool

structure Bound where
  order : Ordering
  value : Nat
  deriving DecidableEq, Repr

def Bound.holds (b : Bound) (n : Nat) : Bool := compare n b.value == b.order

inductive BitTest where
  | equal
  | all
  | any
  deriving DecidableEq, Repr

inductive TimeTest where
  | after (moment : Int)
  | before (moment : Int)
  | within (moment span : Int)
  deriving DecidableEq, Repr

def TimeTest.holds (time : Int) : TimeTest → Bool
  | .after moment => moment < time
  | .before moment => time < moment
  | .within moment span => moment < time && time ≤ moment + span

structure NamePattern where
  fold : Bool
  pattern : List Pattern
  deriving DecidableEq, Repr

namespace NamePattern

def read (fold : Bool) (text : Bytes) : NamePattern :=
  ⟨fold, Pattern.ofBytes (if fold then text.map Regex.lower else text)⟩

def holds (p : NamePattern) (text : Bytes) : Bool :=
  Pattern.matchesAll p.pattern (if p.fold then text.map Regex.lower else text)

end NamePattern

inductive Test where
  | always (answer : Bool)
  | name (p : NamePattern)
  | path (p : NamePattern)
  | target (p : NamePattern)
  | expression (fold : Bool) (r : Regex)
  | kind (through : Bool) (letters : List Char)
  | size (unit : Nat) (b : Bound)
  | time (t : TimeTest)
  | bits (t : BitTest) (file directory : Nat)
  | owner (b : Bound)
  | group (b : Bound)
  | links (b : Bound)
  | node (b : Bound)
  | empty
  | executable
  deriving Repr

inductive Segment where
  | text (bs : Bytes)
  | stop
  | property (flags : List Char) (width : Nat) (places : Option Nat) (letter time : Char)
  deriving DecidableEq, Repr

namespace Segment

def propertyLetters : List Char := "abcdDfFgGhHiklmMnpPsStuUyYZ".toList

def directive (bs : Bytes) : Except String (Segment × List String × Bytes) :=
  let char (b : UInt8) : Char := Char.ofNat b.toNat
  let flags := bs.takeWhile fun b => "-+ #0".toList.contains (char b)
  let behind := bs.drop flags.length
  let width := behind.takeWhile ByteClass.isDigit
  let behind := behind.drop width.length
  let (places, behind) := match behind with
    | 0x2E :: more =>
      let ds := more.takeWhile ByteClass.isDigit
      (some ((digits? ds).getD 0), more.drop ds.length)
    | more => (none, more)
  let taken := bs.take (bs.length - behind.length)
  let plain (more : Bytes) : Segment := .text (0x25 :: taken ++ more)
  match behind with
  | [] =>
    if bs.isEmpty then .error "error: % at end of format string"
    else .error ("error: the format directive \x60%\x00' is reserved for future use")
  | b :: rest =>
    let c := char b
    let flags := flags.map char
    let width := (digits? width).getD 0
    if c = '%' then .ok (if taken.isEmpty then .text [b] else plain [], [], rest)
    else if "\x7b[(".toList.contains c then
      .error ("error: the format directive \x60%" ++ c.toString ++ "' is reserved for future use")
    else if propertyLetters.contains c then .ok (.property flags width places c ' ', [], rest)
    else if "ABCT".toList.contains c then
      match rest with
      | [] =>
        .ok (plain [b], ["warning: format directive \x60%" ++ c.toString ++
          "' should be followed by another character"], [])
      | t :: rest => .ok (.property flags width places c (char t), [], rest)
    else
      .ok (plain [b], ["warning: unrecognized format directive \x60%" ++ c.toString ++ "'"], rest)

def escapes : List (UInt8 × UInt8) :=
  [(0x61, 0x07), (0x62, 0x08), (0x66, 0x0C), (0x6E, 0x0A), (0x72, 0x0D), (0x74, 0x09),
    (0x76, 0x0B), (0x5C, 0x5C)]

def isOctal (b : UInt8) : Bool := 0x30 ≤ b && b ≤ 0x37

def read : Nat → Bytes → List Segment × List String × Option String
  | 0, _ => ([], [], none)
  | _, [] => ([], [], none)
  | fuel + 1, b :: rest =>
    let followed (s : Segment) (told : List String) (rest : Bytes) :
        List Segment × List String × Option String :=
      let (segments, warnings, fault) := read fuel rest
      (s :: segments, told ++ warnings, fault)
    if b = 0x5C then
      match rest with
      | [] => ([.text [b]], ["warning: escape \x60\\' followed by nothing at all"], none)
      | e :: more =>
        if isOctal e then
          let ds := (rest.takeWhile isOctal).take 3
          let value := ds.foldl (fun n d => n * 8 + (d.toNat - 0x30)) 0
          followed (.text [UInt8.ofNat value]) [] (rest.drop ds.length)
        else if e = 0x63 then ([.stop], [], none)
        else
          match escapes.lookup e with
          | some byte => followed (.text [byte]) [] more
          | none =>
            followed (.text [b, e]) ["warning: unrecognized escape \x60\\" ++
              (Char.ofNat e.toNat).toString ++ "'"] more
    else if b = 0x25 then
      match directive rest with
      | .error message => ([], [], some message)
      | .ok (segment, told, more) => followed segment told more
    else followed (.text [b]) [] rest

end Segment

inductive Sink where
  | standard
  | stream (id : Nat)
  deriving DecidableEq, Repr

structure Call where
  words : List Bytes
  inPlace : Bool
  asks : Bool
  deriving DecidableEq, Repr

inductive Deed where
  | print (sink : Sink) (ending : UInt8)
  | format (sink : Sink) (segments : List Segment)
  | list (sink : Sink)
  | call (c : Call)
  | gather (number : Nat)
  | delete
  | prune
  | quit
  deriving Repr

def Deed.isAction : Deed → Bool
  | .prune => false
  | .quit => false
  | _ => true

inductive Query where
  | test (t : Test)
  | deed (d : Deed)
  | not (q : Query)
  | both (a b : Query)
  | either (a b : Query)
  | sequence (a b : Query)
  deriving Repr

namespace Query

inductive Joint where
  | sequence
  | either
  | both
  deriving DecidableEq, Repr

def Joint.level : Joint → Nat
  | .sequence => 1
  | .either => 2
  | .both => 3

def Joint.join : Joint → Query → Query → Query
  | .sequence => .sequence
  | .either => .either
  | .both => .both

inductive Token where
  | leaf (q : Query)
  | negation (word : String)
  | joint (j : Joint) (word : String)
  | opening (word : String) (written : Bool)
  | closing (written : Bool)
  deriving Repr

def Token.mayEnd : Token → Bool
  | .leaf _ => true
  | .closing _ => true
  | _ => false

def Token.push (ts : List Token) (t : Token) : List Token :=
  let begins : Bool := match t with
    | .joint _ _ => false
    | .closing _ => false
    | _ => true
  match ts with
  | last :: _ => if begins && last.mayEnd then t :: .joint .both "-a" :: ts else t :: ts
  | [] => [t]

def read : Nat → Nat → Token → List Token → Except String (Query × List Token)
  | 0, _, _, _ => .error "invalid expression"
  | fuel + 1, level, before, ts => do
    let (first, rest) ← match ts with
      | [] => .error "invalid expression"
      | .leaf q :: rest => .ok (q, rest)
      | .negation word :: rest => do
        let (q, rest) ← read fuel 4 (.negation word) rest
        pure (.not q, rest)
      | .joint _ word :: _ =>
        .error ("invalid expression; you have used a binary operator '" ++ word ++
          "' with nothing before it.")
      | .closing written :: _ =>
        let word := match before with
          | .negation word => some word
          | .joint _ word => some word
          | _ => none
        match word, written with
        | some word, true => .error ("expected an expression between '" ++ word ++ "' and ')'")
        | some word, false => .error ("expected an expression after '" ++ word ++ "'")
        | none, _ => .error "invalid expression; you have too many ')'"
      | .opening word written :: rest =>
        match rest with
        | [] => .error (lonelyOpening word)
        | .closing false :: _ => .error (lonelyOpening word)
        | .closing true :: _ => .error "invalid expression; empty parentheses are not allowed."
        | rest => do
          let (q, rest) ← read fuel 0 (.opening word written) rest
          match rest with
          | .closing _ :: rest => pure (q, rest)
          | _ => .error ("invalid expression; I was expecting to find a ')' somewhere but did " ++
              "not see one.")
    joined fuel level first rest
where
  lonelyOpening (word : String) : String :=
    "invalid expression; expected to find a ')' but didn't see one. Perhaps you need an extra " ++
      "predicate after '" ++ word ++ "'"
  joined : Nat → Nat → Query → List Token → Except String (Query × List Token)
    | 0, _, _, _ => .error "invalid expression"
    | fuel + 1, level, q, ts =>
      match ts with
      | .joint j word :: rest =>
        if j.level ≤ level then .ok (q, ts)
        else do
          let (second, rest) ← read fuel j.level (.joint j word) rest
          joined fuel level (j.join q second) rest
      | ts => .ok (q, ts)

def ofTokens (ts : List Token) : Except String Query := do
  let show' : Query := .deed (.print .standard 0x0A)
  let acts := ts.any fun t =>
    match t with
    | .leaf (.deed d) => d.isAction
    | _ => false
  if ts.isEmpty then pure show'
  else
    let ts := if acts then ts
      else .opening "(" false :: ts ++ [.closing false, .joint .both "-a", .leaf show']
    let (q, rest) ← read (3 * ts.length + 3) 0 (.opening "(" false) ts
    match rest with
    | [] => pure q
    | .closing _ :: _ => .error "you have too many ')'"
    | _ => .error "unexpected extra predicate"

end Query
end CallChart.Shell.Tool
