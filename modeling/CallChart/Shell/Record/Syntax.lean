import CallChart.Shell.Record.Value

namespace CallChart.Shell.Record

structure Pattern where
  source : Bytes
  regex : Regex
  deriving Inhabited

namespace Pattern

def form : Regex.Notation := ⟨true, true, none, true, false, false⟩

def special : Bytes := bytesOf "^$*.[]\\|+?()\x7b\x7d"

def unescaped (bs : Bytes) : UInt8 × Bytes :=
  match bs with
  | [] => (0x5C, [])
  | c :: rest =>
    match Format.octal? c with
    | some _ =>
      let (n, rest) := Format.octals 3 0 bs
      (UInt8.ofNat n, rest)
    | none =>
      ((([(0x61, 0x07), (0x62, 0x08), (0x66, 0x0C), (0x6E, 0x0A), (0x72, 0x0D), (0x74, 0x09),
        (0x76, 0x0B)] : List (UInt8 × UInt8)).lookup c).getD c, rest)

def plainSet : Nat → Bool → Bytes → Bytes × Bytes
  | 0, _, bs => ([], bs)
  | _, _, [] => ([], [])
  | fuel + 1, first, b :: rest =>
    let goOn (piece : Bytes) (rest : Bytes) : Bytes × Bytes :=
      let (more, rest) := plainSet fuel false rest
      (piece ++ more, rest)
    match b, rest with
    | 0x5D, rest => if first then goOn [b] rest else ([b], rest)
    | 0x5B, 0x3A :: more =>
      let name := more.takeWhile (· ≠ 0x3A)
      match more.drop name.length with
      | 0x3A :: 0x5D :: more => goOn (0x5B :: 0x3A :: name ++ [0x3A, 0x5D]) more
      | _ => goOn (bytesOf "[.[.]") rest
    | 0x5B, rest => goOn (bytesOf "[.[.]") rest
    | 0x5C, rest =>
      let (c, rest) := unescaped rest
      goOn ([0x5B, 0x2E, c, 0x2E, 0x5D]) rest
    | b, rest => goOn [b] rest

def plain : Nat → Bytes → Bytes
  | 0, bs => bs
  | _, [] => []
  | fuel + 1, b :: rest =>
    if b = 0x5C then
      let (c, rest) := unescaped rest
      (if special.contains c then [0x5C, c] else [c]) ++ plain fuel rest
    else if b = 0x7B ∨ b = 0x7D then 0x5C :: b :: plain fuel rest
    else if b = 0x5B then
      let (negated, body) : Bytes × Bytes := match rest with
        | 0x5E :: body => ([0x5E], body)
        | body => ([], body)
      let (set, rest) := plainSet (body.length + 1) true body
      0x5B :: negated ++ set ++ plain fuel rest
    else b :: plain fuel rest

def reason (message : String) : String :=
  match message with
  | "Unmatched ( or \\(" => "missing ')'"
  | "Unmatched ) or \\)" => "missing '('"
  | "Invalid preceding regular expression" => "missing operand"
  | "Regular expression too big" => "resource exhaustion -- regular expression too large"
  | _ => "bad class -- [], [^] or ["

def read (source : Bytes) : Except String Pattern :=
  match Regex.read form (plain (source.length + 1) source) with
  | .ok e => .ok ⟨source, e.regex⟩
  | .error message =>
    .error ("regular expression compile failed (" ++ reason message ++ ")\n" ++ textOf source)

def view (text : Array UInt8) : Regex.View := ⟨text, false, false⟩

def find? (p : Pattern) (text : Array UInt8) (place : Nat) : Option Regex.Match :=
  p.regex.find? (view text) place

def matches? (p : Pattern) (text : Bytes) : Bool := (p.find? text.toArray 0).isSome

end Pattern

inductive Name where
  | shared (index : Nat)
  | own (index : Nat)
  deriving DecidableEq, Repr, Inhabited

inductive Operation where
  | add
  | subtract
  | multiply
  | divide
  | remainder
  | power
  deriving DecidableEq, Repr

inductive Comparison where
  | equal
  | unequal
  | less
  | lessOrEqual
  | greater
  | greaterOrEqual
  deriving DecidableEq, Repr

inductive Ability where
  | length
  | index
  | part
  | search
  | layOut
  | upper
  | lower
  | sine
  | cosine
  | arctangent
  | exponential
  | logarithm
  | root
  | whole
  | random
  | seed
  | close
  | flush
  | system
  | now
  | date
  | time
  deriving DecidableEq, Repr

mutual

inductive Place where
  | variable (name : Name)
  | element (table : Name) (keys : List Expression)
  | field (index : Expression)

inductive Expression where
  | constant (v : Value)
  | pattern (p : Pattern)
  | value (p : Place)
  | assign (p : Place) (operation : Option Operation) (e : Expression)
  | count (p : Place) (up before : Bool)
  | choice (condition yes no : Expression)
  | both (a b : Expression)
  | either (a b : Expression)
  | not (e : Expression)
  | negative (e : Expression)
  | positive (e : Expression)
  | operate (o : Operation) (a b : Expression)
  | compare (c : Comparison) (a b : Expression)
  | joined (a b : Expression)
  | matching (negated : Bool) (text pattern : Expression)
  | member (keys : List Expression) (table : Name)
  | call (function : Nat) (arguments : List Expression)
  | ability (a : Ability) (arguments : List Expression)
  | substitute (all : Bool) (pattern replacement : Expression) (target : Place)
  | split (text : Expression) (table : Name) (separator : Option Expression)
  | next (target : Option Place)
  | nextOfFile (file : Expression) (target : Option Place)
  | nextOfCommand (command : Expression) (target : Option Place)

end

instance : Inhabited Expression := ⟨.constant .unset⟩

inductive Direction where
  | file
  | append
  | command
  deriving DecidableEq, Repr

inductive Statement where
  | nothing
  | evaluate (e : Expression)
  | print (values : List Expression) (target : Option (Direction × Expression))
  | layOut (values : List Expression) (target : Option (Direction × Expression))
  | choose (condition : Expression) (yes no : Statement)
  | loop (condition : Expression) (next : Statement) (body : Statement)
  | loopOnce (body : Statement) (condition : Expression)
  | each (name : Name) (table : Name) (body : Statement)
  | block (body : List Statement)
  | leave
  | again
  | nextRecord
  | nextFile
  | exit (status : Option Expression)
  | back (value : Option Expression)
  | remove (table : Name) (keys : Option (List Expression))
  deriving Inhabited

inductive Occasion where
  | first
  | last
  | always
  | when (condition : Expression)
  | range (start stop : Expression)

structure Function where
  name : String
  tables : List Bool
  body : Statement
  deriving Inhabited

structure Program where
  globals : List (String × Bool)
  functions : Array Function
  rules : List (Occasion × Statement)
  deriving Inhabited

def known : List (String × Bool) := [("NF", false), ("NR", false), ("FNR", false),
  ("FS", false), ("OFS", false), ("RS", false), ("ORS", false), ("FILENAME", false),
  ("SUBSEP", false), ("RSTART", false), ("RLENGTH", false), ("CONVFMT", false), ("OFMT", false),
  ("ARGC", false), ("ARGV", true), ("ENVIRON", true)]

namespace Known

def fields : Nat := 0
def record : Nat := 1
def fileRecord : Nat := 2
def separator : Nat := 3
def outputSeparator : Nat := 4
def recordSeparator : Nat := 5
def outputEnd : Nat := 6
def file : Nat := 7
def keySeparator : Nat := 8
def matchStart : Nat := 9
def matchLength : Nat := 10
def numberFormat : Nat := 11
def outputFormat : Nat := 12
def argumentCount : Nat := 13
def arguments : Nat := 14
def environment : Nat := 15

end Known

end CallChart.Shell.Record
