import CallChart.Json.Reader
import CallChart.Number.Reading
import CallChart.Timestamp

namespace CallChart.Toml

abbrev Read (α : Type) := Option (α × List Char)

def isPrintable (c : Char) : Bool :=
  c = '\t' || (0x20 ≤ c.toNat && c.toNat ≠ 0x7F)

def charOf? (n : Nat) : Option Char :=
  if h : n.isValidChar then some (Char.ofNatAux n h) else none

def hexNumber? (digits : List Char) : Option Nat :=
  digits.foldlM (fun n c => (Json.hexValue? c).map (n * 16 + ·)) 0

def escape? : Char → Option Char
  | 'b' => some '\x08'
  | 't' => some '\t'
  | 'n' => some '\n'
  | 'f' => some '\x0c'
  | 'r' => some '\r'
  | '"' => some '"'
  | '\\' => some '\\'
  | _ => none

def before (c : Char) : Read (List Char) → Read (List Char)
  | none => none
  | some (text, rest) => some (c :: text, rest)

def beforeCode (digits : List Char) (later : Read (List Char)) : Read (List Char) :=
  match (hexNumber? digits).bind charOf? with
  | none => none
  | some c => before c later

def readBasic : List Char → Read (List Char)
  | [] => none
  | '"' :: rest => some ([], rest)
  | '\\' :: 'u' :: a :: b :: c :: d :: rest => beforeCode [a, b, c, d] (readBasic rest)
  | '\\' :: 'U' :: a :: b :: c :: d :: e :: f :: g :: h :: rest =>
    beforeCode [a, b, c, d, e, f, g, h] (readBasic rest)
  | '\\' :: c :: rest =>
    match escape? c with
    | some c => before c (readBasic rest)
    | none => none
  | c :: rest => if isPrintable c then before c (readBasic rest) else none

def readLiteral : List Char → Read (List Char)
  | [] => none
  | '\'' :: rest => some ([], rest)
  | c :: rest => if isPrintable c then before c (readLiteral rest) else none

def lineBreak? : List Char → Option (List Char)
  | '\n' :: rest => some rest
  | '\r' :: '\n' :: rest => some rest
  | _ => none

/-- The end of a long string: three marks, before which up to two more belong to the text. -/
def closing? (mark : Char) : List Char → Read (List Char)
  | a :: b :: c :: d :: e :: rest =>
    if a = mark ∧ b = mark ∧ c = mark then
      if d = mark then
        if e = mark then some ([mark, mark], rest) else some ([mark], e :: rest)
      else some ([], d :: e :: rest)
    else none
  | [a, b, c, d] =>
    if a = mark ∧ b = mark ∧ c = mark then
      if d = mark then some ([mark], []) else some ([], [d])
    else none
  | [a, b, c] => if a = mark ∧ b = mark ∧ c = mark then some ([], []) else none
  | _ => none

/-- Whether the reader of a long string skips white space behind a line that ends in a backslash. -/
inductive Folding where
  | none
  | line
  | space
  deriving DecidableEq

def readLongBasic (folding : Folding) : List Char → Read (List Char)
  | [] => none
  | c :: rest =>
    match closing? '"' (c :: rest) with
    | some (text, after) => if folding = .line then none else some (text, after)
    | none =>
      if c = ' ' ∨ c = '\t' then
        if folding = .none then before c (readLongBasic .none rest)
        else readLongBasic folding rest
      else if c = '\n' then
        if folding = .none then before c (readLongBasic .none rest)
        else readLongBasic .space rest
      else if c = '\r' then
        match rest with
        | '\n' :: more =>
          if folding = .none then before '\n' (readLongBasic .none more)
          else readLongBasic .space more
        | _ => none
      else if folding = .line then none
      else if c = '\\' then
        match rest with
        | 'u' :: a :: b :: c :: d :: more =>
          beforeCode [a, b, c, d] (readLongBasic .none more)
        | 'U' :: a :: b :: c :: d :: e :: f :: g :: h :: more =>
          beforeCode [a, b, c, d, e, f, g, h] (readLongBasic .none more)
        | d :: more =>
          match escape? d with
          | some d => before d (readLongBasic .none more)
          | none =>
            if d = ' ' ∨ d = '\t' ∨ d = '\n' ∨ d = '\r' then readLongBasic .line (d :: more)
            else none
        | [] => none
      else if isPrintable c then before c (readLongBasic .none rest)
      else none

def readLongLiteral : List Char → Read (List Char)
  | [] => none
  | c :: rest =>
    match closing? '\'' (c :: rest) with
    | some (text, after) => some (text, after)
    | none =>
      if c = '\r' then
        match rest with
        | '\n' :: more => before '\n' (readLongLiteral more)
        | _ => none
      else if c = '\n' ∨ isPrintable c then before c (readLongLiteral rest)
      else none

def skipLineBreak (cs : List Char) : List Char :=
  (lineBreak? cs).getD cs

def readString : List Char → Read String
  | '"' :: '"' :: '"' :: rest => finish (readLongBasic .none (skipLineBreak rest))
  | '\'' :: '\'' :: '\'' :: rest => finish (readLongLiteral (skipLineBreak rest))
  | '"' :: rest => finish (readBasic rest)
  | '\'' :: rest => finish (readLiteral rest)
  | _ => none
where
  finish : Read (List Char) → Read String
    | none => none
    | some (text, rest) => some (String.ofList text, rest)

def digits? (isDigit : Char → Bool) : List Char → Option (List Char)
  | [] => none
  | [c] => if isDigit c then some [c] else none
  | c :: '_' :: rest => if isDigit c then (digits? isDigit rest).map (c :: ·) else none
  | c :: rest => if isDigit c then (digits? isDigit rest).map (c :: ·) else none

def wholeDigits? (cs : List Char) : Option (List Char) :=
  match cs with
  | ['0'] => some ['0']
  | '0' :: _ => none
  | cs => digits? Char.isDigit cs

def isBinaryDigit (c : Char) : Bool := c = '0' || c = '1'

def isOctalDigit (c : Char) : Bool := '0' ≤ c && c ≤ '7'

def inBase (base : Nat) (digits : List Char) : Nat :=
  digits.foldl (fun n c => n * base + (Json.hexValue? c).getD 0) 0

def int64? (n : Int) : Option Int :=
  if -(Nat.pow 2 63 : Int) ≤ n ∧ n < Nat.pow 2 63 then some n else none

def integer? : List Char → Option Int
  | '0' :: 'x' :: rest =>
    (digits? (fun c => (Json.hexValue? c).isSome) rest).bind fun ds => int64? (inBase 16 ds)
  | '0' :: 'o' :: rest => (digits? isOctalDigit rest).bind fun ds => int64? (inBase 8 ds)
  | '0' :: 'b' :: rest => (digits? isBinaryDigit rest).bind fun ds => int64? (inBase 2 ds)
  | cs =>
    let (negative, rest) := Binary64.splitSign cs
    (wholeDigits? rest).bind fun ds =>
      int64? (if negative then -(ofDigits ds : Int) else ofDigits ds)

def exponentPart? : List Char → Option (List Char)
  | [] => some []
  | c :: rest =>
    if c = 'e' ∨ c = 'E' then
      let (negative, ds) := Binary64.splitSign rest
      (digits? Char.isDigit ds).map fun ds => 'e' :: (if negative then '-' :: ds else ds)
    else none

def isExponentMark (c : Char) : Bool := c = 'e' || c = 'E'

/-- The text of a real number without underscores: whole digits, and a fraction or an exponent. -/
def realDigits? (cs : List Char) : Option (List Char) := do
  let whole := cs.takeWhile fun c => c ≠ '.' ∧ ¬ isExponentMark c
  let ds ← wholeDigits? whole
  match cs.drop whole.length with
  | [] => none
  | '.' :: rest =>
    let fraction := rest.takeWhile fun c => ¬ isExponentMark c
    let fs ← digits? Char.isDigit fraction
    let e ← exponentPart? (rest.drop fraction.length)
    some (ds ++ '.' :: fs ++ e)
  | rest => (exponentPart? rest).map (ds ++ ·)

def real? (cs : List Char) : Option Binary64 :=
  let (negative, rest) := Binary64.splitSign cs
  if rest = ['i', 'n', 'f'] then some (.infinite negative)
  else if rest = ['n', 'a', 'n'] then some .nan
  else do
    let ds ← realDigits? rest
    let x ← Binary64.ofText? (String.ofList (if negative then '-' :: ds else ds))
    if x = Binary64.infinite false then none else some x

def readFixed (count : Nat) (cs : List Char) : Read Nat :=
  let ds := cs.take count
  if ds.length = count ∧ ds.all Char.isDigit then some (ofDigits ds, cs.drop count) else none

def readTwo (least most : Nat) (cs : List Char) : Read Nat :=
  match readFixed 2 cs with
  | some (n, rest) => if least ≤ n ∧ n ≤ most then some (n, rest) else none
  | none => none

def readMark (mark : Char) : List Char → Option (List Char)
  | c :: rest => if c = mark then some rest else none
  | [] => none

def behindDate? (cs : List Char) : Option (List Char) := do
  let (year, cs) ← readFixed 4 cs
  let (month, cs) ← readTwo 1 12 (← readMark '-' cs)
  let (day, cs) ← readTwo 1 31 (← readMark '-' cs)
  if day ≤ Timestamp.daysIn year month then some cs else none

def behindTime? (cs : List Char) : Option (List Char) := do
  let (_, cs) ← readTwo 0 23 cs
  let (_, cs) ← readTwo 0 59 (← readMark ':' cs)
  let (_, cs) ← readTwo 0 60 (← readMark ':' cs)
  match cs with
  | '.' :: d :: rest => some (if d.isDigit then rest.dropWhile Char.isDigit else cs)
  | _ => some cs

def behindOffset? (cs : List Char) : Option (List Char) :=
  let signed (cs : List Char) : Option (List Char) := do
    let (_, cs) ← readTwo 0 23 cs
    let (_, cs) ← readTwo 0 59 (← readMark ':' cs)
    some cs
  match cs with
  | 'Z' :: rest => some rest
  | 'z' :: rest => some rest
  | '+' :: rest => signed rest
  | '-' :: rest => signed rest
  | _ => some cs

def isDateTimeMark (c : Char) : Bool := c = 'T' || c = 't' || c = ' '

/-- The rest behind a date, a time, or a date with a time and perhaps a distance from UTC. -/
def behindMoment? (cs : List Char) : Option (List Char) :=
  match behindDate? cs with
  | none => behindTime? cs
  | some [] => some []
  | some (c :: rest) =>
    if isDateTimeMark c then
      match behindTime? rest with
      | some rest => behindOffset? rest
      | none => some (c :: rest)
    else some (c :: rest)

/-- The one key of a table that stands for a date or a time. No setting has such a key, so that no
setting is a date. -/
def momentKey : String := "moment"

def readMoment (cs : List Char) : Read Json :=
  (behindMoment? cs).map fun rest =>
    (.object [(some momentKey, .ofText (String.ofList (cs.take (cs.length - rest.length))))], rest)

def isTokenChar (c : Char) : Bool :=
  c.isAlphanum || c = '_' || c = '+' || c = '-' || c = '.'

def word? (cs : List Char) : Option Json :=
  if cs = ['t', 'r', 'u', 'e'] then some (.bool true)
  else if cs = ['f', 'a', 'l', 's', 'e'] then some (.bool false)
  else
    match integer? cs with
    | some n => some (.number (some (.whole n)))
    | none => (real? cs).map fun x => .number (some (.real x))

end CallChart.Toml
