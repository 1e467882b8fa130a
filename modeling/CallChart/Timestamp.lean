import CallChart.Number.Reading
import CallChart.Text.Split

namespace CallChart

structure Timestamp where
  year : Int
  month : Nat
  day : Nat
  hour : Nat
  minute : Nat
  second : Nat
  nano : Nat
  deriving DecidableEq, Repr

namespace Timestamp

def isLeapYear (year : Int) : Bool :=
  year % 4 == 0 && (year % 100 != 0 || year % 400 == 0)

def daysIn (year : Int) (month : Nat) : Nat :=
  if month = 2 then if isLeapYear year then 29 else 28
  else if month = 4 ∨ month = 6 ∨ month = 9 ∨ month = 11 then 30
  else 31

def isValid (t : Timestamp) : Bool :=
  1 ≤ t.month && t.month ≤ 12 && 1 ≤ t.day && t.day ≤ daysIn t.year t.month &&
    t.hour ≤ 23 && t.minute ≤ 59 && t.second ≤ 60 && t.nano < 1000000000 &&
    -262143 ≤ t.year && t.year ≤ 262142

def padded (width n : Nat) : List Char :=
  let digits := Nat.toDigits 10 n
  List.replicate (width - digits.length) '0' ++ digits

def yearChars (year : Int) : List Char :=
  if 0 ≤ year ∧ year ≤ 9999 then padded 4 year.toNat
  else (if year < 0 then '-' else '+') :: padded 4 year.natAbs

def fractionChars (nano : Nat) : List Char :=
  if nano = 0 then []
  else if nano % 1000000 = 0 then '.' :: padded 3 (nano / 1000000)
  else if nano % 1000 = 0 then '.' :: padded 6 (nano / 1000)
  else '.' :: padded 9 nano

def chars (t : Timestamp) : List Char :=
  yearChars t.year ++ '-' :: padded 2 t.month ++ '-' :: padded 2 t.day ++ 'T' ::
    padded 2 t.hour ++ ':' :: padded 2 t.minute ++ ':' :: padded 2 t.second ++
    fractionChars t.nano ++ ['Z']

def text (t : Timestamp) : String :=
  String.ofList t.chars

def nextDay (t : Timestamp) : Timestamp :=
  if t.day < daysIn t.year t.month then { t with day := t.day + 1 }
  else if t.month < 12 then { t with month := t.month + 1, day := 1 }
  else { t with year := t.year + 1, month := 1, day := 1 }

def previousDay (t : Timestamp) : Timestamp :=
  if 1 < t.day then { t with day := t.day - 1 }
  else if 1 < t.month then { t with month := t.month - 1, day := daysIn t.year (t.month - 1) }
  else { t with year := t.year - 1, month := 12, day := 31 }

/-- The time in UTC of a local time this many minutes ahead; less than a day. -/
def toUtc (t : Timestamp) (ahead : Int) : Timestamp :=
  let minutes : Int := t.hour * 60 + t.minute - ahead
  let shifted := if minutes < 0 then t.previousDay else if 1440 ≤ minutes then t.nextDay else t
  let ofDay := (minutes % 1440).toNat
  { shifted with hour := ofDay / 60, minute := ofDay % 60 }

abbrev Reader (α : Type) := List Char → Option (α × List Char)

def readDigits (most : Nat) : Reader Nat := fun cs =>
  let digits := (cs.takeWhile Char.isDigit).take most
  if digits = [] then none else some (ofDigits digits, cs.drop digits.length)

def readNumber (most : Nat) : Reader Nat := fun cs =>
  readDigits most (Text.trimStart cs)

/-- A year of up to four digits, or of any number of digits right behind a sign. -/
def readYear : Reader Int := fun cs =>
  match Text.trimStart cs with
  | '+' :: rest => (readDigits rest.length rest).map fun (n, rest) => ((n : Int), rest)
  | '-' :: rest => (readDigits rest.length rest).map fun (n, rest) => (-(n : Int), rest)
  | rest => (readDigits 4 rest).map fun (n, rest) => ((n : Int), rest)

def readMark (mark : Char) (cs : List Char) : Option (List Char) :=
  match Text.trimStart cs with
  | c :: rest => if c = mark then some rest else none
  | [] => none

def readFraction : Reader Nat := fun cs =>
  match cs with
  | '.' :: rest =>
    let digits := rest.takeWhile Char.isDigit
    if digits = [] then none
    else
      let used := digits.take 9
      some (ofDigits used * Nat.pow 10 (9 - used.length), rest.dropWhile Char.isDigit)
  | _ => some (0, cs)

def readTwoDigits : Reader Nat := fun cs =>
  match cs with
  | a :: b :: rest => if a.isDigit && b.isDigit then some (ofDigits [a, b], rest) else none
  | _ => none

def readZone : Reader Int := fun cs =>
  let signed (negative : Bool) (rest : List Char) : Option (Int × List Char) := do
    let (hours, rest) ← readTwoDigits rest
    let (minutes, rest) ← readTwoDigits (rest.dropWhile fun c => c == ':' || Text.isBlank c)
    if minutes < 60 ∧ hours < 24 then
      let total : Int := hours * 60 + minutes
      pure (if negative then -total else total, rest)
    else none
  match cs with
  | 'Z' :: rest => some (0, rest)
  | 'z' :: rest => some (0, rest)
  | '+' :: rest => signed false rest
  | '-' :: rest => signed true rest
  | '\u2212' :: rest => signed true rest
  | a :: b :: c :: rest =>
    if String.ofList ([a, b, c].map Char.toUpper) = "UTC" then some (0, rest) else none
  | _ => none

def readDivider : List Char → Option (List Char)
  | 'T' :: rest => some rest
  | 't' :: rest => some rest
  | ' ' :: rest => some rest
  | _ => none

/-- The time that a text tells. Both the local time and the one in UTC have years in range. -/
def ofText? (s : String) : Option Timestamp := do
  let (year, cs) ← readYear s.toList
  let cs ← readMark '-' cs
  let (month, cs) ← readNumber 2 cs
  let cs ← readMark '-' cs
  let (day, cs) ← readNumber 2 cs
  let cs ← readDivider cs
  let (hour, cs) ← readNumber 2 cs
  let cs ← readMark ':' cs
  let (minute, cs) ← readNumber 2 cs
  let cs ← readMark ':' cs
  let (second, cs) ← readNumber 2 cs
  let (nano, cs) ← readFraction cs
  let (ahead, cs) ← readZone (Text.trimStart cs)
  let told : Timestamp := ⟨year, month, day, hour, minute, second, nano⟩
  if Text.trimStart cs = [] ∧ told.isValid ∧ (told.toUtc ahead).isValid then
    pure (told.toUtc ahead)
  else none

/-- The day that is this many days after the first of March of the year 0. Years are counted from
March on, so that the leap day is the last of its year, and in cycles of 400 years. -/
def ofMarchDays (days : Int) : Timestamp :=
  let cycle := days / 146097
  let inCycle := (days % 146097).toNat
  let year := (inCycle - inCycle / 1460 + inCycle / 36524 - inCycle / 146096) / 365
  let inYear := inCycle - (365 * year + year / 4 - year / 100)
  let month := (5 * inYear + 2) / 153
  let day := inYear - (153 * month + 2) / 5 + 1
  let year := cycle * 400 + year
  if month < 10 then ⟨year, month + 3, day, 0, 0, 0, 0⟩
  else ⟨year + 1, month - 9, day, 0, 0, 0, 0⟩

def ofSeconds (seconds : Int) : Timestamp :=
  let inDay := (seconds % 86400).toNat
  { ofMarchDays (seconds / 86400 + 719468) with
    hour := inDay / 3600, minute := inDay / 60 % 60, second := inDay % 60 }

end Timestamp
end CallChart
