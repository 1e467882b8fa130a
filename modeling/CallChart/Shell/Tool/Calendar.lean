import CallChart.Shell.Tool.Basic
import CallChart.Timestamp

namespace CallChart.Shell.Tool

namespace Calendar

open CallChart.Timestamp

def dayNumber (year : Int) (month day : Nat) : Int :=
  let year' := if month ≤ 2 then year - 1 else year
  let month' := if month ≤ 2 then month + 9 else month - 3
  365 * year' + year' / 4 - year' / 100 + year' / 400 +
    ((153 * month' + 2) / 5 + day : Nat) - 719469

def seconds (t : Timestamp) : Int :=
  dayNumber t.year t.month t.day * 86400 + (t.hour * 3600 + t.minute * 60 + t.second : Nat)

def ofMilliseconds (ms : Int) : Timestamp :=
  { ofSeconds (ms / 1000) with nano := (ms % 1000).toNat * 1000000 }

def weekday (t : Timestamp) : Nat := ((dayNumber t.year t.month t.day + 4) % 7).toNat

def yearDay (t : Timestamp) : Nat :=
  (dayNumber t.year t.month t.day - dayNumber t.year 1 1 + 1).toNat

def monthNames : List String :=
  ["January", "February", "March", "April", "May", "June", "July", "August", "September", "October",
    "November", "December"]

def dayNames : List String :=
  ["Sunday", "Monday", "Tuesday", "Wednesday", "Thursday", "Friday", "Saturday"]

def weekFrom (first : Nat) (t : Timestamp) : Nat :=
  (yearDay t + 6 - (weekday t + 7 - first) % 7) / 7

/-- The year and the week in it, where weeks begin on Monday and belong to the year in which most of
their days lie. -/
def isoWeek (t : Timestamp) : Int × Nat :=
  let monday := dayNumber t.year t.month t.day - ((weekday t + 6) % 7 : Nat)
  let thursday := ofSeconds ((monday + 3) * 86400)
  (thursday.year, (yearDay thursday - 1) / 7 + 1)

structure Fill where
  filler : Option (Option Char)
  upper : Bool
  swapped : Bool
  width : Nat

def filled (f : Fill) (usual : Char) (digits : Nat) (negative : Bool) (n : Nat) : String :=
  let text := toString n
  let sign := if negative then "-" else ""
  match f.filler.getD (some usual) with
  | none => sign ++ text
  | some c =>
    let zeros := (if f.width = 0 then digits else f.width) - text.length - sign.length
    if c = ' ' then String.ofList (List.replicate zeros c) ++ sign ++ text
    else sign ++ String.ofList (List.replicate zeros c) ++ text

def filledText (f : Fill) (swap : String → String) (text : String) : String :=
  let text := if f.upper then String.ofList (text.toList.map Char.toUpper)
    else if f.swapped then swap text else text
  let fill := match f.filler with
    | some (some '0') => '0'
    | some (some '+') => '0'
    | _ => ' '
  match f.filler with
  | some none => text
  | _ => String.ofList (List.replicate (f.width - text.length) fill) ++ text

def upperText (text : String) : String := String.ofList (text.toList.map Char.toUpper)

def lowerText (text : String) : String := String.ofList (text.toList.map Char.toLower)

def twoDigits (n : Nat) : String := String.ofList (padded 2 n)

def zoneText (f : Fill) (colons : Nat) : String :=
  let body := match colons with
    | 0 => "0000"
    | 1 => "00:00"
    | 2 => "00:00:00"
    | _ => "00"
  let blank := f.filler = some (some ' ')
  let width := f.width - body.length - 1
  if blank then
    String.ofList (List.replicate width ' ') ++ "+" ++ String.ofList (body.toList.drop 1)
  else "+" ++ String.ofList (List.replicate width '0') ++ body

def conversion (f : Fill) (ms : Int) (t : Timestamp) (c : Char) : Option String :=
  let number (usual : Char) (digits n : Nat) : Option String := some (filled f usual digits false n)
  let name (swap : String → String) (text : String) : Option String := some (filledText f swap text)
  let short (text : String) : String := String.ofList (text.toList.take 3)
  let month := monthNames.getD (t.month - 1) ""
  let day := dayNames.getD (weekday t) ""
  let hour12 := if t.hour % 12 = 0 then 12 else t.hour % 12
  let clock (seconds : Bool) : String :=
    twoDigits t.hour ++ ":" ++ twoDigits t.minute ++
      if seconds then ":" ++ twoDigits t.second else ""
  let slashed : String :=
    twoDigits t.month ++ "/" ++ twoDigits t.day ++ "/" ++ twoDigits (t.year % 100).toNat
  let year (n : Int) : String := filled f '0' 4 (n < 0) n.natAbs
  match c with
  | 'a' => name upperText (short day)
  | 'A' => name upperText day
  | 'b' => name upperText (short month)
  | 'h' => name upperText (short month)
  | 'B' => name upperText month
  | 'c' => name id (short day ++ " " ++ short month ++ " " ++ padLeft 2 (toString t.day) ++ " " ++
      clock true ++ " " ++ toString t.year)
  | 'C' => number '0' 2 (t.year / 100).toNat
  | 'd' => number '0' 2 t.day
  | 'D' => name id slashed
  | 'e' => number ' ' 2 t.day
  | 'F' => name id (String.ofList (yearChars t.year) ++ "-" ++ twoDigits t.month ++ "-" ++
      twoDigits t.day)
  | 'g' => number '0' 2 ((isoWeek t).1 % 100).toNat
  | 'G' => some (year (isoWeek t).1)
  | 'H' => number '0' 2 t.hour
  | 'I' => number '0' 2 hour12
  | 'j' => number '0' 3 (yearDay t)
  | 'k' => number ' ' 2 t.hour
  | 'l' => number ' ' 2 hour12
  | 'm' => number '0' 2 t.month
  | 'M' => number '0' 2 t.minute
  | 'n' => name id "\n"
  | 'N' =>
    let digits := padded 9 t.nano
    let width := if f.width = 0 then 9 else f.width
    some (match f.filler with
      | some none => String.ofList (digits.take width)
      | _ => String.ofList (digits.take width ++ List.replicate (width - 9) '0'))
  | 'p' => name lowerText (if t.hour < 12 then "AM" else "PM")
  | 'P' => name id (if t.hour < 12 then "am" else "pm")
  | 'q' => number '0' 1 ((t.month + 2) / 3)
  | 'r' => name id (twoDigits hour12 ++ ":" ++ twoDigits t.minute ++ ":" ++ twoDigits t.second ++
      if t.hour < 12 then " AM" else " PM")
  | 'R' => name id (clock false)
  | 's' => some (filled f '0' 1 (ms < 0) (ms / 1000).natAbs)
  | 'S' => number '0' 2 t.second
  | 't' => name id "\t"
  | 'T' => name id (clock true)
  | 'u' => number '0' 1 (if weekday t = 0 then 7 else weekday t)
  | 'U' => number '0' 2 (weekFrom 0 t)
  | 'V' => number '0' 2 (isoWeek t).2
  | 'w' => number '0' 1 (weekday t)
  | 'W' => number '0' 2 (weekFrom 1 t)
  | 'x' => name id slashed
  | 'X' => name id (clock true)
  | 'y' => number '0' 2 (t.year % 100).toNat
  | 'Y' => some (year t.year)
  | 'z' => some (zoneText f 0)
  | 'Z' => name lowerText "UTC"
  | '%' => name id "%"
  | _ => none

def readConversion (ms : Int) (t : Timestamp) (cs : List Char) : Option (String × List Char) :=
  let flags := cs.takeWhile fun c => "-_0+^#".toList.contains c
  let rest := cs.drop flags.length
  let digits := rest.takeWhile Char.isDigit
  let rest := rest.drop digits.length
  let f : Fill := ⟨((flags.filter fun c => "-_0+".toList.contains c).getLast?).map fun c =>
      if c = '-' then none else some (if c = '_' then ' ' else '0'),
    flags.contains '^', flags.contains '#', digits.foldl (fun n c => n * 10 + (c.toNat - 48)) 0⟩
  let rest := match rest with
    | 'E' :: more => more
    | 'O' :: more => more
    | rest => rest
  let colons := rest.takeWhile (· = ':')
  match rest.drop colons.length with
  | [] => none
  | c :: rest =>
    if !colons.isEmpty then
      if c = 'z' ∧ colons.length ≤ 3 then some (zoneText f colons.length, rest) else none
    else (conversion f ms t c).map (·, rest)

def format (ms : Int) (cs : List Char) : String :=
  let t := ofMilliseconds ms
  let rec go : Nat → List Char → List Char
    | 0, _ => []
    | _, [] => []
    | fuel + 1, c :: rest =>
      if c ≠ '%' then c :: go fuel rest
      else
        match readConversion ms t rest with
        | some (text, rest) => text.toList ++ go fuel rest
        | none => c :: go fuel rest
  String.ofList (go (cs.length + 1) cs)

inductive Token where
  | number (sign : Option Bool) (digits : List Char)
  | word (text : String)
  | mark (c : Char)
  deriving DecidableEq, Repr

def tokens : Nat → List Char → List Token
  | 0, _ => []
  | _, [] => []
  | fuel + 1, c :: rest =>
    if c = ' ' ∨ c = '\t' ∨ c = '\n' ∨ c = ',' then tokens fuel rest
    else if c = '(' then tokens fuel ((rest.dropWhile (· ≠ ')')).drop 1)
    else if c.isDigit then
      let digits := (c :: rest).takeWhile Char.isDigit
      .number none digits :: tokens fuel ((c :: rest).drop digits.length)
    else if c.isAlpha then
      let word := (c :: rest).takeWhile fun c => c.isAlpha || c = '.'
      .word (lowerText (String.ofList (word.filter (· ≠ '.')))) ::
        tokens fuel ((c :: rest).drop word.length)
    else if c = '+' ∨ c = '-' then
      let rest := rest.dropWhile (· = ' ')
      let digits := rest.takeWhile Char.isDigit
      if digits.isEmpty then .mark c :: tokens fuel rest
      else .number (some (c = '-')) digits :: tokens fuel (rest.drop digits.length)
    else .mark c :: tokens fuel rest

def value (digits : List Char) : Nat := digits.foldl (fun n c => n * 10 + (c.toNat - 48)) 0

structure Told where
  date : Option (Int × Nat × Nat)
  clock : Option (Nat × Nat × Nat × Nat)
  zone : Option Int
  weekday : Option (Int × Nat)
  shifted : Bool
  months : Int
  days : Int
  seconds : Int
  absolute : Option Int

def nothingTold : Told := ⟨none, none, none, none, false, 0, 0, 0, none⟩

def unit? (word : String) : Option (Int × Int × Int) :=
  let word := if word.length > 1 ∧ word.toList.getLast? = some 's' ∧ word ≠ "s"
    then String.ofList word.toList.dropLast else word
  match word with
  | "year" => some (12, 0, 0)
  | "month" => some (1, 0, 0)
  | "fortnight" => some (0, 14, 0)
  | "week" => some (0, 7, 0)
  | "day" => some (0, 1, 0)
  | "hour" => some (0, 0, 3600)
  | "minute" => some (0, 0, 60)
  | "min" => some (0, 0, 60)
  | "second" => some (0, 0, 1)
  | "sec" => some (0, 0, 1)
  | _ => none

def nameIndex? (names : List String) (word : String) : Option Nat :=
  names.findIdx? fun name =>
    let name := lowerText name
    name == word || (word.length == 3 && Text.startsWith word name) ||
      (word == "sept" && name == "september") || (word == "tues" && name == "tuesday") ||
      (["wednes"].contains word && name == "wednesday") ||
      (["thur", "thurs"].contains word && name == "thursday")

def zones : List (String × Int) :=
  [("utc", 0), ("gmt", 0), ("ut", 0), ("z", 0), ("wet", 0), ("est", -300), ("edt", -240),
    ("cst", -360), ("cdt", -300), ("mst", -420), ("mdt", -360), ("pst", -480), ("pdt", -420),
    ("cet", 60), ("cest", 120), ("met", 60), ("bst", 60), ("eet", 120), ("msk", 180), ("jst", 540),
    ("ist", 330)]

def ordinals : List (String × Int) :=
  [("last", -1), ("this", 0), ("next", 1), ("first", 1), ("third", 3), ("fourth", 4), ("fifth", 5),
    ("sixth", 6), ("seventh", 7), ("eighth", 8), ("ninth", 9), ("tenth", 10), ("eleventh", 11),
    ("twelfth", 12)]

def shift (t : Told) (count : Int) (unit : Int × Int × Int) : Told :=
  { t with
    shifted := true, months := t.months + count * unit.1, days := t.days + count * unit.2.1
    seconds := t.seconds + count * unit.2.2 }

def fullYear (digits : List Char) : Int :=
  let n := value digits
  if digits.length = 2 then (if n < 69 then 2000 + n else 1900 + n) else n

def withClock (t : Told) (h m s ms : Nat) : Option Told :=
  if t.clock.isSome ∨ 24 ≤ h ∨ 60 ≤ m ∨ 61 ≤ s then none
  else some { t with clock := some (h, m, s, ms) }

def withDate (t : Told) (y : Int) (m d : Nat) : Option Told :=
  if t.date.isSome ∨ m = 0 ∨ 12 < m ∨ d = 0 ∨ daysIn y m < d then none
  else some { t with date := some (y, m, d) }

def withZone (t : Told) (minutes : Int) : Option Told :=
  if t.zone.isSome then none else some { t with zone := some minutes }

def zoneMinutes (negative : Bool) (digits : List Char) : Option Int :=
  let n := value digits
  let m : Nat := if digits.length ≤ 2 then n * 60 else n / 100 * 60 + n % 100
  if 1440 < m then none else some (if negative then -(m : Int) else m)

def hourOf (h : Nat) (half : String) : Option Nat :=
  if h = 0 ∨ 12 < h then none
  else if half = "am" then some (h % 12) else some (h % 12 + 12)

def fractionOf (digits : List Char) : Nat :=
  value ((digits ++ ['0', '0', '0']).take 3)

mutual

def tell (year : Int) : Nat → Told → List Token → Option Told
  | 0, _, _ => none
  | fuel + 1, t, ts =>
    match ts with
    | [] => some t
    | .mark '@' :: .number sign digits :: rest =>
      let whole : Int := value digits
      let whole := if sign = some true then -whole else whole
      let (ms, rest) := match rest with
        | .mark '.' :: .number none ds :: rest => ((fractionOf ds : Int), rest)
        | rest => (0, rest)
      let part := if sign = some true then -ms else ms
      tell year fuel { t with absolute := some (whole * 1000 + part) }
        rest
    | .number none h :: .mark ':' :: .number none m :: rest =>
      clock year fuel t (value h) (value m) rest
    | .number none y :: .number (some true) m :: .number (some true) d :: rest => do
      let t ← withDate t (fullYear y) (value m) (value d)
      match rest with
      | .word "t" :: rest => tell year fuel t rest
      | rest => tell year fuel t rest
    | .number none d :: .mark '-' :: .word month :: .number (some true) y :: rest => do
      let t ← withDate t (fullYear y) ((← nameIndex? monthNames month) + 1) (value d)
      tell year fuel t rest
    | .number none a :: .mark '/' :: .number none b :: .mark '/' :: .number none c :: rest => do
      let t ← if 4 ≤ a.length then withDate t (fullYear a) (value b) (value c)
        else withDate t (fullYear c) (value a) (value b)
      tell year fuel t rest
    | .number none a :: .mark '/' :: .number none b :: rest => do
      tell year fuel (← withDate t year (value a) (value b)) rest
    | .number sign ds :: .word word :: rest =>
      let n : Int := if sign = some true then -(value ds : Int) else value ds
      match unit? word with
      | some unit =>
        match rest with
        | .word "ago" :: rest => tell year fuel (shift t (-n) unit) rest
        | rest => tell year fuel (shift t n unit) rest
      | none =>
        if (word = "am" ∨ word = "pm") ∧ sign.isNone then do
          tell year fuel (← withClock t (← hourOf (value ds) word) 0 0 0) rest
        else
          match nameIndex? monthNames word, rest with
          | some m, .number none y :: rest =>
            if sign.isSome then none
            else if rest.head? = some (.mark ':') then do
              tell year fuel (← withDate t year (m + 1) (value ds)) (.number none y :: rest)
            else do tell year fuel (← withDate t (fullYear y) (m + 1) (value ds)) rest
          | some m, rest =>
            if sign.isSome then none
            else do tell year fuel (← withDate t year (m + 1) (value ds)) rest
          | none, rest =>
            match nameIndex? dayNames word with
            | some d => tell year fuel { t with weekday := some (n, d) } rest
            | none => single year fuel t sign ds (.word word :: rest)
    | .number sign ds :: rest => single year fuel t sign ds rest
    | .word word :: rest => words year fuel t word rest
    | .mark _ :: _ => none

def clock (year : Int) : Nat → Told → Nat → Nat → List Token → Option Told
  | 0, _, _, _, _ => none
  | fuel + 1, t, h, m, rest =>
    let finish (s ms : Nat) (rest : List Token) : Option Told := do
      let (t, rest) ← match rest with
        | .word "am" :: rest => do pure (← withClock t (← hourOf h "am") m s ms, rest)
        | .word "pm" :: rest => do pure (← withClock t (← hourOf h "pm") m s ms, rest)
        | rest => do pure (← withClock t h m s ms, rest)
      match rest with
      | .number (some negative) ds :: .mark ':' :: .number none minutes :: rest => do
        let n : Int := value ds * 60 + value minutes
        tell year fuel (← withZone t (if negative then -n else n)) rest
      | .number (some negative) ds :: rest =>
        match rest with
        | .word word :: _ =>
          if (unit? word).isSome then tell year fuel t (.number (some negative) ds :: rest)
          else do tell year fuel (← withZone t (← zoneMinutes negative ds)) rest
        | rest => do tell year fuel (← withZone t (← zoneMinutes negative ds)) rest
      | rest => tell year fuel t rest
    match rest with
    | .mark ':' :: .number none s :: .mark '.' :: .number none f :: rest =>
      finish (value s) (fractionOf f) rest
    | .mark ':' :: .number none s :: rest => finish (value s) 0 rest
    | rest => finish 0 0 rest

def single (year : Int) : Nat → Told → Option Bool → List Char → List Token → Option Told
  | 0, _, _, _, _ => none
  | fuel + 1, t, sign, ds, rest =>
    let n := value ds
    if sign.isSome then do
      if t.clock.isNone then none
      else tell year fuel (← withZone t (← zoneMinutes (sign = some true) ds)) rest
    else if ds.length = 8 then do
      let t ← withDate t (n / 10000 : Nat) (n / 100 % 100) (n % 100)
      match rest with
      | .word "t" :: rest => tell year fuel t rest
      | rest => tell year fuel t rest
    else if t.date.isSome ∧ t.clock.isSome ∧ ds.length = 4 then
      tell year fuel { t with date := t.date.map fun (_, m, d) => (n, m, d) } rest
    else if ds.length ≤ 2 then do tell year fuel (← withClock t n 0 0 0) rest
    else if ds.length ≤ 4 then do tell year fuel (← withClock t (n / 100) (n % 100) 0 0) rest
    else none

def words (year : Int) : Nat → Told → String → List Token → Option Told
  | 0, _, _, _ => none
  | fuel + 1, t, word, rest =>
    match word with
    | "now" => tell year fuel (shift t 0 (0, 0, 0)) rest
    | "today" => tell year fuel (shift t 0 (0, 0, 0)) rest
    | "yesterday" => tell year fuel (shift t (-1) (0, 1, 0)) rest
    | "tomorrow" => tell year fuel (shift t 1 (0, 1, 0)) rest
    | "noon" => do tell year fuel (← withClock t 12 0 0 0) rest
    | "midnight" => do tell year fuel (← withClock t 0 0 0 0) rest
    | "t" => tell year fuel t rest
    | _ =>
      match ordinals.lookup word, rest with
      | some n, .word unit :: rest =>
        match unit? unit, nameIndex? dayNames unit with
        | some u, _ =>
          match rest with
          | .word "ago" :: rest => tell year fuel (shift t (-n) u) rest
          | rest => tell year fuel (shift t n u) rest
        | none, some d => tell year fuel { t with weekday := some (n, d) } rest
        | none, none => none
      | _, _ =>
        match nameIndex? monthNames word, nameIndex? dayNames word with
        | some m, _ =>
          match rest with
          | .number none d :: .number none y :: rest =>
            if rest.head? = some (.mark ':') then do
              tell year fuel (← withDate t year (m + 1) (value d)) (.number none y :: rest)
            else do tell year fuel (← withDate t (fullYear y) (m + 1) (value d)) rest
          | .number none d :: rest => do
            tell year fuel (← withDate t year (m + 1) (value d)) rest
          | _ => none
        | none, some d => tell year fuel { t with weekday := some (0, d) } rest
        | none, none =>
          match unit? word, zones.lookup word with
          | some u, _ =>
            match rest with
            | .word "ago" :: rest => tell year fuel (shift t (-1) u) rest
            | rest => tell year fuel (shift t 1 u) rest
          | none, some minutes => do tell year fuel (← withZone t minutes) rest
          | none, none => none

end

def laterMonths (count : Int) (year : Int) (month day : Nat) : Int :=
  let index := year * 12 + (month - 1 : Nat) + count
  dayNumber (index / 12) ((index % 12).toNat + 1) 1 + (day - 1 : Nat)

def read? (now : Int) (text : String) : Option Int := do
  let present := ofMilliseconds now
  let t ← tell present.year (4 * text.length + 8) nothingTold (tokens (text.length + 1) text.toList)
  match t.absolute with
  | some ms =>
    if t.date.isSome ∨ t.clock.isSome ∨ t.weekday.isSome then none
    else
      let moved := ofMilliseconds ms
      let days := laterMonths t.months moved.year moved.month moved.day + t.days
      pure ((days * 86400 + (moved.hour * 3600 + moved.minute * 60 + moved.second : Nat) +
        t.seconds) * 1000 + ms % 1000)
  | none =>
    let (year, month, day) := t.date.getD (present.year, present.month, present.day)
    let kept := t.shifted ∧ t.date.isNone ∧ t.weekday.isNone
    let (h, m, s, ms) := t.clock.getD (if kept
      then (present.hour, present.minute, present.second, (now % 1000).toNat) else (0, 0, 0, 0))
    let first := dayNumber year month day
    let moved : Int := match t.weekday with
      | some (count, d) =>
        if t.date.isSome then 0
        else
          let today := ((first + 4) % 7).toNat
          ((d + 7 - today) % 7 : Nat) +
            7 * (count - if 0 < count ∧ today ≠ d then 1 else 0)
      | none => 0
    let there := ofSeconds ((first + moved) * 86400)
    let days := laterMonths t.months there.year there.month there.day + t.days
    pure ((days * 86400 + (h * 3600 + m * 60 + s : Nat) - t.zone.getD 0 * 60 + t.seconds) * 1000 +
      ms)

end Calendar
end CallChart.Shell.Tool
