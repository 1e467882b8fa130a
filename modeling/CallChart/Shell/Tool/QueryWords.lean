import CallChart.Shell.Tool.Calendar
import CallChart.Shell.Tool.Listing
import CallChart.Shell.Tool.Query
import CallChart.Shell.Tool.Transfer

namespace CallChart.Shell.Tool

open CallChart.Shell.Action

inductive Following where
  | none
  | operands
  | all
  deriving DecidableEq, Repr

structure Course where
  following : Following
  insideFirst : Bool
  least : Nat
  most : Option Nat
  gathering : List (Bool × List Bytes)
  list : Option Bytes

structure Inquiry where
  program : String
  course : Course
  tokens : List Query.Token
  form : Regex.Notation
  dayStart : Int
  opened : List (Bytes × Sink)
  ordered : Bool
  warns : Bool
  tested : Option String

namespace Inquiry

abbrev Reader := ExceptT String (StateT Inquiry Action)

def sign (w : Bytes) : Ordering × Bytes :=
  match w with
  | 0x2B :: rest => (.gt, rest)
  | 0x2D :: rest => (.lt, rest)
  | w => (.eq, w)

def number? (w : Bytes) : Option Nat :=
  match w.dropWhile ByteClass.isSpace with
  | 0x2B :: rest => digits? rest
  | rest => digits? rest

def bound? (w : Bytes) : Option Bound :=
  let (order, rest) := sign w
  (number? rest).map (⟨order, ·⟩)

def amount? (unit : Nat) (w : Bytes) : Option Int :=
  let (order, rest) := sign w
  let whole := rest.takeWhile ByteClass.isDigit
  let behind := rest.drop whole.length
  let fraction := match behind with
    | 0x2E :: more => more.takeWhile ByteClass.isDigit
    | _ => []
  let behind := match behind with
    | 0x2E :: more => more.drop fraction.length
    | more => more
  if whole.isEmpty ∧ fraction.isEmpty then none
  else
    let exponent : Option Int := match behind with
      | [] => some 0
      | e :: more =>
        if e = 0x65 ∨ e = 0x45 then
          let (o, ds) := sign more
          (digits? ds).map fun n => if o = .lt then -(n : Int) else n
        else none
    exponent.map fun exponent =>
      let mantissa : Nat := (digits? (whole ++ fraction)).getD 0 * unit
      let scale : Int := exponent - fraction.length
      let value : Nat := if scale < 0 then mantissa / Nat.pow 10 (min scale.natAbs 400)
        else mantissa * Nat.pow 10 (min scale.natAbs 20)
      if order = .lt then -(value : Int) else value

def timeTest? (moment : Int) (unit : Nat) (w : Bytes) : Option TimeTest :=
  let (order, rest) := sign w
  (amount? (unit * 1000) rest).map fun back =>
    match order with
    | .gt => .before (moment - back)
    | .lt => .after (moment - back)
    | .eq => .within (moment - back) (unit * 1000)

def argument (word : String) : List Bytes → Reader (Bytes × List Bytes)
  | w :: rest => pure (w, rest)
  | [] => throw ("missing argument to \x60" ++ word ++ "'")

def invalidArgument {α : Type} (word : String) (w : Bytes) : Reader α :=
  throw ("invalid argument \x60" ++ textOf w ++ "' to \x60" ++ word ++ "'")

def reference (w : Bytes) : Reader (Path × Node) := do
  let follow := (← get).course.following ≠ .none
  match ← (present follow (textOf w) : Action _) with
  | .ok found => pure found
  | .error fault => throw (quote w ++ ": " ++ fault.reason)

def kindLetters (word : String) : List Char → List Char → Except String (List Char)
  | _, [] => .error ("Arguments to " ++ word ++ " should contain at least one letter")
  | seen, c :: rest =>
    if c = 'D' then
      .error (word ++ " D is not supported because Solaris doors are not supported on the " ++
        "platform find was compiled on.")
    else if !("bcdpfls".toList.contains c) then
      .error ("Unknown argument to " ++ word ++ ": " ++ c.toString)
    else if seen.contains c then
      .error ("Duplicate file type '" ++ c.toString ++ "' in the argument list to " ++ word ++ ".")
    else
      match rest with
      | [] => .ok (c :: seen)
      | [','] => .error ("Last file type in list argument to " ++ word ++
          " is missing, i.e., list is ending on: ','")
      | ',' :: next :: more => kindLetters word (c :: seen) (next :: more)
      | _ => .error ("Must separate multiple arguments to " ++ word ++ " using: ','")

def bitsTest (w : Bytes) : Except String (Test × List String) :=
  let (t, rest) : BitTest × Bytes := match w with
    | 0x2D :: rest => (.all, rest)
    | 0x2F :: rest => (.any, rest)
    | w => (.equal, w)
  let old := match w with
    | [0x2B] => false
    | 0x2B :: b :: _ => ByteClass.isDigit b
    | _ => false
  match if old then none else Mode.read? (textOf rest) with
  | none => .error ("invalid mode " ++ quote w)
  | some changes =>
    let file := Mode.adjust changes false 0 0
    let directory := Mode.adjust changes true 0 0
    if t = .any ∧ file = 0 ∧ directory = 0 then
      .ok (.bits .all 0 0, ["warning: you have specified a mode pattern " ++ textOf w ++
        " (which is equivalent to /000). The meaning of -perm /000 has now been changed to be " ++
        "consistent with -perm -000; that is, while it used to match no files, it now matches " ++
        "all files."])
    else .ok (.bits t file directory, [])

def sizeTest (word : String) (w : Bytes) : Except String Test :=
  match w.getLast? with
  | none => .error ("invalid null argument to " ++ word)
  | some last =>
    let units : List (UInt8 × Nat) :=
      [(0x62, 512), (0x63, 1), (0x77, 2), (0x6B, 1024), (0x4D, 1048576), (0x47, 1073741824)]
    let unit : Option (Nat × Bytes) :=
      if ByteClass.isDigit last then some (512, w) else (units.lookup last).map (·, w.dropLast)
    match unit with
    | none => .error ("invalid " ++ word ++ " type \x60" ++ textOf [last] ++ "'")
    | some (unit, count) =>
      match bound? count with
      | some b => .ok (.size unit b)
      | none => .error ("Invalid argument \x60" ++ textOf w ++ "' to " ++ word)

def forms : List (String × Regex.Notation) :=
  [("findutils-default", .editor), ("ed", .basic), ("emacs", .editor), ("gnu-awk", .extended),
    ("grep", .basic), ("posix-awk", .extended), ("awk", .extended), ("posix-basic", .basic),
    ("posix-egrep", .lenient), ("egrep", .lenient), ("posix-extended", .extended),
    ("posix-minimal-basic", .basic), ("sed", .basic)]

def braces : Bytes := bytesOf "\x7b\x7d"

def hasBraces (w : Bytes) : Bool :=
  (List.range w.length).any fun i => braces.isPrefixOf (w.drop i)

inductive CommandEnd where
  | each
  | gathered
  | missing
  deriving DecidableEq

def commandWords (mayGather : Bool) : Bool → List Bytes → List Bytes × CommandEnd × List Bytes
  | _, [] => ([], .missing, [])
  | braced, w :: rest =>
    if w = [0x3B] then ([], .each, rest)
    else if mayGather ∧ braced ∧ w = [0x2B] then ([], .gathered, rest)
    else
      let (words, e, rest) := commandWords mayGather (hasBraces w) rest
      (w :: words, e, rest)

def push (t : Query.Token) : Reader Unit :=
  modify fun s => { s with tokens := Query.Token.push s.tokens t }

def pushTest (t : Test) : Reader Unit := push (.leaf (.test t))

def pushDeed (d : Deed) : Reader Unit := push (.leaf (.deed d))

def changeCourse (f : Course → Course) : Reader Unit :=
  modify fun s => { s with course := f s.course }

def saying (message : String) : Reader Unit := do
  (say (← get).program message : Action Unit)

def sinkAt (w : Bytes) : Reader Sink := do
  match (← get).opened.lookup w with
  | some sink => pure sink
  | none =>
    if textOf w = "/dev/stdout" then pure .standard
    else
      match ← (openOutput (textOf w) .empty : Action _) with
      | .error fault => throw (quote w ++ ": " ++ fault.reason)
      | .ok id =>
        modify fun s => { s with opened := (w, .stream id) :: s.opened }
        pure (.stream id)

def command (word : String) (inPlace asks : Bool) (args : List Bytes) : Reader (List Bytes) := do
  match commandWords (!asks) false args with
  | (_, .missing, _) => throw ("missing argument to \x60" ++ word ++ "'")
  | ([], _, _) => invalidArgument word [0x3B]
  | (words, .each, rest) =>
    pushDeed (.call ⟨words, inPlace, asks⟩)
    pure rest
  | (words, .gathered, rest) =>
    let kind := if inPlace then "-execdir" else "-exec"
    if 1 < words.countP hasBraces then
      throw ("Only one instance of \x7b\x7d is supported with " ++ kind ++ " ... +")
    else if words.getLastD [] ≠ braces then
      throw ("In '" ++ kind ++ " ... \x7b\x7d +' the '\x7b\x7d' must appear by itself, but you " ++
        "specified " ++ quote (words.getLastD []))
    else
      let number := (← get).course.gathering.length
      changeCourse fun c => { c with gathering := (inPlace, words.dropLast) :: c.gathering }
      pushDeed (.gather number)
      pure rest

def segments (w : Bytes) : Reader (List Segment) := do
  let (parts, warnings, fault) := Segment.read (w.length + 1) w
  for message in warnings do
    saying message
  match fault with
  | some message => throw message
  | none => pure parts

def levels (word : String) (args : List Bytes) : Reader (Nat × List Bytes) := do
  let (w, rest) ← argument word args
  match digits? w with
  | some n => pure (n, rest)
  | none =>
    throw ("Expected a positive decimal integer argument to " ++ word ++ ", but got " ++ quote w)

def patternOf (word : String) (fold : Bool) (args : List Bytes) (test : NamePattern → Test) :
    Reader (List Bytes) := do
  let (w, rest) ← argument word args
  pushTest (test (.read fold w))
  pure rest

def boundOf (word : String) (args : List Bytes) (test : Bound → Test) : Reader (List Bytes) := do
  let (w, rest) ← argument word args
  match bound? w with
  | some b =>
    pushTest (test b)
    pure rest
  | none => invalidArgument word w

def timeOf (word : String) (days : Bool) (args : List Bytes) : Reader (List Bytes) := do
  let (w, rest) ← argument word args
  let start := (← get).dayStart
  let moment := if !days then start + 86400000
    else if (sign w).1 = .lt then start + 86399000 else start
  match timeTest? moment (if days then 86400 else 60) w with
  | some t =>
    pushTest (.time t)
    pure rest
  | none => invalidArgument word w

def expressionOf (word : String) (fold : Bool) (args : List Bytes) : Reader (List Bytes) := do
  let (w, rest) ← argument word args
  match Regex.read (← get).form w with
  | .ok e =>
    pushTest (.expression fold e.regex)
    pure rest
  | .error message =>
    throw ("failed to compile regular expression '" ++ textOf w ++ "': " ++ message)

def optionWord? (word name : String) (args : List Bytes) : Option (Reader (List Bytes)) :=
  let set (f : Course → Course) : Reader (List Bytes) := do
    changeCourse f
    pushTest (.always true)
    pure args
  match name with
  | "depth" => some do
    modify fun s => { s with ordered := true }
    set fun c => { c with insideFirst := true }
  | "d" => some do
    if (← get).warns then
      saying ("warning: the -d option is deprecated; please use -depth instead, because the " ++
        "latter is a POSIX-compliant feature.")
    modify fun s => { s with ordered := true }
    set fun c => { c with insideFirst := true }
  | "maxdepth" => some do
    let (n, rest) ← levels word args
    changeCourse fun c => { c with most := some n }
    pushTest (.always true)
    pure rest
  | "mindepth" => some do
    let (n, rest) ← levels word args
    changeCourse fun c => { c with least := n }
    pushTest (.always true)
    pure rest
  | "files0-from" => some do
    let (w, rest) ← argument word args
    changeCourse fun c => { c with list := some w }
    pushTest (.always true)
    pure rest
  | name =>
    if ["xdev", "mount", "noleaf", "ignore_readdir_race", "noignore_readdir_race"].contains name
    then some (set id) else none

def settingWord? (word name : String) (args : List Bytes) : Option (Reader (List Bytes)) :=
  let set (f : Inquiry → Inquiry) : Reader (List Bytes) := do
    modify f
    pushTest (.always true)
    pure args
  match name with
  | "follow" => some (set fun s => { s with course := { s.course with following := .all } })
  | "daystart" => some do
    let now := (← (getWorld : Action World)).now
    set fun s => { s with dayStart := now - now % 86400000 - 1 }
  | "warn" => some (set fun s => { s with warns := true })
  | "nowarn" => some (set fun s => { s with warns := false })
  | "regextype" => some do
    let (w, rest) ← argument word args
    match forms.lookup (textOf w) with
    | some form =>
      modify fun s => { s with form := form }
      pushTest (.always true)
      pure rest
    | none =>
      throw ("Unknown regular expression type " ++ quote w ++ "; valid types are " ++
        ", ".intercalate (forms.map fun f => "'" ++ f.1 ++ "'") ++ ".")
  | _ => none

def testWord? (word name : String) (args : List Bytes) : Option (Reader (List Bytes)) :=
  let plain (t : Test) : Option (Reader (List Bytes)) := some do
    pushTest t
    pure args
  match name with
  | "true" => plain (.always true)
  | "false" => plain (.always false)
  | "empty" => plain .empty
  | "executable" => plain .executable
  | "readable" => plain (.always true)
  | "writable" => plain (.always true)
  | "nouser" => plain (.always false)
  | "nogroup" => plain (.always false)
  | "name" => some do
    if args.any (·.contains 0x2F) ∧ (← get).warns ∧ (args.headD []).contains 0x2F then
      saying ("warning: '-name' matches against basenames only, but the given pattern contains " ++
        "a directory separator ('/'), thus the expression will evaluate to false all the time.  " ++
        "Did you mean '-wholename'?")
    patternOf word false args .name
  | "iname" => some (patternOf word true args .name)
  | "path" => some (patternOf word false args .path)
  | "wholename" => some (patternOf word false args .path)
  | "ipath" => some (patternOf word true args .path)
  | "iwholename" => some (patternOf word true args .path)
  | "lname" => some (patternOf word false args .target)
  | "ilname" => some (patternOf word true args .target)
  | "regex" => some (expressionOf word false args)
  | "iregex" => some (expressionOf word true args)
  | "links" => some (boundOf word args .links)
  | "inum" => some (boundOf word args .node)
  | "uid" => some (boundOf word args .owner)
  | "gid" => some (boundOf word args .group)
  | "mtime" => some (timeOf word true args)
  | "atime" => some (timeOf word true args)
  | "ctime" => some (timeOf word true args)
  | "mmin" => some (timeOf word false args)
  | "amin" => some (timeOf word false args)
  | "cmin" => some (timeOf word false args)
  | "perm" => some do
    let (w, rest) ← argument word args
    match bitsTest w with
    | .error message => throw message
    | .ok (t, warnings) =>
      for message in warnings do
        saying message
      pushTest t
      pure rest
  | "size" => some do
    let (w, rest) ← argument word args
    pushTest (← (sizeTest word w : Except String Test))
    pure rest
  | "type" => some (kinds false)
  | "xtype" => some (kinds true)
  | "user" => some do
    let (w, rest) ← argument word args
    if w.isEmpty then throw "The argument to -user should not be empty"
    match userNumber? (textOf w) with
    | some n =>
      pushTest (.owner ⟨.eq, n⟩)
      pure rest
    | none => throw (quote w ++ " is not the name of a known user")
  | "group" => some do
    let (w, rest) ← argument word args
    if w.isEmpty then throw "argument to -group is empty, but should be a group name"
    match groupNumber? (textOf w) with
    | some n =>
      pushTest (.group ⟨.eq, n⟩)
      pure rest
    | none => throw (quote w ++ " is not the name of an existing group")
  | "samefile" => some do
    let (w, rest) ← argument word args
    let (p, _) ← reference w
    pushTest (.node ⟨.eq, Listing.inode (← (get : Action Session)) p⟩)
    pure rest
  | "fstype" => some do
    let (w, rest) ← argument word args
    pushTest (.always (textOf w = "overlay"))
    pure rest
  | "used" => some do
    let (w, rest) ← argument word args
    match timeTest? 0 86400 w with
    | some (.within _ _) => pushTest (.always false)
    | some (.before _) => pushTest (.always false)
    | some (.after moment) => pushTest (.always (decide (moment < 0)))
    | none => throw ("Invalid argument " ++ textOf w ++ " to -used")
    pure rest
  | "context" => some do
    let _ ← argument word args
    throw "invalid predicate -context: SELinux is not enabled."
  | _ => none
where
  kinds (through : Bool) : Reader (List Bytes) := do
    let (w, rest) ← argument word args
    pushTest (.kind through (← (kindLetters word [] (textOf w).toList : Except String _)))
    pure rest

def newerWord? (word name : String) (args : List Bytes) : Option (Reader (List Bytes)) :=
  let than (moment : Int) (rest : List Bytes) : Reader (List Bytes) := do
    pushTest (.time (.after moment))
    pure rest
  let thanFile : Reader (List Bytes) := do
    let (w, rest) ← argument word args
    let (_, n) ← reference w
    than n.modified rest
  if ["newer", "anewer", "cnewer"].contains name then some thanFile
  else
    match name.toList with
    | ['n', 'e', 'w', 'e', 'r', x, y] =>
      if !("aBcm".toList.contains x && "aBcmt".toList.contains y) then
        some (throw ("invalid predicate \x60" ++ word ++ "'"))
      else if y = 't' then some do
        let (w, rest) ← argument word args
        let now := (← (getWorld : Action World)).now
        match Calendar.read? now (textOf w) with
        | some moment => than moment rest
        | none =>
          throw ("I cannot figure out how to interpret " ++ quote w ++ " as a date or time")
      else some thanFile
    | _ => none

def deedWord? (word name : String) (args : List Bytes) : Option (Reader (List Bytes)) :=
  let plain (d : Deed) : Option (Reader (List Bytes)) := some do
    pushDeed d
    pure args
  let toFile (deed : Sink → Deed) : Option (Reader (List Bytes)) := some do
    let (w, rest) ← argument word args
    pushDeed (deed (← sinkAt w))
    pure rest
  match name with
  | "print" => plain (.print .standard 0x0A)
  | "print0" => plain (.print .standard 0)
  | "ls" => plain (.list .standard)
  | "prune" => plain .prune
  | "quit" => plain .quit
  | "delete" => some do
    changeCourse fun c => { c with insideFirst := true }
    pushDeed .delete
    pure args
  | "fprint" => toFile (.print · 0x0A)
  | "fprint0" => toFile (.print · 0)
  | "fls" => toFile .list
  | "printf" => some do
    let (w, rest) ← argument word args
    pushDeed (.format .standard (← segments w))
    pure rest
  | "fprintf" => some do
    let (file, rest) ← argument word args
    let sink ← sinkAt file
    let (w, rest) ← argument word rest
    pushDeed (.format sink (← segments w))
    pure rest
  | "exec" => some (command word false false args)
  | "execdir" => some (command word true false args)
  | "ok" => some (command word false true args)
  | "okdir" => some (command word true true args)
  | _ => none

def joiningWord? (word name : String) : Option Query.Token :=
  match name with
  | "!" => some (.negation word)
  | "not" => some (.negation word)
  | "(" => some (.opening word true)
  | ")" => some (.closing true)
  | "," => some (.joint .sequence word)
  | "a" => some (.joint .both word)
  | "and" => some (.joint .both word)
  | "o" => some (.joint .either word)
  | "or" => some (.joint .either word)
  | _ => none

def isWord (leading : Bool) (w : Bytes) : Bool :=
  match w with
  | [c] => c = 0x21 || c = 0x28 || ((c = 0x29 || c = 0x2C) && !leading)
  | c :: _ => c = 0x2D
  | [] => false

def readWords : Nat → String → List Bytes → Reader Unit
  | 0, _, _ => pure ()
  | _, _, [] => pure ()
  | fuel + 1, before, w :: args => do
    let word := textOf w
    if !isWord false w then
      saying ("paths must precede expression: \x60" ++ word ++ "'")
      if (← (node? word : Action _)).isSome ∧ before ≠ "" then
        throw ("possible unquoted pattern after predicate \x60" ++ before ++ "'?")
      else throw ""
    else
      let name := if Text.startsWith "-" word then String.ofList (word.toList.drop 1) else word
      match optionWord? word name args with
      | some read =>
        let s ← get
        match s.tested with
        | some earlier =>
          if s.warns then
            saying ("warning: you have specified the global option " ++ word ++
              " after the argument " ++ earlier ++ ", but global options are not positional, " ++
              "i.e., " ++ word ++ " affects tests specified before it as well as those " ++
              "specified after it.  Please specify global options before other arguments.")
        | none => pure ()
        readWords fuel word (← read)
      | none =>
        match settingWord? word name args with
        | some read => readWords fuel word (← read)
        | none =>
          modify fun s => { s with tested := s.tested.orElse fun _ => some word }
          match joiningWord? word name with
          | some t =>
            push t
            readWords fuel word args
          | none =>
            match (testWord? word name args).orElse fun _ =>
                (newerWord? word name args).orElse fun _ => deedWord? word name args with
            | some read => readWords fuel word (← read)
            | none => throw ("unknown predicate \x60" ++ word ++ "'")

def leading (following : Following) : List Bytes → Except String (Following × List Bytes)
  | [] => .ok (following, [])
  | w :: rest =>
    match textOf w with
    | "-H" => leading .operands rest
    | "-L" => leading .all rest
    | "-P" => leading .none rest
    | "--" => .ok (following, rest)
    | "-D" =>
      match rest with
      | [] => .error "Missing argument after the -D option."
      | _ :: rest => leading following rest
    | word =>
      if Text.startsWith "-O" word then leading following rest else .ok (following, w :: rest)
termination_by words => words.length

end Inquiry
end CallChart.Shell.Tool
