import CallChart.Shell.Builtin.Test
import CallChart.Shell.Tool.Calendar
import CallChart.Shell.Tool.Report

namespace CallChart.Shell.Tool

open CallChart.Shell.Action

def withoutSuffix (suffix name : String) : String :=
  let cs := name.toList
  let ss := suffix.toList
  if ss.isSuffixOf cs ∧ ss.length < cs.length then String.ofList (cs.take (cs.length - ss.length))
  else name

def baseName (path : String) : String :=
  let bare := withoutSlashes path
  if bare = "/" then "/" else String.ofList (bare.toList.reverse.takeWhile (· ≠ '/')).reverse

def basename : Tool := withLeadingOptions ⟨"az", "s", [("multiple", 'a'), ("suffix=", 's'),
    ("zero", 'z')]⟩ 1 fun name g => do
  let ending : Bytes := [if g.has 'z' then 0 else 0x0A]
  let show' (suffix : String) (w : Bytes) : Action Unit :=
    output (bytesOf (withoutSuffix suffix (baseName (textOf w))) ++ ending)
  match g.operands with
  | [] => missingOperand name "operand"
  | w :: rest =>
    if g.has 'a' ∨ g.has 's' then
      for w in w :: rest do
        show' (textOf ((g.value? 's').getD [])) w
      pure 0
    else
      match rest with
      | [] =>
        show' "" w
        pure 0
      | [suffix] =>
        show' (textOf suffix) w
        pure 0
      | _ :: extra :: _ => extraOperand name extra

def dirname : Tool := withLeadingOptions ⟨"z", "", [("zero", 'z')]⟩ 1 fun name g => do
  if g.operands.isEmpty then missingOperand name "operand"
  else
    for w in g.operands do
      let path := textOf w
      let shown := if withoutSlashes path = "/" then "/" else pathBefore path
      output (bytesOf shown ++ [if g.has 'z' then 0 else 0x0A])
    pure 0

def isPortable (b : UInt8) : Bool := ByteClass.isAlnum b || [0x2E, 0x5F, 0x2D].contains b

def pathchk : Tool := withOptions ⟨"pP", "", [("portability", '\x02')]⟩ 1 fun name g => do
  let strict := g.has 'p' ∨ g.has '\x02'
  let extra := g.has 'P' ∨ g.has '\x02'
  if g.operands.isEmpty then missingOperand name "operand"
  else eachOperand g.operands fun w => do
    let path := textOf w
    let steps := Files.strides path
    let limit := if strict then 14 else Files.nameLimit
    match if extra then steps.find? (Text.startsWith "-" ·) else none with
    | some _ => refuse name ("leading '-' in a component of file name " ++ quoted w)
    | none =>
      if (strict ∨ extra) ∧ w.isEmpty then refuse name "empty file name"
      else
        match if strict then w.find? fun b => !(isPortable b || b == 0x2F) else none with
        | some b =>
          refuse name ("non-portable character " ++ quote [b] ++ " in file name " ++ quoted w)
        | none =>
          match steps.find? fun s => limit < s.utf8ByteSize with
          | some s =>
            refuse name ("limit " ++ toString limit ++ " exceeded by length " ++
              toString s.utf8ByteSize ++ " of file name component " ++ quotedText s)
          | none =>
            if strict ∧ 255 < w.length then
              refuse name ("limit 255 exceeded by length " ++ toString w.length ++
                " of file name " ++ quoted w)
            else if strict then pure true
            else
              match ← linkAt path with
              | .error .notFound =>
                if w.isEmpty then refuse name "'': No such file or directory" else pure true
              | .error fault => refuse name (named w ++ ": " ++ fault.reason)
              | .ok _ => pure true

def isHexByte (b : UInt8) : Bool := ByteClass.isHex b

def hexValue (bs : Bytes) : Nat :=
  bs.foldl (fun n b => n * 16 + (if ByteClass.isDigit b then b.toNat - 0x30
    else (b.toNat - 0x41) % 0x20 + 10)) 0

def unescapedText : Nat → Bytes → Bytes × Bool
  | 0, bs => (bs, false)
  | _, [] => ([], false)
  | fuel + 1, b :: rest =>
    let more (bs rest : Bytes) : Bytes × Bool :=
      let (tail, ends) := unescapedText fuel rest
      (bs ++ tail, ends)
    if b ≠ 0x5C then more [b] rest
    else
      match rest with
      | [] => ([b], false)
      | c :: after =>
        if c = 0x63 then ([], true)
        else if c = 0x30 then
          let (n, after) := Format.octals 3 0 after
          more [UInt8.ofNat n] after
        else if c = 0x78 ∧ (after.head?.map isHexByte).getD false then
          let ds := (after.takeWhile isHexByte).take 2
          more [UInt8.ofNat (hexValue ds)] (after.drop ds.length)
        else
          match Format.octal? c, Format.escaped? c with
          | some _, _ =>
            let (n, after) := Format.octals 3 0 rest
            more [UInt8.ofNat n] after
          | none, some e => more [e] after
          | none, none => more [b, c] after

def echo : Tool := fun _ words => do
  let isOption (w : Bytes) : Bool :=
    match w with
    | 0x2D :: letters => !letters.isEmpty && letters.all fun b => (bytesOf "neE").contains b
    | _ => false
  let options := words.takeWhile isOption
  let letters := (options.flatMap (·.drop 1)).filter (· ≠ 0x6E)
  let text := List.intercalate [0x20] (words.drop options.length)
  let newline : Bytes := if options.any (·.contains 0x6E) then [] else [0x0A]
  if letters.getLast? = some 0x65 then
    let (text, ends) := unescapedText (text.length + 1) text
    output (if ends then text else text ++ newline)
  else output (text ++ newline)
  pure 0

structure Printout where
  arguments : List Bytes
  output : List Bytes
  complaints : List String
  wrong : Bool
  ended : Bool
  used : Bool

namespace Printout

def put (p : Printout) (bs : Bytes) : Printout := { p with output := bs :: p.output }

def complain (p : Printout) (message : String) : Printout :=
  { p with complaints := message :: p.complaints, wrong := true }

def stop (p : Printout) (message : String) : Printout :=
  { p.complain message with ended := true }

def next (p : Printout) : Bytes × Printout :=
  match p.arguments with
  | [] => ([], { p with used := true })
  | a :: rest => (a, { p with arguments := rest, used := true })

def noteFault (p : Printout) (text : Bytes) : Option Format.Fault → Printout
  | none => p
  | some .missing => p.complain (quote text ++ ": expected a numeric value")
  | some .followed => p.complain (quote text ++ ": value not completely converted")
  | some .range => p.complain (quote text ++ ": Numerical result out of range")

def escape (p : Printout) (bs : Bytes) : Printout × Bytes :=
  match bs with
  | [] => (p.put [0x5C], [])
  | c :: rest =>
    if c = 0x63 then ({ p with ended := true }, [])
    else if c = 0x22 then (p.put [c], rest)
    else if c = 0x78 then
      let ds := (rest.takeWhile isHexByte).take 2
      if ds.isEmpty then (p.stop "missing hexadecimal number in escape", [])
      else (p.put [UInt8.ofNat (hexValue ds)], rest.drop ds.length)
    else if c = 0x75 ∨ c = 0x55 then
      let count := if c = 0x75 then 4 else 8
      let ds := (rest.takeWhile isHexByte).take count
      if ds.length < count then (p.stop "missing hexadecimal number in escape", [])
      else
        let n := hexValue ds
        let shown := if n < 0x80 then [UInt8.ofNat n]
          else 0x5C :: c :: bytesOf (String.ofList
            ((Nat.toDigits 16 n).map Char.toUpper |> fun cs =>
              List.replicate (count - cs.length) '0' ++ cs))
        (p.put shown, rest.drop ds.length)
    else
      match Format.octal? c, Format.escaped? c with
      | some _, _ =>
        let (n, after) := Format.octals 3 0 (c :: rest)
        (p.put [UInt8.ofNat n], after)
      | none, some e => (p.put [e], rest)
      | none, none => (p.put [0x5C, c], rest)

def fill (p : Printout) (flags : Bytes) (width : Int) (precision : Option Nat) (kind : UInt8) :
    Printout :=
  let (a, p) := p.next
  let cut (bs : Bytes) : Bytes := match precision with
    | some n => bs.take n
    | none => bs
  if kind = 0x73 then p.put (Format.padded flags width (cut a))
  else if kind = 0x63 then p.put (Format.padded flags width (a.take 1))
  else if (bytesOf "eEfFgG").contains kind then
    let (x, fault) := Format.fractional a
    (p.noteFault a fault).put (Format.fraction kind flags width precision x)
  else
    let (n, fault) := Format.wholeNumber (kind = 0x64 || kind = 0x69) a
    (p.noteFault a fault).put (Format.integer kind flags width precision n)

def measure (p : Printout) (bs : Bytes) : Option Int × Printout × Bytes :=
  match bs with
  | 0x2A :: rest =>
    let (a, p) := p.next
    let (n, fault) := Format.wholeNumber true a
    (some n, p.noteFault a fault, rest)
  | bs =>
    let ds := bs.takeWhile ByteClass.isDigit
    (if ds.isEmpty then none else some (((digits? ds).getD 0 : Nat) : Int), p, bs.drop ds.length)

def run : Nat → Printout → Bytes → Printout
  | 0, p, _ => p
  | _, p, [] => p
  | fuel + 1, p, b :: rest =>
    if p.ended then p
    else if b = 0x5C then
      let (p, rest) := p.escape rest
      run fuel p rest
    else if b ≠ 0x25 then run fuel (p.put [b]) rest
    else
      match rest with
      | 0x25 :: rest => run fuel (p.put [0x25]) rest
      | 0x62 :: rest =>
        let (a, p) := p.next
        let (text, ends) := unescapedText (a.length + 1) a
        run fuel { p.put text with ended := ends } rest
      | 0x71 :: rest =>
        let (a, p) := p.next
        run fuel (p.put (bytesOf (named a))) rest
      | rest =>
        let flags := rest.takeWhile (bytesOf "'-+ #0").contains
        let (width, p, after) := p.measure (rest.drop flags.length)
        let (precision, p, after) := match after with
          | 0x2E :: more =>
            match p.measure more with
            | (none, p, more) => (some 0, p, more)
            | r => r
          | after => ((none : Option Int), p, after)
        let after := after.dropWhile (bytesOf "lLhjtz").contains
        let has (c : Char) : Bool := flags.contains (UInt8.ofNat c.toNat)
        let refused : Bytes :=
          (if has '\'' then bytesOf "aAceEosxX" else []) ++
          (if has '+' ∨ has ' ' then bytesOf "cosuxX" else []) ++
          (if has '#' then bytesOf "cdisu" else []) ++ (if has '0' then bytesOf "cs" else []) ++
          (if precision.isSome then bytesOf "c" else [])
        match after with
        | kind :: more =>
          if (bytesOf "cdiouxXeEfFgGs").contains kind ∧ !refused.contains kind then
            let precision : Option Nat := precision.bind fun n => if n < 0 then none
              else some n.toNat
            run fuel (p.fill flags (width.getD 0) precision kind) more
          else
            p.stop (textOf (0x25 :: rest.take (rest.length - more.length)) ++
              ": invalid conversion specification")
        | [] => p.stop (textOf (0x25 :: rest) ++ ": invalid conversion specification")

def rounds (format : Bytes) : Nat → Printout → Printout
  | 0, p => p
  | fuel + 1, p =>
    let q := run (format.length + 1) { p with used := false } format
    if q.ended ∨ q.arguments.isEmpty ∨ !q.used then q else rounds format fuel q

end Printout

def printf : Tool := fun name words => do
  let words := if words.head? = some (bytesOf "--") then words.drop 1 else words
  match words with
  | [] => missingOperand name "operand"
  | format :: arguments =>
    let p := Printout.rounds format (arguments.length + 1) ⟨arguments, [], [], false, false, false⟩
    for message in p.complaints.reverse do
      say name message
    match p.arguments with
    | w :: _ =>
      if !p.ended then say name ("warning: ignoring excess arguments, starting with " ++ quote w)
    | [] => pure ()
    output p.output.reverse.flatten
    pure (if p.wrong then 1 else 0)

namespace Test

abbrev Reader := StateT (List Bytes) (Except String)

def isUnary (w : Bytes) : Bool :=
  match textOf w |>.toList with
  | ['-', c] => "erwxNOGfdsScbpLhugktnz".toList.contains c
  | _ => false

def isDashed (w : Bytes) : Bool :=
  match w with
  | [0x2D, _] => true
  | _ => false

def isBinary (w : Bytes) : Bool :=
  ["=", "==", "!=", "-nt", "-ot", "-ef", "-eq", "-ne", "-lt", "-le", "-gt", "-ge"].contains
    (textOf w)

def take : Reader Bytes := do
  match ← get with
  | w :: rest =>
    set rest
    pure w
  | [] => pure []

def integer (w : Bytes) : Except String Int :=
  let blank (b : UInt8) : Bool := ByteClass.isSpace b
  let body := ((w.dropWhile blank).reverse.dropWhile blank).reverse
  let (negative, ds) := match body with
    | 0x2D :: rest => (true, rest)
    | 0x2B :: rest => (false, rest)
    | ds => (false, ds)
  match digits? ds with
  | some n => .ok (if negative then -(n : Int) else n)
  | none => .error ("invalid integer " ++ quote w)

def unary (s : Session) (op w : Bytes) : Except String Bool := do
  match textOf op |>.toList with
  | [_, 'n'] => pure !w.isEmpty
  | [_, 'z'] => pure w.isEmpty
  | [_, 't'] =>
    let _ ← integer w
    pure false
  | [_, c] => pure (Condition.fileHas s c w)
  | _ => pure false

def binary (s : Session) (a op b : Bytes) : Except String Bool := do
  let numbers (f : Int → Int → Bool) : Except String Bool := do
    pure (f (← integer a) (← integer b))
  let older (a b : Bytes) : Bool :=
    match Condition.nodeAt s true a, Condition.nodeAt s true b with
    | some m, some n => m.modified < n.modified
    | none, some _ => true
    | _, _ => false
  match textOf op with
  | "!=" => pure (a != b)
  | "-nt" => pure (older b a)
  | "-ot" => pure (older a b)
  | "-ef" => pure (Condition.sameFile s a b)
  | "-eq" => numbers fun m n => m == n
  | "-ne" => numbers fun m n => m != n
  | "-lt" => numbers fun m n => m < n
  | "-le" => numbers fun m n => m ≤ n
  | "-gt" => numbers fun m n => n < m
  | "-ge" => numbers fun m n => n ≤ m
  | _ => pure (a == b)

def beyond {α : Type} (last : Bytes) : Reader α := throw ("missing argument after " ++ quote last)

def closing : Bytes := [0x29]

mutual

def counted (s : Session) (last : Bytes) : Nat → Nat → Reader Bool
  | 0, _ => throw "too deep"
  | fuel + 1, count => do
    let ws ← get
    match count, ws with
    | 1, w :: rest =>
      set rest
      pure !w.isEmpty
    | 2, [a, b] => two s last fuel a b []
    | 2, a :: b :: rest => two s last fuel a b rest
    | 3, a :: b :: c :: rest => three s last fuel a b c rest
    | 4, a :: b :: c :: d :: rest =>
      if a = [0x21] then
        set (b :: c :: d :: rest)
        let r ← counted s last fuel 3
        pure !r
      else if a = [0x28] ∧ d = closing then
        set (b :: c :: d :: rest)
        let r ← counted s last fuel 2
        set rest
        pure r
      else either s last fuel
    | _, _ => either s last fuel

def two (s : Session) (last : Bytes) : Nat → Bytes → Bytes → List Bytes → Reader Bool
  | 0, _, _, _ => throw "too deep"
  | _ + 1, a, b, rest => do
    if a = [0x21] then
      set rest
      pure b.isEmpty
    else if isDashed a then
      if isUnary a then
        set rest
        (unary s a b : Except String Bool)
      else throw (quote a ++ ": unary operator expected")
    else beyond last

def three (s : Session) (last : Bytes) :
    Nat → Bytes → Bytes → Bytes → List Bytes → Reader Bool
  | 0, _, _, _, _ => throw "too deep"
  | fuel + 1, a, b, c, rest => do
    if isBinary b then
      set rest
      (binary s a b c : Except String Bool)
    else if a = [0x21] then
      let r ← two s last fuel b c rest
      pure !r
    else if a = [0x28] ∧ c = closing then
      set rest
      pure !b.isEmpty
    else if textOf b = "-a" ∨ textOf b = "-o" then either s last fuel
    else throw (quote b ++ ": binary operator expected")

def either (s : Session) (last : Bytes) : Nat → Reader Bool
  | 0 => throw "too deep"
  | fuel + 1 => do
    let a ← both s last fuel
    match ← get with
    | w :: rest =>
      if textOf w = "-o" then
        set rest
        let b ← either s last fuel
        pure (a || b)
      else pure a
    | [] => pure a

def both (s : Session) (last : Bytes) : Nat → Reader Bool
  | 0 => throw "too deep"
  | fuel + 1 => do
    let a ← term s last fuel
    match ← get with
    | w :: rest =>
      if textOf w = "-a" then
        set rest
        let b ← both s last fuel
        pure (a && b)
      else pure a
    | [] => pure a

def term (s : Session) (last : Bytes) : Nat → Reader Bool
  | 0 => throw "too deep"
  | fuel + 1 => do
    match ← get with
    | [] => beyond last
    | w :: rest =>
      if w = [0x21] then
        set rest
        let r ← term s last fuel
        pure !r
      else if w = [0x28] then
        set rest
        if rest.isEmpty then beyond last
        let inner := (rest.takeWhile (· ≠ closing)).length
        let r ← counted s last fuel (if 4 < inner then rest.length else max inner 1)
        match ← get with
        | c :: rest =>
          if c = closing then
            set rest
            pure r
          else throw ("')' expected, found " ++ quote c)
        | [] => throw "')' expected"
      else
        match rest with
        | op :: b :: more =>
          if isBinary op then
            set more
            (binary s w op b : Except String Bool)
          else single w rest
        | _ => single w rest
where
  single (w : Bytes) (rest : List Bytes) : Reader Bool := do
    if isDashed w then
      if !isUnary w then throw (quote w ++ ": unary operator expected")
      else
        match rest with
        | x :: more =>
          set more
          (unary s w x : Except String Bool)
        | [] => beyond last
    else
      set rest
      pure !w.isEmpty

end

def check (s : Session) (words : List Bytes) : Except String Bool := do
  if words.isEmpty then pure false
  else
    let (r, rest) ←
      (counted s (words.getLastD []) (8 * words.length + 16) words.length).run words
    match rest with
    | w :: _ => throw ("extra argument " ++ quote w)
    | [] => pure r

end Test

def test (bracket : Bool) : Tool := fun name words => do
  if bracket ∧ words.getLast? ≠ some [0x5D] then
    say name "missing ']'"
    pure 2
  else
    match Test.check (← get) (if bracket then words.dropLast else words) with
    | .ok true => pure 0
    | .ok false => pure 1
    | .error message =>
      say name message
      pure 2

def pwd : Tool := withOptions ⟨"LP", "", [("logical", 'L'), ("physical", 'P')]⟩ 1 fun name g => do
  if !g.operands.isEmpty then say name "ignoring non-option arguments"
  let s ← get
  let real := Disk.written s.directory
  if g.last? ['L', 'P'] = some 'L' then
    let told := textOf ((← valueOf? "PWD").getD [])
    let fits := match ← entryAt told with
      | .ok (p, _) => p = s.directory && Text.startsWith "/" told
      | .error _ => false
    putLine (if fits then told else real)
  else putLine real
  pure 0

def hostName : String := "localhost"

def machine : String := "x86_64"

def uname : Tool := withOptions ⟨"asnrvmpio", "", [("all", 'a'), ("hardware-platform", 'i'),
    ("kernel-name", 's'), ("kernel-release", 'r'), ("kernel-version", 'v'), ("machine", 'm'),
    ("nodename", 'n'), ("operating-system", 'o'), ("processor", 'p'), ("release", 'r'),
    ("sysname", 's')]⟩ 1 fun name g => do
  match g.operands with
  | w :: _ => extraOperand name w
  | [] =>
    let all := g.has 'a'
    let part (c : Char) (inAll : Bool) (text : String) : List String :=
      if g.has c ∨ (all ∧ inAll) ∨ (c = 's' ∧ g.options.isEmpty) then [text] else []
    putLine (" ".intercalate (part 's' true "Linux" ++ part 'n' true hostName ++
      part 'r' true "6.1.0" ++ part 'v' true "#1 SMP" ++ part 'm' true machine ++
      part 'p' false "unknown" ++ part 'i' false "unknown" ++ part 'o' true "GNU/Linux"))
    pure 0

def answer (flags : Known) (text : String) : Tool := withOptions flags 1 fun name g => do
  match g.operands with
  | w :: _ => extraOperand name w
  | [] =>
    putLine text
    pure 0

def nproc : Tool := answer ⟨"", "", [("all", 'a'), ("ignore=", 'i')]⟩ "1"

def logname : Tool := withOptions ⟨"", "", []⟩ 1 fun name g => do
  match g.operands with
  | w :: _ => extraOperand name w
  | [] =>
    say name "no login name"
    pure 1

def tty : Tool := withOptions ⟨"s", "", [("quiet", 's'), ("silent", 's')]⟩ 2 fun name g => do
  match g.operands with
  | w :: _ => misuse name ("extra operand " ++ quoted w) 2
  | [] =>
    if !g.has 's' then putLine "not a tty"
    pure 1

def user? (w : Bytes) : Option System.User :=
  let text := textOf w
  System.users.find? fun u => u.name == text || toString u.number == text

def id : Tool := withOptions ⟨"aGgnruzZ", "", [("context", 'Z'), ("group", 'g'), ("groups", 'G'),
    ("name", 'n'), ("real", 'r'), ("user", 'u'), ("zero", 'z')]⟩ 1 fun name g => do
  let kinds := ['u', 'g', 'G'].filter g.has
  if 1 < kinds.length then
    misuse name "cannot print \"only\" of more than one choice" 1
  else if kinds.isEmpty ∧ (g.has 'n' ∨ g.has 'r') then
    misuse name "cannot print only names or real IDs in default format" 1
  else
    let operands := if g.operands.isEmpty then [bytesOf "root"] else g.operands
    eachOperand operands fun w => do
      match user? w with
      | none => refuse name (quote w ++ ": no such user")
      | some u =>
        let group := if u.name = "sync" then 65534 else if u.name = "games" then 60
          else if u.name = "man" then 12 else u.number
        let shown (named : Nat → String) (n : Nat) : String := if g.has 'n' then named n
          else toString n
        putLine (match kinds with
          | ['u'] => shown userName u.number
          | _ :: _ => shown groupName group
          | [] =>
            "uid=" ++ toString u.number ++ "(" ++ u.name ++ ") gid=" ++ toString group ++ "(" ++
              groupName group ++ ") groups=" ++ toString group ++ "(" ++ groupName group ++ ")")
        pure true

def whoami : Tool := answer ⟨"", "", []⟩ "root"

def groups : Tool := withOptions ⟨"", "", []⟩ 1 fun name g => do
  if g.operands.isEmpty then
    putLine "root"
    pure 0
  else eachOperand g.operands fun w => do
    match user? w with
    | none => refuse name (quote w ++ ": no such user")
    | some u =>
      putLine (textOf w ++ " : " ++ groupName u.number)
      pure true

def sync : Tool := withOptions ⟨"df", "", [("data", 'd'), ("file-system", 'f')]⟩ 1 fun name g =>
  eachOperand g.operands fun w => do
    match ← present true (textOf w) with
    | .ok _ => pure true
    | .error fault => refuse name ("error opening " ++ quoted w ++ ": " ++ fault.reason)

def which : Tool := fun _ words => do
  let all := words.head? = some (bytesOf "-a")
  let names := (if all then words.drop 1 else words).filter fun w => w ≠ bytesOf "--"
  if names.isEmpty then pure 1
  else
    let path := textOf ((← valueOf? "PATH").getD [])
    let results ← names.mapM fun w => do
      let called := textOf w
      let places := if called.toList.contains '/' then [called]
        else (Text.split ':' path).map fun d => Files.joined (if d = "" then "." else d) called
      let found ← places.filterM fun place => do
        pure (match ← node? place with
          | some n => n.isFile && n.isExecutable
          | none => false)
      for place in if all then found else found.take 1 do
        putLine place
      pure !found.isEmpty
    pure (if results.all (fun b => b) then 0 else 1)

def date : Tool := withOptions ⟨"Ru", "dfI?rs", [("date=", 'd'), ("debug", '\x02'), ("file=", 'f'),
    ("iso-8601?", '\x03'), ("reference=", 'r'), ("resolution", '\x05'), ("rfc-3339=", '\x04'),
    ("rfc-email", 'R'), ("set=", 's'), ("universal", 'u'), ("utc", 'u')]⟩ 1 fun name g => do
  let now := (← getWorld).now
  let usual := "%a %b %e %H:%M:%S %Z %Y"
  let isoFormat (w : Bytes) : Option String :=
    match choice? ["date", "hours", "minutes", "seconds", "ns"] w with
    | some "hours" => some "%Y-%m-%dT%H%:z"
    | some "minutes" => some "%Y-%m-%dT%H:%M%:z"
    | some "seconds" => some "%Y-%m-%dT%H:%M:%S%:z"
    | some "ns" => some "%Y-%m-%dT%H:%M:%S,%N%:z"
    | some _ => some "%Y-%m-%d"
    | none => if w.isEmpty then some "%Y-%m-%d" else none
  let standard : Option String := match g.last? ['I', '\x03', '\x04', 'R'] with
    | some 'R' => some "%a, %d %b %Y %H:%M:%S %z"
    | some '\x04' =>
      match choice? ["date", "seconds", "ns"] ((g.value? '\x04').getD []) with
      | some "date" => some "%Y-%m-%d"
      | some "ns" => some "%Y-%m-%d %H:%M:%S.%N%:z"
      | _ => some "%Y-%m-%d %H:%M:%S%:z"
    | some c => isoFormat ((g.value? c).getD [])
    | none => none
  let wrongDate (w : Bytes) : Action Nat := do
    say name ("invalid date " ++ quote w)
    pure 1
  let shown (format : String) (ms : Int) : Action Unit :=
    putLine (Calendar.format ms format.toList)
  match g.operands with
  | _ :: extra :: _ => extraOperand name extra
  | operands =>
    match operands.head? with
    | some w =>
      if w.head? ≠ some 0x2B then wrongDate w
      else body shown wrongDate name g now (String.ofList ((textOf w).toList.drop 1))
    | none => body shown wrongDate name g now (standard.getD usual)
where
  body (shown : String → Int → Action Unit) (wrongDate : Bytes → Action Nat) (name : String)
      (g : Given) (now : Int) (format : String) : Action Nat := do
    match g.value? 'd', g.value? 'r', g.value? 'f' with
    | some w, _, _ =>
      match Calendar.read? now (textOf w) with
      | some ms =>
        shown format ms
        pure 0
      | none => wrongDate w
    | none, some r, _ =>
      match ← present true (textOf r) with
      | .ok (_, n) =>
        shown format n.modified
        pure 0
      | .error fault =>
        say name (named r ++ ": " ++ fault.reason)
        pure 1
    | none, none, some f =>
      match ← contents name f with
      | none => pure 1
      | some bytes =>
        eachOperand (linesOf bytes) fun line => do
          match Calendar.read? now (textOf line) with
          | some ms =>
            shown format ms
            pure true
          | none =>
            let _ ← wrongDate line
            pure false
    | none, none, none =>
      match g.value? 's' with
      | some w =>
        match Calendar.read? now (textOf w) with
        | some ms =>
          say name "cannot set date: Operation not permitted"
          shown format ms
          pure 1
        | none => wrongDate w
      | none =>
        shown format now
        pure 0

def factorsFrom : Nat → Nat → Nat → List Nat
  | 0, _, n => if n = 1 then [] else [n]
  | fuel + 1, d, n =>
    if n = 1 then []
    else if n < d * d then [n]
    else if n % d = 0 then d :: factorsFrom fuel d (n / d)
    else factorsFrom fuel (if d = 2 then 3 else d + 2) n

def factorLimit : Nat := 4000000

def factor : Tool := withLeadingOptions ⟨"h", "", [("exponents", 'h')]⟩ 1 fun name g => do
  let show' (w : Bytes) : Action Bool := do
    let body := w.dropWhile ByteClass.isBlank
    let body := if body.head? = some 0x2B then body.drop 1 else body
    match digits? body with
    | none => refuse name (quote w ++ " is not a valid positive integer")
    | some n =>
      let factors := if n < 2 then [] else factorsFrom factorLimit 2 n
      putLine (toString n ++ ":" ++ String.join (factors.map fun p => " " ++ toString p))
      pure true
  if g.operands.isEmpty then
    match ← streamOf 0 with
    | none => pure 1
    | some id =>
      let words := ((← readStream id).map fun b => if ByteClass.isSpace b then 0x0A else b)
      eachOperand ((linesOf words).filter (!·.isEmpty)) show'
  else eachOperand g.operands show'

def optionQuoted (w : Bytes) : String :=
  "'" ++ String.join (w.map fun b => if b = 0x27 then "'\\''" else textOf [b]) ++ "'"

def describedOptions (text : String) : String × String :=
  let rec go : List Char → List Char × List Char
    | c :: ':' :: ':' :: rest =>
      let (a, b) := go rest
      (a, c :: '?' :: b)
    | c :: ':' :: rest =>
      let (a, b) := go rest
      (a, c :: b)
    | c :: rest =>
      let (a, b) := go rest
      (c :: a, b)
    | [] => ([], [])
  let (a, b) := go text.toList
  (String.ofList a, String.ofList b)

def getopt : Tool := fun name words => do
  let own : Known := ⟨"aqQTuhV", "olns",
    [("alternative", 'a'), ("longoptions=", 'l'), ("name=", 'n'),
    ("options=", 'o'), ("quiet", 'q'), ("quiet-output", 'Q'), ("shell=", 's'), ("test", 'T'),
    ("unquoted", 'u')]⟩
  let old : Bool := match words.head? with
    | some w => w.head? != some 0x2D
    | none => false
  let run (options : String) (long : List String) (g : Given) (rest : List Bytes) : Action Nat := do
    let strict := Text.startsWith "+" options
    let plainText := String.ofList (options.toList.dropWhile fun c => c = '+' || c = '-')
    let (flags, valued) := describedOptions plainText
    let longNames := long.zipIdx.map fun (l, i) =>
      let bare := String.ofList (l.toList.filter (· ≠ ':'))
      let mark := if l.toList.reverse.take 2 = [':', ':'] then "?"
        else if l.toList.getLast? = some ':' then "=" else ""
      (bare ++ mark, Char.ofNat (0xE000 + i), bare)
    let known : Known := ⟨flags, valued, longNames.map fun (l, c, _) => (l, c)⟩
    let called := textOf ((g.value? 'n').getD (bytesOf name))
    let unquoted := old || g.has 'u'
    let shown (w : Bytes) : String := if unquoted then textOf w else optionQuoted w
    let takes (c : Char) : Bool := (known.valueOf? c).isSome
    let written (given : Given) : String :=
      String.join (given.options.map fun (c, v) =>
        match longNames.find? fun (_, d, _) => d == c with
        | some (l, _, bare) =>
          " --" ++ bare ++ if l.length = bare.length then "" else " " ++ shown v
        | none => " -" ++ c.toString ++ if takes c then " " ++ shown v else "") ++
        " --" ++ String.join (given.operands.map fun w => " " ++ shown w)
    match parse known strict (rest.length + 1) rest with
    | .ok given =>
      if !g.has 'Q' then putLine (written given)
      pure 0
    | .error message =>
      if !g.has 'q' then say called message
      let good := (rest.filter fun w => (parse known strict 2 [w]).toOption.isSome)
      match parse known strict (good.length + 1) good with
      | .ok given => if !g.has 'Q' then putLine (written given)
      | .error _ => if !g.has 'Q' then putLine " --"
      pure 1
  if words.isEmpty then
    say name "missing optstring argument"
    sayTry name
    pure 2
  else if old then
    let rest := words.drop 1
    run (textOf (words.headD [])) [] ⟨[], []⟩
      (if rest.head? = some (bytesOf "--") then rest.drop 1 else rest)
  else
    match parse own true (words.length + 1) words with
    | .error message => misuse name message 2
    | .ok g =>
      if g.has 'T' then pure 4
      else
        match g.value? 'o', g.operands with
        | some options, operands =>
          run (textOf options) ((g.values 'l').flatMap fun w =>
            (Text.split ',' (textOf w)).filter (· ≠ "")) g operands
        | none, w :: rest => run (textOf w) [] g rest
        | none, [] => misuse name "missing optstring argument" 2

end CallChart.Shell.Tool
