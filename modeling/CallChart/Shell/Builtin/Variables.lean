import CallChart.Shell.Builtin.Basic

namespace CallChart.Shell.Builtin

open CallChart.Shell.Action

def showVariables (before : String) (chosen : Variable → Bool) : Action Unit := do
  let shown := (← get).bindings.filter (chosen ·.2)
  for (name, v) in shown.mergeSort (fun a b => textLE a.1 b.1) do
    let value := match v.value with
      | some value => 0x3D :: quotedBytes value
      | none => []
    output (bytesOf (before ++ name) ++ value ++ [0x0A])

def checkName (name : String) : Action Unit := do
  if !isName name.toList then fail (name ++ ": bad variable name")

def exportNames (fixed : Bool) : Builtin := fun words => do
  let (given, names) ← flags "p" words
  if !given.isEmpty ∨ names.isEmpty then
    showVariables (if fixed then "readonly " else "export ") fun v =>
      if fixed then v.fixed else v.exported
  else
    for w in names do
      let (name, value) := splitAssignment w
      checkName name
      match value with
      | some v => assign name v
      | none => pure ()
      let old := ((← get).bindings.lookup name).getD ⟨none, false, false⟩
      putVariable name (some (if fixed then { old with fixed := true }
        else { old with exported := true }))
  pure 0

def unsetNames : Builtin := fun words => do
  let (given, words) ← flags "fv" words
  for w in words do
    let name := textOf w
    if given.getLast? = some 'f' then
      modify fun s => { s with functions := s.functions.filter (·.1 ≠ name) }
    else
      checkName name
      if ((← get).bindings.lookup name).isSome then change name fun _ => none
  pure 0

def setLocal : Builtin := fun words => do
  match (← get).kept with
  | [] => fail "not in a function"
  | _ =>
    for w in words do
      match (← get).kept with
      | [] => pure ()
      | (frame, switches) :: frames =>
        let (name, value) := splitAssignment w
        if name = "-" then
          let s ← get
          set { s with kept := (frame, some (switches.getD s.switches)) :: frames }
        else
          checkName name
          if (frame.lookup name).isNone then
            modify fun s =>
              { s with kept := ((name, s.bindings.lookup name) :: frame, switches) :: frames }
          match value with
          | some v => assign name v
          | none => pure ()
    pure 0

def splitField (separators : Bytes) (ms : List Marked) : List Marked × List Marked :=
  let isSeparator (m : Marked) : Bool := !m.1 && separators.contains m.2
  let isBlank (m : Marked) : Bool := isSeparator m && Fields.isBlank m.2
  let field := ms.takeWhile (!isSeparator ·)
  let rest := (ms.drop field.length).dropWhile isBlank
  let hadBlank := (ms[field.length]?.map isBlank).getD false
  let rest := match rest with
    | m :: more =>
      if isSeparator m ∧ (hadBlank ∨ rest.length + field.length = ms.length) then
        more.dropWhile isBlank
      else m :: more
    | [] => []
  (field, rest)

def fieldsFor (separators : Bytes) : List String → List Marked → List (String × Bytes)
  | [], _ => []
  | [name], ms =>
    let isBlank (m : Marked) : Bool := !m.1 && separators.contains m.2 && Fields.isBlank m.2
    let (field, rest) := splitField separators ms
    let whole := if rest.isEmpty then field else ((ms.reverse).dropWhile isBlank).reverse
    [(name, whole.map (·.2))]
  | name :: names, ms =>
    let (field, rest) := splitField separators ms
    (name, field.map (·.2)) :: fieldsFor separators names rest

def readMarked (id : Nat) (raw : Bool) : Nat → Action (List Marked × Bool)
  | 0 => pure ([], true)
  | fuel + 1 => do
    let (line, ended) ← takeLine id
    let line := line.filter (· ≠ 0)
    if raw then pure (line.map (false, ·), ended)
    else
      let (ms, open') := marks line
      if open' ∧ ended then
        let (more, ended) ← readMarked id raw fuel
        pure (ms ++ more, ended)
      else pure (ms, ended)
where
  marks : Bytes → List Marked × Bool
    | [] => ([], false)
    | [0x5C] => ([], true)
    | 0x5C :: b :: rest =>
      let (ms, open') := marks rest
      ((true, b) :: ms, open')
    | b :: rest =>
      let (ms, open') := marks rest
      ((false, b) :: ms, open')

def joinedLimit : Nat := 1048576

def readVariables : Builtin := fun words => do
  let (given, names) ← options "r" "p" (words.length + 1) words
  if names.isEmpty then fail "arg count"
  let raw := given.any (·.1 == 'r')
  let (ms, ended) ← match ← streamOf 0 with
    | none => pure ([], false)
    | some id => readMarked id raw joinedLimit
  let separators ← separators
  let isBlank (m : Marked) : Bool := !m.1 && separators.contains m.2 && Fields.isBlank m.2
  for (name, value) in fieldsFor separators (names.map textOf) (ms.dropWhile isBlank) do
    checkName name
    assign name value
  pure (if ended then 0 else 1)

def turn (switch : Switch) (on : Bool) : Action Unit :=
  modify fun s =>
    let others := s.switches.filter (· ≠ switch)
    { s with switches := if on then switch :: others else others }

def turnLetter (letter : Char) (on : Bool) : Action Unit := do
  match Switch.all.find? fun s => s.2.2 = some letter with
  | none => fail ("Illegal option -" ++ letter.toString)
  | some (switch, _) =>
    if on ∧ switch = .vi then turn .emacs false
    if on ∧ switch = .emacs then turn .vi false
    if on ∧ switch = .monitor then complain "can't access tty; job control turned off"
    else turn switch on

def turnNamed (on : Bool) (name : Option Bytes) : Action Unit := do
  match name with
  | none =>
    let switches := (← get).switches
    if on then
      putLine "Current option settings"
      for (switch, name, _) in Switch.all do
        let room := List.replicate (16 - name.length) ' '
        putLine (name ++ String.ofList room ++ if switches.contains switch then "on" else "off")
    else
      for (switch, name, _) in Switch.all do
        putLine ("set " ++ (if switches.contains switch then "-o " else "+o ") ++ name)
  | some w =>
    match Switch.all.find? fun s => s.2.1 = textOf w with
    | some (switch, _) =>
      if on ∧ switch = .monitor then complain "can't access tty; job control turned off"
      else turn switch on
    | none => fail ("Illegal option -o " ++ textOf w)

def turnLetters (on : Bool) : List Char → List Bytes → Action (List Bytes)
  | [], rest => pure rest
  | 'o' :: cs, rest => do
    turnNamed on rest.head?
    turnLetters on cs (rest.drop 1)
  | c :: cs, rest => do
    turnLetter c on
    turnLetters on cs rest

def turnAll : Nat → List Bytes → Action (Option (List Bytes))
  | 0, ws => pure (some ws)
  | _, [] => pure none
  | fuel + 1, w :: rest =>
    match (textOf w).toList with
    | ['-', '-'] => pure (some rest)
    | ['-'] => do
      turn .xtrace false
      turn .verbose false
      pure (if rest.isEmpty then none else some rest)
    | '-' :: cs => do turnAll fuel (← turnLetters true cs rest)
    | '+' :: cs => do turnAll fuel (← turnLetters false cs rest)
    | _ => pure (some (w :: rest))

def setArguments (words : List Bytes) : Action Unit :=
  modify fun s => { s with arguments := words, option := (1, none) }

def setParameters : Builtin := fun words => do
  if words.isEmpty then
    let shown := (← get).bindings.filter (·.2.value.isSome)
    for (name, v) in shown.mergeSort (fun a b => textLE a.1 b.1) do
      output (bytesOf (name ++ "=") ++ quotedBytes (v.value.getD []) ++ [0x0A])
  else
    match ← turnAll (words.length + 1) words with
    | some arguments => setArguments arguments
    | none => pure ()
  pure 0

def shiftParameters : Builtin := fun words => do
  let count ← match words with
    | [] => pure 1
    | w :: _ => natural w
  if (← get).arguments.length < count then fail "can't shift that many"
  modify fun s => { s with arguments := s.arguments.drop count, option := (1, none) }
  pure 0

def nextOption : Builtin := fun words => do
  match words with
  | known :: target :: rest =>
    let s ← get
    let arguments := if rest.isEmpty then s.arguments else rest
    let (index, offset) := if arguments.length + 1 < s.option.1 then (1, none) else s.option
    let current : Option Bytes := match offset with
      | some n =>
        let w := (arguments[index - 2]?).getD []
        if 1 < index ∧ n < w.length then some (w.drop n) else none
      | none => none
    let silent := known.head? = some 0x3A
    let letters := if silent then known.drop 1 else known
    let finish (status index : Nat) (rest : Option Bytes) (answer : UInt8) : Action Nat := do
      assign "OPTIND" (bytesOf (toString index))
      checkName (textOf target)
      assign (textOf target) [answer]
      let offset := rest.map fun r => ((arguments[index - 2]?).getD []).length - r.length
      modify fun s => { s with option := (index, offset) }
      pure status
    let complainOption (answer : UInt8) (c : UInt8) (text : String) : Action UInt8 := do
      if silent then
        assign "OPTARG" [c]
        pure answer
      else
        writeText 2 (text ++ "\n")
        change "OPTARG" fun _ => none
        pure 0x3F
    let read (c : UInt8) (more : Bytes) (index : Nat) : Action Nat := do
      match wants c letters with
      | none =>
        let answer ← complainOption 0x3F c ("Illegal option -" ++ textOf [c])
        finish 0 index (some more) answer
      | some false =>
        assign "OPTARG" []
        finish 0 index (some more) c
      | some true =>
        if !more.isEmpty then
          assign "OPTARG" more
          finish 0 index none c
        else
          match arguments[index - 1]? with
          | some value =>
            assign "OPTARG" value
            finish 0 (index + 1) none c
          | none =>
            let answer ← complainOption 0x3A c ("No arg for -" ++ textOf [c] ++ " option")
            finish 0 index none answer
    match current with
    | some (c :: more) => read c more index
    | _ =>
      match arguments[index - 1]? with
      | some (0x2D :: c :: more) =>
        if c = 0x2D ∧ more.isEmpty then finish 1 (index + 1) none 0x3F
        else read c more (index + 1)
      | _ => finish 1 index none 0x3F
  | _ => fail "Usage: getopts optstring var [arg...]"
where
  wants (c : UInt8) : Bytes → Option Bool
    | [] => none
    | b :: rest =>
      let takes := rest.head? = some 0x3A
      if b = c then some takes else wants c (if takes then rest.drop 1 else rest)
  termination_by letters => letters.length
  decreasing_by
    rw [List.length_cons]
    split
    · rw [List.length_drop]
      omega
    · omega

def aliasTable : Nat := 39

def aliasLine (name : String) (text : List Char) : Bytes :=
  bytesOf (name ++ "=") ++ quotedBytes (text.map byteOf) ++ [0x0A]

def setAliases : Builtin := fun words => do
  if words.isEmpty then
    for (name, text) in inTable aliasTable (← get).aliases do
      output (aliasLine name text)
    pure 0
  else
    let mut status := 0
    for w in words do
      let name := w.take 1 ++ (w.drop 1).takeWhile (· ≠ 0x3D)
      if name.length < w.length then
        let text := (w.drop (name.length + 1)).map fun b => Char.ofNat b.toNat
        let entry := (textOf name, text)
        modify fun s => { s with
          aliases := if (s.aliases.lookup entry.1).isSome
            then s.aliases.map fun a => if a.1 = entry.1 then entry else a
            else s.aliases ++ [entry] }
      else
        match (← get).aliases.lookup (textOf w) with
        | some text => output (aliasLine (textOf w) text)
        | none =>
          writeText 2 ("alias: " ++ textOf w ++ " not found\n")
          status := 1
    pure status

def dropAliases : Builtin := fun words => do
  let (given, words) ← flags "a" words
  if !given.isEmpty then
    modify fun s => { s with aliases := [] }
    pure 0
  else
    let mut status := 0
    for w in words do
      let name := textOf w
      if ((← get).aliases.lookup name).isNone then
        writeText 2 ("unalias: " ++ name ++ " not found\n")
        status := 1
      modify fun s => { s with aliases := s.aliases.filter (·.1 ≠ name) }
    pure status

end CallChart.Shell.Builtin
