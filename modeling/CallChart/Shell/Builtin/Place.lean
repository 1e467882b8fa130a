import CallChart.Shell.Builtin.Basic

namespace CallChart.Shell.Builtin

open CallChart.Shell.Action

def joinedPath (here path : String) : String :=
  let steps (s : String) : List String := (Text.split '/' s).filter (· ≠ "")
  let isRooted := Text.startsWith "/" path
  let double (s : String) : Bool := Text.startsWith "//" s && !Text.startsWith "///" s
  let start := if isRooted then path else here
  let all := (if isRooted then [] else steps here) ++ steps path
  let walked := all.foldl (fun here step =>
    if step = "." then here
    else if step = ".." then here.dropLast
    else here ++ [step]) ([] : List String)
  (if double start then "//" else "/") ++ "/".intercalate walked

def physical (words : List Bytes) : Action (Bool × List Bytes) := do
  let (given, words) ← flags "LP" words
  pure (given.getLast? = some 'P', words)

def enter (physical : Bool) (path : String) : Action Bool := do
  let s ← get
  let path := if physical then path else joinedPath s.called path
  match ← entryAt path with
  | .ok (p, some n) =>
    if n.isDirectory then
      putVariable "OLDPWD" (some ⟨some (bytesOf s.called), true, false⟩)
      let called := if physical then Disk.written p else path
      putVariable "PWD" (some ⟨some (bytesOf called), true, false⟩)
      modify fun s => { s with
        directory := p, called := called
        found := s.found.map fun (name, path, _) => (name, path, true) }
      pure true
    else pure false
  | _ => pure false

def isDotted (path : String) : Bool :=
  match path.toList with
  | ['.'] => true
  | '.' :: '/' :: _ => true
  | ['.', '.'] => true
  | '.' :: '.' :: '/' :: _ => true
  | _ => false

def placesFor (path : String) : Action (List (String × Bool)) := do
  if Text.startsWith "/" path ∨ isDotted path then pure [(path, false)]
  else
    let path := if path = "" then "." else path
    match ← valueOf? "CDPATH" with
    | none => pure [(path, false)]
    | some list =>
      let found := (Text.split ':' (textOf list)).map fun d =>
        if d = "" then (path, false) else (d ++ "/" ++ path, true)
      pure (found ++ [(path, false)])

def changeDirectory : Builtin := fun words => do
  let (physical, words) ← physical words
  let variable' (name : String) : Action String := do
    pure (textOf ((← valueOf? name).getD []))
  let (path, shown) ← match words with
    | [] => do pure (← variable' "HOME", false)
    | w :: _ =>
      if w = [0x2D] then do pure (← variable' "OLDPWD", true) else pure (textOf w, false)
  let isDirectory (place : String × Bool) : Action Bool := do
    pure (((← node? place.1).map Node.isDirectory).getD false)
  match ← (← placesFor path).findM? isDirectory with
  | none => fail ("can't cd to " ++ path)
  | some (place, listed) =>
    if !(← enter physical place) then fail ("can't cd to " ++ path)
    if shown ∨ listed then putLine (← get).called
    pure 0

def showDirectory : Builtin := fun words => do
  let (physical, _) ← physical words
  let s ← get
  putLine (if physical then Disk.written s.directory else s.called)
  pure 0

def maskText (mask : Nat) : String :=
  let part (who : String) (shift : Nat) : String :=
    let bits := mask / shift % 8
    who ++ "=" ++ (if bits / 4 = 0 then "r" else "") ++ (if bits / 2 % 2 = 0 then "w" else "") ++
      if bits % 2 = 0 then "x" else ""
  ",".intercalate [part "u" 64, part "g" 8, part "o" 1]

def applyLetters (given : Nat) : Nat → Nat → Nat → List Char → Option Nat
  | 0, _, _, _ => none
  | fuel + 1, allowed, who, cs =>
    let whose := cs.takeWhile fun c => ['a', 'u', 'g', 'o'].contains c
    let who := whose.foldl (fun n c => Nat.lor n (match c with
      | 'u' => 64
      | 'g' => 8
      | 'o' => 1
      | _ => 73)) who
    let who := if who = 0 then 73 else who
    match cs.drop whose.length with
    | [] => some allowed
    | op :: rest =>
      if ['=', '+', '-'].contains op then
        let letters := rest.takeWhile fun c => ['r', 'w', 'x', 'u', 'g', 'o', 'X', 's'].contains c
        let bits := letters.foldl (fun n c => Nat.lor n (match c with
          | 'r' => 4
          | 'w' => 2
          | 'x' => 1
          | 'u' => given / 64 % 8
          | 'g' => given / 8 % 8
          | 'o' => given % 8
          | 'X' => if Nat.land given 73 ≠ 0 then 1 else 0
          | _ => 0)) 0
        let change := bits * who
        let without (n m : Nat) : Nat := Nat.land n (Nat.xor 511 (Nat.land m 511))
        let allowed := match op with
          | '-' => without allowed change
          | '=' => Nat.lor change (without allowed (who * 7))
          | _ => Nat.lor allowed change
        match rest.drop letters.length with
        | [] => some allowed
        | ',' :: more => applyLetters given fuel allowed 0 more
        | c :: more =>
          if ['=', '+', '-'].contains c then applyLetters given fuel allowed who (c :: more)
          else none
      else none

def octal4 (n : Nat) : String :=
  String.ofList ([512, 64, 8, 1].map fun d => Nat.digitChar (n / d % 8))

def changeMask : Builtin := fun words => do
  let (given, words) ← flags "S" words
  let mask := (← get).mask
  match words with
  | [] => putLine (if given.isEmpty then octal4 mask else maskText mask)
  | w :: _ =>
    let cs := (textOf w).toList
    if (cs.headD ' ').isDigit then
      if !cs.all fun c => '0' ≤ c && c ≤ '7' then illegalNumber w
      let n := cs.foldl (fun n c => n * 8 + (c.toNat - '0'.toNat)) 0
      modify fun s => { s with mask := n % 512 }
    else
      let allowed := 511 - mask
      match applyLetters allowed (cs.length + 1) allowed 0 cs with
      | some allowed => modify fun s => { s with mask := 511 - allowed }
      | none => fail ("Illegal mode: " ++ textOf w)
  pure 0

def resources : List (Char × String × String) := [
  ('t', "time(seconds)", "unlimited"), ('f', "file(blocks)", "unlimited"),
  ('d', "data(kbytes)", "unlimited"), ('s', "stack(kbytes)", "8192"),
  ('c', "coredump(blocks)", "0"), ('m', "memory(kbytes)", "unlimited"),
  ('l', "locked memory(kbytes)", "8192"), ('p', "process", "unlimited"),
  ('n', "nofiles", "1024"), ('v', "vmemory(kbytes)", "unlimited"), ('w', "locks", "unlimited"),
  ('r', "rtprio", "0")]

def limitOf (letter : Char) (usual : String) : Action String := do
  pure (((← get).limits.lookup letter).getD usual)

def changeLimits : Builtin := fun words => do
  let letters := String.ofList (resources.map (·.1))
  let (given, words) ← flags ("HSa" ++ letters) words
  let letter := (given.filter fun c => c ≠ 'H' ∧ c ≠ 'S' ∧ c ≠ 'a').getLast?.getD 'f'
  let usual := ((resources.lookup letter).map (·.2)).getD "unlimited"
  if given.contains 'a' then
    if !words.isEmpty then fail "too many arguments"
    for (letter, name, usual) in resources do
      let room := String.ofList (List.replicate (20 - name.length) ' ')
      putLine (name ++ room ++ " " ++ (← limitOf letter usual))
  else
    match words with
    | [] => putLine (← limitOf letter usual)
    | [w] =>
      let value := textOf w
      match if value = "unlimited" then some 0 else digits? w with
      | none => fail "bad number"
      | some _ => modify fun s => { s with limits := (letter, value) :: s.limits }
    | _ => fail "too many arguments"
  pure 0

def showTimes : Builtin := fun _ => do
  let line := "0m0.000000s 0m0.000000s"
  putLine line
  putLine line
  pure 0

end CallChart.Shell.Builtin
