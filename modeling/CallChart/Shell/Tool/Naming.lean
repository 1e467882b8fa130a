import CallChart.Shell.Tool.Basic

namespace CallChart.Shell.Tool

namespace Mode

def allBits : Nat := 0o7777

def without (bits others : Nat) : Nat := Nat.land bits (Nat.xor allBits (Nat.land others allBits))

inductive Operation where
  | add
  | remove
  | assign
  deriving DecidableEq, Repr

inductive Source where
  | given
  | copied
  | executed
  deriving DecidableEq, Repr

structure Change where
  operation : Operation
  source : Source
  affected : Nat
  value : Nat
  mentioned : Nat
  deriving DecidableEq, Repr

def operation? (c : Char) : Option Operation :=
  match c with
  | '+' => some .add
  | '-' => some .remove
  | '=' => some .assign
  | _ => none

def affectedBy (c : Char) : Nat :=
  match c with
  | 'u' => 0o4700
  | 'g' => 0o2070
  | 'o' => 0o1007
  | _ => allBits

def valueOf (c : Char) : Nat :=
  match c with
  | 'r' => 0o444
  | 'w' => 0o222
  | 'x' => 0o111
  | 's' => 0o6000
  | 't' => 0o1000
  | _ => 0

def isOctal (c : Char) : Bool := '0' ≤ c && c ≤ '7'

def octal (cs : List Char) : Nat := cs.foldl (fun n c => n * 8 + (c.toNat - '0'.toNat)) 0

def readChanges (affected : Nat) : Nat → List Char → Option (List Change × List Char)
  | 0, _ => none
  | fuel + 1, cs =>
    match cs with
    | [] => some ([], [])
    | c :: rest =>
      match operation? c with
      | none => some ([], c :: rest)
      | some op =>
        let finish (change : Change) (rest : List Char) : Option (List Change × List Char) :=
          (readChanges affected fuel rest).map fun (more, rest) => (change :: more, rest)
        let copied (value : Nat) (rest : List Char) : Option (List Change × List Char) :=
          finish ⟨op, .copied, affected, value, if affected = 0 then value
            else Nat.land affected value⟩ rest
        match rest with
        | 'u' :: rest => copied 0o700 rest
        | 'g' :: rest => copied 0o070 rest
        | 'o' :: rest => copied 0o007 rest
        | rest =>
          let digits := rest.takeWhile isOctal
          if !digits.isEmpty then
            let rest := rest.drop digits.length
            if affected ≠ 0 ∨ allBits < octal digits ∨ !(rest.isEmpty || rest.head? = some ',')
            then none
            else finish ⟨op, .given, allBits, octal digits, allBits⟩ rest
          else
            let letters := rest.takeWhile fun c => "rwxXst".toList.contains c
            let value := letters.foldl (fun n c => Nat.lor n (valueOf c)) 0
            finish ⟨op, if letters.contains 'X' then .executed else .given, affected, value,
              if affected = 0 then value else Nat.land affected value⟩ (rest.drop letters.length)

def readClauses : Nat → List Char → Option (List Change)
  | 0, _ => none
  | fuel + 1, cs =>
    let who := cs.takeWhile fun c => "ugoa".toList.contains c
    let affected := who.foldl (fun n c => Nat.lor n (affectedBy c)) 0
    match cs.drop who.length with
    | [] => none
    | c :: rest =>
      if (operation? c).isNone then none
      else
        match readChanges affected (rest.length + 2) (c :: rest) with
        | none => none
        | some (changes, []) => some changes
        | some (changes, ',' :: rest) => (readClauses fuel rest).map (changes ++ ·)
        | some _ => none

def read? (text : String) : Option (List Change) :=
  let cs := text.toList
  match cs with
  | [] => none
  | c :: _ =>
    if isOctal c then
      if !cs.all isOctal ∨ allBits < octal cs then none
      else
        let bits := octal cs
        some [⟨.assign, .given, allBits, bits,
          if cs.length < 5 then Nat.lor (Nat.land bits 0o7000) 0o777 else allBits⟩]
    else readClauses (cs.length + 1) cs

def spread (bits : Nat) : Nat :=
  (if Nat.land bits 0o444 ≠ 0 then 0o444 else 0) + (if Nat.land bits 0o222 ≠ 0 then 0o222 else 0) +
    if Nat.land bits 0o111 ≠ 0 then 0o111 else 0

def Change.apply (c : Change) (isDirectory : Bool) (mask bits : Nat) : Nat :=
  let omitted := if isDirectory then without 0o6000 c.mentioned else 0
  let value := match c.source with
    | .given => c.value
    | .copied => spread (Nat.land c.value bits)
    | .executed => if isDirectory ∨ Nat.land bits 0o111 ≠ 0 then Nat.lor c.value 0o111 else c.value
  let value := without (Nat.land value (if c.affected = 0 then without allBits mask
    else c.affected)) omitted
  match c.operation with
  | .add => Nat.lor bits value
  | .remove => without bits value
  | .assign =>
    let kept := Nat.lor (if c.affected = 0 then 0 else without allBits c.affected) omitted
    Nat.lor (Nat.land bits kept) value

def adjust (changes : List Change) (isDirectory : Bool) (mask bits : Nat) : Nat :=
  changes.foldl (fun bits c => c.apply isDirectory mask bits) bits

def letters (bits : Nat) : String :=
  let part (shift special : Nat) (set unset : Char) : List Char :=
    let b := bits / shift % 8
    let isSpecial := Nat.land bits special ≠ 0
    [if 4 ≤ b then 'r' else '-', if b / 2 % 2 = 1 then 'w' else '-',
      if b % 2 = 1 then (if isSpecial then set else 'x') else if isSpecial then unset else '-']
  String.ofList (part 64 0o4000 's' 'S' ++ part 8 0o2000 's' 'S' ++ part 1 0o1000 't' 'T')

def kindLetter (n : Node) : Char :=
  match n.body with
  | .file _ => '-'
  | .directory => 'd'
  | .link _ => 'l'
  | .device _ => 'c'
  | .pipe => 'p'

def describe (n : Node) : String := String.ofList (kindLetter n :: (letters n.mode).toList)

def digits (bits : Nat) : String :=
  String.ofList ([512, 64, 8, 1].map fun d => Nat.digitChar (bits / d % 8))

end Mode
end CallChart.Shell.Tool

namespace CallChart.Shell.Tool

open CallChart.Shell.Action

def withoutSlashes (path : String) : String :=
  let cs := (path.toList.reverse.dropWhile (· = '/')).reverse
  if cs.isEmpty ∧ Text.startsWith "/" path then "/" else String.ofList cs

def lastStep (path : String) : String :=
  (Files.strides path).getLastD path

def inside (directory name : String) : String :=
  let directory := if directory = "/" then directory else withoutSlashes directory
  Files.joined directory name

def pathBefore (path : String) : String :=
  let cs := (withoutSlashes path).toList
  let before := (cs.reverse.dropWhile (· ≠ '/')).reverse
  if before.isEmpty then "." else withoutSlashes (String.ofList before)

def quotedText (path : String) : String := quoted (bytesOf path)

def present (follow : Bool) (path : String) : Action (Except FileFault (Path × Node)) := do
  match ← if follow then entryAt path else linkAt path with
  | .error fault => pure (.error fault)
  | .ok (_, none) => pure (.error .notFound)
  | .ok (p, some n) => pure (.ok (p, n))

def nodeIndex? (p : Path) : Action (Option Nat) := do
  pure ((← getWorld).disk.index? p)

def isDirectoryAt (path : String) : Action Bool := do
  pure (((← node? path).map Node.isDirectory).getD false)

def namesAt (p : Path) : Action (List String) := do
  pure ((← getWorld).disk.children p)

def removeName (p : Path) : Action Unit := do
  modifyDisk (·.unlink p)
  touchDirectory p

def blocks (n : Node) : Nat :=
  match n.body with
  | .file bytes => (bytes.length + 4095) / 4096 * 8
  | .directory => 8
  | _ => 0

def eachOperand (operands : List Bytes) (f : Bytes → Action Bool) : Action Nat := do
  let results ← operands.mapM f
  pure (statusOf (results.all id))

def missingOperand (name what : String) : Action Nat :=
  misuse name ("missing " ++ what) 1

def extraOperand (name : String) (w : Bytes) : Action Nat :=
  misuse name ("extra operand " ++ quoted w) 1

def refuse (name message : String) : Action Bool := do
  say name message
  pure false

/-- Sources with their targets. A directory takes each source under its last step; `asFile` tells
that the last operand is no directory to put things into. -/
def targets (name : String) (directory : Option Bytes) (asFile : Bool) (operands : List Bytes) :
    Action (Except Nat (List (String × String))) := do
  let into (directory : String) (w : Bytes) : String × String :=
    (textOf w, inside directory (lastStep (textOf w)))
  match directory, asFile, operands with
  | _, _, [] => pure (.error (← missingOperand name "file operand"))
  | some d, true, _ =>
    let _ := d
    say name "cannot combine --target-directory (-t) and --no-target-directory (-T)"
    pure (.error 1)
  | some d, false, operands => do
    match ← present true (textOf d) with
    | .ok (_, n) =>
      if n.isDirectory then pure (.ok (operands.map (into (textOf d))))
      else do
        say name ("target directory " ++ quoted d ++ ": Not a directory")
        pure (.error 1)
    | .error fault => do
      say name ("target directory " ++ quoted d ++ ": " ++ fault.reason)
      pure (.error 1)
  | none, _, [w] =>
    pure (.error (← misuse name ("missing destination file operand after " ++ quoted w) 1))
  | none, true, [a, b] => pure (.ok [(textOf a, textOf b)])
  | none, true, operands => pure (.error (← extraOperand name (operands.getD 2 [])))
  | none, false, operands =>
    let last := operands.getLastD []
    let sources := operands.dropLast
    match ← present true (textOf last) with
    | .ok (_, n) =>
      if n.isDirectory then pure (.ok (sources.map (into (textOf last))))
      else if sources.length = 1 then pure (.ok (sources.map (textOf ·, textOf last)))
      else do
        say name ("target " ++ quoted last ++ ": Not a directory")
        pure (.error 1)
    | .error fault =>
      if sources.length = 1 then pure (.ok (sources.map (textOf ·, textOf last)))
      else do
        say name ("target " ++ quoted last ++ ": " ++ fault.reason)
        pure (.error 1)

def asks (name question : String) : Action Bool := do
  writeText 2 (name ++ ": " ++ question ++ "? ")
  match ← streamOf 0 with
  | none => pure false
  | some id =>
    if ((← getWorld).unreadable? id).isSome then pure false
    else
      match ← directly (takeLine id) with
      | (line, _) => pure (line.head? = some 0x79 ∨ line.head? = some 0x59)

def describedKind (n : Node) : String :=
  match n.body with
  | .file [] => "regular empty file"
  | .file _ => "regular file"
  | .directory => "directory"
  | .link _ => "symbolic link"
  | .device _ => "character special file"
  | .pipe => "fifo"

end CallChart.Shell.Tool
