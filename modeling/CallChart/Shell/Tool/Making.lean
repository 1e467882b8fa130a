import CallChart.Shell.Tool.Calendar
import CallChart.Shell.Tool.Naming

namespace CallChart.Shell.Tool

open CallChart.Shell.Action

def makeDirectory (path : String) (mode : Option (List Mode.Change)) :
    Action (Except FileFault Unit) := do
  match ← linkAt (withoutSlashes path) with
  | .error fault => pure (.error fault)
  | .ok (_, some _) => pure (.error .present)
  | .ok (p, none) =>
    create p .directory 0o777
    match mode with
    | some changes =>
      let mask := (← get).mask
      modifyDisk (·.change p fun n => { n with mode := Mode.adjust changes true mask 0o777 })
    | none => pure ()
    pure (.ok ())

def waysTo (path : String) : List String :=
  let steps := Files.strides path
  let start := if Text.startsWith "/" path then "/" else ""
  (List.range steps.length).map fun i => start ++ "/".intercalate (steps.take (i + 1))

def makeWayTo (name path : String) (mode : Option (List Mode.Change))
    (verbose : String → Action Unit) :
    Action Bool := do
  let ways := waysTo path
  if ways.isEmpty ∧ path = "" then
    refuse name ("cannot create directory " ++ quotedText path ++ ": No such file or directory")
  else
    let rec go : List String → Action Bool
      | [] => pure true
      | way :: rest => do
        if ← isDirectoryAt way then go rest
        else
          match ← makeDirectory way (if rest.isEmpty then mode else none) with
          | .ok () =>
            verbose way
            go rest
          | .error fault =>
            let fault := if fault = .present ∧ !rest.isEmpty then .notDirectory else fault
            refuse name ("cannot create directory " ++ quotedText way ++ ": " ++ fault.reason)
    go ways

def mkdir : Tool := withOptions ⟨"pvZ", "m", [("context?", 'Z'), ("mode=", 'm'), ("parents", 'p'),
    ("verbose", 'v')]⟩ 1 fun name g => do
  let mode := (g.value? 'm').map fun w => (w, Mode.read? (textOf w))
  let told (path : String) : Action Unit := do
    if g.has 'v' then putLine (name ++ ": created directory " ++ quotedText path)
  match g.operands, mode with
  | [], _ => missingOperand name "operand"
  | _, some (w, none) =>
    say name ("invalid mode " ++ quote w)
    pure 1
  | operands, mode =>
    let changes := mode.bind (·.2)
    eachOperand operands fun w => do
      let path := textOf w
      if g.has 'p' then makeWayTo name path changes told
      else
        match ← makeDirectory path changes with
        | .ok () =>
          told path
          pure true
        | .error fault =>
          refuse name ("cannot create directory " ++ quoted w ++ ": " ++ fault.reason)

def removeDirectory (path : String) : Action (Except FileFault Unit) := do
  match ← linkAt (withoutSlashes path) with
  | .error fault => pure (.error fault)
  | .ok (_, none) => pure (.error .notFound)
  | .ok (p, some n) =>
    if !n.isDirectory then pure (.error .notDirectory)
    else if (withoutSlashes path).toList.reverse.head? = some '.' ∧ lastStep path = "." then
      pure (.error .invalid)
    else if !(← namesAt p).isEmpty ∨ lastStep path = ".." then pure (.error .notEmpty)
    else if p.isEmpty then pure (.error .busy)
    else
      removeName p
      pure (.ok ())

def rmdir : Tool := withOptions ⟨"pv", "", [("ignore-fail-on-non-empty", 'i'), ("parents", 'p'),
    ("verbose", 'v')]⟩ 1 fun name g => do
  if g.operands.isEmpty then missingOperand name "operand"
  else eachOperand g.operands fun w => do
    let attempt (path : String) (words : String) : Action (Bool × Bool) := do
      if g.has 'v' then putLine (name ++ ": removing directory, " ++ quotedText path)
      match ← removeDirectory path with
      | .ok () => pure (true, true)
      | .error fault =>
        if fault = .notEmpty ∧ g.has 'i' then pure (false, true)
        else
          let link ← if path = withoutSlashes path then pure false
            else do
              match ← linkAt (withoutSlashes path) with
              | .ok (_, some n) => pure n.isLink
              | _ => pure false
          say name ("failed to remove " ++ words ++ quotedText path ++ ": " ++
            if fault = .notDirectory ∧ link then "Symbolic link not followed" else fault.reason)
          pure (false, false)
    let rec parents : Nat → String → Action Bool
      | 0, _ => pure true
      | fuel + 1, path => do
        let before := pathBefore path
        if !(withoutSlashes path).toList.contains '/' ∨ before = "/" then pure true
        else
          match ← attempt before "directory " with
          | (true, _) => parents fuel before
          | (false, well) => pure well
    match ← attempt (textOf w) "" with
    | (true, _) => if g.has 'p' then parents w.length (textOf w) else pure true
    | (false, well) => pure well

def stampTime? (now : Int) (text : String) : Option Int :=
  let cs := text.toList
  let body := cs.takeWhile (· ≠ '.')
  let tail := cs.drop body.length
  let seconds? : Option Nat := match tail with
    | [] => some 0
    | [_, a, b] => if a.isDigit ∧ b.isDigit then some (Calendar.value [a, b]) else none
    | _ => none
  if !body.all Char.isDigit ∨ !([8, 10, 12].contains body.length) then none
  else
    let year : Int := match body.length with
      | 12 => Calendar.value (body.take 4)
      | 10 => Calendar.fullYear (body.take 2)
      | _ => (Calendar.ofMilliseconds now).year
    match (body.drop (body.length - 8)), seconds? with
    | [m1, m2, d1, d2, h1, h2, i1, i2], some s =>
      let month := Calendar.value [m1, m2]
      let day := Calendar.value [d1, d2]
      let hour := Calendar.value [h1, h2]
      let minute := Calendar.value [i1, i2]
      if month = 0 ∨ 12 < month ∨ day = 0 ∨ Timestamp.daysIn year month < day ∨ 23 < hour ∨
          59 < minute ∨ 60 < s then none
      else some ((Calendar.dayNumber year month day * 86400 +
        (hour * 3600 + minute * 60 + s : Nat)) * 1000)
    | _, _ => none

def wantedTime (name : String) (g : Given) : Action (Except Nat Int) := do
  let now := (← getWorld).now
  let wrong (w : Bytes) : Action (Except Nat Int) := do
    say name ("invalid date format " ++ quote w)
    pure (.error 1)
  match g.value? 't', g.value? 'r', g.value? 'd' with
  | some w, _, _ =>
    match stampTime? now (textOf w) with
    | some t => pure (.ok t)
    | none => wrong w
  | none, some r, d =>
    match ← present (!g.has 'h') (textOf r) with
    | .error fault =>
      say name ("failed to get attributes of " ++ quoted r ++ ": " ++ fault.reason)
      pure (.error 1)
    | .ok (_, n) =>
      match d with
      | none => pure (.ok n.modified)
      | some w =>
        match Calendar.read? n.modified (textOf w) with
        | some t => pure (.ok t)
        | none => wrong w
  | none, none, some w =>
    match Calendar.read? now (textOf w) with
    | some t => pure (.ok t)
    | none => wrong w
  | none, none, none => pure (.ok now)

def touch : Tool := withOptions ⟨"acfhm", "drt", [("date=", 'd'), ("no-create", 'c'),
    ("no-dereference", 'h'), ("reference=", 'r'), ("time=", 'T')]⟩ 1 fun name g => do
  match ← wantedTime name g with
  | .error status => pure status
  | .ok time =>
    let keeps := g.has 'a' ∧ !g.has 'm'
    if g.operands.isEmpty then missingOperand name "file operand"
    else eachOperand g.operands fun w => do
      let path := textOf w
      if path = "-" then pure true
      else
        let change (p : Path) : Action Bool := do
          if !keeps then modifyDisk (·.change p fun n => { n with modified := time })
          pure true
        let follow := !g.has 'h'
        match ← if follow then entryAt path else linkAt path with
        | .ok (p, some _) => change p
        | .ok (p, none) =>
          if g.has 'c' then pure true
          else if g.has 'h' then
            refuse name ("setting times of " ++ quoted w ++ ": No such file or directory")
          else
            create p (.file []) 0o666
            change p
        | .error fault =>
          if g.has 'c' ∧ (fault = .notFound ∨ fault = .notDirectory) then pure true
          else if path.toList.getLast? = some '/' ∧ fault = .notFound then
            refuse name ("setting times of " ++ quoted w ++ ": " ++ fault.reason)
          else refuse name ("cannot touch " ++ quoted w ++ ": " ++ fault.reason)

def mkfifo : Tool := withOptions ⟨"Z", "m", [("mode=", 'm'), ("context?", 'Z')]⟩ 1 fun name g => do
  let mode := (g.value? 'm').map fun w => (w, Mode.read? (textOf w))
  match g.operands, mode with
  | [], _ => missingOperand name "operand"
  | _, some (_, none) =>
    say name "invalid mode"
    pure 1
  | operands, mode =>
    eachOperand operands fun w => do
      match ← linkAt (textOf w) with
      | .ok (p, none) =>
        create p .pipe 0o666
        match mode.bind (·.2) with
        | some changes =>
          let mask := (← get).mask
          modifyDisk (·.change p fun n => { n with mode := Mode.adjust changes false mask 0o666 })
        | none => pure ()
        pure true
      | .ok (_, some _) =>
        refuse name ("cannot create fifo " ++ quoted w ++ ": File exists")
      | .error fault => refuse name ("cannot create fifo " ++ quoted w ++ ": " ++ fault.reason)

def scrambled : Nat → Nat → List Char
  | 0, _ => []
  | n + 1, seed =>
    let next := (seed * 6364136223846793005 + 1442695040888963407) % 18446744073709551616
    let index := next / 4294967296 % 62
    ("0123456789ABCDEFGHIJKLMNOPQRSTUVWXYZabcdefghijklmnopqrstuvwxyz".toList.getD index '0') ::
      scrambled n next

def mktemp : Tool := withOptions ⟨"dqtuV", "p", [("directory", 'd'), ("quiet", 'q'),
    ("dry-run", 'u'), ("suffix=", 's'), ("tmpdir?", 'P')]⟩ 1 fun name g => do
  match g.operands with
  | _ :: _ :: _ => misuse name "too many templates" 1
  | operands =>
    let given := operands.head?
    let template := textOf (given.getD (bytesOf "tmp.XXXXXXXXXX"))
    let suffix := (g.value? 's').map textOf
    let body := (template.toList.reverse.dropWhile (· ≠ 'X')).reverse
    let after := String.ofList (template.toList.drop body.length)
    let marks := (body.reverse.takeWhile (· = 'X')).length
    let start := String.ofList (body.take (body.length - marks))
    let usesDirectory := given.isNone ∨ g.has 'p' ∨ g.has 'P' ∨ g.has 't'
    let variable' ← valueOf? "TMPDIR"
    let directory := (match g.value? 'p', g.value? 'P' with
      | some w, _ => if w.isEmpty then variable' else some w
      | none, some w => if w.isEmpty then variable' else some w
      | none, none => variable').getD (bytesOf "/tmp")
    let directory := if directory.isEmpty then bytesOf "/tmp" else directory
    if suffix.isSome ∧ after ≠ "" then
      say name ("with --suffix, template " ++ quote (bytesOf template) ++ " must end in X")
      pure 1
    else if marks < 3 then
      say name ("too few X's in template " ++ quote (bytesOf template))
      pure 1
    else if usesDirectory ∧ !g.has 't' ∧ Text.startsWith "/" template ∧ given.isSome then
      say name ("invalid template, " ++ quote (bytesOf template) ++
        "; with --tmpdir, it may not be absolute")
      pure 1
    else
      let s ← get
      let made (seed : Nat) : String :=
        let leaf := start ++ String.ofList (scrambled marks seed) ++ after ++ suffix.getD ""
        if usesDirectory then inside (textOf directory) leaf else leaf
      let seed := (List.range 100).find? fun i =>
        match s.world.disk.entry false s.directory (made (s.pid * 101 + i)) with
        | .ok (_, some _) => false
        | _ => true
      let path := made (s.pid * 101 + seed.getD 0)
      let shown := if usesDirectory then inside (textOf directory) template else template
      let what := if g.has 'd' then "directory" else "file"
      match ← linkAt path with
      | .error fault =>
        if !g.has 'q' then
          say name ("failed to create " ++ what ++ " via template " ++
            quote (bytesOf (shown ++ suffix.getD "")) ++ ": " ++ fault.reason)
        pure 1
      | .ok (p, _) =>
        if !g.has 'u' then
          if g.has 'd' then create p .directory 0o700 else create p (.file []) 0o600
        putLine path
        pure 0

inductive Resize where
  | set
  | extend
  | reduce
  | atMost
  | atLeast
  | roundDown
  | roundUp
  deriving DecidableEq

def Resize.apply (r : Resize) (old n : Nat) : Nat :=
  match r with
  | .set => n
  | .extend => old + n
  | .reduce => old - n
  | .atMost => min old n
  | .atLeast => max old n
  | .roundDown => old / n * n
  | .roundUp => (old + n - 1) / n * n

def readResize (w : Bytes) : Except CountFault (Resize × Nat) :=
  let w := w.dropWhile fun b => b = 0x20
  let (kind, rest) := match w with
    | 0x3C :: rest => (Resize.atMost, rest)
    | 0x3E :: rest => (.atLeast, rest)
    | 0x2F :: rest => (.roundDown, rest)
    | 0x25 :: rest => (.roundUp, rest)
    | w => (.set, w)
  let (kind, rest) := match rest with
    | 0x2B :: rest => (Resize.extend, rest)
    | 0x2D :: rest => (.reduce, rest)
    | rest => (kind, rest)
  (countOf "EgGkKmMPtTYZ" rest).map (kind, ·)

def resizeFile (p : Path) (size : Nat) : Action Unit := do
  match ← nodeIndex? p with
  | none => pure ()
  | some index =>
    modifyWorld fun w =>
      let old := w.nodeBytes index
      w.setBytes index (old.take size ++ List.replicate (size - old.length) 0)

def truncate : Tool := withOptions ⟨"co", "rs", [("io-blocks", 'o'), ("no-create", 'c'),
    ("reference=", 'r'), ("size=", 's')]⟩ 1 fun name g => do
  match (g.value? 's').map fun w => (w, readResize w) with
  | some (w, .error fault) =>
    say name ("Invalid number: " ++ quote w ++ if fault = .tooLarge
      then ": Value too large for defined data type" else "")
    pure 1
  | some (_, .ok (.roundDown, 0)) =>
    say name "division by zero"
    pure 1
  | some (_, .ok (.roundUp, 0)) =>
    say name "division by zero"
    pure 1
  | size =>
    let size := size.bind fun (_, r) => r.toOption
    let reference : Except Nat (Option Nat) ← match g.value? 'r' with
      | none => pure (.ok none)
      | some r =>
        match ← present true (textOf r) with
        | .ok (_, n) => pure (.ok (some n.size))
        | .error fault => do
          say name ("cannot stat " ++ quoted r ++ ": " ++ fault.reason)
          pure (.error 1)
    match reference, size with
    | .error status, _ => pure status
    | .ok none, none =>
      misuse name "you must specify either '--size' or '--reference'" 1
    | .ok (some _), some (.set, _) =>
      misuse name "you must specify a relative '--size' with '--reference'" 1
    | .ok old?, size =>
      if g.operands.isEmpty then missingOperand name "file operand"
      else eachOperand g.operands fun w => do
        let (kind, n) := size.getD (.extend, 0)
        let n := if g.has 'o' then n * 4096 else n
        let path := textOf w
        let resized (p : Path) (there : Nat) : Action Bool := do
          resizeFile p (kind.apply (old?.getD there) n)
          pure true
        match ← entryAt path with
        | .ok (p, some node) =>
          if node.isDirectory then
            refuse name ("cannot open " ++ quoted w ++ " for writing: Is a directory")
          else resized p node.size
        | .ok (p, none) =>
          if g.has 'c' then pure true
          else
            create p (.file []) 0o666
            resized p 0
        | .error fault =>
          refuse name ("cannot open " ++ quoted w ++ " for writing: " ++ fault.reason)

def relativePath (there here : Path) : String :=
  let rec common : Path → Path → Nat
    | a :: p, b :: q => if a = b then common p q + 1 else 0
    | _, _ => 0
  let n := common there here
  let steps := List.replicate (here.length - n) ".." ++ there.drop n
  if steps.isEmpty then "." else "/".intercalate steps

def resolvedAt (path : String) : Action Path := do
  match ← entryAt path with
  | .ok (p, _) => pure p
  | .error _ =>
    let s ← get
    pure ((Files.strides path).foldl (fun (here : Path) step =>
      if step = "." then here else if step = ".." then here.dropLast else here ++ [step])
      (if Text.startsWith "/" path then [] else s.directory))

def backupName (control : Option Bytes) (suffix : String) (path : String) : Action String := do
  let kind := textOf (control.getD (bytesOf "existing"))
  let numbered (n : Nat) : String := path ++ ".~" ++ toString n ++ "~"
  let taken ← (List.range 100).filterM fun n => do
    pure (match ← linkAt (numbered (n + 1)) with
      | .ok (_, some _) => true
      | _ => false)
  let counts := ["numbered", "t"].contains kind ||
    (["existing", "nil"].contains kind && !taken.isEmpty)
  pure (if counts then numbered ((taken.getLast?.getD 0) + if taken.isEmpty then 1 else 2)
    else path ++ suffix)

def moveAway (path backup : String) : Action Unit := do
  match ← linkAt path, ← linkAt backup with
  | .ok (p, some _), .ok (q, _) =>
    modifyDisk fun d => (d.unlink q).rename p q
  | _, _ => pure ()

def backup? (g : Given) (path : String) : Action (Option String) := do
  if !(g.has 'b' || g.has '\x08' || g.has 'S') then pure none
  else
    let control := g.value? '\x08'
    let control ← if control = some [] ∨ control.isNone then valueOf? "VERSION_CONTROL"
      else pure control
    if control = some (bytesOf "none") ∨ control = some (bytesOf "off") then pure none
    else
      let usual ← valueOf? "SIMPLE_BACKUP_SUFFIX"
      pure (some (← backupName control
        (textOf ((g.value? 'S').getD (usual.getD (bytesOf "~")))) path))

def ln : Tool := withOptions ⟨"bdfFiLnPrsTv", "St", [("backup?", '\x08'), ("directory", 'd'),
    ("force", 'f'), ("interactive", 'i'), ("logical", 'L'), ("no-dereference", 'n'),
    ("no-target-directory", 'T'), ("physical", 'P'), ("relative", 'r'), ("suffix=", 'S'),
    ("symbolic", 's'), ("target-directory=", 't'), ("verbose", 'v')]⟩ 1 fun name g => do
  let symbolic := g.has 's'
  let isPlainTarget ← do
    if g.operands.length = 2 ∧ g.has 'n' then
      pure (match ← linkAt (textOf (g.operands.getLastD [])) with
        | .ok (_, some n) => n.isLink
        | _ => false)
    else pure false
  let pairs ← match g.value? 't', g.has 'T', g.operands with
    | none, false, [w] =>
      pure (.ok [(textOf w, inside "." (lastStep (textOf w)))])
    | directory, asFile, operands => targets name directory (asFile || isPlainTarget) operands
  match pairs with
  | .error status => pure status
  | .ok pairs =>
    let results ← pairs.mapM fun (source, target) => do
      let kind := if symbolic then "symbolic link " else "hard link "
      let failure (fault : FileFault) : Action Bool :=
        refuse name ("failed to create " ++ kind ++ quotedText target ++
          (if symbolic ∨ fault = .present then "" else " => " ++ quotedText source) ++ ": " ++
          fault.reason)
      let from' : Except FileFault (Option (Path × Node)) ← if symbolic then pure (.ok none)
        else
          match ← present (g.has 'L') source with
          | .error fault => pure (.error fault)
          | .ok (p, n) => pure (.ok (some (p, n)))
      match from' with
      | .error fault =>
        refuse name ("failed to access " ++ quotedText source ++ ": " ++ fault.reason)
      | .ok from' =>
        if (from'.map fun x => x.2.isDirectory).getD false then
          refuse name (named (bytesOf source) ++ ": hard link not allowed for directory")
        else
          let told (backup : Option String) : Action Bool := do
            if g.has 'v' then
              let arrow := if symbolic then " -> " else " => "
              let kept := match backup with
                | some b => quotedText b ++ " ~ "
                | none => ""
              putLine (kept ++ quotedText target ++ arrow ++ quotedText source)
            pure true
          let make (q : Path) (backup : Option String) : Action Bool := do
            match from' with
            | some (p, _) =>
              modifyDisk (·.link p q)
              touchDirectory q
            | none =>
              let text ← if g.has 'r' then do
                  pure (relativePath (← resolvedAt source) (← resolvedAt (pathBefore target)))
                else pure source
              modifyDisk (·.add q ⟨.link text, 0o777, Disk.beginning, 0, 0⟩)
              let now := (← getWorld).now
              modifyDisk (·.change q fun n => { n with modified := now })
              touchDirectory q
            told backup
          if symbolic ∧ source = "" then
            refuse name ("failed to create symbolic link " ++ quotedText target ++
              " -> '': No such file or directory")
          else
            match ← linkAt target with
            | .error fault => failure fault
            | .ok (q, none) => make q none
            | .ok (q, some there) =>
              let backup ← backup? g target
              let same := from'.map (·.1) = some q
              let sameNode : Bool ← match from' with
                | some (p, _) => do pure ((← nodeIndex? p) == (← nodeIndex? q))
                | none => pure false
              if backup.isNone ∧ !g.has 'f' ∧ !g.has 'i' then failure .present
              else if there.isDirectory then
                refuse name (named (bytesOf target) ++ ": cannot overwrite directory")
              else if same ∨ (symbolic ∧ (← linkAt source).toOption.map (·.1) = some q) then
                refuse name (quotedText source ++ " and " ++ quotedText target ++
                  " are the same file")
              else if sameNode then told none
              else
                let agreed ← if g.has 'i' ∧ g.last? ['f', 'i'] = some 'i' then
                    asks name ("replace " ++ quotedText target) else pure true
                if !agreed then pure true
                else
                  match backup with
                  | some b => moveAway target b
                  | none => modifyDisk (·.unlink q)
                  make q backup
    pure (statusOf (results.all id))

def link : Tool := withOptions ⟨"", "", []⟩ 1 fun name g => do
  match g.operands with
  | [] => missingOperand name "operand"
  | [w] => misuse name ("missing operand after " ++ quoted w) 1
  | [a, b] =>
    let failure (fault : FileFault) : Action Nat := do
      say name ("cannot create link " ++ quoted b ++ " to " ++ quoted a ++ ": " ++ fault.reason)
      pure 1
    match ← present false (textOf a), ← linkAt (textOf b) with
    | .error fault, _ => failure fault
    | _, .error fault => failure fault
    | _, .ok (_, some _) => failure .present
    | .ok (p, n), .ok (q, none) =>
      if n.isDirectory then failure .notPermitted
      else
        modifyDisk (·.link p q)
        touchDirectory q
        pure 0
  | _ :: _ :: c :: _ => extraOperand name c

def unlink : Tool := withOptions ⟨"", "", []⟩ 1 fun name g => do
  match g.operands with
  | [] => missingOperand name "operand"
  | [w] =>
    let failure (fault : FileFault) : Action Nat := do
      say name ("cannot unlink " ++ quoted w ++ ": " ++ fault.reason)
      pure 1
    match ← present false (textOf w) with
    | .error fault => failure fault
    | .ok (p, n) =>
      if n.isDirectory then failure .isDirectory
      else
        removeName p
        pure 0
  | _ :: c :: _ => extraOperand name c

inductive Removed where
  | done
  | declined
  | failed
  deriving DecidableEq

structure Removal where
  name : String
  asks : Bool
  verbose : Bool
  recursive : Bool
  directories : Bool
  force : Bool

namespace Removal

def failure (r : Removal) (path : String) (fault : FileFault) : Action Removed := do
  say r.name ("cannot remove " ++ quotedText path ++ ": " ++ fault.reason)
  pure .failed

def agrees (r : Removal) (question path : String) : Action Bool :=
  if r.asks then Tool.asks r.name (question ++ " " ++ quotedText path) else pure true

def takeAway (r : Removal) (path : String) (p : Path) (n : Node) : Action Removed := do
  if !(← r.agrees ("remove " ++ describedKind n) path) then pure .declined
  else
    removeName p
    if r.verbose then
      putLine ("removed " ++ (if n.isDirectory then "directory " else "") ++ quotedText path)
    pure .done

def run (r : Removal) : Nat → String → Path → Node → Action Removed
  | 0, path, _, _ => r.failure path .busy
  | fuel + 1, path, p, n => do
    if !n.isDirectory then r.takeAway path p n
    else
      let names ← namesAt p
      if !r.recursive then
        if !r.directories then r.failure path .isDirectory
        else if names.isEmpty then r.takeAway path p n
        else r.failure path .notEmpty
      else if names.isEmpty then r.takeAway path p n
      else if !(← r.agrees "descend into directory" path) then pure .declined
      else
        let results ← names.mapM fun name => do
          let q := p ++ [name]
          match (← getWorld).disk.node? q with
          | none => pure .done
          | some n => r.run fuel (inside path name) q n
        if results.contains .failed then pure .failed
        else if results.contains .declined then pure .declined
        else if p.isEmpty then r.failure path .busy
        else r.takeAway path p n

end Removal

def rm : Tool := withOptions
    ⟨"dfiIrRv", "", [("dir", 'd'), ("force", 'f'), ("interactive?", '\x02'),
      ("no-preserve-root", '\x03'), ("one-file-system", '\x04'), ("preserve-root?", '\x05'),
      ("recursive", 'r'), ("verbose", 'v')]⟩ 1 fun name g => do
  let modes := ["never", "no", "none", "once", "always", "yes"]
  match (g.values '\x02').find? fun w => !w.isEmpty && (choice? modes w).isNone with
  | some w =>
    wrongWord name "--interactive" [["never", "no", "none"], ["once"], ["always", "yes"]] w 1
  | none =>
    let mode (o : Char × Bytes) : Option Char :=
      if o.1 = '\x02' then
        match choice? modes o.2 with
        | some "once" => some 'I'
        | some "always" => some 'i'
        | some "yes" => some 'i'
        | some _ => some 'f'
        | none => some 'i'
      else if ['f', 'i', 'I'].contains o.1 then some o.1
      else none
    let last := (g.options.filterMap mode).getLast?
    let recursive := g.has 'r' ∨ g.has 'R'
    let force := g.options.any fun o => o.1 == 'f'
    let force := force ∧ last = some 'f'
    if g.operands.isEmpty then if force then pure 0 else missingOperand name "operand"
    else
      let count := g.operands.length
      let agreed ← if last = some 'I' ∧ (recursive ∨ 3 < count) then
          asks name ("remove " ++ toString count ++
            (if count = 1 then " argument" else " arguments") ++
            if recursive then " recursively" else "")
        else pure true
      if !agreed then pure 0
      else
        let r : Removal := ⟨name, last = some 'i', g.has 'v', recursive, g.has 'd', force⟩
        eachOperand g.operands fun w => do
          let path := textOf w
          let last := lastStep path
          match ← linkAt path with
          | .error fault =>
            if force ∧ [FileFault.notFound, .notDirectory, .tooManyLinks].contains fault then
              pure true
            else
              let _ ← r.failure path fault
              pure false
          | .ok (_, none) =>
            if force then pure true
            else
              let _ ← r.failure path .notFound
              pure false
          | .ok (p, some n) =>
            if recursive ∧ p.isEmpty ∧ !g.has '\x03' then
              if path = "/" then say name "it is dangerous to operate recursively on '/'"
              else say name ("it is dangerous to operate recursively on " ++ quoted w ++
                " (same as '/')")
              say name "use --no-preserve-root to override this failsafe"
              pure false
            else if recursive ∧ n.isDirectory ∧ (last = "." ∨ last = "..") then
              say name ("refusing to remove '.' or '..' directory: skipping " ++ quoted w)
              pure false
            else
              let bare ← linkAt (withoutSlashes path)
              let throughLink := match bare with
                | .ok (_, some m) => m.isLink && path ≠ withoutSlashes path
                | _ => false
              if throughLink then
                if recursive then
                  for name in ← namesAt p do
                    match (← getWorld).disk.node? (p ++ [name]) with
                    | some m => let _ ← r.run 10000 (inside path name) (p ++ [name]) m
                    | none => pure ()
                if recursive ∨ g.has 'd' then
                  if force then pure true
                  else
                    let _ ← r.failure path .notDirectory
                    pure false
                else
                  let _ ← r.failure path .isDirectory
                  pure false
              else pure ((← r.run 10000 path p n) ≠ .failed)

end CallChart.Shell.Tool
