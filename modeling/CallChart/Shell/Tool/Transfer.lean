import CallChart.Shell.Tool.Making

namespace CallChart.Shell.Tool

open CallChart.Shell.Action

structure Transfer where
  name : String
  given : Given
  recursive : Bool
  follows : Bool
  followsBelow : Bool
  keepsMode : Bool
  keepsTime : Bool
  keepsOwner : Bool

namespace Transfer

def has (t : Transfer) (c : Char) : Bool := t.given.has c

def told (t : Transfer) (verb source target : String) (backup : Option String) : Action Unit := do
  if t.has 'v' then
    putLine (verb ++ quotedText source ++ " -> " ++ quotedText target ++ match backup with
      | some b => " (backup: " ++ quotedText b ++ ")"
      | none => "")

def keep (t : Transfer) (q : Path) (n : Node) : Action Unit :=
  modifyDisk (·.change q fun m => { m with
    mode := if t.keepsMode then n.mode else m.mode
    modified := if t.keepsTime then n.modified else m.modified
    owner := if t.keepsOwner then n.owner else m.owner
    group := if t.keepsOwner then n.group else m.group })

def mayReplace (t : Transfer) (target : String) (old new : Node) : Action Bool := do
  if t.has 'u' ∧ new.modified ≤ old.modified then pure false
  else
    match t.given.last? ['f', 'i', 'n'] with
    | some 'n' => pure false
    | some 'i' => asks t.name ("overwrite " ++ quotedText target)
    | _ => if t.has 'n' then pure false else pure true

def copyFile (t : Transfer) (source target : String) (p : Path) (n : Node) : Action Bool := do
  let wrong (message : String) : Action Bool := refuse t.name message
  let create' (q : Path) (backup : Option String) : Action Bool := do
    if t.has 'l' then
      modifyDisk (·.link p q)
      touchDirectory q
    else if t.has 's' then
      create q (.link source) 0o777
      modifyDisk (·.change q fun m => { m with mode := 0o777 })
    else
      match n.body with
      | .file bytes =>
        create q (.file (if t.has '\x07' then [] else bytes)) (n.mode % 512)
      | body =>
        create q body (n.mode % 512)
        if n.isLink then modifyDisk (·.change q fun m => { m with mode := 0o777 })
      t.keep q n
    t.told "" source target backup
    pure true
  let device : Option Bytes ← match n.body with
    | .device d => do
      if t.has 'R' ∨ t.recursive then pure none
      else if d = "null" then pure (some [])
      else endless
    | .pipe => if t.recursive then pure none else endless
    | _ => pure none
  let n := match device with
    | some bytes => { n with body := .file bytes }
    | none => n
  match ← linkAt target with
  | .error fault =>
    if fault = .notFound ∧ target.toList.getLast? = some '/' then
      wrong ("cannot create regular file " ++ quotedText target ++ ": Not a directory")
    else wrong ("cannot create " ++ (if n.isLink then "symbolic link " else "regular file ") ++
      quotedText target ++ ": " ++ fault.reason)
  | .ok (q, none) => create' q none
  | .ok (q, some there) =>
    let through ← entryAt target
    let sameNode := (← nodeIndex? p) == (← nodeIndex? (match through with
      | .ok (r, some _) => r
      | _ => q))
    let throughDirectory : Bool := match through with
      | .ok (_, some m) => m.isDirectory && !t.has 'T'
      | _ => false
    if there.isDirectory ∨ (there.isLink ∧ throughDirectory ∧ !n.isLink) then
      wrong ("cannot overwrite directory " ++ quotedText target ++ " with non-directory")
    else if (p = q ∨ (sameNode ∧ !(there.isLink && t.has '\x06') ∧ !n.isLink)) ∧
        !t.has 'l' then
      if t.given.last? ['f', 'i', 'n'] = some 'n' then pure true
      else wrong (quotedText source ++ " and " ++ quotedText target ++ " are the same file")
    else if sameNode ∧ t.has 'l' then pure true
    else
      match through with
      | .ok (_, none) =>
        if t.has '\x06' ∨ n.isLink ∨ t.has 'l' ∨ t.has 's' then replace q there create' wrong
        else if t.given.last? ['f', 'i', 'n'] = some 'n' then pure true
        else wrong ("not writing through dangling symlink " ++ quotedText target)
      | .error _ => replace q there create' wrong
      | .ok (r, some old) =>
        if t.has '\x06' ∨ n.isLink ∨ t.has 'l' ∨ t.has 's' then replace q there create' wrong
        else if !(← t.mayReplace target old n) then pure true
        else
          match ← backup? t.given target with
          | some b =>
            moveAway target b
            create' q (some b)
          | none =>
            match n.body with
            | .file bytes =>
              match ← nodeIndex? r with
              | some index =>
                if !t.has '\x07' then modifyWorld (·.setBytes index bytes)
                t.keep r n
                t.told "" source target none
                pure true
              | none => pure false
            | _ => replace q there create' wrong
where
  replace (q : Path) (there : Node) (create' : Path → Option String → Action Bool)
      (wrong : String → Action Bool) : Action Bool := do
    if !(← t.mayReplace target there n) then pure true
    else
      match ← backup? t.given target with
      | some b =>
        moveAway target b
        create' q (some b)
      | none =>
        if (t.has 'l' ∨ t.has 's') ∧ !(t.has 'f' || t.has '\x06') then
          wrong ("cannot create " ++ (if t.has 's' then "symbolic link " else "hard link ") ++
            quotedText target ++ " to " ++ quotedText source ++ ": File exists")
        else
          if t.has '\x06' ∧ t.has 'v' then putLine ("removed " ++ quotedText target)
          modifyDisk (·.unlink q)
          create' q none

def children (t : Transfer) (copy : Option Path → String → String → Action Bool)
    (root : Option Path) (source target : String) (p q : Path) (n : Node) (new : Bool) :
    Action Bool := do
  let names ← namesAt p
  let within := p.isPrefixOf q
  let root := if within then some (root.getD q) else root
  let results ← names.mapM fun name => do
    if within ∧ root = some (p ++ [name]) then
      refuse t.name ("cannot copy a directory, " ++ quotedText source ++ ", into itself, " ++
        quotedText target)
    else copy root (inside source name) (inside target name)
  if new then
    let mask := (← get).mask
    modifyDisk (·.change q fun m => { m with mode := Disk.permitted (n.mode % 512) mask })
    t.keep q n
  pure (results.all id)

def copy (t : Transfer) : Nat → Bool → Option Path → String → String → Action Bool
  | 0, _, _, _, _ => pure false
  | fuel + 1, top, root, source, target => do
    let follow := if top then t.follows else t.followsBelow
    match ← present follow source with
    | .error fault => refuse t.name ("cannot stat " ++ quotedText source ++ ": " ++ fault.reason)
    | .ok (p, n) =>
      if !n.isDirectory then t.copyFile source target p n
      else if !t.recursive then
        refuse t.name ("-r not specified; omitting directory " ++ quotedText source)
      else
        match ← entryAt (if target.length = 1 then target else withoutSlashes target) with
        | .error fault =>
          refuse t.name ("cannot create directory " ++ quotedText target ++ ": " ++ fault.reason)
        | .ok (q, there) =>
          if root = some p then
            refuse t.name ("cannot copy a directory, " ++ quotedText source ++
              ", into itself, " ++ quotedText target)
          else
            match there with
            | some m =>
              if !m.isDirectory then
                refuse t.name ("cannot overwrite non-directory " ++ quotedText target ++
                  " with directory " ++ quotedText source)
              else
                t.children (t.copy fuel false) root source target p q n false
            | none =>
              create q .directory 0o777
              t.told "" source target none
              t.children (t.copy fuel false) (some (root.getD q)) source target p q n true

end Transfer

def preserveWords : List String :=
  ["mode", "timestamps", "ownership", "links", "context", "xattr", "all"]

def cp : Tool := withOptions
    ⟨"abdfHilLnpPrRsTuvxZ", "St",
     [("archive", 'a'), ("attributes-only", '\x07'), ("backup?", '\x08'),
      ("copy-contents", '\x10'), ("dereference", 'L'), ("force", 'f'), ("interactive", 'i'),
      ("link", 'l'), ("no-clobber", 'n'), ("no-dereference", 'P'), ("no-preserve=", '\x12'),
      ("no-target-directory", 'T'), ("one-file-system", 'x'), ("parents", '\x14'),
      ("preserve?", '\x11'), ("recursive", 'R'), ("reflink?", '\x15'),
      ("remove-destination", '\x06'), ("sparse=", '\x16'), ("strip-trailing-slashes", '\x17'),
      ("suffix=", 'S'), ("symbolic-link", 's'), ("target-directory=", 't'), ("update", 'u'),
      ("verbose", 'v')]⟩ 1 fun name g => do
  let lists := (g.values '\x11' ++ g.values '\x12').flatMap fun w =>
    (Text.split ',' (textOf w)).filter (· ≠ "")
  match lists.find? fun w => (choice? preserveWords (bytesOf w)).isNone with
  | some w =>
    wrongChoice name (if (g.values '\x11').isEmpty then "--no-preserve" else "--preserve")
      preserveWords (bytesOf w) 1
  | none =>
    let keeps (word : String) : Bool :=
      let listed (c : Char) : Bool := (g.values c).any fun w =>
        (Text.split ',' (textOf w)).any fun x =>
          let found := choice? preserveWords (bytesOf x)
          found == some word || found == some "all"
      (g.has 'p' || g.has 'a' || listed '\x11' ||
        ((g.values '\x11').contains [] && ["mode", "timestamps", "ownership"].contains word)) &&
        !listed '\x12'
    let recursive := ['a', 'r', 'R'].any g.has
    let last := g.last? ['a', 'd', 'H', 'L', 'P']
    let follows := match last with
      | some 'L' => true
      | some 'H' => true
      | some _ => false
      | none => !recursive || g.has 'l'
    let t : Transfer := ⟨name, g, recursive, follows, follows && last ≠ some 'H',
      keeps "mode", keeps "timestamps", keeps "ownership"⟩
    let dropsMode := (g.values '\x12').any fun w =>
      (Text.split ',' (textOf w)).any fun x => (choice? preserveWords (bytesOf x)) == some "mode"
    let operands := if g.has '\x17' then g.operands.map fun w => bytesOf (withoutSlashes (textOf w))
      else g.operands
    if g.has '\x14' then
      match operands.reverse with
      | last :: sources =>
        let directory := textOf ((g.value? 't').getD last)
        let sources := if (g.value? 't').isSome then operands else sources.reverse
        if !(← isDirectoryAt directory) then
          misuse name "with --parents, the destination must be a directory" 1
        else eachOperand sources fun w => do
          let source := textOf w
          let way := Files.strides (pathBefore source)
          let way := if way = ["."] then [] else way
          let _ ← (List.range way.length).mapM fun i => do
            let part := "/".intercalate (way.take (i + 1))
            let target := inside directory part
            match ← makeDirectory target none with
            | .ok () => if g.has 'v' then putLine (part ++ " -> " ++ target)
            | .error _ => pure ()
          t.copy 10000 true none source (inside directory
            ("/".intercalate (Files.strides source)))
      | [] => missingOperand name "file operand"
    else
      match ← targets name (g.value? 't') (g.has 'T') operands with
      | .error status => pure status
      | .ok pairs =>
        let dots (source target : String) : String :=
          if lastStep source = "." ∨ lastStep source = ".." then
            (if (withoutSlashes target).toList.getLast? = some '.' then pathBefore target
              else target)
          else target
        let results ← pairs.mapM fun (source, target) => do
          let well ← t.copy 10000 true none source (dots source target)
          if dropsMode ∧ well then
            match ← entryAt target with
            | .ok (q, some n) =>
              let mask := (← get).mask
              modifyDisk (·.change q fun m => { m with
                mode := Disk.permitted (if n.isDirectory then 0o777 else 0o666) mask })
            | _ => pure ()
          pure well
        pure (statusOf (results.all id))

def moveOne (t : Transfer) (source target : String) : Action Bool := do
  let wrong (message : String) : Action Bool := refuse t.name message
  match ← present false source with
  | .error fault => wrong ("cannot stat " ++ quotedText source ++ ": " ++ fault.reason)
  | .ok (p, n) =>
    let failure (reason : String) : Action Bool :=
      wrong ("cannot move " ++ quotedText source ++ " to " ++ quotedText target ++ ": " ++ reason)
    let bare := withoutSlashes target
    match ← linkAt (if n.isDirectory then bare else target) with
    | .error fault =>
      if target = "" ∧ !n.isDirectory then
        wrong ("cannot overwrite directory '' with non-directory")
      else if fault = .notFound ∧ bare ≠ target ∧ !n.isDirectory then failure "Not a directory"
      else failure fault.reason
    | .ok (q, there) =>
      let throughLink := match ← linkAt (withoutSlashes source) with
        | .ok (_, some m) => m.isLink && withoutSlashes source ≠ source
        | _ => false
      if throughLink then failure "Not a directory"
      else if p = q then
        wrong (quotedText source ++ " and " ++ quotedText target ++ " are the same file")
      else if n.isDirectory ∧ p.isPrefixOf q then
        wrong ("cannot move " ++ quotedText source ++ " to a subdirectory of itself, " ++
          quotedText target)
      else
        let move (backup : Option String) : Action Bool := do
          if (← nodeIndex? p) = (← nodeIndex? q) then modifyDisk (·.unlink p)
          else
            modifyDisk fun d =>
              (if there.isSome ∧ backup.isNone then d.unlink q else d).rename p q
          touchDirectory p
          touchDirectory q
          t.told "renamed " source target backup
          pure true
        match there with
        | none => move none
        | some m =>
          match ← backup? t.given target with
          | some b =>
            if !(← t.mayReplace target m n) then pure true
            else
              moveAway target b
              move (some b)
          | none =>
            if n.isDirectory ∧ !m.isDirectory then
              wrong ("cannot overwrite non-directory " ++ quotedText target ++
                " with directory " ++ quotedText source)
            else if m.isDirectory ∧ !n.isDirectory then
              wrong ("cannot overwrite directory " ++ quotedText target ++ " with non-directory")
            else if !(← t.mayReplace target m n) then pure true
            else if m.isDirectory ∧ !(← namesAt q).isEmpty then failure "Directory not empty"
            else move none

def mv : Tool := withOptions
    ⟨"bfinTuvZ", "St", [("backup?", '\x08'), ("context", 'Z'), ("force", 'f'), ("interactive", 'i'),
      ("no-clobber", 'n'), ("no-target-directory", 'T'), ("strip-trailing-slashes", '\x17'),
      ("suffix=", 'S'), ("target-directory=", 't'), ("update", 'u'), ("verbose", 'v')]⟩ 1
    fun name g => do
  let operands := if g.has '\x17' then g.operands.map fun w => bytesOf (withoutSlashes (textOf w))
    else g.operands
  match ← targets name (g.value? 't') (g.has 'T') operands with
  | .error status => pure status
  | .ok pairs =>
    let t : Transfer := ⟨name, g, true, false, false, true, true, true⟩
    let results ← pairs.mapM fun (source, target) => moveOne t source target
    pure (statusOf (results.all id))

def install : Tool := withOptions
    ⟨"bcCdDpsTvZ", "gmoSt", [("backup?", '\x08'), ("compare", 'C'), ("directory", 'd'),
      ("group=", 'g'), ("mode=", 'm'), ("no-target-directory", 'T'), ("owner=", 'o'),
      ("preserve-timestamps", 'p'), ("strip", 's'), ("strip-program=", '\x10'), ("suffix=", 'S'),
      ("target-directory=", 't'), ("verbose", 'v')]⟩ 1 fun name g => do
  let mode := (g.value? 'm').map fun w => (w, Mode.read? (textOf w))
  match mode with
  | some (w, none) =>
    say name ("invalid mode " ++ quote w)
    pure 1
  | mode =>
    let changes := (mode.bind (·.2)).getD []
    let permissions (isDirectory : Bool) : Nat :=
      if mode.isNone then 0o755 else Mode.adjust changes isDirectory 0 0
    let made (path : String) : Action Unit := do
      if g.has 'v' then putLine (name ++ ": creating directory " ++ quotedText path)
    if g.has 'd' then
      if g.operands.isEmpty then missingOperand name "file operand"
      else eachOperand g.operands fun w => do
        if ← makeWayTo name (textOf w) none made then
          match ← entryAt (textOf w) with
          | .ok (p, some _) =>
            modifyDisk (·.change p fun n => { n with mode := permissions true })
            pure true
          | _ => pure false
        else pure false
    else
      let lead ← match g.has 'D', g.value? 't', g.operands with
        | true, some d, _ => makeWayTo name (textOf d) none made
        | true, none, [_, target] =>
          let before := pathBefore (textOf target)
          if before = "." then pure true else makeWayTo name before none made
        | _, _, _ => pure true
      if !lead then pure 1
      else
        match ← targets name (g.value? 't') (g.has 'T' || (g.has 'D' && (g.value? 't').isNone))
            g.operands with
        | .error status => pure status
        | .ok pairs =>
          let t : Transfer := ⟨name, { g with options := ('\x06', []) :: g.options.filter fun o =>
              ['b', '\x08', 'S', 'T'].contains o.1 }, false, true, true, false, g.has 'p', false⟩
          let results ← pairs.mapM fun (source, target) => do
            match ← node? source with
            | some n =>
              if n.isDirectory then refuse name ("omitting directory " ++ quotedText source)
              else
                if g.has 'v' then
                  putLine (quotedText source ++ " -> " ++ quotedText target)
                if ← t.copy 10 true none source target then
                  match ← entryAt target with
                  | .ok (q, some _) =>
                    modifyDisk (·.change q fun n => { n with mode := permissions false })
                  | _ => pure ()
                  pure true
                else pure false
            | none => t.copy 10 true none source target
          pure (statusOf (results.all id))

def inaccessible (name path : String) (fault : FileFault) (quiet : Bool) : Action Bool := do
  if !quiet then
    let dangling ← do
      match ← linkAt path with
      | .ok (_, some n) => pure n.isLink
      | _ => pure false
    say name (if dangling ∧ name = "chmod" then "cannot operate on dangling symlink " ++
      quotedText path else (if dangling then "cannot dereference " else "cannot access ") ++
      quotedText path ++ ": " ++ fault.reason)
  pure false

def changeTree (change : String → Path → Node → Action Bool) (recursive first : Bool) :
    Nat → String → Path → Node → Action Bool
  | 0, _, _, _ => pure false
  | fuel + 1, path, p, n => do
    let before ← if first then change path p n else pure true
    let below ← if recursive ∧ n.isDirectory then do
        let names ← namesAt p
        let results ← names.mapM fun name => do
          match (← getWorld).disk.node? (p ++ [name]) with
          | some m => changeTree change recursive first fuel (inside path name) (p ++ [name]) m
          | none => pure true
        pure (results.all id)
      else pure true
    let after ← if first then pure true else change path p n
    pure (before && below && after)

def isModeWord (w : Bytes) : Bool :=
  match textOf w |>.toList with
  | '-' :: c :: _ => "rwxXstugoa,+=01234567".toList.contains c
  | _ => false

def chmod : Tool := fun name words => do
  let before := words.takeWhile (· ≠ bytesOf "--")
  let asked := before.filter isModeWord
  let words := before.filter (!isModeWord ·) ++ words.drop before.length
  withOptions ⟨"Rcfv", "", [("changes", 'c'), ("no-preserve-root", '\x03'),
      ("preserve-root", '\x05'), ("quiet", 'f'), ("recursive", 'R'), ("reference=", '\x04'),
      ("silent", 'f'), ("verbose", 'v')]⟩ 1 (fun name g => do
    let reference := g.value? '\x04'
    let fromOptions := !asked.isEmpty
    let (mode, files) := if fromOptions then (List.intercalate [0x2C] asked, g.operands)
      else if reference.isSome then ([], g.operands)
      else (g.operands.headD [], g.operands.drop 1)
    if reference.isSome ∧ fromOptions then
      misuse name "cannot combine mode and --reference options" 1
    else if g.operands.isEmpty then missingOperand name "operand"
    else if files.isEmpty then
      misuse name ("missing operand after " ++ quote (g.operands.headD [])) 1
    else
      let wanted : Except String (List Mode.Change) ← match reference with
        | some r =>
          match ← present true (textOf r) with
          | .ok (_, n) =>
            pure (.ok [⟨.assign, .given, Mode.allBits, n.mode, Mode.allBits⟩])
          | .error fault =>
            pure (.error ("failed to get attributes of " ++ quoted r ++ ": " ++ fault.reason))
        | none =>
          match Mode.read? (textOf mode) with
          | some changes => pure (.ok changes)
          | none => pure (.error "")
      match wanted with
      | .error "" => misuse name ("invalid mode: " ++ quote mode) 1
      | .error message =>
        say name message
        pure 1
      | .ok changes =>
        let mask := (← get).mask
        let change (path : String) (p : Path) (n : Node) : Action Bool := do
          if n.isLink then pure true
          else
            let bits := Mode.adjust changes n.isDirectory mask n.mode
            modifyDisk (·.change p fun n => { n with mode := bits })
            let shown (bits : Nat) : String := Mode.digits bits ++ " (" ++ Mode.letters bits ++ ")"
            if bits ≠ n.mode ∧ (g.has 'v' ∨ g.has 'c') then
              putLine ("mode of " ++ quotedText path ++ " changed from " ++ shown n.mode ++
                " to " ++
                shown bits)
            else if g.has 'v' then
              putLine ("mode of " ++ quotedText path ++ " retained as " ++ shown bits)
            let naive := Mode.adjust changes n.isDirectory 0 n.mode
            if fromOptions ∧ Mode.without bits naive ≠ 0 then
              say name (named (bytesOf path) ++ ": new permissions are " ++ Mode.letters bits ++
                ", not " ++ Mode.letters naive)
              pure false
            else pure true
        eachOperand files fun w => do
          match ← present true (textOf w) with
          | .error fault => inaccessible name (textOf w) fault (g.has 'f')
          | .ok (p, n) =>
            changeTree change (g.has 'R') true 10000 (textOf w) p n) name words

def userNumber? (text : String) : Option Nat :=
  match (System.users.find? fun u => u.name == text).map (·.number) with
  | some n => some n
  | none => digits? (bytesOf (if Text.startsWith "+" text
      then String.ofList (text.toList.drop 1) else text))

def groupNumber? (text : String) : Option Nat :=
  match System.groups.lookup text with
  | some n => some n
  | none => digits? (bytesOf (if Text.startsWith "+" text
      then String.ofList (text.toList.drop 1) else text))

def userName (number : Nat) : String :=
  ((System.users.find? fun u => u.number == number).map (·.name)).getD (toString number)

def groupName (number : Nat) : String :=
  ((System.groups.find? fun g => g.2 == number).map (·.1)).getD (toString number)

structure Owner where
  user : Option Nat
  group : Option Nat

def Owner.read? (text : String) : Except String Owner :=
  let cs := text.toList
  let separator := if cs.contains ':' then ':' else '.'
  let user := String.ofList (cs.takeWhile (· ≠ separator))
  let hasGroup := user.length < cs.length
  let group := String.ofList (cs.drop (user.length + 1))
  if separator = '.' ∧ (userNumber? text).isSome then .ok ⟨userNumber? text, none⟩
  else
    let number := if user = "" then none else userNumber? user
    if user ≠ "" ∧ number.isNone then .error ("invalid user: " ++ quote (bytesOf text))
    else if !hasGroup then .ok ⟨number, none⟩
    else if group = "" then .ok ⟨number, number⟩
    else
      match groupNumber? group with
      | some n => .ok ⟨number, some n⟩
      | none => .error ("invalid group: " ++ quote (bytesOf text))

def changeOwners (name : String) (g : Given) (onlyGroup : Bool) : Action Nat := do
  let reference := g.value? '\x04'
  let files := if reference.isSome then g.operands else g.operands.drop 1
  if g.operands.isEmpty then missingOperand name "operand"
  else if files.isEmpty then misuse name ("missing operand after " ++ quote (g.operands.headD [])) 1
  else
    let text := textOf (g.operands.headD [])
    let owner : Except String Owner ← match reference with
      | some r =>
        match ← present true (textOf r) with
        | .ok (_, n) => pure (.ok ⟨if onlyGroup then none else some n.owner, some n.group⟩)
        | .error fault =>
          pure (.error ("failed to get attributes of " ++ quoted r ++ ": " ++ fault.reason))
      | none =>
        pure (if !onlyGroup then Owner.read? text
          else if text = "" then .ok ⟨none, none⟩
          else
            match groupNumber? text with
            | some n => .ok ⟨none, some n⟩
            | none => .error ("invalid group: " ++ quote (bytesOf text)))
    match owner, ((g.value? '\x07').map fun w => Owner.read? (textOf w)) with
    | .error message, _ =>
      say name message
      pure 1
    | _, some (.error message) =>
      say name message
      pure 1
    | .ok owner, required =>
      let required : Owner := match required with
        | some (.ok o) => o
        | _ => ⟨none, none⟩
      let shown (u v : Nat) : String :=
        if onlyGroup then groupName v
        else if owner.user.isSome ∧ owner.group.isSome then userName u ++ ":" ++ groupName v
        else if owner.group.isSome then ":" ++ groupName v else userName u
      let wanted : String :=
        if onlyGroup ∨ reference.isSome ∨ text.toList.getLast? = some ':' then
          shown (owner.user.getD 0) (owner.group.getD 0) else text
      let change (path : String) (p : Path) (n : Node) : Action Bool := do
        let fits := required.user.all (· == n.owner) && required.group.all (· == n.group)
        if !fits then pure true
        else
          let user := owner.user.getD n.owner
          let group := owner.group.getD n.group
          modifyDisk (·.change p fun n => { n with owner := user, group := group })
          let what := if onlyGroup ∨ (owner.user.isNone ∧ owner.group.isSome) then "group"
            else "ownership"
          let old := if what = "group" then groupName n.group else shown n.owner n.group
          let new := if what = "group" ∧ !onlyGroup then
            String.ofList (wanted.toList.dropWhile (· = ':')) else wanted
          if (user ≠ n.owner ∨ group ≠ n.group) ∧ (g.has 'v' ∨ g.has 'c') then
            putLine ("changed " ++ what ++ " of " ++ quotedText path ++ " from " ++ old ++ " to " ++
              new)
          else if g.has 'v' then
            putLine (what ++ " of " ++ quotedText path ++ " retained as " ++ old)
          pure true
      eachOperand files fun w => do
        let follow := !(g.has 'h' || (g.has 'R' && g.last? ['H', 'L', 'P'] ≠ some 'L' &&
          g.last? ['H', 'L', 'P'] ≠ some 'H'))
        match ← present follow (textOf w) with
        | .error fault => inaccessible name (textOf w) fault (g.has 'f')
        | .ok (p, n) => changeTree change (g.has 'R') false 10000 (textOf w) p n

def ownerKnown : Known :=
  ⟨"RcfhvHLP", "", [("changes", 'c'), ("dereference", '\x06'), ("from=", '\x07'),
    ("no-dereference", 'h'), ("no-preserve-root", '\x03'), ("preserve-root", '\x05'),
    ("quiet", 'f'), ("recursive", 'R'), ("reference=", '\x04'), ("silent", 'f'), ("verbose", 'v')]⟩

def chown : Tool := withOptions ownerKnown 1 fun name g => changeOwners name g false

def chgrp : Tool := withOptions ownerKnown 1 fun name g => changeOwners name g true

end CallChart.Shell.Tool
