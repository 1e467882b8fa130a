import CallChart.Executable
import CallChart.Shell.Child
import CallChart.Shell.Tool.Answers
import CallChart.Shell.Tool.Batches
import CallChart.Shell.Tool.Checksum
import CallChart.Shell.Tool.Coding
import CallChart.Shell.Tool.Comparing
import CallChart.Shell.Tool.Copy
import CallChart.Shell.Tool.Count
import CallChart.Shell.Tool.Dump
import CallChart.Shell.Tool.Edit
import CallChart.Shell.Tool.Environment
import CallChart.Shell.Tool.Expression
import CallChart.Shell.Tool.Finding
import CallChart.Shell.Tool.Listing
import CallChart.Shell.Tool.Making
import CallChart.Shell.Tool.Numbering
import CallChart.Shell.Tool.Packing
import CallChart.Shell.Tool.Paging
import CallChart.Shell.Tool.Paragraph
import CallChart.Shell.Tool.Pieces
import CallChart.Shell.Tool.Records
import CallChart.Shell.Tool.Relation
import CallChart.Shell.Tool.Repeats
import CallChart.Shell.Tool.Report
import CallChart.Shell.Tool.Rescaling
import CallChart.Shell.Tool.Search
import CallChart.Shell.Tool.Sorting
import CallChart.Shell.Tool.Transfer
import CallChart.Shell.Tool.Translation
import CallChart.Shell.Tool.Waiting

namespace CallChart.Shell.Tool

open CallChart.Shell.Action

def constant (status : Nat) : Tool := fun _ _ => pure status

def copying : List (String × Tool) :=
  [("cat", cat), ("head", head), ("tail", tail), ("tac", tac), ("rev", rev), ("tee", tee),
    ("wc", wc), ("sum", sum), ("cksum", cksum), ("md5sum", digestTool "md5"),
    ("sha1sum", digestTool "sha1"), ("sha224sum", digestTool "sha224"),
    ("sha256sum", digestTool "sha256"), ("sha384sum", digestTool "sha384"),
    ("sha512sum", digestTool "sha512"), ("b2sum", digestTool "blake2b")]

def placing : List (String × Tool) :=
  [("mkdir", mkdir), ("rmdir", rmdir), ("touch", touch), ("mkfifo", mkfifo), ("mktemp", mktemp),
    ("truncate", truncate), ("ln", ln), ("link", link), ("unlink", unlink), ("rm", rm), ("cp", cp),
    ("mv", mv), ("install", install), ("chmod", chmod), ("chown", chown), ("chgrp", chgrp),
    ("ls", ls), ("dir", dir), ("vdir", vdir), ("stat", stat), ("readlink", readlink),
    ("realpath", realpath), ("du", du)]

def answering : List (String × Tool) :=
  [("basename", basename), ("dirname", dirname), ("pathchk", pathchk), ("echo", echo),
    ("printf", printf), ("test", test false), ("[", test true), ("pwd", pwd), ("uname", uname),
    ("arch", answer ⟨"", "", []⟩ machine), ("hostname", answer ⟨"", "", []⟩ hostName),
    ("nproc", nproc), ("logname", logname), ("tty", tty), ("id", id), ("whoami", whoami),
    ("groups", groups), ("sync", sync), ("which.debianutils", which), ("date", date),
    ("factor", factor), ("printenv", printenv), ("sleep", sleep), ("yes", yes),
     ("getopt", getopt), ("true", constant 0), ("false", constant 1)]

def ordering : List (String × Tool) :=
  [("sort", sort), ("uniq", uniq), ("comm", comm), ("join", join), ("tsort", tsort),
    ("shuf", shuf), ("nl", nl), ("seq", seq)]

def forming : List (String × Tool) :=
  [("tr", tr), ("cut", cut), ("paste", paste), ("fold", fold), ("expand", expand),
    ("unexpand", unexpand), ("fmt", fmt), ("od", od), ("base64", codingTool "base64"),
    ("base32", codingTool "base32"), ("basenc", basenc), ("csplit", csplit),
    ("dd", dd), ("numfmt", numfmt), ("pr", pr), ("gzip", gzip), ("gunzip", gunzip), ("zcat", zcat)]

def finding : List (String × Tool) :=
  [("grep", grep), ("egrep", grepAs 'E'), ("fgrep", grepAs 'F'), ("expr", expr),
    ("cmp", cmp), ("diff", diff)]

def starting (perform : Perform) : List (String × Tool) :=
  [("mawk", awk perform), ("sed", sed perform), ("split", split perform), ("find", find perform),
    ("env", env perform),
    ("nice", nice perform), ("nohup", nohup perform),
    ("setsid", setsid perform), ("stdbuf", stdbuf perform), ("timeout", timeout perform),
    ("xargs", xargs perform)]

def table (perform : Perform) : List (String × Tool) :=
  copying ++ placing ++ answering ++ ordering ++ forming ++ finding ++ starting perform

end CallChart.Shell.Tool

namespace CallChart.Shell

open CallChart.Shell.Action

def runStream (perform : Perform) (id : Nat) : Action Bool := do
  Builtin.runText perform true false (← readStream id)

def freshValues : List (String × String) := [("IFS", " \t\n"), ("OPTIND", "1")]

def inherited? (name : String) (v : Variable) : Option (String × Variable) :=
  if v.exported ∧ isName name.toList ∧ name ≠ "PPID" then
    match freshValues.lookup name with
    | some value => some (name, { v with value := some (bytesOf value) })
    | none => some (name, v)
  else none

def firstBindings (s : Session) (parent : Nat) : List (String × Variable) :=
  let own := (freshValues ++ [("PS1", "# "), ("PS2", "> "), ("PS4", "+ "),
      ("PPID", toString parent)]).map
    fun (name, value) => (name, (⟨some (bytesOf value), false, false⟩ : Variable))
  let inherited := s.bindings.filterMap fun (name, v) => inherited? name v
  inherited ++ own.filter fun (name, _) => (inherited.lookup name).isNone

def firstPlace (s : Session) : String :=
  let given := textOf (((s.bindings.lookup "PWD").bind (·.value)).getD [])
  match s.world.disk.locate true [] given with
  | .ok p => if Text.startsWith "/" given ∧ p = s.directory then given
    else Disk.written s.directory
  | .error _ => Disk.written s.directory

def shellOptions : Nat → List Bytes → Action (List Char × List Bytes)
  | 0, ws => pure ([], ws)
  | _, [] => pure ([], [])
  | fuel + 1, w :: rest => do
    match (textOf w).toList with
    | ['-', '-'] => pure ([], rest)
    | ['-'] => pure ([], rest)
    | '-' :: cs =>
      let rest ← Builtin.turnLetters true (cs.filter fun c => c ≠ 'c' ∧ c ≠ 'l') rest
      let (more, words) ← shellOptions fuel rest
      pure (cs ++ more, words)
    | '+' :: cs =>
      let rest ← Builtin.turnLetters false (cs.filter fun c => c ≠ 'c' ∧ c ≠ 'l') rest
      let (more, words) ← shellOptions fuel rest
      pure ((if cs.contains 'c' then ['c'] else []) ++ more, words)
    | _ => pure ([], w :: rest)

def beShell (perform : Perform) (words : List Bytes) : Action Unit := do
  let s ← get
  let parent := (s.world.alive[1]?).getD (s.world.first - 1)
  let place := firstPlace s
  set { s with
    name := textOf (words.headD []), root := s.pid, arguments := [], functions := [], aliases := []
    switches := [], bindings := firstBindings s parent, called := place
    traps := s.traps.filter (·.2.isEmpty), caught := [], jobs := [], latest := none, status := 0
    filled := 0, line := 0, reading := 0, reader := "", loops := 0, kept := [], calls := 0
    last := false, guarded := false, option := (1, none), pending := none, documents := #[]
    found := [], limits := s.limits, buffer := none, unwritten := none, tracing := false }
  putVariable "PWD" (some ⟨some (bytesOf place), true, false⟩)
  closing perform do
    let (letters, words) ← shellOptions (words.length + 1) (words.drop 1)
    let fromInput : Action Unit := do
      Builtin.turn .stdin true
      match ← streamOf 0 with
      | some id => let _ ← runStream perform id
      | none => pure ()
    match letters.contains 'c', words with
    | true, [] => fail "-c requires an argument"
    | true, text :: rest =>
      match rest with
      | [] => pure ()
      | name :: arguments =>
        modify fun s => { s with name := textOf name, arguments := arguments }
      modify fun s => { s with line := 1 }
      let _ ← Builtin.runText perform false (!letters.contains 's') text
    | false, [] => fromInput
    | false, file :: arguments =>
      if letters.contains 's' then
        modify fun s => { s with arguments := words }
        fromInput
      else
        let path := textOf file
        match ← openInput path with
        | .error fault => Target.fault "open" path "No such file" fault
        | .ok id =>
          modify fun s => { s with name := path, arguments := arguments }
          match (← getWorld).unreadable? id with
          | some _ => pure ()
          | none => let _ ← runStream perform id

def become (perform : Perform) (i : Invocation) : Action Unit := do
  if i.program = "sh" ∨ i.program = "dash" ∨ i.program = "bash" then beShell perform i.words
  else
    match (Tool.table perform).lookup i.program with
    | some tool => Tool.perform i.program tool (textOf (i.words.headD [])) (i.words.drop 1)
    | none => setStatus 127

def resolved (path : String) (words : List Bytes) : Action (Except FileFault Invocation) := do
  let s ← get
  match Invocation.resolve s.world.disk s.directory Invocation.depthLimit path words with
  | .error .execFormat => pure (.ok ⟨"sh", bytesOf "sh" :: bytesOf path :: words.drop 1⟩)
  | r => pure r

def unstarted (name : String) (fault : FileFault) : Action Unit := do
  complain (name ++ ": " ++ Builtin.missing fault)
  setStatus (if [FileFault.notFound, .notDirectory, .tooManyLinks, .nameTooLong].contains fault
    then 127 else 126)

def becomeAt (perform : Perform) (path : String) (words : List Bytes) : Action Unit := do
  match ← resolved path words with
  | .error fault => unstarted (textOf (words.headD [])) fault
  | .ok i => become perform i

def spawn (perform : Perform) (path : String) (words : List Bytes) : Action Unit := do
  let e ← asProcess (becomeAt perform path words)
  Builtin.noticeJobs
  takeSignals
  report e
  setStatus e.code

end CallChart.Shell
