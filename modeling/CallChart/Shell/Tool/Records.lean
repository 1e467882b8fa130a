import CallChart.Shell.Record.Run
import CallChart.Shell.Tool.Environment

namespace CallChart.Shell.Tool

open CallChart.Shell.Action

namespace Records

structure Settings where
  files : List Bytes
  separator : Option Bytes
  values : List (String × Bytes)

inductive Course where
  | run (s : Settings) (words : List Bytes)
  | version
  | usage
  | fault (message : String)

def follow : Nat → Settings → List Bytes → Course × List String
  | 0, s, words => (.run s words, [])
  | _, s, [] => (.run s [], [])
  | fuel + 1, s, w :: rest =>
    let long (name : String) : Course × List String :=
      if name = "version" then (.version, [])
      else if name = "help" ∨ name = "usage" then (.usage, [])
      else
        let (course, warnings) := follow fuel s rest
        let silent := ["compat", "dump", "posix", "interactive", "posix_space", "sprintf", "random"]
        let known := name ≠ "" ∧ silent.any (Text.startsWith (String.ofList
          (name.toList.takeWhile (· ≠ '='))) ·)
        (course, if known then warnings else
          ("vacuous option: -W \"" ++ name ++ "\"") :: warnings)
    match w with
    | [0x2D, 0x2D] => (.run s rest, [])
    | 0x2D :: 0x2D :: name => long (textOf name)
    | 0x2D :: letter :: attached =>
      let (value, rest') : Option Bytes × List Bytes := match attached, rest with
        | _ :: _, rest => (some attached, rest)
        | [], v :: rest => (some v, rest)
        | [], [] => (none, [])
      let c := Char.ofNat letter.toNat
      if !(['f', 'F', 'v', 'W'].contains c) then (.fault ("not an option: " ++ textOf w), [])
      else
        match c, value with
        | c, none => (.fault ("option -" ++ c.toString ++ " lacks argument"), [])
        | 'f', some v => follow fuel { s with files := s.files ++ [v] } rest'
        | 'F', some v =>
          follow fuel { s with separator := some (Record.Token.unescaped (v.length + 1) v) } rest'
        | 'v', some v =>
          match Record.Run.assignment? v with
          | some a => follow fuel { s with values := s.values ++ [a] } rest'
          | none => (.fault ("improper assignment: -v " ++ textOf v), [])
        | _, some v =>
          match attached with
          | [] => follow fuel s ((0x2D :: 0x2D :: v) :: rest')
          | _ => long (textOf attached)
    | _ => (.run s (w :: rest), [])

def usage : String :=
  "Usage: mawk [Options] [Program] [file ...]\n\nProgram:\n" ++
  "    The -f option value is the name of a file containing program text.\n" ++
  "    If no -f option is given, a \"--\" ends option processing; the following\n" ++
  "    parameters are the program text.\n\nOptions:\n" ++
  "    -f program-file  Program  text is read from file instead of from the\n" ++
  "                     command-line.  Multiple -f options are accepted.\n" ++
  "    -F value         sets the field separator, FS, to value.\n" ++
  "    -v var=value     assigns value to program variable var.\n" ++
  "    --               unambiguous end of options.\n\n" ++
  "    Implementation-specific options are prefixed with \"-W\".  They can be\n" ++
  "    abbreviated:\n\n" ++
  "    -W version       show version information and exit.\n" ++
  "    -W dump          show assembler-like listing of program and exit.\n" ++
  "    -W help          show this message and exit.\n" ++
  "    -W interactive   set unbuffered output, line-buffered input.\n" ++
  "    -W exec file     use file as program as well as last option.\n" ++
  "    -W posix         stricter POSIX checking.\n" ++
  "    -W posix_space   do not consider \"\\n\" a space.\n" ++
  "    -W random=number set initial random seed.\n" ++
  "    -W sprintf=number adjust size of sprintf buffer.\n" ++
  "    -W usage         show this message and exit.\n"

def sources : List Bytes → Action (Except String Bytes)
  | [] => pure (.ok [])
  | file :: rest => do
    let opened : Except FileFault (Option Nat) ← if file = [0x2D] then do pure (.ok (← streamOf 0))
      else do pure ((← openInput (textOf file)).map some)
    match opened with
    | .error fault =>
      pure (.error ("cannot open \"" ++ textOf file ++ "\" (" ++ fault.reason ++ ")"))
    | .ok none => pure (.error "read error (Bad file descriptor)")
    | .ok (some id) =>
      match (← getWorld).unreadable? id with
      | some fault => pure (.error ("read error (" ++ fault.reason ++ ")"))
      | none =>
        let bytes ← readStream id
        let bytes := if rest.isEmpty ∨ bytes.getLast? = some 0x0A then bytes else bytes ++ [0x0A]
        pure ((← sources rest).map (bytes ++ ·))

def start (perform : Perform) (name : String) (s : Settings) (origin : String) (source : Bytes)
    (arguments : List Bytes) : Action Nat := do
  match Record.Parser.program source with
  | .error faults =>
    for (line, message, bare) in faults do
      let place := origin ++ (if bare then "" else "line ") ++ toString line
      writeText 2 (name ++ ": " ++ place ++ ": " ++ message ++ "\n")
    pure 2
  | .ok program =>
    let outside := (← environment).map fun (n, v) => (bytesOf n, v)
    (Record.Memory.start program name s.separator arguments outside).run perform s.values

end Records

def awk (perform : Perform) : Tool := fun called words => do
  let name := (Text.split '/' called).getLastD called
  let (course, warnings) := Records.follow (2 * words.length + 1) ⟨[], none, []⟩ words
  for warning in warnings do
    writeText 2 (name ++ ": " ++ warning ++ "\n")
  match course with
  | .fault message =>
    writeText 2 (name ++ ": " ++ message ++ "\n")
    pure 2
  | .version =>
    putLine "mawk 1.3.4 20200120"
    pure 0
  | .usage =>
    writeText 2 Records.usage
    pure 0
  | .run s words =>
    match s.files, words with
    | [], [] =>
      writeText 2 Records.usage
      pure 0
    | [], source :: arguments => Records.start perform name s "" source arguments
    | file :: _, arguments =>
      match ← Records.sources s.files with
      | .ok source => Records.start perform name s (textOf file ++ ": ") source arguments
      | .error message =>
        writeText 2 (name ++ ": " ++ message ++ "\n")
        pure 2

end CallChart.Shell.Tool
