import CallChart.Shell.Builtin.Basic
import CallChart.Shell.Condition
import CallChart.Shell.Format

namespace CallChart.Shell

open CallChart.Shell.Action

namespace Condition

def nodeAt (s : Session) (follow : Bool) (w : Bytes) : Option Node :=
  let path := textOf w
  match channelOf? path with
  | none =>
    match s.world.disk.entry follow s.directory path with
    | .ok (_, n) => n
    | .error _ => none
  | some channel =>
    (s.channels.lookup channel).bind fun id =>
      let special (body : Body) : Node := ⟨body, 0o600, Disk.beginning, 0, 0⟩
      match s.world.stream id with
      | .file node _ _ _ _ => s.world.disk.nodes[node]?
      | .directory => some (special .directory)
      | .input _ _ _ => some (special .pipe)
      | .output _ => some (special .pipe)
      | _ => some (special (.device "null"))

def nodeHas (n : Node) (c : Char) : Bool :=
  match c with
  | 'f' => n.isFile
  | 'd' => n.isDirectory
  | 'h' => n.isLink
  | 'L' => n.isLink
  | 'p' => n.body == .pipe
  | 'c' =>
    match n.body with
    | .device _ => true
    | _ => false
  | 's' => n.size ≠ 0
  | 'x' => n.isDirectory || n.isExecutable
  | 'k' => n.mode / 512 % 2 = 1
  | 'g' => n.mode / 1024 % 2 = 1
  | 'u' => n.mode / 2048 % 2 = 1
  | 'O' => n.owner = 0
  | 'G' => n.group = 0
  | c => ['e', 'r', 'w'].contains c

def fileHas (s : Session) (c : Char) (w : Bytes) : Bool :=
  ((nodeAt s (c ≠ 'h' && c ≠ 'L') w).map (nodeHas · c)).getD false

def sameFile (s : Session) (a b : Bytes) : Bool :=
  let index (w : Bytes) : Option Nat :=
    match s.world.disk.locate true s.directory (textOf w) with
    | .ok p => s.world.disk.index? p
    | .error _ => none
  match index a, index b with
  | some i, some j => i == j
  | _, _ => false

def World.ofSession (s : Session) : World where
  file := fileHas s
  newer a b :=
    match nodeAt s true a, nodeAt s true b with
    | some m, some n => n.modified < m.modified
    | _, _ => false
  same := sameFile s

end Condition

namespace Builtin

def testWords : Builtin := fun words => do
  let s ← get
  match Condition.check (.ofSession s) (words.length + 1) true words.toArray with
  | .ok true => pure 0
  | .ok false => pure 1
  | .error message => fail message

def bracketed : Builtin := fun words => do
  if words.getLast? = some [0x5D] then testWords words.dropLast else fail "missing ]"

def printFormatted : Builtin := fun words => do
  let (_, words) ← flags "" words
  match words with
  | [] => fail "usage: printf format [arg ...]"
  | format :: arguments =>
    let (bytes, complaints, status) := Format.print format arguments
    output bytes
    for message in complaints do
      complain message
    pure status

def echoWords : Builtin := fun words => do
  output (Format.echoed words)
  pure 0

end Builtin
end CallChart.Shell
