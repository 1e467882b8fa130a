import CallChart.System
import CallChart.Text.Utf8

namespace CallChart.Shell

abbrev Bytes := List UInt8

def bytesOf (s : String) : Bytes := Utf8.encode s

def textOf (bytes : Bytes) : String := Utf8.decodeLossy bytes

inductive Body where
  | file (bytes : Bytes)
  | directory
  | link (target : String)
  | device (name : String)
  | pipe
  deriving DecidableEq, Repr

structure Node where
  body : Body
  mode : Nat
  modified : Int
  owner : Nat
  group : Nat
  deriving DecidableEq, Repr

namespace Node

def isDirectory (n : Node) : Bool := n.body == .directory

def isFile (n : Node) : Bool :=
  match n.body with
  | .file _ => true
  | _ => false

def isLink (n : Node) : Bool :=
  match n.body with
  | .link _ => true
  | _ => false

def isExecutable (n : Node) : Bool := n.mode % 2 = 1 || n.mode / 8 % 2 = 1 || n.mode / 64 % 2 = 1

def bytes (n : Node) : Bytes :=
  match n.body with
  | .file bytes => bytes
  | _ => []

def size (n : Node) : Nat :=
  match n.body with
  | .file bytes => bytes.length
  | .directory => 4096
  | .link target => target.utf8ByteSize
  | _ => 0

end Node

structure Disk where
  names : List (Path × Nat)
  nodes : Array Node

namespace Disk

def home : Path := ["tmp", "work"]

def written (p : Path) : String := "/" ++ "/".intercalate p

def index? (d : Disk) (p : Path) : Option Nat := d.names.lookup p

def node? (d : Disk) (p : Path) : Option Node := (d.index? p).bind (d.nodes[·]?)

def linkCount (d : Disk) (p : Path) : Nat :=
  match d.index? p with
  | none => 0
  | some i =>
    match d.nodes[i]? with
    | some ⟨.directory, _, _, _, _⟩ =>
      2 + d.names.countP fun (q, j) =>
        q.dropLast == p && !q.isEmpty && ((d.nodes[j]?).map (·.isDirectory)).getD false
    | _ => d.names.countP (·.2 == i)

def children (d : Disk) (p : Path) : List String :=
  (d.names.filterMap fun (q, _) => if q.dropLast = p then q.getLast? else none).reverse

def add (d : Disk) (p : Path) (n : Node) : Disk :=
  ⟨(p, d.nodes.size) :: d.names, d.nodes.push n⟩

def setNode (d : Disk) (index : Nat) (n : Node) : Disk :=
  { d with nodes := d.nodes.setIfInBounds index n }

def change (d : Disk) (p : Path) (f : Node → Node) : Disk :=
  match d.index? p with
  | none => d
  | some i =>
    match d.nodes[i]? with
    | some n => d.setNode i (f n)
    | none => d

def unlink (d : Disk) (p : Path) : Disk :=
  { d with names := d.names.filter (·.1 ≠ p) }

def unlinkTree (d : Disk) (p : Path) : Disk :=
  { d with names := d.names.filter fun e => !p.isPrefixOf e.1 }

def link (d : Disk) (p q : Path) : Disk :=
  match d.index? p with
  | some i => { d with names := (q, i) :: d.names.filter (·.1 ≠ q) }
  | none => d

def rename (d : Disk) (p q : Path) : Disk :=
  if p = q ∨ (d.index? p).isNone ∨ d.index? p = d.index? q then d
  else
    let moved := d.names.filterMap fun (r, i) =>
      if p.isPrefixOf r then some (q ++ r.drop p.length, i) else none
    { d with names := moved ++ d.names.filter fun e => !p.isPrefixOf e.1 && e.1 != q }

def linkLimit : Nat := 40

/-- The place that steps lead to. All places on the way have to be directories; links on the way
are followed, and one at the end if `follow` says so. -/
def walk (d : Disk) (follow : Bool) (links : Nat) (here : Path) (steps : List String) :
    Except FileFault Path :=
  match steps with
  | [] => .ok here
  | step :: rest =>
    match d.node? here with
    | none => .error .notFound
    | some n =>
      if !n.isDirectory then .error .notDirectory
      else if step = "." then d.walk follow links here rest
      else if step = ".." then d.walk follow links here.dropLast rest
      else if Files.nameLimit < step.utf8ByteSize then .error .nameTooLong
      else
        match (d.node? (here ++ [step])).map Node.body with
        | some (.link target) =>
          if rest.isEmpty ∧ !follow then .ok (here ++ [step])
          else
            match links with
            | 0 => .error .tooManyLinks
            | links + 1 =>
              d.walk follow links (if Text.startsWith "/" target then [] else here)
                (Files.strides target ++ rest)
        | _ => d.walk follow links (here ++ [step]) rest
termination_by (links, steps.length)

def locate (d : Disk) (follow : Bool) (directory : Path) (path : String) :
    Except FileFault Path := do
  if path.toList.contains '\x00' then throw .zeroInName
  if path = "" then throw .notFound
  if Files.pathLimit < path.utf8ByteSize then throw .nameTooLong
  let steps := Files.strides path ++ if path.toList.getLast? = some '/' then ["."] else []
  d.walk follow linkLimit (if Text.startsWith "/" path then [] else directory) steps

def entry (d : Disk) (follow : Bool) (directory : Path) (path : String) :
    Except FileFault (Path × Option Node) := do
  let p ← d.locate follow directory path
  pure (p, d.node? p)

def permitted (mode mask : Nat) : Nat := Nat.land mode (Nat.xor 0o7777 (Nat.land mask 0o777))

def beginning : Int := 1767225600000

def directoryNode (mode : Nat) : Node := ⟨.directory, mode, beginning, 0, 0⟩

def ofSystem : Disk :=
  let d : Disk := ⟨[], #[]⟩
  let d := System.directories.foldl (fun d p => d.add p (directoryNode 0o755)) d
  let d := d.change ["tmp"] fun n => { n with mode := 0o1777 }
  let d := d.change ["var", "tmp"] fun n => { n with mode := 0o1777 }
  let d := d.change ["root"] fun n => { n with mode := 0o700 }
  let d := System.links.foldl (fun d (p, target) =>
    d.add p ⟨.link target, 0o777, beginning, 0, 0⟩) d
  let d := System.devices.foldl (fun d name =>
    d.add ["dev", name] ⟨.device name, 0o666, beginning, 0, 0⟩) d
  let d := System.texts.foldl (fun d (p, text) =>
    d.add p ⟨.file (bytesOf text), 0o644, beginning, 0, 0⟩) d
  System.programs.foldl (fun d name =>
    d.add ["usr", "bin", name] ⟨.file [0x7F], 0o755, beginning, 0, 0⟩) d

def place (p : Path) : Path :=
  match p with
  | "/" :: rest => rest
  | p => p.foldl (fun here step => if step = ".." then here.dropLast else here ++ [step]) home

def ofFiles (fs : Files) : Disk :=
  let d := ofSystem.add home (directoryNode 0o755)
  fs.entries.reverse.foldl (fun d (p, e) =>
    let p := place p
    if (d.index? p).isSome then d
    else
      match e with
      | .directory => d.add p (directoryNode 0o755)
      | .file bytes executable =>
        d.add p ⟨.file bytes, if executable then 0o755 else 0o644, beginning, 0, 0⟩) d

def named (old : Files) (p : Path) : Path :=
  if home.isPrefixOf p then p.drop home.length
  else
    match old.entries.find? fun e => place e.1 = p with
    | some e => e.1
    | none => "/" :: p

def toFiles (d : Disk) (old : Files) : Files :=
  let system := ofSystem
  ⟨d.names.filterMap fun (p, _) =>
    if p = home ∨ (system.index? p).isSome then none
    else
      let entry : Option Entry := match d.walk true linkLimit [] p with
        | .error _ => none
        | .ok q =>
          match d.node? q with
          | some n =>
            match n.body with
            | .file bytes => some (.file bytes n.isExecutable)
            | .directory => some .directory
            | _ => none
          | none => none
      entry.map (named old p, ·)⟩

end Disk
end CallChart.Shell
