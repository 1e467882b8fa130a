import CallChart.Shell.Disk

namespace CallChart

structure Invocation where
  program : String
  words : List (List UInt8)
  deriving DecidableEq, Repr

namespace Invocation

def isBlank (b : UInt8) : Bool := b == 0x20 || b == 0x09

def bufferSize : Nat := 256

def withoutBlanksBehind (bytes : List UInt8) : List UInt8 :=
  (bytes.reverse.dropWhile isBlank).reverse

/-- The program that the first line of a file names, and all that follows as one argument. A line
that goes beyond the buffer may lose a part of its argument, but not of the name. In a file that
ends within its first line blanks at the end count. -/
def interpreter? (bytes : List UInt8) : Option (List UInt8 × Option (List UInt8)) :=
  match bytes.take bufferSize with
  | 0x23 :: 0x21 :: rest =>
    let text := rest.takeWhile (· ≠ 0)
    let named (line : List UInt8) (argument : List UInt8 → Option (List UInt8)) :
        Option (List UInt8 × Option (List UInt8)) :=
      let name := line.takeWhile (!isBlank ·)
      some (name, if name.length < line.length
        then argument ((line.drop name.length).dropWhile isBlank) else none)
    if text.contains 0x0A then
      let line := withoutBlanksBehind ((text.takeWhile (· ≠ 0x0A)).dropWhile isBlank)
      if line.isEmpty then none else named line some
    else if rest.length < bufferSize - 2 ∨ text.length < rest.length then
      named (text.dropWhile isBlank) some
    else
      let line := text.dropLast.dropWhile isBlank
      if line.all (!isBlank ·) then none
      else named line fun argument =>
        let argument := withoutBlanksBehind argument
        if argument.isEmpty then none else some argument
  | _ => none

/-- What is started for the program at a path in a directory. Programs that name each other may do
so only so often. -/
def resolve (d : Shell.Disk) (directory : Path) :
    Nat → String → List (List UInt8) → Except FileFault Invocation
  | depth, path, words => do
    let (p, n) ← d.entry true directory path
    match n with
    | none => throw .notFound
    | some n =>
      if !n.isFile ∨ !n.isExecutable then throw .permissionDenied
      else
        match depth, System.program? p with
        | 0, _ => throw .tooManyLinks
        | _, some name => pure ⟨name, words⟩
        | depth + 1, none =>
          match interpreter? n.bytes with
          | none => throw .execFormat
          | some (name, argument) =>
            resolve d directory depth (Utf8.decodeLossy name)
              (name :: argument.toList ++ Utf8.encode path :: words.drop 1)

def depthLimit : Nat := 6

end Invocation
end CallChart
