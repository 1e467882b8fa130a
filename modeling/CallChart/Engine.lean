import CallChart.Failure
import CallChart.Files
import CallChart.Text.Utf8

namespace CallChart

inductive Ending where
  | status (code : Nat)
  | signal (number : Nat)
  deriving DecidableEq, Repr

/-- What a program that was started has written, how and after how many milliseconds it ended, and
the files as it left them. -/
structure Report where
  output : List UInt8
  errors : List UInt8
  ending : Ending
  time : Nat
  files : Files

/-- Another program, as it is seen from here: with arguments, a time limit, an input and files it
is started and leaves a report behind, or there is nothing to start. -/
abbrev ExternalProgram :=
  (arguments : List String) → (limit : Nat) → (input : List UInt8) → Files → Except FileFault Report

namespace Signal

def names : List (Nat × String) := [
  (1, "HUP"), (2, "INT"), (3, "QUIT"), (4, "ILL"), (5, "TRAP"), (6, "ABRT"), (7, "BUS"),
  (8, "FPE"), (9, "KILL"), (10, "USR1"), (11, "SEGV"), (12, "USR2"), (13, "PIPE"), (14, "ALRM"),
  (15, "TERM"), (16, "STKFLT"), (17, "CHLD"), (18, "CONT"), (19, "STOP"), (20, "TSTP"),
  (21, "TTIN"), (22, "TTOU"), (23, "URG"), (24, "XCPU"), (25, "XFSZ"), (26, "VTALRM"),
  (27, "PROF"), (28, "WINCH"), (29, "IO"), (30, "PWR"), (31, "SYS")]

end Signal

structure Engine where
  name : String
  convert : (description format : String) → Files → Except Failure (List UInt8) × Files

namespace Engine

def isFormatChar (c : Char) : Bool :=
  c.isAlphanum || c == ':' || c == '_'

/-- Formats are plain names, so that they are safe as arguments and in names of files. -/
def checkFormat (format : String) : Except Failure Unit :=
  if format ≠ "" ∧ format.toList.all isFormatChar then .ok ()
  else
    .error (.invalidOption "format" format "expected a layout engine format such as svg or png")

def tagging (failure : Option String) : Engine where
  name := "fake"
  convert description format fs :=
    (match failure with
      | some reason => .error (.engineFailed reason)
      | none => .ok (Utf8.encode ("<" ++ format ++ ">" ++ description ++ "</" ++ format ++ ">")),
      fs)

def durationText (ms : Nat) : String :=
  if ms = 0 then "0ns"
  else if ms < 1000 then toString ms ++ "ms"
  else
    let fraction := ((Nat.toDigits 10 (1000 + ms % 1000)).drop 1).reverse.dropWhile (· = '0')
    toString (ms / 1000) ++
      (if fraction = [] then "" else String.ofList ('.' :: fraction.reverse)) ++ "s"

def signalName (number : Nat) : String :=
  match Signal.names.lookup number with
  | some name => " (SIG" ++ name ++ ")"
  | none => ""

def endingText : Ending → String
  | .status code => "exit status: " ++ toString code
  | .signal number => "signal: " ++ toString number ++ signalName number

def startFailure (program : String) (fault : FileFault) : Failure :=
  match fault with
  | .notFound => .engineUnavailable (program ++ ": " ++ fault.message)
  | .permissionDenied => .engineUnavailable (program ++ ": " ++ fault.message)
  | .zeroInName =>
    .engineFailed ("failed to start " ++ program ++ ": nul byte found in provided data")
  | _ => .engineFailed ("failed to start " ++ program ++ ": " ++ fault.message)

def outcome (program : String) (limit : Nat) (report : Report) :
    Except Failure (List UInt8) :=
  if limit ≤ report.time then
    .error (.engineFailed (program ++ " timed out after " ++ durationText limit))
  else if report.ending = .status 0 then .ok report.output
  else
    .error (.engineFailed (program ++ " exited with " ++ endingText report.ending ++ ": " ++
      Utf8.decodeLossy report.errors))

/-- The engine that runs another program, which the path names, with a time limit in milliseconds. -/
def external (run : ExternalProgram) (path : String) (limit : Nat) : Engine where
  name := "graphviz"
  convert description format fs :=
    match checkFormat format with
    | .error e => (.error e, fs)
    | .ok () =>
      match run ["-T" ++ format] limit (Utf8.encode description) fs with
      | .error fault => (.error (startFailure path fault), fs)
      | .ok report => (outcome path limit report, report.files)

end Engine
end CallChart
