import CallChart.Files
import CallChart.Text.Letters
import CallChart.Text.Utf8

namespace CallChart.Launch

abbrev Environment := List (String × String)

namespace Environment

def file : String := ".env"

inductive LineState where
  | complete
  | escape
  | strong
  | strongEscape
  | weak
  | weakEscape
  | comment
  | blank
  deriving DecidableEq, Repr

def LineState.next : LineState → Char → LineState
  | .comment, _ => .comment
  | .escape, _ => .complete
  | .weakEscape, _ => .weak
  | .strongEscape, _ => .strong
  | .weak, c => if c = '\\' then .weakEscape else if c = '"' then .complete else .weak
  | .strong, c => if c = '\\' then .strongEscape else if c = '\'' then .complete else .strong
  | state, c =>
    if c = '#' ∧ state = .blank then .comment
    else if c = '\\' then .escape
    else if c = '"' then .weak
    else if c = '\'' then .strong
    else if state = .complete ∧ Text.isBlank c ∧ c ≠ '\n' ∧ c ≠ '\r' then .blank
    else .complete

/-- Goes over a line: the part in front of a comment, and where the line ends. -/
def scanLine (state : LineState) : List Char → List Char × LineState
  | [] => ([], state)
  | c :: rest =>
    match state.next c with
    | .comment => ([], .comment)
    | state =>
      let (text, state) := scanLine state rest
      (c :: text, state)

def withoutEnd (line : List Char) : List Char :=
  match line.reverse with
  | '\n' :: '\r' :: rest => rest.reverse
  | '\n' :: rest => rest.reverse
  | _ => line

def isCommentLine (line : List Char) : Bool :=
  (Text.trimStart line).head? = some '#'

def linesOf : List Char → List (List Char)
  | [] => []
  | c :: rest =>
    if c = '\n' then [c] :: linesOf rest
    else
      match linesOf rest with
      | [] => [[c]]
      | line :: lines => (c :: line) :: lines

/-- Takes the lines together that one assignment goes over. Nothing stands for an assignment that
does not end. `held` is what an open assignment has so far. -/
def assignments (held : List Char) (state : LineState) :
    List (List Char) → List (Option (List Char))
  | [] => if state = .complete then [] else [none]
  | line :: rest =>
    if isCommentLine (held ++ line) then some [] :: assignments [] .complete rest
    else
      match scanLine state line with
      | (_, .complete) => some (withoutEnd (held ++ line)) :: assignments [] .complete rest
      | (text, .comment) => some (held ++ text) :: assignments [] .complete rest
      | (_, state) => assignments (held ++ line) state rest

inductive ValueState where
  | plain
  | escape (weak : Bool)
  | strong
  | weak
  | name (weak : Bool) (name : List Char)
  | braced (weak : Bool) (name : List Char)
  | ended
  deriving DecidableEq, Repr

def inside (weak : Bool) : ValueState :=
  if weak then .weak else .plain

def escaped? : Char → Option Char
  | 'n' => some '\n'
  | c => if c = '\\' ∨ c = '\'' ∨ c = '"' ∨ c = '$' ∨ c = ' ' then some c else none

def readValue (known : String → String) (state : ValueState) (done : List Char) :
    List Char → Option (List Char)
  | [] =>
    match state with
    | .strong => none
    | .weak => none
    | .escape true => none
    | .name true _ => none
    | .braced .. => none
    | .name false name => some (done.reverse ++ (known (String.ofList name.reverse)).toList)
    | _ => some done.reverse
  | c :: rest =>
    match state with
    | .ended =>
      if c = ' ' ∨ c = '\t' then readValue known .ended done rest
      else if c = '#' then some done.reverse
      else none
    | .escape weak => (escaped? c).bind fun c => readValue known (inside weak) (c :: done) rest
    | .strong =>
      if c = '\'' then readValue known .plain done rest
      else readValue known .strong (c :: done) rest
    | .name weak name =>
      if Text.isAlphanumeric c then readValue known (.name weak (c :: name)) done rest
      else if c = '\x7b' ∧ name = [] then readValue known (.braced weak []) done rest
      else
        let done := (known (String.ofList name.reverse)).toList.reverse ++ done
        if c = '$' then readValue known (.name weak []) done rest
        else readValue known (inside weak) (c :: done) rest
    | .braced weak name =>
      if c = '\x7d' then
        readValue known (inside weak) ((known (String.ofList name.reverse)).toList.reverse ++ done)
          rest
      else readValue known (.braced weak (c :: name)) done rest
    | .weak =>
      if c = '$' then readValue known (.name true []) done rest
      else if c = '"' then readValue known .plain done rest
      else if c = '\\' then readValue known (.escape true) done rest
      else readValue known .weak (c :: done) rest
    | .plain =>
      if c = '$' then readValue known (.name false []) done rest
      else if c = '\'' then readValue known .strong done rest
      else if c = '"' then readValue known .weak done rest
      else if c = '\\' then readValue known (.escape false) done rest
      else if c = ' ' ∨ c = '\t' then readValue known .ended done rest
      else readValue known .plain (c :: done) rest

def isKeyChar (c : Char) : Bool :=
  c.isAlphanum || c = '_' || c = '.'

def readKey (cs : List Char) : Option (List Char × List Char) :=
  match cs with
  | [] => none
  | c :: _ =>
    if c.isAlpha ∨ c = '_' then some (cs.takeWhile isKeyChar, cs.dropWhile isKeyChar) else none

def behindEquals (cs : List Char) : Option (List Char) :=
  match Text.trimStart cs with
  | '=' :: rest => some (Text.trimStart rest)
  | _ => none

def splitAssignment (cs : List Char) : Option (List Char × List Char) := do
  let (key, rest) ← readKey cs
  if key = "export".toList then
    match behindEquals rest with
    | some value => some (key, value)
    | none => do
      let (key, rest) ← readKey (Text.trimStart rest)
      let value ← behindEquals rest
      some (key, value)
  else do
    let value ← behindEquals rest
    some (key, value)

/-- What one line says: nothing at all, nothing that counts, or a variable. White space around it
does not count. -/
def readAssignment (known : String → String) (cs : List Char) :
    Option (Option (String × String)) :=
  match Text.trimChars cs with
  | [] => some none
  | '#' :: _ => some none
  | cs => do
    let (key, value) ← splitAssignment cs
    let key := String.ofList key
    if value = [] ∨ value.head? = some '#' then some (some (key, ""))
    else
      let text ← readValue known .plain [] value
      some (some (key, String.ofList text))

/-- Adds the variables that are not set yet, up to the first line that is ill-formed. `written`
holds the values that the file gave so far. There is no environment if a value to add has a zero
byte, which ends the values of an environment. -/
def addLines (environment written : Environment) :
    List (Option (List Char)) → Option Environment
  | [] => some environment
  | none :: _ => some environment
  | some line :: rest =>
    let known (name : String) : String :=
      ((environment.lookup name) <|> (written.lookup name)).getD ""
    match readAssignment known line with
    | none => some environment
    | some none => addLines environment written rest
    | some (some (key, value)) =>
      let written := (key, value) :: written
      if (environment.lookup key).isSome then addLines environment written rest
      else if value.contains '\x00' then none
      else addLines ((key, value) :: environment) written rest

def extend? (environment : Environment) (fs : Files) : Option Environment :=
  match (fs.read file).toOption.bind Utf8.decode? with
  | none => some environment
  | some text =>
    let cs := match text.toList with
      | '\uFEFF' :: rest => rest
      | cs => cs
    addLines environment [] (assignments [] .complete (linesOf cs))

end Environment
end CallChart.Launch
