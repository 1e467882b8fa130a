namespace CallChart.Shell

/-- What becomes of the value of a parameter before it is filled in. The flag of `standIn`,
`assign`, `require` and `alternative` tells whether an empty value counts as none. -/
inductive Form where
  | plain
  | length
  | standIn (empty : Bool)
  | assign (empty : Bool)
  | require (empty : Bool)
  | alternative (empty : Bool)
  | trimStart (longest : Bool)
  | trimEnd (longest : Bool)
  | wrong
  deriving DecidableEq, Repr

inductive RedirectKind where
  | input
  | output
  | force
  | append
  | both
  | duplicate
  deriving DecidableEq, Repr

mutual

inductive Piece where
  | char (escaped : Bool) (c : Char)
  | quote
  | parameter (name : String) (form : Form) (text : List Piece)
  | output (body : List Statement)
  | arithmetic (expression : List Piece)

inductive Redirect where
  | file (channel : Nat) (kind : RedirectKind) (target : List Piece)
  | document (channel number : Nat) (literal : Bool)

inductive Command where
  | simple (line : Nat) (assignments words : List (List Piece)) (redirects : List Redirect)
  | group (body : List Statement)
  | subshell (line : Nat) (body : List Statement) (redirects : List Redirect)
  | redirected (line : Nat) (body : Command) (redirects : List Redirect)
  | branch (arms : List (List Statement × List Statement)) (otherwise : List Statement)
  | loop (untilSuccess : Bool) (condition body : List Statement)
  | each (line : Nat) (name : String) (words : Option (List (List Piece)))
      (body : List Statement)
  | choice (line : Nat) (subject : List Piece)
      (arms : List (List (List Piece) × List Statement))
  | function (name : String) (body : Command)

inductive Pipeline where
  | mk (negated : Bool) (commands : List Command)

inductive Statement where
  | mk (first : Pipeline) (rest : List (Bool × Pipeline)) (background : Bool)

end

abbrev Word := List Piece

instance : Inhabited Piece := ⟨.quote⟩
instance : Inhabited Command := ⟨.group []⟩
instance : Inhabited Statement := ⟨.mk (.mk false []) [] false⟩

namespace Piece

def bare? : Piece → Option Char
  | .char false c => some c
  | _ => none

end Piece

namespace Word

def bare? (w : Word) : Option (List Char) := w.mapM Piece.bare?

def characters (w : Word) : List Char :=
  w.filterMap fun p =>
    match p with
    | .char _ c => some c
    | _ => none

end Word
end CallChart.Shell
