namespace CallChart.Dot

def literalChar (c : Char) : List Char :=
  match c with
  | '"' => ['\\', '"']
  | '\\' => ['\\', '\\']
  | '\n' => ['\\', 'n']
  | '\r' => []
  | c => [c]

def literal (s : String) : List Char :=
  '"' :: s.toList.flatMap literalChar ++ ['"']

def quote (s : String) : String :=
  String.ofList (literal s)

/-- The texts of a literal after its opening quote, and what follows its closing quote. A backslash
takes the next character with it. -/
def scanLiteral : List Char → Option (List Char × List Char)
  | [] => none
  | '"' :: rest => some ([], rest)
  | '\\' :: c :: rest => (scanLiteral rest).map fun (body, rest) => ('\\' :: c :: body, rest)
  | c :: rest => (scanLiteral rest).map fun (body, rest) => (c :: body, rest)

def unescape : List Char → List Char
  | '\\' :: 'n' :: rest => '\n' :: unescape rest
  | '\\' :: c :: rest => c :: unescape rest
  | c :: rest => c :: unescape rest
  | [] => []

abbrev Attribute := String × String

inductive Statement where
  | setting (a : Attribute)
  | defaults (kind : String) (attributes : List Attribute)
  | node (name : String) (attributes : List Attribute)
  | edge (source target : String) (attributes : List Attribute)
  | subgraph (name : String) (body : List Statement)
  | space

structure Document where
  name : String
  body : List Statement

def indentation (level : Nat) : List Char :=
  List.replicate (4 * level) ' '

def attributeChars (a : Attribute) : List Char :=
  a.1.toList ++ '=' :: literal a.2

def joinedAttributes : List Attribute → List Char
  | [] => []
  | [a] => attributeChars a
  | a :: rest => attributeChars a ++ ' ' :: joinedAttributes rest

def attributeList (attributes : List Attribute) : List Char :=
  " [".toList ++ joinedAttributes attributes ++ "];".toList

mutual

def Statement.lines (level : Nat) : Statement → List (List Char)
  | .setting a => [indentation level ++ attributeChars a ++ [';']]
  | .defaults kind attributes => [indentation level ++ kind.toList ++ attributeList attributes]
  | .node name attributes => [indentation level ++ literal name ++ attributeList attributes]
  | .edge source target attributes =>
    [indentation level ++ literal source ++ " -> ".toList ++ literal target ++
      attributeList attributes]
  | .subgraph name body =>
    (indentation level ++ "subgraph ".toList ++ literal name ++ " \x7b".toList) ::
      bodyLines (level + 1) body ++ [indentation level ++ ['\x7d']]
  | .space => [[]]

def bodyLines (level : Nat) : List Statement → List (List Char)
  | [] => []
  | s :: rest => s.lines level ++ bodyLines level rest

end

def Document.lines (d : Document) : List (List Char) :=
  ("digraph ".toList ++ d.name.toList ++ " \x7b".toList) :: bodyLines 1 d.body ++ [['\x7d']]

def Document.text (d : Document) : String :=
  String.ofList (d.lines.flatMap (· ++ ['\n']))

end CallChart.Dot
