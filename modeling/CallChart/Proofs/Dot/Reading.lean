import CallChart.Proofs.Dot.Document
import CallChart.Proofs.Dot.Parts
import Mathlib.Data.List.Basic

namespace CallChart.Dot

def readLiteral? : List Char → Option (List Char × List Char)
  | '"' :: cs => (scanLiteral cs).map fun (body, rest) => (unescape body, rest)
  | _ => none

theorem readLiteral?_append (s : String) (rest : List Char) :
    readLiteral? (literal s ++ rest) = some (withoutReturns s, rest) := by
  simp only [literal, List.cons_append, List.append_assoc, List.nil_append, readLiteral?,
    scanLiteral_append, Option.map_some, unescape_body]
  rfl

def writtenLiteral? : List Char → Option (List Char × List Char)
  | '"' :: cs => (scanLiteral cs).map fun (body, rest) => ('"' :: (body ++ ['"']), rest)
  | _ => none

theorem writtenLiteral?_append (s : String) (rest : List Char) :
    writtenLiteral? (literal s ++ rest) = some (literal s, rest) := by
  simp only [literal, List.cons_append, List.append_assoc, List.nil_append, writtenLiteral?,
    scanLiteral_append, Option.map_some]

theorem eq_of_readLiteral? {cs value rest : List Char} (read : readLiteral? cs = some (value, rest)) :
    ∃ body, cs = '"' :: (body ++ '"' :: rest) := by
  unfold readLiteral? at read
  split at read
  · simp only [Option.map_eq_some_iff, Prod.mk.injEq] at read
    obtain ⟨⟨body, others⟩, scanned, -, rfl⟩ := read
    exact ⟨body, congrArg _ (eq_of_scanLiteral scanned)⟩
  · cases read

theorem length_readLiteral? {cs value rest : List Char} (read : readLiteral? cs = some (value, rest)) :
    rest.length < cs.length := by
  obtain ⟨body, rfl⟩ := eq_of_readLiteral? read
  simp only [List.length_cons, List.length_append]
  omega

def readAttribute? (cs : List Char) : Option ((List Char × List Char) × List Char) :=
  (readLiteral? (cs.dropWhile (· ≠ '=')).tail).map fun (value, rest) =>
    ((cs.takeWhile (· ≠ '='), value), rest)

theorem length_readAttribute? {cs rest : List Char} {a : List Char × List Char}
    (read : readAttribute? cs = some (a, rest)) : rest.length < cs.length := by
  simp only [readAttribute?, Option.map_eq_some_iff, Prod.mk.injEq] at read
  obtain ⟨⟨value, others⟩, found, -, rfl⟩ := read
  have shorter := length_readLiteral? found
  have dropped := (List.dropWhile_suffix (l := cs) (· ≠ '=')).length_le
  rw [List.length_tail] at shorter
  dsimp only at *
  omega

def readAttributes? (cs : List Char) : Option (List (List Char × List Char)) :=
  match _read : readAttribute? cs with
  | some (a, ' ' :: rest) => (readAttributes? rest).map (a :: ·)
  | some (a, [']', ';']) => some [a]
  | _ => none
termination_by cs.length
decreasing_by
  have shorter := length_readAttribute? _read
  rw [List.length_cons] at shorter
  omega

def readBack (a : Attribute) : List Char × List Char :=
  (a.1.toList, withoutReturns a.2)

theorem readAttribute?_append {a : Attribute} (key : '=' ∉ a.1.toList) (rest : List Char) :
    readAttribute? (attributeChars a ++ rest) = some (readBack a, rest) := by
  have chars : attributeChars a ++ rest = a.1.toList ++ '=' :: (literal a.2 ++ rest) := by
    simp [attributeChars]
  rw [chars, readAttribute?, Text.dropWhile_plain key, Text.takeWhile_plain key, List.tail_cons,
    readLiteral?_append]
  rfl

theorem readAttributes?_joined {attributes : List Attribute} (filled : attributes ≠ [])
    (keys : ∀ a ∈ attributes, '=' ∉ a.1.toList) :
    readAttributes? (joinedAttributes attributes ++ "];".toList) =
      some (attributes.map readBack) := by
  induction attributes with
  | nil => exact (filled rfl).elim
  | cons a rest ih =>
    obtain ⟨key, others⟩ := List.forall_mem_cons.mp keys
    cases rest with
    | nil =>
      have chars : joinedAttributes [a] ++ "];".toList = attributeChars a ++ [']', ';'] := rfl
      rw [readAttributes?, chars, readAttribute?_append key]
      rfl
    | cons b rest =>
      have chars : joinedAttributes (a :: b :: rest) ++ "];".toList = attributeChars a ++
          ' ' :: (joinedAttributes (b :: rest) ++ "];".toList) := by
        simp [joinedAttributes]
      rw [readAttributes?, chars, readAttribute?_append key]
      simp only [ih (List.cons_ne_nil _ _) others, Option.map_some, List.map_cons]

theorem bodyLines_append (level : Nat) (first second : List Statement) :
    bodyLines level (first ++ second) = bodyLines level first ++ bodyLines level second := by
  induction first with
  | nil => rfl
  | cons s rest ih => simp [bodyLines, ih]

def textLines (text : String) : List (List Char) :=
  Text.splitChars '\n' text.toList

def unindented (line : List Char) : List Char :=
  line.dropWhile (· = ' ')

def readNode? (line : List Char) : Option (List Char × List Char) :=
  match readLiteral? (unindented line) with
  | some (name, ' ' :: '[' :: rest) => some (name, rest)
  | _ => none

def readEdge? (line : List Char) : Option (List Char × List Char × List Char) :=
  match readLiteral? (unindented line) with
  | some (source, ' ' :: '-' :: '>' :: ' ' :: rest) =>
    match readLiteral? rest with
    | some (target, ' ' :: '[' :: rest) => some (source, target, rest)
    | _ => none
  | _ => none

def nodeLiteral? (line : List Char) : Option (List Char) :=
  (writtenLiteral? (unindented line)).map (·.1)

def edgeLiterals? (line : List Char) : Option (List Char × List Char) :=
  match writtenLiteral? (unindented line) with
  | some (source, ' ' :: '-' :: '>' :: ' ' :: rest) =>
    (writtenLiteral? rest).map fun target => (source, target.1)
  | _ => none

def nodeLines (lines : List (List Char)) : List (List Char) :=
  lines.filter fun line => (readNode? line).isSome

def edgeLines (lines : List (List Char)) : List (List Char) :=
  lines.filter fun line => (readEdge? line).isSome

def NodePart.chars (n : NodePart) : List Char :=
  literal n.name ++ attributeList n.attributes

def EdgePart.chars (e : EdgePart) : List Char :=
  literal e.source ++ " -> ".toList ++ literal e.target ++ attributeList e.attributes

theorem unindented_indentation (level : Nat) (cs : List Char) :
    unindented (indentation level ++ cs) = unindented cs := by
  unfold unindented
  rw [List.dropWhile_append_of_pos]
  intro c within
  simp [List.eq_of_mem_replicate within]

theorem unindented_literal (s : String) (rest : List Char) :
    unindented (literal s ++ rest) = literal s ++ rest := by
  simp [unindented, literal]

theorem attributeList_eq (attributes : List Attribute) : attributeList attributes =
    ' ' :: '[' :: (joinedAttributes attributes ++ "];".toList) := by
  simp [attributeList]

theorem readNode?_chars (level : Nat) (n : NodePart) :
    readNode? (indentation level ++ n.chars) =
      some (withoutReturns n.name, joinedAttributes n.attributes ++ "];".toList) := by
  rw [readNode?, unindented_indentation, NodePart.chars, unindented_literal, readLiteral?_append,
    attributeList_eq]
  rfl

theorem readNode?_edge (level : Nat) (e : EdgePart) :
    readNode? (indentation level ++ e.chars) = none := by
  simp only [readNode?, unindented_indentation, EdgePart.chars, List.append_assoc,
    unindented_literal, readLiteral?_append]
  rfl

theorem readEdge?_node (level : Nat) (n : NodePart) :
    readEdge? (indentation level ++ n.chars) = none := by
  rw [readEdge?, unindented_indentation, NodePart.chars, unindented_literal, readLiteral?_append,
    attributeList_eq]
  rfl

theorem readEdge?_chars (level : Nat) (e : EdgePart) :
    readEdge? (indentation level ++ e.chars) = some (withoutReturns e.source,
      withoutReturns e.target, joinedAttributes e.attributes ++ "];".toList) := by
  have arrow : " -> ".toList = [' ', '-', '>', ' '] := rfl
  simp only [readEdge?, unindented_indentation, EdgePart.chars, List.append_assoc,
    unindented_literal, readLiteral?_append, arrow, List.cons_append, List.nil_append,
    attributeList_eq]

theorem nodeLiteral?_chars (level : Nat) (n : NodePart) :
    nodeLiteral? (indentation level ++ n.chars) = some (literal n.name) := by
  rw [nodeLiteral?, unindented_indentation, NodePart.chars, unindented_literal, writtenLiteral?_append,
    Option.map_some]

theorem edgeLiterals?_chars (level : Nat) (e : EdgePart) :
    edgeLiterals? (indentation level ++ e.chars) = some (literal e.source, literal e.target) := by
  have arrow : " -> ".toList = [' ', '-', '>', ' '] := rfl
  simp only [edgeLiterals?, unindented_indentation, EdgePart.chars, List.append_assoc,
    unindented_literal, writtenLiteral?_append, arrow, List.cons_append, List.nil_append,
    Option.map_some]

theorem isPlain_append {cs ds : List Char} (first : isPlain cs = true)
    (second : isPlain ds = true) : isPlain (cs ++ ds) = true := by
  rw [isPlain, List.all_append]
  exact Bool.and_eq_true_iff.mpr ⟨first, second⟩

theorem readLiteral?_plain {word : List Char} {c : Char} (plain : isPlain word = true)
    (quote : c ≠ '"') (blank : c ≠ ' ') (rest : List Char) :
    readLiteral? (unindented (word ++ c :: rest)) = none := by
  induction word with
  | nil =>
    have stays : unindented (c :: rest) = c :: rest := by simp [unindented, blank]
    rw [List.nil_append, stays, readLiteral?]
    exact fun _ same => quote (List.cons.inj same).1
  | cons d word ih =>
    simp only [isPlain, List.all_cons, Bool.and_eq_true, decide_eq_true_eq] at plain
    by_cases space : d = ' '
    · have skips : unindented (d :: word ++ c :: rest) = unindented (word ++ c :: rest) := by
        simp [unindented, space]
      rw [skips]
      exact ih plain.2
    · have stays : unindented (d :: word ++ c :: rest) = d :: (word ++ c :: rest) := by
        simp [unindented, space]
      rw [stays, readLiteral?]
      exact fun _ same => plain.1.1.1 (List.cons.inj same).1

theorem unread_opening (level : Nat) (id : String) : readLiteral? (unindented
    (indentation level ++ "subgraph ".toList ++ literal id ++ " \x7b".toList)) = none := by
  have none := readLiteral?_plain (neat_indentation level) (c := 's') (by decide) (by decide)
    ("ubgraph ".toList ++ (literal id ++ " \x7b".toList))
  simpa using none

theorem unread_closing (level : Nat) :
    readLiteral? (unindented (indentation level ++ ['\x7d'])) = none :=
  readLiteral?_plain (neat_indentation level) (by decide) (by decide) []

theorem Statement.unread {s : Statement} (minor : s.isMinor = true) (neat : s.isNeat = true)
    (level : Nat) : ∀ line ∈ s.lines level, readLiteral? (unindented line) = none := by
  have indented := neat_indentation level
  cases s with
  | setting a =>
    have word : isPlain (indentation level ++ a.1.toList) = true := isPlain_append indented neat
    have none := readLiteral?_plain word (c := '=') (by decide) (by decide) (literal a.2 ++ [';'])
    simpa [lines, attributeChars] using none
  | defaults kind attributes =>
    rw [isNeat, Bool.and_eq_true] at neat
    have word := isPlain_append (isPlain_append indented neat.1) (rfl : isPlain [' '] = true)
    have none := readLiteral?_plain word (c := '[') (by decide) (by decide)
      (joinedAttributes attributes ++ "];".toList)
    simpa [lines, attributeList] using none
  | space => simp [lines, unindented, readLiteral?]
  | node => cases minor
  | edge => cases minor
  | subgraph => cases minor

def readSubgraph? (line : List Char) : Option (List Char) :=
  match (unindented line).dropPrefix? "subgraph ".toList with
  | some rest =>
    match readLiteral? rest with
    | some (id, [' ', '\x7b']) => some id
    | _ => none
  | none => none

theorem readSubgraph?_opening (level : Nat) (id : String) : readSubgraph?
    (indentation level ++ "subgraph ".toList ++ literal id ++ " \x7b".toList) =
      some (withoutReturns id) := by
  have word (rest : List Char) :
      (unindented ("subgraph ".toList ++ rest)).dropPrefix? "subgraph ".toList = some rest := by
    have stays : unindented ("subgraph ".toList ++ rest) = "subgraph ".toList ++ rest := by
      simp [unindented]
    rw [stays, List.dropPrefix?_append_of_beq rest (beq_self_eq_true _)]
  simp only [List.append_assoc, readSubgraph?, unindented_indentation, word, readLiteral?_append]
  rfl

theorem getLast?_of_readSubgraph? {line id : List Char} (read : readSubgraph? line = some id) :
    line.getLast? = some '\x7b' := by
  unfold readSubgraph? at read
  split at read
  · rename_i rest opened
    split at read
    · rename_i literal
      obtain ⟨word, front, -⟩ := List.dropPrefix?_eq_some_iff.mp opened
      obtain ⟨body, rfl⟩ := eq_of_readLiteral? literal
      obtain ⟨spaces, whole⟩ := List.dropWhile_suffix (l := line) (· = ' ')
      have cut : line = spaces ++ word ++ '"' :: body ++ ['"', ' '] ++ ['\x7b'] := by
        rw [← whole]
        simp only [unindented] at front
        simp [front]
      rw [cut, List.getLast?_concat]
    · cases read
  · cases read

theorem Statement.ending {s : Statement} (leaf : s.isLeaf = true) (level : Nat) :
    ∀ line ∈ s.lines level, line = [] ∨ ∃ cs, line = cs ++ [';'] := by
  have closed (front : List Char) (attributes : List Attribute) :
      ∃ cs, front ++ attributeList attributes = cs ++ [';'] :=
    ⟨front ++ " [".toList ++ joinedAttributes attributes ++ [']'], by simp [attributeList]⟩
  intro line within
  cases s with
  | space => exact .inl (List.mem_singleton.mp within)
  | setting a => exact .inr ⟨_, List.mem_singleton.mp within⟩
  | subgraph => cases leaf
  | _ =>
    obtain rfl := List.mem_singleton.mp within
    exact .inr (closed _ _)

theorem Statement.no_subgraph {s : Statement} (leaf : s.isLeaf = true) (level : Nat) :
    (s.lines level).filterMap readSubgraph? = [] := by
  rw [List.filterMap_eq_nil_iff]
  intro line within
  cases read : readSubgraph? line with
  | none => rfl
  | some id =>
    have brace := getLast?_of_readSubgraph? read
    rcases s.ending leaf level line within with rfl | ⟨cs, rfl⟩
    · cases brace
    · simp at brace

theorem readSubgraph?_closing (level : Nat) : readSubgraph? (indentation level ++ ['\x7d']) = none := by
  rw [readSubgraph?, unindented_indentation]
  rfl

mutual

theorem Statement.subgraphs (around : List Frame) (level : Nat) (s : Statement) :
    (s.lines level).filterMap readSubgraph? =
      (gather Part.frame? around [s]).map fun f => withoutReturns f.id := by
  by_cases leaf : s.isLeaf = true
  · have none : Part.frame? ⟨around, s⟩ = none := by cases s <;> first | rfl | cases leaf
    rw [s.no_subgraph leaf, gather_leaves (by simpa using leaf)]
    simp [none]
  · cases s with
    | subgraph id body =>
      have inside := subgraphs_body (around ++ [frameOf id body]) (level + 1) body
      rw [Statement.lines, gather_subgraph, List.cons_append,
        List.filterMap_cons_some (readSubgraph?_opening level id), List.filterMap_append, inside,
        List.filterMap_cons_none (readSubgraph?_closing level)]
      simp [Part.frame?, frameOf]
    | _ => exact (leaf rfl).elim

theorem subgraphs_body (around : List Frame) (level : Nat) (body : List Statement) :
    (bodyLines level body).filterMap readSubgraph? =
      (gather Part.frame? around body).map fun f => withoutReturns f.id := by
  cases body with
  | nil => rfl
  | cons s rest =>
    rw [bodyLines, gather_cons, List.filterMap_append, List.map_append,
      Statement.subgraphs around level s, subgraphs_body around level rest]

end

theorem Document.subgraphs (d : Document) :
    d.lines.filterMap readSubgraph? = d.frames.map fun f => withoutReturns f.id := by
  have first : readSubgraph? ("digraph ".toList ++ d.name.toList ++ " \x7b".toList) = none := rfl
  have last : readSubgraph? ['\x7d'] = none := rfl
  rw [Document.lines, List.cons_append, List.filterMap_cons_none first, List.filterMap_append,
    subgraphs_body [] 1, List.filterMap_cons_none last, List.filterMap_nil, List.append_nil]
  rfl

/-- What is kept of the lines of a body, if only lines with a literal are kept: what is picked from
nodes and edges. -/
structure Keeps (keep : List Char → Bool) (base : Nat) (pick : Part → Option (List Char)) : Prop where
  read (line : List Char) : keep line = true → readLiteral? (unindented line) ≠ none
  ignores : Ignores pick
  frame (around : List Frame) (id : String) (body : List Statement) :
    pick ⟨around, .subgraph id body⟩ = none
  node (n : NodePart) : [indentation (base + n.around.length) ++ n.chars].filter keep =
    (pick ⟨n.around, .node n.name n.attributes⟩).toList
  edge (around : List Frame) (e : EdgePart) :
    [indentation (base + around.length) ++ e.chars].filter keep =
      (pick ⟨around, .edge e.source e.target e.attributes⟩).toList

namespace Keeps

theorem dropped {keep : List Char → Bool} {base : Nat} {pick : Part → Option (List Char)}
    (keeps : Keeps keep base pick) {line : List Char}
    (unread : readLiteral? (unindented line) = none) : keep line = false := by
  by_contra kept
  exact keeps.read line (by simpa using kept) unread

theorem leaf {keep : List Char → Bool} {base : Nat} {pick : Part → Option (List Char)}
    (keeps : Keeps keep base pick) (around : List Frame) {s : Statement} (leaf : s.isLeaf = true)
    (neat : s.isNeat = true) :
    (s.lines (base + around.length)).filter keep = (pick ⟨around, s⟩).toList := by
  by_cases minor : s.isMinor = true
  · rw [keeps.ignores around s minor, Option.toList_none, List.filter_eq_nil_iff]
    intro line within
    simp [keeps.dropped (s.unread minor neat _ line within)]
  · cases s with
    | node name attributes =>
      have node := keeps.node ⟨around, name, attributes⟩
      rwa [NodePart.chars, ← List.append_assoc] at node
    | edge source target attributes =>
      have edge := keeps.edge around ⟨source, target, attributes⟩
      simp only [EdgePart.chars, ← List.append_assoc] at edge
      exact edge
    | subgraph => cases leaf
    | _ => exact (minor rfl).elim

mutual

theorem statement {keep : List Char → Bool} {base : Nat} {pick : Part → Option (List Char)}
    (keeps : Keeps keep base pick) (around : List Frame) (s : Statement) (neat : s.isNeat = true) :
    (s.lines (base + around.length)).filter keep = (s.parts around).filterMap pick := by
  by_cases leaf : s.isLeaf = true
  · rw [keeps.leaf around leaf neat, s.parts_leaf leaf, List.filterMap_cons]
    cases pick ⟨around, s⟩ <;> rfl
  · cases s with
    | subgraph id body =>
      have inside := keeps.body (around ++ [frameOf id body]) body neat
      rw [List.length_append, List.length_singleton, ← Nat.add_assoc] at inside
      rw [Statement.lines, Statement.parts, List.filterMap_cons, keeps.frame, List.cons_append,
        List.filter_cons, keeps.dropped (unread_opening _ id), List.filter_append, inside,
        List.filter_cons, keeps.dropped (unread_closing _)]
      simp [gather]
    | _ => exact (leaf rfl).elim

theorem body {keep : List Char → Bool} {base : Nat} {pick : Part → Option (List Char)}
    (keeps : Keeps keep base pick) (around : List Frame) (body : List Statement)
    (neat : areNeat body = true) :
    (bodyLines (base + around.length) body).filter keep = gather pick around body := by
  cases body with
  | nil => rfl
  | cons s rest =>
    rw [areNeat, Bool.and_eq_true] at neat
    rw [bodyLines, List.filter_append, keeps.statement around s neat.1,
      keeps.body around rest neat.2, gather, gather, bodyParts, List.filterMap_append]

end

theorem document {keep : List Char → Bool} {pick : Part → Option (List Char)}
    (keeps : Keeps keep 1 pick) {d : Document} (name : isPlain d.name.toList = true)
    (neat : areNeat d.body = true) : d.lines.filter keep = gather pick [] d.body := by
  have plain := isPlain_append
    (isPlain_append (by decide : isPlain "digraph ".toList = true) name) (rfl : isPlain [' '] = true)
  have opening := keeps.dropped (readLiteral?_plain plain (c := '\x7b') (by decide) (by decide) [])
  have closing : keep ['\x7d'] = false := keeps.dropped (unread_closing 0)
  have first : "digraph ".toList ++ d.name.toList ++ " \x7b".toList =
      "digraph ".toList ++ d.name.toList ++ [' '] ++ '\x7b' :: [] := by simp
  have inside : (bodyLines 1 d.body).filter keep = gather pick [] d.body :=
    keeps.body [] d.body neat
  rw [Document.lines, first, List.cons_append, List.filter_cons, opening, List.filter_append, inside,
    List.filter_cons, closing]
  simp

end Keeps

theorem keeps_nodes : Keeps (fun line => (readNode? line).isSome) 1 fun p =>
    p.node?.map fun n => indentation (1 + n.around.length) ++ n.chars where
  read line kept none := by simp [readNode?, none] at kept
  ignores around s minor := by simp [ignores_node around s minor]
  frame around id body := rfl
  node n := by
    have read := readNode?_chars (1 + n.around.length) n
    simp [read, Part.node?]
  edge around e := by
    have unread := readNode?_edge (1 + around.length) e
    simp [unread, Part.node?]

theorem keeps_edges : Keeps (fun line => (readEdge? line).isSome) 1 fun p =>
    p.edge?.map fun e => indentation (1 + p.around.length) ++ e.chars where
  read line kept none := by simp [readEdge?, none] at kept
  ignores around s minor := by simp [ignores_edge around s minor]
  frame around id body := rfl
  node n := by
    have unread := readEdge?_node (1 + n.around.length) n
    simp [unread, Part.edge?]
  edge around e := by
    have read := readEdge?_chars (1 + around.length) e
    simp [read, Part.edge?]

end CallChart.Dot
