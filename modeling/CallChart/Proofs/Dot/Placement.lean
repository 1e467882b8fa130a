import CallChart.Proofs.Dot.Reading

namespace CallChart.Dot

def readSetting? (line : List Char) : Option (List Char × List Char) :=
  match readAttribute? (unindented line) with
  | some (a, [';']) => some a
  | _ => none

def frontSettings : List (List Char) → List (List Char × List Char)
  | [] => []
  | line :: rest =>
    match readSetting? line with
    | some a => a :: frontSettings rest
    | none => []

structure ReadFrame where
  id : List Char
  settings : List (List Char × List Char)
  deriving DecidableEq, Repr

def isClosing (line : List Char) : Bool :=
  unindented line == ['\x7d']

/-- Lines with the subgraphs that they stand in, the outermost first. The line that opens a subgraph
stands in it, and so does the one that closes it. -/
def placed (around : List ReadFrame) : List (List Char) → List (List ReadFrame × List Char)
  | [] => []
  | line :: rest =>
    match readSubgraph? line with
    | some id =>
      let inside := around ++ [⟨id, frontSettings rest⟩]
      (inside, line) :: placed inside rest
    | none => (around, line) :: placed (if isClosing line then around.dropLast else around) rest

def placedNodes (lines : List (List Char)) : List (List ReadFrame × List Char) :=
  (placed [] lines).filter fun p => (readNode? p.2).isSome

def readFrames (lines : List (List Char)) : List ReadFrame :=
  (placed [] lines).filterMap fun p => if (readSubgraph? p.2).isSome then p.1.getLast? else none

def Frame.readBack (frame : Frame) : ReadFrame :=
  ⟨withoutReturns frame.id, frame.settings.map Dot.readBack⟩

theorem placed_lines (around : List ReadFrame) (lines : List (List Char)) :
    (placed around lines).map (·.2) = lines := by
  induction lines generalizing around with
  | nil => rfl
  | cons line rest ih =>
    rw [placed]
    cases readSubgraph? line <;> simp [ih]

theorem placedNodes_lines (lines : List (List Char)) :
    (placedNodes lines).map (·.2) = nodeLines lines := by
  conv_rhs => rw [nodeLines, ← placed_lines [] lines, List.filter_map]
  rfl

theorem readSetting?_lines {a : Attribute} (blank : ' ' ∉ a.1.toList) (sign : '=' ∉ a.1.toList)
    (level : Nat) : ∀ line ∈ (Statement.setting a).lines level,
      readSetting? line = some (readBack a) := by
  have stays (rest : List Char) : unindented (attributeChars a ++ rest) = attributeChars a ++ rest := by
    unfold attributeChars
    cases chars : a.1.toList with
    | nil => simp [unindented]
    | cons c cs =>
      have first : c ≠ ' ' := fun same => blank (chars ▸ same ▸ List.mem_cons_self)
      simp [unindented, first]
  intro line within
  obtain rfl := List.mem_singleton.mp within
  rw [readSetting?, List.append_assoc, unindented_indentation, stays, readAttribute?_append sign]
  rfl

theorem ending_of_readSetting? {line : List Char} {a : List Char × List Char}
    (read : readSetting? line = some a) : ∃ cs, line = cs ++ ['"', ';'] := by
  unfold readSetting? at read
  split at read
  · rename_i found
    simp only [readAttribute?, Option.map_eq_some_iff, Prod.mk.injEq] at found
    obtain ⟨⟨value, rest⟩, literal, -, rfl⟩ := found
    obtain ⟨body, chars⟩ := eq_of_readLiteral? literal
    have last := (List.tail_suffix _).trans
      ((List.dropWhile_suffix (l := unindented line) (· ≠ '=')).trans
        (List.dropWhile_suffix (l := line) (· = ' ')))
    obtain ⟨front, whole⟩ := last
    refine ⟨front ++ '"' :: body, ?_⟩
    rw [← whole, chars]
    simp
  · cases read

theorem not_setting {line : List Char} (ending : ∀ cs, line ≠ cs ++ ['"', ';']) :
    readSetting? line = none := by
  cases read : readSetting? line with
  | none => rfl
  | some a =>
    obtain ⟨cs, whole⟩ := ending_of_readSetting? read
    exact (ending cs whole).elim

theorem not_setting_of_last {line : List Char} {c : Char} (other : c ≠ ';')
    (last : line.getLast? = some c) : readSetting? line = none := by
  refine not_setting fun cs whole => other ?_
  rw [whole, List.append_cons, List.getLast?_concat] at last
  exact (Option.some.inj last).symm

theorem getLast?_of_isClosing {line : List Char} (closes : isClosing line = true) :
    line.getLast? = some '\x7d' := by
  have brace : unindented line = ['\x7d'] := by simpa [isClosing] using closes
  obtain ⟨spaces, whole⟩ := List.dropWhile_suffix (l := line) (· = ' ')
  unfold unindented at brace
  rw [← whole, brace, List.getLast?_concat]

namespace Statement

theorem not_closing {s : Statement} (leaf : s.isLeaf = true) (level : Nat) :
    ∀ line ∈ s.lines level, isClosing line = false := by
  intro line within
  rw [Bool.eq_false_iff]
  intro closes
  have last := getLast?_of_isClosing closes
  rcases s.ending leaf level line within with rfl | ⟨cs, rfl⟩
  · cases last
  · simp at last

theorem not_opening {s : Statement} (leaf : s.isLeaf = true) (level : Nat) :
    ∀ line ∈ s.lines level, readSubgraph? line = none :=
  List.filterMap_eq_nil_iff.mp (s.no_subgraph leaf level)

theorem readSetting?_leaf {s : Statement} (leaf : s.isLeaf = true) (other : s.setting? = none)
    (level : Nat) :
    ∀ line ∈ s.lines level, readSetting? line = none := by
  have attributes (front : List Char) (list : List Attribute) :
      readSetting? (front ++ attributeList list) = none := by
    refine not_setting fun cs whole => ?_
    have cut : front ++ attributeList list =
        (front ++ " [".toList ++ joinedAttributes list) ++ [']', ';'] := by simp [attributeList]
    have last := List.append_inj_right' (cut.symm.trans whole) rfl
    cases last
  intro line within
  cases s with
  | setting => cases other
  | subgraph => cases leaf
  | space =>
    obtain rfl := List.mem_singleton.mp within
    rfl
  | _ =>
    obtain rfl := List.mem_singleton.mp within
    exact attributes _ _

end Statement

/-- A body whose subgraphs have their settings in front of all else, and which has none of its own. -/
inductive Led : List Statement → Prop where
  | nil : Led []
  | leaf {s : Statement} {rest : List Statement} :
    s.isLeaf = true → s.setting? = none → Led rest → Led (s :: rest)
  | subgraph {id : String} {settings : List Attribute} {body rest : List Statement} :
    (∀ a ∈ settings, ' ' ∉ a.1.toList ∧ '=' ∉ a.1.toList) → Led body → Led rest →
      Led (.subgraph id (settings.map .setting ++ body) :: rest)

namespace Led

theorem append {body rest : List Statement} (first : Led body) (second : Led rest) :
    Led (body ++ rest) := by
  induction first with
  | nil => exact second
  | leaf leaf other _ ih => exact .leaf leaf other ih
  | subgraph keys inside _ _ ih => exact .subgraph keys inside ih

theorem ofLeaves {body : List Statement}
    (leaves : ∀ s ∈ body, s.isLeaf = true ∧ s.setting? = none) : Led body := by
  induction body with
  | nil => exact .nil
  | cons s rest ih =>
    obtain ⟨first, others⟩ := List.forall_mem_cons.mp leaves
    exact .leaf first.1 first.2 (ih others)

theorem no_settings {body : List Statement} (led : Led body) :
    body.filterMap Statement.setting? = [] := by
  induction led with
  | nil => rfl
  | leaf _ other _ ih => rw [List.filterMap_cons_none other, ih]
  | subgraph _ _ _ _ ih => exact ih

theorem frontSettings_body {body : List Statement} (led : Led body) (level : Nat)
    {closing : List Char} (brace : closing.getLast? = some '\x7d') (more : List (List Char)) :
    frontSettings (bodyLines level body ++ closing :: more) = [] := by
  cases led with
  | nil =>
    rw [bodyLines, List.nil_append, frontSettings, not_setting_of_last (by decide) brace]
  | @leaf s rest leaf other _ =>
    have none := s.readSetting?_leaf leaf other level
    obtain ⟨line, single⟩ : ∃ line, s.lines level = [line] := by
      cases s <;> first | exact ⟨_, rfl⟩ | cases leaf
    rw [single] at none
    rw [bodyLines, single, List.append_assoc, List.cons_append, frontSettings,
      none line List.mem_cons_self]
  | @subgraph id settings body rest keys _ _ =>
    have last : (indentation level ++ "subgraph ".toList ++ literal id ++ " \x7b".toList).getLast? =
        some '\x7b' := getLast?_of_readSubgraph? (readSubgraph?_opening level id)
    rw [bodyLines, Statement.lines]
    simp only [List.cons_append, frontSettings, not_setting_of_last (by decide) last]

end Led

theorem frontSettings_settings {settings : List Attribute}
    (keys : ∀ a ∈ settings, ' ' ∉ a.1.toList ∧ '=' ∉ a.1.toList) (level : Nat)
    (more : List (List Char)) :
    frontSettings (bodyLines level (settings.map .setting) ++ more) =
      settings.map readBack ++ frontSettings more := by
  induction settings with
  | nil => rfl
  | cons a rest ih =>
    obtain ⟨first, others⟩ := List.forall_mem_cons.mp keys
    have read := readSetting?_lines first.1 first.2 level _ (List.mem_singleton_self _)
    rw [List.map_cons, bodyLines, Statement.lines, List.append_assoc, List.singleton_append,
      frontSettings, read, ih others]
    rfl

def Part.placed (p : Part) : List ReadFrame × List Char :=
  match p with
  | ⟨around, .subgraph id body⟩ => ((around ++ [frameOf id body]).map Frame.readBack,
      indentation (1 + around.length) ++ "subgraph ".toList ++ literal id ++ " \x7b".toList)
  | ⟨around, s⟩ => (around.map Frame.readBack, (s.lines (1 + around.length)).headD [])

def opened (around : List ReadFrame) (lines : List (List Char)) : List (List ReadFrame × List Char) :=
  (placed around lines).filter fun p => !isClosing p.2

theorem opened_leaf {around : List Frame} {more : List (List Char)} {s : Statement}
    (leaf : s.isLeaf = true) :
    opened (around.map Frame.readBack) (s.lines (1 + around.length) ++ more) =
      (s.parts around).map Part.placed ++ opened (around.map Frame.readBack) more := by
  have single : s.lines (1 + around.length) = [(Part.placed ⟨around, s⟩).2] ∧
      (Part.placed ⟨around, s⟩).1 = around.map Frame.readBack := by
    cases s <;> first | exact ⟨rfl, rfl⟩ | cases leaf
  have within : (Part.placed ⟨around, s⟩).2 ∈ s.lines (1 + around.length) := by
    rw [single.1]
    exact List.mem_singleton_self _
  have quiet := s.not_opening leaf _ _ within
  have open_ := s.not_closing leaf _ _ within
  rw [s.parts_leaf leaf, single.1, List.singleton_append, opened, placed, quiet]
  simp only [open_, Bool.false_eq_true, ↓reduceIte, List.filter_cons, Bool.not_false, ← single.2]
  rfl

theorem opened_leaves {around : List Frame} {body : List Statement} {more : List (List Char)}
    (leaves : ∀ s ∈ body, s.isLeaf = true) :
    opened (around.map Frame.readBack) (bodyLines (1 + around.length) body ++ more) =
      (bodyParts around body).map Part.placed ++ opened (around.map Frame.readBack) more := by
  induction body with
  | nil => rfl
  | cons s rest ih =>
    obtain ⟨leaf, others⟩ := List.forall_mem_cons.mp leaves
    rw [bodyLines, List.append_assoc, opened_leaf leaf, ih others, bodyParts, List.map_append,
      List.append_assoc]

theorem opened_opening {more : List (List Char)} (frames : List ReadFrame) (level : Nat)
    (id : String) :
    let line := indentation level ++ "subgraph ".toList ++ literal id ++ " \x7b".toList
    let inside := frames ++ [⟨withoutReturns id, frontSettings more⟩]
    opened frames (line :: more) = (inside, line) :: opened inside more := by
  intro line inside
  have last : line.getLast? = some '\x7b' := getLast?_of_readSubgraph? (readSubgraph?_opening level id)
  have opens : isClosing line = false := by
    rw [Bool.eq_false_iff]
    intro closes
    rw [getLast?_of_isClosing closes] at last
    cases last
  rw [opened, placed, readSubgraph?_opening]
  simp only [List.filter_cons, opens, Bool.not_false, ↓reduceIte]
  rfl

theorem opened_closing {more : List (List Char)} (frame : ReadFrame) (frames : List ReadFrame)
    (level : Nat) :
    opened (frames ++ [frame]) ((indentation level ++ ['\x7d']) :: more) = opened frames more := by
  have closes : isClosing (indentation level ++ ['\x7d']) = true := by
    rw [isClosing, unindented_indentation]
    rfl
  rw [opened, placed, readSubgraph?_closing]
  simp only [closes, ↓reduceIte, List.filter_cons, Bool.not_true, Bool.false_eq_true,
    List.dropLast_concat]
  rfl

theorem Led.opened {around : List Frame} {body : List Statement} {more : List (List Char)}
    (led : Led body) :
    opened (around.map Frame.readBack) (bodyLines (1 + around.length) body ++ more) =
      (bodyParts around body).map Part.placed ++ Dot.opened (around.map Frame.readBack) more := by
  induction led generalizing around more with
  | nil => rfl
  | leaf leaf _ _ ih =>
    rw [bodyLines, List.append_assoc, opened_leaf leaf, ih, bodyParts, List.map_append,
      List.append_assoc]
  | @subgraph id settings body rest keys inside _ ihBody ihRest =>
    have frame : frameOf id (settings.map .setting ++ body) = ⟨id, settings⟩ := by
      rw [frameOf, List.filterMap_append, inside.no_settings, List.append_nil, List.filterMap_map]
      exact congrArg (Frame.mk id) List.filterMap_some
    let deeper := around ++ [⟨id, settings⟩]
    have level : 1 + deeper.length = 1 + around.length + 1 := by simp [deeper, Nat.add_assoc]
    let closing := indentation (1 + around.length) ++ ['\x7d']
    let others := bodyLines (1 + around.length) rest ++ more
    let lines := bodyLines (1 + deeper.length) (settings.map .setting) ++
      (bodyLines (1 + deeper.length) body ++ closing :: others)
    have front : frontSettings lines = settings.map readBack := by
      rw [frontSettings_settings keys, inside.frontSettings_body _ List.getLast?_concat, List.append_nil]
    have leaves : ∀ s ∈ settings.map Statement.setting, s.isLeaf = true := by
      rintro s within
      obtain ⟨a, -, rfl⟩ := List.mem_map.mp within
      rfl
    have whole : bodyLines (1 + around.length) (.subgraph id (settings.map .setting ++ body) :: rest) ++
        more = (indentation (1 + around.length) ++ "subgraph ".toList ++ literal id ++ " \x7b".toList) ::
          lines := by
      simp only [bodyLines, Statement.lines, bodyLines_append, ← level, List.cons_append,
        List.append_assoc, List.nil_append, lines, closing, others]
    have frames : deeper.map Frame.readBack =
        around.map Frame.readBack ++ [⟨withoutReturns id, settings.map readBack⟩] :=
      List.map_append
    rw [whole, opened_opening, front, ← frames, opened_leaves leaves, ihBody, frames, opened_closing,
      ihRest]
    simp only [bodyParts, Statement.parts, bodyParts_append, frame, List.map_append, List.map_cons,
      List.append_assoc, List.cons_append, Part.placed]
    rfl

mutual

theorem Statement.neat_parts (around : List Frame) (s : Statement) (neat : s.isNeat = true) :
    ∀ p ∈ s.parts around, p.statement.isNeat = true := by
  by_cases leaf : s.isLeaf = true
  · rw [s.parts_leaf leaf]
    exact List.forall_mem_singleton.mpr neat
  · cases s with
    | subgraph id body =>
      exact List.forall_mem_cons.mpr ⟨neat, neat_bodyParts _ body neat⟩
    | _ => exact (leaf rfl).elim

theorem neat_bodyParts (around : List Frame) (body : List Statement) (neat : areNeat body = true) :
    ∀ p ∈ bodyParts around body, p.statement.isNeat = true := by
  cases body with
  | nil => exact nofun
  | cons s rest =>
    rw [areNeat, Bool.and_eq_true] at neat
    rw [bodyParts, List.forall_mem_append]
    exact ⟨s.neat_parts around neat.1, neat_bodyParts around rest neat.2⟩

end

def NodePart.placed (n : NodePart) : List ReadFrame × List Char :=
  (n.around.map Frame.readBack, indentation (1 + n.around.length) ++ n.chars)

theorem readNode?_eq_none {line : List Char} (unread : readLiteral? (unindented line) = none) :
    readNode? line = none := by
  rw [readNode?, unread]

theorem readNode?_of_isClosing {line : List Char} (closes : isClosing line = true) :
    readNode? line = none := by
  have brace : unindented line = ['\x7d'] := by simpa [isClosing] using closes
  rw [readNode?, brace]
  rfl

theorem readSubgraph?_of_isClosing {line : List Char} (closes : isClosing line = true) :
    readSubgraph? line = none := by
  cases read : readSubgraph? line with
  | none => rfl
  | some id =>
    have last := getLast?_of_readSubgraph? read
    rw [getLast?_of_isClosing closes] at last
    cases last

theorem Part.node_placed (p : Part) (neat : p.statement.isNeat = true) :
    Option.guard (fun q => (readNode? q.2).isSome) p.placed = p.node?.map NodePart.placed := by
  obtain ⟨around, s⟩ := p
  have minor (leaf : s.isMinor = true) (line : List Char)
      (within : line ∈ s.lines (1 + around.length)) : readNode? line = none :=
    readNode?_eq_none (s.unread leaf neat _ line within)
  cases s with
  | node name attributes =>
    have read := readNode?_chars (1 + around.length) ⟨around, name, attributes⟩
    have same : Part.placed ⟨around, .node name attributes⟩ =
        NodePart.placed ⟨around, name, attributes⟩ :=
      Prod.ext rfl (List.append_assoc _ _ _)
    simp only [same, Option.guard, NodePart.placed, read, Option.isSome_some, ↓reduceIte,
      Part.node?, Option.map_some]
  | edge source target attributes =>
    have unread := readNode?_edge (1 + around.length) ⟨source, target, attributes⟩
    simp only [EdgePart.chars, ← List.append_assoc] at unread
    simp only [Part.placed, Statement.lines, List.headD_cons, Option.guard, unread]
    rfl
  | subgraph id body =>
    have unread := readNode?_eq_none (unread_opening (1 + around.length) id)
    simp only [Part.placed, Option.guard, unread]
    rfl
  | _ =>
    have unread := minor rfl _ (List.mem_singleton_self _)
    simp only [Part.placed, Statement.lines, List.headD_cons, Option.guard, unread]
    rfl

theorem Part.frame_placed (p : Part) :
    (if (readSubgraph? p.placed.2).isSome then p.placed.1.getLast? else none) =
      p.frame?.map Frame.readBack := by
  obtain ⟨around, s⟩ := p
  have leaf (leaf : s.isLeaf = true) (line : List Char)
      (within : line ∈ s.lines (1 + around.length)) : readSubgraph? line = none :=
    s.not_opening leaf _ line within
  cases s with
  | subgraph id body =>
    simp only [Part.placed, readSubgraph?_opening, Option.isSome_some, ↓reduceIte, List.map_append,
      List.map_cons, List.map_nil, List.getLast?_concat, Part.frame?, Option.map_some]
  | _ =>
    have unread := leaf rfl _ (List.mem_singleton_self _)
    simp only [Part.placed, Statement.lines, List.headD_cons, unread]
    rfl

theorem opened_document {d : Document} {head rest : List Statement} (body : d.body = head ++ rest)
    (leaves : ∀ s ∈ head, s.isLeaf = true) (led : Led rest) : opened [] (d.lines ++ [[]]) =
      ([], "digraph ".toList ++ d.name.toList ++ " \x7b".toList) ::
        ((bodyParts [] d.body).map Part.placed ++ [([], [])]) := by
  have first : readSubgraph? ("digraph ".toList ++ d.name.toList ++ " \x7b".toList) = none := rfl
  have opens : isClosing ("digraph ".toList ++ d.name.toList ++ " \x7b".toList) = false := rfl
  have front := @opened_leaves [] head (bodyLines 1 rest ++ [['\x7d'], []]) leaves
  have behind := @Led.opened [] rest [['\x7d'], []] led
  have last : opened [] [['\x7d'], []] = [([], [])] := rfl
  have whole : d.lines ++ [[]] = ("digraph ".toList ++ d.name.toList ++ " \x7b".toList) ::
      (bodyLines 1 head ++ (bodyLines 1 rest ++ [['\x7d'], []])) := by
    simp [Document.lines, body, bodyLines_append]
  rw [whole, opened, placed, first]
  simp only [opens, Bool.false_eq_true, ↓reduceIte, List.filter_cons, Bool.not_false]
  refine congrArg _ ?_
  rw [body, bodyParts_append, List.map_append, List.append_assoc, ← last]
  exact front.trans (congrArg _ behind)

/-- What is read off the placed lines of a document is what is picked from its parts, if nothing is
read from closing lines, the first line or the empty one at the end. -/
theorem read_document {α : Type} {read : List ReadFrame × List Char → Option α}
    {pick : Part → Option α} {d : Document} {head rest : List Statement}
    (body : d.body = head ++ rest) (leaves : ∀ s ∈ head, s.isLeaf = true) (led : Led rest)
    (closing : ∀ p, isClosing p.2 = true → read p = none)
    (first : read ([], "digraph ".toList ++ d.name.toList ++ " \x7b".toList) = none)
    (last : read ([], []) = none)
    (parts : ∀ p ∈ bodyParts [] d.body, read p.placed = pick p) :
    (placed [] (d.lines ++ [[]])).filterMap read = gather pick [] d.body := by
  have kept (lines : List (List Char)) :
      (placed [] lines).filterMap read = (opened [] lines).filterMap read := by
    rw [opened, List.filterMap_filter]
    refine List.filterMap_congr fun p _ => ?_
    cases closes : isClosing p.2 with
    | false => rfl
    | true => exact closing p closes
  have drawn : ((bodyParts [] d.body).map Part.placed).filterMap read = gather pick [] d.body := by
    rw [List.filterMap_map]
    exact List.filterMap_congr parts
  rw [kept, opened_document body leaves led, List.filterMap_cons_none first, List.filterMap_append,
    drawn, List.filterMap_cons_none last, List.filterMap_nil, List.append_nil]

theorem placedNodes_document {d : Document} {head rest : List Statement}
    (body : d.body = head ++ rest) (leaves : ∀ s ∈ head, s.isLeaf = true) (led : Led rest)
    (neat : areNeat d.body = true) :
    placedNodes (d.lines ++ [[]]) = d.nodes.map NodePart.placed := by
  rw [placedNodes, ← List.filterMap_eq_filter, Document.nodes, gather, List.map_filterMap]
  refine read_document body leaves led (fun p closes => ?_) rfl rfl fun p within =>
    p.node_placed (neat_bodyParts [] d.body neat p within)
  simp [readNode?_of_isClosing closes]

theorem readFrames_document {d : Document} {head rest : List Statement}
    (body : d.body = head ++ rest) (leaves : ∀ s ∈ head, s.isLeaf = true) (led : Led rest) :
    readFrames (d.lines ++ [[]]) = d.frames.map Frame.readBack := by
  rw [readFrames, Document.frames, gather, List.map_filterMap]
  refine read_document body leaves led (fun p closes => ?_) rfl rfl fun p _ => p.frame_placed
  simp [readSubgraph?_of_isClosing closes]

end CallChart.Dot
