import CallChart.Files
import CallChart.Proofs.Text.Split

namespace CallChart.Files

/-- A step of a path that goes to an entry of the directory it is taken in. -/
def IsName (name : String) : Prop :=
  name ≠ "" ∧ name ≠ "." ∧ name ≠ ".." ∧ '/' ∉ name.toList

instance (name : String) : Decidable (IsName name) :=
  inferInstanceAs (Decidable (_ ∧ _ ∧ _ ∧ _))

def follow (here : Path) (step : String) : Path :=
  if step = "." then here else if step = ".." then back here else here ++ [step]

theorem steps_eq (path : String) : steps path = (strides path).foldl follow (start path) := rfl

theorem follow_name {name : String} (plain : IsName name) (here : Path) :
    follow here name = here ++ [name] := by
  simp [follow, plain.2.1, plain.2.2.1]

theorem startsWith_slash (s : String) :
    Text.startsWith "/" s = (s.toList.head? == some '/') := by
  cases chars : s.toList with
  | nil => simp [Text.startsWith, chars]
  | cons c rest =>
    simp only [Text.startsWith, chars, String.reduceToList, List.isPrefixOf, Bool.and_true,
      List.head?_cons]
    exact Bool.beq_comm

theorem startsWith_name {name : String} (plain : IsName name) :
    Text.startsWith "/" name = false := by
  rw [startsWith_slash]
  by_contra slash
  exact plain.2.2.2 (List.mem_of_head? (by simpa using slash))

theorem strides_append (before after : List Char) :
    strides (String.ofList (before ++ '/' :: after)) =
      strides (String.ofList before) ++ strides (String.ofList after) := by
  simp [strides, Text.split, Text.splitChars_append]

theorem strides_slash (path rest : String) :
    strides (path ++ "/" ++ rest) = strides path ++ strides rest := by
  have whole : path ++ "/" ++ rest = String.ofList (path.toList ++ '/' :: rest.toList) := by
    rw [← String.toList_inj]
    simp
  rw [whole, strides_append, String.ofList_toList, String.ofList_toList]

theorem start_append {path : String} (named : path ≠ "") (rest : String) :
    start (path ++ rest) = start path := by
  cases chars : path.toList with
  | nil => exact (named (String.toList_inj.mp (by simp [chars]))).elim
  | cons c others => simp [start, startsWith_slash, chars]

theorem getLast?_of_strides {path : String} (still : strides path = []) :
    path.toList = [] ∨ path.toList.getLast? = some '/' := by
  rcases List.eq_nil_or_concat path.toList with empty | ⟨before, last, chars⟩
  · exact .inl empty
  · refine .inr ?_
    by_contra other
    have plain : '/' ∉ [last] := by
      simpa [chars, eq_comm] using other
    obtain ⟨pieces, piece, -, split⟩ := Text.splitChars_append_plain '/' before
    rw [List.concat_eq_append] at chars
    have step : String.ofList (piece ++ [last]) ∈ strides path := by
      simp [strides, Text.split, chars, split [last] plain]
    simp [still] at step

theorem strides_name {name : String} (plain : IsName name) : strides name = [name] := by
  simp [strides, Text.split, Text.splitChars_plain plain.2.2.2, plain.1]

theorem strides_joined {name : String} (directory : String) (plain : IsName name) :
    strides (joined directory name) = strides directory ++ [name] := by
  simp only [joined, startsWith_name plain, Bool.false_eq_true, ↓reduceIte]
  by_cases empty : directory = ""
  · simp only [empty, true_or, ↓reduceIte, String.empty_append, strides_name plain]
    rfl
  by_cases closed : directory.toList.getLast? = some '/'
  · obtain ⟨before, chars⟩ := List.getLast?_eq_some_iff.mp closed
    have whole : directory = String.ofList (before ++ '/' :: []) := by
      rw [← chars, String.ofList_toList]
    have longer : directory ++ name = String.ofList (before ++ '/' :: name.toList) := by
      rw [← String.toList_inj]
      simp [chars]
    simp only [empty, closed, or_true, ↓reduceIte]
    rw [longer, strides_append, String.ofList_toList, strides_name plain, whole, strides_append]
    simp [strides, Text.split, Text.splitChars]
  · have longer : directory ++ "/" ++ name =
        String.ofList (directory.toList ++ '/' :: name.toList) := by
      rw [← String.toList_inj]
      simp
    simp only [empty, closed, or_self, ↓reduceIte]
    rw [longer, strides_append, String.ofList_toList, String.ofList_toList, strides_name plain]

theorem start_joined {name : String} (directory : String) (plain : IsName name) :
    start (joined directory name) = start directory := by
  simp only [joined, startsWith_name plain, Bool.false_eq_true, ↓reduceIte]
  by_cases empty : directory = ""
  · simp only [empty, true_or, ↓reduceIte, start, String.empty_append, startsWith_name plain]
    rfl
  split
  · exact start_append empty name
  · rw [String.append_assoc, start_append empty]

theorem steps_joined {name : String} (directory : String) (plain : IsName name) :
    steps (joined directory name) = steps directory ++ [name] := by
  rw [steps_eq, strides_joined directory plain, start_joined directory plain, List.foldl_append]
  exact follow_name plain _

theorem joined_eq_append {name : String} (directory : String) (plain : IsName name) :
    ∃ between, (between = "" ∨ between = "/") ∧
      joined directory name = directory ++ between ++ name := by
  simp only [joined, startsWith_name plain, Bool.false_eq_true, ↓reduceIte]
  split
  · exact ⟨"", .inl rfl, by simp⟩
  · exact ⟨"/", .inr rfl, rfl⟩

theorem utf8ByteSize_joined_le {name : String} (directory : String) (plain : IsName name) :
    (joined directory name).utf8ByteSize ≤ directory.utf8ByteSize + 1 + name.utf8ByteSize := by
  obtain ⟨between, slash, longer⟩ := joined_eq_append directory plain
  have size : between.utf8ByteSize ≤ 1 := by
    rcases slash with rfl | rfl <;> decide
  rw [longer, String.utf8ByteSize_append, String.utf8ByteSize_append]
  omega

theorem joined_ends {name : String} (directory : String) (plain : IsName name) :
    (joined directory name).toList.getLast? ≠ some '/' := by
  obtain ⟨between, -, longer⟩ := joined_eq_append directory plain
  intro closed
  have last : name.toList.getLast? = some '/' := by
    have there : name.toList ≠ [] := by simpa using plain.1
    rw [longer, String.toList_append, List.getLast?_append] at closed
    rwa [List.getLast?_eq_some_getLast there] at closed ⊢
  exact plain.2.2.2 (List.mem_of_getLast? last)

theorem joined_slash {name : String} (directory : String) (plain : IsName name) (rest : String) :
    joined directory (name ++ "/" ++ rest) = joined directory name ++ "/" ++ rest := by
  have relative : Text.startsWith "/" (name ++ "/" ++ rest) = false := by
    have first := startsWith_name plain
    rw [startsWith_slash] at first ⊢
    cases chars : name.toList with
    | nil => exact (plain.1 (String.toList_inj.mp (by simp [chars]))).elim
    | cons c others => simpa [chars] using first
  simp only [joined, startsWith_name plain, relative, Bool.false_eq_true, ↓reduceIte]
  split <;> simp [String.append_assoc]

theorem joined_ne_empty {name : String} (directory : String) (plain : IsName name) :
    joined directory name ≠ "" := by
  obtain ⟨between, -, longer⟩ := joined_eq_append directory plain
  simp [longer, plain.1]

def Fixed (p : Path) : Prop :=
  p.all (· = "..") = true ∨ p = root

theorem not_fixed_of_mem {p : Path} {name : String} (plain : IsName name) (within : name ∈ p) :
    ¬ Fixed p := by
  rintro (dots | rfl)
  · exact plain.2.2.1 (by simpa using List.all_eq_true.mp dots name within)
  · exact plain.2.2.2 (by simp [List.mem_singleton.mp within])

theorem not_fixed_of_name {name : String} (plain : IsName name) (here : Path) :
    ¬ Fixed (here ++ [name]) :=
  not_fixed_of_mem plain (by simp)

theorem lookup?_of_fixed {fs : Files} {p : Path} (fixed : Fixed p) :
    fs.lookup? p = some .directory :=
  if_pos fixed

theorem lookup?_of_not_fixed {fs : Files} {p : Path} (free : ¬ Fixed p) :
    fs.lookup? p = fs.entries.lookup p :=
  if_neg free

theorem walk_steps {fs : Files} {here p : Path} {path : List String}
    (walked : fs.walk here path = .ok p) :
    p = path.foldl follow here := by
  induction path generalizing here with
  | nil =>
    cases walked
    rfl
  | cons step rest ih =>
    simp only [walk] at walked
    split at walked
    · cases walked
    · cases walked
    · simp only [List.foldl_cons, follow]
      by_cases dot : step = "."
      · simp only [dot, ↓reduceIte] at walked ⊢
        exact ih walked
      by_cases dots : step = ".."
      · simp only [dots, ↓reduceIte] at walked ⊢
        exact ih walked
      · simp only [dot, dots, ↓reduceIte] at walked ⊢
        split at walked
        · cases walked
        · exact ih walked

theorem walk_append {fs : Files} {here : Path} (before after : List String) :
    fs.walk here (before ++ after) = (fs.walk here before).bind (fs.walk · after) := by
  induction before generalizing here with
  | nil => rfl
  | cons step rest ih =>
    simp only [List.cons_append, walk, ih]
    cases fs.lookup? here with
    | none => rfl
    | some e =>
      cases e with
      | file bytes executable => rfl
      | directory => repeat' split <;> try rfl

theorem locate_steps {fs : Files} {p : Path} {path : String} (found : fs.locate path = .ok p) :
    p = steps path := by
  simp only [locate] at found
  split at found
  · cases found
  · split at found
    · cases found
    · split at found
      · cases found
      · exact walk_steps found

/-- What a name has to be like for the system to take it. -/
structure IsShort (name : String) : Prop where
  plain : IsName name
  bounded : name.utf8ByteSize ≤ nameLimit
  text : '\x00' ∉ name.toList

/-- A path that can be handed to the system as it is written. -/
def Spelled (path : String) : Prop :=
  '\x00' ∉ path.toList ∧ path.utf8ByteSize ≤ pathLimit

theorem locate_eq {fs : Files} {path : String} (spelled : Spelled path) (named : path ≠ "") :
    fs.locate path = fs.walk (start path) (strides path) := by
  obtain ⟨text, short⟩ := spelled
  simp [locate, text, named, Nat.not_lt.mpr short]

theorem spelled_joined {directory name : String} (short : IsShort name)
    (text : '\x00' ∉ directory.toList)
    (bounded : directory.utf8ByteSize + 1 + nameLimit ≤ pathLimit) :
    Spelled (joined directory name) := by
  obtain ⟨between, slash, longer⟩ := joined_eq_append directory short.plain
  have text' : '\x00' ∉ between.toList := by
    rcases slash with rfl | rfl <;> decide
  constructor
  · simp [longer, text, text', short.text]
  · have longest := utf8ByteSize_joined_le directory short.plain
    have bounds := short.bounded
    omega

theorem walk_of_locate {fs : Files} {p : Path} {directory name : String} (plain : IsName name)
    (found : fs.locate (joined directory name) = .ok p) :
    Spelled directory ∧ fs.walk (start directory) (strides directory ++ [name]) = .ok p := by
  obtain ⟨between, -, longer⟩ := joined_eq_append directory plain
  simp only [locate] at found
  split at found
  · cases found
  rename_i text
  split at found
  · cases found
  split at found
  · cases found
  rename_i short
  rw [start_joined directory plain, strides_joined directory plain] at found
  rw [longer] at text short
  refine ⟨⟨?_, ?_⟩, found⟩
  · simp only [String.toList_append, List.contains_eq_mem, List.mem_append, decide_eq_true_eq,
      not_or] at text
    exact text.1.1
  · rw [String.utf8ByteSize_append, String.utf8ByteSize_append] at short
    omega

/-- A path can be walked and does not insist on a directory. -/
def Reaches (fs : Files) (path : String) : Prop :=
  fs.locate path = .ok (steps path) ∧ path.toList.getLast? ≠ some '/'

theorem entryAt_of_reaches {fs : Files} {path : String} (reaches : fs.Reaches path) :
    fs.entryAt path = .ok (steps path, fs.lookup? (steps path)) := by
  simp only [entryAt, reaches.1, bind, Except.bind]
  split
  · simp [reaches.2, pure, Except.pure]
  · rfl

theorem entryAt_steps {fs : Files} {p : Path} {path : String} {e : Option Entry}
    (found : fs.entryAt path = .ok (p, e)) :
    fs.locate path = .ok (steps path) ∧ p = steps path ∧ e = fs.lookup? (steps path) := by
  simp only [entryAt, bind, Except.bind] at found
  cases located : fs.locate path with
  | error fault => simp [located] at found
  | ok there =>
    obtain rfl := locate_steps located
    simp only [located] at found
    split at found
    · split at found
      · cases found
      · cases found
        exact ⟨rfl, rfl, rfl⟩
    · cases found
      exact ⟨rfl, rfl, rfl⟩

end CallChart.Files
