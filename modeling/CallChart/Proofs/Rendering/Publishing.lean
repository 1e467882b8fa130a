import CallChart.Proofs.Cache.Overlap
import CallChart.Proofs.Rendering.Outputs
import Mathlib.Logic.Function.Basic

namespace CallChart

structure Handle where
  place : Option Path
  written : Nat
  deriving DecidableEq, Repr

def Handle.moved (source target : Path) (h : Handle) : Handle :=
  { h with
    place := if h.place = some source then some target
      else if h.place = some target then none else h.place }

namespace Files

def overwritten (bytes : List UInt8) (offset : Nat) (piece : List UInt8) : List UInt8 :=
  bytes.take offset ++ List.replicate (offset - bytes.length) 0 ++ piece ++
    bytes.drop (offset + piece.length)

def overwrite (fs : Files) (p : Path) (offset : Nat) (piece : List UInt8) : Files :=
  match fs.lookup? p with
  | some (.file bytes executable) => fs.put p (.file (overwritten bytes offset piece) executable)
  | _ => fs

theorem overwritten_take (bytes : List UInt8) {written : Nat} (early : written < bytes.length)
    (size : Nat) :
    let piece := (bytes.drop written).take size
    overwritten (bytes.take written) written piece = bytes.take (written + piece.length) := by
  intro piece
  have length : (bytes.take written).length = written := by
    rw [List.length_take]
    omega
  have past : (bytes.take written).drop (written + piece.length) = [] := by
    rw [List.drop_eq_nil_iff]
    omega
  have due : piece = (bytes.drop written).take piece.length := by simp [piece]
  rw [overwritten, past, length, Nat.sub_self, List.take_take, Nat.min_self, List.take_add, ← due]
  simp

theorem overwrite_cases (fs : Files) (p : Path) (offset : Nat) (piece : List UInt8) :
    fs.overwrite p offset piece = fs ∨ ∃ bytes executable,
      fs.lookup? p = some (.file bytes executable) ∧ fs.overwrite p offset piece =
        fs.put p (.file (overwritten bytes offset piece) executable) := by
  unfold overwrite
  split
  · rename_i bytes executable there
    exact .inr ⟨bytes, executable, there, rfl⟩
  · exact .inl rfl

theorem Vacant.overwrite {fs : Files} {p : Path} {path : String} {offset : Nat} {piece : List UInt8}
    (vacant : fs.Vacant path) : (fs.overwrite p offset piece).Vacant path := by
  rcases fs.overwrite_cases p offset piece with same | ⟨bytes, executable, there, put⟩
  · rwa [same]
  · rw [put]
    exact vacant.put_file (by simp [there]) executable

theorem overwrite_lookup?_none {fs : Files} {p q : Path} {offset : Nat} {piece : List UInt8} :
    (fs.overwrite p offset piece).lookup? q = none ↔ fs.lookup? q = none := by
  rcases fs.overwrite_cases p offset piece with same | ⟨bytes, executable, there, put⟩
  · rw [same]
  · rw [put]
    by_cases at_ : q = p
    · have free : ¬ Fixed p := not_fixed_of_lookup? (there ▸ nofun : fs.lookup? p ≠ some .directory)
      rw [at_, lookup?_put_self free, there]
      simp
    · rw [lookup?_put_other at_]

theorem overwrite_of_fileAt {fs : Files} {p : Path} {bytes : List UInt8}
    (there : fs.fileAt p = some bytes) (offset : Nat) (piece : List UInt8) :
    ¬ Fixed p ∧ ∃ executable, fs.overwrite p offset piece =
      fs.put p (.file (overwritten bytes offset piece) executable) := by
  simp only [fileAt] at there
  split at there
  · rename_i content executable found
    obtain rfl := Option.some.inj there
    have free : fs.lookup? p ≠ some .directory := by simp [found]
    exact ⟨not_fixed_of_lookup? free, executable, by simp only [overwrite, found]⟩
  · cases there

theorem fileAt_moved_other {fs : Files} {p q p' : Path} {e : Entry} (first : q ≠ p)
    (second : q ≠ p') :
    ((fs.drop p).put p' e).fileAt q = fs.fileAt q :=
  (fileAt_of_lookup? (lookup?_put_other second)).trans (fileAt_of_lookup? (lookup?_drop_other first))

theorem Vacant.rename {fs : Files} {source target : String} (first : fs.Vacant source)
    (second : fs.Vacant target) :
    (fs.lookup? (steps source) = none ∧ fs.rename source target = .error .notFound) ∨
    ∃ bytes executable, fs.lookup? (steps source) = some (.file bytes executable) ∧
      fs.rename source target =
        .ok ((fs.drop (steps source)).put (steps target) (.file bytes executable)) := by
  simp only [Files.rename, entryAt_of_reaches first.reaches, bind, Except.bind]
  cases there : fs.lookup? (steps source) with
  | none => exact .inl ⟨rfl, rfl⟩
  | some e =>
    cases e with
    | directory => exact (first.free there).elim
    | file bytes executable =>
      refine .inr ⟨bytes, executable, rfl, ?_⟩
      simp only [entryAt_of_reaches second.reaches]
      split
      · rename_i directory
        exact (second.free directory).elim
      · rfl

end Files

/-- How far the writing of output files has come. The first of the targets that are left is the one in
work; its file is open if there is a handle. -/
structure Publisher where
  delivered : List (String × List UInt8)
  left : List (String × List UInt8)
  handle : Option Handle
  failure : Option Failure
  deriving DecidableEq, Repr

structure Publishing (ι : Type) where
  files : Files
  publishers : ι → Publisher

namespace Publisher

def current? (p : Publisher) : Option String :=
  p.handle.bind fun _ => p.left.head?.map (·.1)

def follow (source target : Path) (p : Publisher) : Publisher :=
  { p with handle := p.handle.map (Handle.moved source target) }

def finished (p : Publisher) : Bool :=
  p.left.isEmpty || p.failure.isSome

def result (p : Publisher) (output : Output) (a : Artifact) : Except Failure Rendering :=
  match p.failure with
  | some failure => .error failure
  | none => .ok ⟨a, output.descriptionPath, (Renderer.imageTarget output a).map (·.1)⟩

end Publisher

namespace Publishing

def begin {ι : Type} (output : Output) (artifacts : ι → Artifact) (fs : Files) : Publishing ι :=
  ⟨fs, fun i => ⟨[], Renderer.targets output (artifacts i), none, none⟩⟩

def aside (path : String) : String :=
  Output.withSuffix path "tmp"

def fail {ι : Type} [DecidableEq ι] (s : Publishing ι) (i : ι) (failure : Failure) : Publishing ι :=
  ⟨s.files, Function.update s.publishers i
    { s.publishers i with handle := none, failure := some failure }⟩

def opening {ι : Type} [DecidableEq ι] (s : Publishing ι) (i : ι) (path : String) : Publishing ι :=
  match s.files.write (aside path) [] with
  | .error fault => s.fail i (.fileFault (aside path) fault.message)
  | .ok fs =>
    ⟨fs, Function.update s.publishers i
      { s.publishers i with handle := some ⟨some (Files.steps (aside path)), 0⟩ }⟩

def filling {ι : Type} [DecidableEq ι] (s : Publishing ι) (i : ι) (h : Handle)
    (piece : List UInt8) : Publishing ι :=
  ⟨match h.place with
    | none => s.files
    | some p => s.files.overwrite p h.written piece,
    Function.update s.publishers i
      { s.publishers i with handle := some { h with written := h.written + piece.length } }⟩

def passed {ι : Type} [DecidableEq ι] (s : Publishing ι) (i : ι) (path : String)
    (bytes : List UInt8) (rest : List (String × List UInt8)) (fs : Files) : Publishing ι :=
  ⟨fs, fun j =>
    if j = i then ⟨(s.publishers i).delivered ++ [(path, bytes)], rest, none, none⟩
    else (s.publishers j).follow (Files.steps (aside path)) (Files.steps path)⟩

def moving {ι : Type} [DecidableEq ι] (s : Publishing ι) (i : ι) (path : String)
    (bytes : List UInt8) (rest : List (String × List UInt8)) : Publishing ι :=
  match s.files.rename (aside path) path with
  | .error fault => s.fail i (.fileFault path fault.message)
  | .ok fs => s.passed i path bytes rest fs

/-- The next step of one of the writers. A piece has one byte more than the size that is asked for,
if so many are left. -/
def advance {ι : Type} [DecidableEq ι] (s : Publishing ι) (i : ι) (size : Nat) : Publishing ι :=
  match s.publishers i with
  | ⟨_, (path, _) :: _, none, none⟩ => s.opening i path
  | ⟨_, (path, bytes) :: rest, some h, none⟩ =>
    if h.written < bytes.length then s.filling i h ((bytes.drop h.written).take (size + 1))
    else s.moving i path bytes rest
  | _ => s

def run {ι : Type} [DecidableEq ι] (s : Publishing ι) (schedule : List (ι × Nat)) : Publishing ι :=
  schedule.foldl (fun s step => s.advance step.1 step.2) s

theorem run_cons {ι : Type} [DecidableEq ι] (s : Publishing ι) (turn : ι × Nat)
    (rest : List (ι × Nat)) :
    s.run (turn :: rest) = (s.advance turn.1 turn.2).run rest := rfl

end Publishing

def Publisher.todo : Publisher → Nat
  | ⟨_, (_, bytes) :: rest, none, none⟩ =>
    bytes.length + 2 + (rest.map fun target => target.2.length + 2).sum
  | ⟨_, (_, bytes) :: rest, some h, none⟩ =>
    bytes.length - h.written + 1 + (rest.map fun target => target.2.length + 2).sum
  | _ => 0

theorem Publisher.finished_of_todo {p : Publisher} (done : p.todo = 0) : p.finished = true := by
  obtain ⟨delivered, left, handle, failure⟩ := p
  cases left <;> cases handle <;> cases failure <;> simp [todo, finished] at done ⊢

theorem Publisher.todo_follow (source target : Path) (p : Publisher) :
    (p.follow source target).todo = p.todo := by
  obtain ⟨delivered, left, handle, failure⟩ := p
  cases left <;> cases handle <;> cases failure <;> rfl

namespace Publishing

theorem todo_advance {ι : Type} [DecidableEq ι] (s : Publishing ι) (i : ι) (size : Nat) :
    ((s.advance i size).publishers i).todo ≤ (s.publishers i).todo - 1 := by
  unfold advance
  split
  · rename_i delivered path bytes rest there
    unfold opening
    split
    · simp [fail, there, Publisher.todo]
    · simp only [there, Function.update_self, Publisher.todo]
      omega
  · rename_i delivered path bytes rest h there
    split
    · rename_i early
      simp only [filling, there, Function.update_self, Publisher.todo, List.length_take,
        List.length_drop]
      omega
    · unfold moving
      split
      · simp [fail, there, Publisher.todo]
      · simp only [passed, there, ↓reduceIte, Publisher.todo]
        cases rest with
        | nil => simp
        | cons next rest =>
          simp only [List.map_cons, List.sum_cons]
          omega
  · rename_i closed opened
    have done : (s.publishers i).todo = 0 := by
      unfold Publisher.todo
      split
      · rename_i there
        exact (closed _ _ _ _ there).elim
      · rename_i there
        exact (opened _ _ _ _ _ there).elim
      · rfl
    rw [done]

theorem todo_advance_other {ι : Type} [DecidableEq ι] {s : Publishing ι} {i j : ι} (other : j ≠ i)
    (size : Nat) :
    ((s.advance i size).publishers j).todo = (s.publishers j).todo := by
  unfold advance
  split
  · unfold opening
    split <;> simp [fail, other]
  · split
    · simp [filling, other]
    · unfold moving
      split
      · simp [fail, other]
      · simp [passed, other, Publisher.todo_follow]
  · rfl

theorem finished_of_turns {ι : Type} [DecidableEq ι] {s : Publishing ι} {i : ι}
    (schedule : List (ι × Nat))
    (enough : (s.publishers i).todo ≤ (schedule.filter (·.1 = i)).length) :
    ((s.run schedule).publishers i).finished = true := by
  induction schedule generalizing s with
  | nil => exact Publisher.finished_of_todo (Nat.le_zero.mp enough)
  | cons turn rest ih =>
    obtain ⟨j, size⟩ := turn
    refine ih ?_
    by_cases same : j = i
    · subst same
      have closer := s.todo_advance j size
      simp only [decide_true, List.filter_cons_of_pos, List.length_cons] at enough
      dsimp only
      omega
    · rw [todo_advance_other (Ne.symm same)]
      simpa [same] using enough

theorem write_any {fs fs' : Files} {path : String} (opened : fs.write path [] = .ok fs') :
    ∃ executable, fs' = fs.put (Files.steps path) (.file [] executable) ∧
      ∀ bytes, fs.write path bytes = .ok (fs.put (Files.steps path) (.file bytes executable)) := by
  obtain ⟨-, -, executable, rfl⟩ := Files.write_effect opened
  refine ⟨executable, rfl, fun bytes => ?_⟩
  rw [Files.write_eq] at opened ⊢
  cases found : fs.opened path with
  | error fault => simp [found, Except.map] at opened
  | ok there =>
    simp only [found, Except.map, Except.ok.injEq, Files.put, Files.mk.injEq, List.cons.injEq,
      Prod.mk.injEq, Entry.file.injEq, true_and] at opened ⊢
    obtain ⟨⟨place, same⟩, -⟩ := opened
    simp [place, same]

def stepsOf (left : List (String × List UInt8)) : List FileStep :=
  left.flatMap fun target => Renderer.wholeSteps target.1 target.2

/-- How far a writer has come with steps that lead to an outcome. While its file is open, the outcome is
the one of writing this file as a whole to what was there before. -/
inductive Resumes (outcome : Except (FileStep × FileFault) Unit × Files) : Files → Publisher → Prop where
  | between {fs : Files} {delivered left : List (String × List UInt8)} :
    FileStep.run fs (stepsOf left) = outcome → Resumes outcome fs ⟨delivered, left, none, none⟩
  | inside {fs : Files} {delivered rest : List (String × List UInt8)} {path : String}
    {bytes : List UInt8} {executable : Bool} {written : Nat} :
    (∀ bytes, fs.write (aside path) bytes =
      .ok (fs.put (Files.steps (aside path)) (.file bytes executable))) →
    FileStep.run fs (stepsOf ((path, bytes) :: rest)) = outcome →
    Resumes outcome (fs.put (Files.steps (aside path)) (.file (bytes.take written) executable))
      ⟨delivered, (path, bytes) :: rest, some ⟨some (Files.steps (aside path)), written⟩, none⟩
  | failed {fs : Files} {delivered left : List (String × List UInt8)} {step : FileStep}
    {fault : FileFault} : outcome = (.error (step, fault), fs) →
    Resumes outcome fs ⟨delivered, left, none, some (.fileFault step.path fault.message)⟩

theorem stepsOf_cons (path : String) (bytes : List UInt8) (rest : List (String × List UInt8)) :
    stepsOf ((path, bytes) :: rest) =
      .write (aside path) bytes :: .rename (aside path) path :: stepsOf rest := rfl

theorem resumes_opening {ι : Type} [DecidableEq ι] {s : Publishing ι} {i : ι}
    {outcome : Except (FileStep × FileFault) Unit × Files} {fs : Files} {path : String}
    {bytes : List UInt8} {delivered rest : List (String × List UInt8)} (files : s.files = fs)
    (publisher : s.publishers i = ⟨delivered, (path, bytes) :: rest, none, none⟩)
    (ran : FileStep.run fs (stepsOf ((path, bytes) :: rest)) = outcome) :
    Resumes outcome (s.opening i path).files ((s.opening i path).publishers i) := by
  simp only [opening, files]
  rcases Files.write_emptied fs (aside path) bytes with
    ⟨fs', fs'', opened, -, -⟩ | ⟨fault, refused, refused'⟩
  · obtain ⟨executable, rfl, writes⟩ := write_any opened
    simp only [opened, Function.update_self, publisher]
    exact (.inside writes ran : Resumes outcome (fs.put _ (.file (bytes.take 0) executable)) _)
  · have step : (FileStep.write (aside path) bytes).apply fs = (.error fault, fs) := by
      simp only [FileStep.apply, refused', Files.whole]
    rw [stepsOf_cons, FileStep.run_cons_error step] at ran
    simp only [refused, fail, Function.update_self, publisher, files]
    exact .failed ran.symm

theorem resumes_filling {ι : Type} [DecidableEq ι] {s : Publishing ι} {i : ι}
    {outcome : Except (FileStep × FileFault) Unit × Files} {fs : Files} {path : String}
    {bytes : List UInt8} {delivered rest : List (String × List UInt8)} {executable : Bool}
    {written : Nat}
    (publisher : s.publishers i =
      ⟨delivered, (path, bytes) :: rest, some ⟨some (Files.steps (aside path)), written⟩, none⟩)
    (files : s.files = fs.put (Files.steps (aside path)) (.file (bytes.take written) executable))
    (writes : ∀ bytes, fs.write (aside path) bytes =
      .ok (fs.put (Files.steps (aside path)) (.file bytes executable)))
    (ran : FileStep.run fs (stepsOf ((path, bytes) :: rest)) = outcome)
    (early : written < bytes.length) (size : Nat) :
    let s' := s.filling i ⟨some (Files.steps (aside path)), written⟩ ((bytes.drop written).take size)
    Resumes outcome s'.files (s'.publishers i) := by
  have free := Files.not_fixed_of_lookup? (Files.write_effect (writes [])).2.1
  simp only [filling, files, Files.overwrite, Files.lookup?_put_self free, Files.put_put,
    Files.overwritten_take bytes early, Function.update_self, publisher]
  exact .inside writes ran

theorem resumes_moving {ι : Type} [DecidableEq ι] {s : Publishing ι} {i : ι}
    {outcome : Except (FileStep × FileFault) Unit × Files} {fs : Files} {path : String}
    {bytes : List UInt8} {delivered rest : List (String × List UInt8)} {executable : Bool}
    {written : Nat} {handle : Option Handle}
    (publisher : s.publishers i = ⟨delivered, (path, bytes) :: rest, handle, none⟩)
    (files : s.files = fs.put (Files.steps (aside path)) (.file (bytes.take written) executable))
    (writes : ∀ bytes, fs.write (aside path) bytes =
      .ok (fs.put (Files.steps (aside path)) (.file bytes executable)))
    (ran : FileStep.run fs (stepsOf ((path, bytes) :: rest)) = outcome)
    (late : bytes.length ≤ written) :
    Resumes outcome (s.moving i path bytes rest).files
      ((s.moving i path bytes rest).publishers i) := by
  rw [List.take_of_length_le late] at files
  have step : (FileStep.write (aside path) bytes).apply fs = (.ok (), s.files) := by
    simp only [FileStep.apply, writes, Files.whole, files]
  rw [stepsOf_cons, FileStep.run_cons_ok step] at ran
  unfold moving
  cases moved : s.files.rename (aside path) path with
  | error fault =>
    have step : (FileStep.rename (aside path) path).apply s.files = (.error fault, s.files) := by
      simp only [FileStep.apply, moved, Files.whole]
    rw [FileStep.run_cons_error step] at ran
    simp only [fail, Function.update_self, publisher]
    exact .failed ran.symm
  | ok fs' =>
    have step : (FileStep.rename (aside path) path).apply s.files = (.ok (), fs') := by
      simp only [FileStep.apply, moved, Files.whole]
    rw [FileStep.run_cons_ok step] at ran
    simp only [passed, ↓reduceIte]
    exact .between ran

theorem resumes_advance {ι : Type} [DecidableEq ι] {s : Publishing ι} {i : ι}
    {outcome : Except (FileStep × FileFault) Unit × Files}
    (resumes : Resumes outcome s.files (s.publishers i)) (size : Nat) :
    Resumes outcome (s.advance i size).files ((s.advance i size).publishers i) := by
  generalize files : s.files = fs at resumes
  generalize publisher : s.publishers i = p at resumes
  have still (idle : s.advance i size = s) (resumes : Resumes outcome fs p) :
      Resumes outcome (s.advance i size).files ((s.advance i size).publishers i) := by
    rwa [idle, files, publisher]
  cases resumes with
  | @between _ delivered left ran =>
    cases left with
    | nil => exact still (by simp only [advance, publisher]) (.between ran)
    | cons target rest =>
      simp only [advance, publisher]
      exact resumes_opening files publisher ran
  | @inside fs delivered rest path bytes executable written writes ran =>
    simp only [advance, publisher]
    split
    · rename_i early
      exact resumes_filling publisher files writes ran early (size + 1)
    · rename_i late
      exact resumes_moving publisher files writes ran (Nat.not_lt.mp late)
  | failed lost => exact still (by simp only [advance, publisher]) (.failed lost)

theorem resumes_run {ι : Type} [DecidableEq ι] {s : Publishing ι} {i : ι}
    {outcome : Except (FileStep × FileFault) Unit × Files}
    (resumes : Resumes outcome s.files (s.publishers i)) {schedule : List (ι × Nat)}
    (alone : ∀ turn ∈ schedule, turn.1 = i) :
    Resumes outcome (s.run schedule).files ((s.run schedule).publishers i) := by
  induction schedule generalizing s with
  | nil => exact resumes
  | cons turn rest ih =>
    obtain ⟨first, others⟩ := List.forall_mem_cons.mp alone
    rw [run_cons, first]
    exact ih (resumes_advance resumes turn.2) others

theorem run_alone {ι : Type} [DecidableEq ι] {i : ι} {fs : Files} {output : Output}
    {artifacts : ι → Artifact} {schedule : List (ι × Nat)} (alone : ∀ turn ∈ schedule, turn.1 = i)
    (finished : (((begin output artifacts fs).run schedule).publishers i).finished = true) :
    let s := (begin output artifacts fs).run schedule
    ((s.publishers i).result output (artifacts i), s.files) =
      Renderer.writeOutputs output (artifacts i) fs := by
  intro s
  have begun : Resumes (FileStep.run fs (Renderer.outputSteps output (artifacts i)))
      (begin output artifacts fs).files ((begin output artifacts fs).publishers i) := .between rfl
  have ended : Resumes _ s.files (s.publishers i) := resumes_run begun alone
  have finished : (s.publishers i).finished = true := finished
  generalize s.files = fs' at ended
  generalize s.publishers i = p at ended finished
  rw [Renderer.writeOutputs]
  generalize FileStep.run fs (Renderer.outputSteps output (artifacts i)) = outcome at ended
  cases ended with
  | @between _ delivered left ran =>
    obtain rfl : left = [] := by simpa [Publisher.finished] using finished
    subst ran
    rfl
  | inside writes ran => simp [Publisher.finished] at finished
  | failed lost => rw [lost]; rfl

end Publishing

end CallChart
