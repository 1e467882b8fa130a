import CallChart.Proofs.Rendering.Publishing
import Mathlib.Data.List.Infix

namespace CallChart

namespace Output

open Files Publishing

def paths (o : Output) : List String :=
  o.descriptionPath.toList ++ o.imagePath.toList

theorem format_of_mem_paths {o : Output} {path : String}
    (accepted : Engine.checkFormat o.format = .ok ()) (within : path ∈ o.paths) :
    ∃ base format, o.base = some base ∧ Engine.checkFormat format = .ok () ∧
      path = withSuffix base format := by
  rcases List.mem_append.mp within with within | within
  · simp only [descriptionPath, Option.mem_toList, Option.map_eq_some_iff] at within
    obtain ⟨base, known, rfl⟩ := within
    exact ⟨base, descriptionFormat, known, by decide, rfl⟩
  · simp only [imagePath, Option.mem_toList, Option.ite_none_left_eq_some,
      Option.map_eq_some_iff] at within
    obtain ⟨-, base, known, rfl⟩ := within
    exact ⟨base, o.format, known, accepted, rfl⟩

/-- Targets and the files beside them are all at places of their own. -/
structure Apart (o : Output) : Prop where
  targets {path path' : String} : path ∈ o.paths → path' ∈ o.paths → steps path = steps path' →
    path = path'
  asides {path path' : String} : path ∈ o.paths → path' ∈ o.paths →
    steps (aside path) = steps (aside path') → path = path'
  beside {path path' : String} : path ∈ o.paths → path' ∈ o.paths → steps (aside path) ≠ steps path'

theorem apart {o : Output} (accepted : Engine.checkFormat o.format = .ok ()) : o.Apart := by
  have spelled {path : String} (within : path ∈ o.paths) : ∃ base format, o.base = some base ∧
      '.' ∉ format ∧ IsSuffix ('.' :: format) ∧ IsSuffix ('.' :: format ++ ".tmp".toList) ∧
      path = base ++ String.ofList ('.' :: format) ∧
      aside path = base ++ String.ofList ('.' :: format ++ ".tmp".toList) := by
    obtain ⟨base, format, known, plain, rfl⟩ := format_of_mem_paths accepted within
    obtain ⟨suffix, suffix'⟩ := suffix_of_checkFormat plain
    exact ⟨base, format.toList, known, fun dot => ((plain_of_checkFormat plain).2 '.' dot).1 rfl,
      suffix, suffix', withSuffix_eq base format, aside_eq base format⟩
  constructor
  case targets =>
    intro path path' first second same
    obtain ⟨base, format, known, -, suffix, -, rfl, -⟩ := spelled first
    obtain ⟨base', format', known', -, suffix', -, rfl, -⟩ := spelled second
    obtain rfl := Option.some.inj (known.symm.trans known')
    rw [steps_suffixed_inj suffix suffix' same]
  case asides =>
    intro path path' first second same
    obtain ⟨base, format, known, -, -, suffix, rfl, beside⟩ := spelled first
    obtain ⟨base', format', known', -, -, suffix', rfl, beside'⟩ := spelled second
    obtain rfl := Option.some.inj (known.symm.trans known')
    rw [beside, beside'] at same
    rw [List.append_cancel_right (steps_suffixed_inj suffix suffix' same)]
  case beside =>
    intro path path' first second same
    obtain ⟨base, format, known, -, -, suffix, -, beside⟩ := spelled first
    obtain ⟨base', format', known', plain, suffix', -, rfl, -⟩ := spelled second
    obtain rfl := Option.some.inj (known.symm.trans known')
    rw [beside] at same
    have formats := (List.cons.inj (steps_suffixed_inj suffix suffix' same)).2
    exact plain (by rw [← formats]; simp)

theorem paths_nodup {o : Output} : o.paths.Nodup := by
  simp only [paths, descriptionPath, imagePath]
  split
  · cases o.base <;> simp
  · rename_i other
    cases o.base with
    | none => simp
    | some base =>
      have apart : withSuffix base descriptionFormat ≠ withSuffix base o.format := by
        intro same
        rw [withSuffix_eq, withSuffix_eq, String.append_right_inj, String.ofList_inj] at same
        exact other (String.toList_inj.mp (List.cons.inj same).2).symm
      simpa using apart

theorem targets_prefix (o : Output) (a : Artifact) :
    (Renderer.targets o a).map (·.1) <+: o.paths := by
  have description : (o.descriptionPath.map fun path => (path, Utf8.encode a.description)).toList.map
      (·.1) = o.descriptionPath.toList := by
    cases o.descriptionPath <;> rfl
  rw [Renderer.targets, List.map_append, description, paths, Renderer.imageTarget,
    List.prefix_append_right_inj]
  cases o.imagePath <;> cases a.image <;> simp

end Output

namespace Publishing

open Files

/-- Whether a writer has moved a file onto a target. -/
def Delivers {ι : Type} (s : Publishing ι) (i : ι) (path : String) : Prop :=
  path ∈ (s.publishers i).delivered.map (·.1)

/-- Whether a writer has the file beside a target open. -/
def Opens {ι : Type} (s : Publishing ι) (i : ι) (path : String) : Prop :=
  (s.publishers i).current? = some path

theorem delivers_update {ι : Type} {s : Publishing ι} {i j : ι} {fs : Files} {path : String}
    [DecidableEq ι] {p : Publisher} (kept : p.delivered = (s.publishers i).delivered) :
    Delivers ⟨fs, Function.update s.publishers i p⟩ j path ↔ s.Delivers j path := by
  by_cases same : j = i
  · subst same
    simp [Delivers, kept]
  · simp [Delivers, same]

theorem opens_update {ι : Type} {s : Publishing ι} {i j : ι} {fs : Files} {path : String}
    [DecidableEq ι] {p : Publisher} : Opens ⟨fs, Function.update s.publishers i p⟩ j path ↔
    j = i ∧ p.current? = some path ∨ j ≠ i ∧ s.Opens j path := by
  by_cases same : j = i
  · subst same
    simp [Opens]
  · simp [Opens, same]

theorem delivers_passed {ι : Type} {s : Publishing ι} {i j : ι} {fs : Files} {path path' : String}
    {bytes : List UInt8} {rest : List (String × List UInt8)} [DecidableEq ι] :
    (s.passed i path bytes rest fs).Delivers j path' ↔
    s.Delivers j path' ∨ j = i ∧ path' = path := by
  by_cases same : j = i
  · subst same
    simp [Delivers, passed]
  · simp [Delivers, passed, same, Publisher.follow]

theorem opens_passed {ι : Type} {s : Publishing ι} {i j : ι} {fs : Files} {path path' : String}
    {bytes : List UInt8} {rest : List (String × List UInt8)} [DecidableEq ι] :
    (s.passed i path bytes rest fs).Opens j path' ↔ j ≠ i ∧ s.Opens j path' := by
  by_cases same : j = i
  · simp [Opens, passed, same, Publisher.current?]
  · cases handle : (s.publishers j).handle <;>
      simp [Opens, passed, same, Publisher.follow, Publisher.current?, handle]

/-- What holds however the steps of the writers come. A file beside a target is there as long as a
writer has it open, unless another writer has moved it, and only that makes a writer fail. -/
structure Sound {ι : Type} (output : Output) (artifacts : ι → Artifact) (s : Publishing ι) :
    Prop where
  targets (i : ι) : (s.publishers i).delivered ++ (s.publishers i).left =
    Renderer.targets output (artifacts i)
  vacant : ∀ path ∈ output.paths, s.files.Vacant path ∧ s.files.Vacant (aside path)
  held {i : ι} {path : String} : s.Opens i path → s.files.lookup? (steps (aside path)) = none →
    ∃ j ≠ i, s.Delivers j path
  gone {i : ι} {path : String} : s.Delivers i path → (∀ j, ¬ s.Opens j path) →
    s.files.lookup? (steps (aside path)) = none
  failed {i : ι} {failure : Failure} : (s.publishers i).failure = some failure →
    (s.publishers i).handle = none ∧ ∃ path ∈ ((s.publishers i).left.map (·.1)).head?,
      failure = .fileFault path FileFault.notFound.message ∧ ∃ j ≠ i, s.Delivers j path

namespace Sound

theorem mem_paths {ι : Type} {s : Publishing ι} {i : ι} {output : Output} {artifacts : ι → Artifact}
    (sound : Sound output artifacts s) {target : String × List UInt8}
    (within : target ∈ (s.publishers i).delivered ∨ target ∈ (s.publishers i).left) :
    target.1 ∈ output.paths := by
  rw [← List.mem_append, sound.targets] at within
  exact (output.targets_prefix (artifacts i)).mem (List.mem_map_of_mem within)

theorem mem_paths_of_first {ι : Type} {s : Publishing ι} {i : ι} {output : Output}
    {artifacts : ι → Artifact} {path : String} {bytes : List UInt8}
    {delivered rest : List (String × List UInt8)} (sound : Sound output artifacts s)
    {handle : Option Handle} {failure : Option Failure}
    (there : s.publishers i = ⟨delivered, (path, bytes) :: rest, handle, failure⟩) :
    path ∈ output.paths :=
  sound.mem_paths (.inr (there ▸ List.mem_cons_self : (path, bytes) ∈ (s.publishers i).left))

theorem mem_paths_of_opens {ι : Type} {s : Publishing ι} {i : ι} {output : Output}
    {artifacts : ι → Artifact} {path : String} (sound : Sound output artifacts s)
    (opens : s.Opens i path) : path ∈ output.paths := by
  obtain ⟨h, -, first⟩ := Option.bind_eq_some_iff.mp opens
  obtain ⟨target, head, rfl⟩ := Option.map_eq_some_iff.mp first
  exact sound.mem_paths (.inr (List.mem_of_head? head))

theorem mem_paths_of_delivers {ι : Type} {s : Publishing ι} {i : ι} {output : Output}
    {artifacts : ι → Artifact} {path : String} (sound : Sound output artifacts s)
    (delivers : s.Delivers i path) : path ∈ output.paths := by
  obtain ⟨target, within, rfl⟩ := List.mem_map.mp delivers
  exact sound.mem_paths (.inl within)

theorem prefix_paths {ι : Type} {s : Publishing ι} {output : Output} {artifacts : ι → Artifact}
    (sound : Sound output artifacts s) (i : ι) : (s.publishers i).delivered.map (·.1) ++
    (s.publishers i).left.map (·.1) <+: output.paths := by
  rw [← List.map_append, sound.targets]
  exact output.targets_prefix (artifacts i)

theorem further {ι : Type} {s : Publishing ι} {i j : ι} {output : Output} {artifacts : ι → Artifact}
    {path : String} (sound : Sound output artifacts s)
    (first : path ∈ ((s.publishers i).left.map (·.1)).head?) (delivers : s.Delivers j path) :
    (s.publishers i).delivered.length < (s.publishers j).delivered.length := by
  obtain ⟨more, whole⟩ := sound.prefix_paths i
  obtain ⟨more', whole'⟩ := sound.prefix_paths j
  obtain ⟨rest, left⟩ : ∃ rest, (s.publishers i).left.map (·.1) = path :: rest :=
    List.head?_eq_some_iff.mp first
  have here : output.paths[(s.publishers i).delivered.length]? = some path := by
    rw [← whole, left]
    simp
  obtain ⟨m, small, at_⟩ := List.mem_iff_getElem.mp delivers
  have there : output.paths[m]? = some path := by
    rw [← whole', List.append_assoc, List.getElem?_append_left small, List.getElem?_eq_getElem small,
      at_]
  rw [List.length_map] at small
  have same := (List.getElem?_inj (List.getElem?_eq_some_iff.mp here).1
    output.paths_nodup).mp (here.trans there.symm)
  omega

theorem ended_well {ι : Type} {s : Publishing ι} {output : Output} {artifacts : ι → Artifact}
    (sound : Sound output artifacts s) (finished : ∀ i, (s.publishers i).finished = true) (i : ι) :
    ∃ i, (s.publishers i).failure = none ∧
      (s.publishers i).delivered = Renderer.targets output (artifacts i) := by
  generalize gap : output.paths.length - (s.publishers i).delivered.length = n
  induction n using Nat.strong_induction_on generalizing i with
  | _ n ih =>
    cases failed : (s.publishers i).failure with
    | none =>
      have ended : (s.publishers i).left = [] := by
        simpa [Publisher.finished, failed] using finished i
      refine ⟨i, failed, ?_⟩
      rw [← sound.targets i, ended, List.append_nil]
    | some failure =>
      obtain ⟨-, path, first, -, j, -, delivers⟩ := sound.failed failed
      have further := sound.further first delivers
      have bound := (sound.prefix_paths j).length_le
      simp only [List.length_append, List.length_map] at bound
      exact ih _ (by omega) j rfl

theorem nothing_aside {ι : Type} {s : Publishing ι} {i : ι} {output : Output}
    {artifacts : ι → Artifact} {path : String} (sound : Sound output artifacts s)
    (finished : ∀ i, (s.publishers i).finished = true) (delivers : s.Delivers i path) :
    s.files.lookup? (steps (aside path)) = none := by
  refine sound.gone delivers fun j opens => ?_
  obtain ⟨h, handle, first⟩ := Option.bind_eq_some_iff.mp opens
  cases failed : (s.publishers j).failure with
  | none =>
    have ended : (s.publishers j).left = [] := by
      simpa [Publisher.finished, failed] using finished j
    simp [ended] at first
  | some failure =>
    rw [(sound.failed failed).1] at handle
    cases handle

end Sound

/-- The steps of one writer where files can be written: it is at its end, or its file is opened, filled
or moved, or it finds that another one has moved its file. -/
inductive Step {ι : Type} [DecidableEq ι] (s : Publishing ι) (i : ι) : Publishing ι → Prop where
  | idle : Step s i s
  | opened {delivered rest : List (String × List UInt8)} {path : String} {bytes : List UInt8}
    (executable : Bool) : s.publishers i = ⟨delivered, (path, bytes) :: rest, none, none⟩ →
    Step s i ⟨s.files.put (steps (aside path)) (.file [] executable),
      Function.update s.publishers i
        ⟨delivered, (path, bytes) :: rest, some ⟨some (steps (aside path)), 0⟩, none⟩⟩
  | filled {delivered rest : List (String × List UInt8)} {path : String} {bytes : List UInt8}
    {h : Handle} (size : Nat) : s.publishers i = ⟨delivered, (path, bytes) :: rest, some h, none⟩ →
    h.written < bytes.length → Step s i (s.filling i h ((bytes.drop h.written).take size))
  | moved {delivered rest : List (String × List UInt8)} {path : String} {bytes content : List UInt8}
    {h : Handle} (executable : Bool) :
    s.publishers i = ⟨delivered, (path, bytes) :: rest, some h, none⟩ → bytes.length ≤ h.written →
    s.files.lookup? (steps (aside path)) = some (.file content executable) →
    Step s i (s.passed i path bytes rest
      ((s.files.drop (steps (aside path))).put (steps path) (.file content executable)))
  | lost {delivered rest : List (String × List UInt8)} {path : String} {bytes : List UInt8}
    {h : Handle} : s.publishers i = ⟨delivered, (path, bytes) :: rest, some h, none⟩ →
    s.files.lookup? (steps (aside path)) = none →
    Step s i (s.fail i (.fileFault path FileFault.notFound.message))

theorem step_advance {ι : Type} {s : Publishing ι} {i : ι} [DecidableEq ι]
    (vacant : ∀ target ∈ (s.publishers i).left,
    s.files.Vacant target.1 ∧ s.files.Vacant (aside target.1)) (size : Nat) :
    Step s i (s.advance i size) := by
  unfold advance
  split
  · rename_i delivered path bytes rest there
    obtain ⟨executable, written⟩ := (vacant (path, bytes) (by simp [there])).2.write []
    simp only [opening, written, there]
    exact .opened executable there
  · rename_i delivered path bytes rest h there
    obtain ⟨target, beside⟩ := vacant (path, bytes) (by simp [there])
    split
    · rename_i early
      exact .filled (size + 1) there early
    · rename_i late
      rcases beside.rename target with ⟨absent, lost⟩ | ⟨content, executable, found, moved⟩
      · simp only [moving, lost]
        exact .lost there absent
      · simp only [moving, moved]
        exact .moved executable there (Nat.not_lt.mp late) found
  · exact .idle

namespace Sound

theorem update {ι : Type} {s : Publishing ι} {i : ι} {output : Output} {artifacts : ι → Artifact}
    {fs : Files} [DecidableEq ι] (sound : Sound output artifacts s) {p : Publisher}
    (delivered : p.delivered = (s.publishers i).delivered) (left : p.left = (s.publishers i).left)
    (vacant : ∀ path ∈ output.paths, fs.Vacant path ∧ fs.Vacant (aside path))
    (held : ∀ j path, Opens ⟨fs, Function.update s.publishers i p⟩ j path →
      fs.lookup? (steps (aside path)) = none → ∃ k ≠ j, s.Delivers k path)
    (gone : ∀ path ∈ output.paths, (∃ j, s.Delivers j path) →
      (∀ j, ¬ Opens ⟨fs, Function.update s.publishers i p⟩ j path) →
      fs.lookup? (steps (aside path)) = none)
    (failed : ∀ failure, p.failure = some failure →
      p.handle = none ∧ ∃ path ∈ (p.left.map (·.1)).head?,
        failure = .fileFault path FileFault.notFound.message ∧ ∃ j ≠ i, s.Delivers j path) :
    Sound output artifacts ⟨fs, Function.update s.publishers i p⟩ := by
  constructor
  case targets =>
    intro j
    by_cases same : j = i
    · subst same
      simpa [delivered, left] using sound.targets j
    · simpa [same] using sound.targets j
  case vacant => exact vacant
  case held =>
    intro j path opens absent
    obtain ⟨k, other, delivers⟩ := held j path opens absent
    exact ⟨k, other, (delivers_update delivered).mpr delivers⟩
  case gone =>
    intro j path delivers closed
    have delivers := (delivers_update delivered).mp delivers
    exact gone path (sound.mem_paths_of_delivers delivers) ⟨j, delivers⟩ closed
  case failed =>
    intro j failure why
    by_cases same : j = i
    · subst same
      simp only [Function.update_self] at why ⊢
      obtain ⟨shut, path, first, message, k, other, delivers⟩ := failed failure why
      exact ⟨shut, path, first, message, k, other, (delivers_update delivered).mpr delivers⟩
    · simp only [ne_eq, same, not_false_eq_true, Function.update_of_ne] at why ⊢
      obtain ⟨shut, path, first, message, k, other, delivers⟩ := sound.failed why
      exact ⟨shut, path, first, message, k, other, (delivers_update delivered).mpr delivers⟩

theorem opened {ι : Type} {s : Publishing ι} {i : ι} {output : Output} {artifacts : ι → Artifact}
    {path : String} {bytes : List UInt8} {delivered rest : List (String × List UInt8)}
    [DecidableEq ι] (sound : Sound output artifacts s) (apart : output.Apart)
    (there : s.publishers i = ⟨delivered, (path, bytes) :: rest, none, none⟩) (executable : Bool) :
    Sound output artifacts ⟨s.files.put (steps (aside path)) (.file [] executable),
      Function.update s.publishers i
        ⟨delivered, (path, bytes) :: rest, some ⟨some (steps (aside path)), 0⟩, none⟩⟩ := by
  have within := sound.mem_paths_of_first there
  have free := (sound.vacant path within).2.free
  have other {path' : String} (within' : path' ∈ output.paths) (apart' : path' ≠ path) :
      (s.files.put (steps (aside path)) (.file [] executable)).lookup? (steps (aside path')) =
        s.files.lookup? (steps (aside path')) :=
    lookup?_put_other fun same => apart' (apart.asides within' within same)
  refine sound.update (by rw [there]) (by rw [there]) ?_ ?_ ?_ nofun
  · exact fun path' within' => (sound.vacant path' within').imp
      (·.put_file free executable) (·.put_file free executable)
  · intro j path' opens absent
    have apart' : path' ≠ path := by
      rintro rfl
      simp [lookup?_put_self (not_fixed_of_lookup? free)] at absent
    rcases opens_update.mp opens with ⟨-, first⟩ | ⟨-, opens⟩
    · exact (apart' (by simpa [Publisher.current?] using first.symm)).elim
    · rw [other (sound.mem_paths_of_opens opens) apart'] at absent
      exact sound.held opens absent
  · rintro path' within' ⟨j, delivers⟩ closed
    have apart' : path' ≠ path := by
      rintro rfl
      exact closed i (opens_update.mpr (.inl ⟨rfl, rfl⟩))
    rw [other within' apart']
    refine sound.gone delivers fun k opens => ?_
    by_cases same : k = i
    · subst same
      simp [Opens, there, Publisher.current?] at opens
    · exact closed k (opens_update.mpr (.inr ⟨same, opens⟩))

theorem filled {ι : Type} {s : Publishing ι} {i : ι} {output : Output} {artifacts : ι → Artifact}
    {path : String} {bytes : List UInt8} {h : Handle} {delivered rest : List (String × List UInt8)}
    [DecidableEq ι] (sound : Sound output artifacts s)
    (there : s.publishers i = ⟨delivered, (path, bytes) :: rest, some h, none⟩)
    (piece : List UInt8) : Sound output artifacts (s.filling i h piece) := by
  have opens (j : ι) (path' : String) : (s.filling i h piece).Opens j path' ↔ s.Opens j path' := by
    rw [filling, opens_update]
    by_cases same : j = i
    · subst same
      simp [Opens, there, Publisher.current?]
    · simp [same]
  have lookup (q : Path) : (s.filling i h piece).files.lookup? q = none ↔
      s.files.lookup? q = none := by
    simp only [filling]
    split
    · rfl
    · exact overwrite_lookup?_none
  refine sound.update rfl rfl ?_ ?_ ?_ ?_
  · intro path' within'
    obtain ⟨target, beside⟩ := sound.vacant path' within'
    split
    · exact ⟨target, beside⟩
    · exact ⟨target.overwrite, beside.overwrite⟩
  · exact fun j path' open_ absent =>
      sound.held ((opens j path').mp open_) ((lookup _).mp absent)
  · rintro path' - ⟨j, delivers⟩ closed
    exact (lookup _).mpr
      (sound.gone delivers fun k open_ => closed k ((opens k path').mpr open_))
  · intro failure why
    simp [there] at why

theorem moved {ι : Type} {s : Publishing ι} {i : ι} {output : Output} {artifacts : ι → Artifact}
    {path : String} {bytes : List UInt8} {h : Handle} {delivered rest : List (String × List UInt8)}
    [DecidableEq ι] (sound : Sound output artifacts s) (apart : output.Apart)
    (there : s.publishers i = ⟨delivered, (path, bytes) :: rest, some h, none⟩)
    {content : List UInt8} {executable : Bool}
    (found : s.files.lookup? (steps (aside path)) = some (.file content executable)) :
    Sound output artifacts (s.passed i path bytes rest
      ((s.files.drop (steps (aside path))).put (steps path) (.file content executable))) := by
  have within := sound.mem_paths_of_first there
  obtain ⟨target, beside⟩ := sound.vacant path within
  have free : (s.files.drop (steps (aside path))).lookup? (steps path) ≠ some .directory :=
    (target.drop beside.free).free
  have lookup {path' : String} (within' : path' ∈ output.paths) :
      ((s.files.drop (steps (aside path))).put (steps path) (.file content executable)).lookup?
        (steps (aside path')) = (s.files.drop (steps (aside path))).lookup? (steps (aside path')) :=
    lookup?_put_other (apart.beside within' within)
  have other {path' : String} (within' : path' ∈ output.paths) (apart' : path' ≠ path) :
      (s.files.drop (steps (aside path))).lookup? (steps (aside path')) =
        s.files.lookup? (steps (aside path')) :=
    lookup?_drop_other fun same => apart' (apart.asides within' within same)
  constructor
  case targets =>
    intro j
    by_cases same : j = i
    · subst same
      simpa [passed, there] using sound.targets j
    · simpa [passed, same, Publisher.follow] using sound.targets j
  case vacant =>
    exact fun path' within' => (sound.vacant path' within').imp
      (fun first => (first.drop beside.free).put_file free executable)
      (fun second => (second.drop beside.free).put_file free executable)
  case held =>
    intro j path' opens absent
    obtain ⟨apart', opens⟩ := opens_passed.mp opens
    by_cases same : path' = path
    · exact ⟨i, Ne.symm apart', delivers_passed.mpr (.inr ⟨rfl, same⟩)⟩
    · have within' := sound.mem_paths_of_opens opens
      obtain ⟨k, another, delivers⟩ :=
        sound.held opens (((lookup within').trans (other within' same)).symm.trans absent)
      exact ⟨k, another, delivers_passed.mpr (.inl delivers)⟩
  case gone =>
    intro j path' delivers closed
    by_cases same : path' = path
    · subst same
      exact (lookup within).trans (lookup?_drop_self (not_fixed_of_lookup? beside.free))
    · have delivers := (delivers_passed.mp delivers).resolve_right fun both => same both.2
      have within' := sound.mem_paths_of_delivers delivers
      refine (lookup within').trans ((other within' same).trans (sound.gone delivers ?_))
      intro k opens
      refine closed k (opens_passed.mpr ⟨?_, opens⟩)
      rintro rfl
      exact same (by simpa [Opens, there, Publisher.current?] using opens.symm)
  case failed =>
    intro j failure failed
    by_cases same : j = i
    · simp [passed, same] at failed
    · simp only [passed, same, ↓reduceIte, Publisher.follow] at failed ⊢
      obtain ⟨shut, path', first, why, k, another, delivers⟩ := sound.failed failed
      exact ⟨by rw [shut, Option.map_none], path', first, why, k, another,
        delivers_passed.mpr (.inl delivers)⟩

theorem lost {ι : Type} {s : Publishing ι} {i : ι} {output : Output} {artifacts : ι → Artifact}
    {path : String} {bytes : List UInt8} {h : Handle} {delivered rest : List (String × List UInt8)}
    [DecidableEq ι] (sound : Sound output artifacts s)
    (there : s.publishers i = ⟨delivered, (path, bytes) :: rest, some h, none⟩)
    (absent : s.files.lookup? (steps (aside path)) = none) :
    Sound output artifacts (s.fail i (.fileFault path FileFault.notFound.message)) := by
  have opens : s.Opens i path := by simp [Opens, there, Publisher.current?]
  refine sound.update rfl rfl sound.vacant ?_ ?_ ?_
  · intro j path' opens' absent'
    rcases opens_update.mp opens' with ⟨-, first⟩ | ⟨-, opens'⟩
    · simp [Publisher.current?] at first
    · exact sound.held opens' absent'
  · rintro path' - ⟨j, delivers⟩ closed
    by_cases same : path' = path
    · rwa [same]
    · refine sound.gone delivers fun k opens' => ?_
      by_cases itself : k = i
      · subst itself
        exact same (Option.some.inj (opens'.symm.trans opens))
      · exact closed k (opens_update.mpr (.inr ⟨itself, opens'⟩))
  · intro failure why
    obtain rfl := Option.some.inj why
    exact ⟨rfl, path, by simp [there], rfl, sound.held opens absent⟩

theorem step {ι : Type} {s : Publishing ι} {i : ι} {output : Output} {artifacts : ι → Artifact}
    [DecidableEq ι] (sound : Sound output artifacts s) (apart : output.Apart) {s' : Publishing ι}
    (next : Step s i s') : Sound output artifacts s' := by
  cases next with
  | idle => exact sound
  | opened executable there => exact sound.opened apart there executable
  | filled size there early => exact sound.filled there _
  | moved executable there late found => exact sound.moved apart there found
  | lost there absent => exact sound.lost there absent

theorem next {ι : Type} {s : Publishing ι} {output : Output} {artifacts : ι → Artifact}
    [DecidableEq ι] (sound : Sound output artifacts s) (i : ι) (size : Nat) :
    Step s i (s.advance i size) :=
  step_advance (fun _ within => sound.vacant _ (sound.mem_paths (.inr within))) size

theorem run {ι : Type} {s : Publishing ι} {output : Output} {artifacts : ι → Artifact}
    [DecidableEq ι] (sound : Sound output artifacts s) (apart : output.Apart)
    (schedule : List (ι × Nat)) : Sound output artifacts (s.run schedule) := by
  induction schedule generalizing s with
  | nil => exact sound
  | cons turn rest ih => exact ih (sound.step apart (sound.next turn.1 turn.2))

end Sound

/-- Whether no two writers have the file beside the same target open. -/
def Exclusive {ι : Type} (s : Publishing ι) : Prop :=
  ∀ ⦃i j path⦄, s.Opens i path → s.Opens j path → i = j

/-- Whether a writer has the file beside a target open, for these bytes and with this handle. -/
def Holds (p : Publisher) (path : String) (bytes : List UInt8) (h : Handle) : Prop :=
  p.handle = some h ∧ p.left.head? = some (path, bytes)

theorem Holds.opens {ι : Type} {s : Publishing ι} {i : ι} {path : String} {bytes : List UInt8}
    {h : Handle} (holds : Holds (s.publishers i) path bytes h) : s.Opens i path := by
  simp [Opens, Publisher.current?, holds.1, holds.2]

/-- Targets that hold what they held before or all of what one of the writers has for them, with no
writer disturbed. -/
structure Whole {ι : Type} (output : Output) (artifacts : ι → Artifact) (fs : Files)
    (s : Publishing ι) : Prop where
  target : ∀ path ∈ output.paths, s.files.fileAt (steps path) = fs.fileAt (steps path) ∨
    ∃ i bytes, (path, bytes) ∈ Renderer.targets output (artifacts i) ∧
      s.files.fileAt (steps path) = some bytes
  beside {i : ι} {path : String} {bytes : List UInt8} {h : Handle} :
    Holds (s.publishers i) path bytes h → h.place = some (steps (aside path)) ∧
      s.files.fileAt (steps (aside path)) = some (bytes.take h.written)
  unfailed (i : ι) : (s.publishers i).failure = none

namespace Whole

theorem update {ι : Type} {s : Publishing ι} {i : ι} {output : Output} {artifacts : ι → Artifact}
    {fs : Files} {path : String} [DecidableEq ι] (whole : Whole output artifacts fs s)
    (sound : Sound output artifacts s) (apart : output.Apart) {fs' : Files} {p : Publisher}
    (opens : p.current? = some path) (unfailed : p.failure = none)
    (exclusive : Exclusive ⟨fs', Function.update s.publishers i p⟩)
    (elsewhere : ∀ q ≠ steps (aside path), fs'.fileAt q = s.files.fileAt q)
    (own : ∀ bytes h, Holds p path bytes h → h.place = some (steps (aside path)) ∧
      fs'.fileAt (steps (aside path)) = some (bytes.take h.written))
    (within : path ∈ output.paths) :
    Whole output artifacts fs ⟨fs', Function.update s.publishers i p⟩ := by
  constructor
  case target =>
    intro path' within'
    rw [elsewhere _ (apart.beside within within').symm]
    exact whole.target path' within'
  case beside =>
    intro j path' bytes h holds
    by_cases itself : j = i
    · subst itself
      have holds' : Holds p path' bytes h := by simpa using holds
      have same : path' = path := Option.some.inj (opens ▸ (by
        simp [Publisher.current?, holds'.1, holds'.2] : p.current? = some path')).symm
      subst same
      exact own bytes h holds'
    · have other : path' ≠ path := by
        rintro rfl
        exact itself (exclusive holds.opens (opens_update.mpr (.inl ⟨rfl, opens⟩)))
      have holds' : Holds (s.publishers j) path' bytes h := by simpa [itself] using holds
      obtain ⟨place, content⟩ := whole.beside holds'
      have within' := sound.mem_paths_of_opens holds'.opens
      exact ⟨place, (elsewhere _ fun same => other (apart.asides within' within same)).trans content⟩
  case unfailed =>
    intro j
    by_cases itself : j = i
    · simpa [itself] using unfailed
    · simpa [itself] using whole.unfailed j

theorem opened {ι : Type} {s : Publishing ι} {i : ι} {output : Output} {artifacts : ι → Artifact}
    {fs : Files} {path : String} {bytes : List UInt8} {delivered rest : List (String × List UInt8)}
    [DecidableEq ι] (whole : Whole output artifacts fs s) (sound : Sound output artifacts s)
    (apart : output.Apart) (there : s.publishers i = ⟨delivered, (path, bytes) :: rest, none, none⟩)
    (executable : Bool)
    (exclusive : Exclusive ⟨s.files.put (steps (aside path)) (.file [] executable),
      Function.update s.publishers i
        ⟨delivered, (path, bytes) :: rest, some ⟨some (steps (aside path)), 0⟩, none⟩⟩) :
    Whole output artifacts fs ⟨s.files.put (steps (aside path)) (.file [] executable),
      Function.update s.publishers i
        ⟨delivered, (path, bytes) :: rest, some ⟨some (steps (aside path)), 0⟩, none⟩⟩ := by
  have within := sound.mem_paths_of_first there
  have free := not_fixed_of_lookup? (sound.vacant path within).2.free
  refine whole.update sound apart rfl rfl exclusive ?_ ?_ within
  · exact fun q other => fileAt_of_lookup? (lookup?_put_other other)
  · rintro bytes' h ⟨handle, -⟩
    obtain rfl := Option.some.inj handle
    exact ⟨rfl, fileAt_put_self free executable⟩

theorem filled {ι : Type} {s : Publishing ι} {i : ι} {output : Output} {artifacts : ι → Artifact}
    {fs : Files} {path : String} {bytes : List UInt8} {h : Handle}
    {delivered rest : List (String × List UInt8)} [DecidableEq ι]
    (whole : Whole output artifacts fs s) (sound : Sound output artifacts s) (apart : output.Apart)
    (there : s.publishers i = ⟨delivered, (path, bytes) :: rest, some h, none⟩)
    (early : h.written < bytes.length) (size : Nat)
    (exclusive : (s.filling i h ((bytes.drop h.written).take size)).Exclusive) :
    Whole output artifacts fs (s.filling i h ((bytes.drop h.written).take size)) := by
  have within := sound.mem_paths_of_first there
  have holds : Holds (s.publishers i) path bytes h := by simp [Holds, there]
  obtain ⟨place, content⟩ := whole.beside holds
  obtain ⟨free, executable, written⟩ :=
    overwrite_of_fileAt content h.written ((bytes.drop h.written).take size)
  simp only [filling, place, written, overwritten_take bytes early] at exclusive ⊢
  refine whole.update sound apart ?_ ?_ exclusive ?_ ?_ within
  · simp [Publisher.current?, there]
  · simp [there]
  · exact fun q other => fileAt_of_lookup? (lookup?_put_other other)
  · rintro bytes' h' ⟨handle, first⟩
    obtain rfl := Option.some.inj handle
    obtain rfl : bytes = bytes' := by simpa [there] using first
    exact ⟨rfl, fileAt_put_self free executable⟩

theorem moved {ι : Type} {s : Publishing ι} {i : ι} {output : Output} {artifacts : ι → Artifact}
    {fs : Files} {path : String} {bytes : List UInt8} {h : Handle}
    {delivered rest : List (String × List UInt8)} [DecidableEq ι]
    (whole : Whole output artifacts fs s) (sound : Sound output artifacts s) (apart : output.Apart)
    (there : s.publishers i = ⟨delivered, (path, bytes) :: rest, some h, none⟩)
    (late : bytes.length ≤ h.written) {content : List UInt8} {executable : Bool}
    (found : s.files.lookup? (steps (aside path)) = some (.file content executable))
    (exclusive : s.Exclusive) : Whole output artifacts fs (s.passed i path bytes rest
      ((s.files.drop (steps (aside path))).put (steps path) (.file content executable))) := by
  have holds : Holds (s.publishers i) path bytes h := by simp [Holds, there]
  have within := sound.mem_paths_of_opens holds.opens
  have free := not_fixed_of_lookup? (sound.vacant path within).1.free
  obtain rfl : content = bytes := by
    have filled := (whole.beside holds).2
    rw [List.take_of_length_le late] at filled
    simpa [fileAt, found] using filled
  constructor
  case target =>
    intro path' within'
    by_cases same : path' = path
    · subst same
      refine .inr ⟨i, content, ?_, fileAt_put_self free executable⟩
      rw [← sound.targets i, there]
      simp
    · rw [passed, fileAt_moved_other (apart.beside within within').symm
        fun place => same (apart.targets within' within place)]
      exact whole.target path' within'
  case beside =>
    intro j path' bytes' h' holds'
    by_cases itself : j = i
    · simp [Holds, passed, itself] at holds'
    · obtain ⟨handle, first⟩ := holds'
      simp only [passed, itself, ↓reduceIte, Publisher.follow, Option.map_eq_some_iff] at handle first
      obtain ⟨h₀, handle, rfl⟩ := handle
      have holds' : Holds (s.publishers j) path' bytes' h₀ := ⟨handle, first⟩
      have within' := sound.mem_paths_of_opens holds'.opens
      have other : path' ≠ path := by
        rintro rfl
        exact itself (exclusive holds'.opens holds.opens)
      obtain ⟨place, filled⟩ := whole.beside holds'
      have beside : steps (aside path') ≠ steps (aside path) :=
        fun same => other (apart.asides within' within same)
      have target : steps (aside path') ≠ steps path := apart.beside within' within
      exact ⟨by simp [Handle.moved, place, beside, target],
        (fileAt_moved_other beside target).trans filled⟩
  case unfailed =>
    intro j
    by_cases itself : j = i
    · simp [passed, itself]
    · simpa [passed, itself, Publisher.follow] using whole.unfailed j

theorem step {ι : Type} {s : Publishing ι} {i : ι} {output : Output} {artifacts : ι → Artifact}
    {fs : Files} [DecidableEq ι] (whole : Whole output artifacts fs s)
    (sound : Sound output artifacts s) (apart : output.Apart) {s' : Publishing ι}
    (exclusive : s.Exclusive) (exclusive' : s'.Exclusive) (next : Step s i s') :
    Whole output artifacts fs s' := by
  cases next with
  | idle => exact whole
  | opened executable there => exact whole.opened sound apart there executable exclusive'
  | filled size there early => exact whole.filled sound apart there early size exclusive'
  | moved executable there late found => exact whole.moved sound apart there late found exclusive
  | @lost delivered rest path bytes h there absent =>
    have holds : Holds (s.publishers i) path bytes h := by simp [Holds, there]
    have filled := (whole.beside holds).2
    simp [fileAt, absent] at filled

theorem run {ι : Type} {s : Publishing ι} {output : Output} {artifacts : ι → Artifact} {fs : Files}
    [DecidableEq ι] (whole : Whole output artifacts fs s) (sound : Sound output artifacts s)
    (apart : output.Apart) (schedule : List (ι × Nat))
    (exclusive : ∀ turns, turns <+: schedule → (s.run turns).Exclusive) :
    Whole output artifacts fs (s.run schedule) := by
  induction schedule generalizing s with
  | nil => exact whole
  | cons turn rest ih =>
    have next := sound.next turn.1 turn.2
    have after := whole.step sound apart (exclusive [] List.nil_prefix)
      (exclusive [turn] ⟨rest, rfl⟩) next
    refine ih after (sound.step apart next) fun turns within => ?_
    exact exclusive (turn :: turns) (List.cons_prefix_cons.mpr ⟨rfl, within⟩)

end Whole

theorem sound_begin {ι : Type} {output : Output} {fs : Files} (artifacts : ι → Artifact)
    (vacant : ∀ path ∈ output.paths, fs.Vacant path ∧ fs.Vacant (aside path)) :
    Sound output artifacts (begin output artifacts fs) where
  targets _ := rfl
  vacant := vacant
  held opens := by simp [Opens, begin, Publisher.current?] at opens
  gone delivers := by simp [Delivers, begin] at delivers
  failed failed := by simp [begin] at failed

theorem whole_begin {ι : Type} {output : Output} {fs : Files} (artifacts : ι → Artifact) :
    Whole output artifacts fs (begin output artifacts fs) where
  target _ _ := .inl rfl
  beside holds := by simp [Holds, begin] at holds
  unfailed _ := rfl

/-- However many writers take their steps in whatever order, one fails only at a target that another
one has delivered, one of them delivers everything, and nothing is left beside the targets. If no two
of them have the file beside a target open at once, none fails and every target is whole. -/
theorem run_published {ι : Type} {output : Output} {fs : Files} [DecidableEq ι]
    (accepted : Engine.checkFormat output.format = .ok ())
    (vacant : ∀ path ∈ output.paths, fs.Vacant path ∧ fs.Vacant (aside path))
    (artifacts : ι → Artifact) (schedule : List (ι × Nat)) :
    let start := begin output artifacts fs
    let s := start.run schedule
    (∀ i failure, (s.publishers i).failure = some failure → ∃ path, ∃ j ≠ i, s.Delivers j path ∧
      failure = .fileFault path FileFault.notFound.message) ∧
    ((∀ i, (s.publishers i).finished = true) →
      (Nonempty ι → ∃ i, (s.publishers i).failure = none ∧
        (s.publishers i).delivered = Renderer.targets output (artifacts i)) ∧
      ∀ i path, s.Delivers i path → s.files.lookup? (steps (aside path)) = none) ∧
    ((∀ turns, turns <+: schedule → (start.run turns).Exclusive) →
      (∀ i, (s.publishers i).failure = none) ∧
      ∀ path ∈ output.paths, s.files.fileAt (steps path) = fs.fileAt (steps path) ∨
        ∃ i bytes, (path, bytes) ∈ Renderer.targets output (artifacts i) ∧
          s.files.fileAt (steps path) = some bytes) := by
  intro start s
  have apart := Output.apart accepted
  have begun := sound_begin artifacts vacant
  have sound : Sound output artifacts s := begun.run apart schedule
  refine ⟨fun i failure failed => ?_, fun finished => ⟨?_, ?_⟩, fun exclusive => ?_⟩
  · obtain ⟨-, path, -, why, j, other, delivers⟩ := sound.failed failed
    exact ⟨path, j, other, delivers, why⟩
  · rintro ⟨i⟩
    exact sound.ended_well finished i
  · exact fun i path delivers => sound.nothing_aside finished delivers
  · have whole := (whole_begin artifacts).run begun apart schedule exclusive
    exact ⟨whole.unfailed, whole.target⟩

def pictures : Output := ⟨some "out", "svg"⟩

def pair (second : Bool) : Artifact :=
  ⟨⟨String.ofList (List.replicate 64 (if second then 'b' else 'a'))⟩,
    if second then "digraph" else "graph", some [if second then 2 else 1], "svg",
    ⟨2024, 1, 2, 3, 4, 5, 0⟩⟩

theorem pictures_vacant : ∀ path ∈ pictures.paths,
    Files.empty.Vacant path ∧ Files.empty.Vacant (aside path) := by
  have paths : pictures.paths = ["out.gv", "out.svg"] := by decide
  rw [paths]
  simp only [List.mem_cons, List.not_mem_nil, or_false, forall_eq_or_imp, forall_eq]
  exact ⟨⟨⟨⟨by decide +kernel, by decide +kernel⟩, by decide +kernel⟩,
      ⟨⟨by decide +kernel, by decide +kernel⟩, by decide +kernel⟩⟩,
    ⟨⟨by decide +kernel, by decide +kernel⟩, by decide +kernel⟩,
      ⟨by decide +kernel, by decide +kernel⟩, by decide +kernel⟩

theorem exclusive_pair {s : Publishing Bool}
    (apart : (s.publishers false).current? = none ∨
      (s.publishers false).current? ≠ (s.publishers true).current?) : s.Exclusive := by
  intro i j path first second
  simp only [Opens] at first second
  cases i <;> cases j <;> simp_all

def inTurn : List (Bool × Nat) :=
  [(false, 0), (false, 1), (false, 9), (false, 0), (false, 0), (true, 0), (true, 9), (true, 0),
    (false, 9), (false, 0), (true, 0), (true, 9), (true, 0)]

theorem exclusive_inTurn : ∀ turns, turns <+: inTurn →
    ((begin pictures pair .empty).run turns).Exclusive := by
  have all : ∀ turns ∈ inTurn.inits,
      (((begin pictures pair .empty).run turns).publishers false).current? = none ∨
        (((begin pictures pair .empty).run turns).publishers false).current? ≠
          (((begin pictures pair .empty).run turns).publishers true).current? := by
    decide +kernel
  exact fun turns within => exclusive_pair (all turns ((List.mem_inits _ _).mpr within))

theorem inTurn_published :
    (∀ i, (((begin pictures pair .empty).run inTurn).publishers i).finished = true) ∧
    (∀ i, (((begin pictures pair .empty).run inTurn).publishers i).failure = none) ∧
    ((begin pictures pair .empty).run inTurn).files.fileAt ["out.gv"] =
      some (Utf8.encode "digraph") ∧
    ((begin pictures pair .empty).run inTurn).files.lookup? ["out.gv.tmp"] = none := by
  obtain ⟨-, ended, whole⟩ := run_published
    (by decide : Engine.checkFormat pictures.format = .ok ()) pictures_vacant pair inTurn
  have finished : ∀ i, (((begin pictures pair .empty).run inTurn).publishers i).finished = true := by
    decide +kernel
  have delivers : Delivers ((begin pictures pair .empty).run inTurn) true "out.gv" := by
    unfold Delivers
    decide +kernel
  have place : Files.steps (aside "out.gv") = ["out.gv.tmp"] := by decide +kernel
  have gone := (ended finished).2 true "out.gv" delivers
  rw [place] at gone
  have content : ((begin pictures pair .empty).run inTurn).files.fileAt ["out.gv"] =
      some (Utf8.encode "digraph") := by
    decide +kernel
  exact ⟨finished, (whole exclusive_inTurn).1, content, gone⟩

def crossing : List (Bool × Nat) :=
  [(false, 0), (false, 2), (true, 0), (true, 9), (false, 9), (false, 0), (true, 0), (false, 0),
    (false, 9), (false, 0)]

/-- Of two writers that cross, one fails, and the other one delivers what neither of them has. -/
theorem crossing_disturbs : ∃ bytes,
    let s := (begin pictures pair .empty).run crossing
    (∀ i, (s.publishers i).finished = true) ∧
    (s.publishers true).result pictures (pair true) =
      .error (.fileFault "out.gv" "No such file or directory (os error 2)") ∧
    s.files.fileAt ["out.gv"] = some bytes ∧
    ∀ i, bytes ≠ Utf8.encode (pair i).description := by
  refine ⟨Utf8.encode "digphph", ?_⟩
  decide +kernel

end Publishing

end CallChart
