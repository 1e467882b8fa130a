import CallChart.Options

namespace CallChart

/-- A reader that fails for no other reason than this value of this option. -/
def Blames {α : Type} (key value : String) (result : Except Failure α) : Prop :=
  ∀ e, result = .error e → ∃ reason, e = .invalidOption key value reason

namespace Blames

theorem ok {α : Type} (key value : String) (a : α) : Blames key value (.ok a) := nofun

theorem error (α : Type) (key value reason : String) :
    Blames key value (.error (.invalidOption key value reason) : Except Failure α) := by
  rintro e ⟨⟩
  exact ⟨reason, rfl⟩

end Blames

theorem GroupMode.ofText_blames (s : String) : Blames "group" s (ofText s) := by
  unfold ofText
  split
  · exact .ok _ _ _
  · exact .error _ _ _ _

theorem RankDir.ofText_blames (s : String) : Blames "rankdir" s (ofText s) := by
  unfold ofText
  split
  case h_5 => exact .error _ _ _ _
  all_goals exact .ok _ _ _

theorem Retention.ofText_blames (s : String) : Blames "retention" s (ofText s) := by
  unfold ofText
  split
  · exact .ok _ _ _
  · exact .error _ _ _ _

namespace Options

theorem readSwitch_blames (key value : String) : Blames key value (readSwitch key value) := by
  unfold readSwitch
  split
  case h_9 => exact .error _ _ _ _
  all_goals exact .ok _ _ _

theorem readMinlen_blames (value : String) : Blames "minlen" value (readMinlen value) := by
  unfold readMinlen
  split
  · exact .ok _ _ _
  · exact .error _ _ _ _

theorem readNodesep_blames (value : String) : Blames "nodesep" value (readNodesep value) := by
  unfold readNodesep
  split
  · exact .ok _ _ _
  · exact .error _ _ _ _

inductive Field where
  | focus
  | group
  | limited
  | ignored
  | included
  | nostd
  | nointer
  | tests
  | retention
  | minlen
  | nodesep
  | nodeshape
  | nodestyle
  | rankdir
  deriving DecidableEq, Repr

namespace Field

def Value : Field → Type
  | .focus | .nodeshape | .nodestyle => String
  | .group => GroupMode
  | .limited | .ignored | .included => List String
  | .nostd | .nointer | .tests => Bool
  | .retention => Retention
  | .minlen => Nat
  | .nodesep => Binary64
  | .rankdir => RankDir

def key : Field → String
  | .focus => "focus"
  | .group => "group"
  | .limited => "limit"
  | .ignored => "ignore"
  | .included => "include"
  | .nostd => "nostd"
  | .nointer => "nointer"
  | .tests => "tests"
  | .retention => "retention"
  | .minlen => "minlen"
  | .nodesep => "nodesep"
  | .nodeshape => "nodeshape"
  | .nodestyle => "nodestyle"
  | .rankdir => "rankdir"

def ofKey? : String → Option Field
  | "focus" => some .focus
  | "group" => some .group
  | "limit" => some .limited
  | "ignore" => some .ignored
  | "include" => some .included
  | "nostd" => some .nostd
  | "nointer" => some .nointer
  | "tests" => some .tests
  | "retention" => some .retention
  | "minlen" => some .minlen
  | "nodesep" => some .nodesep
  | "nodeshape" => some .nodeshape
  | "nodestyle" => some .nodestyle
  | "rankdir" => some .rankdir
  | _ => none

def get (o : Options) : (f : Field) → f.Value
  | .focus => o.focus
  | .group => o.group
  | .limited => o.limited
  | .ignored => o.ignored
  | .included => o.included
  | .nostd => o.nostd
  | .nointer => o.nointer
  | .tests => o.tests
  | .retention => o.retention
  | .minlen => o.style.minlen
  | .nodesep => o.style.nodesep
  | .nodeshape => o.style.nodeshape
  | .nodestyle => o.style.nodestyle
  | .rankdir => o.style.rankdir

def set (o : Options) : (f : Field) → f.Value → Options
  | .focus, s => { o with focus := s }
  | .group, mode => { o with group := mode }
  | .limited, entries => { o with limited := entries }
  | .ignored, entries => { o with ignored := entries }
  | .included, entries => { o with included := entries }
  | .nostd, b => { o with nostd := b }
  | .nointer, b => { o with nointer := b }
  | .tests, b => { o with tests := b }
  | .retention, r => { o with retention := r }
  | .minlen, n => { o with style := { o.style with minlen := n } }
  | .nodesep, x => { o with style := { o.style with nodesep := x } }
  | .nodeshape, s => { o with style := { o.style with nodeshape := s } }
  | .nodestyle, s => { o with style := { o.style with nodestyle := s } }
  | .rankdir, d => { o with style := { o.style with rankdir := d } }

def read (value : String) : (f : Field) → Except Failure f.Value
  | .focus => .ok (Text.trim value)
  | .group => GroupMode.ofText value
  | .limited => .ok (Text.commaList value)
  | .ignored => .ok (Text.commaList value)
  | .included => .ok (Text.commaList value)
  | .nostd => readSwitch "nostd" value
  | .nointer => readSwitch "nointer" value
  | .tests => readSwitch "tests" value
  | .retention => Retention.ofText value
  | .minlen => readMinlen value
  | .nodesep => readNodesep value
  | .nodeshape => .ok (Text.trim value)
  | .nodestyle => .ok (Text.trim value)
  | .rankdir => RankDir.ofText value

theorem ofKey?_key (f : Field) : ofKey? f.key = some f := by
  cases f <;> rfl

theorem ofKey?_eq_some {f : Field} {key : String} : ofKey? key = some f ↔ key = f.key := by
  refine ⟨fun found => ?_, fun same => same ▸ ofKey?_key f⟩
  unfold ofKey? at found
  split at found
  case h_15 => cases found
  all_goals
    cases found
    rfl

theorem key_inj {f g : Field} : f.key = g.key ↔ f = g := by
  rw [← ofKey?_eq_some, ofKey?_key, Option.some.injEq]

@[simp] theorem get_set_self (f : Field) (o : Options) (v : f.Value) : get (set o f v) f = v := by
  cases f <;> rfl

theorem get_set_other {f g : Field} (other : f ≠ g) (o : Options) (v : g.Value) :
    get (set o g v) f = get o f := by
  cases f <;> cases g <;> first | rfl | exact (other rfl).elim

theorem ext_get {o p : Options} (same : ∀ f, get o f = get p f) : o = p := by
  obtain ⟨_, _, _, _, _, _, _, _, _, ⟨_, _, _, _, _⟩⟩ := o
  obtain ⟨_, _, _, _, _, _, _, _, _, ⟨_, _, _, _, _⟩⟩ := p
  simp only [Options.mk.injEq, Style.mk.injEq]
  exact ⟨same .focus, same .group, same .limited, same .ignored, same .included, same .nostd,
    same .nointer, same .tests, same .retention, same .minlen, same .nodesep, same .nodeshape,
    same .nodestyle, same .rankdir⟩

theorem read_blames (f : Field) (value : String) : Blames f.key value (f.read value) := by
  cases f with
  | group => exact GroupMode.ofText_blames value
  | nostd => exact readSwitch_blames _ value
  | nointer => exact readSwitch_blames _ value
  | tests => exact readSwitch_blames _ value
  | retention => exact Retention.ofText_blames value
  | minlen => exact readMinlen_blames value
  | nodesep => exact readNodesep_blames value
  | rankdir => exact RankDir.ofText_blames value
  | _ => exact .ok _ _ _

end Field

theorem override?_eq (key value : String) : override? key value =
    (Field.ofKey? key).map fun f => (f.read value).map fun v o => f.set o v := by
  unfold override?
  split
  case h_15 =>
    cases found : Field.ofKey? key with
    | none => rfl
    | some f =>
      rw [Field.ofKey?_eq_some] at found
      cases f <;> contradiction
  all_goals rfl

end Options
end CallChart
