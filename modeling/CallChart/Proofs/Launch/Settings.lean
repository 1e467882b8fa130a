import CallChart.Launch.Settings
import CallChart.Proofs.Number.Text
import CallChart.Proofs.Options.Overrides

namespace CallChart

namespace Options

def Field.all : List Field :=
  [.focus, .group, .limited, .ignored, .included, .nostd, .nointer, .tests, .retention, .minlen,
    .nodesep, .nodeshape, .nodestyle, .rankdir]

theorem Field.mem_all (f : Field) : f ∈ all := by
  cases f <;> decide

theorem Field.all_nodup : all.Nodup := by decide

/-- A value that the type of an option admits and a rendering does not. -/
def Field.Unfit : (f : Field) → f.Value → Prop
  | .nodesep, (x : Binary64) => x.isFinite = false ∨ x.isBelowZero = true
  | .nodeshape, (s : String) => Text.isBlankText s = true
  | _, _ => False

theorem check_eq_ok_iff {o : Options} : o.check = .ok () ↔ ∀ f : Field, ¬ f.Unfit (f.get o) := by
  rw [check_ok]
  constructor
  · rintro ⟨⟨finite, positive⟩, shaped⟩ f
    cases f <;> simp [Field.Unfit, Field.get, finite, positive, shaped]
  · intro fit
    have separated := fit .nodesep
    have shaped := fit .nodeshape
    simpa [Field.Unfit, Field.get] using And.intro separated shaped

theorem check_eq_error {o : Options} {e : Failure} (failed : o.check = .error e) :
    ∃ (f : Field) (value reason : String),
    e = .invalidOption f.key value reason ∧ f.Unfit (f.get o) := by
  unfold check at failed
  split at failed
  · rename_i unfit
    cases failed
    exact ⟨.nodesep, _, _, rfl, by simpa [Field.Unfit, Field.get] using unfit⟩
  · split at failed
    · rename_i blank
      cases failed
      exact ⟨.nodeshape, _, _, rfl, blank⟩
    · cases failed

theorem check_set_default (f : Field) (v : f.Value) :
    (f.set default v).check = .ok () ↔ ¬ f.Unfit v := by
  have standard := check_eq_ok_iff.mp default_check
  rw [check_eq_ok_iff]
  refine ⟨fun fit => by simpa using fit f, fun fit g => ?_⟩
  by_cases same : g = f
  · subst same
    simpa using fit
  · rw [Field.get_set_other same]
    exact standard g

end Options

open Options

namespace Launch

namespace Arguments

def said (a : Arguments) : Field → Option String
  | .focus => a.focus
  | .group => a.group
  | .limited => a.limit
  | .ignored => a.ignore
  | .included => a.only
  | .nostd => a.nostd.map boolText
  | .nointer => a.nointer.map boolText
  | .tests => a.tests.map boolText
  | .retention => a.retention
  | .minlen => a.minlen.map toString
  | .nodesep => a.nodesep.map Layout.plain.text
  | .nodeshape => a.nodeshape
  | .nodestyle => a.nodestyle
  | .rankdir => a.rankdir

def asked (a : Arguments) : (f : Field) → Option (Except Failure f.Value)
  | .focus => a.focus.map fun s => .ok (Text.trim s)
  | .group => a.group.map GroupMode.ofText
  | .limited => a.limit.map fun s => .ok (Text.commaList s)
  | .ignored => a.ignore.map fun s => .ok (Text.commaList s)
  | .included => a.only.map fun s => .ok (Text.commaList s)
  | .nostd => a.nostd.map .ok
  | .nointer => a.nointer.map .ok
  | .tests => a.tests.map .ok
  | .retention => a.retention.map Retention.ofText
  | .minlen => a.minlen.map .ok
  | .nodesep => a.nodesep.map .ok
  | .nodeshape => a.nodeshape.map fun s => .ok (Text.trim s)
  | .nodestyle => a.nodestyle.map fun s => .ok (Text.trim s)
  | .rankdir => a.rankdir.map RankDir.ofText

/-- Every flag of an option can be read and makes valid options of the built-in ones. -/
def Sound (a : Arguments) : Prop :=
  ∀ (f : Field) (text : String), a.said f = some text →
    ∃ v, f.read text = .ok v ∧ (f.set .default v).check = .ok ()

theorem overrides_eq (a : Arguments) :
    a.overrides = Field.all.filterMap fun f => (a.said f).map (f.key, ·) := rfl

theorem mem_overrides (a : Arguments) {pair : String × String} :
    pair ∈ a.overrides ↔ ∃ f : Field, f.key = pair.1 ∧ a.said f = some pair.2 := by
  obtain ⟨key, text⟩ := pair
  simp only [overrides_eq, List.mem_filterMap, Option.map_eq_some_iff, Prod.mk.injEq]
  constructor
  · rintro ⟨f, -, text, said, rfl, rfl⟩
    exact ⟨f, rfl, said⟩
  · rintro ⟨f, rfl, said⟩
    exact ⟨f, f.mem_all, text, said, rfl, rfl⟩

theorem filter_said (a : Arguments) (f : Field) {fields : List Field} (nodup : fields.Nodup) :
    (fields.filterMap fun g => (a.said g).map (g.key, ·)).filter (·.1 = f.key) =
      if f ∈ fields then ((a.said f).map (f.key, ·)).toList else [] := by
  induction fields with
  | nil => rfl
  | cons g rest ih =>
    obtain ⟨new, nodup⟩ := List.nodup_cons.mp nodup
    have ih := ih nodup
    by_cases same : g = f
    · subst same
      rw [if_neg new] at ih
      cases said : a.said g <;> simp [said, ih]
    · have other : g.key ≠ f.key := fun key => same (Field.key_inj.mp key)
      have member : f ∈ g :: rest ↔ f ∈ rest := by simp [Ne.symm same]
      simp only [member, ← ih]
      cases said : a.said g <;> simp [said, other]

theorem lastNamed_overrides (a : Arguments) (f : Field) :
    lastNamed f.key a.overrides = (a.said f).map (f.key, ·) := by
  rw [lastNamed, overrides_eq, filter_said a f Field.all_nodup, if_pos f.mem_all]
  cases a.said f <;> rfl

theorem refusal?_overrides (a : Arguments) : (∀ pair ∈ a.overrides, refusal? pair = none) ↔
    ∀ (f : Field) text, a.said f = some text → ∃ v, f.read text = .ok v := by
  have refusal (f : Field) (text : String) :
      refusal? (f.key, text) = none ↔ ∃ v, f.read text = .ok v := by
    cases read : f.read text <;> simp [refusal?, Field.ofKey?_key, read]
  constructor
  · exact fun sound f text said =>
      (refusal f text).mp (sound _ ((mem_overrides a).mpr ⟨f, rfl, said⟩))
  · rintro readable ⟨key, text⟩ within
    obtain ⟨f, rfl, said⟩ := (mem_overrides a).mp within
    exact (refusal f text).mpr (readable f text said)

theorem settles_overrides (a : Arguments) {o p : Options} : o.Settles a.overrides p ↔
    ∀ f : Field, match a.said f with
      | some text => f.read text = .ok (f.get p)
      | none => f.get p = f.get o := by
  refine forall_congr' fun f => ?_
  rw [lastNamed_overrides]
  cases a.said f <;> rfl

theorem readSwitch_boolText (key : String) (b : Bool) : readSwitch key (boolText b) = .ok b := by
  cases b <;> rfl

theorem readMinlen_toString {n m : Nat} (read : readMinlen (toString n) = .ok m) : n = m := by
  have black : Text.trim (toString n) = toString n := by
    refine Text.trim_eq_self fun c within => isBlank_of_isDigit (allDigits_toDigits n c ?_)
    rwa [Nat.toString_eq_ofList_toDigits, String.toList_ofList] at within
  rw [readMinlen, black, count?_toString] at read
  by_cases small : n < Nat.pow 2 32
  · rw [if_pos small] at read
    exact Except.ok.inj read
  · rw [if_neg small] at read
    cases read

theorem readNodesep_text (x : Binary64) : readNodesep (Layout.plain.text x) = .ok x := by
  cases finite : x.isFinite with
  | true => rw [readNodesep, Layout.plain.trim_text finite, Binary64.ofText?_text _ finite]
  | false =>
    cases x with
    | nan => decide +kernel
    | infinite negative => cases negative <;> decide +kernel
    | finite negative magnitude => cases finite

theorem asked_of_said (a : Arguments) (f : Field) : match a.said f with
    | some text => ∀ v, f.read text = .ok v → a.asked f = some (.ok v)
    | none => a.asked f = none := by
  have textual {α : Type} (flag : Option String) (read : String → Except Failure α) :
      match flag with
      | some text => ∀ v, read text = .ok v → flag.map read = some (.ok v)
      | none => flag.map read = none := by
    cases flag with
    | none => rfl
    | some text => exact fun v found => congrArg some found
  have typed {α : Type} (flag : Option α) (write : α → String) (read : String → Except Failure α)
      (back : ∀ x v, read (write x) = .ok v → x = v) :
      match flag.map write with
      | some text => ∀ v, read text = .ok v → flag.map .ok = some (Except.ok v : Except Failure α)
      | none => flag.map (Except.ok : α → Except Failure α) = none := by
    cases flag with
    | none => rfl
    | some x => exact fun v found => back x v found ▸ rfl
  have switch (key : String) (b v : Bool) (read : readSwitch key (boolText b) = .ok v) : b = v :=
    Except.ok.inj ((readSwitch_boolText key b).symm.trans read)
  cases f with
  | nostd => exact typed a.nostd boolText _ (switch "nostd")
  | nointer => exact typed a.nointer boolText _ (switch "nointer")
  | tests => exact typed a.tests boolText _ (switch "tests")
  | minlen => exact typed a.minlen toString readMinlen fun _ _ => readMinlen_toString
  | nodesep =>
    exact typed a.nodesep Layout.plain.text readNodesep fun x v read =>
      Except.ok.inj ((readNodesep_text x).symm.trans read)
  | focus => exact textual a.focus fun s => .ok (Text.trim s)
  | group => exact textual a.group GroupMode.ofText
  | limited => exact textual a.limit fun s => .ok (Text.commaList s)
  | ignored => exact textual a.ignore fun s => .ok (Text.commaList s)
  | included => exact textual a.only fun s => .ok (Text.commaList s)
  | retention => exact textual a.retention Retention.ofText
  | nodeshape => exact textual a.nodeshape fun s => .ok (Text.trim s)
  | nodestyle => exact textual a.nodestyle fun s => .ok (Text.trim s)
  | rankdir => exact textual a.rankdir RankDir.ofText

end Arguments

namespace Settings

theorem optionsOf_eq (a : Arguments) (c : Config) : optionsOf a c =
    match (c.options.getD .default).applyOverrides a.overrides with
    | .error e => .error (.commandOption e)
    | .ok (o, _) => .ok o := by
  rw [optionsOf]
  cases applied : (c.options.getD .default).applyOverrides a.overrides with
  | error e => rfl
  | ok changed =>
    -- what is applied was checked before, so the second check never fails
    have checked := (applyOverrides_eq_ok.mp applied).2.2.1
    simp only [checked]

theorem optionsOf_eq_ok {a : Arguments} {c : Config} {o : Options} : optionsOf a c = .ok o ↔
    (∀ f : Field, match a.said f with
      | some text => f.read text = .ok (f.get o)
      | none => f.get o = f.get (c.options.getD .default)) ∧ o.check = .ok () := by
  rw [optionsOf_eq]
  constructor
  · intro done
    cases applied : (c.options.getD .default).applyOverrides a.overrides with
    | error e => simp [applied] at done
    | ok changed =>
      obtain ⟨o', count⟩ := changed
      obtain rfl : o' = o := by simpa [applied] using done
      obtain ⟨-, settles, valid, -⟩ := applyOverrides_eq_ok.mp applied
      exact ⟨a.settles_overrides.mp settles, valid⟩
  · rintro ⟨said, valid⟩
    have readable : ∀ pair ∈ a.overrides, refusal? pair = none := by
      refine a.refusal?_overrides.mpr fun f text given => ?_
      have read := said f
      rw [given] at read
      exact ⟨_, read⟩
    rw [applyOverrides_eq_ok.mpr ⟨readable, a.settles_overrides.mpr said, valid, rfl⟩]

theorem addressOf_eq_ok {value host : String} {port : Nat} : addressOf value = .ok (host, port) ↔
    ∃ front text, value = front ++ ":" ++ text ∧ ':' ∉ text.toList ∧
      count? (Nat.pow 2 16) text = .ok port ∧ host = if front = "" then usualHost else front := by
  constructor
  · intro read
    simp only [addressOf] at read
    split at read
    · cases read
    · rename_i front text parts
      obtain ⟨whole, plain⟩ := Text.splitLast_eq_some_iff.mp parts
      split at read
      · cases read
      · rename_i port' counted
        simp only [Except.ok.injEq, Prod.mk.injEq] at read
        obtain ⟨rfl, rfl⟩ := read
        refine ⟨String.ofList front, String.ofList text, ?_, by simpa using plain, counted, ?_⟩
        · rw [← String.toList_inj, whole]
          simp
        · simp
  · rintro ⟨front, text, rfl, plain, counted, rfl⟩
    have chars : (front ++ ":" ++ text).toList = front.toList ++ ':' :: text.toList := by simp
    simp [addressOf, chars, Text.splitLast_append plain, counted]

theorem addressOf_again {value host : String} {port : Nat} (read : addressOf value = .ok (host, port)) :
    addressOf (host ++ ":" ++ toString port) = .ok (host, port) := by
  obtain ⟨front, text, -, -, counted, rfl⟩ := addressOf_eq_ok.mp read
  have small := count?_lt (by decide : 0 < Nat.pow 2 16) counted
  refine addressOf_eq_ok.mpr ⟨_, _, rfl, fun colon => ?_, ?_, ?_⟩
  · rw [Nat.toString_eq_ofList_toDigits, String.toList_ofList] at colon
    cases allDigits_toDigits port ':' colon
  · rw [count?_toString, if_pos small]
  · by_cases empty : front = "" <;> simp [empty, usualHost]

theorem modeOf_eq_ok {a : Arguments} {c : Config} {mode : Mode} : modeOf a c = .ok mode ↔
    ((a.file <|> c.file) ≠ none ∧ mode = .batch) ∨ (a.file <|> c.file) = none ∧
      ∃ host port, addressOf ((a.http <|> c.http).getD usualAddress) = .ok (host, port) ∧
        mode = .serve host port := by
  rw [modeOf]
  cases a.file <|> c.file with
  | some base => simp [eq_comm]
  | none =>
    cases addressOf ((a.http <|> c.http).getD usualAddress) with
    | error failure => simp [bind, Except.bind]
    | ok place =>
      obtain ⟨host, port⟩ := place
      simp [bind, Except.bind, pure, Except.pure, eq_comm]

theorem modeOf_eq_error {a : Arguments} {c : Config} {failure : LaunchFailure}
    (failed : modeOf a c = .error failure) :
    ∃ value, failure = .addressForm value ∨ ∃ cause, failure = .addressPort value cause := by
  simp only [modeOf] at failed
  split at failed
  · cases failed
  · cases read : addressOf ((a.http <|> c.http).getD usualAddress) with
    | ok place =>
      simp only [read, bind, Except.bind, pure, Except.pure] at failed
      cases failed
    | error failure' =>
      simp only [read, bind, Except.bind] at failed
      cases failed
      simp only [addressOf] at read
      split at read
      · exact ⟨_, .inl (Except.error.inj read).symm⟩
      · split at read
        · exact ⟨_, .inr ⟨_, (Except.error.inj read).symm⟩⟩
        · cases read

theorem resolve_eq_ok {a : Arguments} {c : Config} {s : Settings} :
    resolve a c = .ok s ↔ ∃ o mode, optionsOf a c = .ok o ∧
    modeOf a c = .ok mode ∧ s = {
      entry := a.package
      graph := (a.graph <|> c.graph).getD usualGraph
      options := o
      output := ⟨a.file <|> c.file, (a.format <|> c.format).getD usualFormat⟩
      cacheDir := a.cacheDir <|> c.cacheDir
      mode := mode
      viewerUrl := (a.viewerUrl <|> c.viewerUrl).getD usualViewer
      skipBrowser := a.skipBrowser || c.skipBrowser.getD false
      dot := (a.dot <|> c.dot).getD usualEngine
      dotTimeout := (a.dotTimeout <|> c.dotTimeout).getD usualTimeout } := by
  simp only [resolve, bind, Except.bind, pure, Except.pure]
  cases optionsOf a c with
  | error e => simp
  | ok o => cases modeOf a c <;> simp [eq_comm]

theorem resolve_eq_error {a : Arguments} {c : Config} {failure : LaunchFailure} :
    resolve a c = .error failure ↔
    (∃ e, (c.options.getD .default).applyOverrides a.overrides = .error e ∧
      failure = .commandOption e) ∨
    (∃ o, optionsOf a c = .ok o) ∧ modeOf a c = .error failure := by
  simp only [resolve, optionsOf_eq, bind, Except.bind, pure, Except.pure]
  cases (c.options.getD .default).applyOverrides a.overrides with
  | error e => simp [eq_comm]
  | ok changed => cases modeOf a c <;> simp

theorem resolve_eq_commandOption {a : Arguments} {c : Config} {e : Failure} :
    resolve a c = .error (.commandOption e) ↔
    (c.options.getD .default).applyOverrides a.overrides = .error e := by
  rw [resolve_eq_error]
  constructor
  · rintro (⟨e', failed, same⟩ | ⟨-, moded⟩)
    · cases same
      exact failed
    · obtain ⟨value, same | ⟨cause, same⟩⟩ := modeOf_eq_error moded <;> cases same
  · exact fun failed => .inl ⟨e, failed, rfl⟩

theorem resolve_ne_configOption (a : Arguments) (c : Config) (e : Failure) :
    resolve a c ≠ .error (.configOption e) := by
  rw [ne_eq, resolve_eq_error]
  rintro (⟨e', failed, same⟩ | ⟨-, moded⟩)
  · cases same
  · obtain ⟨value, same | ⟨cause, same⟩⟩ := modeOf_eq_error moded <;> cases same

/-- Options with their flags are valid just if each flag is sound and the file has nothing unfit that no
flag overrides. -/
theorem exists_optionsOf {a : Arguments} {c : Config} : (∃ o, optionsOf a c = .ok o) ↔ a.Sound ∧
    ∀ f : Field, f.Unfit (f.get (c.options.getD .default)) → a.said f ≠ none := by
  constructor
  · rintro ⟨o, done⟩
    obtain ⟨said, valid⟩ := optionsOf_eq_ok.mp done
    have fit := check_eq_ok_iff.mp valid
    constructor
    · intro f text given
      have read := said f
      rw [given] at read
      exact ⟨_, read, (check_set_default f _).mpr (fit f)⟩
    · intro f unfit given
      have kept := said f
      rw [given] at kept
      exact fit f (kept ▸ unfit)
  · rintro ⟨sound, covered⟩
    have readable : ∀ pair ∈ a.overrides, Readable pair := by
      have unrefused := a.refusal?_overrides.mpr fun f text given =>
        (sound f text given).imp fun v read => read.1
      exact fun pair within => readable_iff.mpr (unrefused pair within)
    have said := a.settles_overrides.mp (settles_foldl_put readable (c.options.getD .default))
    refine ⟨_, optionsOf_eq_ok.mpr ⟨said, check_eq_ok_iff.mpr fun f unfit => ?_⟩⟩
    have own := said f
    cases given : a.said f with
    | none =>
      rw [given] at own
      exact covered f (own ▸ unfit) given
    | some text =>
      obtain ⟨v, read, valid⟩ := sound f text given
      rw [given] at own
      obtain rfl := Except.ok.inj (read.symm.trans own)
      exact (check_set_default f _).mp valid unfit

theorem exists_refused {a : Arguments} {c : Config} :
    (∃ e, resolve a c = .error (.commandOption e)) ↔ ¬ ∃ o, optionsOf a c = .ok o := by
  simp only [resolve_eq_commandOption, optionsOf_eq]
  cases (c.options.getD .default).applyOverrides a.overrides <;> simp

/-- Options that are not valid are never blamed on the settings file. The command line is blamed if a
flag is at fault, and else for what the file says about an option that no flag overrides. -/
theorem resolve_blames_command_line (a : Arguments) (c : Config) :
    (∀ e, resolve a c ≠ .error (.configOption e)) ∧
    ((∃ e, resolve a c = .error (.commandOption e)) ↔ ¬ a.Sound ∨
      ∃ f : Field, f.Unfit (f.get (c.options.getD .default)) ∧ a.said f = none) ∧
    ∀ e, resolve a c = .error (.commandOption e) → a.Sound →
      ∃ (f : Field) (value reason : String), e = .invalidOption f.key value reason ∧
        f.Unfit (f.get (c.options.getD .default)) ∧ a.said f = none := by
  refine ⟨resolve_ne_configOption a c, ?_, fun e failed sound => ?_⟩
  · rw [exists_refused, exists_optionsOf, not_and_or, not_forall]
    simp only [Classical.not_imp, not_not, ne_eq]
  · rcases applyOverrides_eq_error.mp (resolve_eq_commandOption.mp failed) with
      refused | ⟨-, p, settles, invalid⟩
    · obtain ⟨pair, within, refused⟩ := List.exists_of_findSome?_eq_some refused
      have unrefused := a.refusal?_overrides.mpr (fun f text given =>
        (sound f text given).imp fun v read => read.1) pair within
      rw [unrefused] at refused
      cases refused
    · obtain ⟨f, value, reason, rfl, unfit⟩ := check_eq_error invalid
      have own := a.settles_overrides.mp settles f
      cases given : a.said f with
      | none =>
        rw [given] at own
        exact ⟨f, value, reason, rfl, own ▸ unfit, given⟩
      | some text =>
        obtain ⟨v, read, valid⟩ := sound f text given
        rw [given] at own
        obtain rfl := Except.ok.inj (read.symm.trans own)
        exact ((check_set_default f _).mp valid unfit).elim

def bare : Arguments := .ofGiven "app" []

theorem said_bare (f : Field) : bare.said f = none := by
  cases f <;> rfl

theorem bare_sound : bare.Sound := by
  intro f text given
  rw [said_bare] at given
  cases given

def backwards : Config :=
  { Config.blank with
    options := some { Options.default with
      style := { Style.default with nodesep := .ofDecimal true 1 0 } } }

theorem backwards_unfit : Field.nodesep.Unfit (Field.nodesep.get (backwards.options.getD .default)) :=
  .inr (by decide +kernel)

/-- The distance of the file is in no flag, and yet the file is not blamed for it. -/
theorem backwards_misattributed :
    Arguments.read [] ["app"] = .ok bare ∧
    Config.ofText "[options.style]\nnodesep = -1.0\n" = .ok backwards ∧ bare.Sound ∧
    Field.nodesep.Unfit (Field.nodesep.get (backwards.options.getD .default)) ∧
    bare.said .nodesep = none ∧
    resolve bare backwards =
      .error (.commandOption (.invalidOption "nodesep" "-1" "must be a non-negative number")) ∧
    ¬ ∃ e, resolve bare backwards = .error (.configOption e) := by
  have failed : resolve bare backwards =
      .error (.commandOption (.invalidOption "nodesep" "-1" "must be a non-negative number")) := by
    decide +kernel
  refine ⟨by decide +kernel, by decide +kernel, bare_sound, backwards_unfit, said_bare _, failed, ?_⟩
  rintro ⟨e, blamed⟩
  cases failed.symm.trans blamed

theorem backwards_blamed : bare.Sound ∧ ∃ e, resolve bare backwards = .error (.commandOption e) ∧
    ∃ (f : Field) (value reason : String), e = .invalidOption f.key value reason ∧
      f.Unfit (f.get (backwards.options.getD .default)) ∧ bare.said f = none := by
  obtain ⟨-, blamed, named⟩ := resolve_blames_command_line bare backwards
  obtain ⟨e, failed⟩ := blamed.mpr (.inr ⟨.nodesep, backwards_unfit, said_bare _⟩)
  exact ⟨bare_sound, e, failed, named e failed bare_sound⟩

/-- Settings that follow the command line first, then the settings file, and then what is built in. -/
structure Follows (a : Arguments) (c : Config) (s : Settings) : Prop where
  option (f : Field) : match a.asked f with
    | some value => value = .ok (f.get s.options)
    | none => f.get s.options = f.get (c.options.getD .default)
  valid : s.options.check = .ok ()
  entry : s.entry = a.package
  graph : s.graph = (a.graph <|> c.graph).getD usualGraph
  base : s.output.base = (a.file <|> c.file)
  format : s.output.format = (a.format <|> c.format).getD usualFormat
  cacheDir : s.cacheDir = (a.cacheDir <|> c.cacheDir)
  viewerUrl : s.viewerUrl = (a.viewerUrl <|> c.viewerUrl).getD usualViewer
  skipBrowser : s.skipBrowser = (a.skipBrowser || c.skipBrowser.getD false)
  dot : s.dot = (a.dot <|> c.dot).getD usualEngine
  dotTimeout : s.dotTimeout = (a.dotTimeout <|> c.dotTimeout).getD usualTimeout
  batch : s.mode = .batch ↔ (a.file <|> c.file) ≠ none
  serve : (a.file <|> c.file) = none → ∃ host port front text, s.mode = .serve host port ∧
    (a.http <|> c.http).getD usualAddress = front ++ ":" ++ text ∧ ':' ∉ text.toList ∧
    (host = if front = "" then usualHost else front) ∧ count? (Nat.pow 2 16) text = .ok port ∧
    addressOf (host ++ ":" ++ toString port) = .ok (host, port)

theorem resolve_follows {a : Arguments} {c : Config} {s : Settings}
    (resolved : resolve a c = .ok s) : Follows a c s := by
  obtain ⟨o, mode, options, moded, rfl⟩ := resolve_eq_ok.mp resolved
  obtain ⟨said, valid⟩ := optionsOf_eq_ok.mp options
  have modes := modeOf_eq_ok.mp moded
  refine {
    option := fun f => ?_, valid, batch := ?_, serve := fun served => ?_
    entry := rfl, graph := rfl, base := rfl, format := rfl, cacheDir := rfl, viewerUrl := rfl
    skipBrowser := rfl, dot := rfl, dotTimeout := rfl }
  · have own := said f
    have asked := a.asked_of_said f
    cases given : a.said f with
    | none =>
      rw [given] at own asked
      rw [asked]
      exact own
    | some text =>
      rw [given] at own asked
      rw [asked _ own]
  · rcases modes with ⟨written, rfl⟩ | ⟨served, host, port, -, rfl⟩
    · exact iff_of_true rfl written
    · exact iff_of_false nofun fun written => written served
  · rcases modes with ⟨written, -⟩ | ⟨-, host, port, read, rfl⟩
    · exact (written served).elim
    · obtain ⟨front, text, whole, plain, counted, chosen⟩ := addressOf_eq_ok.mp read
      exact ⟨host, port, front, text, rfl, whole, plain, chosen, counted, addressOf_again read⟩

def someFlags : Arguments :=
  .ofGiven "app" [(.focus, " lib\n"), (.limit, " b, a ,,"), (.nodesep, "1e-1"), (.nostd, "false"),
    (.minlen, "4294967295"), (.group, "type,pkg"), (.format, "png")]

def someFile : Config :=
  { Config.blank with
    http := some ":8080", format := some "pdf", dot := some "neato"
    options := some { Options.default with focus := "fmt", tests := true } }

theorem someFlags_followed : ∃ s, resolve someFlags someFile = .ok s ∧ Follows someFlags someFile s ∧
    s.options = { Options.default with
      focus := "lib", group := .packageType, limited := ["b", "a"], nostd := false, tests := true
      style := { Style.default with minlen := 4294967295, nodesep := .ofDecimal false 1 (-1) } } ∧
    s.output = ⟨none, "png"⟩ ∧ s.dot = "neato" ∧ s.mode = .serve "127.0.0.1" 8080 := by
  have resolved : resolve someFlags someFile = .ok {
      entry := "app", graph := "callgraph.json"
      options := { Options.default with
        focus := "lib", group := .packageType, limited := ["b", "a"], nostd := false, tests := true
        style := { Style.default with minlen := 4294967295, nodesep := .ofDecimal false 1 (-1) } }
      output := ⟨none, "png"⟩, cacheDir := none, mode := .serve "127.0.0.1" 8080
      viewerUrl := "/artifact", skipBrowser := false, dot := "neato", dotTimeout := 60 } := by
    decide +kernel
  exact ⟨_, resolved, resolve_follows resolved, rfl, rfl, rfl, rfl⟩

end Settings
end Launch
end CallChart
