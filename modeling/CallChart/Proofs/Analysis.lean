import CallChart.Analysis
import CallChart.Proofs.Fingerprint
import CallChart.Proofs.Json.Clean

namespace CallChart

namespace Analysis

theorem identityBytes_inj {bytes bytes' : List UInt8} {entry entry' : String} {tests tests' : Bool}
    (clean : 0 ∉ bytes) (clean' : 0 ∉ bytes')
    (same : identityBytes bytes entry tests = identityBytes bytes' entry' tests') :
    bytes = bytes' ∧ entry = entry' ∧ tests = tests' := by
  have front {bytes : List UInt8} (clean : 0 ∉ bytes) (entry : String) (tests : Bool) :
      (identityBytes bytes entry tests).takeWhile (· ≠ 0) = bytes := by
    have whole : ∀ b ∈ bytes, decide (b ≠ 0) = true := fun b within => by
      simpa using fun zero : b = 0 => clean (zero ▸ within)
    simp only [identityBytes, List.append_assoc]
    rw [List.takeWhile_append_of_pos whole]
    simp
  have exports := congrArg (List.takeWhile (· ≠ 0)) same
  rw [front clean, front clean'] at exports
  subst exports
  simp only [identityBytes, List.append_assoc, List.append_cancel_left_eq] at same
  obtain ⟨entries, flags⟩ := List.append_inj' same rfl
  refine ⟨rfl, Utf8.encode_injective entries, ?_⟩
  cases tests <;> cases tests' <;> first | rfl | simp at flags

theorem readExport_eq {bytes : List UInt8} {path entry : String} {x : Export}
    (read : readExport path bytes entry = .ok x) :
    Export.ofBytes bytes = .ok x := by
  simp only [readExport] at read
  split at read
  · rename_i parsed
    rw [parsed, Except.ok.inj read]
  · cases read

theorem load_eq {bytes : List UInt8} {path entry : String} {tests : Bool} {a : Analysis}
    (loaded : load path bytes entry tests = .ok a) :
    ∃ x graph, Export.ofBytes bytes = .ok x ∧ x.graphFor entry tests = .ok graph ∧
      a = ⟨Sha256.hex (Sha256.digest (identityBytes bytes entry tests)), entry, tests, graph⟩ := by
  simp only [load, bind, Except.bind] at loaded
  split at loaded
  · cases loaded
  · rename_i x read
    simp only [resolve] at loaded
    split at loaded
    · cases loaded
    · rename_i graph resolved
      exact ⟨x, graph, readExport_eq read, resolved, (Except.ok.inj loaded).symm⟩

theorem exists_of_isOk {bytes : List UInt8} {path entry : String} {tests : Bool}
    (accepted : (load path bytes entry tests).isOk = true) :
    ∃ a, load path bytes entry tests = .ok a := by
  cases outcome : load path bytes entry tests with
  | error e => simp [outcome, Except.isOk, Except.toBool] at accepted
  | ok a => exact ⟨a, rfl⟩

theorem load_id {bytes : List UInt8} {path entry : String} {tests : Bool} {a : Analysis}
    (loaded : load path bytes entry tests = .ok a) :
    a.id = Sha256.hex (Sha256.digest (identityBytes bytes entry tests)) := by
  obtain ⟨x, graph, -, -, rfl⟩ := load_eq loaded
  rfl

theorem length_encode_id {bytes : List UInt8} {path entry : String} {tests : Bool} {a : Analysis}
    (loaded : load path bytes entry tests = .ok a) :
    (Utf8.encode a.id).length = 64 := by
  rw [load_id loaded]
  exact Fingerprint.length_encode_hex _

theorem load_path {bytes : List UInt8} {path path' entry : String} {tests : Bool} {a a' : Analysis}
    (loaded : load path bytes entry tests = .ok a)
    (loaded' : load path' bytes entry tests = .ok a') : a = a' := by
  obtain ⟨x, graph, parsed, resolved, rfl⟩ := load_eq loaded
  obtain ⟨x', graph', parsed', resolved', rfl⟩ := load_eq loaded'
  obtain rfl := Except.ok.inj (parsed.symm.trans parsed')
  obtain rfl := Except.ok.inj (resolved.symm.trans resolved')
  rfl

theorem zero_not_mem_of_load {bytes : List UInt8} {path entry : String} {tests : Bool}
    {a : Analysis} (loaded : load path bytes entry tests = .ok a) : 0 ∉ bytes := by
  obtain ⟨x, graph, parsed, -, -⟩ := load_eq loaded
  cases document : Json.parseBytes? bytes with
  | none =>
    simp [Export.ofBytes, Json.readDocument, document] at parsed
  | some j => exact Json.zero_not_mem_of_parseBytes document

/-- Equal byte strings come from equal parts. An export has no zero byte, so the first one is where the
export ends, whatever the entry holds. -/
theorem load_identifies {bytes bytes' : List UInt8} {path path' entry entry' : String}
    {tests tests' : Bool} {a a' : Analysis} (loaded : load path bytes entry tests = .ok a)
    (loaded' : load path' bytes' entry' tests' = .ok a') :
    a.id = Sha256.hex (Sha256.digest (identityBytes bytes entry tests)) ∧
      a'.id = Sha256.hex (Sha256.digest (identityBytes bytes' entry' tests')) ∧
      (identityBytes bytes entry tests = identityBytes bytes' entry' tests' ↔
        bytes = bytes' ∧ entry = entry' ∧ tests = tests') := by
  refine ⟨load_id loaded, load_id loaded', ?_, ?_⟩
  · exact identityBytes_inj (zero_not_mem_of_load loaded) (zero_not_mem_of_load loaded')
  · rintro ⟨rfl, rfl, rfl⟩
    rfl

def zeroExport : List UInt8 :=
  Utf8.encode ("\x7b\"packages\":[\x7b\"path\":\"app\",\"name\":\"main\"\x7d," ++
    "\x7b\"path\":\"app\\u0000\",\"name\":\"main\"\x7d],\"functions\":[]\x7d")

/-- Its two entries are told apart. -/
theorem zeroExport_identified :
    ∃ a a', load "graph.json" zeroExport "app" false = .ok a ∧
      load "graph.json" zeroExport "app\x00" false = .ok a' ∧
      identityBytes zeroExport "app" false ≠ identityBytes zeroExport "app\x00" false := by
  obtain ⟨a, loaded⟩ : ∃ a, load "graph.json" zeroExport "app" false = .ok a :=
    exists_of_isOk (by decide +kernel)
  obtain ⟨a', loaded'⟩ : ∃ a, load "graph.json" zeroExport "app\x00" false = .ok a :=
    exists_of_isOk (by decide +kernel)
  refine ⟨a, a', loaded, loaded', fun same => ?_⟩
  have entries := ((load_identifies loaded loaded').2.2.mp same).2.1
  exact absurd entries (by decide)

theorem load_inj {bytes bytes' : List UInt8} {path path' entry entry' : String}
    {tests tests' : Bool} {a a' : Analysis} {inputs : List (List UInt8)}
    (free : CollisionFree inputs) (loaded : load path bytes entry tests = .ok a)
    (loaded' : load path' bytes' entry' tests' = .ok a')
    (within : identityBytes bytes entry tests ∈ inputs)
    (within' : identityBytes bytes' entry' tests' ∈ inputs) (same : a.id = a'.id) : a = a' := by
  rw [load_id loaded, load_id loaded'] at same
  have inputs := free.hex within within' same
  obtain ⟨rfl, rfl, rfl⟩ :=
    identityBytes_inj (zero_not_mem_of_load loaded) (zero_not_mem_of_load loaded') inputs
  exact load_path loaded loaded'

end Analysis
end CallChart
