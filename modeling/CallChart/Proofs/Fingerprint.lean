import CallChart.Fingerprint
import CallChart.Proofs.Files.Place
import CallChart.Proofs.Options.Normalized
import CallChart.Proofs.Options.Text

namespace CallChart

namespace Sha256

theorem length_bigEndian (count n : Nat) : (bigEndian count n).length = count := by
  simp [bigEndian]

theorem bigEndian_succ (count n : Nat) :
    bigEndian (count + 1) n = UInt8.ofNat (n / 256 ^ count) :: bigEndian count n := by
  simp [bigEndian, List.range_succ]

theorem mod_eq_of_bigEndian {count m n : Nat} (same : bigEndian count m = bigEndian count n) :
    m % 256 ^ count = n % 256 ^ count := by
  induction count with
  | zero => rw [pow_zero, Nat.mod_one, Nat.mod_one]
  | succ count ih =>
    simp only [bigEndian_succ, List.cons.injEq] at same
    obtain ⟨first, others⟩ := same
    have digits : m / 256 ^ count % 256 = n / 256 ^ count % 256 := by
      simpa using congrArg UInt8.toNat first
    rw [Nat.mod_pow_succ, Nat.mod_pow_succ, ih others, digits]

theorem length_digest (message : List UInt8) : (digest message).length = 32 := by
  simp [digest, digestFrom, State.bytes, length_bigEndian]

theorem digitChar_inj : ∀ m < 16, ∀ n < 16, Nat.digitChar m = Nat.digitChar n → m = n := by
  decide

theorem toList_hex_cons (b : UInt8) (bytes : List UInt8) : (hex (b :: bytes)).toList =
    Nat.digitChar (b.toNat / 16) :: Nat.digitChar (b.toNat % 16) :: (hex bytes).toList := by
  simp [hex]

theorem length_hex (bytes : List UInt8) : (hex bytes).toList.length = 2 * bytes.length := by
  induction bytes with
  | nil => rfl
  | cons b bytes ih =>
    rw [toList_hex_cons, List.length_cons, List.length_cons, ih, List.length_cons]
    omega

theorem hex_inj {bytes bytes' : List UInt8} (same : hex bytes = hex bytes') : bytes = bytes' := by
  have chars := congrArg String.toList same
  clear same
  induction bytes generalizing bytes' with
  | nil =>
    cases bytes' with
    | nil => rfl
    | cons b bytes' => simp [hex] at chars
  | cons b bytes ih =>
    cases bytes' with
    | nil => simp [hex] at chars
    | cons b' bytes' =>
      simp only [toList_hex_cons, List.cons.injEq] at chars
      obtain ⟨high, low, others⟩ := chars
      have small := b.toNat_lt
      have small' := b'.toNat_lt
      have high := digitChar_inj _ (by omega) _ (by omega) high
      have low := digitChar_inj _ (by omega) _ (by omega) low
      have first : b = b' := UInt8.toNat_inj.mp (by omega)
      rw [first, ih others]

end Sha256

def CollisionFree (inputs : List (List UInt8)) : Prop :=
  ∀ a ∈ inputs, ∀ b ∈ inputs, Sha256.digest a = Sha256.digest b → a = b

theorem CollisionFree.hex {inputs : List (List UInt8)} (free : CollisionFree inputs)
    {a b : List UInt8} (first : a ∈ inputs) (second : b ∈ inputs)
    (same : Sha256.hex (Sha256.digest a) = Sha256.hex (Sha256.digest b)) : a = b :=
  free a first b second (Sha256.hex_inj same)

theorem CollisionFree.of_ne {x y : List UInt8}
    (apart : Sha256.digest x ≠ Sha256.digest y) : CollisionFree [x, y, y] := by
  intro p first q second same
  simp only [List.mem_cons, List.not_mem_nil, or_false, or_self] at first second
  rcases first with rfl | rfl <;> rcases second with rfl | rfl
  · rfl
  · exact (apart same).elim
  · exact (apart same.symm).elim
  · rfl

namespace Fingerprint

open Files

theorem isHexDigit_digitChar : ∀ n < 16, isHexDigit (Nat.digitChar n) = true := by
  decide

theorem all_isHexDigit (bytes : List UInt8) : (Sha256.hex bytes).toList.all isHexDigit = true := by
  induction bytes with
  | nil => rfl
  | cons b bytes ih =>
    have small := b.toNat_lt
    rw [Sha256.toList_hex_cons, List.all_cons, List.all_cons, ih,
      isHexDigit_digitChar _ (by omega), isHexDigit_digitChar _ (by omega)]
    rfl

theorem ascii_of_isHexDigit {c : Char} (digit : isHexDigit c = true) : c.toNat < 0x80 := by
  simp only [isHexDigit, Bool.or_eq_true, Bool.and_eq_true, decide_eq_true_eq] at digit
  rcases digit with decimal | ⟨-, letter⟩
  · exact Nat.lt_of_le_of_lt (Char.isDigit_iff_toNat.mp decimal).2 (by decide)
  · exact Nat.lt_of_le_of_lt (Char.le_def.mp letter) (by decide)

theorem length_encode_hex (message : List UInt8) :
    (Utf8.encode (Sha256.hex (Sha256.digest message))).length = 64 := by
  have digits := all_isHexDigit (Sha256.digest message)
  rw [Utf8.encode, Utf8.length_encodeChars_ascii fun c within =>
    ascii_of_isHexDigit (List.all_eq_true.mp digits c within), Sha256.length_hex,
    Sha256.length_digest]

theorem parse?_hex (message : List UInt8) :
    parse? (Sha256.hex (Sha256.digest message)) = some ⟨Sha256.hex (Sha256.digest message)⟩ := by
  simp [parse?, Sha256.length_hex, Sha256.length_digest, all_isHexDigit]

theorem parse?_compute (id : String) (o : Options) (format : String) :
    parse? (compute id o format).text = some (compute id o format) :=
  parse?_hex _

theorem isName_of_digest {s : String} (digest : (parse? s).isSome = true) : IsName s := by
  simp only [parse?] at digest
  split at digest
  case isFalse => cases digest
  rename_i accepted
  obtain ⟨length, hex⟩ := accepted
  refine ⟨?_, ?_, ?_, ?_⟩
  · rintro rfl
    simp at length
  · rintro rfl
    simp at length
  · rintro rfl
    simp at length
  · intro slash
    have digit := List.all_eq_true.mp hex _ slash
    simp [isHexDigit] at digit

theorem isName_compute (id : String) (o : Options) (format : String) :
    IsName (compute id o format).text :=
  isName_of_digest (by rw [parse?_compute]; rfl)

theorem length_lengthBytes (n : Nat) : (lengthBytes n).length = 8 := by
  simp [lengthBytes, Sha256.length_bigEndian]

theorem lengthBytes_inj {m n : Nat} (small : m < 2 ^ 64) (small' : n < 2 ^ 64)
    (same : lengthBytes m = lengthBytes n) : m = n := by
  have range : 256 ^ 8 = 2 ^ 64 := by norm_num
  have remainders := Sha256.mod_eq_of_bigEndian (List.reverse_injective same)
  rwa [range, Nat.mod_eq_of_lt small, Nat.mod_eq_of_lt small'] at remainders

theorem framed_append {part part' rest rest' : List UInt8}
    (same : framed part ++ rest = framed part' ++ rest') : part ++ rest = part' ++ rest' := by
  simp only [framed, List.append_assoc] at same
  exact (List.append_inj same (by rw [length_lengthBytes, length_lengthBytes])).2

theorem length_eq_of_framed {part part' rest rest' : List UInt8} (small : part.length < 2 ^ 64)
    (small' : part'.length < 2 ^ 64) (same : framed part ++ rest = framed part' ++ rest') :
    part.length = part'.length := by
  simp only [framed, List.append_assoc] at same
  have lengths := (List.append_inj same (by rw [length_lengthBytes, length_lengthBytes])).1
  exact lengthBytes_inj small small' lengths

/-- The byte string that is digested tells apart what a rendering is made of, up to the canonical
form of the options. No length has to be bounded for it: identities have one length, and the text of
options ends where it ends. -/
theorem preimage_inj {o p : Options} {format format' id id' : String}
    (sameLength : (Utf8.encode id).length = (Utf8.encode id').length)
    (finite : o.style.nodesep.isFinite = true) (finite' : p.style.nodesep.isFinite = true)
    (same : preimage id o format = preimage id' p format') :
    id = id' ∧ o.normalized = p.normalized ∧ format = format' := by
  simp only [preimage, List.append_assoc] at same
  obtain ⟨ids, behind⟩ := List.append_inj (framed_append same) sameLength
  obtain ⟨options, formats⟩ := Options.encode_text_append (o := o.normalized) (p := p.normalized)
    finite finite' (framed_append behind)
  rw [← List.append_nil (framed _), ← List.append_nil (framed (Utf8.encode format'))] at formats
  have last := framed_append formats
  rw [List.append_nil, List.append_nil] at last
  exact ⟨Utf8.encode_injective ids, options, Utf8.encode_injective last⟩

theorem preimage_congr {o p : Options} {format id : String}
    (text : o.normalized.text = p.normalized.text) :
    preimage id o format = preimage id p format := by
  rw [preimage, preimage, text]

/-- With valid options, equal byte strings come from equal parts, and so do equal fingerprints unless
two digests collide. Only identities need a bound: the text of options ends where it ends, and the
format is what is left. -/
theorem compute_identifies {o p : Options} {format format' id id' : String}
    (valid : o.check = .ok ()) (valid' : p.check = .ok ())
    (small : (Utf8.encode id).length < 2 ^ 64) (small' : (Utf8.encode id').length < 2 ^ 64) :
    (preimage id o format = preimage id' p format' ↔
      id = id' ∧ o.normalized = p.normalized ∧ format = format') ∧
    (CollisionFree [preimage id o format, preimage id' p format'] →
      (compute id o format = compute id' p format' ↔
        id = id' ∧ o.normalized = p.normalized ∧ format = format')) ∧
    ∀ q q' : Options, q.normalized.text = q'.normalized.text →
      ∀ id format, compute id q format = compute id q' format := by
  have parts : preimage id o format = preimage id' p format' ↔
      id = id' ∧ o.normalized = p.normalized ∧ format = format' := by
    constructor
    · intro same
      have lengths : (Utf8.encode id).length = (Utf8.encode id').length := by
        apply length_eq_of_framed small small'
        simpa only [preimage, List.append_assoc] using same
      exact preimage_inj lengths (Options.finite_of_check valid) (Options.finite_of_check valid') same
    · rintro ⟨rfl, options, rfl⟩
      exact preimage_congr (congrArg Options.text options)
  refine ⟨parts, fun free => ?_, fun q q' text id format => ?_⟩
  · rw [← parts]
    refine ⟨fun same => ?_, fun same => by rw [compute, compute, same]⟩
    exact free.hex (by simp) (by simp) (congrArg Fingerprint.text same)
  · rw [compute, compute, preimage_congr text]

def ranked (minlen : Nat) : Options :=
  { Options.default with style := { Style.default with minlen } }

/-- Longer edges change what is digested and the fingerprint. -/
theorem compute_ranked :
    preimage "run" (ranked 2) "svg" ≠ preimage "run" (ranked 3) "svg" ∧
      compute "run" (ranked 2) "svg" ≠ compute "run" (ranked 3) "svg" := by
  have apart : Sha256.digest (preimage "run" (ranked 2) "svg") ≠
      Sha256.digest (preimage "run" (ranked 3) "svg") := by
    -- Texts that are made from characters are encoded without their detour through a string.
    simp only [preimage, Options.text, Json.compact, Utf8.encode, String.toList_ofList]
    decide +kernel
  have free := CollisionFree.of_ne apart
  have options : (ranked 2).normalized ≠ (ranked 3).normalized := fun same => by
    have lengths := congrArg (·.style.minlen) same
    cases lengths
  obtain ⟨parts, whole, -⟩ := @compute_identifies (ranked 2) (ranked 3) "svg" "svg" "run" "run"
    (by decide +kernel) (by decide +kernel) (by decide) (by decide)
  refine ⟨fun same => options (parts.mp same).2.1, fun same => ?_⟩
  have pair : CollisionFree [preimage "run" (ranked 2) "svg", preimage "run" (ranked 3) "svg"] :=
    fun a first b second => free a (by simpa using first) b (by simpa using second)
  exact options ((whole pair).mp same).2.1

theorem compute_normalized (id : String) (o : Options) (format : String) :
    compute id o.normalized format = compute id o format := by
  simp [compute, preimage]

end Fingerprint
end CallChart
