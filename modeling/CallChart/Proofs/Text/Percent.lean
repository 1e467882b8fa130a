import CallChart.Proofs.Text.Split
import CallChart.Proofs.Text.Utf8
import CallChart.Text.Percent

namespace CallChart.Percent

def isCoded (c : Char) : Bool :=
  c.isAlphanum || c == '-' || c == '_' || c == '.' || c == '~' || c == '%'

theorem hexValue?_upperHex {n : Nat} (small : n < 16) : Json.hexValue? (upperHex n) = some n := by
  revert n
  decide

theorem isCoded_upperHex {n : Nat} (small : n < 16) : isCoded (upperHex n) = true := by
  revert n
  decide

theorem isCoded_of_mem_encodeByte {b : UInt8} {c : Char} (within : c ∈ encodeByte b) :
    isCoded c = true := by
  unfold encodeByte at within
  split at within
  · rename_i free
    obtain rfl := List.mem_singleton.mp within
    simp only [isUnreserved, Bool.and_eq_true] at free
    simp [isCoded, free.2]
  · have bound := b.toNat_lt
    simp only [List.mem_cons, List.not_mem_nil, or_false] at within
    rcases within with rfl | rfl | rfl
    · rfl
    · exact isCoded_upperHex (by omega)
    · exact isCoded_upperHex (by omega)

theorem isCoded_of_mem_encodeChars {s : String} {c : Char} (within : c ∈ encodeChars s) :
    isCoded c = true := by
  obtain ⟨b, -, coded⟩ := List.mem_flatMap.mp within
  exact isCoded_of_mem_encodeByte coded

theorem not_mem_encodeChars {c : Char} (special : isCoded c = false) (s : String) :
    c ∉ encodeChars s := by
  intro within
  rw [isCoded_of_mem_encodeChars within] at special
  cases special

theorem formBytes_unreserved {b : UInt8} (free : isUnreserved b = true) (rest : List Char) :
    formBytes (Char.ofNat b.toNat :: rest) = b :: formBytes rest := by
  simp only [isUnreserved, Bool.and_eq_true, decide_eq_true_eq] at free
  have small : b.toNat < 0x80 := UInt8.lt_iff_toNat_lt.mp free.1
  have valid : b.toNat.isValidChar := .inl (by omega)
  have code : (Char.ofNat b.toNat).toNat = b.toNat := by
    rw [Char.ofNat, dif_pos valid]
    rfl
  have plus : Char.ofNat b.toNat ≠ '+' := by
    intro same
    simp [same] at free
  have percent : Char.ofNat b.toNat ≠ '%' := by
    intro same
    simp [same] at free
  rw [formBytes]
  · simp [Utf8.encodeChar, code, small]
  · exact plus
  · exact fun _ _ _ same _ => percent same

theorem formBytes_encodeByte (b : UInt8) (rest : List Char) :
    formBytes (encodeByte b ++ rest) = b :: formBytes rest := by
  unfold encodeByte
  split
  · rename_i free
    exact formBytes_unreserved free rest
  · have bound := b.toNat_lt
    have whole : b.toNat / 16 * 16 + b.toNat % 16 = b.toNat := by omega
    simp only [List.cons_append, List.nil_append, formBytes]
    rw [hexValue?_upperHex (by omega), hexValue?_upperHex (by omega)]
    simp only [whole, UInt8.ofNat_toNat]

theorem formBytes_encodeChars (s : String) : formBytes (encodeChars s) = Utf8.encode s := by
  unfold encodeChars
  induction Utf8.encode s with
  | nil => rfl
  | cons b rest ih => rw [List.flatMap_cons, formBytes_encodeByte, ih]

theorem decodeForm_encodeChars (s : String) : decodeForm (encodeChars s) = s := by
  have same : ((fun c => c.getD '\uFFFD') ∘ some : Char → Char) = id := rfl
  rw [decodeForm, formBytes_encodeChars, Utf8.decodeLossy, Utf8.scanned_encode, List.map_map, same,
    List.map_id, String.ofList_toList]

end CallChart.Percent
