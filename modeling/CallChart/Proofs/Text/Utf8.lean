import CallChart.Text.Utf8
import Mathlib.Tactic.Common

namespace CallChart.Utf8

theorem toNat_byte {n : Nat} (small : n < 256) : (UInt8.ofNat n).toNat = n := by
  simp [Nat.mod_eq_of_lt small]

theorem char_ofNat_eq {c : Char} {n : Nat} (same : n = c.toNat) : Char.ofNat n = c := by
  rw [same, Char.ofNat_toNat]

theorem char_range (c : Char) :
    c.toNat < 0xD800 ∨ (0xDFFF < c.toNat ∧ c.toNat < 0x110000) := c.valid

theorem start_one {b : Nat} (h : b < 0x80) : start b = ([some (Char.ofNat b)], none) := by
  simp only [start, h, ↓reduceIte]

theorem start_two {b : Nat} (low : 0xC2 ≤ b) (high : b < 0xE0) :
    start b = ([], some ⟨0x80, 0xBF, 0, b - 0xC0⟩) := by
  simp only [start]
  rw [if_neg (by omega), if_neg (by omega), if_pos high]

theorem start_three {b : Nat} (low : 0xE0 ≤ b) (high : b < 0xF0) :
    start b = ([], some ⟨if b = 0xE0 then 0xA0 else 0x80, if b = 0xED then 0x9F else 0xBF, 1,
      b - 0xE0⟩) := by
  simp only [start]
  rw [if_neg (by omega), if_neg (by omega), if_neg (by omega)]
  by_cases first : b = 0xE0
  · simp [first]
  by_cases surrogate : b = 0xED
  · simp [surrogate]
  · simp [first, surrogate, high]

theorem start_four {b : Nat} (low : 0xF0 ≤ b) (high : b ≤ 0xF4) :
    start b = ([], some ⟨if b = 0xF0 then 0x90 else 0x80, if b = 0xF4 then 0x8F else 0xBF, 2,
      b - 0xF0⟩) := by
  simp only [start]
  rw [if_neg (by omega), if_neg (by omega), if_neg (by omega), if_neg (by omega),
    if_neg (by omega), if_neg (by omega)]
  by_cases first : b = 0xF0
  · simp [first]
  by_cases last : b = 0xF4
  · simp [last]
  · rw [if_neg first, if_neg first, if_neg last, if_neg last, if_pos (by omega)]

theorem scan_more {low high more value n : Nat} {rest : List UInt8} (small : n < 256)
    (above : low ≤ n) (below : n ≤ high) :
    scan (some ⟨low, high, more + 1, value⟩) (UInt8.ofNat n :: rest) =
      scan (some ⟨0x80, 0xBF, more, value * 64 + (n - 0x80)⟩) rest := by
  simp [scan, step, Nat.mod_eq_of_lt small, above, below]

theorem scan_last {low high value n : Nat} {rest : List UInt8} {c : Char} (small : n < 256)
    (above : low ≤ n) (below : n ≤ high) (whole : value * 64 + (n - 0x80) = c.toNat) :
    scan (some ⟨low, high, 0, value⟩) (UInt8.ofNat n :: rest) = some c :: scan none rest := by
  simp only [scan, step, toNat_byte small, above, below, and_self, ↓reduceIte,
    char_ofNat_eq whole, List.singleton_append]

theorem scan_start {n : Nat} {rest : List UInt8} {p : Unfinished} (small : n < 256)
    (begins : start n = ([], some p)) :
    scan none (UInt8.ofNat n :: rest) = scan (some p) rest := by
  simp only [scan, step, toNat_byte small, begins, List.nil_append]

theorem scan_encodeChar (c : Char) (rest : List UInt8) :
    scan none (encodeChar c ++ rest) = some c :: scan none rest := by
  have range := char_range c
  simp only [encodeChar]
  by_cases one : c.toNat < 0x80
  · simp only [one, ↓reduceIte, List.singleton_append, scan, step]
    rw [toNat_byte (by omega), start_one one, char_ofNat_eq rfl]
    rfl
  by_cases two : c.toNat < 0x800
  · simp only [one, two, ↓reduceIte, List.cons_append, List.nil_append]
    rw [scan_start (by omega) (start_two (by omega) (by omega)),
      scan_last (c := c) (by omega) (by omega) (by omega) (by omega)]
  by_cases three : c.toNat < 0x10000
  · simp only [one, two, three, ↓reduceIte, List.cons_append, List.nil_append]
    rw [scan_start (by omega) (start_three (by omega) (by omega)),
      scan_more (by omega) (by split <;> omega) (by split <;> omega),
      scan_last (c := c) (by omega) (by omega) (by omega) (by omega)]
  · simp only [one, two, three, ↓reduceIte, List.cons_append, List.nil_append]
    rw [scan_start (by omega) (start_four (by omega) (by omega)),
      scan_more (by omega) (by split <;> omega) (by split <;> omega),
      scan_more (by omega) (by omega) (by omega),
      scan_last (c := c) (by omega) (by omega) (by omega) (by omega)]

theorem scanned_append (cs : List Char) (rest : List UInt8) :
    scanned (encodeChars cs ++ rest) = cs.map some ++ scanned rest := by
  induction cs with
  | nil => rfl
  | cons c others ih =>
    rw [encodeChars, List.flatMap_cons, List.append_assoc]
    exact (scan_encodeChar c _).trans (congrArg (some c :: ·) ih)

theorem scanned_encodeChars (cs : List Char) : scanned (encodeChars cs) = cs.map some := by
  have alone := scanned_append cs []
  rw [List.append_nil] at alone
  exact alone.trans (List.append_nil _)

theorem scanned_encode (s : String) : scanned (encode s) = s.toList.map some :=
  scanned_encodeChars s.toList

@[simp] theorem decode_encode (s : String) : decode? (encode s) = some s := by
  have all (cs : List Char) : (cs.map some).mapM id = some cs := by
    induction cs with
    | nil => rfl
    | cons c rest ih => simp [List.mapM_cons, ih]
  simp [decode?, scanned_encode, all]

theorem encode_injective : Function.Injective encode := by
  intro s t same
  have decoded := congrArg decode? same
  simpa using decoded

theorem scanned_take_encodeChar {c : Char} {n : Nat} (early : n < (encodeChar c).length) :
    scanned ((encodeChar c).take n) = [] ∨ scanned ((encodeChar c).take n) = [none] := by
  have range := char_range c
  have unfinished (p : Unfinished) : scan (some p) [] = [none] := rfl
  rcases n with _ | n
  · exact .inl rfl
  refine .inr ?_
  simp only [scanned]
  simp only [encodeChar] at early ⊢
  by_cases one : c.toNat < 0x80
  · simp only [one, ↓reduceIte, List.length_singleton] at early
    omega
  by_cases two : c.toNat < 0x800
  · simp only [one, two, ↓reduceIte, List.length_cons, List.length_nil] at early ⊢
    obtain rfl : n = 0 := by omega
    simp only [List.take_succ_cons, List.take_zero]
    rw [scan_start (by omega) (start_two (by omega) (by omega)), unfinished]
  by_cases three : c.toNat < 0x10000
  · simp only [one, two, three, ↓reduceIte, List.length_cons, List.length_nil] at early ⊢
    have first := start_three (b := 0xE0 + c.toNat / 4096) (by omega) (by omega)
    obtain rfl | rfl : n = 0 ∨ n = 1 := by omega
    · simp only [List.take_succ_cons, List.take_zero]
      rw [scan_start (by omega) first, unfinished]
    · simp only [List.take_succ_cons, List.take_zero]
      rw [scan_start (by omega) first,
        scan_more (by omega) (by split <;> omega) (by split <;> omega), unfinished]
  · simp only [one, two, three, ↓reduceIte, List.length_cons, List.length_nil] at early ⊢
    have first := start_four (b := 0xF0 + c.toNat / 262144) (by omega) (by omega)
    obtain rfl | rfl | rfl : n = 0 ∨ n = 1 ∨ n = 2 := by omega
    · simp only [List.take_succ_cons, List.take_zero]
      rw [scan_start (by omega) first, unfinished]
    · simp only [List.take_succ_cons, List.take_zero]
      rw [scan_start (by omega) first,
        scan_more (by omega) (by split <;> omega) (by split <;> omega), unfinished]
    · simp only [List.take_succ_cons, List.take_zero]
      rw [scan_start (by omega) first,
        scan_more (by omega) (by split <;> omega) (by split <;> omega),
        scan_more (by omega) (by omega) (by omega), unfinished]

theorem scanned_take {cs : List Char} {n : Nat} (early : n < (encodeChars cs).length) :
    ∃ m < cs.length, ∃ gap, (gap = [] ∨ gap = [none]) ∧
      scanned ((encodeChars cs).take n) = (cs.take m).map some ++ gap := by
  induction cs generalizing n with
  | nil => cases early
  | cons c cs ih =>
    have bytes : encodeChars (c :: cs) = encodeChar c ++ encodeChars cs := List.flatMap_cons
    rw [bytes, List.length_append] at early
    rw [bytes, List.take_append]
    by_cases within : n < (encodeChar c).length
    · refine ⟨0, by simp, _, scanned_take_encodeChar within, ?_⟩
      simp [Nat.sub_eq_zero_of_le (Nat.le_of_lt within)]
    · obtain ⟨m, short, gap, gaps, scanned_⟩ := ih (n := n - (encodeChar c).length) (by omega)
      refine ⟨m + 1, by simpa using short, gap, gaps, ?_⟩
      rw [List.take_of_length_le (by omega), scanned, scan_encodeChar]
      simp only [List.take_succ_cons, List.map_cons, List.cons_append]
      exact congrArg _ scanned_

theorem length_encodeChars_ascii {cs : List Char} (ascii : ∀ c ∈ cs, c.toNat < 0x80) :
    (encodeChars cs).length = cs.length := by
  induction cs with
  | nil => rfl
  | cons c cs ih =>
    have others := ih fun d within => ascii d (List.mem_cons_of_mem _ within)
    have first := ascii c List.mem_cons_self
    rw [encodeChars] at others ⊢
    simp [encodeChar, first, others]

def Continues (pending : Option Unfinished) : Prop :=
  ∀ p ∈ pending, 0x80 ≤ p.low

theorem start_continues (b : Nat) : Continues (start b).2 := by
  simp only [start]
  repeat' split
  all_goals simp [Continues]

theorem step_continues (pending : Option Unfinished) (byte : UInt8) :
    Continues (step pending byte).2 := by
  simp only [step]
  split
  · exact start_continues _
  · split
    · split
      · simp [Continues]
      · simp [Continues]
    · exact start_continues _

theorem step_ascii {pending : Option Unfinished} (continues : Continues pending) {byte : UInt8}
    (ascii : byte.toNat < 0x80) : some (Char.ofNat byte.toNat) ∈ (step pending byte).1 := by
  have begins := start_one ascii
  simp only [step, begins]
  split
  · simp
  · rename_i p
    have low : 0x80 ≤ p.low := continues p rfl
    have apart : ¬ (p.low ≤ byte.toNat ∧ byte.toNat ≤ p.high) := by omega
    simp [apart]

theorem ascii_mem_scan {pending : Option Unfinished} (continues : Continues pending)
    {bytes : List UInt8} {byte : UInt8} (ascii : byte.toNat < 0x80) (within : byte ∈ bytes) :
    some (Char.ofNat byte.toNat) ∈ scan pending bytes := by
  induction bytes generalizing pending with
  | nil => cases within
  | cons first rest ih =>
    rw [scan, List.mem_append]
    rcases List.mem_cons.mp within with rfl | within
    · exact .inl (step_ascii continues ascii)
    · exact .inr (ih (step_continues pending first) within)

theorem ascii_mem_scanned {bytes : List UInt8} {byte : UInt8} (ascii : byte.toNat < 0x80)
    (within : byte ∈ bytes) : some (Char.ofNat byte.toNat) ∈ scanned bytes :=
  ascii_mem_scan (by simp [Continues]) ascii within

end CallChart.Utf8
