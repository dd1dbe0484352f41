import BoardServices.Lib.Strings

/-!
# Strings that are numerals as a whole

The C library takes the longest prefix that fits and says nothing about the
rest. Here a numeral is a whole string, and on numerals the library functions
return their values.
-/

namespace BoardServices.Lib.Numerals
open Strings

/-! ### Decimal -/

def digitString (s : CString) : Option ℕ :=
  if s ≠ [] ∧ s.all Char.isDigit then some (Nat.ofDigitChars 10 s 0) else none

/-- An optional sign and digits, nothing else. -/
def decimalNumeral (s : CString) : Option ℤ :=
  match s with
  | '-' :: r => (digitString r).map fun n : ℕ => -(n : ℤ)
  | '+' :: r => (digitString r).map fun n : ℕ => (n : ℤ)
  | r => (digitString r).map fun n : ℕ => (n : ℤ)

theorem digitString_some {s : CString} {n : ℕ} (h : digitString s = some n) :
    digitsValue s = n ∧ ∃ c r, s = c :: r ∧ c.isDigit = true := by
  unfold digitString at h
  split at h
  · rename_i hs
    obtain ⟨hne, hall⟩ := hs
    have hdigits : ∀ c ∈ s, c.isDigit = true := List.all_eq_true.mp hall
    have htake : s.takeWhile Char.isDigit = s := List.takeWhile_eq_self_iff.mpr hdigits
    refine ⟨?_, ?_⟩
    · rw [digitsValue, htake]
      exact Option.some.inj h
    · obtain ⟨c, r, rfl⟩ := List.exists_cons_of_ne_nil hne
      exact ⟨c, r, rfl, hdigits c (List.mem_cons_self ..)⟩
  · cases h

theorem decimalPrefix_minus (r : CString) : decimalPrefix ('-' :: r) = -(digitsValue r : ℤ) := rfl

theorem decimalPrefix_plus (r : CString) : decimalPrefix ('+' :: r) = digitsValue r := rfl

theorem decimalPrefix_numeral {s : CString} {v : ℤ} (h : decimalNumeral s = some v) :
    decimalPrefix s = v := by
  unfold decimalNumeral at h
  split at h
  · obtain ⟨n, hn, rfl⟩ := Option.map_eq_some_iff.mp h
    rw [decimalPrefix_minus, (digitString_some hn).1]
  · obtain ⟨n, hn, rfl⟩ := Option.map_eq_some_iff.mp h
    rw [decimalPrefix_plus, (digitString_some hn).1]
  · obtain ⟨n, hn, rfl⟩ := Option.map_eq_some_iff.mp h
    obtain ⟨hv, c, r, rfl, hc⟩ := digitString_some hn
    rw [decimalPrefix_of_digit_head c r hc, hv]

theorem atoi_numeral {s : CString} {v : ℤ} (h : decimalNumeral s = some v) (hv : IsInt v) :
    atoi s = v := by
  rw [atoi, decimalPrefix_numeral h]
  unfold IsInt INT_MIN INT_MAX at hv
  unfold INT_MIN INT_MAX
  omega

/-! ### Hexadecimal -/

/-- Hexadecimal digits, nothing else. -/
def hexNumeral (s : CString) : Option ℕ :=
  if s ≠ [] ∧ s.all isxdigit then some (s.foldl (fun v c => 16 * v + hexDigit c) 0) else none

theorem isxdigit_not_x (c : Char) (h : isxdigit c = true) : c ≠ 'x' ∧ c ≠ 'X' :=
  ⟨by rintro rfl; exact absurd h (by decide), by rintro rfl; exact absurd h (by decide)⟩

theorem isxdigit_not_lead (c : Char) (h : isxdigit c = true) :
    isspace c = false ∧ c ≠ '-' ∧ c ≠ '+' ∧ c ≠ ':' := by
  refine ⟨?_, ?_, ?_, ?_⟩
  · unfold isxdigit at h
    simp only [Bool.or_eq_true, Bool.and_eq_true, decide_eq_true_eq] at h
    rcases h with (h | h) | h
    · exact isDigit_not_isspace c h
    · have h1 : 97 ≤ c.toNat := h.1
      exact not_isspace_of_lt c (by omega)
    · have h1 : 65 ≤ c.toNat := h.1
      exact not_isspace_of_lt c (by omega)
  · rintro rfl
    exact absurd h (by decide)
  · rintro rfl
    exact absurd h (by decide)
  · rintro rfl
    exact absurd h (by decide)

theorem hexPrefix_of_digits (s : CString) (hall : ∀ c ∈ s, isxdigit c = true) :
    hexPrefix s = s.foldl (fun v c => 16 * v + hexDigit c) 0 := by
  have htake : s.takeWhile isxdigit = s := List.takeWhile_eq_self_iff.mpr hall
  unfold hexPrefix
  split
  · rename_i x d r
    have hx:=isxdigit_not_x x (hall x (by simp))
    dsimp only
    rw [if_neg (by simp [hx.1, hx.2]), htake]
  · simp only [htake]

theorem strtoul16_numeral {s : CString} {n : ℕ} (h : hexNumeral s = some n) (hn : n < 2 ^ 32) :
    strtoul16 s = BitVec.ofNat 32 n := by
  unfold hexNumeral at h
  split at h
  · rename_i hs
    obtain ⟨hne, hall⟩ := hs
    have hdigits : ∀ c ∈ s, isxdigit c = true := List.all_eq_true.mp hall
    have hv : hexPrefix s = n := (hexPrefix_of_digits s hdigits).trans (Option.some.inj h)
    obtain ⟨c, r, rfl⟩ := List.exists_cons_of_ne_nil hne
    obtain ⟨hsp, hm, hp, _⟩ := isxdigit_not_lead c (hdigits c (List.mem_cons_self ..))
    have hdrop : (c :: r).dropWhile isspace = c :: r := by simp [hsp]
    unfold strtoul16
    rw [hdrop]
    split
    · rename_i heq
      exact absurd (List.cons.inj heq).1 hm
    · rename_i heq
      exact absurd (List.cons.inj heq).1 hp
    · rw [hv]
      exact if_pos hn
  · cases h

theorem hexNumeral_digits {s : CString} {n : ℕ} (h : hexNumeral s = some n) :
    s ≠ [] ∧ ∀ c ∈ s, isxdigit c = true := by
  unfold hexNumeral at h
  split at h
  · rename_i hs
    exact ⟨hs.1, List.all_eq_true.mp hs.2⟩
  · cases h

end BoardServices.Lib.Numerals
