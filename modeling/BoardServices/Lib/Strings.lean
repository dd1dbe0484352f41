import Mathlib.Data.List.Basic
import Mathlib.Data.List.TakeWhile
import Mathlib.Tactic.Ring
import Mathlib.Tactic.NormNum

/-!
# C strings and decimal numerals

A C string is the list of its characters without the terminating NUL; a
character array holds a string up to its first NUL. The functions of the C
library follow ISO C, with `int` and `long` of 32 bits (the target of the
makefiles is 32-bit ARM), so that `atoi`, which is `(int) strtol`, saturates.
-/

namespace BoardServices.Lib.Strings

abbrev CString := List Char

def cstr (buf : List Char) : CString := buf.takeWhile (· != '\x00')

theorem cstr_of_no_nul (s : List Char) (h : '\x00' ∉ s) : cstr s = s := by
  unfold cstr
  rw [List.takeWhile_eq_self_iff]
  intro c hc
  simp only [bne_iff_ne, ne_eq]
  rintro rfl
  exact h hc

/-! ### strncmp -/

/-- Difference of the first two characters that differ, zero if none of the
first `n` differ; a string ends in a NUL. -/
def strncmp : CString → CString → ℕ → ℤ
  | _, _, 0 => 0
  | [], [], _ + 1 => 0
  | [], d :: _, _ + 1 => -(d.toNat : ℤ)
  | c :: _, [], _ + 1 => c.toNat
  | c :: s, d :: t, n + 1 =>
    if c ≠ d then (c.toNat : ℤ) - d.toNat else if c = '\x00' then 0 else strncmp s t n

theorem strncmp_eq_zero_iff (s t : CString) (ht : '\x00' ∉ t) :
    strncmp s t t.length = 0 ↔ t <+: s := by
  induction t generalizing s with
  | nil => simp [strncmp]
  | cons d t ih =>
    have hd : d ≠ '\x00' := fun h => ht (h ▸ List.mem_cons_self ..)
    have hdn : d.toNat ≠ 0 := fun h => hd (Char.toNat_inj.mp (by simpa using h))
    have htl : '\x00' ∉ t := fun h => ht (List.mem_cons_of_mem _ h)
    cases s with
    | nil =>
      simp only [List.length_cons, strncmp]
      constructor
      · intro h; omega
      · intro h; simp at h
    | cons c s =>
      simp only [List.length_cons, strncmp]
      by_cases hcd : c = d
      · subst hcd
        simp only [ne_eq, not_true_eq_false, if_false, if_neg hd, List.cons_prefix_cons, true_and]
        exact ih s htl
      · have hsub : (c.toNat : ℤ) - d.toNat ≠ 0 := by
          intro h
          exact hcd (Char.toNat_inj.mp (by omega))
        simp only [ne_eq, hcd, not_false_eq_true, if_true, hsub, false_iff, List.cons_prefix_cons,
          not_and]
        intro h
        exact absurd h.symm hcd

/-! ### Decimal numerals -/

def isspace (c : Char) : Bool := c == ' ' || ('\t' ≤ c && c ≤ '\r')

def digitsValue (s : CString) : ℕ := Nat.ofDigitChars 10 (s.takeWhile Char.isDigit) 0

/-- White space, an optional sign, then the longest run of digits. -/
def decimalPrefix (s : CString) : ℤ :=
  match s.dropWhile isspace with
  | '-' :: r => -(digitsValue r : ℤ)
  | '+' :: r => digitsValue r
  | r => digitsValue r

theorem takeWhile_append_stop (p : Char → Bool) (s z : List Char) (c : Char) (hc : p c = false) :
    (s ++ c :: z).takeWhile p = s.takeWhile p := by
  induction s with
  | nil => simp [hc]
  | cons d s ih =>
    cases hd : p d with
    | true => simp [hd, ih]
    | false => simp [hd]

theorem digitsValue_append_nul (s z : List Char) :
    digitsValue (s ++ '\x00' :: z) = digitsValue s := by
  rw [digitsValue, digitsValue, takeWhile_append_stop _ _ _ _ (by decide)]

theorem decimalPrefix_append_nul (s z : List Char) :
    decimalPrefix (s ++ '\x00' :: z) = decimalPrefix s := by
  have hdrop : (s ++ '\x00' :: z).dropWhile isspace = s.dropWhile isspace ++ '\x00' :: z := by
    rw [List.dropWhile_append]
    split
    · rename_i h
      have hnul : isspace '\x00' = false := by decide
      simp [List.isEmpty_iff.mp h, hnul]
    · rfl
  unfold decimalPrefix
  rw [hdrop]
  cases s.dropWhile isspace with
  | nil => exact congrArg Nat.cast (digitsValue_append_nul [] z)
  | cons c r =>
    by_cases hm : c = '-'
    · subst hm
      simp only [List.cons_append, digitsValue_append_nul]
    · by_cases hp : c = '+'
      · subst hp
        simp only [List.cons_append, digitsValue_append_nul]
      · have hr:=digitsValue_append_nul (c :: r) z
        rw [List.cons_append] at hr ⊢
        split
        · exact absurd (List.cons.inj (by assumption)).1 hm
        · exact absurd (List.cons.inj (by assumption)).1 hp
        · rw [hr]
          split
          · exact absurd (List.cons.inj (by assumption)).1 hm
          · exact absurd (List.cons.inj (by assumption)).1 hp
          · rfl

theorem ofDigitChars_lt (l : List Char) (hl : ∀ c ∈ l, c.isDigit = true) :
    Nat.ofDigitChars 10 l 0 < 10 ^ l.length := by
  induction l with
  | nil => simp
  | cons c l ih =>
    have hc : c.isDigit = true := hl c (List.mem_cons_self ..)
    have hlt:=ih fun d hd => hl d (List.mem_cons_of_mem _ hd)
    simp only [Char.isDigit, Bool.and_eq_true, decide_eq_true_eq] at hc
    have hc9 : c.toNat ≤ 57 := hc.2
    have hd : 10 * 0 + (c.toNat - '0'.toNat) ≤ 9 := by
      have h0 : '0'.toNat = 48 := rfl
      omega
    rw [Nat.ofDigitChars_cons, Nat.ofDigitChars_eq_ofDigitChars_zero, List.length_cons, pow_succ]
    have hm:=Nat.mul_le_mul_left (10 ^ l.length) hd
    omega

theorem digitsValue_lt (s : CString) : digitsValue s < 10 ^ s.length := by
  have hlt:=ofDigitChars_lt (s.takeWhile Char.isDigit) fun _ hc => List.mem_takeWhile_imp hc
  have hlen : (s.takeWhile Char.isDigit).length ≤ s.length := (List.takeWhile_sublist _).length_le
  exact lt_of_lt_of_le hlt (Nat.pow_le_pow_right (by norm_num) hlen)

theorem decimalPrefix_natAbs_lt (s : CString) (k : ℕ) (hk : s.length ≤ k) :
    (decimalPrefix s).natAbs < 10 ^ k := by
  have hlen : (s.dropWhile isspace).length ≤ s.length := (List.dropWhile_sublist _).length_le
  have key : ∀ r : List Char, r.length ≤ k → digitsValue r < 10 ^ k := fun r hr =>
    lt_of_lt_of_le (digitsValue_lt r) (Nat.pow_le_pow_right (by norm_num) hr)
  unfold decimalPrefix
  split
  · rename_i r heq
    rw [heq, List.length_cons] at hlen
    have hr:=key r (by omega)
    omega
  · rename_i r heq
    rw [heq, List.length_cons] at hlen
    have hr:=key r (by omega)
    omega
  · have hr:=key _ (hlen.trans hk)
    omega

def INT_MAX : ℤ := 2147483647
def INT_MIN : ℤ := -2147483648

def IsInt (x : ℤ) : Prop := INT_MIN ≤ x ∧ x ≤ INT_MAX

instance (x : ℤ) : Decidable (IsInt x) := inferInstanceAs (Decidable (_ ∧ _))

def atoi (s : CString) : ℤ := max INT_MIN (min INT_MAX (decimalPrefix s))

theorem atoi_natAbs_le (s : CString) : (atoi s).natAbs ≤ (decimalPrefix s).natAbs := by
  unfold atoi INT_MIN INT_MAX
  omega

def formatInt (x : ℤ) : CString :=
  if x < 0 then '-' :: Nat.toDigits 10 x.natAbs else Nat.toDigits 10 x.natAbs

theorem toDigits_all_isDigit (n : ℕ) : ∀ c ∈ Nat.toDigits 10 n, c.isDigit = true :=
  fun _ hc => Nat.isDigit_of_mem_toDigits (by norm_num) (by norm_num) hc

/-- Text that follows a numeral without continuing it. -/
def NotDigitHead (rest : List Char) : Prop := ∀ c, rest.head? = some c → c.isDigit = false

theorem digitsValue_toDigits_append (n : ℕ) (rest : List Char) (hr : NotDigitHead rest) :
    digitsValue (Nat.toDigits 10 n ++ rest) = n := by
  have htake : (Nat.toDigits 10 n ++ rest).takeWhile Char.isDigit = Nat.toDigits 10 n := by
    rw [List.takeWhile_append_of_pos (toDigits_all_isDigit n)]
    cases rest with
    | nil => simp
    | cons c cs =>
      have hc : c.isDigit = false := hr c rfl
      simp [hc]
  rw [digitsValue, htake, Nat.ofDigitChars_ten_toDigits]

theorem not_isspace_of_lt (c : Char) (h : 32 < c.toNat) : isspace c = false := by
  have hsp : c ≠ ' ' := by rintro rfl; simp at h
  have hr : ¬ c ≤ '\r' := by
    intro hle
    have h2 : c.toNat ≤ 13 := hle
    omega
  simp [isspace, hsp, hr]

theorem isDigit_not_isspace (c : Char) (h : c.isDigit = true) : isspace c = false := by
  simp only [Char.isDigit, Bool.and_eq_true, decide_eq_true_eq] at h
  have h1 : 48 ≤ c.toNat := h.1
  exact not_isspace_of_lt c (by omega)

theorem isDigit_not_sign (c : Char) (h : c.isDigit = true) : c ≠ '-' ∧ c ≠ '+' :=
  ⟨by rintro rfl; simp at h, by rintro rfl; simp at h⟩

theorem decimalPrefix_of_digit_head (c : Char) (s : CString) (hc : c.isDigit = true) :
    decimalPrefix (c :: s) = digitsValue (c :: s) := by
  obtain ⟨hm, hp⟩ := isDigit_not_sign c hc
  have hdrop : (c :: s).dropWhile isspace = c :: s := by
    simp [isDigit_not_isspace c hc]
  unfold decimalPrefix
  rw [hdrop]
  split
  · rename_i r heq
    exact absurd (List.cons.inj heq).1 hm
  · rename_i r heq
    exact absurd (List.cons.inj heq).1 hp
  · rfl

theorem decimalPrefix_toDigits_append (n : ℕ) (rest : List Char) (hr : NotDigitHead rest) :
    decimalPrefix (Nat.toDigits 10 n ++ rest) = n := by
  obtain ⟨c, cs, hcs⟩ := List.exists_cons_of_ne_nil (Nat.toDigits_ne_nil (n := n) (b := 10))
  have hc : c.isDigit = true := toDigits_all_isDigit n c (by rw [hcs]; exact List.mem_cons_self ..)
  have hv:=digitsValue_toDigits_append n rest hr
  rw [hcs, List.cons_append] at hv ⊢
  rw [decimalPrefix_of_digit_head c _ hc, hv]

theorem decimalPrefix_formatInt_append (x : ℤ) (rest : List Char) (hr : NotDigitHead rest) :
    decimalPrefix (formatInt x ++ rest) = x := by
  unfold formatInt
  split
  · rename_i hx
    have hv:=digitsValue_toDigits_append x.natAbs rest hr
    have hd : decimalPrefix ('-' :: (Nat.toDigits 10 x.natAbs ++ rest)) =
        -(digitsValue (Nat.toDigits 10 x.natAbs ++ rest) : ℤ) := rfl
    rw [List.cons_append, hd, hv]
    omega
  · rename_i hx
    rw [decimalPrefix_toDigits_append x.natAbs rest hr]
    omega

/-- `atoi` reads back what `%d` printed, whatever follows it. -/
theorem atoi_formatInt_append (x : ℤ) (rest : List Char) (hx : IsInt x)
    (hr : NotDigitHead rest) : atoi (formatInt x ++ rest) = x := by
  rw [atoi, decimalPrefix_formatInt_append x rest hr]
  unfold IsInt INT_MIN INT_MAX at hx
  unfold INT_MIN INT_MAX
  omega

theorem formatInt_length_le (x : ℤ) (k : ℕ) (hk : 0 < k)
    (hlo : -(10 : ℤ) ^ k < x) (hhi : x < (10 : ℤ) ^ (k + 1)) :
    (formatInt x).length ≤ k + 1 := by
  unfold formatInt
  split
  · rename_i hx
    have hn : x.natAbs < 10 ^ k := by
      have hc : ((10 ^ k : ℕ) : ℤ) = (10 : ℤ) ^ k := by push_cast; rfl
      omega
    have hl:=(Nat.length_toDigits_le_iff (b := 10) (n := x.natAbs) (by norm_num) hk).mpr hn
    simp only [List.length_cons]
    omega
  · rename_i hx
    have hn : x.natAbs < 10 ^ (k + 1) := by
      have hc : ((10 ^ (k + 1) : ℕ) : ℤ) = (10 : ℤ) ^ (k + 1) := by push_cast; rfl
      omega
    exact (Nat.length_toDigits_le_iff (b := 10) (by norm_num) (by omega)).mpr hn

/-! ### strtok and hexadecimal numerals -/

/-- The next token and what is left for the following call; none is a null
pointer. -/
def strtok (s : CString) (delim : Char) : Option (CString × CString) :=
  match s.dropWhile (· == delim) with
  | [] => none
  | r => some (r.takeWhile (· != delim), (r.dropWhile (· != delim)).drop 1)

/-- A token and what stands behind it, up to the delimiter. -/
theorem strtok_append {a t : CString} {delim : Char} (hne : a ≠ []) (ha : ∀ c ∈ a, c ≠ delim)
    (ht : t.takeWhile (· != delim) = []) :
    strtok (a ++ t) delim = some (a, (t.dropWhile (· != delim)).drop 1) := by
  have hpos : ∀ c ∈ a, (c != delim) = true := fun c hc => bne_iff_ne.mpr (ha c hc)
  have htake : (a ++ t).takeWhile (· != delim) = a ++ t.takeWhile (· != delim) :=
    List.takeWhile_append_of_pos hpos
  have hdrop : (a ++ t).dropWhile (· != delim) = t.dropWhile (· != delim) :=
    List.dropWhile_append_of_pos hpos
  obtain ⟨c, r, rfl⟩ := List.exists_cons_of_ne_nil hne
  have hhead : ((c :: r) ++ t).dropWhile (· == delim) = (c :: r) ++ t := by
    simp [beq_eq_false_iff_ne.mpr (ha c (List.mem_cons_self ..))]
  unfold strtok
  rw [hhead]
  dsimp only [List.cons_append] at htake hdrop ⊢
  rw [htake, hdrop, ht, List.append_nil]

def isxdigit (c : Char) : Bool := c.isDigit || ('a' ≤ c && c ≤ 'f') || ('A' ≤ c && c ≤ 'F')

def hexDigit (c : Char) : ℕ :=
  if c.isDigit then c.toNat - '0'.toNat
  else if 'a' ≤ c then c.toNat - 'a'.toNat + 10 else c.toNat - 'A'.toNat + 10

/-- Value of the longest run of hexadecimal digits, behind `0x` if that is
followed by a digit. -/
def hexPrefix (s : CString) : ℕ :=
  let body := match s with
    | '0' :: x :: d :: r => if (x = 'x' ∨ x = 'X') ∧ isxdigit d then d :: r else s
    | _ => s
  (body.takeWhile isxdigit).foldl (fun v c => 16 * v + hexDigit c) 0

/-- `strtoul(s, NULL, 16)`: a minus sign negates in `unsigned long`, a numeral
that does not fit is `ULONG_MAX`. -/
def strtoul16 (s : CString) : BitVec 32 :=
  let fit (v : ℕ) (n : BitVec 32) : BitVec 32 := if v < 2 ^ 32 then n else BitVec.allOnes 32
  match s.dropWhile isspace with
  | '-' :: r => fit (hexPrefix r) (-BitVec.ofNat 32 (hexPrefix r))
  | '+' :: r => fit (hexPrefix r) (BitVec.ofNat 32 (hexPrefix r))
  | r => fit (hexPrefix r) (BitVec.ofNat 32 (hexPrefix r))

end BoardServices.Lib.Strings
