import Mathlib.Data.Int.Log
import Mathlib.Data.Rat.Floor
import Mathlib.Tactic.Linarith
import Mathlib.Tactic.Ring
import Mathlib.Tactic.FieldSimp
import Mathlib.Tactic.NormNum
import Mathlib.Tactic.Positivity

/-!
# Rounding to a binary format

Round to nearest, ties to even, to `p` significant bits (IEEE 754 in the range
where neither overflow nor underflow occurs: `p = 24` is `float`, `p = 53` is
`double`). A float value is the rational it stands for. The facts needed of it:
integers below `2 ^ p` are exact, the error is at most half a unit in the last
place, and the cast back to `int` of a quotient of small integers is not moved
by the roundings on the way.
-/

namespace BoardServices.Lib.BinaryRounding

def nearestEven (y : ℚ) : ℤ :=
  let f := ⌊y⌋
  if y - f < 1 / 2 then f else if 1 / 2 < y - f then f + 1 else if f % 2 = 0 then f else f + 1

theorem nearestEven_error (y : ℚ) : |(nearestEven y : ℚ) - y| ≤ 1 / 2 := by
  have h1:=Int.floor_le y
  have h2:=Int.lt_floor_add_one y
  unfold nearestEven
  dsimp only
  rw [abs_le]
  split
  · constructor <;> linarith
  · split
    · push_cast
      constructor <;> linarith
    · split
      · constructor <;> linarith
      · push_cast
        constructor <;> linarith

@[simp] theorem nearestEven_intCast (n : ℤ) : nearestEven (n : ℚ) = n := by
  simp [nearestEven]

def ulp (p : ℕ) (x : ℚ) : ℚ := (2 : ℚ) ^ (Int.log 2 |x| - ((p : ℤ) - 1))

def roundBits (p : ℕ) (x : ℚ) : ℚ := if x = 0 then 0 else nearestEven (x / ulp p x) * ulp p x

theorem ulp_pos (p : ℕ) (x : ℚ) : 0 < ulp p x := zpow_pos (by norm_num) _

theorem roundBits_error (p : ℕ) (x : ℚ) : |roundBits p x - x| ≤ ulp p x / 2 := by
  have hu:=ulp_pos p x
  unfold roundBits
  split
  · rename_i hx
    subst hx
    rw [sub_self, abs_zero]
    linarith
  · have hs : nearestEven (x / ulp p x) * ulp p x - x =
        ((nearestEven (x / ulp p x) : ℚ) - x / ulp p x) * ulp p x := by
      field_simp
    rw [hs, abs_mul, abs_of_pos hu]
    have he:=nearestEven_error (x / ulp p x)
    nlinarith

theorem ulp_le (p : ℕ) (x : ℚ) (e : ℤ) (hx : x ≠ 0) (h : |x| < (2 : ℚ) ^ e) :
    ulp p x ≤ (2 : ℚ) ^ (e - p) := by
  have hl : Int.log 2 |x| < e :=
    (Int.lt_zpow_iff_log_lt (by norm_num) (abs_pos.mpr hx)).mp (by exact_mod_cast h)
  exact zpow_le_zpow_right₀ (by norm_num) (by omega)

theorem roundBits_error_le (p : ℕ) (x : ℚ) (e : ℤ) (h : |x| < (2 : ℚ) ^ e) :
    |roundBits p x - x| ≤ (2 : ℚ) ^ (e - p) / 2 := by
  have hp : (0 : ℚ) < (2 : ℚ) ^ (e - p) := zpow_pos (by norm_num) _
  by_cases hx : x = 0
  · subst hx
    simp only [roundBits, if_true, sub_self, abs_zero]
    linarith
  · have h1:=roundBits_error p x
    have h2:=ulp_le p x e hx h
    linarith

theorem roundBits_intCast (p : ℕ) (n : ℤ) (h : |n| < (2 : ℤ) ^ p) : roundBits p (n : ℚ) = n := by
  unfold roundBits
  split
  · rename_i hn
    exact hn.symm
  · rename_i hn
    have hq : |(n : ℚ)| < (2 : ℚ) ^ (p : ℤ) := by
      rw [zpow_natCast]
      exact_mod_cast h
    have hl : Int.log 2 |(n : ℚ)| < p :=
      (Int.lt_zpow_iff_log_lt (by norm_num) (abs_pos.mpr hn)).mp (by exact_mod_cast hq)
    -- the unit in the last place is one over a power of two
    obtain ⟨k, hk⟩ : ∃ k : ℕ, Int.log 2 |(n : ℚ)| - ((p : ℤ) - 1) = -(k : ℤ) :=
      ⟨((p : ℤ) - 1 - Int.log 2 |(n : ℚ)|).toNat, by omega⟩
    have hu : ulp p (n : ℚ) = ((2 : ℚ) ^ k)⁻¹ := by
      rw [ulp, hk, zpow_neg, zpow_natCast]
    have hd : (n : ℚ) / ulp p (n : ℚ) = ((n * 2 ^ k : ℤ) : ℚ) := by
      rw [hu]
      push_cast
      field_simp
    rw [hd, nearestEven_intCast, hu]
    push_cast
    field_simp

/-! ### The cast to int -/

def trunc (x : ℚ) : ℤ := if 0 ≤ x then ⌊x⌋ else ⌈x⌉

@[simp] theorem trunc_intCast (n : ℤ) : trunc (n : ℚ) = n := by
  simp [trunc]

theorem trunc_of_between_nonpos (y : ℚ) (q : ℤ) (hq : q ≤ 0) (h1 : (q : ℚ) - 1 < y)
    (h2 : y < q) : trunc y = q := by
  have hy : ¬ (0 : ℚ) ≤ y := by
    have hqq : (q : ℚ) ≤ 0 := by exact_mod_cast hq
    linarith
  rw [trunc, if_neg hy, Int.ceil_eq_iff]
  exact ⟨h1, le_of_lt h2⟩

/-! ### The integer quotient -/

theorem le_tdiv_iff {a b c : ℤ} (hb : 0 < b) (hc : 0 < c) : c ≤ a.tdiv b ↔ c * b ≤ a := by
  refine ⟨fun h => ?_, Int.le_tdiv_of_mul_le hb⟩
  have hpos : 0 ≤ a := by
    by_contra hneg
    have hn:=Int.tdiv_nonneg (a := -a) (b := b) (by omega) (by omega)
    rw [Int.neg_tdiv] at hn
    omega
  calc c * b ≤ a.tdiv b * b := Int.mul_le_mul_of_nonneg_right h (by omega)
    _ = b * a.tdiv b := Int.mul_comm ..
    _ ≤ a := Int.mul_tdiv_self_le hpos

theorem ratio_eq_tdiv_add (s d : ℤ) (hd : 0 < d) :
    (s : ℚ) / d = (s.tdiv d : ℚ) + (s.tmod d : ℚ) / d := by
  have hdq : (0 : ℚ) < d := by exact_mod_cast hd
  have hdecomp : d * s.tdiv d + s.tmod d = s := Int.mul_tdiv_add_tmod s d
  have hc : (s : ℚ) = d * (s.tdiv d : ℚ) + (s.tmod d : ℚ) := by exact_mod_cast hdecomp.symm
  rw [hc]
  field_simp

theorem trunc_of_tmod_neg (s d : ℤ) (hd : 0 < d) (hneg : s.tmod d < 0) (y : ℚ)
    (hnear : |y - s / d| < 1 / d) : trunc y = s.tdiv d := by
  have hdq : (0 : ℚ) < d := by exact_mod_cast hd
  obtain ⟨hlo, hhi⟩ := abs_lt.mp hnear
  rw [ratio_eq_tdiv_add s d hd] at hlo hhi
  have hq : s.tdiv d ≤ 0 := by
    by_contra hc
    have hs : 0 ≤ s := by
      have hle:=(le_tdiv_iff hd (by omega : 0 < s.tdiv d)).mp (Int.le_refl _)
      exact (Int.mul_nonneg (by omega) (by omega)).trans hle
    have hh:=Int.tmod_nonneg d hs
    omega
  have hr1 : ((s.tmod d : ℤ) : ℚ) + 1 ≤ 0 := by exact_mod_cast hneg
  have hr2 : (1 : ℚ) - d ≤ (s.tmod d : ℤ) := by
    have hh:=Int.lt_tmod_of_pos s hd
    exact_mod_cast (by omega : 1 - d ≤ s.tmod d)
  have hf1 : (s.tmod d : ℚ) / d ≤ -(1 / d) := by
    rw [← neg_div, div_le_div_iff_of_pos_right hdq]
    linarith
  have hf2 : (1 : ℚ) / d - 1 ≤ (s.tmod d : ℚ) / d := by
    rw [le_div_iff₀ hdq, sub_mul, div_mul_cancel₀ _ (ne_of_gt hdq)]
    linarith
  exact trunc_of_between_nonpos y _ hq (by linarith) (by linarith)

theorem trunc_neg (x : ℚ) : trunc (-x) = -trunc x := by
  unfold trunc
  rcases lt_trichotomy x 0 with h | h | h
  · rw [if_pos (by linarith), if_neg (by linarith), Int.floor_neg]
  · simp [h]
  · rw [if_neg (by linarith), if_pos (by linarith), Int.ceil_neg]

/-- A value within less than `1 / d` of `s / d`, and equal to it where `d`
divides `s`, is cast to the integer quotient. -/
theorem trunc_of_near (s d : ℤ) (hd : 0 < d) (y : ℚ) (hnear : |y - s / d| < 1 / d)
    (hexact : d ∣ s → y = s / d) : trunc y = s.tdiv d := by
  by_cases hdvd : d ∣ s
  · obtain ⟨q, rfl⟩ := hdvd
    have hdq : (0 : ℚ) < d := by exact_mod_cast hd
    have hy : y = (q : ℚ) := by
      rw [hexact ⟨q, rfl⟩]
      push_cast
      field_simp
    rw [hy, trunc_intCast, Int.mul_tdiv_cancel_left _ (by omega)]
  · have hrne : s.tmod d ≠ 0 := fun h => hdvd (Int.dvd_of_tmod_eq_zero h)
    rcases Int.lt_or_gt_of_ne hrne with hneg | hpos
    · exact trunc_of_tmod_neg s d hd hneg y hnear
    · -- the other sign is its mirror image
      have hflip : |(-y) - ((-s : ℤ) : ℚ) / d| < 1 / d := by
        rw [Int.cast_neg, neg_div, neg_sub_neg, abs_sub_comm]
        exact hnear
      have hn:=trunc_of_tmod_neg (-s) d hd (by rw [Int.neg_tmod]; omega) (-y) hflip
      rw [trunc_neg, Int.neg_tdiv] at hn
      omega

/-- The cast to `int` of an integer quotient computed in `double` and returned
as a `float` is the integer quotient, for divisors and quotients of modest size. -/
theorem trunc_float_div (s d : ℤ) (hd : 0 < d) (hd1 : d ≤ 1024) (hs : |s| < 1024 * d) :
    trunc (roundBits 24 (roundBits 53 ((s : ℚ) / d))) = s.tdiv d := by
  have hdq : (0 : ℚ) < d := by exact_mod_cast hd
  have hx : |(s : ℚ) / d| < 1024 := by
    rw [abs_div, abs_of_pos hdq, div_lt_iff₀ hdq]
    exact_mod_cast hs
  have h1:=roundBits_error_le 53 ((s : ℚ) / d) 10 (by norm_num; exact hx)
  norm_num at h1
  have hy : |roundBits 53 ((s : ℚ) / d)| < 2048 := by
    have htri:=abs_sub_abs_le_abs_sub (roundBits 53 ((s : ℚ) / d)) ((s : ℚ) / d)
    linarith
  have h2:=roundBits_error_le 24 (roundBits 53 ((s : ℚ) / d)) 11 (by norm_num; exact hy)
  norm_num at h2
  have hinv : (1 : ℚ) / 1024 ≤ 1 / d := one_div_le_one_div_of_le hdq (by exact_mod_cast hd1)
  refine trunc_of_near s d hd _ ?_ ?_
  · have htri:=abs_sub_le (roundBits 24 (roundBits 53 ((s : ℚ) / d)))
      (roundBits 53 ((s : ℚ) / d)) ((s : ℚ) / d)
    linarith
  · rintro ⟨q, rfl⟩
    have hq : (((d * q : ℤ) : ℚ)) / d = (q : ℚ) := by
      push_cast
      field_simp
    rw [hq] at hx ⊢
    have hqi : |q| < 1024 := by exact_mod_cast hx
    rw [roundBits_intCast 53 q (by omega), roundBits_intCast 24 q (by omega)]

end BoardServices.Lib.BinaryRounding
