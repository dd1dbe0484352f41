import Mathlib.Algebra.BigOperators.Intervals
import BoardServices.Lib.Machine
import BoardServices.PanelLed.SleekFilter

/-!
# sleek_filter and the moving average of its last six samples

Consecutive calls with the samples `x 1, x 2, ..`. Every seventh call finds the
index at the end of the slots and stores nothing, so that after call `n` the
slots hold the last seven samples except the one of call `7 * (n / 7)`. The
moving average of the last six leaves out the one of call `n - 6` instead.
-/

namespace BoardServices.PanelLed
open Lib Lib.BinaryRounding

def filterAfter (x : ℕ → ℤ) (n : ℕ) : Filter :=
  Machine.stateAt (fun f raw => (filteredDegrees f raw).2) Filter.initial (fun c => x (c + 1)) n

def temperatureOfCall (x : ℕ → ℤ) (n : ℕ) : ℤ := (filteredDegrees (filterAfter x (n - 1)) (x n)).1

def windowSum (x : ℕ → ℤ) (n : ℕ) : ℤ := ∑ j ∈ Finset.range 6, x (n - j)

theorem filterAfter_refines (x : ℕ → ℤ) (hx : ∀ n, Small (x n)) (n : ℕ) :
    Refines (filterAfter x n) (SkipRing.pushed 6 0 (fun c => x (c + 1)) n) := by
  induction n with
  | zero => exact initial_refines
  | succ n ih => exact (filteredDegrees_refines _ _ _ ih (hx (n + 1))).1

theorem temperatureOfCall_eq_mean (x : ℕ → ℤ) (hx : ∀ n, Small (x n)) (n : ℕ) :
    temperatureOfCall x (n + 1) = mean (SkipRing.pushed 6 0 (fun c => x (c + 1)) (n + 1)) :=
  (filteredDegrees_refines _ _ _ (filterAfter_refines x hx n) (hx (n + 1))).2

theorem slot_call (x : ℕ → ℤ) (n s : ℕ) (hn : 6 ≤ n) (hs : s < 6) :
    SkipRing.sampleAt 0 (fun c => x (c + 1)) (SkipRing.lastPush 6 n s) =
      x (n - (n + 6 - s) % 7) := by
  have hl : SkipRing.lastPush 6 n s = ((n - (n + 6 - s) % 7 - 1 : ℕ) : ℤ) := by
    unfold SkipRing.lastPush
    push_cast
    omega
  rw [hl, SkipRing.sampleAt, if_neg (by omega), Int.toNat_natCast]
  congr 1
  omega

theorem sum_reflect (x : ℕ → ℤ) (n : ℕ) (hn : 6 ≤ n) :
    ∑ s ∈ Finset.range 7, x (n - (n + 6 - s) % 7) = ∑ j ∈ Finset.range 7, x (n - j) := by
  refine Finset.sum_nbij' (fun s => (n + 6 - s) % 7) (fun j => (n + 6 - j) % 7) ?_ ?_ ?_ ?_ ?_
  · intro s _
    exact Finset.mem_range.mpr (Nat.mod_lt _ (by norm_num))
  · intro j _
    exact Finset.mem_range.mpr (Nat.mod_lt _ (by norm_num))
  · intro s hs
    have hlt:=Finset.mem_range.mp hs
    omega
  · intro j hj
    have hlt:=Finset.mem_range.mp hj
    omega
  · intro s _
    rfl

theorem slots_sum (x : ℕ → ℤ) (n : ℕ) (hn : 6 ≤ n) :
    ∑ s, (SkipRing.pushed 6 0 (fun c => x (c + 1)) n).value s =
      windowSum x n + (x (n - 6) - x (7 * (n / 7))) := by
  have hslots : ∑ s, (SkipRing.pushed 6 0 (fun c => x (c + 1)) n).value s =
      ∑ s ∈ Finset.range 6, x (n - (n + 6 - s) % 7) := by
    rw [Finset.sum_range]
    refine Finset.sum_congr rfl ?_
    intro s _
    rw [SkipRing.pushed_value]
    exact slot_call x n s.val hn s.isLt
  have hreflect:=sum_reflect x n hn
  rw [Finset.sum_range_succ, Finset.sum_range_succ _ 6] at hreflect
  have hdropped : n - (n + 6 - 6) % 7 = 7 * (n / 7) := by omega
  rw [hdropped] at hreflect
  rw [hslots, windowSum]
  linarith

/-- Every call: the truncated sixth of the window with the dropped sample
replaced by the one the window has lost. -/
theorem temperatureOfCall_eq (x : ℕ → ℤ) (hx : ∀ n, Small (x n)) (n : ℕ) (hn : 6 ≤ n) :
    temperatureOfCall x n = (windowSum x n + (x (n - 6) - x (7 * (n / 7)))).tdiv 6 := by
  obtain ⟨m, rfl⟩ : ∃ m, n = m + 1 := ⟨n - 1, by omega⟩
  rw [temperatureOfCall_eq_mean x hx m, mean, slots_sum x (m + 1) hn]
  rfl

def singleHot (d c : ℕ) : ℤ := if c = d then 600 else 0

theorem singleHot_small (d c : ℕ) : Small (singleHot d c) := by
  unfold Small singleHot
  split <;> omega

theorem windowSum_singleHot (n : ℕ) (hr : n % 7 ≠ 6) (hn : 6 ≤ n) :
    windowSum (singleHot (7 * (n / 7))) n = 600 := by
  unfold windowSum
  have hj : n % 7 ∈ Finset.range 6 := Finset.mem_range.mpr (by omega)
  rw [Finset.sum_eq_single_of_mem (n % 7) hj]
  · exact if_pos (by omega)
  · intro j hjm hne
    have hlt:=Finset.mem_range.mp hjm
    exact if_neg (by omega)

/-- Call `n` yields the moving average of the last six samples exactly if the
sample the filter dropped last, that of call `7 * (n / 7)`, and the one that
left the window, that of call `n - 6`, give the same truncated average. For all
sequences of samples this is so exactly at the calls `n` with `n % 7 = 6`. -/
theorem sleek_filter_moving_average_iff (n : ℕ) (hn : 6 ≤ n) :
    (∀ x : ℕ → ℤ, (∀ c, Small (x c)) →
      (temperatureOfCall x n = (windowSum x n).tdiv 6 ↔
        (windowSum x n + (x (n - 6) - x (7 * (n / 7)))).tdiv 6 = (windowSum x n).tdiv 6)) ∧
    ((∀ x : ℕ → ℤ, (∀ c, Small (x c)) → temperatureOfCall x n = (windowSum x n).tdiv 6) ↔
      n % 7 = 6) := by
  refine ⟨fun x hx => by rw [temperatureOfCall_eq x hx n hn], ?_, ?_⟩
  · intro hall
    by_contra hr
    have hsmall:=singleHot_small (7 * (n / 7))
    have h:=hall _ hsmall
    have hleft : singleHot (7 * (n / 7)) (n - 6) = 0 := if_neg (by omega)
    have hdrop : singleHot (7 * (n / 7)) (7 * (n / 7)) = 600 := if_pos rfl
    rw [temperatureOfCall_eq _ hsmall n hn, windowSum_singleHot n hr hn, hleft, hdrop] at h
    exact absurd h (by decide)
  · intro hr x hx
    have hcall : 7 * (n / 7) = n - 6 := by omega
    rw [temperatureOfCall_eq x hx n hn, hcall, sub_self, add_zero]

theorem sleek_filter_moving_average_iff_thirteen :
    temperatureOfCall (fun _ => 50) 13 = 50 :=
  ((sleek_filter_moving_average_iff 13 (by decide)).2.mpr (by decide) (fun _ => 50)
    fun _ => by unfold Small; omega).trans (by decide)

/-- The seventh call drops its sample: after six samples of 0 a sample of 600
leaves the temperature at 0, where the average of the last six is 100. -/
theorem sleek_filter_drops_seventh :
    ¬ ∀ x : ℕ → ℤ, (∀ c, Small (x c)) → ∀ n, 6 ≤ n →
      temperatureOfCall x n = (windowSum x n).tdiv 6 := by
  intro h
  have h7:=h _ (singleHot_small 7) 7 (by norm_num)
  rw [temperatureOfCall_eq _ (singleHot_small 7) 7 (by norm_num)] at h7
  exact absurd h7 (by decide)

end BoardServices.PanelLed
