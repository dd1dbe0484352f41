import Mathlib.Data.Fin.Basic
import Mathlib.Logic.Function.Basic
import Mathlib.Algebra.Order.Ring.Int
import Mathlib.Tactic.Ring

/-!
# A ring of slots that skips one sample

A ring of `n` slots is filled in order. Its index runs through `0 .. n`, and the
push that finds it at `n` stores nothing and sends it back to `0`, so that the
period of the ring is `n + 1` pushes and one sample of each period is dropped.
The contents after any number of pushes have a closed form (`pushed_value`).
-/

namespace BoardServices.Lib

structure SkipRing (n : ℕ) (α : Type*) where
  i : Fin (n + 1)
  value : Fin n → α

namespace SkipRing
variable {n : ℕ} {α : Type*}

def empty (n : ℕ) (init : α) : SkipRing n α := ⟨0, fun _ => init⟩

def push (a : SkipRing n α) (x : α) : SkipRing n α :=
  if h : a.i.val < n then
    ⟨⟨a.i.val + 1, by omega⟩, Function.update a.value ⟨a.i.val, h⟩ x⟩
  else ⟨0, a.value⟩

def pushed (n : ℕ) (init : α) (x : ℕ → α) : ℕ → SkipRing n α
  | 0 => empty n init
  | t + 1 => (pushed n init x t).push (x t)

/-- The latest push before push `t` that addressed position `s` of the period;
negative if there was none. -/
def lastPush (n t s : ℕ) : ℤ := (t : ℤ) - 1 - ((t : ℤ) - 1 - s) % (n + 1)

def sampleAt (init : α) (x : ℕ → α) (k : ℤ) : α := if k < 0 then init else x k.toNat

theorem emod_succ (a m : ℤ) (hm : 0 < m) (h : (a + 1) % m ≠ 0) : (a + 1) % m = a % m + 1 := by
  have hdiv:=Int.mul_ediv_add_emod a m
  have h0:=Int.emod_nonneg a (show m ≠ 0 by omega)
  have h1:=Int.emod_lt_of_pos a hm
  have hsplit : a + 1 = (a % m + 1) + m * (a / m) := by omega
  rw [hsplit, Int.add_mul_emod_self_left] at h ⊢
  by_cases hlt : a % m + 1 < m
  · exact Int.emod_eq_of_lt (by omega) hlt
  · have heq : a % m + 1 = m := by omega
    rw [heq, Int.emod_self] at h
    exact absurd rfl h

theorem pushed_index (init : α) (x : ℕ → α) (t : ℕ) :
    (pushed n init x t).i.val = t % (n + 1) := by
  induction t with
  | zero => simp [pushed, empty]
  | succ t ih =>
    rw [pushed, push]
    have hm:=Nat.mod_lt t (Nat.succ_pos n)
    split
    · rename_i h
      have hlt : t % (n + 1) + 1 < n + 1 := by omega
      change (pushed n init x t).i.val + 1 = (t + 1) % (n + 1)
      rw [ih, Nat.add_mod]
      by_cases hn : n = 0
      · omega
      · rw [Nat.mod_eq_of_lt (show 1 < n + 1 by omega), Nat.mod_eq_of_lt hlt]
    · rename_i h
      have heq : t % (n + 1) = n := by omega
      change 0 = (t + 1) % (n + 1)
      rw [Nat.add_mod, heq]
      by_cases hn : n = 0
      · subst hn; simp
      · rw [Nat.mod_eq_of_lt (show 1 < n + 1 by omega), Nat.mod_self]

theorem addressed_iff (n t s : ℕ) (hs : s < n + 1) :
    t % (n + 1) = s ↔ ((t : ℤ) - s) % (n + 1) = 0 := by
  have hs' : (s : ℤ) % ((n : ℤ) + 1) = s := Int.emod_eq_of_lt (by omega) (by omega)
  have hcast : ((t % (n + 1) : ℕ) : ℤ) = (t : ℤ) % ((n : ℤ) + 1) := by push_cast; rfl
  rw [← Int.emod_eq_emod_iff_emod_sub_eq_zero, hs', ← hcast]
  omega

theorem lastPush_succ_addressed (n t s : ℕ) (h : ((t : ℤ) - s) % (n + 1) = 0) :
    lastPush n (t + 1) s = t := by
  unfold lastPush
  push_cast
  have he : (t : ℤ) + 1 - 1 - s = t - s := by ring
  rw [he, h]
  ring

theorem lastPush_succ_other (n t s : ℕ) (h : ((t : ℤ) - s) % (n + 1) ≠ 0) :
    lastPush n (t + 1) s = lastPush n t s := by
  unfold lastPush
  push_cast
  have he : (t : ℤ) + 1 - 1 - s = ((t : ℤ) - 1 - s) + 1 := by ring
  have ht : (t : ℤ) - s = ((t : ℤ) - 1 - s) + 1 := by ring
  rw [ht] at h
  rw [he, emod_succ _ _ (by omega) h]
  ring

theorem lastPush_window (n t s : ℕ) :
    (t : ℤ) - (n + 1) ≤ lastPush n t s ∧ lastPush n t s < t := by
  have h0:=Int.emod_nonneg ((t : ℤ) - 1 - s) (show ((n : ℤ) + 1) ≠ 0 by omega)
  have h1:=Int.emod_lt_of_pos ((t : ℤ) - 1 - s) (show 0 < (n : ℤ) + 1 by omega)
  unfold lastPush
  omega

/-- Contents of the ring: slot `s` holds the sample of the latest push that
addressed it. -/
theorem pushed_value (init : α) (x : ℕ → α) (t : ℕ) (s : Fin n) :
    (pushed n init x t).value s = sampleAt init x (lastPush n t s.val) := by
  induction t with
  | zero =>
    have hw:=lastPush_window n 0 s.val
    rw [sampleAt, if_pos (by omega)]
    rfl
  | succ t ih =>
    have hi:=pushed_index (n := n) init x t
    have haddr:=addressed_iff n t s.val (by omega)
    rw [pushed, push]
    by_cases hs : t % (n + 1) = s.val
    · have hlt : (pushed n init x t).i.val < n := by omega
      have hslot : (⟨(pushed n init x t).i.val, hlt⟩ : Fin n) = s := Fin.ext (hi.trans hs)
      rw [dif_pos hlt, lastPush_succ_addressed n t s.val (haddr.mp hs)]
      simp [hslot, sampleAt]
    · have hkeep : ((t : ℤ) - s.val) % (n + 1) ≠ 0 := fun h => hs (haddr.mpr h)
      rw [lastPush_succ_other n t s.val hkeep]
      split
      · rename_i hlt
        have hne : s ≠ ⟨(pushed n init x t).i.val, hlt⟩ := by
          intro h
          have hv : s.val = (pushed n init x t).i.val := congrArg Fin.val h
          omega
        simp only [Function.update_of_ne hne]
        exact ih
      · exact ih

theorem pushed_value_of_window (init : α) (x : ℕ → α) (t : ℕ) {P : α → Prop} (h0 : P init)
    (hx : ∀ j, j < t → t ≤ j + (n + 1) → P (x j)) (s : Fin n) :
    P ((pushed n init x t).value s) := by
  have hw:=lastPush_window n t s.val
  rw [pushed_value, sampleAt]
  split
  · exact h0
  · exact hx _ (by omega) (by omega)

end SkipRing

end BoardServices.Lib
