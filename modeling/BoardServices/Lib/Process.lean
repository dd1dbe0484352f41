import Mathlib

/-!
# Processes that end early

A piece of a process acts on a state and yields a value, or it ends the process.
Pre- and postconditions are the triples of the standard library; this file gives
what such a triple says about a run, the triple of an invariant that is kept however
the piece ends, and what a run of a composed piece consists of.
-/

namespace BoardServices.Lib.Process
open Std.Do

variable {ε σ α : Type}

theorem run_of_triple {P : σ → Prop} {Q : α → σ → Prop} {E : ε → σ → Prop}
    {m : ExceptT ε (StateM σ) α}
    (h : ⦃fun s => ⌜P s⌝⦄ m ⦃post⟨fun a s => ⌜Q a s⌝, fun e s => ⌜E e s⌝⟩⦄) {s : σ} (hs : P s) :
    match (m s).1 with
    | .ok a => Q a (m s).2
    | .error e => E e (m s).2 := by
  have hrun:=h s hs
  simp only [WP.wp, PredTrans.apply_pushExcept, PredTrans.apply_pushArg] at hrun
  generalize hr : StateT.run (ExceptT.run m) s = r at hrun
  rw [show m s = r from hr]
  obtain ⟨res, t⟩ := r
  cases res with
  | ok a => exact hrun
  | error e => exact hrun

/-- The piece keeps an invariant, however it ends. -/
abbrev Keeps (I : σ → Prop) (m : ExceptT ε (StateM σ) α) : Prop :=
  ⦃fun s => ⌜I s⌝⦄ m ⦃post⟨fun _ s => ⌜I s⌝, fun _ s => ⌜I s⌝⟩⦄

theorem Keeps.run {I : σ → Prop} {m : ExceptT ε (StateM σ) α} (h : Keeps I m) {s : σ} (hs : I s) :
    I (m s).2 := by
  have hrun:=run_of_triple h hs
  split at hrun
  · exact hrun
  · exact hrun

/-! ### Runs of composed pieces -/

section Composed
variable {β : Type} {m : ExceptT ε (StateM σ) α} {f : α → ExceptT ε (StateM σ) β} {s t : σ}

theorem bind_ok {a : α} (h : m s = (.ok a, t)) : (m >>= f) s = f a t := by
  change ExceptT.bindCont f (m s).1 (m s).2 = f a t
  rw [h]
  rfl

theorem bind_error {e : ε} (h : m s = (.error e, t)) : (m >>= f) s = (.error e, t) := by
  change ExceptT.bindCont f (m s).1 (m s).2 = (.error e, t)
  rw [h]
  rfl

theorem get_run (s : σ) : (get : ExceptT ε (StateM σ) σ) s = (.ok s, s) := rfl

theorem bind_eq_ok {b : β} (h : (m >>= f) s = (.ok b, t)) :
    ∃ a r, m s = (.ok a, r) ∧ f a r = (.ok b, t) := by
  generalize hr : m s = x
  obtain ⟨x, r⟩ := x
  cases x with
  | ok a => exact ⟨a, r, rfl, (bind_ok hr).symm.trans h⟩
  | error e => cases (bind_error hr).symm.trans h

/-- A piece that is run in one case only. -/
theorem when_eq_ok {c : Prop} [Decidable c] {m : ExceptT ε (StateM σ) Unit}
    {f : Unit → ExceptT ε (StateM σ) β} {b : β}
    (h : (if c then m >>= f else f ()) s = (.ok b, t)) :
    ∃ r, ((c ∧ m s = (.ok (), r)) ∨ (¬ c ∧ r = s)) ∧ f () r = (.ok b, t) := by
  by_cases hc : c
  · rw [if_pos hc] at h
    obtain ⟨_, r, hm, hf⟩ := bind_eq_ok h
    exact ⟨r, Or.inl ⟨hc, hm⟩, hf⟩
  · rw [if_neg hc] at h
    exact ⟨s, Or.inr ⟨hc, rfl⟩, h⟩

/-- A choice after which both branches go on alike. -/
theorem branch_eq_ok {c : Prop} [Decidable c] {m n : ExceptT ε (StateM σ) α}
    {f : α → ExceptT ε (StateM σ) β} {b : β}
    (h : (if c then m >>= f else n >>= f) s = (.ok b, t)) :
    ∃ a r, (if c then m else n) s = (.ok a, r) ∧ f a r = (.ok b, t) := by
  by_cases hc : c
  · rw [if_pos hc] at h ⊢
    exact bind_eq_ok h
  · rw [if_neg hc] at h ⊢
    exact bind_eq_ok h

end Composed

end BoardServices.Lib.Process
