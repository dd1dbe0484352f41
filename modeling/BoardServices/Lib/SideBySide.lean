import BoardServices.Lib.Process

/-!
# Two processes side by side

The same program may run in two settings whose states differ. Pieces that agree
end alike from related states: with the same value and states that are related
again, or for the same reason. Agreement composes along the program, so each
setting only owes it for the pieces it implements itself. A part of the state is
reached through a lens.
-/

namespace BoardServices.Lib.Process

variable {ε σ τ ρ α β : Type}

/-- How two runs have ended alike. -/
def EndAlike (Q : α → σ → τ → Prop) (E : ε → σ → τ → Prop) :
    Except ε α × σ → Except ε α × τ → Prop
  | (.ok a, s), (.ok b, t) => a = b ∧ Q a s t
  | (.error e, s), (.error f, t) => e = f ∧ E e s t
  | _, _ => False

def Agrees (P : σ → τ → Prop) (m : ExceptT ε (StateM σ) α) (n : ExceptT ε (StateM τ) α)
    (Q : α → σ → τ → Prop) (E : ε → σ → τ → Prop) : Prop :=
  ∀ s t, P s t → EndAlike Q E (m s) (n t)

section Rules
variable {P P' : σ → τ → Prop} {Q Q' : α → σ → τ → Prop} {R : β → σ → τ → Prop}
  {E E' : ε → σ → τ → Prop} {m : ExceptT ε (StateM σ) α} {n : ExceptT ε (StateM τ) α}

theorem EndAlike.cases {x : Except ε α × σ} {y : Except ε α × τ} (h : EndAlike Q E x y) :
    (∃ a s t, x = (.ok a, s) ∧ y = (.ok a, t) ∧ Q a s t) ∨
      ∃ e s t, x = (.error e, s) ∧ y = (.error e, t) ∧ E e s t := by
  obtain ⟨x, s⟩ := x
  obtain ⟨y, t⟩ := y
  cases x with
  | ok a =>
    cases y with
    | ok b => exact Or.inl ⟨a, s, t, rfl, by rw [h.1], h.2⟩
    | error f => exact absurd h id
  | error e =>
    cases y with
    | ok b => exact absurd h id
    | error f => exact Or.inr ⟨e, s, t, rfl, by rw [h.1], h.2⟩

theorem EndAlike.weaken {x : Except ε α × σ} {y : Except ε α × τ} (h : EndAlike Q E x y)
    (hq : ∀ a s t, Q a s t → Q' a s t) (he : ∀ e s t, E e s t → E' e s t) :
    EndAlike Q' E' x y := by
  rcases h.cases with ⟨a, s, t, rfl, rfl, hdone⟩ | ⟨e, s, t, rfl, rfl, hdone⟩
  · exact ⟨rfl, hq a s t hdone⟩
  · exact ⟨rfl, he e s t hdone⟩

theorem Agrees.weaken (h : Agrees P m n Q E) (hp : ∀ s t, P' s t → P s t)
    (hq : ∀ a s t, Q a s t → Q' a s t) (he : ∀ e s t, E e s t → E' e s t) :
    Agrees P' m n Q' E' := by
  intro s t hs
  exact (h s t (hp s t hs)).weaken hq he

theorem Agrees.pure {a : α} (h : ∀ s t, P s t → Q a s t) :
    Agrees P (pure a : ExceptT ε (StateM σ) α) (pure a : ExceptT ε (StateM τ) α) Q E := by
  intro s t hs
  exact ⟨rfl, h s t hs⟩

theorem Agrees.throw {e : ε} (h : ∀ s t, P s t → E e s t) :
    Agrees P (throw e : ExceptT ε (StateM σ) α) (throw e : ExceptT ε (StateM τ) α) Q E := by
  intro s t hs
  exact ⟨rfl, h s t hs⟩

/-- The rule of composition. -/
theorem Agrees.bind {f : α → ExceptT ε (StateM σ) β} {g : α → ExceptT ε (StateM τ) β}
    (h : Agrees P m n Q E) (hf : ∀ a, Agrees (Q a) (f a) (g a) R E) :
    Agrees P (m >>= f) (n >>= g) R E := by
  intro s t hs
  rcases (h s t hs).cases with ⟨a, s', t', hm, hn, hq⟩ | ⟨e, s', t', hm, hn, he⟩
  · rw [bind_ok hm, bind_ok hn]
    exact hf a s' t' hq
  · rw [bind_error hm, bind_error hn]
    exact ⟨rfl, he⟩

theorem Agrees.ite {c : Prop} [Decidable c] {m' : ExceptT ε (StateM σ) α}
    {n' : ExceptT ε (StateM τ) α} (ht : c → Agrees P m n Q E) (hf : ¬ c → Agrees P m' n' Q E) :
    Agrees P (if c then m else m') (if c then n else n') Q E := by
  by_cases hc : c
  · rw [if_pos hc, if_pos hc]
    exact ht hc
  · rw [if_neg hc, if_neg hc]
    exact hf hc

end Rules

/-! ### Parts of a state -/

structure Lens (σ ρ : Type) where
  get : σ → ρ
  put : ρ → σ → σ

/-- A piece that acts on a part of the state. -/
def within (L : Lens σ ρ) (m : ExceptT ε (StateM ρ) α) : ExceptT ε (StateM σ) α :=
  fun s => ((m (L.get s)).1, L.put (m (L.get s)).2 s)

section Within
variable {L : Lens σ ρ} {m : ExceptT ε (StateM ρ) α} {s : σ} {r : ρ}

theorem within_ok {a : α} (h : m (L.get s) = (.ok a, r)) :
    within L m s = (.ok a, L.put r s) := by
  unfold within
  rw [h]

theorem within_error {e : ε} (h : m (L.get s) = (.error e, r)) :
    within L m s = (.error e, L.put r s) := by
  unfold within
  rw [h]

end Within

end BoardServices.Lib.Process
