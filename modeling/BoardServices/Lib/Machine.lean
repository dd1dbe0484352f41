import Mathlib.Data.List.Basic
import Mathlib.Data.List.Infix
import Mathlib.Tactic.Ring

/-!
# Runs of machines

Two kinds of machine carry the programs of this development. A total machine
`step : σ → ι → σ` is driven by an infinite sequence of inputs (a control loop
and what its environment answers in each iteration). A guarded machine
`step : σ → ι → Option σ` is driven by a schedule of labels, a label being
refused where it is not enabled (the parties of a connection). Both get an
invariant rule, so that a safety result is a step lemma and nothing else.
-/

namespace BoardServices.Lib.Machine

/-! ### Total machines -/

section Total
variable {σ ι α π : Type*} (step : σ → ι → σ)

def stateAt (s : σ) (inp : ℕ → ι) : ℕ → σ
  | 0 => s
  | n + 1 => step (stateAt s inp n) (inp n)

theorem stateAt_succ (s : σ) (inp : ℕ → ι) (n : ℕ) :
    stateAt step s inp (n + 1) = step (stateAt step s inp n) (inp n) := rfl

theorem stateAt_invariant {step : σ → ι → σ} {I : σ → Prop} {s : σ} {inp : ℕ → ι}
    (hs : I s) (hstep : ∀ n t, I t → I (step t (inp n))) (n : ℕ) :
    I (stateAt step s inp n) := by
  induction n with
  | zero => exact hs
  | succ n ih => exact hstep n _ ih

theorem stateAt_settled {step : σ → ι → σ} {f : σ → π} {s : σ} {inp : ℕ → ι} {m k : ℕ}
    (h : ∀ n, m ≤ n → n < k → f (stateAt step s inp (n + 1)) = f (stateAt step s inp n))
    {n : ℕ} (hn : m ≤ n) (hk : n ≤ k) : f (stateAt step s inp n) = f (stateAt step s inp m) := by
  induction n, hn using Nat.le_induction with
  | base => rfl
  | succ n hn ih => rw [h n hn (by omega), ih (by omega)]

def passes : σ → List ι → List (σ × ι)
  | _, [] => []
  | s, i :: is => (s, i) :: passes (step s i) is

def observed (keep : ι → Bool) (out : σ → α) : σ → List ι → List α
  | _, [] => []
  | s, i :: is =>
    if keep i then out (step s i) :: observed keep out (step s i) is
    else observed keep out (step s i) is

/-- Deletion rule. Let kept inputs act on the projection `f` alone and be
observed through it, in the states an invariant admits. If the other inputs of
a run leave `f` as it was, then the observations are those of the run with the
other inputs deleted. -/
theorem observed_filter {step : σ → ι → σ} {keep : ι → Bool} {out : σ → α} {f : σ → π}
    {I : σ → Prop} (hI : ∀ s i, I s → I (step s i))
    (hf : ∀ s t i, I s → I t → keep i = true → f s = f t →
      f (step s i) = f (step t i) ∧ out (step s i) = out (step t i))
    (is : List ι) (s t : σ) (hs : I s) (ht : I t) (hst : f s = f t)
    (hskip : ∀ p ∈ passes step s is, keep p.2 = false → f (step p.1 p.2) = f p.1) :
    observed step keep out s is = observed step keep out t (is.filter keep) := by
  induction is generalizing s t with
  | nil => rfl
  | cons i is ih =>
    have htail : ∀ p ∈ passes step (step s i) is, keep p.2 = false → f (step p.1 p.2) = f p.1 :=
      fun p hp => hskip p (List.mem_cons_of_mem _ hp)
    cases hk : keep i with
    | true =>
      obtain ⟨hnext, hout⟩ := hf s t i hs ht hk hst
      simp only [observed, hk, if_true, List.filter_cons_of_pos hk]
      rw [hout, ih (step s i) (step t i) (hI s i hs) (hI t i ht) hnext htail]
    | false =>
      have hkeep : f (step s i) = f t := (hskip (s, i) (List.mem_cons_self ..) hk).trans hst
      have hdrop : (i :: is).filter keep = is.filter keep := List.filter_cons_of_neg (by simp [hk])
      simp only [observed, hk, Bool.false_eq_true, if_false, hdrop]
      exact ih (step s i) t (hI s i hs) ht hkeep htail

theorem passes_invariant {step : σ → ι → σ} {I : σ → Prop} (hI : ∀ s i, I s → I (step s i))
    (is : List ι) (s : σ) (hs : I s) : ∀ p ∈ passes step s is, I p.1 := by
  induction is generalizing s with
  | nil => simp [passes]
  | cons i is ih =>
    intro p hp
    rcases List.mem_cons.mp hp with rfl | hp
    · exact hs
    · exact ih (step s i) (hI s i hs) p hp

theorem passes_input {step : σ → ι → σ} (is : List ι) (s : σ) :
    ∀ p ∈ passes step s is, p.2 ∈ is := by
  induction is generalizing s with
  | nil => simp [passes]
  | cons i is ih =>
    intro p hp
    rcases List.mem_cons.mp hp with rfl | hp
    · exact List.mem_cons_self ..
    · exact List.mem_cons_of_mem _ (ih (step s i) p hp)

end Total

/-! ### Guarded machines -/

section Guarded
variable {σ ι : Type*}

/-- `Run step s tr t`: from `s` the schedule recorded in `tr` leads to `t`. Each
entry of `tr` is a label together with the state it was taken in. -/
inductive Run (step : σ → ι → Option σ) (s : σ) : List (σ × ι) → σ → Prop
  | start : Run step s [] s
  | next {tr : List (σ × ι)} {t u : σ} {i : ι} :
      Run step s tr t → step t i = some u → Run step s (tr ++ [(t, i)]) u

/-- A run is a run up to each of its labels, which is enabled there. -/
theorem Run.split {step : σ → ι → Option σ} {s t u : σ} {i : ι} {pre post tr : List (σ × ι)}
    (r : Run step s tr t) (htr : tr = pre ++ (u, i) :: post) :
    Run step s pre u ∧ ∃ v, step u i = some v := by
  induction r generalizing post with
  | start => exact absurd htr.symm (List.append_ne_nil_of_right_ne_nil _ (List.cons_ne_nil _ _))
  | next r h ih =>
    rcases List.eq_nil_or_concat post with rfl | ⟨post, p, rfl⟩
    · obtain ⟨rfl, hlast⟩ := List.append_inj' htr rfl
      cases hlast
      exact ⟨r, _, h⟩
    · rw [List.concat_eq_append, ← List.cons_append, ← List.append_assoc] at htr
      exact ih (List.append_inj' htr rfl).1

def Reachable (step : σ → ι → Option σ) (s t : σ) : Prop := ∃ tr, Run step s tr t

theorem Run.invariant {step : σ → ι → Option σ} {I : σ → Prop} {s t : σ} {tr : List (σ × ι)}
    (r : Run step s tr t) (hs : I s) (hstep : ∀ a i b, I a → step a i = some b → I b) : I t := by
  induction r with
  | start => exact hs
  | next _ h ih => exact hstep _ _ _ ih h

theorem Reachable.invariant {step : σ → ι → Option σ} {I : σ → Prop} {s t : σ}
    (r : Reachable step s t) (hs : I s) (hstep : ∀ a i b, I a → step a i = some b → I b) :
    I t := by
  obtain ⟨tr, hr⟩ := r
  exact hr.invariant hs hstep

def follow (step : σ → ι → Option σ) : σ → List ι → Option σ
  | s, [] => some s
  | s, i :: is => (step s i).bind fun t => follow step t is

theorem Run.follow_from {step : σ → ι → Option σ} {s t u : σ} {tr : List (σ × ι)} (is : List ι)
    (r : Run step s tr t) (h : follow step t is = some u) :
    ∃ tr', Run step s tr' u ∧ tr'.map Prod.snd = tr.map Prod.snd ++ is := by
  induction is generalizing t tr with
  | nil =>
    cases h
    exact ⟨tr, r, by simp⟩
  | cons i is ih =>
    obtain ⟨v, hv, hrest⟩ := Option.bind_eq_some_iff.mp h
    obtain ⟨tr', hr, hl⟩ := ih (r.next hv) hrest
    exact ⟨tr', hr, by simpa using hl⟩

/-- As `follow`, with the run that leads there. -/
def traced (step : σ → ι → Option σ) : σ → List ι → Option (List (σ × ι) × σ)
  | s, [] => some ([], s)
  | s, i :: is => (step s i).bind fun t => (traced step t is).map fun r => ((s, i) :: r.1, r.2)

theorem Run.traced_from {step : σ → ι → Option σ} {s t u : σ} {tr tr' : List (σ × ι)} {is : List ι}
    (r : Run step s tr t) (h : traced step t is = some (tr', u)) : Run step s (tr ++ tr') u := by
  induction is generalizing t tr tr' with
  | nil =>
    cases h
    rwa [List.append_nil]
  | cons i is ih =>
    obtain ⟨v, hv, hrest⟩ := Option.bind_eq_some_iff.mp h
    obtain ⟨⟨tr'', u'⟩, hsub, heq⟩ := Option.map_eq_some_iff.mp hrest
    cases heq
    have hnext:=ih (r.next hv) hsub
    rwa [List.append_assoc] at hnext

theorem reachable_of_follow {step : σ → ι → Option σ} {s u : σ} {is : List ι}
    (h : follow step s is = some u) : Reachable step s u := by
  obtain ⟨tr, hr, _⟩ := (Run.start : Run step s [] s).follow_from is h
  exact ⟨tr, hr⟩

end Guarded

end BoardServices.Lib.Machine
