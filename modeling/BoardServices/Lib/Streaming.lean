import Mathlib.Data.List.Infix

/-!
# Conversions done block by block

A converter sees its input in blocks and carries a state from one to the next.
It is determined by what it makes of the whole input; that it may be run block
by block is a law of the structure. The empty block is the end of the input,
where the state is flushed.
-/

namespace BoardServices.Lib

structure Streaming (σ α β : Type*) where
  whole : σ → List α → List β
  block : σ → List α → List β × σ
  whole_append : ∀ s xs rest, xs ≠ [] →
    whole s (xs ++ rest) = (block s xs).1 ++ whole (block s xs).2 rest
  whole_nil : ∀ s, whole s [] = (block s []).1 ++ whole (block s []).2 []

namespace Streaming
variable {σ α β : Type*} (C : Streaming σ α β)

/-- From `s₀` the input `xs` has been taken, `out` has been given and the state
is `s`. -/
def Covers (s₀ : σ) (xs : List α) (out : List β) (s : σ) : Prop :=
  ∀ rest, C.whole s₀ (xs ++ rest) = out ++ C.whole s rest

/-- The same at the end of the input. -/
def Ends (s₀ : σ) (xs : List α) (out : List β) (s : σ) : Prop :=
  C.whole s₀ xs = out ++ C.whole s []

variable {C} {s₀ s : σ} {xs ys : List α} {out : List β}

theorem covers_start : C.Covers s [] [] s := fun _ => rfl

theorem Covers.ends (h : C.Covers s₀ xs out s) : C.Ends s₀ xs out s := by
  have hx:=h []
  rwa [List.append_nil] at hx

theorem Covers.block (h : C.Covers s₀ xs out s) (hy : ys ≠ []) :
    C.Covers s₀ (xs ++ ys) (out ++ (C.block s ys).1) (C.block s ys).2 := by
  intro rest
  calc C.whole s₀ (xs ++ ys ++ rest) = C.whole s₀ (xs ++ (ys ++ rest)) := by rw [List.append_assoc]
    _ = out ++ C.whole s (ys ++ rest) := h (ys ++ rest)
    _ = out ++ ((C.block s ys).1 ++ C.whole (C.block s ys).2 rest) := by
      rw [C.whole_append s ys rest hy]
    _ = out ++ (C.block s ys).1 ++ C.whole (C.block s ys).2 rest := by rw [List.append_assoc]

theorem Ends.flush (h : C.Ends s₀ xs out s) :
    C.Ends s₀ xs (out ++ (C.block s []).1) (C.block s []).2 := by
  have hw:=C.whole_nil s
  unfold Ends at h ⊢
  rw [h, hw, List.append_assoc]

theorem Ends.out_le (h : C.Ends s₀ xs out s) : out <+: C.whole s₀ xs := ⟨_, h.symm⟩

end Streaming

end BoardServices.Lib
