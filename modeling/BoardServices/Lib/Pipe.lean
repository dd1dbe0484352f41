import Mathlib.Data.List.Infix
import Mathlib.Logic.Relation

/-!
# A reliable pipe

What is written into a pipe comes out of it in order, in pieces of any length.
A system that moves data from one end to the other behaves like a pipe if each
of its steps is a write, a read or nothing seen from outside.
-/

namespace BoardServices.Lib

structure Pipe (α : Type*) where
  written : List α
  inside : List α
  read : List α

namespace Pipe
variable {α : Type*}

inductive Step : Pipe α → Pipe α → Prop
  | put (w i r xs : List α) : Step ⟨w, i, r⟩ ⟨w ++ xs, i ++ xs, r⟩
  | take (w i r xs : List α) : Step ⟨w, xs ++ i, r⟩ ⟨w, i, r ++ xs⟩

abbrev Steps : Pipe α → Pipe α → Prop := Relation.ReflTransGen Step

/-- Nothing is lost, duplicated or reordered. -/
def Balanced (p : Pipe α) : Prop := p.written = p.read ++ p.inside

theorem Balanced.step {p q : Pipe α} (h : Balanced p) (hs : Step p q) : Balanced q := by
  cases hs with
  | put w i r xs =>
    have hw : w = r ++ i := h
    change w ++ xs = r ++ (i ++ xs)
    rw [hw, List.append_assoc]
  | take w i r xs =>
    have hw : w = r ++ (xs ++ i) := h
    change w = r ++ xs ++ i
    rw [hw, List.append_assoc]

theorem Balanced.steps {p q : Pipe α} (h : Balanced p) (hs : Steps p q) : Balanced q := by
  induction hs with
  | refl => exact h
  | tail _ hstep ih => exact ih.step hstep

theorem Balanced.read_prefix {p : Pipe α} (h : Balanced p) : p.read <+: p.written :=
  ⟨p.inside, h.symm⟩

theorem Balanced.length {p : Pipe α} (h : Balanced p) :
    p.written.length = p.read.length + p.inside.length := by
  have hl:=congrArg List.length h
  rwa [List.length_append] at hl

end Pipe

end BoardServices.Lib
