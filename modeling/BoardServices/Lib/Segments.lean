import Mathlib.Data.List.Infix

/-!
# The first occurrence of a segment in a list

Who cuts a segment out of a list and goes on behind it loses nothing by taking
the first occurrence: what stands behind any other one is the end of what stands
behind the first.
-/

namespace BoardServices.Lib.Segments

variable {α : Type} {seg s x y : List α}

/-- `x` stands before the first occurrence of `seg` in `s`, and `y` behind it. -/
structure First (seg s x y : List α) : Prop where
  here : s = x ++ seg ++ y
  first : ∀ x' y', s = x' ++ seg ++ y' → x.length ≤ x'.length

/-- What stands behind a later occurrence stands behind the first one too. -/
theorem First.rest (h : First seg s x y) {x' y' : List α} (h' : s = x' ++ seg ++ y') :
    ∃ z, y = z ++ y' := by
  have hle:=h.first x' y' h'
  have hsame : (x ++ seg) ++ y = (x' ++ seg) ++ y' := h.here.symm.trans h'
  have hpre : x ++ seg <+: x' ++ seg ∨ x' ++ seg <+: x ++ seg :=
    List.prefix_or_prefix_of_prefix ⟨y, rfl⟩ ⟨y', hsame.symm⟩
  have hshort : x ++ seg <+: x' ++ seg := by
    rcases hpre with hpre | hpre
    · exact hpre
    · have hlen:=hpre.length_le
      simp only [List.length_append] at hlen
      have heq : x' ++ seg = x ++ seg := hpre.eq_of_length (by simp only [List.length_append]; omega)
      rw [heq]
  obtain ⟨z, hz⟩ := hshort
  refine ⟨z, ?_⟩
  rw [← hz, List.append_assoc (x ++ seg)] at hsame
  exact List.append_cancel_left hsame

/-- The only beginning of the list that satisfies `P` is the whole list. -/
structure Shortest (P : List α → Prop) (s : List α) : Prop where
  holds : P s
  whole : ∀ p, p <+: s → P p → p = s

/-- The first occurrence is at the end if no shorter beginning ends in the segment. -/
theorem First.nil_iff (h : First seg s x y) :
    y = [] ↔ Shortest (fun p => seg <:+ p) s := by
  constructor
  · rintro rfl
    refine ⟨⟨x, by simpa using h.here.symm⟩, ?_⟩
    rintro p ⟨t, rfl⟩ ⟨x', rfl⟩
    obtain ⟨z, hz⟩ := h.rest rfl
    rw [(List.append_eq_nil_iff.mp hz.symm).2, List.append_nil]
  · intro hs
    have hwhole:=hs.whole (x ++ seg) ⟨y, h.here.symm⟩ ⟨x, rfl⟩
    have heq : x ++ seg ++ [] = x ++ seg ++ y := by
      rw [List.append_nil]
      exact hwhole.trans h.here
    exact (List.append_cancel_left heq).symm

theorem First.exists_iff (h : First seg s x y) {P : List α → Prop} (hP : ∀ z t, P t → P (z ++ t)) :
    (∃ a t, s = a ++ seg ++ t ∧ P t) ↔ P y := by
  constructor
  · rintro ⟨a, t, hs, ht⟩
    obtain ⟨z, rfl⟩ := h.rest hs
    exact hP z t ht
  · intro hy
    exact ⟨x, y, h.here, hy⟩

/-- A search for a segment and then for more, whose matches may begin anywhere:
the first occurrence of the segment gives the shortest beginning. -/
theorem First.shortest_iff (h : First seg s x y) {P : List α → Prop}
    (hP : ∀ z t, P t → P (z ++ t)) :
    Shortest (fun p => ∃ a t, p = a ++ seg ++ t ∧ P t) s ↔ Shortest P y := by
  constructor
  · rintro ⟨hsome, hwhole⟩
    refine ⟨(h.exists_iff hP).mp hsome, ?_⟩
    rintro q ⟨u, hu⟩ hq
    have hpre : x ++ seg ++ q <+: s := ⟨u, by rw [List.append_assoc, hu, ← h.here]⟩
    have heq:=hwhole (x ++ seg ++ q) hpre ⟨x, q, rfl, hq⟩
    exact List.append_cancel_left (heq.trans h.here)
  · rintro ⟨hy, hwhole⟩
    refine ⟨⟨x, y, h.here, hy⟩, ?_⟩
    rintro p ⟨u, rfl⟩ ⟨a, t, rfl, ht⟩
    obtain ⟨z, rfl⟩ := h.rest (List.append_assoc (a ++ seg) t u)
    have heq:=hwhole (z ++ t) ⟨u, List.append_assoc z t u⟩ (hP z t ht)
    have hu : u = [] := by simpa [← List.append_assoc] using heq
    rw [hu, List.append_nil]

end BoardServices.Lib.Segments
