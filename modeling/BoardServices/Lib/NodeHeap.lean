import Mathlib.Data.Finmap
import Mathlib.Data.List.Nodup

/-!
# Doubly linked lists in a heap

A heap holds nodes at addresses, a node points to its neighbours by address.
A segment is a run of linked nodes between two pointers; it is described by the
list of what its nodes hold, so that splitting and joining lists split and join
segments.
-/

namespace BoardServices.Lib

structure Node (α : Type*) where
  item : α
  prev : Option ℕ
  next : Option ℕ

abbrev NodeHeap (α : Type*) := Finmap fun _ : ℕ => Node α

namespace NodeHeap
variable {α : Type*}

def modify (H : NodeHeap α) (a : ℕ) (f : Node α → Node α) : NodeHeap α :=
  match H.lookup a with
  | none => H
  | some x => H.insert a (f x)

theorem lookup_modify (H : NodeHeap α) (a b : ℕ) (f : Node α → Node α) :
    (H.modify a f).lookup b = if b = a then (H.lookup a).map f else H.lookup b := by
  unfold modify
  cases h : H.lookup a with
  | none =>
    by_cases hb : b = a
    · rw [if_pos hb, hb, h]
      rfl
    · rw [if_neg hb]
  | some x =>
    by_cases hb : b = a
    · rw [if_pos hb, hb]
      exact Finmap.lookup_insert H
    · rw [if_neg hb]
      exact Finmap.lookup_insert_of_ne H hb

theorem lookup_modify_ne (H : NodeHeap α) {a b : ℕ} (f : Node α → Node α) (h : b ≠ a) :
    (H.modify a f).lookup b = H.lookup b := by
  rw [lookup_modify, if_neg h]

theorem lookup_modify_self {H : NodeHeap α} {a : ℕ} {x : Node α} (f : Node α → Node α)
    (h : H.lookup a = some x) : (H.modify a f).lookup a = some (f x) := by
  rw [lookup_modify, if_pos rfl, h]
  rfl

def setNext (H : NodeHeap α) (a : ℕ) (n : Option ℕ) : NodeHeap α :=
  H.modify a fun x => { x with next := n }

def setPrev (H : NodeHeap α) (a : ℕ) (p : Option ℕ) : NodeHeap α :=
  H.modify a fun x => { x with prev := p }

def setItem (H : NodeHeap α) (a : ℕ) (y : α) : NodeHeap α :=
  H.modify a fun x => { x with item := y }

/-- `Seg H p h xs l n`: from the pointer `h` the heap links nodes that hold
`xs`, up to the pointer `n`. The first node points back to `p`, and `l` is what
a node after the segment points back to. -/
def Seg (H : NodeHeap α) : Option ℕ → Option ℕ → List (ℕ × α) → Option ℕ → Option ℕ → Prop
  | p, h, [], l, n => l = p ∧ n = h
  | p, h, (a, x) :: xs, l, n =>
    h = some a ∧ ∃ m, H.lookup a = some ⟨x, p, m⟩ ∧ H.Seg (some a) m xs l n

def addresses (xs : List (ℕ × α)) : List ℕ := xs.map Prod.fst

theorem seg_append {H : NodeHeap α} {xs ys : List (ℕ × α)} {p h l n : Option ℕ} :
    H.Seg p h (xs ++ ys) l n ↔ ∃ q m, H.Seg p h xs q m ∧ H.Seg q m ys l n := by
  induction xs generalizing p h with
  | nil =>
    constructor
    · intro hs
      exact ⟨p, h, ⟨rfl, rfl⟩, hs⟩
    · rintro ⟨q, m, ⟨rfl, rfl⟩, hs⟩
      exact hs
  | cons x xs ih =>
    obtain ⟨a, x⟩ := x
    constructor
    · rintro ⟨ha, m, hx, hs⟩
      obtain ⟨q, m', hs1, hs2⟩ := ih.mp hs
      exact ⟨q, m', ⟨ha, m, hx, hs1⟩, hs2⟩
    · rintro ⟨q, m', ⟨ha, m, hx, hs1⟩, hs2⟩
      exact ⟨ha, m, hx, ih.mpr ⟨q, m', hs1, hs2⟩⟩

/-- A segment reads its own nodes only. -/
theorem Seg.frame {H H' : NodeHeap α} {xs : List (ℕ × α)} {p h l n : Option ℕ}
    (hs : H.Seg p h xs l n) (hframe : ∀ a ∈ addresses xs, H'.lookup a = H.lookup a) :
    H'.Seg p h xs l n := by
  induction xs generalizing p h with
  | nil => exact hs
  | cons x xs ih =>
    obtain ⟨a, x⟩ := x
    obtain ⟨ha, m, hx, hs⟩ := hs
    refine ⟨ha, m, ?_, ih hs fun b hb => hframe b (List.mem_cons_of_mem _ hb)⟩
    rw [hframe a (List.mem_cons_self ..), hx]

theorem Seg.lookup_of_mem {H : NodeHeap α} {xs : List (ℕ × α)} {p h l n : Option ℕ}
    (hs : H.Seg p h xs l n) {a : ℕ} {x : α} (hmem : (a, x) ∈ xs) :
    ∃ q m, H.lookup a = some ⟨x, q, m⟩ := by
  obtain ⟨ys, zs, rfl⟩ := List.append_of_mem hmem
  obtain ⟨q, m, _, hs⟩ := seg_append.mp hs
  obtain ⟨_, m', hx, _⟩ := hs
  exact ⟨q, m', hx⟩

theorem mem_addresses {xs : List (ℕ × α)} {a : ℕ} :
    a ∈ addresses xs ↔ ∃ x, (a, x) ∈ xs := by
  simp [addresses]

/-- The last node is made to point at `n'`. -/
theorem Seg.set_next {H : NodeHeap α} {xs : List (ℕ × α)} {b : ℕ} {y : α} {p h l n : Option ℕ}
    (hs : H.Seg p h (xs ++ [(b, y)]) l n) (hnot : b ∉ addresses xs) (n' : Option ℕ) :
    (H.setNext b n').Seg p h (xs ++ [(b, y)]) l n' := by
  obtain ⟨q, m, hs1, hm, m', hx, hl, hn⟩ := seg_append.mp hs
  refine seg_append.mpr ⟨q, m, ?_, hm, n', lookup_modify_self _ hx, hl, rfl⟩
  refine hs1.frame fun a ha => lookup_modify_ne H _ ?_
  rintro rfl
  exact hnot ha

/-- The first node is made to point back at `p'`. -/
theorem Seg.set_prev {H : NodeHeap α} {xs : List (ℕ × α)} {b : ℕ} {y : α} {p h l n : Option ℕ}
    (hs : H.Seg p h ((b, y) :: xs) l n) (hnot : b ∉ addresses xs) (p' : Option ℕ) :
    (H.setPrev b p').Seg p' h ((b, y) :: xs) l n := by
  obtain ⟨hh, m, hx, hs⟩ := hs
  refine ⟨hh, m, lookup_modify_self _ hx, hs.frame fun a ha => lookup_modify_ne H _ ?_⟩
  rintro rfl
  exact hnot ha

theorem Seg.set_item {H : NodeHeap α} {xs ys : List (ℕ × α)} {b : ℕ} {y : α} {p h l n : Option ℕ}
    (hs : H.Seg p h (xs ++ (b, y) :: ys) l n) (hx : b ∉ addresses xs) (hy : b ∉ addresses ys)
    (z : α) : (H.setItem b z).Seg p h (xs ++ (b, z) :: ys) l n := by
  obtain ⟨q, m, hs1, hm, m', hb, hs2⟩ := seg_append.mp hs
  have hother : ∀ a, a ≠ b → (H.setItem b z).lookup a = H.lookup a :=
    fun a ha => lookup_modify_ne H _ ha
  refine seg_append.mpr ⟨q, m, ?_, hm, m', lookup_modify_self _ hb, ?_⟩
  · exact hs1.frame fun a ha => hother a fun he => hx (he ▸ ha)
  · exact hs2.frame fun a ha => hother a fun he => hy (he ▸ ha)

theorem Seg.head_cons {H : NodeHeap α} {xs : List (ℕ × α)} {b : ℕ} {y : α} {p h l n : Option ℕ}
    (hs : H.Seg p h ((b, y) :: xs) l n) : h = some b := hs.1

theorem Seg.last_concat {H : NodeHeap α} {xs : List (ℕ × α)} {b : ℕ} {y : α} {p h l n : Option ℕ}
    (hs : H.Seg p h (xs ++ [(b, y)]) l n) : l = some b := by
  obtain ⟨q, m, _, _, m', _, hl, _⟩ := seg_append.mp hs
  exact hl

theorem isSome_lookup_modify (H : NodeHeap α) (a b : ℕ) (f : Node α → Node α) :
    ((H.modify a f).lookup b).isSome = (H.lookup b).isSome := by
  rw [lookup_modify]
  by_cases hb : b = a
  · rw [if_pos hb, hb, Option.isSome_map]
  · rw [if_neg hb]

def passNext (H : NodeHeap α) (p n : Option ℕ) : NodeHeap α :=
  match p with
  | none => H
  | some q => H.setNext q n

def passPrev (H : NodeHeap α) (p n : Option ℕ) : NodeHeap α :=
  match n with
  | none => H
  | some m => H.setPrev m p

/-- The neighbours of a node are made to point past it. -/
def bypass (H : NodeHeap α) (p n : Option ℕ) : NodeHeap α := (H.passNext p n).passPrev p n

theorem isSome_lookup_bypass (H : NodeHeap α) (p n : Option ℕ) (b : ℕ) :
    ((H.bypass p n).lookup b).isSome = (H.lookup b).isSome := by
  cases p <;> cases n <;>
    simp [bypass, passNext, passPrev, setNext, setPrev, isSome_lookup_modify]

theorem lookup_bypass_ne (H : NodeHeap α) {p n : Option ℕ} {b : ℕ} (hp : p ≠ some b)
    (hn : n ≠ some b) : (H.bypass p n).lookup b = H.lookup b := by
  cases p with
  | none =>
    cases n with
    | none => rfl
    | some m => exact lookup_modify_ne H _ fun he => hn (congrArg some he.symm)
  | some q =>
    have hq : (H.setNext q n).lookup b = H.lookup b :=
      lookup_modify_ne H _ fun he => hp (congrArg some he.symm)
    cases n with
    | none => exact hq
    | some m => exact (lookup_modify_ne _ _ fun he => hn (congrArg some he.symm)).trans hq

theorem nodup_addresses {xs ys : List (ℕ × α)} {a : ℕ} {x : α}
    (h : (addresses (xs ++ (a, x) :: ys)).Nodup) :
    a ∉ addresses xs ∧ a ∉ addresses ys ∧ (∀ b ∈ addresses xs, b ∉ addresses ys) ∧
      (addresses xs).Nodup ∧ (addresses ys).Nodup := by
  simp only [addresses, List.map_append, List.map_cons] at h ⊢
  obtain ⟨hx, hy, hdis⟩ := List.nodup_append.mp h
  obtain ⟨hay, hy⟩ := List.nodup_cons.mp hy
  exact ⟨fun ha => hdis a ha a (List.mem_cons_self ..) rfl, hay,
    fun b hb hby => hdis b hb b (List.mem_cons_of_mem _ hby) rfl, hx, hy⟩

/-- Unlinking. The first pointer of the segment moves on only where the node
was the first one. -/
theorem Seg.unlink {H : NodeHeap α} {xs ys : List (ℕ × α)} {a : ℕ} {x : α} {h l : Option ℕ}
    (hs : H.Seg none h (xs ++ (a, x) :: ys) l none)
    (hnd : (addresses (xs ++ (a, x) :: ys)).Nodup) :
    ∃ p n, H.lookup a = some ⟨x, p, n⟩ ∧
      (∀ q, p = some q → q ∈ addresses xs) ∧ (∀ m, n = some m → m ∈ addresses ys) ∧
      ∃ l', Seg ((H.bypass p n).erase a) none (if p = none then n else h) (xs ++ ys) l' none := by
  obtain ⟨hax, hay, hdis, hndx, hndy⟩ := nodup_addresses hnd
  obtain ⟨p, m, hs1, hm, n, hx, hs2⟩ := seg_append.mp hs
  -- the predecessor points past the node
  have hleft : (∀ q, p = some q → q ∈ addresses xs) ∧
      (H.passNext p n).Seg none (if p = none then n else h) xs p n ∧
      (H.passNext p n).Seg (some a) n ys l none := by
    rcases List.eq_nil_or_concat xs with rfl | ⟨xs, ⟨b, y⟩, rfl⟩
    · obtain ⟨rfl, _⟩ := hs1
      refine ⟨fun q hq => ?_, ⟨rfl, rfl⟩, hs2⟩
      cases hq
    · rw [List.concat_eq_append] at hs1 hdis hndx ⊢
      obtain rfl := hs1.last_concat
      have hb : b ∈ addresses (xs ++ [(b, y)]) := mem_addresses.mpr ⟨y, by simp⟩
      have hbx : b ∉ addresses xs := (nodup_addresses hndx).1
      refine ⟨fun q hq => ?_, hs1.set_next hbx n, hs2.frame fun c hc => lookup_modify_ne H _ ?_⟩
      · rw [← Option.some.inj hq]
        exact hb
      · rintro rfl
        exact hdis c hb hc
  obtain ⟨hp, hsx, hsy⟩ := hleft
  -- the successor points back past it
  have hright : (∀ m, n = some m → m ∈ addresses ys) ∧
      ∃ l', (H.bypass p n).Seg none (if p = none then n else h) xs p n ∧
        (H.bypass p n).Seg p n ys l' none := by
    cases ys with
    | nil =>
      obtain ⟨-, rfl⟩ := hsy
      refine ⟨fun m hm => ?_, p, hsx, rfl, rfl⟩
      cases hm
    | cons z ys =>
      obtain ⟨d, z⟩ := z
      obtain rfl := hsy.head_cons
      have hd : d ∈ addresses ((d, z) :: ys) := List.mem_cons_self ..
      refine ⟨fun m hm => ?_, l, hsx.frame fun c hc => lookup_modify_ne _ _ ?_,
        hsy.set_prev (List.nodup_cons.mp hndy).1 p⟩
      · rw [← Option.some.inj hm]
        exact hd
      · rintro rfl
        exact hdis c hc hd
  obtain ⟨hn, l', hsx, hsy⟩ := hright
  refine ⟨p, n, hx, hp, hn, l', seg_append.mpr ⟨p, n, ?_, ?_⟩⟩
  · exact hsx.frame fun c hc => Finmap.lookup_erase_ne fun he => hax (he ▸ hc)
  · exact hsy.frame fun c hc => Finmap.lookup_erase_ne fun he => hay (he ▸ hc)

/-- A node in front of the one at `h`. -/
def push (H : NodeHeap α) (a : ℕ) (x : α) (h : Option ℕ) : NodeHeap α :=
  match h with
  | none => H.insert a ⟨x, none, none⟩
  | some f => NodeHeap.setPrev (H.insert a ⟨x, none, some f⟩) f (some a)

theorem lookup_push_ne (H : NodeHeap α) (x : α) {a d : ℕ} {h : Option ℕ} (ha : d ≠ a)
    (hd : h ≠ some d) : (H.push a x h).lookup d = H.lookup d := by
  cases h with
  | none => exact Finmap.lookup_insert_of_ne _ ha
  | some f =>
    have hf : d ≠ f := fun he => hd (congrArg some he.symm)
    exact (lookup_modify_ne _ _ hf).trans (Finmap.lookup_insert_of_ne _ ha)

theorem isSome_lookup_push (H : NodeHeap α) (x : α) {a d : ℕ} (h : Option ℕ) (ha : d ≠ a) :
    ((H.push a x h).lookup d).isSome = (H.lookup d).isSome := by
  cases h with
  | none => rw [push, Finmap.lookup_insert_of_ne _ ha]
  | some f => rw [push, setPrev, isSome_lookup_modify, Finmap.lookup_insert_of_ne _ ha]

theorem Seg.push {H : NodeHeap α} {xs : List (ℕ × α)} {a : ℕ} {h l : Option ℕ}
    (hs : H.Seg none h xs l none) (ha : a ∉ addresses xs) (hnd : (addresses xs).Nodup) (x : α) :
    ∃ l', (H.push a x h).Seg none (some a) ((a, x) :: xs) l' none := by
  have hframe : ∀ y : Node α, NodeHeap.Seg (H.insert a y) none h xs l none := fun y =>
    hs.frame fun d hd => Finmap.lookup_insert_of_ne _ fun he => ha (he ▸ hd)
  cases xs with
  | nil =>
    obtain ⟨-, rfl⟩ := hs
    exact ⟨some a, rfl, none, Finmap.lookup_insert _, rfl, rfl⟩
  | cons y xs =>
    obtain ⟨f, y⟩ := y
    obtain rfl := hs.head_cons
    have hfa : a ≠ f := fun he => ha (he ▸ List.mem_cons_self ..)
    refine ⟨l, rfl, some f, ?_, (hframe _).set_prev (List.nodup_cons.mp hnd).1 (some a)⟩
    exact (lookup_modify_ne _ _ hfa).trans (Finmap.lookup_insert _)

end NodeHeap

end BoardServices.Lib
