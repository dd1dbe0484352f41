import BoardServices.Lib.NodeHeap

/-!
# The hash table (vsftpd-3.0.3/hash.c)

`hash.c` chains the nodes of a bucket into a doubly linked list and hands out
pointers to the values. The table of the source is a heap of nodes and an array
of heads; `malloc` answers with an address that is not in use.
-/

namespace BoardServices.Vsftpd
open Lib Lib.NodeHeap

/-- How the process ends where the source does not go on: `bug()`, a
dereference of what is no block, a loop that does not end. -/
inductive Fault
  | bug (text : String)
  | badPointer
  | endless
deriving DecidableEq, Repr

structure Hash (K V : Type) where
  buckets : ℕ
  hashFunc : ℕ → K → ℕ
  nodes : ℕ → Option ℕ
  heap : NodeHeap (K × V)

section Operations
variable {K V : Type} [DecidableEq K]

def hashAlloc (buckets : ℕ) (hashFunc : ℕ → K → ℕ) : Hash K V where
  buckets := buckets
  hashFunc := hashFunc
  nodes _ := none
  heap := ∅

def hashGetBucket (h : Hash K V) (k : K) : Except Fault ℕ :=
  let bucket := h.hashFunc h.buckets k
  if bucket ≥ h.buckets then .error (.bug "bad bucket lookup") else .ok bucket

/-- The loop of `hash_get_node_by_key` from the pointer it has reached. -/
def chase (H : NodeHeap (K × V)) (k : K) : ℕ → Option ℕ → Except Fault (Option ℕ)
  | _, none => .ok none
  | 0, some _ => .error .endless
  | fuel + 1, some a =>
    match H.lookup a with
    | none => .error .badPointer
    | some x => if k ≠ x.item.1 then chase H k fuel x.next else .ok (some a)

def hashGetNodeByKey (h : Hash K V) (k : K) : Except Fault (Option ℕ) := do
  let b ← hashGetBucket h k
  chase h.heap k h.heap.keys.card (h.nodes b)

/-- The pointer to the value is the address of the node. -/
def hashLookupEntry (h : Hash K V) (k : K) : Except Fault (Option ℕ) :=
  hashGetNodeByKey h k

def node (H : NodeHeap (K × V)) (a : ℕ) : Except Fault (Node (K × V)) :=
  match H.lookup a with
  | none => .error .badPointer
  | some x => .ok x

def valueAt (h : Hash K V) (a : ℕ) : Except Fault V := do
  let x ← node h.heap a
  return x.item.2

def storeAt (h : Hash K V) (a : ℕ) (v : V) : Except Fault (Hash K V) := do
  let x ← node h.heap a
  return { h with heap := NodeHeap.setItem h.heap a (x.item.1, v) }

/-- `hash_add_entry`, where `malloc` gives `a`. -/
def hashAddEntry (h : Hash K V) (a : ℕ) (k : K) (v : V) : Except Fault (Hash K V) := do
  let r ← hashLookupEntry h k
  if r.isSome then .error (.bug "duplicate hash key")
  let b ← hashGetBucket h k
  match h.nodes b with
  | none =>
    return { h with
      nodes := Function.update h.nodes b (some a)
      heap := h.heap.insert a ⟨(k, v), none, none⟩ }
  | some f =>
    let _ ← node h.heap f
    return { h with
      nodes := Function.update h.nodes b (some a)
      heap := NodeHeap.setPrev (h.heap.insert a ⟨(k, v), none, some f⟩) f (some a) }

def hashFreeEntry (h : Hash K V) (k : K) : Except Fault (Hash K V) := do
  match ← hashGetNodeByKey h k with
  | none => .error (.bug "hash node not found")
  | some a =>
    let x ← node h.heap a
    let unlinked ← match x.prev with
      | some q => do
        let _ ← node h.heap q
        pure { h with heap := NodeHeap.setNext h.heap q x.next }
      | none => do
        let b ← hashGetBucket h k
        pure { h with nodes := Function.update h.nodes b x.next }
    let joined ← match x.next with
      | some m => do
        let _ ← node unlinked.heap m
        pure { unlinked with heap := NodeHeap.setPrev unlinked.heap m x.prev }
      | none => pure unlinked
    return { joined with heap := joined.heap.erase a }

end Operations

/-! ### What a table holds -/

section Contents
variable {K V : Type}

/-- The chains of a table: the entries of each bucket, in the order of the
links. Every block of the heap is in one of them. -/
structure Layout (h : Hash K V) (c : ℕ → List (ℕ × K × V)) : Prop where
  linked : ∀ b, ∃ l, NodeHeap.Seg h.heap none (h.nodes b) (c b) l none
  placed : ∀ b a k v, (a, k, v) ∈ c b → h.hashFunc h.buckets k = b
  distinct : ∀ b, ((c b).map fun e => e.2.1).Nodup
  complete : ∀ a, (h.heap.lookup a).isSome → ∃ b k v, (a, k, v) ∈ c b

/-- The table holds the finite map `m`. -/
def Maps (h : Hash K V) (m : K → Option V) : Prop :=
  ∃ c, Layout h c ∧ ∀ k v, m k = some v ↔ ∃ b a, (a, k, v) ∈ c b

theorem node_ok {H : NodeHeap (K × V)} {a : ℕ} (ha : (H.lookup a).isSome) :
    ∃ x, node H a = .ok x := by
  obtain ⟨x, hx⟩ := Option.isSome_iff_exists.mp ha
  exact ⟨x, by rw [node, hx]⟩

namespace Layout
variable {h : Hash K V} {c : ℕ → List (ℕ × K × V)}

theorem lookup_of_mem (L : Layout h c) {b a : ℕ} {k : K} {v : V} (he : (a, k, v) ∈ c b) :
    ∃ p n, h.heap.lookup a = some ⟨(k, v), p, n⟩ := by
  obtain ⟨l, hs⟩ := L.linked b
  exact hs.lookup_of_mem he

/-- A block is in one place only. -/
theorem entry_eq (L : Layout h c) {b b' a : ℕ} {k k' : K} {v v' : V} (he : (a, k, v) ∈ c b)
    (he' : (a, k', v') ∈ c b') : k = k' ∧ v = v' ∧ b = b' := by
  obtain ⟨p, n, hl⟩ := L.lookup_of_mem he
  obtain ⟨p', n', hl'⟩ := L.lookup_of_mem he'
  have hx : (⟨(k, v), p, n⟩ : Node (K × V)) = ⟨(k', v'), p', n'⟩ := Option.some.inj (hl.symm.trans hl')
  injection hx with hi
  obtain ⟨rfl, rfl⟩ := Prod.mk.inj hi
  exact ⟨rfl, rfl, (L.placed _ _ _ _ he).symm.trans (L.placed _ _ _ _ he')⟩

theorem nodup (L : Layout h c) (b : ℕ) : (addresses (c b)).Nodup := by
  have hk:=L.distinct b
  rw [List.Nodup, List.pairwise_map] at hk
  rw [addresses, List.Nodup, List.pairwise_map]
  refine hk.imp_of_mem ?_
  rintro ⟨a, k, v⟩ ⟨a', k', v'⟩ hx hy hne rfl
  exact hne (L.entry_eq hx hy).1

theorem length_le (L : Layout h c) (b : ℕ) : (c b).length ≤ h.heap.keys.card := by
  have hsub : (addresses (c b)).toFinset ⊆ h.heap.keys := by
    intro a ha
    obtain ⟨⟨k, v⟩, he⟩ := mem_addresses.mp (List.mem_toFinset.mp ha)
    obtain ⟨p, n, hl⟩ := L.lookup_of_mem he
    rw [Finmap.mem_keys, ← Finmap.lookup_isSome, hl]
    rfl
  have hcard:=Finset.card_le_card hsub
  rwa [List.toFinset_card_of_nodup (L.nodup b), addresses, List.length_map] at hcard

theorem not_mem_of_fresh (L : Layout h c) {a : ℕ} (ha : h.heap.lookup a = none) (b : ℕ) :
    a ∉ addresses (c b) := by
  intro hmem
  obtain ⟨⟨k, v⟩, he⟩ := mem_addresses.mp hmem
  obtain ⟨p, n, hl⟩ := L.lookup_of_mem he
  rw [ha] at hl
  cases hl

theorem ne_of_bucket_ne (L : Layout h c) {b b' : ℕ} (hb : b ≠ b') {a : ℕ}
    (ha : a ∈ addresses (c b)) : a ∉ addresses (c b') := by
  intro ha'
  obtain ⟨⟨k, v⟩, he⟩ := mem_addresses.mp ha
  obtain ⟨⟨k', v'⟩, he'⟩ := mem_addresses.mp ha'
  exact hb (L.entry_eq he he').2.2

/-- The key of an entry is not met again in its chain. -/
theorem split {b a : ℕ} {k : K} {v : V} (L : Layout h c) (he : (a, k, v) ∈ c b) :
    ∃ xs ys, c b = xs ++ (a, k, v) :: ys ∧ (∀ e ∈ xs, e.2.1 ≠ k) ∧ (∀ e ∈ ys, e.2.1 ≠ k) ∧
      ((xs ++ ys).map fun e => e.2.1).Nodup := by
  obtain ⟨xs, ys, hsplit⟩ := List.append_of_mem he
  have hd:=L.distinct b
  rw [hsplit, List.map_append, List.map_cons] at hd
  obtain ⟨hdx, hdy, hdis⟩ := List.nodup_append.mp hd
  obtain ⟨hky, hdy⟩ := List.nodup_cons.mp hdy
  refine ⟨xs, ys, hsplit, ?_, ?_, ?_⟩
  · exact fun e hin => hdis _ (List.mem_map_of_mem hin) _ (List.mem_cons_self ..)
  · exact fun e hin heq => hky (List.mem_map.mpr ⟨e, hin, heq⟩)
  · rw [List.map_append]
    exact List.nodup_append.mpr ⟨hdx, hdy, fun x hx y hy => hdis x hx y (List.mem_cons_of_mem _ hy)⟩

theorem alloc (buckets : ℕ) (hashFunc : ℕ → K → ℕ) :
    Layout (hashAlloc buckets hashFunc : Hash K V) fun _ => [] where
  linked _ := ⟨none, rfl, rfl⟩
  placed _ _ _ _ he := absurd he List.not_mem_nil
  distinct _ := List.nodup_nil
  complete a ha := by
    rw [hashAlloc, Finmap.lookup_empty] at ha
    cases ha

end Layout

/-- Every block is an entry of the map, and the entry of one key is one block. -/
structure Exact (h : Hash K V) (m : K → Option V) : Prop where
  held : ∀ k v, m k = some v ↔ ∃ a p n, h.heap.lookup a = some ⟨(k, v), p, n⟩
  once : ∀ a a' x x', h.heap.lookup a = some x → h.heap.lookup a' = some x' →
    x.item.1 = x'.item.1 → a = a'

theorem Maps.exact {h : Hash K V} {m : K → Option V} (hm : Maps h m) : Exact h m := by
  obtain ⟨c, L, hc⟩ := hm
  -- a block is the entry that the chains have at its address
  have hentry : ∀ a x, h.heap.lookup a = some x → ∃ b, (a, x.item.1, x.item.2) ∈ c b := by
    intro a x hx
    obtain ⟨b, k, v, he⟩ := L.complete a (by rw [hx]; rfl)
    obtain ⟨p, n, hx'⟩ := L.lookup_of_mem he
    rw [hx] at hx'
    obtain rfl := Option.some.inj hx'
    exact ⟨b, he⟩
  constructor
  · intro k v
    rw [hc k v]
    constructor
    · rintro ⟨b, a, he⟩
      exact ⟨a, L.lookup_of_mem he⟩
    · rintro ⟨a, p, n, hx⟩
      obtain ⟨b, he⟩ := hentry a _ hx
      exact ⟨b, a, he⟩
  · intro a a' x x' hx hx' hk
    obtain ⟨b, he⟩ := hentry a x hx
    obtain ⟨b', he'⟩ := hentry a' x' hx'
    obtain rfl : b = b' := by
      rw [← L.placed _ _ _ _ he, ← L.placed _ _ _ _ he', hk]
    obtain ⟨xs, ys, hsplit, hkx, hky, _⟩ := L.split he
    rw [hsplit] at he'
    rcases List.mem_append.mp he' with hin | hin
    · exact absurd hk.symm (hkx _ hin)
    · rcases List.mem_cons.mp hin with heq | hin
      · injection heq with ha _
        exact ha.symm
      · exact absurd hk.symm (hky _ hin)

theorem hashGetBucket_ok {h : Hash K V} {k : K} (hb : h.hashFunc h.buckets k < h.buckets) :
    hashGetBucket h k = .ok (h.hashFunc h.buckets k) := by
  simp only [hashGetBucket]
  rw [if_neg (by omega)]

theorem hashGetBucket_bad {h : Hash K V} {k : K} (hb : ¬ h.hashFunc h.buckets k < h.buckets) :
    hashGetBucket h k = .error (.bug "bad bucket lookup") := by
  simp only [hashGetBucket]
  rw [if_pos (by omega)]

end Contents

/-! ### The loop over a bucket -/

section Calls
variable {K V : Type} [DecidableEq K]

/-- The loop ends, at the first node with the key. -/
theorem chase_seg {H : NodeHeap (K × V)} {xs : List (ℕ × K × V)} {p q l : Option ℕ} {fuel : ℕ}
    (k : K) (hs : NodeHeap.Seg H p q xs l none) (hf : xs.length ≤ fuel) :
    chase H k fuel q = .ok ((xs.find? fun e => e.2.1 = k).map Prod.fst) := by
  induction xs generalizing p q fuel with
  | nil =>
    obtain ⟨-, rfl⟩ := hs
    cases fuel <;> rfl
  | cons x xs ih =>
    obtain ⟨a, k', v⟩ := x
    obtain ⟨rfl, m, hx, hs⟩ := hs
    obtain ⟨fuel, rfl⟩ : ∃ f, fuel = f + 1 := ⟨fuel - 1, by simp at hf; omega⟩
    have hf' : xs.length ≤ fuel := by simpa using hf
    by_cases hk : k = k'
    · subst hk
      simp [chase, hx]
    · have hk' : ¬ k' = k := fun he => hk he.symm
      simp only [chase, hx, ne_eq, hk, not_false_eq_true, if_true, List.find?_cons, hk',
        decide_false]
      exact ih hs hf'

theorem hashLookupEntry_bad {h : Hash K V} {k : K} (hb : ¬ h.hashFunc h.buckets k < h.buckets) :
    hashLookupEntry h k = .error (.bug "bad bucket lookup") := by
  simp only [hashLookupEntry, hashGetNodeByKey, hashGetBucket_bad hb]
  rfl

/-- A key that is not held is not found. -/
theorem hashLookupEntry_none {h : Hash K V} {m : K → Option V} {k : K} (hm : Maps h m)
    (hb : h.hashFunc h.buckets k < h.buckets) (hk : m k = none) :
    hashLookupEntry h k = .ok none := by
  obtain ⟨c, L, hc⟩ := hm
  obtain ⟨l, hs⟩ := L.linked (h.hashFunc h.buckets k)
  have hfind : (c (h.hashFunc h.buckets k)).find? (fun e => e.2.1 = k) = none := by
    rw [List.find?_eq_none]
    rintro ⟨a, k', v⟩ he
    intro heq
    obtain rfl : k' = k := by simpa using heq
    have hv:=(hc _ v).mpr ⟨_, a, he⟩
    rw [hk] at hv
    cases hv
  simp only [hashLookupEntry, hashGetNodeByKey, hashGetBucket_ok hb]
  exact (chase_seg k hs (L.length_le _)).trans (by rw [hfind]; rfl)

/-- A key that is held is found, at its place in its chain. -/
theorem Layout.lookup_ok {h : Hash K V} {c : ℕ → List (ℕ × K × V)} {b a : ℕ} {k : K} {v : V}
    (L : Layout h c) (hb : h.hashFunc h.buckets k < h.buckets) (he : (a, k, v) ∈ c b) :
    hashLookupEntry h k = .ok (some a) := by
  obtain rfl := L.placed _ _ _ _ he
  obtain ⟨l, hs⟩ := L.linked (h.hashFunc h.buckets k)
  have hfind : (c (h.hashFunc h.buckets k)).find? (fun e => e.2.1 = k) = some (a, k, v) := by
    obtain ⟨xs, ys, hsplit⟩ := List.append_of_mem he
    have hd:=L.distinct (h.hashFunc h.buckets k)
    rw [hsplit, List.map_append, List.map_cons] at hd
    have hx : ∀ e ∈ xs, ¬ e.2.1 = k := fun e hin heq =>
      (List.nodup_append.mp hd).2.2 _ (List.mem_map_of_mem hin) _ (List.mem_cons_self ..) heq
    rw [hsplit, List.find?_append, List.find?_eq_none.mpr (by simpa using hx)]
    simp
  simp only [hashLookupEntry, hashGetNodeByKey, hashGetBucket_ok hb]
  exact (chase_seg k hs (L.length_le _)).trans (by rw [hfind]; rfl)

/-! ### Stores, insertions and removals -/

/-- An operation on the key `k` rewrites the chain of its bucket and nothing
else. -/
theorem Layout.replace {h h' : Hash K V} {c : ℕ → List (ℕ × K × V)} {m : K → Option V} {k : K}
    (L : Layout h c) (x : Option V) (ys : List (ℕ × K × V))
    (hc : ∀ k v, m k = some v ↔ ∃ b a, (a, k, v) ∈ c b)
    (hbuckets : h'.buckets = h.buckets) (hfunc : h'.hashFunc = h.hashFunc)
    (hnodes : ∀ b, b ≠ h.hashFunc h.buckets k → h'.nodes b = h.nodes b)
    (hframe : ∀ b, b ≠ h.hashFunc h.buckets k → ∀ a ∈ addresses (c b),
      h'.heap.lookup a = h.heap.lookup a)
    (hseg : ∃ l, NodeHeap.Seg h'.heap none (h'.nodes (h.hashFunc h.buckets k)) ys l none)
    (hother : ∀ a k' v, k' ≠ k → ((a, k', v) ∈ ys ↔ (a, k', v) ∈ c (h.hashFunc h.buckets k)))
    (hkey : ∀ v, (∃ a, (a, k, v) ∈ ys) ↔ x = some v)
    (hdistinct : (ys.map fun e => e.2.1).Nodup)
    (hcomplete : ∀ a, (h'.heap.lookup a).isSome → a ∈ addresses ys ∨
      (h.heap.lookup a).isSome ∧ a ∉ addresses (c (h.hashFunc h.buckets k))) :
    Maps h' (Function.update m k x) := by
  have hplaced : ∀ a k' v, (a, k', v) ∈ ys →
      h.hashFunc h.buckets k' = h.hashFunc h.buckets k := by
    intro a k' v he
    by_cases hk : k' = k
    · rw [hk]
    · exact L.placed _ _ _ _ ((hother a k' v hk).mp he)
  refine ⟨Function.update c (h.hashFunc h.buckets k) ys, ⟨?_, ?_, ?_, ?_⟩, ?_⟩
  · intro b
    by_cases hb : b = h.hashFunc h.buckets k
    · rw [hb, Function.update_self]
      exact hseg
    · obtain ⟨l, hs⟩ := L.linked b
      rw [Function.update_of_ne hb, hnodes b hb]
      exact ⟨l, hs.frame (hframe b hb)⟩
  · intro b a k' v he
    rw [hbuckets, hfunc]
    by_cases hb : b = h.hashFunc h.buckets k
    · rw [hb, Function.update_self] at he
      rw [hb]
      exact hplaced a k' v he
    · rw [Function.update_of_ne hb] at he
      exact L.placed _ _ _ _ he
  · intro b
    by_cases hb : b = h.hashFunc h.buckets k
    · rw [hb, Function.update_self]
      exact hdistinct
    · rw [Function.update_of_ne hb]
      exact L.distinct b
  · intro a ha
    rcases hcomplete a ha with hmem | ⟨hold, hnot⟩
    · obtain ⟨⟨k', v⟩, he⟩ := mem_addresses.mp hmem
      exact ⟨_, k', v, by rw [Function.update_self]; exact he⟩
    · obtain ⟨b, k', v, he⟩ := L.complete a hold
      have hb : b ≠ h.hashFunc h.buckets k := by
        rintro rfl
        exact hnot (mem_addresses.mpr ⟨_, he⟩)
      exact ⟨b, k', v, by rw [Function.update_of_ne hb]; exact he⟩
  · -- what the new table holds
    intro k' v
    by_cases hk : k' = k
    · subst hk
      rw [Function.update_self, ← hkey v]
      constructor
      · rintro ⟨a, he⟩
        exact ⟨_, a, by rw [Function.update_self]; exact he⟩
      · rintro ⟨b, a, he⟩
        by_cases hb : b = h.hashFunc h.buckets k'
        · rw [hb, Function.update_self] at he
          exact ⟨a, he⟩
        · rw [Function.update_of_ne hb] at he
          exact absurd (L.placed _ _ _ _ he).symm hb
    · rw [Function.update_of_ne hk, hc k' v]
      constructor
      · rintro ⟨b, a, he⟩
        refine ⟨b, a, ?_⟩
        by_cases hb : b = h.hashFunc h.buckets k
        · rw [hb] at he
          rw [hb, Function.update_self]
          exact (hother a k' v hk).mpr he
        · rwa [Function.update_of_ne hb]
      · rintro ⟨b, a, he⟩
        by_cases hb : b = h.hashFunc h.buckets k
        · rw [hb, Function.update_self] at he
          exact ⟨_, a, (hother a k' v hk).mp he⟩
        · rw [Function.update_of_ne hb] at he
          exact ⟨b, a, he⟩

/-- The pointer a lookup has given may be stored through. -/
theorem storeAt_ok {h : Hash K V} {m : K → Option V} {k : K} {v : V} (hm : Maps h m)
    (hb : h.hashFunc h.buckets k < h.buckets) (hk : m k = some v) (w : V) :
    ∃ a, hashLookupEntry h k = .ok (some a) ∧ valueAt h a = .ok v ∧
      ∃ h', storeAt h a w = .ok h' ∧ h'.buckets = h.buckets ∧ h'.hashFunc = h.hashFunc ∧
        Maps h' (Function.update m k (some w)) := by
  obtain ⟨c, L, hc⟩ := hm
  obtain ⟨b, a, he⟩ := (hc k v).mp hk
  obtain ⟨p, n, hx⟩ := L.lookup_of_mem he
  obtain ⟨xs, ys, hsplit, hkx, hky, hdis⟩ := L.split he
  have hbk:=L.placed _ _ _ _ he
  have hnd:=L.nodup b
  rw [hsplit] at hnd
  obtain ⟨hax, hay, -, -, -⟩ := nodup_addresses hnd
  have hnode : node h.heap a = .ok ⟨(k, v), p, n⟩ := by rw [node, hx]
  refine ⟨a, L.lookup_ok hb he, by rw [valueAt, hnode]; rfl,
    { h with heap := NodeHeap.setItem h.heap a (k, w) }, by rw [storeAt, hnode]; rfl, rfl, rfl, ?_⟩
  subst hbk
  refine L.replace (some w) (xs ++ (a, k, w) :: ys) hc rfl rfl (fun _ _ => rfl) ?_ ?_ ?_ ?_ ?_ ?_
  · intro b' hb' d hd
    refine lookup_modify_ne h.heap _ ?_
    rintro rfl
    exact L.ne_of_bucket_ne hb' hd (mem_addresses.mpr ⟨_, he⟩)
  · obtain ⟨l, hs⟩ := L.linked (h.hashFunc h.buckets k)
    rw [hsplit] at hs
    exact ⟨l, hs.set_item hax hay (k, w)⟩
  · intro a' k' v' hne
    rw [hsplit]
    simp [hne]
  · intro v'
    constructor
    · rintro ⟨a', he'⟩
      rcases List.mem_append.mp he' with hin | hin
      · exact absurd rfl (hkx _ hin)
      · rcases List.mem_cons.mp hin with heq | hin
        · injection heq with _ heq
          injection heq with _ heq
          rw [heq]
        · exact absurd rfl (hky _ hin)
    · intro hw
      rw [Option.some.inj hw]
      exact ⟨a, by simp⟩
  · have hd:=L.distinct (h.hashFunc h.buckets k)
    rw [hsplit] at hd
    simpa using hd
  · intro d hd
    have hold : (h.heap.lookup d).isSome := (isSome_lookup_modify h.heap a d _).symm.trans hd
    by_cases hmem : d ∈ addresses (c (h.hashFunc h.buckets k))
    · left
      rw [hsplit] at hmem
      simpa [addresses] using hmem
    · exact .inr ⟨hold, hmem⟩

theorem hashAddEntry_dup {h : Hash K V} {m : K → Option V} {k : K} {v : V} (hm : Maps h m)
    (hb : h.hashFunc h.buckets k < h.buckets) (hk : m k = some v) (a : ℕ) (w : V) :
    hashAddEntry h a k w = .error (.bug "duplicate hash key") := by
  obtain ⟨a', hl, _⟩ := storeAt_ok hm hb hk w
  simp only [hashAddEntry, hl]
  rfl

/-- The new node becomes the head of its bucket. -/
theorem hashAddEntry_push {h : Hash K V} {c : ℕ → List (ℕ × K × V)} (L : Layout h c) {k : K}
    (hb : h.hashFunc h.buckets k < h.buckets) (hl : hashLookupEntry h k = .ok none) (a : ℕ)
    (v : V) :
    hashAddEntry h a k v = .ok { h with
      nodes := Function.update h.nodes (h.hashFunc h.buckets k) (some a)
      heap := NodeHeap.push h.heap a (k, v) (h.nodes (h.hashFunc h.buckets k)) } := by
  simp only [hashAddEntry, hl, hashGetBucket_ok hb]
  cases hhead : h.nodes (h.hashFunc h.buckets k) with
  | none => simp [bind, Except.bind, pure, Except.pure, hhead, NodeHeap.push]
  | some f =>
    -- the old head is a live node
    obtain ⟨l, hs⟩ := L.linked (h.hashFunc h.buckets k)
    rw [hhead] at hs
    have hf : ∃ x, h.heap.lookup f = some x := by
      cases hcc : c (h.hashFunc h.buckets k) with
      | nil =>
        rw [hcc] at hs
        cases hs.2
      | cons e es =>
        obtain ⟨d, e⟩ := e
        rw [hcc] at hs
        obtain ⟨hd, m, hx, _⟩ := hs
        rw [Option.some.inj hd]
        exact ⟨_, hx⟩
    obtain ⟨x, hx⟩ := hf
    simp [bind, Except.bind, pure, Except.pure, hhead, NodeHeap.push, node, hx]

theorem hashAddEntry_ok {h : Hash K V} {m : K → Option V} {k : K} (hm : Maps h m)
    (hb : h.hashFunc h.buckets k < h.buckets) (hk : m k = none) {a : ℕ}
    (ha : h.heap.lookup a = none) (v : V) :
    ∃ h', hashAddEntry h a k v = .ok h' ∧ h'.buckets = h.buckets ∧ h'.hashFunc = h.hashFunc ∧
      Maps h' (Function.update m k (some v)) := by
  have hl:=hashLookupEntry_none hm hb hk
  obtain ⟨c, L, hc⟩ := hm
  have hnot : ∀ e ∈ c (h.hashFunc h.buckets k), e.2.1 ≠ k := by
    rintro ⟨a', k', v'⟩ he rfl
    have hv:=(hc _ v').mpr ⟨_, a', he⟩
    rw [hk] at hv
    cases hv
  have hfresh:=L.not_mem_of_fresh ha
  obtain ⟨l, hs⟩ := L.linked (h.hashFunc h.buckets k)
  refine ⟨_, hashAddEntry_push L hb hl a v, rfl, rfl, ?_⟩
  refine L.replace (some v) ((a, k, v) :: c (h.hashFunc h.buckets k)) hc rfl rfl
    (fun b hbne => Function.update_of_ne hbne ..) ?_ ?_ ?_ ?_ ?_ ?_
  · -- the old head is in this bucket, the new node in none
    intro b hbne d hd
    refine lookup_push_ne h.heap _ ?_ ?_
    · rintro rfl
      exact hfresh b hd
    · intro hhead
      rw [hhead] at hs
      cases hcc : c (h.hashFunc h.buckets k) with
      | nil =>
        rw [hcc] at hs
        cases hs.2
      | cons e es =>
        obtain ⟨d', e⟩ := e
        rw [hcc] at hs
        refine L.ne_of_bucket_ne hbne hd ?_
        rw [Option.some.inj hs.1, hcc]
        exact List.mem_cons_self ..
  · obtain ⟨l', hs'⟩ := hs.push (hfresh _) (L.nodup _) (k, v)
    refine ⟨l', ?_⟩
    simpa using hs'
  · intro d k' w hne
    simp [hne]
  · intro w
    constructor
    · rintro ⟨d, hd⟩
      rcases List.mem_cons.mp hd with heq | hin
      · injection heq with _ heq
        injection heq with _ heq
        rw [heq]
      · exact absurd rfl (hnot _ hin)
    · intro heq
      rw [Option.some.inj heq]
      exact ⟨a, List.mem_cons_self ..⟩
  · refine List.nodup_cons.mpr ⟨fun hin => ?_, L.distinct _⟩
    obtain ⟨e, he, heq⟩ := List.mem_map.mp hin
    exact hnot e he heq
  · intro d hd
    by_cases hda : d = a
    · exact .inl (hda ▸ List.mem_cons_self ..)
    · by_cases hmem : d ∈ addresses (c (h.hashFunc h.buckets k))
      · exact .inl (List.mem_cons_of_mem _ hmem)
      · exact .inr ⟨(isSome_lookup_push h.heap (k, v) _ hda).symm.trans hd, hmem⟩

theorem hashFreeEntry_missing {h : Hash K V} {m : K → Option V} {k : K} (hm : Maps h m)
    (hb : h.hashFunc h.buckets k < h.buckets) (hk : m k = none) :
    hashFreeEntry h k = .error (.bug "hash node not found") := by
  have hl : hashGetNodeByKey h k = .ok none := hashLookupEntry_none hm hb hk
  simp only [hashFreeEntry, hl]
  rfl

/-- The node is unlinked from both sides and its block is given back. -/
theorem hashFreeEntry_bypass {h : Hash K V} {k : K} {v : V} {a : ℕ} {p n : Option ℕ}
    (hb : h.hashFunc h.buckets k < h.buckets) (hl : hashGetNodeByKey h k = .ok (some a))
    (hx : h.heap.lookup a = some ⟨(k, v), p, n⟩)
    (hp : ∀ q, p = some q → (h.heap.lookup q).isSome)
    (hn : ∀ m, n = some m → (h.heap.lookup m).isSome) :
    hashFreeEntry h k = .ok { h with
      nodes := if p = none then Function.update h.nodes (h.hashFunc h.buckets k) n else h.nodes
      heap := (NodeHeap.bypass h.heap p n).erase a } := by
  have hnode : node h.heap a = .ok ⟨(k, v), p, n⟩ := by rw [node, hx]
  simp only [hashFreeEntry, hl, hashGetBucket_ok hb]
  cases p with
  | none =>
    cases n with
    | none => simp [bind, Except.bind, pure, Except.pure, hnode, bypass, passNext, passPrev]
    | some m =>
      obtain ⟨y, hy⟩ := node_ok (hn m rfl)
      simp [bind, Except.bind, pure, Except.pure, hnode, hy, bypass, passNext, passPrev]
  | some q =>
    obtain ⟨y, hy⟩ := node_ok (hp q rfl)
    cases n with
    | none => simp [bind, Except.bind, pure, Except.pure, hnode, hy, bypass, passNext, passPrev]
    | some m =>
      have hm : ((NodeHeap.setNext h.heap q (some m)).lookup m).isSome := by
        rw [setNext, isSome_lookup_modify]
        exact hn m rfl
      obtain ⟨z, hz⟩ := node_ok hm
      simp [bind, Except.bind, pure, Except.pure, hnode, hy, hz, bypass, passNext, passPrev]

theorem hashFreeEntry_ok {h : Hash K V} {m : K → Option V} {k : K} {v : V} (hm : Maps h m)
    (hb : h.hashFunc h.buckets k < h.buckets) (hk : m k = some v) :
    ∃ h', hashFreeEntry h k = .ok h' ∧ h'.buckets = h.buckets ∧ h'.hashFunc = h.hashFunc ∧
      Maps h' (Function.update m k none) := by
  obtain ⟨c, L, hc⟩ := hm
  obtain ⟨b, a, he⟩ := (hc k v).mp hk
  have hl : hashGetNodeByKey h k = .ok (some a) := L.lookup_ok hb he
  obtain ⟨xs, ys, hsplit, hkx, hky, hdis⟩ := L.split he
  have hnd:=L.nodup b
  obtain ⟨l, hs⟩ := L.linked b
  obtain rfl := L.placed _ _ _ _ he
  rw [hsplit] at hnd hs
  obtain ⟨p, n, hx, hp, hn, l', hs'⟩ := hs.unlink hnd
  have hin : ∀ d, d ∈ addresses xs ∨ d ∈ addresses ys →
      d ∈ addresses (c (h.hashFunc h.buckets k)) := by
    intro d hd
    rw [hsplit]
    simp only [addresses, List.map_append, List.map_cons, List.mem_append, List.mem_cons] at hd ⊢
    tauto
  have hlive : ∀ d ∈ addresses (c (h.hashFunc h.buckets k)), (h.heap.lookup d).isSome := by
    intro d hd
    obtain ⟨⟨k', v'⟩, he'⟩ := mem_addresses.mp hd
    obtain ⟨p', n', hd'⟩ := L.lookup_of_mem he'
    rw [hd']
    rfl
  have hpin : ∀ q, p = some q → q ∈ addresses (c (h.hashFunc h.buckets k)) :=
    fun q hq => hin q (.inl (hp q hq))
  have hnin : ∀ q, n = some q → q ∈ addresses (c (h.hashFunc h.buckets k)) :=
    fun q hq => hin q (.inr (hn q hq))
  refine ⟨_, hashFreeEntry_bypass hb hl hx (fun q hq => hlive q (hpin q hq))
    (fun q hq => hlive q (hnin q hq)), rfl, rfl, ?_⟩
  refine L.replace none (xs ++ ys) hc rfl rfl ?_ ?_ ?_ ?_ ?_ hdis ?_
  · intro b hbne
    by_cases hpn : p = none
    · simp only [hpn, if_true]
      exact Function.update_of_ne hbne ..
    · simp only [if_neg hpn]
  · intro b hbne d hd
    have hnot:=L.ne_of_bucket_ne hbne hd
    have hda : d ≠ a := fun hda => hnot (hda ▸ mem_addresses.mpr ⟨_, he⟩)
    exact (Finmap.lookup_erase_ne hda).trans
      (lookup_bypass_ne h.heap (fun hq => hnot (hpin d hq)) (fun hq => hnot (hnin d hq)))
  · refine ⟨l', ?_⟩
    by_cases hpn : p = none
    · simpa [hpn] using hs'
    · simpa [hpn] using hs'
  · intro d k' w hne
    rw [hsplit]
    simp [hne]
  · intro w
    constructor
    · rintro ⟨d, hd⟩
      rcases List.mem_append.mp hd with hmem | hmem
      · exact absurd rfl (hkx _ hmem)
      · exact absurd rfl (hky _ hmem)
    · intro hw
      cases hw
  · intro d hd
    have hda : d ≠ a := by
      rintro rfl
      rw [Finmap.lookup_erase] at hd
      cases hd
    have hold : (h.heap.lookup d).isSome := by
      rw [← isSome_lookup_bypass h.heap p n d, ← Finmap.lookup_erase_ne hda]
      exact hd
    by_cases hmem : d ∈ addresses (c (h.hashFunc h.buckets k))
    · left
      rw [hsplit] at hmem
      simp only [addresses, List.map_append, List.map_cons, List.mem_append, List.mem_cons]
        at hmem ⊢
      tauto
    · exact .inr ⟨hold, hmem⟩

/-! ### Histories of calls -/

inductive Call (K V : Type)
  | add (a : ℕ) (k : K) (v : V)
  | lookup (k : K)
  | store (k : K) (v : V)
  | free (k : K)
deriving DecidableEq

/-- A call with what its callers do with the pointer: they read the value or
they overwrite it. -/
def perform (h : Hash K V) : Call K V → Except Fault (Hash K V × Option V)
  | .add a k v => do
    let h' ← hashAddEntry h a k v
    return (h', none)
  | .lookup k => do
    match ← hashLookupEntry h k with
    | none => return (h, none)
    | some a => do
      let v ← valueAt h a
      return (h, some v)
  | .store k v => do
    match ← hashLookupEntry h k with
    | none => return (h, none)
    | some a => do
      let h' ← storeAt h a v
      return (h', none)
  | .free k => do
    let h' ← hashFreeEntry h k
    return (h', none)

def Call.key : Call K V → K
  | .add _ k _ | .lookup k | .store k _ | .free k => k

/-- What the table is for: a finite map that refuses a key twice and the
removal of a key it does not hold. -/
def performMap (inRange : K → Bool) (m : K → Option V) (c : Call K V) :
    Except Fault ((K → Option V) × Option V) :=
  if inRange c.key then
    match c, m c.key with
    | .add _ k v, none => .ok (Function.update m k (some v), none)
    | .add _ _ _, some _ => .error (.bug "duplicate hash key")
    | .lookup _, r => .ok (m, r)
    | .store _ _, none => .ok (m, none)
    | .store k v, some _ => .ok (Function.update m k (some v), none)
    | .free _, none => .error (.bug "hash node not found")
    | .free k, some _ => .ok (Function.update m k none, none)
  else .error (.bug "bad bucket lookup")

def history {σ : Type} (f : σ → Call K V → Except Fault (σ × Option V)) :
    σ → List (Call K V) → List (Option V) × Except Fault σ
  | s, [] => ([], .ok s)
  | s, c :: cs =>
    match f s c with
    | .error e => ([], .error e)
    | .ok (s', r) => (r :: (history f s' cs).1, (history f s' cs).2)

def Call.Fresh (h : Hash K V) : Call K V → Prop
  | .add a _ _ => h.heap.lookup a = none
  | _ => True

/-- The contract of `malloc` along a history. -/
def Allocates : Hash K V → List (Call K V) → Prop
  | _, [] => True
  | h, c :: cs =>
    c.Fresh h ∧
      match perform h c with
      | .error _ => True
      | .ok (h', _) => Allocates h' cs

def inRange (buckets : ℕ) (hashFunc : ℕ → K → ℕ) (k : K) : Bool := hashFunc buckets k < buckets

/-- A call acts on the table as it acts on the map the table holds. -/
def Simulates (h : Hash K V) (m : K → Option V) (c : Call K V) : Prop :=
  (∃ e, perform h c = .error e ∧ performMap (inRange h.buckets h.hashFunc) m c = .error e) ∨
    ∃ h' m' r, perform h c = .ok (h', r) ∧
      performMap (inRange h.buckets h.hashFunc) m c = .ok (m', r) ∧
      h'.buckets = h.buckets ∧ h'.hashFunc = h.hashFunc ∧ Maps h' m'

section Simulation
variable {h : Hash K V} {m : K → Option V}

theorem simulates_add (hm : Maps h m) {a : ℕ} {k : K} (v : V)
    (hb : h.hashFunc h.buckets k < h.buckets) (ha : h.heap.lookup a = none) :
    Simulates h m (.add a k v) := by
  have hr : inRange h.buckets h.hashFunc k = true := by simpa [inRange] using hb
  cases hk : m k with
  | none =>
    obtain ⟨h', hadd, h1, h2, h3⟩ := hashAddEntry_ok hm hb hk ha v
    refine .inr ⟨h', _, none, ?_, ?_, h1, h2, h3⟩
    · simp only [perform, hadd]
      rfl
    · simp [performMap, hr, Call.key, hk]
  | some w =>
    refine .inl ⟨.bug "duplicate hash key", ?_, ?_⟩
    · simp only [perform, hashAddEntry_dup hm hb hk a v]
      rfl
    · simp [performMap, hr, Call.key, hk]

theorem simulates_lookup (hm : Maps h m) {k : K} (hb : h.hashFunc h.buckets k < h.buckets) :
    Simulates h m (.lookup k) := by
  have hr : inRange h.buckets h.hashFunc k = true := by simpa [inRange] using hb
  refine .inr ⟨h, m, m k, ?_, ?_, rfl, rfl, hm⟩
  · cases hk : m k with
    | none =>
      simp only [perform, hashLookupEntry_none hm hb hk]
      rfl
    | some w =>
      obtain ⟨a, hl, hv, _⟩ := storeAt_ok hm hb hk w
      simp only [perform, hl]
      simp [bind, Except.bind, hv, pure, Except.pure]
  · simp [performMap, hr, Call.key]

theorem simulates_store (hm : Maps h m) {k : K} (v : V)
    (hb : h.hashFunc h.buckets k < h.buckets) : Simulates h m (.store k v) := by
  have hr : inRange h.buckets h.hashFunc k = true := by simpa [inRange] using hb
  cases hk : m k with
  | none =>
    refine .inr ⟨h, m, none, ?_, ?_, rfl, rfl, hm⟩
    · simp only [perform, hashLookupEntry_none hm hb hk]
      rfl
    · simp [performMap, hr, Call.key, hk]
  | some w =>
    obtain ⟨a, hl, _, h', hs, h1, h2, h3⟩ := storeAt_ok hm hb hk v
    refine .inr ⟨h', _, none, ?_, ?_, h1, h2, h3⟩
    · simp only [perform, hl]
      simp [bind, Except.bind, hs, pure, Except.pure]
    · simp [performMap, hr, Call.key, hk]

theorem simulates_free (hm : Maps h m) {k : K} (hb : h.hashFunc h.buckets k < h.buckets) :
    Simulates h m (.free k) := by
  have hr : inRange h.buckets h.hashFunc k = true := by simpa [inRange] using hb
  cases hk : m k with
  | none =>
    refine .inl ⟨.bug "hash node not found", ?_, ?_⟩
    · simp only [perform, hashFreeEntry_missing hm hb hk]
      rfl
    · simp [performMap, hr, Call.key, hk]
  | some w =>
    obtain ⟨h', hf, h1, h2, h3⟩ := hashFreeEntry_ok hm hb hk
    refine .inr ⟨h', _, none, ?_, ?_, h1, h2, h3⟩
    · simp only [perform, hf]
      rfl
    · simp [performMap, hr, Call.key, hk]

/-- A hash function that leaves the range ends every call. -/
theorem simulates_bad {c : Call K V} (hb : ¬ h.hashFunc h.buckets c.key < h.buckets) :
    Simulates h m c := by
  have hr : inRange h.buckets h.hashFunc c.key = false := by simpa [inRange] using hb
  have hl:=hashLookupEntry_bad hb
  refine .inl ⟨.bug "bad bucket lookup", ?_, by simp [performMap, hr]⟩
  cases c with
  | add a k v =>
    have hl' : hashLookupEntry h k = _ := hl
    simp only [perform, hashAddEntry, hl']
    rfl
  | lookup k =>
    have hl' : hashLookupEntry h k = _ := hl
    simp only [perform, hl']
    rfl
  | store k v =>
    have hl' : hashLookupEntry h k = _ := hl
    simp only [perform, hl']
    rfl
  | free k =>
    have hl' : hashGetNodeByKey h k = _ := hl
    simp only [perform, hashFreeEntry, hl']
    rfl

theorem perform_simulates (hm : Maps h m) (c : Call K V) (ha : c.Fresh h) :
    Simulates h m c := by
  by_cases hb : h.hashFunc h.buckets c.key < h.buckets
  · cases c with
    | add a k v => exact simulates_add hm v hb ha
    | lookup k => exact simulates_lookup hm hb
    | store k v => exact simulates_store hm v hb
    | free k => exact simulates_free hm hb
  · exact simulates_bad hb

end Simulation

theorem history_simulates {h : Hash K V} {m : K → Option V} (hm : Maps h m) (cs : List (Call K V))
    (ha : Allocates h cs) :
    (history perform h cs).1 = (history (performMap (inRange h.buckets h.hashFunc)) m cs).1 ∧
      ((∃ e, (history perform h cs).2 = .error e ∧
          (history (performMap (inRange h.buckets h.hashFunc)) m cs).2 = .error e) ∨
        ∃ h' m', (history perform h cs).2 = .ok h' ∧
          (history (performMap (inRange h.buckets h.hashFunc)) m cs).2 = .ok m' ∧
          Exact h' m') := by
  induction cs generalizing h m with
  | nil => exact ⟨rfl, .inr ⟨h, m, rfl, rfl, hm.exact⟩⟩
  | cons c cs ih =>
    obtain ⟨hfresh, hrest⟩ := ha
    rcases perform_simulates hm c hfresh with ⟨e, h1, h2⟩ | ⟨h', m', r, h1, h2, hbk, hf, hm'⟩
    · simp only [history, h1, h2]
      exact ⟨trivial, .inl ⟨e, rfl, rfl⟩⟩
    · rw [h1] at hrest
      have hnext:=ih hm' hrest
      rw [hbk, hf] at hnext
      simp only [history, h1, h2]
      exact ⟨by rw [hnext.1], hnext.2⟩

/-- From `hash_alloc` on, every history of calls answers as a finite map does,
ends by the same `bug()` where the map refuses, dereferences no dead block and
leaves exactly one block for each entry. -/
theorem hash_refines_map (buckets : ℕ) (hashFunc : ℕ → K → ℕ) (cs : List (Call K V))
    (ha : Allocates (hashAlloc buckets hashFunc) cs) :
    (history perform (hashAlloc buckets hashFunc) cs).1 =
        (history (performMap (inRange buckets hashFunc)) (fun _ => none) cs).1 ∧
      ((∃ e, (history perform (hashAlloc buckets hashFunc) cs).2 = .error e ∧
          (history (performMap (inRange buckets hashFunc)) (fun _ => none) cs).2 = .error e) ∨
        ∃ h' m', (history perform (hashAlloc buckets hashFunc) cs).2 = .ok h' ∧
          (history (performMap (inRange buckets hashFunc)) (fun _ => none) cs).2 = .ok m' ∧
          Exact h' m') :=
  history_simulates ⟨_, Layout.alloc buckets hashFunc, fun k v => by simp⟩ cs ha

/-- Two keys that share a bucket, the older one removed first, its block given
out again. -/
def collision : List (Call ℕ ℕ) :=
  [.add 7 1 10, .add 9 3 30, .store 1 11, .free 1, .add 7 5 50, .lookup 3, .lookup 1, .free 1]

theorem hash_refines_map_collision :
    (history perform (hashAlloc 2 fun n k => k % n) collision).1 =
      [none, none, none, none, none, some 30, none] := by
  have ha : Allocates (hashAlloc 2 fun n k => k % n) collision :=
    ⟨rfl, rfl, trivial, trivial, rfl, trivial, trivial, trivial, trivial⟩
  rw [(hash_refines_map 2 (fun n k => k % n) collision ha).1]
  rfl

end Calls

end BoardServices.Vsftpd
