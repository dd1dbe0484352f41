import BoardServices.Tb573d.Blocks

/-!
# The single-byte helpers

What a helper for one byte does beside the helper for a block of one byte, for
every answer of the environment, and what it returns. The comments of the
helpers promise 0 for success; the two for a byte return what the transfer
returned, which is the number of its messages.
-/

namespace BoardServices.Tb573d
open Lib.Process Lib.Strings

variable (env : Env)

/-- The call issued its transfer, and the transfer was carried out. -/
def Carried (w w' : World) : Prop :=
  w'.transfers = w.transfers + 1 ∧ env.transfers w.transfers = .ok

/-- What the comment of a helper promises, where `ret` is the value it returns. -/
structure Documented {α : Type} (ret : α → ℤ) (w : World) (run : Except Ending α × World) :
    Prop where
  returns : (∀ j < 3, env.mallocs (w.mallocs + j) = true) → ∃ v, run.1 = .ok v
  zero : ∀ v, run.1 = .ok v → Carried env w run.2 → ret v = 0
  negative : ∀ v, run.1 = .ok v → ¬ Carried env w run.2 → ret v < 0

/-- The helpers for a byte against the helpers for a block of one byte. -/
structure AccessorsAgree (fd : Fd) (addr offset : ℤ) (b cur : Byte) (w : World) : Prop where
  write : (i2cDataWriteByte env fd addr offset b w).2 = (i2cDataWriteStr env fd addr offset [b] w).2
  read : ∀ ret got, (i2cDataReadByte env fd addr offset cur w).1 = .ok (ret, got) →
    ∃ ret', (i2cDataReadStr env fd addr offset [cur] w).1 = .ok (ret', [got])
  untouched : ∀ ret got, (i2cDataReadByte env fd addr offset cur w).1 = .ok (ret, got) →
    ¬ Carried env w (i2cDataReadByte env fd addr offset cur w).2 → got = cur
  writeByte : Documented env id w (i2cDataWriteByte env fd addr offset b w)
  readByte : Documented env Prod.fst w (i2cDataReadByte env fd addr offset cur w)
  readStr : Documented env Prod.fst w (i2cDataReadStr env fd addr offset [cur] w)

/-! ### Return values -/

theorem carried_exchange_iff (fd : Fd) (msgs : List I2cMsg) {w u : World}
    (hu : u.transfers = w.transfers) :
    Carried env w (exchange env fd msgs u).2 ↔ Succeeds env fd w := by
  unfold Carried Succeeds
  rw [and_congr_left_iff]
  intro _
  cases fd with
  | none =>
    refine iff_of_false (fun h => ?_) Bool.false_ne_true
    have hsame : u.transfers = w.transfers + 1 := h
    omega
  | some path =>
    rw [exchange_transfers, hu]
    exact iff_of_true rfl rfl

/-- A helper that returns what a failed transfer returned keeps its promise if the
value for success is 0. -/
theorem documented_of_exchange {α : Type} {ret : α → ℤ} {v v' : α} {w u w' : World} {fd : Fd}
    {msgs : List I2cMsg} {run : Except Ending α × World}
    (hrun : run = if (exchange env fd msgs u).1.1 < 0 then (.ok v, (exchange env fd msgs u).2)
      else (.ok v', w')) (hu : u.transfers = w.transfers)
    (hw' : w'.transfers = (exchange env fd msgs u).2.transfers)
    (hv : ret v = (exchange env fd msgs u).1.1) :
    Documented env ret w run ↔ (Succeeds env fd w → ret v' = 0) := by
  have hcarried:=carried_exchange_iff env fd msgs hu
  have hneg:=exchange_neg_iff env fd msgs u
  rw [Succeeds, hu] at hneg
  split at hrun
  · rename_i hlt
    have hfail:=hneg.mp hlt
    subst hrun
    refine iff_of_true ⟨fun _ => ⟨v, rfl⟩, ?_, ?_⟩ fun h => absurd h hfail
    · intro _ _ hc
      exact absurd (hcarried.mp hc) hfail
    · intro y hy _
      cases hy
      rw [hv]
      exact hlt
  · rename_i hge
    have hok : Succeeds env fd w := not_not.mp (hneg.not.mp hge)
    have hdone : Carried env w w' := by
      unfold Carried
      rw [hw']
      exact hcarried.mpr hok
    subst hrun
    refine ⟨fun h _ => h.zero v' rfl hdone, fun h => ⟨fun _ => ⟨v', rfl⟩, ?_, ?_⟩⟩
    · intro y hy _
      cases hy
      exact h hok
    · intro _ _ hn
      exact absurd hdone hn

theorem documented_of_error {α : Type} {ret : α → ℤ} {w w' : World} {e : Ending}
    (h : ¬ ∀ j < 3, env.mallocs (w.mallocs + j) = true) :
    Documented env ret w (.error e, w') := by
  refine ⟨fun hm => absurd hm h, ?_, ?_⟩
  · intro _ hv
    cases hv
  · intro _ hv
    cases hv

theorem refused_mem {w : World} {j : ℕ} (hj : j < 3) (h : env.mallocs (w.mallocs + j) = false) :
    ¬ ∀ j < 3, env.mallocs (w.mallocs + j) = true := by
  intro hall
  rw [hall j hj] at h
  cases h

/-! ### The four helpers -/

section Helpers
variable (fd : Fd) (addr offset : ℤ) (w : World)

theorem i2cDataWriteByte_world (b : Byte) :
    (i2cDataWriteByte env fd addr offset b w).2 =
      (i2cDataWriteStr env fd addr offset [b] w).2 := by
  cases h0 : env.mallocs w.mallocs with
  | false => rw [i2cDataWriteByte_refused env fd addr offset b h0,
      i2cDataWriteStr_refused env fd addr offset [b] h0]
  | true =>
    cases h1 : env.mallocs (w.mallocs + 1) with
    | false => rw [i2cDataWriteByte_faults env fd addr offset b h0 h1,
        i2cDataWriteStr_faults env fd addr offset b [] h0 h1]
    | true =>
      rw [i2cDataWriteByte_run env fd addr offset b h0 h1,
        i2cDataWriteStr_run env fd addr offset [b] h0 h1, sent_one]
      dsimp only
      split
      · rfl
      · rfl

theorem i2cDataWriteByte_documented_iff (b : Byte) :
    Documented env id w (i2cDataWriteByte env fd addr offset b w) ↔
      ¬ (env.mallocs w.mallocs = true ∧ env.mallocs (w.mallocs + 1) = true ∧
        Succeeds env fd w) := by
  cases h0 : env.mallocs w.mallocs with
  | false =>
    rw [i2cDataWriteByte_refused env fd addr offset b h0]
    refine iff_of_true ⟨fun _ => ⟨_, rfl⟩, ?_, ?_⟩ fun h => nomatch h.1
    · rintro v hv ⟨hsame, _⟩
      exact absurd hsame (Nat.ne_of_lt (Nat.lt_succ_self w.transfers))
    · intro v hv _
      cases hv
      exact Int.negSucc_lt_zero 0
  | true =>
    cases h1 : env.mallocs (w.mallocs + 1) with
    | false =>
      rw [i2cDataWriteByte_faults env fd addr offset b h0 h1]
      exact iff_of_true (documented_of_error env (refused_mem env (j := 1) (by decide) h1))
        fun h => nomatch h.2.1
    | true =>
      refine Iff.trans (documented_of_exchange env
        (i2cDataWriteByte_run env fd addr offset b h0 h1) rfl rfl rfl) ?_
      constructor
      · rintro h ⟨_, _, hs⟩
        obtain ⟨path, rfl⟩ := Option.isSome_iff_exists.mp hs.1
        have hzero:=h hs
        rw [exchange_ok env (w := w.malloced.malloced) hs.2] at hzero
        cases hzero
      · exact fun h hs => absurd ⟨rfl, rfl, hs⟩ h

theorem i2cDataReadStr_documented (cur : Byte) :
    Documented env Prod.fst w (i2cDataReadStr env fd addr offset [cur] w) := by
  cases h0 : env.mallocs w.mallocs with
  | false =>
    rw [i2cDataReadStr_refused env fd addr offset [cur] h0]
    exact documented_of_error env (refused_mem env (j := 0) (by decide) h0)
  | true =>
    cases h1 : env.mallocs (w.mallocs + 1) with
    | false =>
      rw [i2cDataReadStr_faults env fd addr offset [cur] h0 h1]
      exact documented_of_error env (refused_mem env (j := 1) (by decide) h1)
    | true =>
      exact Iff.mpr (documented_of_exchange env
        (i2cDataReadStr_run env fd addr offset [cur] h0 h1) rfl rfl rfl) fun _ => rfl

theorem i2cDataReadByte_memory {cur got : Byte} {ret : ℤ}
    (h : (i2cDataReadByte env fd addr offset cur w).1 = .ok (ret, got)) :
    env.mallocs w.mallocs = true ∧ env.mallocs (w.mallocs + 1) = true ∧
      env.mallocs (w.mallocs + 2) = true := by
  by_contra hn
  obtain ⟨e, v, he⟩ := i2cDataReadByte_ends env fd addr offset cur hn
  rw [he] at h
  cases h

/-- The first byte that a read brings does not depend on what the memory holds that
it is read into. -/
theorem i2cDataReadByte_result {cur got : Byte} {ret : ℤ}
    (h : (i2cDataReadByte env fd addr offset cur w).1 = .ok (ret, got)) :
    (∃ ret', (i2cDataReadStr env fd addr offset [cur] w).1 = .ok (ret', [got])) ∧
      (¬ Succeeds env fd w → got = cur) := by
  obtain ⟨h0, h1, h2⟩ := i2cDataReadByte_memory env fd addr offset w h
  rw [i2cDataReadByte_run env fd addr offset cur h0 h1 h2] at h
  rw [i2cDataReadStr_run env fd addr offset [cur] h0 h1]
  by_cases hs : Succeeds env fd w
  · obtain ⟨path, rfl⟩ := Option.isSome_iff_exists.mp hs.1
    have hx:=exchange_read env path (w := w.malloced.malloced) addr offset [cur] hs.2
    have hy:=exchange_read env path (w := w.malloced.malloced.malloced) addr offset [0]
      hs.2
    rw [hy] at h
    rw [hx]
    cases h
    exact ⟨⟨0, rfl⟩, fun hn => absurd hs hn⟩
  · have hx:=exchange_fails env fd (readMsgs addr offset [cur])
      (w := w.malloced.malloced) hs
    have hy:=exchange_fails env fd (readMsgs addr offset [0])
      (w := w.malloced.malloced.malloced) hs
    rw [if_pos hy.1] at h
    rw [if_pos hx.1, hx.2]
    cases h
    exact ⟨⟨_, rfl⟩, fun _ => rfl⟩

theorem i2cDataReadByte_documented (cur : Byte) (hs : ¬ (env.mallocs w.mallocs = true ∧
      env.mallocs (w.mallocs + 1) = true ∧ Succeeds env fd w)) :
    Documented env Prod.fst w (i2cDataReadByte env fd addr offset cur w) := by
  by_cases hmem : env.mallocs w.mallocs = true ∧ env.mallocs (w.mallocs + 1) = true ∧
      env.mallocs (w.mallocs + 2) = true
  · obtain ⟨h0, h1, h2⟩ := hmem
    exact Iff.mpr (documented_of_exchange env
      (i2cDataReadByte_run env fd addr offset cur h0 h1 h2) rfl rfl rfl)
        fun h => absurd ⟨h0, h1, h⟩ hs
  · obtain ⟨e, v, he⟩ := i2cDataReadByte_ends env fd addr offset cur hmem
    rw [he]
    exact documented_of_error env fun hall =>
      hmem ⟨hall 0 (by decide), hall 1 (by decide), hall 2 (by decide)⟩

end Helpers

/-- The helpers for a byte agree with those for a block of one byte, except that
they return the number of messages where 0 is promised: exactly if a transfer is
carried out. -/
theorem accessors_agree_iff_no_transfer_succeeds (fd : Fd) (addr offset : ℤ) (b cur : Byte)
    (w : World) :
    AccessorsAgree env fd addr offset b cur w ↔
      ¬ (env.mallocs w.mallocs = true ∧ env.mallocs (w.mallocs + 1) = true ∧
        Succeeds env fd w) := by
  refine ⟨fun h => (i2cDataWriteByte_documented_iff env fd addr offset w b).mp h.writeByte, ?_⟩
  intro hs
  refine ⟨i2cDataWriteByte_world env fd addr offset w b, ?_, ?_,
    (i2cDataWriteByte_documented_iff env fd addr offset w b).mpr hs,
    i2cDataReadByte_documented env fd addr offset w cur hs,
    i2cDataReadStr_documented env fd addr offset w cur⟩
  · intro ret got h
    exact (i2cDataReadByte_result env fd addr offset w h).1
  · intro ret got h _
    have hmem:=i2cDataReadByte_memory env fd addr offset w h
    exact (i2cDataReadByte_result env fd addr offset w h).2 fun hok => hs ⟨hmem.1, hmem.2.1, hok⟩

/-- Writing one byte succeeds and returns 1. -/
theorem write_byte_returns_message_count :
    ¬ AccessorsAgree steady (some I2C_DEVICE_PATH) I2C_ADDRESS REG_ALS_EN 1 0 idle := by
  intro h
  exact absurd (h.writeByte.zero 1 rfl ⟨rfl, rfl⟩) (by decide)

end BoardServices.Tb573d
