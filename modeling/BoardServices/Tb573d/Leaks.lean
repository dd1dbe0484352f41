import Mathlib.Data.List.Perm.Basic
import Mathlib.Logic.Function.Iterate
import BoardServices.Tb573d.Effects
import BoardServices.Tb573d.Program

/-!
# Memory of the helpers

A helper frees its blocks at its end only. So it releases what it allocated
exactly if each of its transfers is carried out, and the endless loop of the
command `test` loses two blocks with each transfer that fails.
-/

namespace BoardServices.Tb573d
open Lib.Process Lib.Strings

variable (env : Env)

/-- The call returns, with the blocks live that were live before it. -/
def ReleasesAll {α : Type} (m : Process α) (w : World) : Prop :=
  ∃ v w', m w = (.ok v, w') ∧ w'.live.Perm w.live

/-! ### Blocks -/

/-- Freeing what was allocated, in any order, gives back the list up to order. -/
theorem append_diff_perm (l bs cs : List ℕ) (h : cs.Perm bs) : ((l ++ bs).diff cs).Perm l := by
  rw [← Multiset.coe_eq_coe, ← Multiset.coe_sub, Multiset.coe_eq_coe.mpr h, ← Multiset.coe_add,
    add_tsub_cancel_right]

theorem not_append_perm {l bs : List ℕ} (hb : bs ≠ []) : ¬ (l ++ bs).Perm l := by
  intro h
  have hl:=h.length_eq
  have hpos:=List.length_pos_of_ne_nil hb
  rw [List.length_append] at hl
  omega

theorem freed_two_perm {w : World} {l : List ℕ} {a b : ℕ} (h : w.live = l ++ [a, b]) :
    ((w.freed b).freed a).live.Perm l := by
  have hp:=append_diff_perm l [a, b] [b, a] (List.Perm.swap a b [])
  rw [← h, List.diff_cons, List.diff_cons, List.diff_nil] at hp
  exact hp

/-! ### The transfers of a write -/

theorem sent_live (fd : Fd) (addr : BitVec 16) (reg : Byte) (bs : List Byte) (w : World) :
    (sent env fd addr reg bs w).2.live = w.live := by
  induction bs generalizing reg w with
  | nil => rfl
  | cons b bs ih =>
    have hx:=(exchange_frame env fd [writeByteMsg addr reg b] w).2.1
    unfold sent
    dsimp only
    split
    · exact hx
    · rw [ih, hx]

def AllSucceed (fd : Fd) (n : ℕ) (w : World) : Prop :=
  ∀ j < n, fd.isSome = true ∧ env.transfers (w.transfers + j) = .ok

theorem sent_none_iff (fd : Fd) (addr : BitVec 16) (reg : Byte) (bs : List Byte) (w : World) :
    (sent env fd addr reg bs w).1 = none ↔ AllSucceed env fd bs.length w := by
  induction bs generalizing reg w with
  | nil => exact iff_of_true rfl fun j hj => absurd hj (Nat.not_lt_zero j)
  | cons b bs ih =>
    unfold sent
    dsimp only
    split
    · rename_i hneg
      rw [exchange_neg_iff] at hneg
      refine iff_of_false (by simp) ?_
      intro hall
      exact hneg (hall 0 (by simp))
    · rename_i hpos
      rw [exchange_neg_iff, not_not] at hpos
      obtain ⟨path, rfl⟩ := Option.isSome_iff_exists.mp hpos.1
      rw [ih]
      unfold AllSucceed
      rw [exchange_transfers, List.length_cons]
      constructor
      · intro h j hj
        cases j with
        | zero => exact hpos
        | succ j =>
          have hj':=h j (by omega)
          rwa [Nat.add_assoc, Nat.add_comm 1] at hj'
      · intro h j hj
        rw [Nat.add_assoc, Nat.add_comm 1]
        exact h (j + 1) (by omega)

/-! ### The four helpers -/

theorem releasesAll_of_run {α : Type} {m : Process α} {v : α} {w w' : World}
    (h : m w = (.ok v, w')) : ReleasesAll m w ↔ w'.live.Perm w.live := by
  refine ⟨?_, fun hp => ⟨v, w', h, hp⟩⟩
  rintro ⟨u, w'', hu, hp⟩
  rw [h] at hu
  cases hu
  exact hp

/-- A helper with one transfer that frees its blocks only behind it. -/
theorem releasesAll_of_exchange {α : Type} {m : Process α} {v v' : α} {w u w' : World} {fd : Fd}
    {msgs : List I2cMsg} {bs : List ℕ} (hu : u.transfers = w.transfers)
    (hlive : u.live = w.live ++ bs) (hb : bs ≠ []) (hfreed : w'.live.Perm w.live)
    (hrun : m w = if (exchange env fd msgs u).1.1 < 0 then (.ok v, (exchange env fd msgs u).2)
      else (.ok v', w')) :
    ReleasesAll m w ↔ Succeeds env fd w := by
  have hs:=exchange_neg_iff env fd msgs u
  rw [Succeeds, hu] at hs
  split at hrun
  · rename_i hneg
    rw [releasesAll_of_run hrun, (exchange_frame env fd msgs u).2.1, hlive]
    exact iff_of_false (not_append_perm hb) (hs.mp hneg)
  · rename_i hpos
    rw [releasesAll_of_run hrun]
    exact iff_of_true hfreed (not_not.mp (hs.not.mp hpos))

section Helpers
variable (hm : ∀ n, env.mallocs n = true) (fd : Fd) (addr offset : ℤ) (w : World)
include hm

theorem i2cDataWriteByte_releases_iff (buf : Byte) :
    ReleasesAll (i2cDataWriteByte env fd addr offset buf) w ↔ Succeeds env fd w := by
  have hrun:=i2cDataWriteByte_run env fd addr offset buf (hm w.mallocs) (hm (w.mallocs + 1))
  have hlive:=(exchange_frame env fd [writeByteMsg (BitVec.ofInt 16 addr) (uchar offset) buf]
    w.malloced.malloced).2.1.trans (List.append_assoc w.live [w.mallocs] [w.mallocs + 1])
  exact releasesAll_of_exchange env (u := w.malloced.malloced) rfl
    (List.append_assoc w.live [w.mallocs] [w.mallocs + 1]) (by simp) (freed_two_perm hlive) hrun

theorem i2cDataReadStr_releases_iff (buf : List Byte) :
    ReleasesAll (i2cDataReadStr env fd addr offset buf) w ↔ Succeeds env fd w := by
  have hrun:=i2cDataReadStr_run env fd addr offset buf (hm w.mallocs) (hm (w.mallocs + 1))
  have hlive:=(exchange_frame env fd (readMsgs addr offset buf) w.malloced.malloced).2.1.trans
    (List.append_assoc w.live [w.mallocs] [w.mallocs + 1])
  exact releasesAll_of_exchange env (u := w.malloced.malloced) rfl
    (List.append_assoc w.live [w.mallocs] [w.mallocs + 1]) (by simp) (freed_two_perm hlive) hrun

theorem i2cDataReadByte_releases_iff (buf : Byte) :
    ReleasesAll (i2cDataReadByte env fd addr offset buf) w ↔ Succeeds env fd w := by
  have hrun:=i2cDataReadByte_run env fd addr offset buf (hm w.mallocs) (hm (w.mallocs + 1))
    (hm (w.mallocs + 2))
  have hthree : w.malloced.malloced.malloced.live =
      w.live ++ [w.mallocs, w.mallocs + 1, w.mallocs + 2] := by
    simp [World.malloced]
  have hlive:=(exchange_frame env fd (readMsgs addr offset [0]) w.malloced.malloced.malloced).2.1
  refine releasesAll_of_exchange env (u := w.malloced.malloced.malloced) rfl hthree (by simp) ?_ hrun
  -- the register block is freed before the data block
  have hp:=append_diff_perm w.live [w.mallocs, w.mallocs + 1, w.mallocs + 2]
    [w.mallocs + 1, w.mallocs + 2, w.mallocs] (List.perm_append_singleton _ [_, _])
  rw [← hthree, ← hlive, List.diff_cons, List.diff_cons, List.diff_cons, List.diff_nil] at hp
  exact hp

theorem i2cDataWriteStr_releases_iff (buf : List Byte) :
    ReleasesAll (i2cDataWriteStr env fd addr offset buf) w ↔ AllSucceed env fd buf.length w := by
  have hrun:=i2cDataWriteStr_run env fd addr offset buf (hm w.mallocs) (hm (w.mallocs + 1))
  have hlive:=(sent_live env fd (BitVec.ofInt 16 addr) (uchar offset) buf
    w.malloced.malloced).trans (List.append_assoc w.live [w.mallocs] [w.mallocs + 1])
  have hnone:=sent_none_iff env fd (BitVec.ofInt 16 addr) (uchar offset) buf w.malloced.malloced
  dsimp only at hrun
  cases hsent : (sent env fd (BitVec.ofInt 16 addr) (uchar offset) buf w.malloced.malloced).1 with
  | none =>
    rw [hsent] at hrun hnone
    rw [releasesAll_of_run hrun]
    exact iff_of_true (freed_two_perm hlive) (hnone.mp rfl)
  | some ret =>
    rw [hsent] at hrun hnone
    rw [releasesAll_of_run hrun, hlive]
    exact iff_of_false (not_append_perm (by simp)) fun hall => nomatch hnone.mpr hall

end Helpers

/-! ### The endless loop -/

/-- One iteration of the loop, whatever comes of its transfer. -/
def resend (fd : Fd) (sleep : BitVec 32) (w : World) : World :=
  let sent := (i2cDataWriteStr env fd I2C_ADDRESS_TEST REG_ALS_EN [0xf5] w).2
  { sent with
    devices := env.sleeps sent.sleeps sleep sent.devices
    sleeps := sent.sleeps + 1 }

/-- Blocks lost in the first `n` of the transfers from number `t` on. -/
def lost (t : ℕ) : ℕ → ℕ
  | 0 => 0
  | n + 1 => (if env.transfers t = .ok then 0 else 2) + lost (t + 1) n

theorem lost_zero_iff (t n : ℕ) : lost env t n = 0 ↔ ∀ j < n, env.transfers (t + j) = .ok := by
  induction n generalizing t with
  | zero => exact iff_of_true rfl fun j hj => absurd hj (Nat.not_lt_zero j)
  | succ n ih =>
    rw [lost, Nat.add_eq_zero_iff, ih]
    constructor
    · rintro ⟨h0, h⟩ j hj
      cases j with
      | zero =>
        by_contra hf
        rw [Nat.add_zero] at hf
        rw [if_neg hf] at h0
        cases h0
      | succ j =>
        rw [← Nat.succ_add_eq_add_succ]
        exact h j (by omega)
    · intro h
      refine ⟨if_pos (h 0 (by omega)), fun j hj => ?_⟩
      have hj':=h (j + 1) (by omega)
      rwa [← Nat.succ_add_eq_add_succ] at hj'

section Loop
variable (hm : ∀ n, env.mallocs n = true) (sleep : BitVec 32)
include hm

theorem i2cDataWriteStr_returns (fd : Fd) (addr offset : ℤ) (buf : List Byte) (w : World) :
    ∃ v, i2cDataWriteStr env fd addr offset buf w =
      (.ok v, (i2cDataWriteStr env fd addr offset buf w).2) := by
  have hrun:=i2cDataWriteStr_run env fd addr offset buf (hm w.mallocs) (hm (w.mallocs + 1))
  rw [hrun]
  dsimp only
  cases (sent env fd (BitVec.ofInt 16 addr) (uchar offset) buf w.malloced.malloced).1 with
  | none => exact ⟨_, rfl⟩
  | some ret => exact ⟨_, rfl⟩

theorem sendLoop_run (fd : Fd) (n : ℕ) (w : World) :
    sendLoop env fd sleep n w = (.error .killed, (resend env fd sleep)^[n] w) := by
  induction n generalizing w with
  | zero => rfl
  | succ n ih =>
    obtain ⟨v, hv⟩ := i2cDataWriteStr_returns env hm fd I2C_ADDRESS_TEST REG_ALS_EN [0xf5] w
    unfold sendLoop
    rw [bind_ok hv, bind_ok (usleep_run env sleep _), ih, Function.iterate_succ_apply]
    rfl

theorem resend_step (path : CString) (w : World) :
    (resend env (some path) sleep w).transfers = w.transfers + 1 ∧
      (resend env (some path) sleep w).live.length = w.live.length + lost env w.transfers 1 := by
  have hrun:=i2cDataWriteStr_run env (some path) I2C_ADDRESS_TEST REG_ALS_EN [0xf5]
    (hm w.mallocs) (hm (w.mallocs + 1))
  have hneg:=exchange_neg_iff env (some path)
    [writeByteMsg (BitVec.ofInt 16 I2C_ADDRESS_TEST) (uchar REG_ALS_EN) 0xf5] w.malloced.malloced
  have hcount:=exchange_transfers env path
    [writeByteMsg (BitVec.ofInt 16 I2C_ADDRESS_TEST) (uchar REG_ALS_EN) 0xf5] w.malloced.malloced
  have hlive:=(exchange_frame env (some path)
    [writeByteMsg (BitVec.ofInt 16 I2C_ADDRESS_TEST) (uchar REG_ALS_EN) 0xf5]
    w.malloced.malloced).2.1.trans (List.append_assoc w.live [w.mallocs] [w.mallocs + 1])
  rw [sent_one] at hrun
  dsimp only at hrun
  unfold resend
  by_cases ht : env.transfers w.transfers = .ok
  · rw [if_neg (hneg.not.mpr (not_not.mpr ⟨rfl, ht⟩))] at hrun
    simp only [hrun]
    refine ⟨hcount, ?_⟩
    rw [(freed_two_perm hlive).length_eq, lost, if_pos ht]
    rfl
  · rw [if_pos (hneg.mpr fun h => ht h.2)] at hrun
    simp only [hrun]
    refine ⟨hcount, ?_⟩
    rw [hlive, List.length_append, lost, if_neg ht]
    rfl

theorem resend_iterate (path : CString) (n : ℕ) (w : World) :
    ((resend env (some path) sleep)^[n] w).live.length =
      w.live.length + lost env w.transfers n := by
  induction n generalizing w with
  | zero => rfl
  | succ n ih =>
    obtain ⟨hcount, hlive⟩ := resend_step env hm sleep path w
    rw [Function.iterate_succ_apply, ih, hcount, hlive]
    simp only [lost]
    omega

theorem i2cKeepSendingData_live (n : ℕ) (w : World) :
    (i2cKeepSendingData env sleep n w).2.live.length =
      w.live.length + if env.opens w.opens then lost env w.transfers n else 0 := by
  have hrun : i2cKeepSendingData env sleep n w = if env.opens w.opens
      then sendLoop env (some I2C_DEVICE_PATH_TEST) (if sleep < 100 then 100 else sleep) n w.opened
      else (.ok (-1), w.opened) :=
    openFd_or_fails env I2C_DEVICE_PATH_TEST _ w
  rw [hrun]
  cases env.opens w.opens with
  | false => rfl
  | true =>
    rw [if_pos rfl, if_pos rfl, sendLoop_run env hm]
    exact resend_iterate env hm _ I2C_DEVICE_PATH_TEST n _

theorem i2cKeepSendingData_balanced_iff (w : World) :
    (∀ n, (i2cKeepSendingData env sleep n w).2.live.length = w.live.length) ↔
      (env.opens w.opens = true → ∀ j, env.transfers (w.transfers + j) = .ok) := by
  simp only [i2cKeepSendingData_live env hm]
  cases env.opens w.opens with
  | false => exact iff_of_true (fun _ => rfl) (fun h => nomatch h)
  | true =>
    simp only [if_true, true_imp_iff, Nat.add_eq_left, lost_zero_iff]
    exact ⟨fun h j => h (j + 1) j (Nat.lt_succ_self j), fun h n j _ => h j⟩

end Loop

/-- Each helper releases what it allocated exactly if its transfers are carried
out, and the endless loop keeps the number of live blocks exactly if all of its
transfers ever are. -/
theorem helpers_release_iff_transfers_succeed (hm : ∀ n, env.mallocs n = true) :
    (∀ fd addr offset buf w,
        ReleasesAll (i2cDataWriteByte env fd addr offset buf) w ↔ Succeeds env fd w) ∧
      (∀ fd addr offset buf w,
        ReleasesAll (i2cDataWriteStr env fd addr offset buf) w ↔ AllSucceed env fd buf.length w) ∧
      (∀ fd addr offset buf w,
        ReleasesAll (i2cDataReadByte env fd addr offset buf) w ↔ Succeeds env fd w) ∧
      (∀ fd addr offset buf w,
        ReleasesAll (i2cDataReadStr env fd addr offset buf) w ↔ Succeeds env fd w) ∧
      ∀ sleep w,
        (∀ n, (i2cKeepSendingData env sleep n w).2.live.length = w.live.length) ↔
          (env.opens w.opens = true → ∀ j, env.transfers (w.transfers + j) = .ok) := by
  refine ⟨?_, ?_, ?_, ?_, ?_⟩
  · intro fd addr offset buf w
    exact i2cDataWriteByte_releases_iff env hm fd addr offset w buf
  · intro fd addr offset buf w
    exact i2cDataWriteStr_releases_iff env hm fd addr offset w buf
  · intro fd addr offset buf w
    exact i2cDataReadByte_releases_iff env hm fd addr offset w buf
  · intro fd addr offset buf w
    exact i2cDataReadStr_releases_iff env hm fd addr offset w buf
  · intro sleep w
    exact i2cKeepSendingData_balanced_iff env hm sleep w

theorem helpers_release_iff_transfers_succeed_steady :
    ReleasesAll (i2cDataWriteStr steady (some I2C_DEVICE_PATH) I2C_ADDRESS 254 [1, 2, 3]) idle :=
  ((helpers_release_iff_transfers_succeed steady fun _ => rfl).2.1 (some I2C_DEVICE_PATH)
    I2C_ADDRESS 254 [1, 2, 3] idle).mpr fun _ _ => ⟨rfl, rfl⟩

/-- A transfer that fails leaves two blocks behind, in the helper and in each
iteration of the loop. -/
theorem failed_transfer_leaks :
    (∀ n, unplugged.mallocs n = true) ∧
      ¬ ReleasesAll (i2cDataWriteStr unplugged (some I2C_DEVICE_PATH) I2C_ADDRESS REG_ALS_EN [1])
        idle ∧
      (i2cKeepSendingData unplugged 1000 3 idle).2.live.length = 6 := by
  refine ⟨fun _ => rfl, ?_, i2cKeepSendingData_live unplugged (fun _ => rfl) 1000 3 idle⟩
  rw [i2cDataWriteStr_releases_iff unplugged (fun _ => rfl)]
  intro hall
  exact nomatch (hall 0 Nat.zero_lt_one).2

end BoardServices.Tb573d
