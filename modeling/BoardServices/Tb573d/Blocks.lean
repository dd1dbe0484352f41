import BoardServices.Tb573d.Effects
import BoardServices.Tb573d.Program

/-!
# Blocks of registers

A block is written register by register and read in one transfer; both wrap at
register 255. What a write leaves is said of the mathematical offset, so that the
narrowing of the register number is part of what is proved.
-/

namespace BoardServices.Tb573d
open Lib.Process Lib.Strings

/-! ### Registers modulo 256 -/

theorem uchar_eq_iff (x : ℤ) (reg : Byte) : uchar x = reg ↔ x % 256 = reg.toNat := by
  rw [← BitVec.toNat_inj, uchar, BitVec.toNat_ofInt]
  omega

theorem reg_succ (reg : Byte) (j : ℕ) :
    reg + 1 + BitVec.ofNat 8 j = reg + BitVec.ofNat 8 (j + 1) := by
  rw [BitVec.ofNat_add, BitVec.add_assoc]
  exact congrArg (reg + ·) (BitVec.add_comm ..)

theorem uchar_add (x : ℤ) (j : ℕ) : uchar (x + j) = uchar x + BitVec.ofNat 8 j := by
  rw [uchar, BitVec.ofInt_add, BitVec.ofInt_natCast, uchar]

/-- Two of at most 256 registers in a row are the same only at the same index. -/
theorem reg_inj {reg : Byte} {j k : ℕ} (hj : j < 256) (hk : k < 256)
    (h : reg + BitVec.ofNat 8 j = reg + BitVec.ofNat 8 k) : j = k := by
  have hnat:=congrArg BitVec.toNat (add_left_cancel h)
  rw [BitVec.toNat_ofNat, BitVec.toNat_ofNat] at hnat
  omega

theorem storeFrom_other {regs : Registers} {reg x : Byte} {bs : List Byte}
    (h : ∀ j < bs.length, reg + BitVec.ofNat 8 j ≠ x) : storeFrom regs reg bs x = regs x := by
  induction bs generalizing regs reg with
  | nil => rfl
  | cons b bs ih =>
    have hx : reg ≠ x := by
      have h0:=h 0 (by simp)
      rwa [BitVec.add_zero] at h0
    rw [storeFrom, ih, Function.update_of_ne hx.symm]
    intro j hj
    rw [reg_succ]
    exact h (j + 1) (by simpa using hj)

theorem storeFrom_last {regs : Registers} {reg x : Byte} {bs : List Byte} {j : ℕ}
    (hj : j < bs.length) (hx : reg + BitVec.ofNat 8 j = x)
    (hlast : ∀ k, j < k → k < bs.length → reg + BitVec.ofNat 8 k ≠ x) :
    storeFrom regs reg bs x = bs[j] := by
  induction bs generalizing regs reg j with
  | nil => exact absurd hj (Nat.not_lt_zero j)
  | cons b bs ih =>
    rw [storeFrom]
    cases j with
    | zero =>
      -- nothing behind the first byte falls on its register
      rw [storeFrom_other, ← hx]
      · exact (congrArg _ (BitVec.add_zero reg)).trans (Function.update_self ..)
      · intro k hk
        rw [reg_succ]
        exact hlast (k + 1) (Nat.succ_pos k) (by simpa using hk)
    | succ j =>
      rw [← reg_succ] at hx
      refine ih (by simpa using hj) hx fun k hjk hk => ?_
      rw [reg_succ]
      exact hlast (k + 1) (by omega) (by simpa using hk)

theorem loadFrom_eq (regs : Registers) (reg : Byte) (n : ℕ) :
    loadFrom regs reg n = (List.range n).map fun j : ℕ => regs (reg + BitVec.ofNat 8 j) := by
  induction n generalizing reg with
  | zero => rfl
  | succ n ih =>
    rw [loadFrom, ih, List.range_succ_eq_map, List.map_cons, List.map_map]
    refine congrArg₂ List.cons (congrArg regs (BitVec.add_zero reg).symm) ?_
    exact List.map_congr_left fun j _ => congrArg regs (reg_succ reg j)

/-- What was written is read back, as long as the block does not meet itself. -/
theorem loadFrom_storeFrom (regs : Registers) (reg : Byte) {bs : List Byte}
    (h : bs.length ≤ 256) : loadFrom (storeFrom regs reg bs) reg bs.length = bs := by
  rw [loadFrom_eq]
  apply List.ext_getElem
  · simp
  · intro j _ hj
    rw [List.getElem_map, List.getElem_range]
    refine storeFrom_last hj rfl fun k hjk hk heq => ?_
    exact absurd (reg_inj (by omega) (by omega) heq) (by omega)

/-- `new` is `old` after the bytes were written from `offset` on: a register holds
the last byte that fell on it. -/
structure Written (old : Registers) (offset : ℤ) (buf : List Byte) (new : Registers) : Prop where
  last : ∀ (x : Byte) (j : ℕ) (hj : j < buf.length), (offset + j) % 256 = x.toNat →
    (∀ k, j < k → k < buf.length → (offset + k) % 256 ≠ x.toNat) → new x = buf[j]
  other : ∀ x : Byte, (∀ j < buf.length, (offset + j) % 256 ≠ x.toNat) → new x = old x

theorem written_storeFrom (old : Registers) (offset : ℤ) (buf : List Byte) :
    Written old offset buf (storeFrom old (uchar offset) buf) := by
  have hreg (x : Byte) (j : ℕ) :
      uchar offset + BitVec.ofNat 8 j = x ↔ (offset + j) % 256 = x.toNat := by
    rw [← uchar_add, uchar_eq_iff]
  refine ⟨?_, ?_⟩
  · intro x j hj hx hlast
    exact storeFrom_last hj ((hreg x j).mpr hx) fun k hjk hk => (hreg x k).not.mpr (hlast k hjk hk)
  · intro x h
    exact storeFrom_other fun j hj => (hreg x j).not.mpr (h j hj)

/-! ### The transfers of a write -/

def stored (devices : CString → Bus) (path : CString) (addr : BitVec 16) (reg : Byte)
    (bs : List Byte) : CString → Bus :=
  Function.update devices path
    (Function.update (devices path) addr (storeFrom (devices path addr) reg bs))

theorem stored_nil (devices : CString → Bus) (path : CString) (addr : BitVec 16) (reg : Byte) :
    stored devices path addr reg [] = devices := by
  rw [stored, storeFrom, Function.update_eq_self, Function.update_eq_self]

theorem stored_cons (devices : CString → Bus) (path : CString) (addr : BitVec 16) (reg b : Byte)
    (bs : List Byte) :
    stored (stored devices path addr reg [b]) path addr (reg + 1) bs =
      stored devices path addr reg (b :: bs) := by
  simp only [stored, storeFrom, Function.update_self, Function.update_idem]

theorem stored_self (devices : CString → Bus) (path : CString) (addr : BitVec 16) (reg : Byte)
    (bs : List Byte) :
    stored devices path addr reg bs path addr = storeFrom (devices path addr) reg bs := by
  rw [stored, Function.update_self, Function.update_self]

section Transfers
variable (env : Env) (path : CString) (addr : BitVec 16)

theorem exchange_write (reg b : Byte) {w : World} (h : env.transfers w.transfers = .ok) :
    exchange env (some path) [writeByteMsg addr reg b] w =
      ((1, [writeByteMsg addr reg b]), w.transferred path [writeByteMsg addr reg b]
        (stored w.devices path addr reg [b])) := by
  rw [exchange_ok env h, transfer_write]
  rfl

/-- The loop up to a byte before which nothing failed. -/
theorem sent_prefix (reg : Byte) (bs : List Byte) (k : ℕ) (hk : k ≤ bs.length) (w : World)
    (hok : ∀ j < k, env.transfers (w.transfers + j) = .ok) :
    ∃ v, sent env (some path) addr reg bs w =
        sent env (some path) addr (reg + BitVec.ofNat 8 k) (bs.drop k) v ∧
      v.transfers = w.transfers + k ∧
      v.devices = stored w.devices path addr reg (bs.take k) := by
  induction k generalizing reg bs w with
  | zero =>
    refine ⟨w, ?_, rfl, (stored_nil ..).symm⟩
    rw [BitVec.add_zero, List.drop_zero]
  | succ k ih =>
    cases bs with
    | nil => exact absurd hk (Nat.not_succ_le_zero k)
    | cons b bs =>
      have hx:=exchange_write env path addr reg b (hok 0 (Nat.succ_pos k))
      obtain ⟨v, hv, ht, hd⟩ := ih (reg + 1) bs (Nat.le_of_succ_le_succ hk)
        (w.transferred path [writeByteMsg addr reg b] (stored w.devices path addr reg [b]))
        fun j hj => by
          have hj':=hok (j + 1) (Nat.succ_lt_succ hj)
          rwa [← Nat.succ_add_eq_add_succ] at hj'
      refine ⟨v, ?_, ?_, ?_⟩
      · rw [sent, hx, List.drop_succ_cons, ← reg_succ, ← hv]
        exact if_neg Int.one_nonneg.not_gt
      · rw [ht, ← Nat.succ_add_eq_add_succ]
        rfl
      · rw [hd, List.take_succ_cons]
        exact stored_cons ..

theorem sent_all (reg : Byte) {bs : List Byte} {w : World}
    (hok : ∀ j < bs.length, env.transfers (w.transfers + j) = .ok) :
    (sent env (some path) addr reg bs w).1 = none ∧
      (sent env (some path) addr reg bs w).2.devices = stored w.devices path addr reg bs := by
  obtain ⟨v, hv, _, hd⟩ := sent_prefix env path addr reg bs bs.length le_rfl w hok
  rw [hv, List.drop_length, sent]
  rw [List.take_length] at hd
  exact ⟨rfl, hd⟩

theorem sent_fails (reg : Byte) {bs : List Byte} {k : ℕ} {w : World} {code : ℕ}
    (hk : k < bs.length) (hok : ∀ j < k, env.transfers (w.transfers + j) = .ok)
    (hfail : env.transfers (w.transfers + k) = .failed false code) :
    (sent env (some path) addr reg bs w).1 = some (Int.negSucc code) ∧
      (sent env (some path) addr reg bs w).2.devices =
        stored w.devices path addr reg (bs.take k) := by
  obtain ⟨v, hv, ht, hd⟩ := sent_prefix env path addr reg bs k (le_of_lt hk) w hok
  rw [← ht] at hfail
  rw [hv, List.drop_eq_getElem_cons hk, sent]
  simp only [exchange, hfail]
  rw [if_pos (Int.negSucc_lt_zero code), ← hd]
  exact ⟨rfl, rfl⟩

end Transfers

/-! ### The helpers on a device -/

section Helpers
variable (env : Env) (hm : ∀ n, env.mallocs n = true) (path : CString) (addr offset : ℤ)
include hm

theorem i2cDataWriteStr_all {buf : List Byte} {w : World}
    (hok : ∀ j < buf.length, env.transfers (w.transfers + j) = .ok) :
    (i2cDataWriteStr env (some path) addr offset buf w).1 = .ok buf.length ∧
      (i2cDataWriteStr env (some path) addr offset buf w).2.devices =
        stored w.devices path (BitVec.ofInt 16 addr) (uchar offset) buf := by
  obtain ⟨hnone, hd⟩ := sent_all env path (BitVec.ofInt 16 addr) (uchar offset)
    (w := w.malloced.malloced) hok
  rw [i2cDataWriteStr_run env (some path) addr offset buf (hm w.mallocs) (hm (w.mallocs + 1))]
  simp only [hnone]
  exact ⟨trivial, hd⟩

theorem i2cDataWriteStr_fails {buf : List Byte} {k : ℕ} {w : World} {code : ℕ}
    (hk : k < buf.length) (hok : ∀ j < k, env.transfers (w.transfers + j) = .ok)
    (hfail : env.transfers (w.transfers + k) = .failed false code) :
    (i2cDataWriteStr env (some path) addr offset buf w).1 = .ok (Int.negSucc code) ∧
      (i2cDataWriteStr env (some path) addr offset buf w).2.devices =
        stored w.devices path (BitVec.ofInt 16 addr) (uchar offset) (buf.take k) := by
  obtain ⟨hsome, hd⟩ := sent_fails env path (BitVec.ofInt 16 addr) (uchar offset)
    (w := w.malloced.malloced) hk hok hfail
  rw [i2cDataWriteStr_run env (some path) addr offset buf (hm w.mallocs) (hm (w.mallocs + 1))]
  simp only [hsome]
  exact ⟨trivial, hd⟩

theorem i2cDataReadStr_ok {buf : List Byte} (hn : buf.length < 2 ^ 16) {w : World}
    (hok : env.transfers w.transfers = .ok) :
    (i2cDataReadStr env (some path) addr offset buf w).1 = .ok (0,
      loadFrom (w.devices path (BitVec.ofInt 16 addr)) (uchar offset) buf.length) := by
  have hlen : (BitVec.ofNat 16 buf.length).toNat = buf.length := by
    rw [BitVec.toNat_ofNat]
    exact Nat.mod_eq_of_lt hn
  have hx:=exchange_read env path (w := w.malloced.malloced) addr offset buf hok
  rw [hlen, List.drop_length, List.append_nil] at hx
  rw [i2cDataReadStr_run env (some path) addr offset buf (hm w.mallocs) (hm (w.mallocs + 1)), hx]
  rfl

end Helpers

/-- A block that is written is in the registers, up to the first transfer that
fails, and is read back. -/
theorem block_write_read_agree (env : Env) (hm : ∀ n, env.mallocs n = true)
    (hquiet : ∀ n effect code, env.transfers n = .failed effect code → effect = false)
    (path : CString) (addr offset : ℤ) (buf : List Byte) (w : World) :
    ((∀ j < buf.length, env.transfers (w.transfers + j) = .ok) →
      (i2cDataWriteStr env (some path) addr offset buf w).1 = .ok buf.length ∧
        Written (w.devices path (BitVec.ofInt 16 addr)) offset buf
          ((i2cDataWriteStr env (some path) addr offset buf w).2.devices path
            (BitVec.ofInt 16 addr)) ∧
        (buf.length ≤ 256 → ∀ v : World,
          v.devices path (BitVec.ofInt 16 addr) =
            (i2cDataWriteStr env (some path) addr offset buf w).2.devices path
              (BitVec.ofInt 16 addr) →
          env.transfers v.transfers = .ok → ∀ old : List Byte, old.length = buf.length →
            (i2cDataReadStr env (some path) addr offset old v).1 = .ok (0, buf))) ∧
      ∀ k < buf.length, (∀ j < k, env.transfers (w.transfers + j) = .ok) →
        env.transfers (w.transfers + k) ≠ .ok →
        (∃ ret < 0, (i2cDataWriteStr env (some path) addr offset buf w).1 = .ok ret) ∧
          Written (w.devices path (BitVec.ofInt 16 addr)) offset (buf.take k)
            ((i2cDataWriteStr env (some path) addr offset buf w).2.devices path
              (BitVec.ofInt 16 addr)) := by
  refine ⟨?_, ?_⟩
  · intro hok
    obtain ⟨hret, hd⟩ := i2cDataWriteStr_all env hm path addr offset hok
    have hregs:=(congrFun (congrFun hd path) (BitVec.ofInt 16 addr)).trans (stored_self ..)
    refine ⟨hret, ?_, ?_⟩
    · rw [hregs]
      exact written_storeFrom ..
    · intro hn v hv hread old hold
      rw [i2cDataReadStr_ok env hm path addr offset (by omega) hread, hv, hregs, hold,
        loadFrom_storeFrom _ _ hn]
  · intro k hk hok hne
    cases hfail : env.transfers (w.transfers + k) with
    | ok => exact absurd hfail hne
    | failed effect code =>
      obtain rfl:=hquiet _ effect code hfail
      obtain ⟨hret, hd⟩ := i2cDataWriteStr_fails env hm path addr offset hk hok hfail
      have hregs:=(congrFun (congrFun hd path) (BitVec.ofInt 16 addr)).trans (stored_self ..)
      refine ⟨⟨Int.negSucc code, Int.negSucc_lt_zero code, hret⟩, ?_⟩
      rw [hregs]
      exact written_storeFrom ..

/-- A block over the end of the register file. -/
theorem block_write_read_agree_wraps :
    ∃ v, (i2cDataWriteStr steady (some I2C_DEVICE_PATH) I2C_ADDRESS 254 [1, 2, 3] idle).2 = v ∧
      (i2cDataReadStr steady (some I2C_DEVICE_PATH) I2C_ADDRESS 254 [0, 0, 0] v).1 =
        .ok (0, [1, 2, 3]) :=
  ⟨_, rfl, ((block_write_read_agree steady (fun _ => rfl) (fun _ _ _ h => nomatch h)
    I2C_DEVICE_PATH I2C_ADDRESS 254 [1, 2, 3] idle).1 fun _ _ => rfl).2.2 (by decide) _ rfl rfl
      [0, 0, 0] rfl⟩

end BoardServices.Tb573d
