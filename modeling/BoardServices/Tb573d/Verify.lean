import BoardServices.Tb573d.Blocks
import BoardServices.Tb573d.Dimming

/-!
# Set and verify

Both functions write a register, sleep, open the device a second time and read
the register back. They share the two phases and differ in what they do with the
second descriptor. Of the write they keep nothing: a failed write is seen only
by what is read back.
-/

namespace BoardServices.Tb573d
open Lib.Process Lib.Strings

variable (env : Env)

def Granted (n : ℕ) : Prop := env.mallocs n = true ∧ env.mallocs (n + 1) = true

/-- Both opens and both transfers succeeded and the register holds the value. -/
structure Verified (reg : ℤ) (value : Byte) (w w' : World) : Prop where
  first : env.opens w.opens = true
  second : env.opens (w.opens + 1) = true
  issued : w'.transfers = w.transfers + 2
  written : env.transfers w.transfers = .ok
  readBack : env.transfers (w.transfers + 1) = .ok
  value : mcu w'.devices (uchar reg) = value

def TellsTruth (m : Process ℤ) (reg : ℤ) (value : Byte) (w : World) : Prop :=
  (∃ v, (m w).1 = .ok v ∧ 0 ≤ v) ↔ Verified env reg value w (m w).2

/-- The devices after the write, which may have failed with or without effect. -/
def attempted (reg : ℤ) (value : Byte) (w : World) : CString → Bus :=
  match env.transfers w.transfers with
  | .failed false _ => w.devices
  | _ => stored w.devices I2C_DEVICE_PATH mcuAddress (uchar reg) [value]

/-- The write is not carried out, all that follows is, and the device holds the
value all the same. The write fails for want of memory or in its transfer. -/
def Masked (reg : ℤ) (value : Byte) (w : World) : Prop :=
  env.opens w.opens = true ∧ env.opens (w.opens + 1) = true ∧
    ((env.mallocs w.mallocs = false ∧ Granted env (w.mallocs + 1) ∧
        env.transfers w.transfers = .ok ∧
        mcu (env.sleeps w.sleeps 1000000 w.devices) (uchar reg) = value) ∨
      (Granted env w.mallocs ∧ Granted env (w.mallocs + 2) ∧
        env.transfers w.transfers ≠ .ok ∧ env.transfers (w.transfers + 1) = .ok ∧
        mcu (env.sleeps w.sleeps 1000000 (attempted env reg value w)) (uchar reg) = value))

/-! ### The two phases -/

def writePhase (reg : ℤ) (value : Byte) (k : Fd → Process ℤ) : Process ℤ := do
  let _ ← i2cDataWriteStr env (some I2C_DEVICE_PATH) I2C_ADDRESS reg [value]
  usleep env 1000000
  let fd ← openFd env I2C_DEVICE_PATH
  k fd

def readPhase (reg : ℤ) (value : Byte) (fd : Fd) : Process ℤ := do
  let got ← i2cDataReadStr env fd I2C_ADDRESS reg [value]
  if got.2 ≠ [value] then
    return -1
  return got.1

def mcuFd (opened : Bool) : Fd := if opened then some I2C_DEVICE_PATH else none

section Phases
variable {env} {reg : ℤ} {value : Byte} {k : Fd → Process ℤ} {w : World}

theorem exchange_attempted (env : Env) (reg : ℤ) (value : Byte) (w : World) :
    (exchange env (some I2C_DEVICE_PATH) [writeByteMsg mcuAddress (uchar reg) value] w).2.devices =
      attempted env reg value w := by
  unfold exchange attempted
  dsimp only
  rw [transfer_write]
  cases env.transfers w.transfers with
  | ok => rfl
  | failed effect code => cases effect <;> rfl

theorem writePhase_refused (reg : ℤ) (value : Byte) (k : Fd → Process ℤ)
    (h0 : env.mallocs w.mallocs = false) :
    ∃ u, writePhase env reg value k w.opened = k (mcuFd (env.opens (w.opens + 1))) u ∧
      u.transfers = w.transfers ∧ u.mallocs = w.mallocs + 1 ∧
      u.devices = env.sleeps w.sleeps 1000000 w.devices := by
  unfold writePhase
  rw [bind_ok (i2cDataWriteStr_refused env _ _ _ _ (w := w.opened) h0),
    bind_ok (usleep_run env 1000000 _), bind_ok (openFd_run env _ _)]
  exact ⟨_, rfl, rfl, rfl, rfl⟩

theorem writePhase_faults (h0 : env.mallocs w.mallocs = true)
    (h1 : env.mallocs (w.mallocs + 1) = false) :
    writePhase env reg value k w.opened = (.error .faults, w.opened.malloced.refused) :=
  bind_error (i2cDataWriteStr_faults env _ _ _ value [] (w := w.opened) h0 h1)

/-- The write with its memory: whatever it returns, one transfer was tried. -/
theorem i2cDataWriteStr_tried (reg : ℤ) (value : Byte) (h0 : env.mallocs w.mallocs = true)
    (h1 : env.mallocs (w.mallocs + 1) = true) :
    ∃ v u, i2cDataWriteStr env (some I2C_DEVICE_PATH) I2C_ADDRESS reg [value] w = (.ok v, u) ∧
      u.transfers = w.transfers + 1 ∧ u.mallocs = w.mallocs + 2 ∧ u.opens = w.opens ∧
      u.sleeps = w.sleeps ∧ u.devices = attempted env reg value w := by
  have hrun:=i2cDataWriteStr_run env (some I2C_DEVICE_PATH) I2C_ADDRESS reg [value] h0 h1
  have hcount:=exchange_transfers env I2C_DEVICE_PATH
    [writeByteMsg mcuAddress (uchar reg) value] w.malloced.malloced
  obtain ⟨hmallocs, _, hopens, hsleeps⟩ := exchange_frame env (some I2C_DEVICE_PATH)
    [writeByteMsg mcuAddress (uchar reg) value] w.malloced.malloced
  have hdevices:=exchange_attempted env reg value w.malloced.malloced
  rw [sent_one] at hrun
  dsimp only at hrun
  split at hrun
  · rename_i heq
    exact ⟨_, _, hrun, hcount, hmallocs, hopens, hsleeps, hdevices⟩
  · exact ⟨_, _, hrun, hcount, hmallocs, hopens, hsleeps, hdevices⟩

theorem writePhase_run (reg : ℤ) (value : Byte) (k : Fd → Process ℤ)
    (h0 : env.mallocs w.mallocs = true)
    (h1 : env.mallocs (w.mallocs + 1) = true) :
    ∃ u, writePhase env reg value k w.opened = k (mcuFd (env.opens (w.opens + 1))) u ∧
      u.transfers = w.transfers + 1 ∧ u.mallocs = w.mallocs + 2 ∧
      u.devices = env.sleeps w.sleeps 1000000 (attempted env reg value w) := by
  obtain ⟨v, u, hrun, ht, hm, ho, hs, hd⟩ :=
    i2cDataWriteStr_tried reg value (w := w.opened) h0 h1
  have hfd : (if env.opens u.opens then some I2C_DEVICE_PATH else none) =
      mcuFd (env.opens (w.opens + 1)) := by
    rw [ho]
    rfl
  unfold writePhase
  rw [bind_ok hrun, bind_ok (usleep_run env 1000000 u), bind_ok (openFd_run env _ _)]
  refine ⟨_, congrArg₂ k hfd rfl, ht, hm, ?_⟩
  exact congrArg₂ (fun n devices => env.sleeps n 1000000 devices) hs hd

/-- What the part behind the second open has to do, with its memory and without. -/
structure ReadsBack (env : Env) (reg : ℤ) (value : Byte) (k : Fd → Process ℤ) : Prop where
  tried : ∀ opened w, Granted env w.mallocs → ∃ ret u, k (mcuFd opened) w = (.ok ret, u) ∧
    u.devices = w.devices ∧ u.transfers = w.transfers + opened.toNat ∧
    (0 ≤ ret ↔ opened = true ∧ env.transfers w.transfers = .ok ∧
      mcu w.devices (uchar reg) = value)
  starved : ∀ opened w, ¬ Granted env w.mallocs → ∃ r u, k (mcuFd opened) w = (r, u) ∧
    u.transfers = w.transfers ∧ ∀ ret, r = .ok ret → ret < 0

theorem ReadsBack.nonneg (hk : ReadsBack env reg value k) (opened : Bool) (u : World) :
    (∃ v, (k (mcuFd opened) u).1 = .ok v ∧ 0 ≤ v) ↔
      opened = true ∧ Granted env u.mallocs ∧ env.transfers u.transfers = .ok ∧
        mcu u.devices (uchar reg) = value := by
  by_cases hg : Granted env u.mallocs
  · obtain ⟨ret, x, hx, _, _, hret⟩ := hk.tried opened u hg
    rw [hx, and_left_comm, and_iff_right hg, ← hret]
    refine ⟨?_, fun h => ⟨ret, rfl, h⟩⟩
    rintro ⟨v, hv, hpos⟩
    cases hv
    exact hpos
  · obtain ⟨r, x, hx, _, hneg⟩ := hk.starved opened u hg
    rw [hx]
    refine iff_of_false ?_ fun h => hg h.2.1
    rintro ⟨v, hv, hpos⟩
    exact absurd (hneg v hv) (not_lt.mpr hpos)

theorem ReadsBack.issued_iff (hk : ReadsBack env reg value k) (opened : Bool) (u : World) :
    (k (mcuFd opened) u).2.transfers = u.transfers + 1 ↔
      opened = true ∧ Granted env u.mallocs := by
  by_cases hg : Granted env u.mallocs
  · obtain ⟨ret, x, hx, _, ht, _⟩ := hk.tried opened u hg
    rw [hx, ht, and_iff_left hg]
    cases opened <;> simp
  · obtain ⟨r, x, hx, ht, _⟩ := hk.starved opened u hg
    rw [hx, ht]
    exact iff_of_false (by simp) fun h => hg h.2

theorem ReadsBack.atMost (hk : ReadsBack env reg value k) (opened : Bool) (u : World) :
    (k (mcuFd opened) u).2.transfers ≤ u.transfers + 1 := by
  by_cases hg : Granted env u.mallocs
  · obtain ⟨ret, x, hx, _, ht, _⟩ := hk.tried opened u hg
    rw [hx, ht]
    exact Nat.add_le_add_left (Bool.toNat_le opened) _
  · obtain ⟨r, x, hx, ht, _⟩ := hk.starved opened u hg
    rw [hx, ht]
    exact Nat.le_succ _

theorem phases_refused (hk : ReadsBack env reg value k) (ho : env.opens w.opens = true)
    (h0 : env.mallocs w.mallocs = false) :
    TellsTruth env (fun _ => writePhase env reg value k w.opened) reg value w ↔
      ¬ Masked env reg value w := by
  obtain ⟨u, hrun, ht, hml, hd⟩ := writePhase_refused reg value k h0
  have hfew:=hk.atMost (env.opens (w.opens + 1)) u
  unfold TellsTruth
  rw [hrun, hk.nonneg, ht, hml, hd]
  refine (iff_false_right fun hv => ?_).trans (not_congr ⟨?_, ?_⟩)
  · have hissued : (k (mcuFd (env.opens (w.opens + 1))) u).2.transfers = w.transfers + 2 := hv.issued
    omega
  · rintro ⟨ho2, hg, hok, hv⟩
    exact ⟨ho, ho2, Or.inl ⟨h0, hg, hok, hv⟩⟩
  · rintro ⟨_, ho2, ⟨_, hg, hok, hv⟩ | ⟨hg, _⟩⟩
    · exact ⟨ho2, hg, hok, hv⟩
    · exact nomatch h0.symm.trans hg.1

/-- The write stores through the null pointer it got for its data. -/
theorem phases_fault (h0 : env.mallocs w.mallocs = true)
    (h1 : env.mallocs (w.mallocs + 1) = false) :
    TellsTruth env (fun _ => writePhase env reg value k w.opened) reg value w ↔
      ¬ Masked env reg value w := by
  unfold TellsTruth
  rw [writePhase_faults h0 h1]
  refine iff_of_true (iff_of_false ?_ ?_) ?_
  · rintro ⟨v, hv, _⟩
    cases hv
  · exact fun hv => absurd hv.issued (Nat.ne_of_lt (Nat.lt_add_of_pos_right Nat.two_pos))
  · rintro ⟨_, _, ⟨h, _⟩ | ⟨hg, _⟩⟩
    · exact nomatch h0.symm.trans h
    · exact nomatch h1.symm.trans hg.2

theorem phases_tried (hk : ReadsBack env reg value k) (ho : env.opens w.opens = true)
    (h0 : env.mallocs w.mallocs = true) (h1 : env.mallocs (w.mallocs + 1) = true) :
    TellsTruth env (fun _ => writePhase env reg value k w.opened) reg value w ↔
      ¬ Masked env reg value w := by
  obtain ⟨u, hrun, ht, hml, hd⟩ := writePhase_run reg value k h0 h1
  have hissued:=hk.issued_iff (env.opens (w.opens + 1)) u
  rw [ht, hml] at hissued
  unfold TellsTruth
  rw [hrun, hk.nonneg, ht, hml, hd]
  by_cases hwritten : env.transfers w.transfers = .ok
  · have hkeeps (hg : Granted env u.mallocs) :
        (k (mcuFd (env.opens (w.opens + 1))) u).2.devices =
          env.sleeps w.sleeps 1000000 (attempted env reg value w) := by
      obtain ⟨ret, x, hx, hdx, _⟩ := hk.tried (env.opens (w.opens + 1)) u hg
      rw [hx, hdx, hd]
    refine iff_of_true ⟨?_, fun hv => ?_⟩ ?_
    · rintro ⟨ho2, hg, hok, hv⟩
      refine ⟨ho, ho2, hissued.mpr ⟨ho2, hg⟩, hwritten, hok, ?_⟩
      rw [hkeeps (hml ▸ hg)]
      exact hv
    · obtain ⟨ho2, hg⟩ := hissued.mp hv.issued
      have hvalue:=hv.value
      rw [hkeeps (hml ▸ hg)] at hvalue
      exact ⟨ho2, hg, hv.readBack, hvalue⟩
    · rintro ⟨_, _, ⟨h, _⟩ | ⟨_, _, hfail, _⟩⟩
      · exact nomatch h0.symm.trans h
      · exact hfail hwritten
  · refine (iff_false_right fun hv => hwritten hv.written).trans (not_congr ⟨?_, ?_⟩)
    · rintro ⟨ho2, hg, hok, hv⟩
      exact ⟨ho, ho2, Or.inr ⟨⟨h0, h1⟩, hg, hwritten, hok, hv⟩⟩
    · rintro ⟨_, ho2, ⟨h, _⟩ | ⟨_, hg, _, hok, hv⟩⟩
      · exact nomatch h0.symm.trans h
      · exact ⟨ho2, hg, hok, hv⟩

/-- With such a part, the whole tells the truth unless a failed write is masked. -/
theorem tellsTruth_of_phases {m : Process ℤ} (hk : ReadsBack env reg value k)
    (hm : m w = if env.opens w.opens then writePhase env reg value k w.opened
      else (.ok (-1), w.opened)) :
    TellsTruth env m reg value w ↔ ¬ Masked env reg value w := by
  unfold TellsTruth
  rw [hm]
  cases ho : env.opens w.opens with
  | false =>
    refine iff_of_true (iff_of_false ?_ ?_) fun h => nomatch ho.symm.trans h.1
    · rintro ⟨v, hv, hpos⟩
      cases hv
      exact absurd hpos (by decide)
    · exact fun h => nomatch ho.symm.trans h.first
  | true =>
    rw [if_pos rfl]
    cases h0 : env.mallocs w.mallocs with
    | false => exact phases_refused hk ho h0
    | true =>
      cases h1 : env.mallocs (w.mallocs + 1) with
      | false => exact phases_fault h0 h1
      | true => exact phases_tried hk ho h0 h1

/-! ### Reading back -/

theorem i2cDataReadStr_starved (reg : ℤ) (value : Byte) (fd : Fd) (hg : ¬ Granted env w.mallocs) :
    ∃ e u, i2cDataReadStr env fd I2C_ADDRESS reg [value] w = (.error e, u) ∧
      u.devices = w.devices ∧ u.transfers = w.transfers := by
  cases h0 : env.mallocs w.mallocs with
  | false => exact ⟨_, _, i2cDataReadStr_refused env fd _ _ _ h0, rfl, rfl⟩
  | true =>
    have h1 : env.mallocs (w.mallocs + 1) = false := Bool.eq_false_iff.mpr fun h1 => hg ⟨h0, h1⟩
    exact ⟨_, _, i2cDataReadStr_faults env fd _ _ _ h0 h1, rfl, rfl⟩

theorem exchange_read_devices (env : Env) (path : CString) (addr offset : ℤ) (buf : List Byte)
    (w : World) : (exchange env (some path) (readMsgs addr offset buf) w).2.devices = w.devices := by
  unfold exchange readMsgs
  dsimp only
  rw [transfer_read, Function.update_eq_self]
  cases env.transfers w.transfers with
  | ok => rfl
  | failed effect code => cases effect <;> rfl

theorem i2cDataReadStr_tried (reg : ℤ) (value : Byte) (opened : Bool) (hg : Granted env w.mallocs) :
    ∃ r got u, i2cDataReadStr env (mcuFd opened) I2C_ADDRESS reg [value] w = (.ok (r, got), u) ∧
      u.devices = w.devices ∧ u.transfers = w.transfers + opened.toNat ∧
      (got = [value] ∧ 0 ≤ r ↔ opened = true ∧ env.transfers w.transfers = .ok ∧
        mcu w.devices (uchar reg) = value) := by
  have hrun:=i2cDataReadStr_run env (mcuFd opened) I2C_ADDRESS reg [value] hg.1 hg.2
  cases opened with
  | false =>
    refine ⟨-1, [value], w.malloced.malloced, hrun, rfl, rfl, iff_of_false ?_ fun h => nomatch h.1⟩
    exact fun h => absurd h.2 (by decide)
  | true =>
    have hcount:=exchange_transfers env I2C_DEVICE_PATH (readMsgs I2C_ADDRESS reg [value])
      w.malloced.malloced
    have hdevices:=exchange_read_devices env I2C_DEVICE_PATH I2C_ADDRESS reg [value]
      w.malloced.malloced
    by_cases hok : env.transfers w.transfers = .ok
    · have hx:=exchange_read env I2C_DEVICE_PATH (w := w.malloced.malloced) I2C_ADDRESS reg
        [value] hok
      have hx' : exchange env (mcuFd true) (readMsgs I2C_ADDRESS reg [value])
        w.malloced.malloced = _ := hx
      rw [hx'] at hrun
      refine ⟨0, [mcu w.devices (uchar reg)], _, hrun, rfl, rfl, ?_⟩
      rw [List.singleton_inj]
      exact ⟨fun h => ⟨rfl, hok, h.1⟩, fun h => ⟨h.2.2, le_rfl⟩⟩
    · have hx:=exchange_fails env (mcuFd true) (readMsgs I2C_ADDRESS reg [value])
        (w := w.malloced.malloced) fun h => hok h.2
      rw [if_pos hx.1] at hrun
      refine ⟨_, _, _, hrun, hdevices, hcount, iff_of_false ?_ fun h => hok h.2.1⟩
      exact fun h => absurd hx.1 (not_lt.mpr h.2)

theorem readsBack_readPhase : ReadsBack env reg value (readPhase env reg value) := by
  refine ⟨fun opened w hg => ?_, fun opened w hg => ?_⟩
  · obtain ⟨r, got, u, hrun, hd, ht, hiff⟩ :=
      i2cDataReadStr_tried reg value opened hg
    by_cases hgot : got = [value]
    · refine ⟨r, u, ?_, hd, ht, ?_⟩
      · unfold readPhase
        rw [bind_ok hrun, if_neg (not_not.mpr hgot)]
        rfl
      · rw [← hiff, and_iff_right hgot]
    · refine ⟨-1, u, ?_, hd, ht, ?_⟩
      · unfold readPhase
        rw [bind_ok hrun, if_pos hgot]
        rfl
      · rw [← hiff]
        exact iff_of_false (by decide) fun h => hgot h.1
  · obtain ⟨e, u, hrun, _, ht⟩ :=
      i2cDataReadStr_starved reg value (mcuFd opened) hg
    exact ⟨_, u, bind_error hrun, ht, fun _ h => nomatch h⟩

theorem readsBack_checked :
    ReadsBack env reg value fun fd =>
      if fd.isNone then pure (-1) else readPhase env reg value fd := by
  refine ⟨fun opened w hg => ?_, fun opened w hg => ?_⟩
  · cases opened with
    | true => exact readsBack_readPhase.tried true w hg
    | false => exact ⟨-1, w, rfl, rfl, rfl, iff_of_false (by decide) fun h => nomatch h.1⟩
  · cases opened with
    | true => exact readsBack_readPhase.starved true w hg
    | false =>
      refine ⟨_, w, rfl, rfl, ?_⟩
      intro ret h
      cases h
      exact Int.negSucc_lt_zero 0

end Phases

/-! ### The two functions -/

theorem alsEnable_run (enable : Byte) (w : World) :
    alsEnable env enable w =
      if env.opens w.opens then
        writePhase env REG_ALS_EN (if enable = 0 then 0 else 1)
          (readPhase env REG_ALS_EN (if enable = 0 then 0 else 1)) w.opened
      else (.ok (-1), w.opened) :=
  openFd_or_fails env I2C_DEVICE_PATH _ w

def Accepted (setMax percentage : Byte) : Prop :=
  if setMax = 0 then percentage ≤ 20 else 20 ≤ percentage ∧ percentage ≤ 100

def dimRegister (setMax : Byte) : ℤ := if setMax = 0 then REG_DIM_MIN else REG_DIM_MAX

theorem setMinOrMaxDimmingDutyCycle_run {setMax percentage : Byte}
    (h : Accepted setMax percentage) (w : World) :
    setMinOrMaxDimmingDutyCycle env setMax percentage w =
      if env.opens w.opens then
        writePhase env (dimRegister setMax) percentage
          (fun fd => if fd.isNone then pure (-1)
            else readPhase env (dimRegister setMax) percentage fd) w.opened
      else (.ok (-1), w.opened) := by
  unfold setMinOrMaxDimmingDutyCycle
  unfold Accepted at h
  by_cases hs : setMax = 0
  · rw [if_pos hs] at h
    have hreg : dimRegister setMax = REG_DIM_MIN := if_pos hs
    rw [hreg]
    simp only [hs, if_true, gt_iff_lt, BitVec.not_lt.mpr h, if_false]
    exact openFd_or_fails env I2C_DEVICE_PATH _ w
  · rw [if_neg hs] at h
    have hreg : dimRegister setMax = REG_DIM_MAX := if_neg hs
    have hrange : ¬ (percentage < 20 ∨ percentage > 100) :=
      not_or.mpr ⟨BitVec.not_lt.mpr h.1, BitVec.not_lt.mpr h.2⟩
    rw [hreg]
    simp only [hs, if_false, hrange]
    exact openFd_or_fails env I2C_DEVICE_PATH _ w

/-- Set and verify reports the truth exactly if it does not hide that its write was
not carried out. -/
theorem set_and_verify_truthful_iff (w : World) :
    (∀ enable : Byte,
        TellsTruth env (alsEnable env enable) REG_ALS_EN (if enable = 0 then 0 else 1) w ↔
          ¬ Masked env REG_ALS_EN (if enable = 0 then 0 else 1) w) ∧
      ∀ setMax percentage, Accepted setMax percentage →
        (TellsTruth env (setMinOrMaxDimmingDutyCycle env setMax percentage) (dimRegister setMax)
            percentage w ↔
          ¬ Masked env (dimRegister setMax) percentage w) := by
  refine ⟨?_, ?_⟩
  · intro enable
    exact tellsTruth_of_phases readsBack_readPhase (alsEnable_run env enable w)
  · intro setMax percentage h
    exact tellsTruth_of_phases readsBack_checked (setMinOrMaxDimmingDutyCycle_run env h w)

theorem set_and_verify_truthful_iff_steady :
    TellsTruth steady (setMinOrMaxDimmingDutyCycle steady 1 88) REG_DIM_MAX 88 idle :=
  ((set_and_verify_truthful_iff steady idle).2 1 88 ⟨by decide, by decide⟩).mpr
    fun h => h.2.2.elim (fun h => nomatch h.1) fun h => h.2.2.1 rfl

/-- The first transfer of all fails without effect. -/
def stumbling : Env :=
  ⟨fun _ => true, fun _ => true, fun n => if n = 0 then .failed false 4 else .ok,
    fun _ _ devices => devices⟩

/-- The write fails, the register holds 0 from before, and the function returns 0. -/
theorem failed_write_reported_as_success :
    ¬ TellsTruth stumbling (alsEnable stumbling 0) REG_ALS_EN 0 idle := by
  intro h
  have hmasked : Masked stumbling REG_ALS_EN 0 idle :=
    ⟨rfl, rfl, Or.inr ⟨⟨rfl, rfl⟩, ⟨rfl, rfl⟩, (fun h => nomatch h), rfl, rfl⟩⟩
  exact (tellsTruth_of_phases readsBack_readPhase (alsEnable_run stumbling 0 idle)).mp h hmasked

end BoardServices.Tb573d
