import Mathlib
import BoardServices.Lib.Process
import BoardServices.Tb573d.Program

/-!
# The dimming registers over whole histories

An invariant of the system that every call of the program keeps, however it
ends: the registers of the MCU are in order now and were so after every transfer
of the past, and the transfers wrote no other register. It rests on what a
single write does, so the commands only owe that each write they issue is one of
the safe ones.
-/

namespace BoardServices.Tb573d
open Std.Do Lib.Strings Lib.Process

set_option mvcgen.warning false

def mcuAddress : BitVec 16 := BitVec.ofInt 16 I2C_ADDRESS

def mcu (devices : CString → Bus) : Registers := devices I2C_DEVICE_PATH mcuAddress

def McuRegister (reg : Byte) : Prop :=
  reg = uchar REG_ALS_EN ∨ reg = uchar REG_DIM_MIN ∨ reg = uchar REG_DIM_MAX

structure DimOrdered (regs : Registers) : Prop where
  min : regs (uchar REG_DIM_MIN) ≤ 20
  max : 20 ≤ regs (uchar REG_DIM_MAX)
  percent : regs (uchar REG_DIM_MAX) ≤ 100

def Transfer.WritesMcu (t : Transfer) (reg : Byte) : Prop :=
  t.path = I2C_DEVICE_PATH ∧ ∃ m ∈ t.msgs, m.Targets mcuAddress reg

structure DimInv (w : World) : Prop where
  now : DimOrdered (mcu w.devices)
  past : ∀ t ∈ w.trace, DimOrdered (mcu t.after)
  confined : ∀ t ∈ w.trace, ∀ reg, t.WritesMcu reg → McuRegister reg

theorem DimInv.congr {w v : World} (h : DimInv w) (hd : v.devices = w.devices)
    (ht : v.trace = w.trace) : DimInv v :=
  ⟨hd ▸ h.now, ht ▸ h.past, ht ▸ h.confined⟩

theorem DimInv.transferred {w : World} (h : DimInv w) (path : CString) (msgs : List I2cMsg)
    (devices : CString → Bus) (hd : DimOrdered (mcu devices))
    (hc : path = I2C_DEVICE_PATH → ∀ m ∈ msgs, ∀ reg, m.Targets mcuAddress reg → McuRegister reg) :
    DimInv (w.transferred path msgs devices) := by
  refine ⟨hd, ?_, ?_⟩
  · intro t ht
    rcases List.mem_append.mp ht with ht | ht
    · exact h.past t ht
    · rw [List.mem_singleton.mp ht]
      exact hd
  · intro t ht reg hw
    rcases List.mem_append.mp ht with ht | ht
    · exact h.confined t ht reg hw
    · rw [List.mem_singleton.mp ht] at hw
      obtain ⟨hpath, m, hm, htarget⟩ := hw
      exact hc hpath m hm reg htarget

/-! ### One write -/

def SafeValue (reg value : Byte) : Prop :=
  reg = uchar REG_ALS_EN ∨ (reg = uchar REG_DIM_MIN ∧ value ≤ 20) ∨
    (reg = uchar REG_DIM_MAX ∧ 20 ≤ value ∧ value ≤ 100)

def SafeWrite (fd : Fd) (addr : BitVec 16) (reg value : Byte) : Prop :=
  fd = some I2C_DEVICE_PATH → addr = mcuAddress → SafeValue reg value

theorem DimOrdered.write {regs : Registers} (h : DimOrdered regs) {reg value : Byte}
    (hs : SafeValue reg value) : DimOrdered (Function.update regs reg value) := by
  rcases hs with rfl | ⟨rfl, hv⟩ | ⟨rfl, hlo, hhi⟩
  · refine ⟨?_, ?_, ?_⟩
    · rw [Function.update_of_ne (by decide)]
      exact h.min
    · rw [Function.update_of_ne (by decide)]
      exact h.max
    · rw [Function.update_of_ne (by decide)]
      exact h.percent
  · refine ⟨?_, ?_, ?_⟩
    · rw [Function.update_self]
      exact hv
    · rw [Function.update_of_ne (by decide)]
      exact h.max
    · rw [Function.update_of_ne (by decide)]
      exact h.percent
  · refine ⟨?_, ?_, ?_⟩
    · rw [Function.update_of_ne (by decide)]
      exact h.min
    · rw [Function.update_self]
      exact hlo
    · rw [Function.update_self]
      exact hhi

theorem DimOrdered.update {devices : CString → Bus} (h : DimOrdered (mcu devices)) (path : CString)
    (addr : BitVec 16) (reg value : Byte) (hs : SafeWrite (some path) addr reg value) :
    DimOrdered (mcu (Function.update devices path
      (Function.update (devices path) addr (Function.update (devices path addr) reg value)))) := by
  unfold mcu at *
  by_cases hp : path = I2C_DEVICE_PATH
  · subst hp
    rw [Function.update_self]
    by_cases ha : addr = mcuAddress
    · subst ha
      rw [Function.update_self]
      exact h.write (hs rfl rfl)
    · rw [Function.update_of_ne (Ne.symm ha)]
      exact h
  · rw [Function.update_of_ne (Ne.symm hp)]
    exact h

theorem SafeValue.register {reg value : Byte} (h : SafeValue reg value) : McuRegister reg := by
  rcases h with h | ⟨h, _⟩ | ⟨h, _⟩
  · exact Or.inl h
  · exact Or.inr (Or.inl h)
  · exact Or.inr (Or.inr h)

/-! ### The calls of the program -/

section Calls
variable (env : Env)

@[spec] theorem malloc_keeps : Keeps DimInv (malloc env) := by
  mvcgen [malloc] with
  | vc1 w h _ => exact h.congr rfl rfl
  | vc2 w h _ => exact h.congr rfl rfl

@[spec] theorem free_keeps (b : Block) : Keeps DimInv (free b) := by
  cases b with
  | none => mvcgen [free]
  | some n =>
    mvcgen [free] with
    | vc1 w h _ => exact h.congr rfl rfl

@[spec] theorem storeTo_keeps (b : Block) : Keeps DimInv (storeTo b) := by
  mvcgen [storeTo]

@[spec] theorem openFd_keeps (path : CString) : Keeps DimInv (openFd env path) := by
  mvcgen [openFd] with
  | vc1 w h => exact h.congr rfl rfl

/-- A transfer keeps the invariant if taking effect does. -/
theorem rdwr_keeps (fd : Fd) (msgs : List I2cMsg)
    (hd : ∀ path devices, fd = some path → DimOrdered (mcu devices) →
      DimOrdered (mcu (Function.update devices path (transfer (devices path) msgs).1)))
    (hc : fd = some I2C_DEVICE_PATH →
      ∀ m ∈ msgs, ∀ reg, m.Targets mcuAddress reg → McuRegister reg) :
    Keeps DimInv (rdwr env fd msgs) := by
  cases fd with
  | none => mvcgen [rdwr]
  | some path =>
    have hconf (hp : path = I2C_DEVICE_PATH) := hc (congrArg some hp)
    mvcgen [rdwr] with
    | vc1 w h _ _ _ => exact h.transferred path msgs _ (hd path w.devices rfl h.now) hconf
    | vc2 w h _ _ effect _ _ =>
      cases effect with
      | true => exact h.transferred path msgs _ (hd path w.devices rfl h.now) hconf
      | false => exact h.transferred path msgs _ h.now hconf

@[spec] theorem rdwr_write_keeps (fd : Fd) (addr : BitVec 16) (reg value : Byte)
    (hs : SafeWrite fd addr reg value) : Keeps DimInv (rdwr env fd [writeByteMsg addr reg value]) := by
  refine rdwr_keeps env fd _ ?_ ?_
  · intro path devices hfd h
    rw [transfer_write]
    exact h.update path addr reg value (hfd ▸ hs)
  · intro hfd m hm reg' ht
    rw [List.mem_singleton.mp hm, writeByteMsg_targets] at ht
    rw [ht.2]
    exact (hs hfd ht.1).register

@[spec] theorem rdwr_read_keeps (fd : Fd) (addr len : BitVec 16) (reg : Byte) (buf : List Byte) :
    Keeps DimInv (rdwr env fd [selectMsg addr reg, readMsg addr len buf]) := by
  refine rdwr_keeps env fd _ ?_ ?_
  · intro path devices _ h
    rw [transfer_read, Function.update_eq_self]
    exact h
  · intro _ m hm reg' ht
    simp only [List.mem_cons, List.not_mem_nil, or_false] at hm
    rcases hm with rfl | rfl
    · exact absurd ht (selectMsg_targets addr mcuAddress reg reg')
    · exact absurd ht (readMsg_targets addr mcuAddress len reg' buf)

def SafeWrites (fd : Fd) (addr offset : ℤ) : ℤ → List Byte → Prop
  | _, [] => True
  | i, b :: bs =>
    SafeWrite fd (BitVec.ofInt 16 addr) (uchar ((uchar offset).toNat + i)) b ∧
      SafeWrites fd addr offset (i + 1) bs

theorem writeLoop_keeps (fd : Fd) (addr offset : ℤ) (data : Block) (i : ℤ) (bs : List Byte)
    (hs : SafeWrites fd addr offset i bs) : Keeps DimInv (writeLoop env fd addr offset data i bs) := by
  induction bs generalizing i with
  | nil => mvcgen [writeLoop]
  | cons b bs ih =>
    have hrest:=ih (i + 1) hs.2
    mvcgen [writeLoop, hrest]
    exact hs.1

theorem i2cDataWriteStr_keeps (fd : Fd) (addr offset : ℤ) (buf : List Byte)
    (hs : SafeWrites fd addr offset 0 buf) : Keeps DimInv (i2cDataWriteStr env fd addr offset buf) := by
  have hloop (data : Block) := writeLoop_keeps env fd addr offset data 0 buf hs
  mvcgen [i2cDataWriteStr, hloop]

@[spec] theorem i2cDataReadStr_keeps (fd : Fd) (addr offset : ℤ) (buf : List Byte) :
    Keeps DimInv (i2cDataReadStr env fd addr offset buf) := by
  mvcgen [i2cDataReadStr]

theorem safeWrites_one (fd : Fd) (addr offset : ℤ) (value : Byte)
    (h : SafeWrite fd (BitVec.ofInt 16 addr) (uchar ((uchar offset).toNat + 0)) value) :
    SafeWrites fd addr offset 0 [value] := ⟨h, trivial⟩

/-- While the process sleeps nobody writes the MCU. -/
def McuAlone : Prop := ∀ n useconds devices, mcu (env.sleeps n useconds devices) = mcu devices

theorem usleep_keeps (ha : McuAlone env) (useconds : BitVec 32) : Keeps DimInv (usleep env useconds) := by
  mvcgen [usleep] with
  | vc1 w h _ =>
    have hsame:=ha w.sleeps useconds w.devices
    exact ⟨hsame ▸ h.now, h.past, h.confined⟩

theorem alsEnable_keeps (ha : McuAlone env) (enable : Byte) : Keeps DimInv (alsEnable env enable) := by
  have hsleep:=usleep_keeps env ha
  have hwrite (fd : Fd) (value : Byte) :=
    i2cDataWriteStr_keeps env fd I2C_ADDRESS REG_ALS_EN [value]
      (safeWrites_one fd I2C_ADDRESS REG_ALS_EN value fun _ _ => Or.inl (by decide))
  mvcgen [alsEnable, hsleep, hwrite]

theorem setMinOrMaxDimmingDutyCycle_keeps (ha : McuAlone env) (setMax percentage : Byte) :
    Keeps DimInv (setMinOrMaxDimmingDutyCycle env setMax percentage) := by
  have hsleep:=usleep_keeps env ha
  have hwrite:=i2cDataWriteStr_keeps env
  mvcgen [setMinOrMaxDimmingDutyCycle, hsleep, hwrite]
  -- the write behind each of the two range checks
  case vc4.hs regAddr _ hmin hrange _ _ fd _ _ _ =>
    have hreg : regAddr = REG_DIM_MIN := if_pos hmin
    rw [hreg]
    exact safeWrites_one fd I2C_ADDRESS REG_DIM_MIN percentage fun _ _ =>
      Or.inr (Or.inl ⟨by decide, BitVec.not_lt.mp hrange⟩)
  case vc15.hs regAddr _ hmax hrange _ _ fd _ _ _ =>
    have hreg : regAddr = REG_DIM_MAX := if_neg hmax
    rw [hreg]
    rw [not_or] at hrange
    exact safeWrites_one fd I2C_ADDRESS REG_DIM_MAX percentage fun _ _ =>
      Or.inr (Or.inr ⟨by decide, BitVec.not_lt.mp hrange.1, BitVec.not_lt.mp hrange.2⟩)

theorem sendLoop_keeps (ha : McuAlone env) (fd : Fd) (sleep : BitVec 32) (n : ℕ) :
    Keeps DimInv (sendLoop env fd sleep n) := by
  have hsleep:=usleep_keeps env ha
  have hwrite (value : Byte) := i2cDataWriteStr_keeps env fd I2C_ADDRESS_TEST REG_ALS_EN [value]
    (safeWrites_one _ _ _ _ fun _ haddr => absurd haddr (by decide))
  induction n with
  | zero => mvcgen [sendLoop]
  | succ n ih => mvcgen [sendLoop, hsleep, hwrite, ih]

theorem i2cKeepSendingData_keeps (ha : McuAlone env) (sleep : BitVec 32) (n : ℕ) :
    Keeps DimInv (i2cKeepSendingData env sleep n) := by
  have hloop:=sendLoop_keeps env ha
  mvcgen [i2cKeepSendingData, hloop]

@[spec] theorem numericArg_keeps (args : List CString) (k : ℕ) : Keeps DimInv (numericArg args k) := by
  mvcgen [numericArg]

theorem main_keeps (ha : McuAlone env) (iterations : ℕ) (argv : List CString) :
    Keeps DimInv (main env iterations argv) := by
  have hals:=alsEnable_keeps env ha
  have hdim:=setMinOrMaxDimmingDutyCycle_keeps env ha
  have htest:=i2cKeepSendingData_keeps env ha
  mvcgen [main, hals, hdim, htest]

end Calls

/-! ### Histories -/

structure Invocation where
  argv : List CString
  iterations : ℕ

def invoke (env : Env) (w : World) (inv : Invocation) : World :=
  (main env inv.iterations inv.argv w).2

def history (env : Env) (w : World) (invs : List Invocation) : World := invs.foldl (invoke env) w

theorem invoke_inv (env : Env) (ha : McuAlone env) (w : World) (inv : Invocation) (h : DimInv w) :
    DimInv (invoke env w inv) :=
  (main_keeps env ha inv.iterations inv.argv).run h

theorem history_inv (env : Env) (ha : McuAlone env) (invs : List Invocation) (w : World)
    (h : DimInv w) : DimInv (history env w invs) := by
  induction invs generalizing w with
  | nil => exact h
  | cons inv invs ih => exact ih _ (invoke_inv env ha w inv h)

/-- Over every history of invocations the dimming registers of the MCU are in
order after every single transfer, and no register but the three of the program
is written. -/
theorem dimming_registers_ordered (env : Env) (ha : McuAlone env) (invs : List Invocation)
    (w : World) (htrace : w.trace = []) (h : DimOrdered (mcu w.devices)) :
    (∀ t ∈ (history env w invs).trace,
      DimOrdered (mcu t.after) ∧
        mcu t.after (uchar REG_DIM_MIN) ≤ mcu t.after (uchar REG_DIM_MAX) ∧
        ∀ reg, t.WritesMcu reg → McuRegister reg) ∧
      DimOrdered (mcu (history env w invs).devices) := by
  have hinv:=history_inv env ha invs w ⟨h, by simp [htrace], by simp [htrace]⟩
  refine ⟨?_, hinv.now⟩
  intro t ht
  have ho:=hinv.past t ht
  exact ⟨ho, BitVec.le_trans ho.min ho.max, hinv.confined t ht⟩

def flaky : Env :=
  ⟨fun _ => true, fun _ => true, fun n => if n % 2 = 0 then .ok else .failed false 4,
    fun _ _ devices => devices⟩

def booted : World := ⟨fun _ _ _ => 20, 0, 0, 0, 0, [], []⟩

theorem dimming_registers_ordered_flaky :
    (history flaky booted [⟨["tb573d_i2c", "dim", "0", "10"].map String.toList, 0⟩,
        ⟨["tb573d_i2c", "test", "1000"].map String.toList, 2⟩]).trace.length = 4 ∧
      DimOrdered (mcu (history flaky booted [⟨["tb573d_i2c", "dim", "0", "10"].map String.toList, 0⟩,
        ⟨["tb573d_i2c", "test", "1000"].map String.toList, 2⟩]).devices) :=
  ⟨by decide, (dimming_registers_ordered flaky (fun _ _ _ => rfl)
    [⟨["tb573d_i2c", "dim", "0", "10"].map String.toList, 0⟩,
      ⟨["tb573d_i2c", "test", "1000"].map String.toList, 2⟩] booted rfl
    ⟨by decide, by decide, by decide⟩).2⟩

end BoardServices.Tb573d
