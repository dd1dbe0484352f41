import Mathlib.Logic.Function.Basic
import Mathlib.Data.Int.Notation
import Mathlib.Data.List.Basic

/-!
# Devices on an I2C bus (i2c.h:507-519)

A device is a file of 256 byte registers with a register pointer. A write message
sets the pointer and then the registers from there on, a read message returns
the registers from the pointer on, both modulo 256.
-/

namespace BoardServices.Tb573d

abbrev Byte := BitVec 8

abbrev Registers := Byte → Byte

abbrev Bus := BitVec 16 → Registers

/-- `struct i2c_msg`; `buf` is what the buffer behind the pointer holds. -/
structure I2cMsg where
  addr : BitVec 16
  flags : BitVec 16
  len : BitVec 16
  buf : List Byte
  deriving DecidableEq, Repr

def I2C_M_RD : BitVec 16 := 0x0001

def I2cMsg.isRead (m : I2cMsg) : Bool := m.flags &&& I2C_M_RD != 0

def uchar (x : ℤ) : Byte := BitVec.ofInt 8 x

def storeFrom (regs : Registers) (reg : Byte) : List Byte → Registers
  | [] => regs
  | b :: bs => storeFrom (Function.update regs reg b) (reg + 1) bs

def loadFrom (regs : Registers) (reg : Byte) : ℕ → List Byte
  | 0 => []
  | n + 1 => regs reg :: loadFrom regs (reg + 1) n

/-- One message: the bus and the pointers after it and the buffer it leaves. -/
def message (bus : Bus) (ptr : BitVec 16 → Byte) (m : I2cMsg) :
    Bus × (BitVec 16 → Byte) × I2cMsg :=
  if m.isRead then
    (bus, Function.update ptr m.addr (ptr m.addr + BitVec.ofNat 8 m.len.toNat),
      { m with buf := loadFrom (bus m.addr) (ptr m.addr) m.len.toNat ++ m.buf.drop m.len.toNat })
  else
    match m.buf.take m.len.toNat with
    | [] => (bus, ptr, m)
    | reg :: data =>
      (Function.update bus m.addr (storeFrom (bus m.addr) reg data),
        Function.update ptr m.addr (reg + BitVec.ofNat 8 data.length), m)

def messages (bus : Bus) (ptr : BitVec 16 → Byte) : List I2cMsg → Bus × List I2cMsg
  | [] => (bus, [])
  | m :: ms =>
    let done := message bus ptr m
    let rest := messages done.1 done.2.1 ms
    (rest.1, done.2.2 :: rest.2)

/-- A transfer starts with all pointers at register 0. -/
def transfer (bus : Bus) (ms : List I2cMsg) : Bus × List I2cMsg := messages bus (fun _ => 0) ms

/-- Register `reg` of the device at `addr` is a target of the message. -/
def I2cMsg.Targets (m : I2cMsg) (addr : BitVec 16) (reg : Byte) : Prop :=
  m.isRead = false ∧ m.addr = addr ∧
    ∃ first data, m.buf.take m.len.toNat = first :: data ∧
      ∃ j < data.length, reg = first + BitVec.ofNat 8 j

/-! ### The two transfers of the program -/

def writeByteMsg (addr : BitVec 16) (reg value : Byte) : I2cMsg := ⟨addr, 0, 2, [reg, value]⟩

def selectMsg (addr : BitVec 16) (reg : Byte) : I2cMsg := ⟨addr, 0, 1, [reg]⟩

def readMsg (addr : BitVec 16) (len : BitVec 16) (buf : List Byte) : I2cMsg :=
  ⟨addr, I2C_M_RD, len, buf⟩

theorem writeByteMsg_isRead (addr : BitVec 16) (reg value : Byte) :
    (writeByteMsg addr reg value).isRead = false :=
  (by decide : ((0 : BitVec 16) &&& I2C_M_RD != 0) = false)

theorem selectMsg_isRead (addr : BitVec 16) (reg : Byte) : (selectMsg addr reg).isRead = false :=
  (by decide : ((0 : BitVec 16) &&& I2C_M_RD != 0) = false)

theorem readMsg_isRead (addr len : BitVec 16) (buf : List Byte) :
    (readMsg addr len buf).isRead = true :=
  (by decide : (I2C_M_RD &&& I2C_M_RD != 0) = true)

theorem writeByteMsg_bytes (addr : BitVec 16) (reg value : Byte) :
    (writeByteMsg addr reg value).buf.take (writeByteMsg addr reg value).len.toNat = [reg, value] :=
  rfl

theorem selectMsg_bytes (addr : BitVec 16) (reg : Byte) :
    (selectMsg addr reg).buf.take (selectMsg addr reg).len.toNat = [reg] := rfl

theorem transfer_write (bus : Bus) (addr : BitVec 16) (reg value : Byte) :
    transfer bus [writeByteMsg addr reg value] =
      (Function.update bus addr (Function.update (bus addr) reg value),
        [writeByteMsg addr reg value]) := by
  simp only [transfer, messages, message, writeByteMsg_isRead, Bool.false_eq_true, if_false,
    writeByteMsg_bytes]
  rfl

theorem message_select (bus : Bus) (ptr : BitVec 16 → Byte) (addr : BitVec 16) (reg : Byte) :
    message bus ptr (selectMsg addr reg) = (bus, Function.update ptr addr reg, selectMsg addr reg) := by
  have hkeep : Function.update bus addr (storeFrom (bus addr) reg []) = bus :=
    Function.update_eq_self addr bus
  have hptr : reg + BitVec.ofNat 8 ([] : List Byte).length = reg := BitVec.add_zero reg
  simp only [message, selectMsg_isRead, Bool.false_eq_true, if_false, selectMsg_bytes]
  rw [show (selectMsg addr reg).addr = addr from rfl, hkeep, hptr]

theorem transfer_read (bus : Bus) (addr len : BitVec 16) (reg : Byte) (buf : List Byte) :
    transfer bus [selectMsg addr reg, readMsg addr len buf] =
      (bus, [selectMsg addr reg,
        readMsg addr len (loadFrom (bus addr) reg len.toNat ++ buf.drop len.toNat)]) := by
  simp only [transfer, messages, message_select]
  unfold message
  rw [readMsg_isRead, if_pos rfl]
  simp only [readMsg, Function.update_self]

theorem writeByteMsg_targets (addr addr' : BitVec 16) (reg reg' value : Byte) :
    (writeByteMsg addr reg value).Targets addr' reg' ↔ addr = addr' ∧ reg' = reg := by
  unfold I2cMsg.Targets
  rw [writeByteMsg_isRead, and_iff_right rfl]
  refine and_congr_right fun _ => ⟨?_, fun h => ⟨reg, [value], rfl, 0, Nat.zero_lt_one, ?_⟩⟩
  · rintro ⟨first, data, hcut, j, hj, rfl⟩
    cases hcut
    obtain rfl : j = 0 := Nat.lt_one_iff.mp hj
    exact BitVec.add_zero _
  · rw [h]
    exact (BitVec.add_zero _).symm

theorem selectMsg_targets (addr addr' : BitVec 16) (reg reg' : Byte) :
    ¬ (selectMsg addr reg).Targets addr' reg' := by
  rintro ⟨_, _, first, data, hcut, j, hj, _⟩
  cases hcut
  exact absurd hj (Nat.not_lt_zero j)

theorem readMsg_targets (addr addr' len : BitVec 16) (reg' : Byte) (buf : List Byte) :
    ¬ (readMsg addr len buf).Targets addr' reg' := by
  rintro ⟨hread, _⟩
  rw [readMsg_isRead] at hread
  cases hread

end BoardServices.Tb573d
