import BoardServices.Tb573d.System

/-!
# The I2C helpers (i2c_data.c:48-240)

Every helper builds its messages in memory it allocates and issues one transfer
for a read or for each byte that is written. The `count` of the source is the
length of the buffer. Where a helper returns early it frees nothing.
-/

namespace BoardServices.Tb573d

def i2cDataWriteByte (env : Env) (fd : Fd) (addr offset : ℤ) (buf : Byte) : Process ℤ := do
  let msgs ← malloc env
  if msgs.isNone then
    return -1
  let data ← malloc env
  storeTo data
  let done ← rdwr env fd [writeByteMsg (BitVec.ofInt 16 addr) (uchar offset) buf]
  if done.1 < 0 then
    return done.1
  free data
  free msgs
  return done.1

/-- The loop of `i2c_data_write_str` from index `i` on, with the bytes that are
left. A value is the result of a transfer that failed. -/
def writeLoop (env : Env) (fd : Fd) (addr offset : ℤ) (data : Block) :
    ℤ → List Byte → Process (Option ℤ)
  | _, [] => return none
  | i, b :: bs => do
    storeTo data
    let done ← rdwr env fd
      [writeByteMsg (BitVec.ofInt 16 addr) (uchar ((uchar offset).toNat + i)) b]
    if done.1 < 0 then
      return some done.1
    writeLoop env fd addr offset data (i + 1) bs

def i2cDataWriteStr (env : Env) (fd : Fd) (addr offset : ℤ) (buf : List Byte) : Process ℤ := do
  let msgs ← malloc env
  if msgs.isNone then
    return -1
  let data ← malloc env
  let failed ← writeLoop env fd addr offset data 0 buf
  match failed with
  | some ret => return ret
  | none =>
    free data
    free msgs
    return buf.length

/-- The byte behind `buf` is the second component. -/
def i2cDataReadByte (env : Env) (fd : Fd) (addr offset : ℤ) (buf : Byte) :
    Process (ℤ × Byte) := do
  let msgs ← malloc env
  if msgs.isNone then
    throw (.exits 1)
  let reg ← malloc env
  storeTo reg
  let data ← malloc env
  storeTo data
  let done ← rdwr env fd [selectMsg (BitVec.ofInt 16 addr) (uchar offset),
    readMsg (BitVec.ofInt 16 addr) 1 [0]]
  if done.1 < 0 then
    return (done.1, buf)
  free reg
  free data
  free msgs
  return (done.1, (done.2.getLast?.bind fun m => m.buf.head?).getD 0)

/-- The buffer of the caller is the second component. -/
def i2cDataReadStr (env : Env) (fd : Fd) (addr offset : ℤ) (buf : List Byte) :
    Process (ℤ × List Byte) := do
  let msgs ← malloc env
  if msgs.isNone then
    throw (.exits 1)
  let reg ← malloc env
  storeTo reg
  let done ← rdwr env fd [selectMsg (BitVec.ofInt 16 addr) (uchar offset),
    readMsg (BitVec.ofInt 16 addr) (BitVec.ofNat 16 buf.length) buf]
  let left := (done.2.getLast?.map I2cMsg.buf).getD buf
  if done.1 < 0 then
    return (done.1, left)
  free reg
  free msgs
  return (0, left)

end BoardServices.Tb573d
