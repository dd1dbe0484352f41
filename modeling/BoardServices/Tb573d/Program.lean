import BoardServices.Tb573d.I2cData

/-!
# The program tb573d_i2c (tb573d_i2c.c:37-43, 89-283)

Each command is a function of its arguments after their conversion to the
parameter types. The endless loop of `test` is given the number of iterations
after which the process is killed.
-/

namespace BoardServices.Tb573d
open Lib.Strings

def I2C_DEVICE_PATH_TEST : CString := "/dev/i2c-0".toList
def I2C_ADDRESS_TEST : ℤ := 0x15
def I2C_DEVICE_PATH : CString := "/dev/i2c-2".toList
def I2C_ADDRESS : ℤ := 0x66
def REG_ALS_EN : ℤ := 0x01
def REG_DIM_MIN : ℤ := 0x02
def REG_DIM_MAX : ℤ := 0x03

/-- `ALS_Enable`; the second descriptor is not checked. -/
def alsEnable (env : Env) (enable : Byte) : Process ℤ := do
  let fd ← openFd env I2C_DEVICE_PATH
  if fd.isNone then
    return -1
  let enable : Byte := if enable = 0 then 0 else 1
  let _ ← i2cDataWriteStr env fd I2C_ADDRESS REG_ALS_EN [enable]
  usleep env 1000000
  let fd ← openFd env I2C_DEVICE_PATH
  let got ← i2cDataReadStr env fd I2C_ADDRESS REG_ALS_EN [enable]
  if got.2 ≠ [enable] then
    return -1
  return got.1

def setMinOrMaxDimmingDutyCycle (env : Env) (setMax percentage : Byte) : Process ℤ := do
  let regAddr := if setMax = 0 then REG_DIM_MIN else REG_DIM_MAX
  if setMax = 0 then
    if percentage > 20 then
      return -1
  else
    if percentage < 20 ∨ percentage > 100 then
      return -1
  let fd ← openFd env I2C_DEVICE_PATH
  if fd.isNone then
    return -1
  let _ ← i2cDataWriteStr env fd I2C_ADDRESS regAddr [percentage]
  usleep env 1000000
  let fd ← openFd env I2C_DEVICE_PATH
  if fd.isNone then
    return -1
  let got ← i2cDataReadStr env fd I2C_ADDRESS regAddr [percentage]
  if got.2 ≠ [percentage] then
    return -1
  return got.1

/-- The loop of `i2c_keep_sending_data`, killed after some iterations. -/
def sendLoop (env : Env) (fd : Fd) (sleep : BitVec 32) : ℕ → Process ℤ
  | 0 => throw .killed
  | n + 1 => do
    let _ ← i2cDataWriteStr env fd I2C_ADDRESS_TEST REG_ALS_EN [0xf5]
    usleep env sleep
    sendLoop env fd sleep n

def i2cKeepSendingData (env : Env) (sleep : BitVec 32) (iterations : ℕ) : Process ℤ := do
  let sleep := if sleep < 100 then 100 else sleep
  let fd ← openFd env I2C_DEVICE_PATH_TEST
  if fd.isNone then
    return -1
  sendLoop env fd sleep iterations

/-- `atoi(argv[k + 2])`; an argument that is missing is a null pointer. -/
def numericArg (args : List CString) (k : ℕ) : Process ℤ :=
  match args[k]? with
  | some s => return atoi s
  | none => throw .faults

def main (env : Env) (iterations : ℕ) (argv : List CString) : Process ℤ :=
  match argv with
  | _ :: command :: args =>
    if command = "als".toList then do
      let enable ← numericArg args 0
      let _ ← alsEnable env (uchar enable)
      return 0
    else if command = "dim".toList then do
      let setMax ← numericArg args 0
      let percentage ← numericArg args 1
      let _ ← setMinOrMaxDimmingDutyCycle env (uchar setMax) (uchar percentage)
      return 0
    else if command = "test".toList then do
      let sleep ← numericArg args 0
      let _ ← i2cKeepSendingData env (BitVec.ofInt 32 sleep) iterations
      return 0
    else return 0
  | _ => return 0

end BoardServices.Tb573d
