import BoardServices.Lib.Strings
import BoardServices.Tb573d.I2c

/-!
# What the program asks of the system

Memory, the adapters and the clock. The environment answers each call by its
number: whether an allocation or an open succeeds, what becomes of a transfer,
and what the devices do while the process sleeps. Settings of timeout and
retries and the closing of a descriptor have no effect here.
-/

namespace BoardServices.Tb573d
open Lib.Strings

/-- What becomes of a transfer. One that fails may have taken effect or not; it
returns a negative number and leaves the buffers of the caller alone. -/
inductive TransferOutcome where
  | ok
  | failed (effect : Bool) (code : ℕ)
  deriving DecidableEq, Repr

structure Env where
  mallocs : ℕ → Bool
  opens : ℕ → Bool
  transfers : ℕ → TransferOutcome
  sleeps : ℕ → BitVec 32 → (CString → Bus) → CString → Bus

structure Transfer where
  path : CString
  msgs : List I2cMsg
  after : CString → Bus

structure World where
  devices : CString → Bus
  mallocs : ℕ
  opens : ℕ
  transfers : ℕ
  sleeps : ℕ
  /-- Blocks that are allocated, each named by the number of its `malloc`. -/
  live : List ℕ
  trace : List Transfer

inductive Ending where
  | exits (status : ℤ)
  | faults
  | killed
  deriving DecidableEq, Repr

abbrev Process := ExceptT Ending (StateM World)

/-- A descriptor: -1, or the path it was opened with. -/
abbrev Fd := Option CString

abbrev Block := Option ℕ

def malloc (env : Env) : Process Block := do
  let w ← get
  if env.mallocs w.mallocs then
    set { w with mallocs := w.mallocs + 1, live := w.live ++ [w.mallocs] }
    return some w.mallocs
  else
    set { w with mallocs := w.mallocs + 1 }
    return none

def free : Block → Process Unit
  | none => return ()
  | some b => modify fun w => { w with live := w.live.erase b }

def storeTo : Block → Process Unit
  | none => throw .faults
  | some _ => return ()

def openFd (env : Env) (path : CString) : Process Fd := do
  let w ← get
  set { w with opens := w.opens + 1 }
  return if env.opens w.opens then some path else none

def World.transferred (w : World) (path : CString) (msgs : List I2cMsg)
    (devices : CString → Bus) : World :=
  { w with
    devices := devices
    transfers := w.transfers + 1
    trace := w.trace ++ [⟨path, msgs, devices⟩] }

/-- `ioctl(fd, I2C_RDWR, ...)`: the number of messages, or a negative number, and
the messages with what is in their buffers afterwards. -/
def rdwr (env : Env) (fd : Fd) (msgs : List I2cMsg) : Process (ℤ × List I2cMsg) :=
  match fd with
  | none => return (-1, msgs)
  | some path => do
    let w ← get
    let done := transfer (w.devices path) msgs
    let moved := Function.update w.devices path done.1
    match env.transfers w.transfers with
    | .ok =>
      set (w.transferred path msgs moved)
      return (msgs.length, done.2)
    | .failed effect code =>
      set (w.transferred path msgs (if effect then moved else w.devices))
      return (Int.negSucc code, msgs)

def usleep (env : Env) (useconds : BitVec 32) : Process Unit :=
  modify fun w => { w with
    devices := env.sleeps w.sleeps useconds w.devices
    sleeps := w.sleeps + 1 }

end BoardServices.Tb573d
