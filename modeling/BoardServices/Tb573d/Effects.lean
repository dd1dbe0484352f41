import BoardServices.Lib.Process
import BoardServices.Tb573d.I2cData

/-!
# What the calls and helpers do to the world

Each call and each helper as an equation for its run: the result and the world
it ends in, for every answer of the environment. Later proofs use these
equations and unfold no program.
-/

namespace BoardServices.Tb573d
open Lib.Process Lib.Strings

variable (env : Env)

def steady : Env := ⟨fun _ => true, fun _ => true, fun _ => .ok, fun _ _ devices => devices⟩

def unplugged : Env :=
  ⟨fun _ => true, fun _ => true, fun _ => .failed false 4, fun _ _ devices => devices⟩

def idle : World := ⟨fun _ _ _ => 0, 0, 0, 0, 0, [], []⟩

/-! ### Memory and descriptors -/

def World.malloced (w : World) : World :=
  { w with mallocs := w.mallocs + 1, live := w.live ++ [w.mallocs] }

def World.refused (w : World) : World := { w with mallocs := w.mallocs + 1 }

def World.opened (w : World) : World := { w with opens := w.opens + 1 }

def World.freed (w : World) (b : ℕ) : World := { w with live := w.live.erase b }

theorem malloc_ok {w : World} (h : env.mallocs w.mallocs = true) :
    malloc env w = (.ok (some w.mallocs), w.malloced) := by
  change (if env.mallocs w.mallocs then _ else _ : Process Block) w = _
  rw [if_pos h]
  rfl

theorem malloc_refused {w : World} (h : env.mallocs w.mallocs = false) :
    malloc env w = (.ok none, w.refused) := by
  change (if env.mallocs w.mallocs then _ else _ : Process Block) w = _
  rw [h, if_neg Bool.false_ne_true]
  rfl

theorem storeTo_run (d : ℕ) (w : World) : storeTo (some d) w = (.ok (), w) := rfl

theorem openFd_run (path : CString) (w : World) :
    openFd env path w = (.ok (if env.opens w.opens then some path else none), w.opened) := rfl

/-- A program that opens its device first and fails if it cannot. -/
theorem openFd_or_fails (path : CString) (rest : Fd → Process ℤ) (w : World) :
    (openFd env path >>= fun fd => if fd.isNone then pure (-1) else rest fd) w =
      if env.opens w.opens then rest (some path) w.opened else (.ok (-1), w.opened) := by
  rw [bind_ok (openFd_run env path w)]
  cases env.opens w.opens with
  | false => rfl
  | true => rfl

theorem usleep_run (useconds : BitVec 32) (w : World) :
    usleep env useconds w = (.ok (), { w with
      devices := env.sleeps w.sleeps useconds w.devices
      sleeps := w.sleeps + 1 }) := rfl

/-! ### Transfers -/

/-- `rdwr` as a function of the world. -/
def exchange (fd : Fd) (msgs : List I2cMsg) (w : World) : (ℤ × List I2cMsg) × World :=
  match fd with
  | none => ((-1, msgs), w)
  | some path =>
    let done := transfer (w.devices path) msgs
    let moved := Function.update w.devices path done.1
    match env.transfers w.transfers with
    | .ok => ((msgs.length, done.2), w.transferred path msgs moved)
    | .failed effect code =>
      ((Int.negSucc code, msgs), w.transferred path msgs (if effect then moved else w.devices))

theorem rdwr_run (fd : Fd) (msgs : List I2cMsg) (w : World) :
    rdwr env fd msgs w = (.ok (exchange env fd msgs w).1, (exchange env fd msgs w).2) := by
  cases fd with
  | none => rfl
  | some path =>
    refine (bind_ok (get_run w)).trans ?_
    cases h : env.transfers w.transfers with
    | ok =>
      simp only [exchange, h]
      rfl
    | failed effect code =>
      simp only [exchange, h]
      rfl

/-- The next transfer on this descriptor is carried out. -/
def Succeeds (fd : Fd) (w : World) : Prop := fd.isSome = true ∧ env.transfers w.transfers = .ok

instance (fd : Fd) (w : World) : Decidable (Succeeds env fd w) :=
  inferInstanceAs (Decidable (_ ∧ _))

theorem exchange_ok {path : CString} {msgs : List I2cMsg} {w : World}
    (h : env.transfers w.transfers = .ok) :
    exchange env (some path) msgs w =
      (((msgs.length : ℤ), (transfer (w.devices path) msgs).2),
        w.transferred path msgs
          (Function.update w.devices path (transfer (w.devices path) msgs).1)) := by
  unfold exchange
  rw [h]

theorem exchange_fails (fd : Fd) (msgs : List I2cMsg) {w : World} (h : ¬ Succeeds env fd w) :
    (exchange env fd msgs w).1.1 < 0 ∧ (exchange env fd msgs w).1.2 = msgs := by
  cases fd with
  | none => exact ⟨(by decide : (-1 : ℤ) < 0), rfl⟩
  | some path =>
    unfold exchange
    cases ht : env.transfers w.transfers with
    | ok => exact absurd ⟨rfl, ht⟩ h
    | failed effect code => exact ⟨Int.negSucc_lt_zero code, rfl⟩

theorem exchange_neg_iff (fd : Fd) (msgs : List I2cMsg) (w : World) :
    (exchange env fd msgs w).1.1 < 0 ↔ ¬ Succeeds env fd w := by
  refine ⟨?_, fun h => (exchange_fails env _ _ h).1⟩
  rintro hneg ⟨hfd, ht⟩
  obtain ⟨path, rfl⟩ := Option.isSome_iff_exists.mp hfd
  rw [exchange_ok env ht] at hneg
  exact absurd hneg (by simp)

theorem exchange_transfers (path : CString) (msgs : List I2cMsg) (w : World) :
    (exchange env (some path) msgs w).2.transfers = w.transfers + 1 := by
  unfold exchange
  cases env.transfers w.transfers with
  | ok => rfl
  | failed effect code => rfl

/-- A transfer moves the devices, its own count and the trace. -/
theorem exchange_frame (fd : Fd) (msgs : List I2cMsg) (w : World) :
    (exchange env fd msgs w).2.mallocs = w.mallocs ∧ (exchange env fd msgs w).2.live = w.live ∧
      (exchange env fd msgs w).2.opens = w.opens ∧ (exchange env fd msgs w).2.sleeps = w.sleeps := by
  cases fd with
  | none => exact ⟨rfl, rfl, rfl, rfl⟩
  | some path =>
    unfold exchange
    cases env.transfers w.transfers with
    | ok => exact ⟨rfl, rfl, rfl, rfl⟩
    | failed effect code => exact ⟨rfl, rfl, rfl, rfl⟩

/-! ### How a helper begins -/

/-- Memory for the messages first, and for the bytes if that was granted. -/
def opening {α : Type} (early : Block → Process α) (rest : Block → Block → Process α) :
    Process α := do
  let msgs ← malloc env
  if msgs.isNone then
    early msgs
  else do
    let data ← malloc env
    rest msgs data

section Opening
variable {α : Type} {early : Block → Process α} {rest : Block → Block → Process α} {w : World}

theorem opening_refused (h0 : env.mallocs w.mallocs = false) :
    opening env early rest w = early none w.refused := by
  unfold opening
  rw [bind_ok (malloc_refused env h0)]
  rfl

theorem opening_starved (h0 : env.mallocs w.mallocs = true)
    (h1 : env.mallocs (w.mallocs + 1) = false) :
    opening env early rest w = rest (some w.mallocs) none w.malloced.refused := by
  unfold opening
  rw [bind_ok (malloc_ok env h0)]
  exact bind_ok (malloc_refused env h1)

theorem opening_granted (h0 : env.mallocs w.mallocs = true)
    (h1 : env.mallocs (w.mallocs + 1) = true) :
    opening env early rest w =
      rest (some w.mallocs) (some (w.mallocs + 1)) w.malloced.malloced := by
  unfold opening
  rw [bind_ok (malloc_ok env h0)]
  exact bind_ok (malloc_ok env h1)

end Opening

/-! ### The helpers that write -/

/-- The transfers of `writeLoop` for the bytes from register `reg` on: the result
of the first one that fails, and the world after them. -/
def sent (fd : Fd) (addr : BitVec 16) : Byte → List Byte → World → Option ℤ × World
  | _, [], w => (none, w)
  | reg, b :: bs, w =>
    let x := exchange env fd [writeByteMsg addr reg b] w
    if x.1.1 < 0 then (some x.1.1, x.2) else sent fd addr (reg + 1) bs x.2

theorem sent_one (fd : Fd) (addr : BitVec 16) (reg b : Byte) (w : World) :
    sent env fd addr reg [b] w =
      let x := exchange env fd [writeByteMsg addr reg b] w
      (if x.1.1 < 0 then some x.1.1 else none, x.2) := by
  unfold sent
  dsimp only
  split <;> rfl

theorem uchar_succ (x i : ℤ) : uchar (x + (i + 1)) = uchar (x + i) + 1 := by
  unfold uchar
  rw [← Int.add_assoc, BitVec.ofInt_add]
  rfl

theorem writeLoop_run (fd : Fd) (addr offset : ℤ) (d : ℕ) (i : ℤ) (bs : List Byte) (w : World) :
    writeLoop env fd addr offset (some d) i bs w =
      (.ok (sent env fd (BitVec.ofInt 16 addr) (uchar ((uchar offset).toNat + i)) bs w).1,
        (sent env fd (BitVec.ofInt 16 addr) (uchar ((uchar offset).toNat + i)) bs w).2) := by
  induction bs generalizing i w with
  | nil => rfl
  | cons b bs ih =>
    unfold writeLoop sent
    rw [bind_ok (storeTo_run d w), bind_ok (rdwr_run env fd _ w)]
    dsimp only
    split
    · rfl
    · rw [ih, uchar_succ]

theorem i2cDataWriteStr_run (fd : Fd) (addr offset : ℤ) (buf : List Byte) {w : World}
    (h0 : env.mallocs w.mallocs = true) (h1 : env.mallocs (w.mallocs + 1) = true) :
    i2cDataWriteStr env fd addr offset buf w =
      let x := sent env fd (BitVec.ofInt 16 addr) (uchar offset) buf w.malloced.malloced
      match x.1 with
      | some ret => (.ok ret, x.2)
      | none => (.ok buf.length, (x.2.freed (w.mallocs + 1)).freed w.mallocs) := by
  have hreg : uchar ((uchar offset).toNat + 0) = uchar offset := by
    rw [Int.add_zero]
    exact (BitVec.ofInt_natCast 8 _).trans (BitVec.ofNat_toNat ..)
  refine (opening_granted env h0 h1).trans ?_
  rw [bind_ok (writeLoop_run env fd addr offset _ 0 buf _), hreg]
  dsimp only
  cases (sent env fd (BitVec.ofInt 16 addr) (uchar offset) buf w.malloced.malloced).1 with
  | none => rfl
  | some ret => rfl

theorem i2cDataWriteStr_refused (fd : Fd) (addr offset : ℤ) (buf : List Byte) {w : World}
    (h0 : env.mallocs w.mallocs = false) :
    i2cDataWriteStr env fd addr offset buf w = (.ok (-1), w.refused) :=
  opening_refused env h0

theorem i2cDataWriteStr_faults (fd : Fd) (addr offset : ℤ) (b : Byte) (bs : List Byte) {w : World}
    (h0 : env.mallocs w.mallocs = true) (h1 : env.mallocs (w.mallocs + 1) = false) :
    i2cDataWriteStr env fd addr offset (b :: bs) w = (.error .faults, w.malloced.refused) :=
  (opening_starved env h0 h1).trans (bind_error (bind_error rfl))

theorem i2cDataWriteByte_run (fd : Fd) (addr offset : ℤ) (buf : Byte) {w : World}
    (h0 : env.mallocs w.mallocs = true) (h1 : env.mallocs (w.mallocs + 1) = true) :
    i2cDataWriteByte env fd addr offset buf w =
      let x := exchange env fd [writeByteMsg (BitVec.ofInt 16 addr) (uchar offset) buf]
        w.malloced.malloced
      if x.1.1 < 0 then (.ok x.1.1, x.2)
      else (.ok x.1.1, (x.2.freed (w.mallocs + 1)).freed w.mallocs) := by
  refine (opening_granted env h0 h1).trans ?_
  rw [bind_ok (storeTo_run _ _), bind_ok (rdwr_run env fd _ _)]
  dsimp only
  split <;> rfl

theorem i2cDataWriteByte_refused (fd : Fd) (addr offset : ℤ) (buf : Byte) {w : World}
    (h0 : env.mallocs w.mallocs = false) :
    i2cDataWriteByte env fd addr offset buf w = (.ok (-1), w.refused) :=
  opening_refused env h0

theorem i2cDataWriteByte_faults (fd : Fd) (addr offset : ℤ) (buf : Byte) {w : World}
    (h0 : env.mallocs w.mallocs = true) (h1 : env.mallocs (w.mallocs + 1) = false) :
    i2cDataWriteByte env fd addr offset buf w = (.error .faults, w.malloced.refused) :=
  (opening_starved env h0 h1).trans (bind_error rfl)

/-! ### The helpers that read -/

def readMsgs (addr offset : ℤ) (buf : List Byte) : List I2cMsg :=
  [selectMsg (BitVec.ofInt 16 addr) (uchar offset),
    readMsg (BitVec.ofInt 16 addr) (BitVec.ofNat 16 buf.length) buf]

def lastBuf (msgs : List I2cMsg) (buf : List Byte) : List Byte :=
  (msgs.getLast?.map I2cMsg.buf).getD buf

theorem exchange_read (path : CString) {w : World} (addr offset : ℤ) (buf : List Byte)
    (h : env.transfers w.transfers = .ok) :
    exchange env (some path) (readMsgs addr offset buf) w =
      ((2, [selectMsg (BitVec.ofInt 16 addr) (uchar offset),
          readMsg (BitVec.ofInt 16 addr) (BitVec.ofNat 16 buf.length)
            (loadFrom (w.devices path (BitVec.ofInt 16 addr)) (uchar offset)
              (BitVec.ofNat 16 buf.length).toNat ++
                buf.drop (BitVec.ofNat 16 buf.length).toNat)]),
        w.transferred path (readMsgs addr offset buf) w.devices) := by
  rw [exchange_ok env h, readMsgs, transfer_read, Function.update_eq_self]
  rfl

theorem i2cDataReadStr_run (fd : Fd) (addr offset : ℤ) (buf : List Byte) {w : World}
    (h0 : env.mallocs w.mallocs = true) (h1 : env.mallocs (w.mallocs + 1) = true) :
    i2cDataReadStr env fd addr offset buf w =
      let x := exchange env fd (readMsgs addr offset buf) w.malloced.malloced
      if x.1.1 < 0 then (.ok (x.1.1, lastBuf x.1.2 buf), x.2)
      else (.ok (0, lastBuf x.1.2 buf), (x.2.freed (w.mallocs + 1)).freed w.mallocs) := by
  refine (opening_granted env h0 h1).trans ?_
  rw [bind_ok (storeTo_run _ _), bind_ok (rdwr_run env fd _ _)]
  unfold readMsgs
  dsimp only
  split <;> rfl

theorem i2cDataReadStr_refused (fd : Fd) (addr offset : ℤ) (buf : List Byte) {w : World}
    (h0 : env.mallocs w.mallocs = false) :
    i2cDataReadStr env fd addr offset buf w = (.error (.exits 1), w.refused) :=
  opening_refused env h0

theorem i2cDataReadStr_faults (fd : Fd) (addr offset : ℤ) (buf : List Byte) {w : World}
    (h0 : env.mallocs w.mallocs = true) (h1 : env.mallocs (w.mallocs + 1) = false) :
    i2cDataReadStr env fd addr offset buf w = (.error .faults, w.malloced.refused) :=
  (opening_starved env h0 h1).trans (bind_error rfl)

theorem i2cDataReadByte_run (fd : Fd) (addr offset : ℤ) (buf : Byte) {w : World}
    (h0 : env.mallocs w.mallocs = true) (h1 : env.mallocs (w.mallocs + 1) = true)
    (h2 : env.mallocs (w.mallocs + 2) = true) :
    i2cDataReadByte env fd addr offset buf w =
      let x := exchange env fd (readMsgs addr offset [0]) w.malloced.malloced.malloced
      if x.1.1 < 0 then (.ok (x.1.1, buf), x.2)
      else (.ok (x.1.1, (x.1.2.getLast?.bind fun m => m.buf.head?).getD 0),
        ((x.2.freed (w.mallocs + 1)).freed (w.mallocs + 2)).freed w.mallocs) := by
  have hmsgs : [selectMsg (BitVec.ofInt 16 addr) (uchar offset),
      readMsg (BitVec.ofInt 16 addr) 1 [0]] = readMsgs addr offset [0] := rfl
  refine (opening_granted env h0 h1).trans ?_
  rw [bind_ok (storeTo_run _ _), bind_ok (malloc_ok env h2), bind_ok (storeTo_run _ _),
    bind_ok (rdwr_run env fd _ _), hmsgs]
  dsimp only
  split <;> rfl

theorem i2cDataReadByte_ends (fd : Fd) (addr offset : ℤ) (buf : Byte) {w : World}
    (h : ¬ (env.mallocs w.mallocs = true ∧ env.mallocs (w.mallocs + 1) = true ∧
      env.mallocs (w.mallocs + 2) = true)) :
    ∃ e v, i2cDataReadByte env fd addr offset buf w = (.error e, v) := by
  cases h0 : env.mallocs w.mallocs with
  | false => exact ⟨_, _, opening_refused env h0⟩
  | true =>
    cases h1 : env.mallocs (w.mallocs + 1) with
    | false => exact ⟨_, _, (opening_starved env h0 h1).trans (bind_error rfl)⟩
    | true =>
      have h2 : env.mallocs (w.mallocs + 2) = false := by
        rw [Bool.eq_false_iff]
        exact fun h2 => h ⟨h0, h1, h2⟩
      have hfaults : i2cDataReadByte env fd addr offset buf w =
          (.error .faults, w.malloced.malloced.refused) := by
        refine (opening_granted env h0 h1).trans ?_
        rw [bind_ok (storeTo_run _ _), bind_ok (malloc_refused env h2)]
        exact bind_error rfl
      exact ⟨_, _, hfaults⟩

end BoardServices.Tb573d
