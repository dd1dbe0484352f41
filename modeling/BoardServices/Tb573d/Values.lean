import BoardServices.Lib.Numerals
import BoardServices.Tb573d.Verify

/-!
# From the command line to the register

The register writes a command issues, as a function of its numeric arguments.
The arguments are narrowed to a byte before any check (tb573d_i2c.c:103-108), and
the second check lets 20 pass where the program prints 21, so the writes are
those of the remainders modulo 256.
-/

namespace BoardServices.Tb573d
open Lib.Process Lib.Strings Lib.Numerals

/-! ### Register writes -/

structure RegisterWrite where
  path : CString
  addr : BitVec 16
  reg : Byte
  value : Byte
  deriving DecidableEq, Repr

def I2cMsg.writes (path : CString) (m : I2cMsg) : List RegisterWrite :=
  if m.isRead then []
  else
    match m.buf.take m.len.toNat with
    | [] => []
    | reg :: data => data.mapIdx fun j b => ⟨path, m.addr, reg + BitVec.ofNat 8 j, b⟩

def Transfer.writes (t : Transfer) : List RegisterWrite := t.msgs.flatMap (I2cMsg.writes t.path)

def registerWrites (w : World) : List RegisterWrite := w.trace.flatMap Transfer.writes

theorem writeByteMsg_writes (path : CString) (addr : BitVec 16) (reg value : Byte) :
    (writeByteMsg addr reg value).writes path = [⟨path, addr, reg, value⟩] := by
  unfold I2cMsg.writes
  rw [writeByteMsg_isRead, writeByteMsg_bytes]
  exact congrArg (fun r => [RegisterWrite.mk path addr r value]) (BitVec.add_zero reg)

theorem readMsgs_writes (path : CString) (addr offset : ℤ) (buf : List Byte) :
    (readMsgs addr offset buf).flatMap (I2cMsg.writes path) = [] := by
  simp only [readMsgs, List.flatMap_cons, I2cMsg.writes, selectMsg_isRead, selectMsg_bytes,
    readMsg_isRead]
  rfl

section Tracing
variable (env : Env)

theorem exchange_writes (path : CString) (msgs : List I2cMsg) (w : World) :
    registerWrites (exchange env (some path) msgs w).2 =
      registerWrites w ++ msgs.flatMap (I2cMsg.writes path) := by
  have happend (devices : CString → Bus) :
      registerWrites (w.transferred path msgs devices) =
        registerWrites w ++ msgs.flatMap (I2cMsg.writes path) := by
    simp [registerWrites, World.transferred, Transfer.writes]
  unfold exchange
  cases env.transfers w.transfers with
  | ok => exact happend _
  | failed effect code => exact happend _

/-- The piece writes no register, however it ends. -/
def Quiet {α : Type} (m : Process α) : Prop := ∀ w, registerWrites (m w).2 = registerWrites w

theorem bind_quiet {α β : Type} (m : Process α) {f : α → Process β} (hf : ∀ a, Quiet (f a))
    (w : World) : registerWrites ((m >>= f) w).2 = registerWrites (m w).2 := by
  cases hm : m w with
  | mk r u =>
    cases r with
    | ok a =>
      rw [bind_ok hm]
      exact hf a u
    | error e => rw [bind_error hm]

theorem Quiet.bind {α β : Type} {m : Process α} {f : α → Process β} (hm : Quiet m)
    (hf : ∀ a, Quiet (f a)) : Quiet (m >>= f) :=
  fun w => (bind_quiet m hf w).trans (hm w)

theorem pure_quiet {α : Type} (a : α) : Quiet (pure a : Process α) := fun _ => rfl

theorem usleep_quiet (useconds : BitVec 32) : Quiet (usleep env useconds) := fun _ => rfl

theorem openFd_quiet (path : CString) : Quiet (openFd env path) := fun _ => rfl

theorem exchange_read_quiet (fd : Fd) (addr offset : ℤ) (buf : List Byte) (w : World) :
    registerWrites (exchange env fd (readMsgs addr offset buf) w).2 = registerWrites w := by
  cases fd with
  | none => rfl
  | some path => rw [exchange_writes, readMsgs_writes, List.append_nil]

theorem i2cDataReadStr_quiet (fd : Fd) (addr offset : ℤ) (buf : List Byte) :
    Quiet (i2cDataReadStr env fd addr offset buf) := by
  intro w
  cases h0 : env.mallocs w.mallocs with
  | false =>
    rw [i2cDataReadStr_refused env fd addr offset buf h0]
    rfl
  | true =>
    cases h1 : env.mallocs (w.mallocs + 1) with
    | false =>
      rw [i2cDataReadStr_faults env fd addr offset buf h0 h1]
      rfl
    | true =>
      have hread:=exchange_read_quiet env fd addr offset buf w.malloced.malloced
      rw [i2cDataReadStr_run env fd addr offset buf h0 h1]
      dsimp only
      split
      · exact hread
      · exact hread

theorem readPhase_quiet (reg : ℤ) (value : Byte) (fd : Fd) : Quiet (readPhase env reg value fd) := by
  refine (i2cDataReadStr_quiet env fd I2C_ADDRESS reg [value]).bind fun got => ?_
  split
  · exact pure_quiet _
  · exact pure_quiet _

instance (n : ℕ) : Decidable (Granted env n) := inferInstanceAs (Decidable (_ ∧ _))

theorem i2cDataWriteStr_writes (path : CString) (addr offset : ℤ) (b : Byte) (w : World) :
    registerWrites (i2cDataWriteStr env (some path) addr offset [b] w).2 =
      registerWrites w ++ if Granted env w.mallocs
        then [⟨path, BitVec.ofInt 16 addr, uchar offset, b⟩] else [] := by
  cases h0 : env.mallocs w.mallocs with
  | false =>
    rw [i2cDataWriteStr_refused env (some path) addr offset [b] h0,
      if_neg fun h => Bool.false_ne_true (h0.symm.trans h.1), List.append_nil]
    rfl
  | true =>
    cases h1 : env.mallocs (w.mallocs + 1) with
    | false =>
      rw [i2cDataWriteStr_faults env (some path) addr offset b [] h0 h1,
        if_neg fun h => Bool.false_ne_true (h1.symm.trans h.2), List.append_nil]
      rfl
    | true =>
      have hx:=exchange_writes env path [writeByteMsg (BitVec.ofInt 16 addr) (uchar offset) b]
        w.malloced.malloced
      rw [List.flatMap_singleton, writeByteMsg_writes] at hx
      rw [i2cDataWriteStr_run env (some path) addr offset [b] h0 h1, sent_one, if_pos ⟨h0, h1⟩]
      dsimp only
      split
      · exact hx
      · exact hx

theorem writePhase_writes {reg : ℤ} {value : Byte} {k : Fd → Process ℤ} (hk : ∀ fd, Quiet (k fd))
    (w : World) :
    registerWrites (writePhase env reg value k w).2 =
      registerWrites w ++ if Granted env w.mallocs
        then [⟨I2C_DEVICE_PATH, mcuAddress, uchar reg, value⟩] else [] := by
  have hrest : Quiet (do
      usleep env 1000000
      let fd ← openFd env I2C_DEVICE_PATH
      k fd) := (usleep_quiet env 1000000).bind fun _ => (openFd_quiet env _).bind hk
  unfold writePhase
  rw [bind_quiet _ fun _ => hrest]
  exact i2cDataWriteStr_writes env I2C_DEVICE_PATH I2C_ADDRESS reg value w

/-! ### The two commands -/

theorem alsEnable_writes (enable : Byte) {w : World} (ho : env.opens w.opens = true) :
    registerWrites (alsEnable env enable w).2 =
      registerWrites w ++ if Granted env w.mallocs
        then [⟨I2C_DEVICE_PATH, mcuAddress, uchar REG_ALS_EN, if enable = 0 then 0 else 1⟩]
        else [] := by
  rw [alsEnable_run, if_pos ho]
  exact writePhase_writes env (readPhase_quiet env _ _) w.opened

instance (setMax percentage : Byte) : Decidable (Accepted setMax percentage) :=
  inferInstanceAs
    (Decidable (if setMax = 0 then percentage ≤ 20 else 20 ≤ percentage ∧ percentage ≤ 100))

theorem setMinOrMaxDimmingDutyCycle_rejects {setMax percentage : Byte}
    (h : ¬ Accepted setMax percentage) (w : World) :
    setMinOrMaxDimmingDutyCycle env setMax percentage w = (.ok (-1), w) := by
  unfold setMinOrMaxDimmingDutyCycle
  unfold Accepted at h
  by_cases hs : setMax = 0
  · rw [if_pos hs] at h
    simp only [hs, if_true, gt_iff_lt, BitVec.not_le.mp h]
    rfl
  · rw [if_neg hs, not_and_or, BitVec.not_le, BitVec.not_le] at h
    simp only [hs, if_false, gt_iff_lt, h, if_true]
    rfl

theorem setMinOrMaxDimmingDutyCycle_writes (setMax percentage : Byte) {w : World}
    (ho : env.opens w.opens = true) :
    registerWrites (setMinOrMaxDimmingDutyCycle env setMax percentage w).2 =
      registerWrites w ++ if Accepted setMax percentage ∧ Granted env w.mallocs
        then [⟨I2C_DEVICE_PATH, mcuAddress, uchar (dimRegister setMax), percentage⟩] else [] := by
  by_cases h : Accepted setMax percentage
  · have hk : ∀ fd : Fd, Quiet (if fd.isNone then pure (-1)
        else readPhase env (dimRegister setMax) percentage fd) := by
      intro fd
      split
      · exact pure_quiet _
      · exact readPhase_quiet env _ _ fd
    rw [setMinOrMaxDimmingDutyCycle_run env h, if_pos ho]
    simp only [h, true_and]
    exact writePhase_writes env hk w.opened
  · rw [setMinOrMaxDimmingDutyCycle_rejects env h, if_neg (fun hc => h hc.1), List.append_nil]

end Tracing

/-! ### Numeric arguments -/

/-- The ranges the program prints. -/
def DimDocumented (m p : ℤ) : Prop := (m = 0 ∧ 0 ≤ p ∧ p ≤ 20) ∨ (m ≠ 0 ∧ 21 ≤ p ∧ p ≤ 100)

/-- The ranges that are checked, on the remainders. -/
def NarrowAccepted (m p : ℤ) : Prop :=
  (m % 256 = 0 ∧ p % 256 ≤ 20) ∨ (m % 256 ≠ 0 ∧ 20 ≤ p % 256 ∧ p % 256 ≤ 100)

theorem uchar_toNat (x : ℤ) : ((uchar x).toNat : ℤ) = x % 256 := by
  rw [(uchar_eq_iff x (uchar x)).mp rfl]

theorem uchar_eq_zero (x : ℤ) : uchar x = 0 ↔ x % 256 = 0 := uchar_eq_iff x 0

theorem accepted_uchar_iff (m p : ℤ) : Accepted (uchar m) (uchar p) ↔ NarrowAccepted m p := by
  have hp:=uchar_toNat p
  have h20 : uchar p ≤ 20 ↔ p % 256 ≤ 20 := by
    rw [BitVec.le_def, ← hp]
    exact Int.ofNat_le.symm
  have h20' : 20 ≤ uchar p ↔ 20 ≤ p % 256 := by
    rw [BitVec.le_def, ← hp]
    exact Int.ofNat_le.symm
  have h100 : uchar p ≤ 100 ↔ p % 256 ≤ 100 := by
    rw [BitVec.le_def, ← hp]
    exact Int.ofNat_le.symm
  unfold Accepted NarrowAccepted
  by_cases hm : uchar m = 0
  · rw [if_pos hm, h20]
    rw [uchar_eq_zero] at hm
    simp [hm]
  · rw [if_neg hm, h20', h100]
    rw [uchar_eq_zero] at hm
    simp [hm]

/-- A write is issued exactly for the documented values, and it writes the value
that was given to the register it is for. -/
structure DimAsGiven (m p : ℤ) (issued : List RegisterWrite) : Prop where
  issues : issued ≠ [] ↔ DimDocumented m p
  given : ∀ x ∈ issued, x.path = I2C_DEVICE_PATH ∧ x.addr = mcuAddress ∧
    x.reg = uchar (if m = 0 then REG_DIM_MIN else REG_DIM_MAX) ∧ (x.value.toNat : ℤ) = p

def AlsAsGiven (n : ℤ) (issued : List RegisterWrite) : Prop :=
  issued = [⟨I2C_DEVICE_PATH, mcuAddress, uchar REG_ALS_EN, if n = 0 then 0 else 1⟩]

/-- The values that narrowing does not harm. -/
def DimUnharmed (m p : ℤ) : Prop :=
  (m = 0 ∧ 0 ≤ p ∧ p ≤ 20) ∨ (m % 256 ≠ 0 ∧ 21 ≤ p ∧ p ≤ 100) ∨
    (¬ DimDocumented m p ∧ ¬ NarrowAccepted m p)

theorem dimAsGiven_nil_iff (m p : ℤ) : DimAsGiven m p [] ↔ ¬ DimDocumented m p :=
  ⟨fun h hd => h.issues.mpr hd rfl, fun h => ⟨iff_of_false (fun hn => hn rfl) h, nofun⟩⟩

theorem dimAsGiven_write_iff {m p : ℤ} (h : NarrowAccepted m p) :
    DimAsGiven m p [⟨I2C_DEVICE_PATH, mcuAddress, uchar (dimRegister (uchar m)), uchar p⟩] ↔
      DimUnharmed m p := by
  unfold DimUnharmed
  constructor
  · intro hg
    have hd:=hg.issues.mp (List.cons_ne_nil _ _)
    unfold NarrowAccepted at h
    unfold DimDocumented at hd
    omega
  · rintro (⟨hm, h0, h20⟩ | ⟨hm, h21, h100⟩ | hn)
    · refine ⟨iff_of_true (List.cons_ne_nil _ _) (Or.inl ⟨hm, h0, h20⟩), ?_⟩
      intro x hx
      rw [List.mem_singleton.mp hx, hm]
      refine ⟨rfl, rfl, rfl, ?_⟩
      rw [uchar_toNat]
      omega
    · have hne : m ≠ 0 := by omega
      refine ⟨iff_of_true (List.cons_ne_nil _ _) (Or.inr ⟨hne, h21, h100⟩), ?_⟩
      intro x hx
      rw [List.mem_singleton.mp hx, dimRegister, if_neg (mt (uchar_eq_zero m).mp hm), if_neg hne]
      refine ⟨rfl, rfl, rfl, ?_⟩
      rw [uchar_toNat]
      omega
    · exact absurd h hn.2

theorem dimUnharmed_rejected_iff {m p : ℤ} (h : ¬ NarrowAccepted m p) :
    DimUnharmed m p ↔ ¬ DimDocumented m p := by
  unfold DimUnharmed
  unfold NarrowAccepted at h ⊢
  unfold DimDocumented
  omega

/-! ### Command lines -/

section CommandLines
variable (env : Env) (iterations : ℕ)

def issued (argv : List CString) (w : World) : List RegisterWrite :=
  (registerWrites (main env iterations argv w).2).drop (registerWrites w).length

theorem issued_eq {argv : List CString} {w : World} {l : List RegisterWrite}
    (h : registerWrites (main env iterations argv w).2 = registerWrites w ++ l) :
    issued env iterations argv w = l := by
  rw [issued, h, List.drop_left]

theorem main_als_writes (prog a : CString) (rest : List CString) {w : World}
    (ho : env.opens w.opens = true) :
    issued env iterations (prog :: "als".toList :: a :: rest) w =
      if Granted env w.mallocs
        then [⟨I2C_DEVICE_PATH, mcuAddress, uchar REG_ALS_EN, if uchar (atoi a) = 0 then 0 else 1⟩]
        else [] := by
  refine issued_eq env iterations ?_
  rw [← alsEnable_writes env (uchar (atoi a)) ho]
  exact bind_quiet (alsEnable env (uchar (atoi a))) (fun _ => pure_quiet 0) w

theorem main_dim_writes (prog a b : CString) (rest : List CString) {w : World}
    (ho : env.opens w.opens = true) :
    issued env iterations (prog :: "dim".toList :: a :: b :: rest) w =
      if Accepted (uchar (atoi a)) (uchar (atoi b)) ∧ Granted env w.mallocs
        then [⟨I2C_DEVICE_PATH, mcuAddress, uchar (dimRegister (uchar (atoi a))), uchar (atoi b)⟩]
        else [] := by
  refine issued_eq env iterations ?_
  rw [← setMinOrMaxDimmingDutyCycle_writes env (uchar (atoi a)) (uchar (atoi b)) ho]
  exact bind_quiet (setMinOrMaxDimmingDutyCycle env (uchar (atoi a)) (uchar (atoi b)))
    (fun _ => pure_quiet 0) w

end CommandLines

/-- The program writes what the user gave exactly if narrowing the arguments to a
byte does no harm. -/
theorem writes_given_values_iff (env : Env) (iterations : ℕ) (prog : CString) (w : World)
    (ho : env.opens w.opens = true) :
    (∀ (a b : CString) (m p : ℤ) (rest : List CString), decimalNumeral a = some m → IsInt m →
      decimalNumeral b = some p → IsInt p →
        (DimAsGiven m p (issued env iterations (prog :: "dim".toList :: a :: b :: rest) w) ↔
          if Granted env w.mallocs then DimUnharmed m p else ¬ DimDocumented m p)) ∧
      ∀ (a : CString) (n : ℤ) (rest : List CString), decimalNumeral a = some n → IsInt n →
        (AlsAsGiven n (issued env iterations (prog :: "als".toList :: a :: rest) w) ↔
          Granted env w.mallocs ∧ (n = 0 ∨ n % 256 ≠ 0)) := by
  refine ⟨?_, ?_⟩
  · intro a b m p rest ha hm hb hp
    rw [main_dim_writes env iterations prog a b rest ho, atoi_numeral ha hm, atoi_numeral hb hp]
    have hnarrow:=accepted_uchar_iff m p
    by_cases hg : Granted env w.mallocs
    · rw [if_pos hg]
      by_cases hn : NarrowAccepted m p
      · rw [if_pos ⟨hnarrow.mpr hn, hg⟩]
        exact dimAsGiven_write_iff hn
      · rw [if_neg fun h => hn (hnarrow.mp h.1), dimUnharmed_rejected_iff hn]
        exact dimAsGiven_nil_iff m p
    · rw [if_neg hg, if_neg fun h => hg h.2]
      exact dimAsGiven_nil_iff m p
  · intro a n rest ha hn
    rw [main_als_writes env iterations prog a rest ho, atoi_numeral ha hn]
    have hzero:=uchar_eq_zero n
    unfold AlsAsGiven
    by_cases hg : Granted env w.mallocs
    · rw [if_pos hg, and_iff_right hg]
      by_cases h0 : n = 0
      · rw [if_pos h0, if_pos (hzero.mpr (by rw [h0]; rfl))]
        exact iff_of_true rfl (Or.inl h0)
      · rw [if_neg h0, or_iff_right h0]
        by_cases hu : n % 256 = 0
        · rw [if_pos (hzero.mpr hu)]
          exact iff_of_false (by decide) (not_not.mpr hu)
        · rw [if_neg (mt hzero.mp hu)]
          exact iff_of_true rfl hu
    · rw [if_neg hg]
      exact iff_of_false (List.cons_ne_nil _ _).symm fun h => hg h.1

theorem writes_given_values_iff_88 :
    DimAsGiven 1 88
      (issued steady 0 (["tb573d_i2c", "dim", "1", "88"].map String.toList) idle) :=
  ((writes_given_values_iff steady 0 "tb573d_i2c".toList idle rfl).1 "1".toList "88".toList 1 88 []
    (by decide) (by decide) (by decide) (by decide)).mpr (Or.inr (Or.inl (by decide)))

/-- 300 is written as 44, 20 although the program prints a range from 21 on, and
`als 256` switches off. -/
theorem narrowed_values_written :
    ¬ DimAsGiven 1 300 (issued steady 0 (["tb573d_i2c", "dim", "1", "300"].map String.toList) idle) ∧
      ¬ DimAsGiven 1 20 (issued steady 0 (["tb573d_i2c", "dim", "1", "20"].map String.toList) idle) ∧
      ¬ AlsAsGiven 256 (issued steady 0 (["tb573d_i2c", "als", "256"].map String.toList) idle) := by
  have h300 : issued steady 0 (["tb573d_i2c", "dim", "1", "300"].map String.toList) idle =
      [⟨I2C_DEVICE_PATH, mcuAddress, uchar REG_DIM_MAX, 44⟩] :=
    (main_dim_writes steady 0 "tb573d_i2c".toList "1".toList "300".toList [] rfl).trans (by decide)
  have h20 : issued steady 0 (["tb573d_i2c", "dim", "1", "20"].map String.toList) idle =
      [⟨I2C_DEVICE_PATH, mcuAddress, uchar REG_DIM_MAX, 20⟩] :=
    (main_dim_writes steady 0 "tb573d_i2c".toList "1".toList "20".toList [] rfl).trans (by decide)
  have h256 : issued steady 0 (["tb573d_i2c", "als", "256"].map String.toList) idle =
      [⟨I2C_DEVICE_PATH, mcuAddress, uchar REG_ALS_EN, 0⟩] :=
    (main_als_writes steady 0 "tb573d_i2c".toList "256".toList [] rfl).trans (by decide)
  refine ⟨fun h => ?_, fun h => ?_, fun h => ?_⟩
  · have hd:=h.issues.mp (by rw [h300]; exact List.cons_ne_nil _ _)
    exact absurd hd (by unfold DimDocumented; decide)
  · have hd:=h.issues.mp (by rw [h20]; exact List.cons_ne_nil _ _)
    exact absurd hd (by unfold DimDocumented; decide)
  · exact absurd (h256.symm.trans h) (by decide)

end BoardServices.Tb573d
