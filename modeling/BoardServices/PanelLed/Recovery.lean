import Mathlib.Data.Nat.Find
import BoardServices.PanelLed.Loop

/-!
# Failing writes and the latch

The latch is closed before the LEDs are written and stays closed when a write
fails. So the display of a settled status is that of the last pass that wrote,
and it is right exactly if that pass was carried out.
-/

namespace BoardServices.PanelLed
open Lib Lib.Strings

def Settled (k : LedClass) (argv : List CString) (info : LedInfo) (leds : Led → LedState)
    (env : ℕ → Iteration) (m : ℕ) : Prop :=
  ∀ n, m ≤ n → (runFor k argv info leds env (n + 1)).info.sysStatus =
    (runFor k argv info leds env (m + 1)).info.sysStatus

def LastWrite (k : LedClass) (argv : List CString) (info : LedInfo) (leds : Led → LedState)
    (env : ℕ → Iteration) (m j : ℕ) : Prop :=
  j ≤ m ∧ Writes argv.length (runFor k argv info leds env j) (env j) ∧
    ∀ i, j < i → i ≤ m → ¬ Writes argv.length (runFor k argv info leds env i) (env i)

/-- Every command of the pass took effect or asked for what was there already. -/
def CarriedOut (k : LedClass) (argc : ℕ) (st : State) (it : Iteration) : Prop :=
  ∀ c ∈ commands (detected argc st it), c.2.Written k (it.access c.1) (st.fs.leds c.1)

section Run
variable (k : LedClass) (argv : List CString) (info : LedInfo) (leds : Led → LedState)
  (env : ℕ → Iteration)

theorem runFor_succ (n : ℕ) :
    runFor k argv info leds env (n + 1) =
      loopBody k argv.length (runFor k argv info leds env n) (env n) :=
  Machine.stateAt_succ (loopBody k argv.length) (started info leds) env n

theorem runFor_latched (n : ℕ) : Latched (runFor k argv info leds env (n + 1)).info := by
  rw [runFor_succ]
  exact (loopBody_info k argv.length _ (env n)).1

theorem runFor_calm (hp : parseArgs argv = .ok info) (h0 : ∀ led, (leds led).timer = false)
    (n : ℕ) : Calm argv.length (runFor k argv info leds env n) :=
  Machine.stateAt_invariant (I := Calm argv.length) (started_calm argv info leds hp h0)
    (fun n st h => calm_step k argv.length st (env n) h) n

theorem runFor_wellFormed (hw : WellFormed info) (n : ℕ) :
    WellFormed (runFor k argv info leds env n).info := by
  refine Machine.stateAt_invariant (I := fun st : State => WellFormed st.info) hw ?_ n
  intro n st h
  unfold WellFormed
  rw [(loopBody_info k argv.length st (env n)).2.2]
  exact wellFormed_detected argv.length st (env n) h

theorem runFor_status_fixed (hargc : ¬ argv.length < 2) (n : ℕ) :
    (runFor k argv info leds env n).info.sysStatus = info.sysStatus := by
  refine Machine.stateAt_invariant (I := fun st : State => st.info.sysStatus = info.sysStatus) rfl
    ?_ n
  intro n st h
  rw [(loopBody_info k argv.length st (env n)).2.1, detected, detect_fixed argv.length _ _ _ hargc]
  exact h

theorem exists_last_write (hp : parseArgs argv = .ok info) (m : ℕ) :
    ∃ j, LastWrite k argv info leds env m j := by
  let P := fun i => Writes argv.length (runFor k argv info leds env i) (env i)
  have h0 : P 0 := writes_of_unlatched argv.length _ _ (parseArgs_unlatched argv info hp)
  refine ⟨Nat.findGreatest P m, Nat.findGreatest_le m, ?_, ?_⟩
  · exact Nat.findGreatest_spec (P := P) (Nat.zero_le m) h0
  · intro i hi hm
    exact Nat.findGreatest_is_greatest (P := P) hi hm

theorem since_last_write (m j : ℕ) (hj : LastWrite k argv info leds env m j) :
    (runFor k argv info leds env (m + 1)).info = (runFor k argv info leds env (j + 1)).info ∧
      (runFor k argv info leds env (m + 1)).fs = (runFor k argv info leds env (j + 1)).fs := by
  let f : State → LedInfo × Sysfs := fun st => (st.info, st.fs)
  have hq (n : ℕ) (hjn : j + 1 ≤ n) (hnm : n < m + 1) :
      f (runFor k argv info leds env (n + 1)) = f (runFor k argv info leds env n) := by
    obtain ⟨i, rfl⟩ : ∃ i, n = i + 1 := ⟨n - 1, by omega⟩
    have hstep:=loopBody_latched_quiet k argv.length _ (env (i + 1))
      (runFor_latched k argv info leds env i) (hj.2.2 (i + 1) (by omega) (by omega))
    exact Prod.ext hstep.1 hstep.2
  have hle:=hj.1
  have hkept : f (runFor k argv info leds env (m + 1)) = f (runFor k argv info leds env (j + 1)) :=
    Machine.stateAt_settled hq (by omega) (Nat.le_refl _)
  exact ⟨congrArg Prod.fst hkept, congrArg Prod.snd hkept⟩

theorem settled_quiet (m n : ℕ) (hs : Settled k argv info leds env m) (hn : m < n) :
    ¬ Writes argv.length (runFor k argv info leds env n) (env n) := by
  obtain ⟨i, rfl⟩ : ∃ i, n = i + 1 := ⟨n - 1, by omega⟩
  refine quiet_of_same_status argv.length _ _ (runFor_latched k argv info leds env i) ?_
  rw [← (loopBody_info k argv.length _ (env (i + 1))).2.1, ← runFor_succ, hs (i + 1) (by omega),
    hs i (by omega)]

theorem settled_lastWrite (m n j : ℕ) (hs : Settled k argv info leds env m) (hn : m ≤ n)
    (hj : LastWrite k argv info leds env m j) : LastWrite k argv info leds env n j := by
  refine ⟨hj.1.trans hn, hj.2.1, ?_⟩
  intro i hi hin
  by_cases him : i ≤ m
  · exact hj.2.2 i hi him
  · exact settled_quiet k argv info leds env m i hs (by omega)

theorem lastWrite_shows_iff (hp : parseArgs argv = .ok info) (hw : WellFormed info)
    (h0 : ∀ led, (leds led).timer = false) (m j : ℕ) (hj : LastWrite k argv info leds env m j) :
    Shows (runFor k argv info leds env (m + 1)).info (runFor k argv info leds env (m + 1)).fs.leds ↔
      CarriedOut k argv.length (runFor k argv info leds env j) (env j) := by
  obtain ⟨hi, hf⟩ := since_last_write k argv info leds env m j hj
  have hu:=calm_unblocked argv.length _ (env j) (runFor_calm k argv info leds env hp h0 j) hj.2.1
  have hwf:=wellFormed_detected argv.length _ (env j) (runFor_wellFormed k argv info leds env hw j)
  rw [hi, hf, runFor_succ, writes_shows_iff k argv.length _ (env j) hj.2.1 hwf]
  exact ⟨fun h c hc => (h c hc).1, fun h c hc => ⟨h c hc, hu c hc⟩⟩

end Run

/-- From the end of iteration `m` on the display is that of the settled status
exactly if the last pass that wrote the LEDs up to there was carried out. A
value the kernel refuses is a write that fails, hence `WellFormed`. -/
theorem recovers_iff_last_write_carried_out (k : LedClass) (argv : List CString) (info : LedInfo)
    (leds : Led → LedState) (env : ℕ → Iteration) (m : ℕ) (hp : parseArgs argv = .ok info)
    (hw : WellFormed info) (h0 : ∀ led, (leds led).timer = false)
    (hs : Settled k argv info leds env m) :
    (∀ n, m ≤ n → Shows (runFor k argv info leds env (n + 1)).info
        (runFor k argv info leds env (n + 1)).fs.leds) ↔
      ∀ j, LastWrite k argv info leds env m j →
        CarriedOut k argv.length (runFor k argv info leds env j) (env j) := by
  constructor
  · intro h j hj
    exact (lastWrite_shows_iff k argv info leds env hp hw h0 m j hj).mp (h m (Nat.le_refl m))
  · intro h n hn
    obtain ⟨j, hj⟩ := exists_last_write k argv info leds env hp m
    have hjn:=settled_lastWrite k argv info leds env m n j hs hn hj
    exact (lastWrite_shows_iff k argv info leds env hp hw h0 n j hjn).mpr (h j hj)

def allOpensFail : Iteration := ⟨.noOpen, fun _ _ => .openFails⟩

/-- All goes well; and every open fails in iteration 0, the last that writes. -/
theorem recovers_iff_last_write_carried_out_start :
    let start := ["panel_led".toList, "system_start".toList]
    let normal := ["panel_led".toList, "normal_operation".toList]
    let failing : ℕ → Iteration := fun n => if n = 0 then allOpensFail else undisturbed .noOpen
    Shows (runFor defaultClass start { sysStatus := .systemStart } ledsOff
          (fun _ => undisturbed .noOpen) 3).info
        (runFor defaultClass start { sysStatus := .systemStart } ledsOff
          (fun _ => undisturbed .noOpen) 3).fs.leds ∧
      ¬ ∀ j, LastWrite defaultClass normal { sysStatus := .normalOperation } ledsOff failing 1 j →
        CarriedOut defaultClass normal.length
          (runFor defaultClass normal { sysStatus := .normalOperation } ledsOff failing j) (failing j) := by
  intro start normal failing
  have hargc : ¬ start.length < 2 := by decide
  have hargc' : ¬ normal.length < 2 := by decide
  constructor
  · refine (recovers_iff_last_write_carried_out defaultClass start { sysStatus := .systemStart } ledsOff
      (fun _ => undisturbed .noOpen) 0 rfl (wellFormed_status _ (by decide)) (fun _ => rfl)
      ?_).mpr ?_ 2 (by decide)
    · intro n _
      rw [runFor_status_fixed _ _ _ _ _ hargc, runFor_status_fixed _ _ _ _ _ hargc]
    · intro j hj c hc
      exact written_of_ok defaultClass _ _ _ fun _ => rfl
  · intro hcarried
    have hshows:=(recovers_iff_last_write_carried_out defaultClass normal
      { sysStatus := .normalOperation } ledsOff failing 1 rfl (wellFormed_status _ (by decide))
      (fun _ => rfl)
      (fun n _ => by rw [runFor_status_fixed _ _ _ _ _ hargc', runFor_status_fixed _ _ _ _ _ hargc'])).mpr
      hcarried 1 (Nat.le_refl 1)
    have hgreen:=hshows (.green, .bright "1".toList) (List.mem_cons_self ..)
    exact absurd hgreen (by decide)

/-- A start at which every open fails, once: the LEDs stay off for good. -/
theorem failed_first_write_never_repeated :
    ¬ ∀ (k : LedClass) (argv : List CString) (info : LedInfo) (leds : Led → LedState)
        (env : ℕ → Iteration) (m : ℕ), parseArgs argv = .ok info → WellFormed info →
      (∀ led, (leds led).timer = false) → Settled k argv info leds env m →
      (∀ n, m ≤ n → ∀ led attr, (env n).access led attr = .ok) →
      ∀ n, m ≤ n → Shows (runFor k argv info leds env (n + 1)).info
        (runFor k argv info leds env (n + 1)).fs.leds := by
  intro h
  let env : ℕ → Iteration := fun n => if n = 0 then allOpensFail else undisturbed .noOpen
  have hargc : ¬ ["panel_led".toList, "normal_operation".toList].length < 2 := by decide
  have hshows:=h defaultClass ["panel_led".toList, "normal_operation".toList]
    { sysStatus := .normalOperation } ledsOff env 1 rfl (wellFormed_status _ (by decide))
    (fun _ => rfl)
    (fun n _ => by rw [runFor_status_fixed _ _ _ _ _ hargc, runFor_status_fixed _ _ _ _ _ hargc])
    (fun n hn led attr => by rw [show env n = undisturbed .noOpen from if_neg (by omega)]; rfl)
    1 (Nat.le_refl 1)
  have hgreen:=hshows (.green, .bright "1".toList) (List.mem_cons_self ..)
  exact absurd hgreen (by decide)

end BoardServices.PanelLed
