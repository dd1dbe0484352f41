import BoardServices.PanelLed.Loop

/-!
# The over-temperature alarm of the automatic mode

Readings, filter, threshold and LED writer together. The filter of a run refines
the ring of its samples; the ring drops a sample a period, so seven hot readings
in a row fill all six slots and without a hot one in the last seven none is
left. The latch keeps the display in step with the status.
-/

namespace BoardServices.PanelLed
open Lib Lib.Strings

def autoRun (k : LedClass) (argv : List CString) (leds : Led → LedState) (env : ℕ → Iteration)
    (n : ℕ) : State := runFor k argv {} leds env n

theorem autoRun_automatic (k : LedClass) (argv : List CString) (leds : Led → LedState)
    (env : ℕ → Iteration) (hargc : argv.length < 2) (n : ℕ) :
    Automatic argv.length (autoRun k argv leds env n).info :=
  Machine.stateAt_invariant (I := fun st : State => Automatic argv.length st.info)
    ⟨hargc, Or.inl rfl⟩ (fun n st h => automatic_step k argv.length st (env n) h) n

/-! ### The filter of a run -/

section Samples
variable (k : LedClass) (argv : List CString) (leds : Led → LedState) (env : ℕ → Iteration)
  (x : ℕ → ℤ)

theorem autoRun_filter (hargc : argv.length < 2)
    (hx : ∀ n, sampleOf (env n).reading = some (x n)) (n : ℕ) :
    Refines (autoRun k argv leds env n).filter (SkipRing.pushed 6 0 x n) := by
  induction n with
  | zero => exact initial_refines
  | succ n ih =>
    have ha:=autoRun_automatic k argv leds env hargc n
    have hf : (autoRun k argv leds env (n + 1)).filter =
        (getSystemTemperature (autoRun k argv leds env n).filter (env n).reading).2 :=
      automatic_filter k argv.length _ (env n) ha
    rw [hf]
    exact (getSystemTemperature_refines _ _ _ (x n) ih (hx n)).1

theorem autoRun_status (hargc : argv.length < 2)
    (hx : ∀ n, sampleOf (env n).reading = some (x n)) (n : ℕ) :
    (autoRun k argv leds env (n + 1)).info.sysStatus =
      if mean (SkipRing.pushed 6 0 x (n + 1)) > SYSTEM_OVER_TEMPERATURE then .overTemperature
      else .normalOperation := by
  have ha:=autoRun_automatic k argv leds env hargc n
  have hm:=(getSystemTemperature_refines _ _ _ (x n) (autoRun_filter k argv leds env x hargc hx n)
    (hx n)).2
  have hs:=automatic_status k argv.length _ (env n) ha
  rw [hm] at hs
  exact hs

end Samples

theorem over_of_window (x : ℕ → ℤ) (n : ℕ) (h : ∀ j < 7, 100 ≤ x (n + j)) :
    mean (SkipRing.pushed 6 0 x (n + 7)) > SYSTEM_OVER_TEMPERATURE := by
  have hslots (s : Fin 6) : 100 ≤ (SkipRing.pushed 6 0 x (n + 7)).value s := by
    have hw:=SkipRing.lastPush_window 6 (n + 7) s.val
    rw [SkipRing.pushed_value, SkipRing.sampleAt, if_neg (by push_cast at hw; omega)]
    obtain ⟨j, hj⟩ : ∃ j, (SkipRing.lastPush 6 (n + 7) s.val).toNat = n + j :=
      ⟨(SkipRing.lastPush 6 (n + 7) s.val).toNat - n, by push_cast at hw; omega⟩
    rw [hj]
    exact h j (by push_cast at hw; omega)
  have hm:=le_mean _ 100 (by norm_num) hslots
  unfold SYSTEM_OVER_TEMPERATURE
  omega

theorem normal_of_window (x : ℕ → ℤ) (n : ℕ) (h : ∀ j, j ≤ n → n < j + 7 → x j ≤ 99) :
    ¬ mean (SkipRing.pushed 6 0 x (n + 1)) > SYSTEM_OVER_TEMPERATURE := by
  have hslots (s : Fin 6) : (SkipRing.pushed 6 0 x (n + 1)).value s ≤ 99 :=
    SkipRing.pushed_value_of_window (P := fun v => v ≤ 99) 0 x (n + 1) (by norm_num)
      (fun j hj hw => h j (by omega) (by omega)) s
  have hm:=mean_le _ 99 (by norm_num) hslots
  unfold SYSTEM_OVER_TEMPERATURE
  omega

/-- A reading is hot exactly if its whole degrees are above the threshold. -/
theorem hot_iff (v : ℤ) : 100 ≤ v.tdiv 1000 ↔ 100000 ≤ v :=
  BinaryRounding.le_tdiv_iff (by norm_num) (by norm_num)

/-! ### The display of a run -/

theorem autoRun_shows (k : LedClass) (argv : List CString) (leds : Led → LedState)
    (env : ℕ → Iteration) (hargc : argv.length < 2) (h0 : ∀ led, (leds led).timer = false)
    (hok : ∀ n led attr, (env n).access led attr = .ok) (n : ℕ) :
    Latched (autoRun k argv leds env (n + 1)).info ∧
      Shows (autoRun k argv leds env (n + 1)).info (autoRun k argv leds env (n + 1)).fs.leds := by
  have hp : parseArgs argv = .ok {} := by
    match argv with
    | [] => rfl
    | [_] => rfl
    | _ :: _ :: _ => simp only [List.length_cons] at hargc; omega
  have hcalm (m : ℕ) : Calm argv.length (autoRun k argv leds env m) :=
    Machine.stateAt_invariant (started_calm argv {} leds hp h0)
      (fun m st h => calm_step k argv.length st (env m) h) m
  have hwf (m : ℕ) : WellFormed (detected argv.length (autoRun k argv leds env m) (env m)) := by
    have ha:=autoRun_automatic k argv leds env hargc m
    refine wellFormed_detected _ _ _ (wellFormed_status _ ?_)
    rcases ha.2 with hs | hs <;> rw [hs] <;> decide
  induction n with
  | zero =>
    refine ⟨(loopBody_info k argv.length _ (env 0)).1, ?_⟩
    refine shows_step k argv.length _ (env 0) (hcalm 0) (hok 0) (hwf 0) ?_
    intro hq
    exact absurd (writes_of_unlatched argv.length _ (env 0) ⟨rfl, rfl⟩) hq
  | succ n ih =>
    refine ⟨(loopBody_info k argv.length _ (env (n + 1))).1, ?_⟩
    exact shows_step k argv.length _ (env (n + 1)) (hcalm (n + 1)) (hok (n + 1)) (hwf (n + 1))
      fun _ => ih

theorem shows_normal (info : LedInfo) (leds : Led → LedState)
    (hs : info.sysStatus = .normalOperation) (h : Shows info leds) :
    (leds .green).display = .solid 1 ∧ (leds .red).display = .off := by
  have hg:=h (.green, .bright "1".toList) (by simp [commands, hs])
  have hr:=h (.red, .bright "0".toList) (by simp [commands, hs])
  exact ⟨(Option.some.inj hg).symm, (Option.some.inj hr).symm⟩

theorem shows_over (info : LedInfo) (leds : Led → LedState)
    (hs : info.sysStatus = .overTemperature) (h : Shows info leds) :
    (leds .green).display = .off ∧ (leds .red).display = .blink 500 500 := by
  have hg:=h (.green, .bright "0".toList) (by simp [commands, hs])
  have hr:=h (.red, .blinking "500".toList "500".toList) (by simp [commands, hs])
  exact ⟨(Option.some.inj hg).symm, (Option.some.inj hr).symm⟩

/-- Files are opened for writing only by an iteration that changes the status
or is the first one. -/
theorem autoRun_opened (k : LedClass) (argv : List CString) (leds : Led → LedState)
    (env : ℕ → Iteration) (n : ℕ)
    (hs : (autoRun k argv leds env (n + 2)).info.sysStatus =
      (autoRun k argv leds env (n + 1)).info.sysStatus) :
    (autoRun k argv leds env (n + 2)).fs.opened = (autoRun k argv leds env (n + 1)).fs.opened := by
  have hl:=(loopBody_info k argv.length (autoRun k argv leds env n) (env n)).1
  have hd:=(loopBody_info k argv.length (autoRun k argv leds env (n + 1)) (env (n + 1))).2.1
  have hq:=quiet_of_same_status argv.length (autoRun k argv leds env (n + 1)) (env (n + 1)) hl
    (hd.symm.trans hs)
  exact congrArg Sysfs.opened (loopBody_latched_quiet k argv.length _ (env (n + 1)) hl hq).2

/-- A run of the automatic mode whose readings are the millidegrees `v n` and
whose LED writes succeed. -/
structure Healthy (v : ℕ → ℤ) (env : ℕ → Iteration) : Prop where
  range : ∀ n, -99999 ≤ v n ∧ v n ≤ 999999
  reading : ∀ n, (env n).reading = .content (formatInt (v n) ++ ['\n'])
  access : ∀ n led attr, (env n).access led attr = .ok

/-- The alarm, end to end. -/
theorem over_temperature_alarm (k : LedClass) (argv : List CString) (info : LedInfo)
    (leds : Led → LedState) (v : ℕ → ℤ) (env : ℕ → Iteration) (hargc : argv.length < 2)
    (hp : parseArgs argv = .ok info) (h0 : ∀ led, (leds led).timer = false) (hv : Healthy v env) :
    let st := runFor k argv info leds env
    -- seven hot readings in a row, wherever they begin, raise the alarm
    (∀ n, (∀ j < 7, 100000 ≤ v (n + j)) →
      (st (n + 7)).info.sysStatus = .overTemperature ∧
        ((st (n + 7)).fs.leds .green).display = .off ∧
        ((st (n + 7)).fs.leds .red).display = .blink 500 500) ∧
    -- an alarm has a hot reading among the last seven, otherwise operation is normal
    (∀ n, ((st (n + 1)).info.sysStatus = .overTemperature ∧
        ∃ j, j ≤ n ∧ n < j + 7 ∧ 100000 ≤ v j) ∨
      ((st (n + 1)).info.sysStatus = .normalOperation ∧
        ((st (n + 1)).fs.leds .green).display = .solid 1 ∧
        ((st (n + 1)).fs.leds .red).display = .off)) ∧
    -- the display is the one of the status, and is written when that changes only
    (∀ n, Shows (st (n + 1)).info (st (n + 1)).fs.leds ∧
      ((st (n + 2)).info.sysStatus = (st (n + 1)).info.sysStatus →
        (st (n + 2)).fs.opened = (st (n + 1)).fs.opened)) := by
  have hinfo:=parseArgs_automatic argv info hargc hp
  subst hinfo
  have hx (n : ℕ) : sampleOf (env n).reading = some ((v n).tdiv 1000) := by
    rw [hv.reading n]
    exact sampleOf_millidegrees (v n) (hv.range n)
  have hstatus:=autoRun_status k argv leds env (fun n => (v n).tdiv 1000) hargc hx
  have hshows (n : ℕ) := (autoRun_shows k argv leds env hargc h0 hv.access n).2
  refine ⟨?_, ?_, fun n => ⟨hshows n, autoRun_opened k argv leds env n⟩⟩
  · intro n hhot
    have hover:=over_of_window (fun n => (v n).tdiv 1000) n fun j hj =>
      (hot_iff (v (n + j))).mpr (hhot j hj)
    have hs : (autoRun k argv leds env (n + 7)).info.sysStatus = .overTemperature := by
      rw [hstatus (n + 6)]
      exact if_pos hover
    exact ⟨hs, shows_over _ _ hs (hshows (n + 6))⟩
  · intro n
    by_cases hm : mean (SkipRing.pushed 6 0 (fun n => (v n).tdiv 1000) (n + 1)) >
        SYSTEM_OVER_TEMPERATURE
    · refine Or.inl ⟨(hstatus n).trans (if_pos hm), ?_⟩
      by_contra hno
      refine normal_of_window (fun n => (v n).tdiv 1000) n ?_ hm
      intro j hj hw
      by_contra hover
      exact hno ⟨j, hj, hw, (hot_iff (v j)).mp (by omega)⟩
    · have hs : (autoRun k argv leds env (n + 1)).info.sysStatus = .normalOperation :=
        (hstatus n).trans (if_neg hm)
      exact Or.inr ⟨hs, shows_normal _ _ hs (hshows n)⟩

theorem over_temperature_alarm_constant :
    (runFor defaultClass ["panel_led".toList] {} ledsOff
      (fun _ => undisturbed (.content (formatInt 100000 ++ ['\n']))) 7).info.sysStatus =
        .overTemperature :=
  ((over_temperature_alarm defaultClass ["panel_led".toList] {} ledsOff (fun _ => 100000)
    (fun _ => undisturbed (.content (formatInt 100000 ++ ['\n']))) (by decide) rfl (fun _ => rfl)
    ⟨fun _ => by norm_num, fun _ => rfl, fun _ _ _ => rfl⟩).1 0 (fun _ _ => le_rfl)).1

end BoardServices.PanelLed
