import BoardServices.PanelLed.Commands

/-!
# One pass through the control loop

A pass either writes the LEDs or is quiet: it is quiet exactly when the status
that detection yields is latched already, and then it changes neither
`led_info` nor an LED. `Calm` is what holds of the LEDs at every pass of a run
that starts without a blink trigger, whatever accesses fail on the way.
-/

namespace BoardServices.PanelLed
open Lib Lib.Strings

def detected (argc : ℕ) (st : State) (it : Iteration) : LedInfo :=
  (detect argc st.info st.filter it.reading).1

def Writes (argc : ℕ) (st : State) (it : Iteration) : Prop := ¬ Latched (detected argc st it)

instance (argc : ℕ) (st : State) (it : Iteration) : Decidable (Writes argc st it) :=
  inferInstanceAs (Decidable (¬ _))

theorem detected_eq (argc : ℕ) (st : State) (it : Iteration) :
    detected argc st it = { st.info with sysStatus := (detected argc st it).sysStatus } := by
  unfold detected detect
  split
  · dsimp only
    split <;> rfl
  · rfl

theorem loopBody_info (k : LedClass) (argc : ℕ) (st : State) (it : Iteration) :
    Latched (loopBody k argc st it).info ∧
      (loopBody k argc st it).info.sysStatus = (detected argc st it).sysStatus ∧
      commands (loopBody k argc st it).info = commands (detected argc st it) :=
  statusSwitch_info k it.access (detected argc st it) st.fs

theorem loopBody_quiet (k : LedClass) (argc : ℕ) (st : State) (it : Iteration)
    (h : ¬ Writes argc st it) :
    (loopBody k argc st it).info = detected argc st it ∧ (loopBody k argc st it).fs = st.fs := by
  have hl : Latched (detected argc st it) := not_not.mp h
  have hsw:=statusSwitch_eq k it.access (detected argc st it) st.fs
  rw [if_pos hl] at hsw
  exact ⟨congrArg Prod.fst hsw, congrArg Prod.snd hsw⟩

theorem loopBody_writes (k : LedClass) (argc : ℕ) (st : State) (it : Iteration)
    (h : Writes argc st it) :
    (loopBody k argc st it).info = latch (detected argc st it) ∧
      (loopBody k argc st it).fs = (commands (detected argc st it)).foldl (perform k it.access) st.fs := by
  have hsw:=statusSwitch_eq k it.access (detected argc st it) st.fs
  rw [if_neg h] at hsw
  exact ⟨congrArg Prod.fst hsw, congrArg Prod.snd hsw⟩

/-- A latch holds one status. With a latched status before, a quiet pass finds
the same one. -/
theorem detected_of_latched (argc : ℕ) (st : State) (it : Iteration) (hl : Latched st.info)
    (hq : ¬ Writes argc st it) : detected argc st it = st.info := by
  have hd : Latched (detected argc st it) := not_not.mp hq
  have heq:=detected_eq argc st it
  by_cases hdebug : st.info.sysStatus = .debug
  · unfold detected detect
    rw [if_neg fun hc => hc.1 hdebug]
  · have hs : (detected argc st it).sysStatus = st.info.sysStatus := by
      have hne : (detected argc st it).sysStatus ≠ .debug := by
        unfold detected detect
        split
        · dsimp only
          split <;> simp
        · exact hdebug
      rw [Latched, if_neg hdebug] at hl
      rw [Latched, if_neg hne, heq] at hd
      exact (Option.some.inj (hl.symm.trans hd)).symm
    rw [heq, hs]

theorem quiet_of_same_status (argc : ℕ) (st : State) (it : Iteration) (hl : Latched st.info)
    (hs : (detected argc st it).sysStatus = st.info.sysStatus) : ¬ Writes argc st it := by
  rw [Writes, not_not, detected_eq, hs]
  exact hl

theorem loopBody_latched_quiet (k : LedClass) (argc : ℕ) (st : State) (it : Iteration)
    (hl : Latched st.info) (hq : ¬ Writes argc st it) :
    (loopBody k argc st it).info = st.info ∧ (loopBody k argc st it).fs = st.fs := by
  obtain ⟨hi, hf⟩ := loopBody_quiet k argc st it hq
  exact ⟨hi.trans (detected_of_latched argc st it hl hq), hf⟩

/-! ### A pass in the automatic mode -/

section AutomaticMode
variable (k : LedClass) (argc : ℕ) (st : State) (it : Iteration) (h : Automatic argc st.info)
include h

theorem automatic_step : Automatic argc (loopBody k argc st it).info := by
  refine ⟨h.1, ?_⟩
  rw [(loopBody_info k argc st it).2.1]
  exact (detect_stays_automatic argc st.info st.filter it.reading h).2

theorem automatic_filter :
    (loopBody k argc st it).filter = (getSystemTemperature st.filter it.reading).2 :=
  congrArg Prod.snd (detect_automatic argc st.info st.filter it.reading h)

theorem automatic_status :
    (loopBody k argc st it).info.sysStatus =
      if (getSystemTemperature st.filter it.reading).1 > SYSTEM_OVER_TEMPERATURE then .overTemperature
      else .normalOperation := by
  rw [(loopBody_info k argc st it).2.1, detected,
    detect_automatic argc st.info st.filter it.reading h]

end AutomaticMode

/-! ### The display of a writing pass -/

theorem wellFormed_status (info : LedInfo) (h : info.sysStatus ≠ .debug) : WellFormed info := by
  obtain ⟨mode, lastMode, number, status, lastStatus, b, don, doff⟩ := info
  unfold WellFormed commands
  cases status with
  | debug => exact absurd rfl h
  | systemStart => dsimp only; decide
  | overTemperature => dsimp only; decide
  | normalOperation => dsimp only; decide
  | backlinghtOff => dsimp only; decide

theorem wellFormed_detected (argc : ℕ) (st : State) (it : Iteration) (h : WellFormed st.info) :
    WellFormed (detected argc st it) := by
  unfold detected detect
  split
  · dsimp only
    split
    · exact wellFormed_status _ (by simp)
    · exact wellFormed_status _ (by simp)
  · exact h

theorem shows_congr {a b : LedInfo} {leds : Led → LedState} (h : commands a = commands b) :
    Shows a leds ↔ Shows b leds := by
  unfold Shows
  rw [h]

/-- A writing pass ends with the right display exactly if its commands were
carried out and met no running timer. -/
theorem writes_shows_iff (k : LedClass) (argc : ℕ) (st : State) (it : Iteration)
    (h : Writes argc st it) (hw : WellFormed (detected argc st it)) :
    Shows (loopBody k argc st it).info (loopBody k argc st it).fs.leds ↔
      ∀ c ∈ commands (detected argc st it),
        c.2.Written k (it.access c.1) (st.fs.leds c.1) ∧ c.2.Unblocked (st.fs.leds c.1) := by
  rw [shows_congr (loopBody_info k argc st it).2.2, (loopBody_writes k argc st it h).2]
  exact commands_foldl_shows_iff k it.access (detected argc st it) st.fs hw

/-! ### Runs that start without a blink trigger -/

/-- In the automatic mode green has no timer: only its brightness is ever
written. Outside it the LEDs are written once, so before that no LED has one. -/
def Calm (argc : ℕ) (st : State) : Prop :=
  if argc < 2 then Automatic argc st.info ∧ (st.fs.leds .green).timer = false
  else Latched st.info ∨ ∀ led, (st.fs.leds led).timer = false

theorem unblocked_of_no_timer (s : LedState) (c : Command) (h : s.timer = false) :
    c.Unblocked s := by
  cases c with
  | bright v => exact fun _ => h
  | blinking don doff => trivial

theorem calm_unblocked (argc : ℕ) (st : State) (it : Iteration) (h : Calm argc st)
    (hw : Writes argc st it) :
    ∀ c ∈ commands (detected argc st it), c.2.Unblocked (st.fs.leds c.1) := by
  unfold Calm at h
  split at h
  · obtain ⟨ha, hg⟩ := h
    have hd:=detect_stays_automatic argc st.info st.filter it.reading ha
    intro c hc
    have hzero : (Command.bright "0".toList).Unblocked (st.fs.leds c.1) :=
      fun hz => absurd (by decide) hz
    rcases hd.2 with hs | hs
    · simp only [commands, detected, hs, List.mem_cons, List.not_mem_nil, or_false] at hc
      rcases hc with rfl | rfl
      · exact unblocked_of_no_timer _ _ hg
      · exact hzero
    · simp only [commands, detected, hs, List.mem_cons, List.not_mem_nil, or_false] at hc
      rcases hc with rfl | rfl
      · exact hzero
      · trivial
  · rename_i hargc
    rcases h with hl | hno
    · refine absurd hl ?_
      rw [Writes, detected, detect_fixed argc _ _ _ hargc] at hw
      exact hw
    · exact fun c _ => unblocked_of_no_timer _ _ (hno c.1)

theorem apply_bright_timer (k : LedClass) (acc : Attr → Access) (s : LedState) (v : CString)
    (h : s.timer = false) : ((Command.bright v).apply k acc s).timer = false := by
  unfold Command.apply LedState.access
  cases acc .brightness with
  | ok =>
    cases hv : kstrtoul v with
    | none => simp [LedClass.store, hv, h]
    | some b =>
      simp only [LedClass.store, hv, Option.map_some, Option.getD_some, LedState.setBrightness]
      split
      · rfl
      · exact h
  | openFails => exact h
  | writeFails => exact h

theorem calm_step (k : LedClass) (argc : ℕ) (st : State) (it : Iteration) (h : Calm argc st) :
    Calm argc (loopBody k argc st it) := by
  unfold Calm at h ⊢
  split
  · rename_i hargc
    rw [if_pos hargc] at h
    obtain ⟨ha, hg⟩ := h
    have hd:=detect_stays_automatic argc st.info st.filter it.reading ha
    refine ⟨automatic_step k argc st it ha, ?_⟩
    by_cases hw : Writes argc st it
    · rw [(loopBody_writes k argc st it hw).2]
      have hleds:=(foldl_perform_leds k it.access (commands (detected argc st it)) st.fs
        (commands_nodup _)).1
      -- the first command of either status is a brightness for green
      rcases hd.2 with hs | hs
      · rw [hleds (.green, .bright "1".toList) (by simp [commands, detected, hs])]
        exact apply_bright_timer k _ _ _ hg
      · rw [hleds (.green, .bright "0".toList) (by simp [commands, detected, hs])]
        exact apply_bright_timer k _ _ _ hg
    · rw [(loopBody_quiet k argc st it hw).2]
      exact hg
  · exact Or.inl (loopBody_info k argc st it).1

theorem parseValues_latches (info info' : LedInfo) (args : List CString)
    (h : parseValues info args = .ok info') :
    info'.lastMode = info.lastMode ∧ info'.lastSysStatus = info.lastSysStatus ∧
      info'.sysStatus = info.sysStatus := by
  unfold parseValues at h
  repeat' split at h
  all_goals first
    | cases h; exact ⟨rfl, rfl, rfl⟩
    | cases h

theorem parseKeyword_latches (info info' : LedInfo) (arg : CString)
    (h : parseKeyword info arg = some info') :
    info'.lastMode = info.lastMode ∧ info'.lastSysStatus = info.lastSysStatus := by
  unfold parseKeyword at h
  repeat' split at h
  all_goals first
    | cases h; exact ⟨rfl, rfl⟩
    | cases h

theorem parseArgs_unlatched (argv : List CString) (info : LedInfo) (h : parseArgs argv = .ok info) :
    info.lastMode = none ∧ info.lastSysStatus = none := by
  match argv with
  | [] => cases h; exact ⟨rfl, rfl⟩
  | [_] => cases h; exact ⟨rfl, rfl⟩
  | _ :: arg1 :: rest =>
    simp only [parseArgs] at h
    split at h
    · rename_i info1 hk
      have h1:=parseKeyword_latches {} info1 arg1 hk
      have h2:=parseValues_latches info1 info rest h
      exact ⟨h2.1.trans h1.1, h2.2.1.trans h1.2⟩
    · cases h

theorem writes_of_unlatched (argc : ℕ) (st : State) (it : Iteration)
    (h : st.info.lastMode = none ∧ st.info.lastSysStatus = none) : Writes argc st it := by
  intro hl
  rw [detected_eq] at hl
  unfold Latched at hl
  split at hl
  · rw [h.1] at hl
    exact absurd hl (by simp)
  · rw [h.2] at hl
    exact absurd hl (by simp)

theorem started_calm (argv : List CString) (info : LedInfo) (leds : Led → LedState)
    (hp : parseArgs argv = .ok info) (h0 : ∀ led, (leds led).timer = false) :
    Calm argv.length (started info leds) := by
  unfold Calm
  split
  · rename_i hargc
    rw [parseArgs_automatic argv info hargc hp]
    exact ⟨⟨hargc, Or.inl rfl⟩, h0 .green⟩
  · exact Or.inr h0

/-- One pass of a calm run without failing access ends with the display of its
status, provided the display was right where the pass writes nothing. -/
theorem shows_step (k : LedClass) (argc : ℕ) (st : State) (it : Iteration) (hcalm : Calm argc st)
    (hok : ∀ led attr, it.access led attr = .ok) (hw : WellFormed (detected argc st it))
    (hprev : ¬ Writes argc st it → Latched st.info ∧ Shows st.info st.fs.leds) :
    Shows (loopBody k argc st it).info (loopBody k argc st it).fs.leds := by
  by_cases hwr : Writes argc st it
  · rw [writes_shows_iff k argc st it hwr hw]
    exact fun c hc =>
      ⟨written_of_ok k _ _ _ (hok c.1), calm_unblocked argc st it hcalm hwr c hc⟩
  · obtain ⟨hl, hs⟩ := hprev hwr
    obtain ⟨hi, hf⟩ := loopBody_latched_quiet k argc st it hl hwr
    rw [hi, hf]
    exact hs

end BoardServices.PanelLed
