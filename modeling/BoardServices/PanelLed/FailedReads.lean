import BoardServices.PanelLed.Loop

/-!
# Failed temperature reads

A failed open is reported as the temperature -1, which is below the threshold:
the status becomes normal operation. A failed or empty read leaves a zeroed
buffer, which is parsed as 0 degrees and handed to the filter, where it moves the
index even if it does not change a sample. So a failed open goes unnoticed in
normal operation only, and a failed read next to never.
-/

namespace BoardServices.PanelLed
open Lib Lib.Strings Lib.BinaryRounding

def Reading.failed : Reading → Bool
  | .noOpen => true
  | .readError => true
  | .content text => text.isEmpty

structure Unnoticed (st st' : State) : Prop where
  status : st'.info.sysStatus = st.info.sysStatus
  leds : st'.fs.leds = st.fs.leds
  samples : st'.filter.tempValue = st.filter.tempValue

def NormalInPlace (acc : Accesses) (leds : Led → LedState) : Prop :=
  (acc .green .brightness = .ok → (leds .green).brightness = 1) ∧
    (acc .red .brightness = .ok → (leds .red).timer = false ∧ (leds .red).brightness = 0)

/-- The next call of the filter drops its sample or stores it over a zero. -/
def Filter.KeepsZero (f : Filter) : Prop :=
  ∀ h : f.i.val < MAX_SLEEK_FILTER_COUNT, f.tempValue ⟨f.i.val, h⟩ = 0

def StatusOfSamples (st : State) : Prop :=
  st.info.sysStatus = .overTemperature ↔ 600 ≤ ∑ s, st.filter.tempValue s

/-- The pattern of the status is in place. Beyond that a failed open needs normal
operation, a failed read stored samples that the zero does not change and that
stand for the status. -/
def Harmless (st : State) (it : Iteration) : Prop :=
  (Latched st.info ∨ NormalInPlace it.access st.fs.leds) ∧
    match it.reading with
    | .noOpen => st.info.sysStatus = .normalOperation
    | _ => st.filter.KeepsZero ∧ StatusOfSamples st

/-! ### The filter -/

theorem failed_sample (r : Reading) (hf : r.failed = true) (hr : r ≠ .noOpen) :
    sampleOf r = some 0 := by
  cases r with
  | noOpen => exact absurd rfl hr
  | readError => decide
  | content text =>
    have htext : text = [] := List.isEmpty_iff.mp hf
    subst htext
    decide

theorem zero_samples_iff (f : Filter) (r : Reading) (hx : sampleOf r = some 0) :
    (getSystemTemperature f r).2.tempValue = f.tempValue ↔ f.KeepsZero := by
  have hround : roundBits 24 ((0 : ℤ) : ℚ) = ((0 : ℤ) : ℚ) := roundBits_intCast 24 0 (by norm_num)
  rw [getSystemTemperature_sample f r 0 hx, filteredDegrees, hround, Int.cast_zero]
  unfold sleekFilter Filter.KeepsZero
  dsimp only
  split
  · rename_i hlt
    rw [Function.update_eq_self_iff]
    exact ⟨fun h _ => h.symm, fun h => (h hlt).symm⟩
  · rename_i hge
    exact iff_of_true rfl fun hlt => absurd hlt hge

theorem mean_over_iff (f : Filter) (a : Samples) (h : Refines f a) :
    mean a > SYSTEM_OVER_TEMPERATURE ↔ 600 ≤ ∑ s, f.tempValue s := by
  have hsum : ∑ s, f.tempValue s = ((∑ s, a.value s : ℤ) : ℚ) := by
    rw [Int.cast_sum]
    exact Finset.sum_congr rfl fun s _ => h.slots s
  have hle : 99 < mean a ↔ 600 ≤ ∑ s, a.value s := le_mean_iff a 100 (by norm_num)
  rw [hsum]
  exact hle.trans (by norm_cast)

/-! ### One failed iteration -/

theorem access_bright_eq_self (k : LedClass) (s : LedState) (a : Access) (v : CString) (b : ℕ)
    (hv : kstrtoul v = some b) :
    s.access k a .brightness v = s ↔ (a = .ok → s.setBrightness b = s) := by
  cases a <;> simp [LedState.access, LedClass.store, hv]

theorem setBrightness_one (s : LedState) : s.setBrightness 1 = s ↔ s.brightness = 1 := by
  obtain ⟨t, a, b, c⟩ := s
  simp [LedState.setBrightness, eq_comm]

theorem setBrightness_zero (s : LedState) :
    s.setBrightness 0 = s ↔ s.timer = false ∧ s.brightness = 0 := by
  obtain ⟨t, a, b, c⟩ := s
  simp [LedState.setBrightness, eq_comm]

theorem normal_commands_idle (k : LedClass) (acc : Accesses) (info : LedInfo) (fs : Sysfs)
    (hs : info.sysStatus = .normalOperation) :
    ((commands info).foldl (perform k acc) fs).leds = fs.leds ↔ NormalInPlace acc fs.leds := by
  have hdone:=(foldl_perform_leds k acc (commands info) fs (commands_nodup info)).1
  have hg:=hdone (.green, .bright "1".toList) (by simp [commands, hs])
  have hr:=hdone (.red, .bright "0".toList) (by simp [commands, hs])
  have hc:=commands_foldl_frame k acc info fs .charger (by simp [commands, hs])
  dsimp only [Command.apply] at hg hr
  have hgreen:=access_bright_eq_self k (fs.leds .green) (acc .green .brightness) "1".toList 1 (by decide)
  have hred:=access_bright_eq_self k (fs.leds .red) (acc .red .brightness) "0".toList 0 (by decide)
  rw [setBrightness_one] at hgreen
  rw [setBrightness_zero] at hred
  constructor
  · intro h
    exact ⟨hgreen.mp (by rw [← hg, h]), hred.mp (by rw [← hr, h])⟩
  · rintro ⟨h1, h2⟩
    funext led
    cases led with
    | green => rw [hg, hgreen.mpr h1]
    | red => rw [hr, hred.mpr h2]
    | charger => exact hc

/-- What holds in every state of a run of the automatic mode. -/
structure AutoInv (argc : ℕ) (st : State) : Prop where
  automatic : Automatic argc st.info
  refined : ∃ a, Refines st.filter a
  latched : Latched st.info ∨ st.info.sysStatus = .normalOperation

theorem autoInv_step (k : LedClass) (argc : ℕ) (st : State) (it : Iteration)
    (h : AutoInv argc st) : AutoInv argc (loopBody k argc st it) := by
  refine ⟨automatic_step k argc st it h.automatic, ?_, Or.inl (loopBody_info k argc st it).1⟩
  obtain ⟨a, ha⟩ := h.refined
  rw [automatic_filter k argc st it h.automatic]
  cases hs : sampleOf it.reading with
  | none =>
    cases hr : it.reading with
    | noOpen => exact ⟨a, ha⟩
    | readError => rw [hr] at hs; cases hs
    | content text => rw [hr] at hs; cases hs
  | some x => exact ⟨a.push x, (getSystemTemperature_refines st.filter a it.reading x ha hs).1⟩

theorem started_autoInv (argc : ℕ) (leds : Led → LedState) (h : argc < 2) :
    AutoInv argc (started {} leds) :=
  ⟨⟨h, Or.inl rfl⟩, ⟨_, initial_refines⟩, Or.inr rfl⟩

theorem detected_noOpen (argc : ℕ) (st : State) (it : Iteration) (ha : Automatic argc st.info)
    (hr : it.reading = .noOpen) :
    detected argc st it = { st.info with sysStatus := .normalOperation } := by
  rw [detected, detect_automatic argc st.info st.filter it.reading ha, hr]
  rfl

/-- With the status kept, the LEDs are kept exactly if its pattern is in place. -/
theorem leds_kept_iff (k : LedClass) (argc : ℕ) (st : State) (it : Iteration) (h : AutoInv argc st)
    (hs : (detected argc st it).sysStatus = st.info.sysStatus) :
    (loopBody k argc st it).fs.leds = st.fs.leds ↔
      Latched st.info ∨ NormalInPlace it.access st.fs.leds := by
  by_cases hl : Latched st.info
  · have hq:=quiet_of_same_status argc st it hl hs
    rw [(loopBody_quiet k argc st it hq).2]
    exact iff_of_true rfl (Or.inl hl)
  · have hnormal:=h.latched.resolve_left hl
    have hw : Writes argc st it := by
      rw [Writes, detected_eq, hs]
      exact hl
    rw [(loopBody_writes k argc st it hw).2, or_iff_right hl]
    exact normal_commands_idle k it.access _ st.fs (hs.trans hnormal)

theorem threshold_status_iff (s : SysStatus) (p : Prop) [Decidable p]
    (hs : s = .normalOperation ∨ s = .overTemperature) :
    (if p then SysStatus.overTemperature else .normalOperation) = s ↔ (s = .overTemperature ↔ p) := by
  rcases hs with rfl | rfl
  · by_cases hp : p <;> simp [hp]
  · by_cases hp : p <;> simp [hp]

theorem status_kept_iff (argc : ℕ) (st : State) (it : Iteration) (h : AutoInv argc st)
    (hf : it.reading.failed = true) :
    ((detected argc st it).sysStatus = st.info.sysStatus ∧
        (getSystemTemperature st.filter it.reading).2.tempValue = st.filter.tempValue) ↔
      match it.reading with
      | .noOpen => st.info.sysStatus = .normalOperation
      | _ => st.filter.KeepsZero ∧ StatusOfSamples st := by
  by_cases hr : it.reading = .noOpen
  · rw [detected_noOpen argc st it h.automatic hr, hr]
    exact ⟨fun hk => hk.1.symm, fun hn => ⟨hn.symm, rfl⟩⟩
  · have hx:=failed_sample it.reading hf hr
    have hmatch : (match it.reading with
        | .noOpen => st.info.sysStatus = .normalOperation
        | _ => st.filter.KeepsZero ∧ StatusOfSamples st) =
        (st.filter.KeepsZero ∧ StatusOfSamples st) := by
      cases hread : it.reading with
      | noOpen => exact absurd hread hr
      | readError => rfl
      | content text => rfl
    obtain ⟨a, ha⟩ := h.refined
    obtain ⟨href, hmean⟩ := getSystemTemperature_refines st.filter a it.reading 0 ha hx
    rw [hmatch, zero_samples_iff st.filter it.reading hx, and_comm]
    refine and_congr_right fun hz => ?_
    have hsame:=(zero_samples_iff st.filter it.reading hx).mpr hz
    have hover:=mean_over_iff _ _ href
    rw [hsame] at hover
    rw [detected, detect_automatic argc st.info st.filter it.reading h.automatic, hmean,
      StatusOfSamples, ← hover]
    exact threshold_status_iff _ _ h.automatic.2

/-- A failed iteration goes unnoticed exactly if it is harmless. -/
theorem unnoticed_iff_harmless (k : LedClass) (argc : ℕ) (st : State) (it : Iteration)
    (h : AutoInv argc st) (hf : it.reading.failed = true) :
    Unnoticed st (loopBody k argc st it) ↔ Harmless st it := by
  have hfilter:=automatic_filter k argc st it h.automatic
  have hstatus:=(loopBody_info k argc st it).2.1
  have hkept:=status_kept_iff argc st it h hf
  constructor
  · rintro ⟨h1, h2, h3⟩
    rw [hstatus] at h1
    rw [hfilter] at h3
    exact ⟨(leds_kept_iff k argc st it h h1).mp h2, hkept.mp ⟨h1, h3⟩⟩
  · rintro ⟨hplace, hcase⟩
    obtain ⟨h1, h3⟩ := hkept.mpr hcase
    exact ⟨hstatus.trans h1, (leds_kept_iff k argc st it h h1).mpr hplace, by rw [hfilter, h3]⟩

theorem noOpen_filter (k : LedClass) (argc : ℕ) (st : State) (it : Iteration)
    (ha : Automatic argc st.info) (hr : it.reading = .noOpen) :
    (loopBody k argc st it).filter = st.filter := by
  rw [automatic_filter k argc st it ha, hr]
  rfl

/-! ### Runs -/

def statuses (k : LedClass) (argc : ℕ) (st : State) (its : List Iteration) : List SysStatus :=
  Machine.observed (loopBody k argc) (fun it => !it.reading.failed) (fun st => st.info.sysStatus)
    st its

theorem step_of_filter (k : LedClass) (argc : ℕ) (st st' : State) (it : Iteration)
    (h : Automatic argc st.info) (h' : Automatic argc st'.info) (hf : st.filter = st'.filter) :
    (loopBody k argc st it).filter = (loopBody k argc st' it).filter ∧
      (loopBody k argc st it).info.sysStatus = (loopBody k argc st' it).info.sysStatus := by
  rw [automatic_filter k argc st it h, automatic_filter k argc st' it h',
    automatic_status k argc st it h, automatic_status k argc st' it h', hf]
  exact ⟨rfl, rfl⟩

/-- Failed iterations of a run of the automatic mode leave status, LEDs and
stored samples alone exactly where they are harmless. A failed read moves the
index of the filter all the same; where only opens fail, the run has the statuses
of the run without its failed iterations. -/
theorem failed_reads_unnoticed_iff (k : LedClass) (argv : List CString) (info : LedInfo)
    (leds : Led → LedState) (its : List Iteration) (hargc : argv.length < 2)
    (hp : parseArgs argv = .ok info) :
    ((∀ p ∈ Machine.passes (loopBody k argv.length) (started info leds) its,
        p.2.reading.failed = true → Unnoticed p.1 (loopBody k argv.length p.1 p.2)) ↔
      ∀ p ∈ Machine.passes (loopBody k argv.length) (started info leds) its,
        p.2.reading.failed = true → Harmless p.1 p.2) ∧
    ((∀ it ∈ its, it.reading.failed = true → it.reading = .noOpen) →
      statuses k argv.length (started info leds) its =
        statuses k argv.length (started info leds) (its.filter fun it => !it.reading.failed)) := by
  have hinfo:=parseArgs_automatic argv info hargc hp
  subst hinfo
  have hstart:=started_autoInv argv.length leds hargc
  have hstep:=autoInv_step k argv.length
  have hinv:=Machine.passes_invariant hstep its (started {} leds) hstart
  refine ⟨?_, ?_⟩
  · exact forall₂_congr fun p hp => imp_congr_right fun hf =>
      unnoticed_iff_harmless k argv.length p.1 p.2 (hinv p hp) hf
  · intro hopens
    refine Machine.observed_filter (I := AutoInv argv.length) (f := fun st : State => st.filter)
      hstep (fun s t it hs ht _ hst =>
        step_of_filter k argv.length s t it hs.automatic ht.automatic hst)
      its _ _ hstart hstart rfl ?_
    intro p hp hk
    have hf : p.2.reading.failed = true := by simpa using hk
    have hr:=hopens p.2 (Machine.passes_input its (started {} leds) p hp) hf
    exact noOpen_filter k argv.length p.1 p.2 (hinv p hp).automatic hr

theorem first_status (k : LedClass) (argc : ℕ) (leds : Led → LedState) (it : Iteration) (x : ℤ)
    (hargc : argc < 2) (hx : sampleOf it.reading = some x) :
    (loopBody k argc (started {} leds) it).info.sysStatus =
      if mean ((SkipRing.empty 6 0).push x) > SYSTEM_OVER_TEMPERATURE then .overTemperature
      else .normalOperation := by
  have hm:=(getSystemTemperature_refines Filter.initial (SkipRing.empty 6 0) it.reading x
    initial_refines hx).2
  have hs:=automatic_status k argc (started {} leds) it ⟨hargc, Or.inl rfl⟩
  rw [show (started {} leds).filter = Filter.initial from rfl, hm] at hs
  exact hs

theorem failed_reads_unnoticed_cool :
    (∀ p ∈ Machine.passes (loopBody defaultClass 1) (started {} ledsOff)
        [undisturbed (.content (formatInt 45000 ++ ['\n'])), undisturbed .noOpen],
      p.2.reading.failed = true → Unnoticed p.1 (loopBody defaultClass 1 p.1 p.2)) ∧
    statuses defaultClass 1 (started {} ledsOff)
        [undisturbed (.content (formatInt 45000 ++ ['\n'])), undisturbed .noOpen] =
      statuses defaultClass 1 (started {} ledsOff)
        [undisturbed (.content (formatInt 45000 ++ ['\n']))] := by
  have hrun:=failed_reads_unnoticed_iff defaultClass ["panel_led".toList] {} ledsOff
    [undisturbed (.content (formatInt 45000 ++ ['\n'])), undisturbed .noOpen] (by decide) rfl
  refine ⟨hrun.1.mpr ?_, hrun.2 ?_⟩
  · intro p hp hf
    simp only [Machine.passes, List.mem_cons, List.not_mem_nil, or_false] at hp
    rcases hp with rfl | rfl
    · exact absurd hf (by decide)
    · have hs:=first_status defaultClass 1 ledsOff
        (undisturbed (.content (formatInt 45000 ++ ['\n']))) 45 (by decide)
        (sampleOf_millidegrees 45000 (by norm_num))
      have hl:=(loopBody_info defaultClass 1 (started {} ledsOff)
        (undisturbed (.content (formatInt 45000 ++ ['\n'])))).1
      exact ⟨Or.inl hl, hs.trans (if_neg (by decide))⟩
  · intro it hit hf
    simp only [List.mem_cons, List.not_mem_nil, or_false] at hit
    rcases hit with rfl | rfl
    · exact absurd hf (by decide)
    · rfl

/-- After one reading of 999 degrees the alarm is on; the failed open that comes
next turns it off. -/
theorem failed_open_clears_alarm :
    ¬ ∀ (k : LedClass) (argv : List CString) (leds : Led → LedState) (its : List Iteration),
      argv.length < 2 →
      ∀ p ∈ Machine.passes (loopBody k argv.length) (started {} leds) its,
        p.2.reading.failed = true → Unnoticed p.1 (loopBody k argv.length p.1 p.2) := by
  intro h
  let hot:=undisturbed (.content (formatInt 999000 ++ ['\n']))
  have hstep:=h defaultClass ["panel_led".toList] ledsOff [hot, undisturbed .noOpen] (by decide)
    (loopBody defaultClass 1 (started {} ledsOff) hot, undisturbed .noOpen)
    (List.mem_cons_of_mem _ (List.mem_cons_self ..)) rfl
  have hover:=(first_status defaultClass 1 ledsOff hot 999 (by decide)
    (sampleOf_millidegrees 999000 (by norm_num))).trans (if_pos (by decide))
  have hauto:=(autoInv_step defaultClass 1 _ hot (started_autoInv 1 ledsOff (by decide))).automatic
  have hs:=(loopBody_info defaultClass 1 (loopBody defaultClass 1 (started {} ledsOff) hot)
    (undisturbed .noOpen)).2.1
  rw [detected_noOpen 1 _ _ hauto rfl] at hs
  have hne:=hs.symm.trans (hstep.status.trans hover)
  exact absurd hne (by decide)

end BoardServices.PanelLed
