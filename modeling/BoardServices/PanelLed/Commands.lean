import BoardServices.PanelLed.Program

/-!
# What a status asks of the LEDs

The status switch is a latch in front of a list of LED commands. A command asks
one LED for a display; this file says when carrying it out yields that display,
for every LED state it may find and every failing access. Two things can be in
the way: a nonzero brightness does not stop a timer that is running
(`Unblocked`), and a failed access leaves the attribute as it was (`Written`).
-/

namespace BoardServices.PanelLed
open Lib Lib.Strings

inductive Command where
  | bright (value : CString)
  | blinking (delayOn delayOff : CString)
  deriving DecidableEq, Repr

/-- The commands of a status, in the order they are carried out. -/
def commands (info : LedInfo) : List (Led × Command) :=
  match info.sysStatus with
  | .systemStart => [(.green, .bright "1".toList), (.red, .bright "1".toList)]
  | .normalOperation => [(.green, .bright "1".toList), (.red, .bright "0".toList)]
  | .overTemperature =>
    [(.green, .bright "0".toList), (.red, .blinking "500".toList "500".toList)]
  | .backlinghtOff =>
    [(.green, .blinking "500".toList "500".toList), (.red, .bright "0".toList)]
  | .debug =>
    match info.mode with
    | .solid => [(info.number, .bright info.brightness)]
    | .blink => [(info.number, .blinking info.delayOn info.delayOff)]

def Latched (info : LedInfo) : Prop :=
  if info.sysStatus = .debug then info.lastMode = some info.mode
  else info.lastSysStatus = some info.sysStatus

instance (info : LedInfo) : Decidable (Latched info) := by
  unfold Latched
  infer_instance

def latch (info : LedInfo) : LedInfo :=
  if info.sysStatus = .debug then { info with lastMode := some info.mode }
  else { info with lastSysStatus := some info.sysStatus }

def perform (k : LedClass) (acc : Accesses) (fs : Sysfs) (c : Led × Command) : Sysfs :=
  match c.2 with
  | .bright v => (setLedBrightness k acc fs c.1 v).2
  | .blinking don doff => (setLedBlinking k acc fs c.1 don doff).2

/-- The status switch carries out the commands of the status unless it did so
for this status already. -/
theorem statusSwitch_eq (k : LedClass) (acc : Accesses) (info : LedInfo) (fs : Sysfs) :
    statusSwitch k acc info fs =
      if Latched info then (info, fs) else (latch info, (commands info).foldl (perform k acc) fs) := by
  obtain ⟨mode, lastMode, number, status, lastStatus, b, don, doff⟩ := info
  cases status with
  | debug =>
    by_cases hl : lastMode = some mode
    · simp [statusSwitch, Latched, hl]
    · cases mode <;> simp [statusSwitch, Latched, latch, commands, perform, hl]
  | systemStart => by_cases hl : lastStatus = some .systemStart <;>
      simp [statusSwitch, Latched, latch, commands, perform, hl]
  | overTemperature => by_cases hl : lastStatus = some .overTemperature <;>
      simp [statusSwitch, Latched, latch, commands, perform, hl]
  | normalOperation => by_cases hl : lastStatus = some .normalOperation <;>
      simp [statusSwitch, Latched, latch, commands, perform, hl]
  | backlinghtOff => by_cases hl : lastStatus = some .backlinghtOff <;>
      simp [statusSwitch, Latched, latch, commands, perform, hl]

@[simp] theorem latch_sysStatus (info : LedInfo) : (latch info).sysStatus = info.sysStatus := by
  unfold latch
  split <;> rfl

@[simp] theorem commands_latch (info : LedInfo) : commands (latch info) = commands info := by
  unfold latch
  split <;> rfl

theorem latch_latched (info : LedInfo) : Latched (latch info) := by
  unfold latch
  split
  · rename_i h
    simp [Latched, h]
  · rename_i h
    simp [Latched, h]

theorem statusSwitch_info (k : LedClass) (acc : Accesses) (info : LedInfo) (fs : Sysfs) :
    Latched (statusSwitch k acc info fs).1 ∧
      (statusSwitch k acc info fs).1.sysStatus = info.sysStatus ∧
      commands (statusSwitch k acc info fs).1 = commands info := by
  rw [statusSwitch_eq]
  split
  · rename_i h
    exact ⟨h, rfl, rfl⟩
  · exact ⟨latch_latched info, latch_sysStatus info, commands_latch info⟩

/-! ### One command on one LED -/

def Command.apply (k : LedClass) (acc : Attr → Access) (s : LedState) : Command → LedState
  | .bright v => s.access k (acc .brightness) .brightness v
  | .blinking don doff => s.blinking k acc don doff

theorem perform_leds (k : LedClass) (acc : Accesses) (fs : Sysfs) (c : Led × Command) :
    (perform k acc fs c).leds = Function.update fs.leds c.1 (c.2.apply k (acc c.1) (fs.leds c.1)) := by
  obtain ⟨led, cmd⟩ := c
  cases cmd with
  | bright v => exact setLedBrightness_leds k acc fs led v
  | blinking don doff => exact setLedBlinking_leds k acc fs led don doff

theorem foldl_perform_leds (k : LedClass) (acc : Accesses) (l : List (Led × Command))
    (fs : Sysfs) (hnd : (l.map Prod.fst).Nodup) :
    (∀ c ∈ l, (l.foldl (perform k acc) fs).leds c.1 = c.2.apply k (acc c.1) (fs.leds c.1)) ∧
      (∀ led, led ∉ l.map Prod.fst → (l.foldl (perform k acc) fs).leds led = fs.leds led) := by
  induction l generalizing fs with
  | nil => exact ⟨by simp, fun _ _ => rfl⟩
  | cons d l ih =>
    simp only [List.map_cons, List.nodup_cons] at hnd
    obtain ⟨hmem, hother⟩ := ih (perform k acc fs d) hnd.2
    constructor
    · intro c hc
      rw [List.foldl_cons]
      rcases List.mem_cons.mp hc with rfl | hc
      · rw [hother c.1 hnd.1, perform_leds, Function.update_self]
      · have hne : c.1 ≠ d.1 := fun h => hnd.1 (h ▸ List.mem_map_of_mem hc)
        rw [hmem c hc, perform_leds, Function.update_of_ne hne]
    · intro led hled
      simp only [List.map_cons, List.mem_cons, not_or] at hled
      rw [List.foldl_cons, hother led hled.2, perform_leds, Function.update_of_ne hled.1]

theorem commands_nodup (info : LedInfo) : ((commands info).map Prod.fst).Nodup := by
  unfold commands
  split
  · decide
  · decide
  · decide
  · decide
  · split <;> simp

/-- The display a command asks for; none if it carries no number. -/
def Command.requested : Command → Option Display
  | .bright v => (kstrtoul v).map fun b => if b = 0 then .off else .solid b
  | .blinking don doff => (kstrtoul don).bind fun a => (kstrtoul doff).map fun b => .blink a b

/-- The timer is not running where a command asks for a steady light. -/
def Command.Unblocked (s : LedState) : Command → Prop
  | .bright v => kstrtoul v ≠ some 0 → s.timer = false
  | .blinking _ _ => True

/-- Each attribute write of the command took effect, or the attribute held the
value without it. A failing open takes the later writes of a blinking command
with it. -/
def Command.Written (k : LedClass) (acc : Attr → Access) (s : LedState) : Command → Prop
  | .bright v =>
    acc .brightness = .ok ∨
      if kstrtoul v = some 0 then s.display = .off else kstrtoul v = some s.brightness
  | .blinking don doff =>
    let times := if acc .trigger = .ok then k.startTimes s else (s.delayOn, s.delayOff)
    (acc .trigger = .ok ∨ s.timer = true) ∧
      (acc .trigger ≠ .openFails ∧ acc .delayOn = .ok ∨ kstrtoul don = some times.1) ∧
      (acc .trigger ≠ .openFails ∧ acc .delayOn ≠ .openFails ∧ acc .delayOff = .ok ∨
        kstrtoul doff = some times.2)

theorem display_solid_iff (s : LedState) (b : ℕ) (hb : b ≠ 0) :
    s.display = .solid b ↔ b = s.brightness ∧ s.timer = false := by
  unfold LedState.display
  split
  · rename_i ht
    simp [ht]
  · rename_i ht
    split
    · rename_i h0
      simp only [reduceCtorEq, false_iff, not_and]
      intro h
      exact absurd (h.trans h0) hb
    · rename_i h0
      simp only [Display.solid.injEq]
      exact ⟨fun h => ⟨h.symm, by simpa using ht⟩, fun h => h.1.symm⟩

theorem display_blink_iff (s : LedState) (a b : ℕ) :
    s.display = .blink a b ↔ s.timer = true ∧ a = s.delayOn ∧ b = s.delayOff := by
  unfold LedState.display
  split
  · rename_i ht
    simp only [ht, true_and, Display.blink.injEq]
    exact ⟨fun h => ⟨h.1.symm, h.2.symm⟩, fun h => ⟨h.1.symm, h.2.symm⟩⟩
  · rename_i ht
    split <;> simp [ht]

theorem bright_display_iff (k : LedClass) (acc : Attr → Access) (s : LedState) (v : CString)
    (d : Display) (h : (Command.bright v).requested = some d) :
    ((Command.bright v).apply k acc s).display = d ↔
      (Command.bright v).Written k acc s ∧ (Command.bright v).Unblocked s := by
  simp only [Command.requested, Option.map_eq_some_iff] at h
  obtain ⟨b, hv, rfl⟩ := h
  have hstore : k.store s .brightness v = some (s.setBrightness b) := by
    simp [LedClass.store, hv]
  have hok : s.access k .ok .brightness v = s.setBrightness b := by
    simp [LedState.access, hstore]
  have hfail (a : Access) (ha : a ≠ .ok) : s.access k a .brightness v = s := by
    cases a with
    | ok => exact absurd rfl ha
    | openFails => rfl
    | writeFails => rfl
  simp only [Command.apply, Command.Written, Command.Unblocked, hv, Option.some.injEq]
  by_cases hb : b = 0
  · subst hb
    have hset : (s.setBrightness 0).display = .off := rfl
    by_cases ha : acc .brightness = .ok
    · simp [ha, hok, hset]
    · simp [ha, hfail _ ha]
  · have hset : (s.setBrightness b).display = .solid b ↔ s.timer = false := by
      rw [display_solid_iff _ b hb]
      simp [LedState.setBrightness, hb]
    by_cases ha : acc .brightness = .ok
    · simp [ha, hok, hset, hb]
    · rw [hfail _ ha, if_neg hb, display_solid_iff _ b hb]
      simp [ha, hb]

theorem trigger_access (k : LedClass) (s : LedState) (a : Access) :
    (s.access k a .trigger "timer".toList).timer = true ↔ a = .ok ∨ s.timer = true := by
  cases a with
  | ok => simp [LedState.access, LedClass.store, LedState.start]
  | openFails => simp [LedState.access]
  | writeFails => simp [LedState.access]

theorem trigger_access_times (k : LedClass) (s : LedState) (a : Access) :
    ((s.access k a .trigger "timer".toList).delayOn,
      (s.access k a .trigger "timer".toList).delayOff) =
      if a = .ok then k.startTimes s else (s.delayOn, s.delayOff) := by
  cases a with
  | ok => simp [LedState.access, LedClass.store, LedState.start]
  | openFails => simp [LedState.access]
  | writeFails => simp [LedState.access]

theorem delayOn_access (k : LedClass) (s : LedState) (a : Access) (v : CString) (t : ℕ)
    (hv : kstrtoul v = some t) :
    s.access k a .delayOn v = if a = .ok then { s with delayOn := t } else s := by
  cases a <;> simp [LedState.access, LedClass.store, hv]

theorem delayOff_access (k : LedClass) (s : LedState) (a : Access) (v : CString) (t : ℕ)
    (hv : kstrtoul v = some t) :
    s.access k a .delayOff v = if a = .ok then { s with delayOff := t } else s := by
  cases a <;> simp [LedState.access, LedClass.store, hv]

theorem blinking_display_iff (k : LedClass) (acc : Attr → Access) (s : LedState)
    (don doff : CString) (d : Display) (h : (Command.blinking don doff).requested = some d) :
    ((Command.blinking don doff).apply k acc s).display = d ↔
      (Command.blinking don doff).Written k acc s := by
  simp only [Command.requested, Option.bind_eq_some_iff, Option.map_eq_some_iff] at h
  obtain ⟨a, hon, b, hoff, rfl⟩ := h
  have htimer:=trigger_access k s (acc .trigger)
  have htimes:=trigger_access_times k s (acc .trigger)
  rw [Prod.ext_iff] at htimes
  rw [display_blink_iff]
  simp only [Command.apply, LedState.blinking, Command.Written, ← htimes.1, ← htimes.2, ← htimer,
    delayOn_access k _ _ _ a hon, delayOff_access k _ _ _ b hoff, hon, hoff, Option.some.injEq]
  generalize s.access k (acc .trigger) .trigger "timer".toList = s1
  by_cases h1 : acc .trigger = .openFails
  · simp [h1]
  · by_cases h2 : acc .delayOn = .openFails
    · simp [h1, h2]
    · by_cases h3 : acc .delayOn = .ok <;> by_cases h4 : acc .delayOff = .ok <;>
        simp [h1, h2, h3, h4]

/-- What a command leaves on its LED, for every state before and every outcome
of the accesses. -/
theorem apply_display_iff (k : LedClass) (acc : Attr → Access) (s : LedState) (c : Command)
    (d : Display) (h : c.requested = some d) :
    (c.apply k acc s).display = d ↔ c.Written k acc s ∧ c.Unblocked s := by
  cases c with
  | bright v => exact bright_display_iff k acc s v d h
  | blinking don doff =>
    rw [blinking_display_iff k acc s don doff d h]
    simp [Command.Unblocked]

theorem written_of_ok (k : LedClass) (acc : Attr → Access) (s : LedState) (c : Command)
    (h : ∀ attr, acc attr = .ok) : c.Written k acc s := by
  cases c with
  | bright v => exact Or.inl (h .brightness)
  | blinking don doff => simp [Command.Written, h]

/-! ### The whole switch -/

def Shows (info : LedInfo) (leds : Led → LedState) : Prop :=
  ∀ c ∈ commands info, c.2.requested = some (leds c.1).display

def WellFormed (info : LedInfo) : Prop := ∀ c ∈ commands info, c.2.requested.isSome

theorem commands_foldl_shows_iff (k : LedClass) (acc : Accesses) (info : LedInfo) (fs : Sysfs)
    (hw : WellFormed info) :
    Shows info ((commands info).foldl (perform k acc) fs).leds ↔
      ∀ c ∈ commands info, c.2.Written k (acc c.1) (fs.leds c.1) ∧ c.2.Unblocked (fs.leds c.1) := by
  have hleds:=(foldl_perform_leds k acc (commands info) fs (commands_nodup info)).1
  constructor
  · intro hs c hc
    have hreq:=hs c hc
    rw [hleds c hc] at hreq
    exact (apply_display_iff k (acc c.1) (fs.leds c.1) c.2 _ hreq).mp rfl
  · intro h c hc
    obtain ⟨d, hd⟩ := Option.isSome_iff_exists.mp (hw c hc)
    rw [hleds c hc, (apply_display_iff k (acc c.1) (fs.leds c.1) c.2 d hd).mpr (h c hc)]
    exact hd

theorem commands_foldl_frame (k : LedClass) (acc : Accesses) (info : LedInfo) (fs : Sysfs)
    (led : Led) (h : led ∉ (commands info).map Prod.fst) :
    ((commands info).foldl (perform k acc) fs).leds led = fs.leds led :=
  (foldl_perform_leds k acc (commands info) fs (commands_nodup info)).2 led h

end BoardServices.PanelLed
