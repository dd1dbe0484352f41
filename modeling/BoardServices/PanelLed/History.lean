import BoardServices.PanelLed.Loop

/-!
# What earlier invocations leave behind

An invocation that is killed leaves the LEDs as they are, timers included. The
next one writes its pattern without removing a trigger first, so a steady light
comes out right exactly where no timer was left running on that LED.
-/

namespace BoardServices.PanelLed
open Lib Lib.Strings

structure Invocation where
  argv : List CString
  env : ℕ → Iteration
  iterations : ℕ

def afterInvocation (k : LedClass) (leds : Led → LedState) (inv : Invocation) : Led → LedState :=
  match parseArgs inv.argv with
  | .ok info => (runFor k inv.argv info leds inv.env inv.iterations).fs.leds
  | .error _ => leds

def ledsAfter (k : LedClass) (leds : Led → LedState) (history : List Invocation) :
    Led → LedState := history.foldl (afterInvocation k) leds

/-- The status and mode the first iteration of an invocation settles on. -/
def firstInfo (argv : List CString) (info : LedInfo) (it : Iteration) : LedInfo :=
  (detect argv.length info Filter.initial it.reading).1

/-- No timer is running on an LED that the first iteration lights steadily. -/
def NoTimerLeft (info : LedInfo) (leds : Led → LedState) : Prop :=
  ∀ c ∈ commands info, c.2.Unblocked (leds c.1)

theorem first_iteration_shows_iff (k : LedClass) (argv : List CString) (info : LedInfo)
    (leds : Led → LedState) (env : ℕ → Iteration) (hp : parseArgs argv = .ok info)
    (hw : WellFormed info) (hok : ∀ led attr, (env 0).access led attr = .ok) :
    Shows (firstInfo argv info (env 0)) (runFor k argv info leds env 1).fs.leds ↔
      NoTimerLeft (firstInfo argv info (env 0)) leds := by
  have hwr:=writes_of_unlatched argv.length (started info leds) (env 0) (parseArgs_unlatched argv info hp)
  have hshows:=writes_shows_iff k argv.length (started info leds) (env 0) hwr
    (wellFormed_detected argv.length (started info leds) (env 0) hw)
  rw [shows_congr (loopBody_info k argv.length (started info leds) (env 0)).2.2] at hshows
  refine hshows.trans ⟨fun h c hc => (h c hc).2, fun h c hc => ⟨?_, h c hc⟩⟩
  exact written_of_ok k _ _ _ (hok c.1)

/-- The display after the first iteration of an invocation is the one it asks
for exactly if the history has left no timer running where it lights an LED
steadily, and two histories of this kind give the same display. -/
theorem display_after_history_iff (k : LedClass) (argv : List CString) (info : LedInfo)
    (env : ℕ → Iteration) (hp : parseArgs argv = .ok info) (hw : WellFormed info)
    (hok : ∀ led attr, (env 0).access led attr = .ok) :
    (∀ (leds : Led → LedState) (history : List Invocation),
      Shows (firstInfo argv info (env 0))
          (runFor k argv info (ledsAfter k leds history) env 1).fs.leds ↔
        NoTimerLeft (firstInfo argv info (env 0)) (ledsAfter k leds history)) ∧
    (∀ (leds leds' : Led → LedState) (history history' : List Invocation),
      NoTimerLeft (firstInfo argv info (env 0)) (ledsAfter k leds history) →
      NoTimerLeft (firstInfo argv info (env 0)) (ledsAfter k leds' history') →
      ∀ c ∈ commands (firstInfo argv info (env 0)),
        ((runFor k argv info (ledsAfter k leds history) env 1).fs.leds c.1).display =
          ((runFor k argv info (ledsAfter k leds' history') env 1).fs.leds c.1).display) := by
  have hiff (leds : Led → LedState) (history : List Invocation) :=
    first_iteration_shows_iff k argv info (ledsAfter k leds history) env hp hw hok
  refine ⟨hiff, ?_⟩
  intro leds leds' history history' h h' c hc
  have hs:=(hiff leds history).mpr h c hc
  have hs':=(hiff leds' history').mpr h' c hc
  exact Option.some.inj (hs.symm.trans hs')

theorem display_after_history_iff_restart :
    Shows (firstInfo ["panel_led".toList, "normal_operation".toList]
        { sysStatus := .normalOperation } (undisturbed .noOpen))
      (runFor defaultClass ["panel_led".toList, "normal_operation".toList]
        { sysStatus := .normalOperation }
        (ledsAfter defaultClass ledsOff
          [⟨["panel_led".toList, "system_start".toList], fun _ => undisturbed .noOpen, 1⟩])
        (fun _ => undisturbed .noOpen) 1).fs.leds :=
  ((display_after_history_iff defaultClass ["panel_led".toList, "normal_operation".toList]
    { sysStatus := .normalOperation } (fun _ => undisturbed .noOpen) (by rfl)
    (wellFormed_status _ (by decide)) (fun _ _ => rfl)).1 ledsOff
    [⟨["panel_led".toList, "system_start".toList], fun _ => undisturbed .noOpen, 1⟩]).mpr
      fun c hc => by
        have hno:=(by decide : ∀ c ∈ commands { sysStatus := .normalOperation },
          (ledsAfter defaultClass ledsOff [⟨["panel_led".toList, "system_start".toList],
            fun _ => undisturbed .noOpen, 1⟩] c.1).timer = false)
        exact unblocked_of_no_timer _ _ (hno c hc)

/-- `backligt_off`, killed after one iteration, leaves green blinking, and the
`normal_operation` that follows does not stop it. -/
theorem backlight_off_then_normal_blinks :
    ¬ ∀ (k : LedClass) (leds : Led → LedState) (history : List Invocation) (argv : List CString)
        (info : LedInfo) (env : ℕ → Iteration),
      parseArgs argv = .ok info → WellFormed info →
      (∀ led attr, (env 0).access led attr = .ok) →
      Shows (firstInfo argv info (env 0))
        (runFor k argv info (ledsAfter k leds history) env 1).fs.leds := by
  intro h
  have hs:=h defaultClass ledsOff
    [⟨["panel_led".toList, "backligt_off".toList], fun _ => undisturbed .noOpen, 1⟩]
    ["panel_led".toList, "normal_operation".toList] { sysStatus := .normalOperation }
    (fun _ => undisturbed .noOpen) (by rfl) (wellFormed_status _ (by decide)) (fun _ _ => rfl)
  have hgreen:=hs (.green, .bright "1".toList) (List.mem_cons_self ..)
  exact absurd hgreen (by decide)

end BoardServices.PanelLed
