import BoardServices.Lib.Machine
import BoardServices.PanelLed.LedClass
import BoardServices.PanelLed.SleekFilter

/-!
# The program panel_led (panel_led.c:38-77, 109-254)

Command line, the temperature check and the status switch of the control loop.
One pass through the loop is one step of a machine whose inputs are what the
environment does during the pass.
-/

namespace BoardServices.PanelLed
open Lib Lib.Strings

inductive SysStatus where
  | systemStart
  | overTemperature
  | normalOperation
  | backlinghtOff
  | debug
  deriving DecidableEq, Repr

inductive Mode where
  | solid
  | blink
  deriving DecidableEq, Repr

/-- `struct LED_INFO led_info` with its initial values. The initial 255 of
`last_mode` and `last_sys_status` is no status or mode: it is `none` here. -/
structure LedInfo where
  mode : Mode := .solid
  lastMode : Option Mode := none
  number : Led := .green
  sysStatus : SysStatus := .normalOperation
  lastSysStatus : Option SysStatus := none
  brightness : CString := "1".toList
  delayOn : CString := "500".toList
  delayOff : CString := "500".toList

/-! ### Command line -/

def parseKeyword (info : LedInfo) (arg : CString) : Option LedInfo :=
  if arg = "system_start".toList then some { info with sysStatus := .systemStart }
  else if arg = "normal_operation".toList then some { info with sysStatus := .normalOperation }
  else if arg = "over_temprature".toList then some { info with sysStatus := .overTemperature }
  else if arg = "backligt_off".toList then some { info with sysStatus := .backlinghtOff }
  else if arg = "green".toList then some { info with sysStatus := .debug, number := .green }
  else if arg = "red".toList then some { info with sysStatus := .debug, number := .red }
  else if arg = "charger".toList then some { info with sysStatus := .debug, number := .charger }
  else none

def brightRange : String := " Please check the range of values in [0,255]!\n"
def delayRange : String := " Please check the range of values in [0,65535]!\n"

/-- The second cascade looks at `argc` 4 and 5 only. An error carries what is
printed before the help text. -/
def parseValues (info : LedInfo) : List CString → Except (List String) LedInfo
  | [what, value] =>
    if what = "bright".toList then
      if 0 ≤ atoi value ∧ atoi value < 256 then
        .ok { info with mode := .solid, brightness := value }
      else .error [brightRange]
    else .error []
  | [what, on, off] =>
    if what = "blink".toList then
      if 0 ≤ atoi on ∧ atoi on < 65536 then
        if 0 ≤ atoi off ∧ atoi off < 65536 then
          .ok { info with mode := .blink, delayOn := on, delayOff := off }
        else .error [delayRange]
      else .error [delayRange]
    else .error []
  | _ => .ok info

/-- `main` up to the control loop: the `led_info` it enters the loop with, or an
error that ends in the help text. -/
def parseArgs (argv : List CString) : Except (List String) LedInfo :=
  match argv with
  | _ :: arg1 :: rest =>
    match parseKeyword {} arg1 with
    | some info => parseValues info rest
    | none => .error []
  | _ => .ok {}

/-! ### Control loop -/

/-- What the environment does during one pass through the loop. -/
structure Iteration where
  reading : Reading
  access : Accesses

structure State where
  info : LedInfo
  filter : Filter
  fs : Sysfs

def detect (argc : ℕ) (info : LedInfo) (f : Filter) (r : Reading) : LedInfo × Filter :=
  if info.sysStatus ≠ .debug ∧ info.sysStatus ≠ .systemStart ∧ argc < 2 then
    let out := getSystemTemperature f r
    if out.1 > SYSTEM_OVER_TEMPERATURE then
      ({ info with sysStatus := .overTemperature }, out.2)
    else ({ info with sysStatus := .normalOperation }, out.2)
  else (info, f)

/-- The status switch. The latch is set before the LEDs are written, and what
the writes return is not looked at. -/
def statusSwitch (k : LedClass) (acc : Accesses) (info : LedInfo) (fs : Sysfs) :
    LedInfo × Sysfs :=
  match info.sysStatus with
  | .systemStart =>
    if info.lastSysStatus ≠ some .systemStart then
      let fs1 := (setLedBrightness k acc fs .green "1".toList).2
      ({ info with lastSysStatus := some .systemStart },
        (setLedBrightness k acc fs1 .red "1".toList).2)
    else (info, fs)
  | .normalOperation =>
    if info.lastSysStatus ≠ some .normalOperation then
      let fs1 := (setLedBrightness k acc fs .green "1".toList).2
      ({ info with lastSysStatus := some .normalOperation },
        (setLedBrightness k acc fs1 .red "0".toList).2)
    else (info, fs)
  | .overTemperature =>
    if info.lastSysStatus ≠ some .overTemperature then
      let fs1 := (setLedBrightness k acc fs .green "0".toList).2
      ({ info with lastSysStatus := some .overTemperature },
        (setLedBlinking k acc fs1 .red "500".toList "500".toList).2)
    else (info, fs)
  | .backlinghtOff =>
    if info.lastSysStatus ≠ some .backlinghtOff then
      let fs1 := (setLedBlinking k acc fs .green "500".toList "500".toList).2
      ({ info with lastSysStatus := some .backlinghtOff },
        (setLedBrightness k acc fs1 .red "0".toList).2)
    else (info, fs)
  | .debug =>
    if info.lastMode ≠ some info.mode then
      match info.mode with
      | .solid => ({ info with lastMode := some info.mode },
          (setLedBrightness k acc fs info.number info.brightness).2)
      | .blink => ({ info with lastMode := some info.mode },
          (setLedBlinking k acc fs info.number info.delayOn info.delayOff).2)
    else (info, fs)

def loopBody (k : LedClass) (argc : ℕ) (st : State) (it : Iteration) : State :=
  let d := detect argc st.info st.filter it.reading
  let sw := statusSwitch k it.access d.1 st.fs
  ⟨sw.1, d.2, sw.2⟩

def started (info : LedInfo) (leds : Led → LedState) : State := ⟨info, Filter.initial, ⟨leds, []⟩⟩

def runFor (k : LedClass) (argv : List CString) (info : LedInfo) (leds : Led → LedState)
    (env : ℕ → Iteration) (n : ℕ) : State :=
  Machine.stateAt (loopBody k argv.length) (started info leds) env n

def undisturbed (r : Reading) : Iteration := ⟨r, fun _ _ => .ok⟩

def ledsOff : Led → LedState := fun _ => ⟨false, 0, 0, 0⟩

def defaultClass : LedClass := ⟨fun _ => (500, 500)⟩

/-! ### Detection -/

def Automatic (argc : ℕ) (info : LedInfo) : Prop :=
  argc < 2 ∧ (info.sysStatus = .normalOperation ∨ info.sysStatus = .overTemperature)

theorem parseArgs_automatic (argv : List CString) (info : LedInfo) (h : argv.length < 2)
    (hp : parseArgs argv = .ok info) : info = {} := by
  match argv with
  | [] => exact (Except.ok.inj hp).symm
  | [_] => exact (Except.ok.inj hp).symm
  | _ :: _ :: rest => simp only [List.length_cons] at h; omega

theorem detect_fixed (argc : ℕ) (info : LedInfo) (f : Filter) (r : Reading) (h : ¬ argc < 2) :
    detect argc info f r = (info, f) := by
  rw [detect, if_neg fun hc => h hc.2.2]

theorem detect_automatic (argc : ℕ) (info : LedInfo) (f : Filter) (r : Reading)
    (h : Automatic argc info) :
    detect argc info f r =
      ({ info with sysStatus :=
          if (getSystemTemperature f r).1 > SYSTEM_OVER_TEMPERATURE then .overTemperature
          else .normalOperation },
        (getSystemTemperature f r).2) := by
  have hc : info.sysStatus ≠ .debug ∧ info.sysStatus ≠ .systemStart ∧ argc < 2 := by
    rcases h with ⟨ha, hs | hs⟩ <;> exact ⟨by rw [hs]; decide, by rw [hs]; decide, ha⟩
  rw [detect, if_pos hc]
  dsimp only
  by_cases ht : (getSystemTemperature f r).1 > SYSTEM_OVER_TEMPERATURE
  · rw [if_pos ht, if_pos ht]
  · rw [if_neg ht, if_neg ht]

theorem detect_stays_automatic (argc : ℕ) (info : LedInfo) (f : Filter) (r : Reading)
    (h : Automatic argc info) : Automatic argc (detect argc info f r).1 := by
  rw [detect_automatic argc info f r h]
  refine ⟨h.1, ?_⟩
  dsimp only
  split
  · exact Or.inr rfl
  · exact Or.inl rfl

end BoardServices.PanelLed
