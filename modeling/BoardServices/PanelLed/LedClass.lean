import Mathlib.Logic.Function.Basic
import BoardServices.Lib.Strings

/-!
# LED class of the kernel and the attribute writes (panel_led.c:256-342)

The part of the kernel the program relies on is written down here and nowhere
else: `timer` written to `trigger` starts blinking, `delay_on` and `delay_off`
set its times, `0` written to `brightness` turns the LED off and removes its
trigger, a nonzero `brightness` sets the on level and leaves an active timer
trigger blinking. What the times are right after a start is left open.
-/

namespace BoardServices.PanelLed
open Lib.Strings

/-- LED numbers of the source: `GREEN`, `RED`, `CHARGER`. -/
inductive Led where
  | green
  | red
  | charger
  deriving DecidableEq, Repr

def Led.deviceName : Led → CString
  | .green => "panel_led_green".toList
  | .red => "panel_led_red".toList
  | .charger => "charger-led".toList

inductive Attr where
  | trigger
  | delayOn
  | delayOff
  | brightness
  deriving DecidableEq, Repr

def Attr.fileName : Attr → CString
  | .trigger => "trigger".toList
  | .delayOn => "delay_on".toList
  | .delayOff => "delay_off".toList
  | .brightness => "brightness".toList

/-! ### One LED -/

structure LedState where
  timer : Bool
  delayOn : ℕ
  delayOff : ℕ
  brightness : ℕ
  deriving DecidableEq, Repr

inductive Display where
  | off
  | solid (level : ℕ)
  | blink (delayOn delayOff : ℕ)
  deriving DecidableEq, Repr

def LedState.display (s : LedState) : Display :=
  if s.timer then .blink s.delayOn s.delayOff
  else if s.brightness = 0 then .off else .solid s.brightness

/-- What the assumptions leave open: the times of a timer that was just started. -/
structure LedClass where
  startTimes : LedState → ℕ × ℕ

/-- Number format of the attribute files: an optional plus sign, digits, an
optional final newline. -/
def kstrtoul (s : CString) : Option ℕ :=
  let body := match s with
    | '+' :: r => r
    | r => r
  let digits := body.takeWhile Char.isDigit
  let tail := body.dropWhile Char.isDigit
  if digits ≠ [] ∧ (tail = [] ∨ tail = ['\n']) then some (Nat.ofDigitChars 10 digits 0) else none

def LedState.start (k : LedClass) (s : LedState) : LedState :=
  ⟨true, (k.startTimes s).1, (k.startTimes s).2, s.brightness⟩

def LedState.setBrightness (s : LedState) (b : ℕ) : LedState :=
  if b = 0 then ⟨false, s.delayOn, s.delayOff, 0⟩ else ⟨s.timer, s.delayOn, s.delayOff, b⟩

/-- Store operation of an attribute file; a value it does not take is refused
and leaves the LED as it is. -/
def LedClass.store (k : LedClass) (s : LedState) : Attr → CString → Option LedState
  | .trigger, v => if v = "timer".toList then some (s.start k) else none
  | .delayOn, v => (kstrtoul v).map fun t => { s with delayOn := t }
  | .delayOff, v => (kstrtoul v).map fun t => { s with delayOff := t }
  | .brightness, v => (kstrtoul v).map s.setBrightness

/-! ### The attribute files -/

inductive Access where
  | ok
  | openFails
  | writeFails
  deriving DecidableEq, Repr

/-- Outcome of the accesses during one iteration; each file is accessed at most
once in it. -/
abbrev Accesses := Led → Attr → Access

structure Sysfs where
  leds : Led → LedState
  opened : List (CString × CString)

def sysfsPath (n : Led × Attr) : CString :=
  "/sys/class/leds/".toList ++ n.1.deviceName ++ '/' :: n.2.fileName

def nodes : List (Led × Attr) :=
  [.green, .red, .charger].flatMap fun led =>
    [.trigger, .delayOn, .delayOff, .brightness].map fun attr => (led, attr)

def nodeAt (path : CString) : Option (Led × Attr) := nodes.find? fun n => sysfsPath n == path

/-- `snprintf` into `char path_name[48]`. -/
def pathName (devName fileName : CString) : CString :=
  ("/sys/class/leds/".toList ++ devName ++ '/' :: fileName).take 47

theorem nodeAt_pathName (led : Led) (attr : Attr) :
    nodeAt (pathName led.deviceName attr.fileName) = some (led, attr) := by
  cases led <;> cases attr <;> decide

/-- `device_file_node_write_string`: only a failing open is reported; what
`write` returns is not looked at. -/
def deviceFileNodeWriteString (k : LedClass) (acc : Accesses) (fs : Sysfs)
    (devName fileName value : CString) : ℤ × Sysfs :=
  let path := pathName devName fileName
  let fs' : Sysfs := { fs with opened := fs.opened ++ [(path, value)] }
  match nodeAt path with
  | none => (-1, fs')
  | some (led, attr) =>
    match acc led attr with
    | .openFails => (-1, fs')
    | .writeFails => (0, fs')
    | .ok =>
      match k.store (fs.leds led) attr value with
      | none => (0, fs')
      | some s => (0, { fs' with leds := Function.update fs.leds led s })

/-- `set_led_brightness`; the cases of the source differ in the device name only. -/
def setLedBrightness (k : LedClass) (acc : Accesses) (fs : Sysfs) (number : Led)
    (brightness : CString) : ℤ × Sysfs :=
  deviceFileNodeWriteString k acc fs number.deviceName "brightness".toList brightness

/-- `set_led_blinking`; the cases of the source differ in the device name only. -/
def setLedBlinking (k : LedClass) (acc : Accesses) (fs : Sysfs) (number : Led)
    (delayOn delayOff : CString) : ℤ × Sysfs :=
  let w1 := deviceFileNodeWriteString k acc fs number.deviceName "trigger".toList "timer".toList
  if w1.1 < 0 then (-1, w1.2)
  else
    let w2 := deviceFileNodeWriteString k acc w1.2 number.deviceName "delay_on".toList delayOn
    if w2.1 < 0 then (-1, w2.2)
    else
      let w3 := deviceFileNodeWriteString k acc w2.2 number.deviceName "delay_off".toList delayOff
      if w3.1 < 0 then (-1, w3.2) else (0, w3.2)

/-! ### Effect on one LED -/

def LedState.access (k : LedClass) (s : LedState) (a : Access) (attr : Attr) (v : CString) :
    LedState :=
  match a with
  | .ok => (k.store s attr v).getD s
  | _ => s

theorem deviceFileNodeWriteString_node (k : LedClass) (acc : Accesses) (fs : Sysfs) (led : Led)
    (attr : Attr) (v : CString) :
    deviceFileNodeWriteString k acc fs led.deviceName attr.fileName v =
      (if acc led attr = .openFails then -1 else 0,
        ⟨Function.update fs.leds led ((fs.leds led).access k (acc led attr) attr v),
          fs.opened ++ [(pathName led.deviceName attr.fileName, v)]⟩) := by
  unfold deviceFileNodeWriteString LedState.access
  simp only [nodeAt_pathName]
  cases acc led attr with
  | ok =>
    cases k.store (fs.leds led) attr v with
    | none => simp
    | some s => simp
  | openFails => simp
  | writeFails => simp

def LedState.blinking (k : LedClass) (s : LedState) (acc : Attr → Access)
    (delayOn delayOff : CString) : LedState :=
  let s1 := s.access k (acc .trigger) .trigger "timer".toList
  if acc .trigger = .openFails then s1
  else
    let s2 := s1.access k (acc .delayOn) .delayOn delayOn
    if acc .delayOn = .openFails then s2
    else s2.access k (acc .delayOff) .delayOff delayOff

theorem setLedBrightness_leds (k : LedClass) (acc : Accesses) (fs : Sysfs) (n : Led)
    (b : CString) :
    (setLedBrightness k acc fs n b).2.leds =
      Function.update fs.leds n ((fs.leds n).access k (acc n .brightness) .brightness b) := by
  have hw:=deviceFileNodeWriteString_node k acc fs n .brightness b
  exact congrArg (fun r => r.2.leds) hw

theorem setLedBlinking_leds (k : LedClass) (acc : Accesses) (fs : Sysfs) (n : Led)
    (don doff : CString) :
    (setLedBlinking k acc fs n don doff).2.leds =
      Function.update fs.leds n ((fs.leds n).blinking k (acc n) don doff) := by
  have hw (g : Sysfs) (attr : Attr) (v : CString) :=
    deviceFileNodeWriteString_node k acc g n attr v
  unfold setLedBlinking LedState.blinking
  rw [show "trigger".toList = Attr.trigger.fileName from rfl,
    show "delay_on".toList = Attr.delayOn.fileName from rfl,
    show "delay_off".toList = Attr.delayOff.fileName from rfl]
  simp only [hw, Function.update_self, Function.update_idem]
  by_cases h1 : acc n .trigger = .openFails
  · simp [h1]
  · by_cases h2 : acc n .delayOn = .openFails
    · simp [h1, h2]
    · by_cases h3 : acc n .delayOff = .openFails
      · simp [h1, h2, h3]
      · simp [h1, h2, h3]

end BoardServices.PanelLed
