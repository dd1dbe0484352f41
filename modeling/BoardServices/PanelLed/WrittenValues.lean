import BoardServices.Lib.Numerals
import BoardServices.PanelLed.Loop

/-!
# The strings that reach the attribute files

The range check is made on the value of `atoi`, the string itself is handed to
the kernel. A run in debug mode hands over exactly the strings of its command.
-/

namespace BoardServices.PanelLed
open Lib Lib.Strings Lib.Numerals

/-! ### What a command hands over -/

def Command.strings : Command → List (Attr × CString)
  | .bright v => [(.brightness, v)]
  | .blinking don doff => [(.trigger, "timer".toList), (.delayOn, don), (.delayOff, doff)]

/-- The paths and strings of a command, in the order of the accesses. -/
def handedOver (c : Led × Command) : List (CString × CString) :=
  c.2.strings.map fun a => (pathName c.1.deviceName a.1.fileName, a.2)

/-- How far a command gets: a failing open ends a blinking command. -/
def Command.reached (acc : Attr → Access) : Command → ℕ
  | .bright _ => 1
  | .blinking _ _ =>
    if acc .trigger = .openFails then 1 else if acc .delayOn = .openFails then 2 else 3

theorem perform_opened (k : LedClass) (acc : Accesses) (fs : Sysfs) (c : Led × Command) :
    (perform k acc fs c).opened = fs.opened ++ (handedOver c).take (c.2.reached (acc c.1)) := by
  obtain ⟨led, cmd⟩ := c
  have hw (g : Sysfs) (attr : Attr) (v : CString) :=
    deviceFileNodeWriteString_node k acc g led attr v
  cases cmd with
  | bright v => exact congrArg (fun r => r.2.opened) (hw fs .brightness v)
  | blinking don doff =>
    unfold perform setLedBlinking
    rw [show "trigger".toList = Attr.trigger.fileName from rfl,
      show "delay_on".toList = Attr.delayOn.fileName from rfl,
      show "delay_off".toList = Attr.delayOff.fileName from rfl]
    simp only [hw, Command.reached, handedOver, Command.strings]
    have hneg : (-1 : ℤ) < 0 := by decide
    by_cases h1 : acc led .trigger = .openFails
    · simp only [h1, hneg, if_true]
      rfl
    · by_cases h2 : acc led .delayOn = .openFails
      · simp only [h1, h2, hneg, if_true, if_false, lt_irrefl, List.append_assoc]
        rfl
      · simp only [h1, h2, if_false, lt_irrefl, List.append_assoc]
        split
        · rfl
        · rfl

theorem handedOver_reached (acc : Attr → Access) (h : ∀ attr, acc attr = .ok)
    (c : Led × Command) : (handedOver c).take (c.2.reached acc) = handedOver c := by
  obtain ⟨led, cmd⟩ := c
  cases cmd with
  | bright v => rfl
  | blinking don doff => simp [handedOver, Command.strings, Command.reached, h]

theorem pathName_inj {led led' : Led} {attr attr' : Attr}
    (h : pathName led.deviceName attr.fileName = pathName led'.deviceName attr'.fileName) :
    led = led' ∧ attr = attr' := by
  have hnode:=nodeAt_pathName led attr
  rw [h, nodeAt_pathName] at hnode
  cases hnode
  exact ⟨rfl, rfl⟩

theorem mem_handedOver {led : Led} {attr : Attr} {value : CString} {c : Led × Command} :
    (pathName led.deviceName attr.fileName, value) ∈ handedOver c ↔
      led = c.1 ∧ (attr, value) ∈ c.2.strings := by
  constructor
  · intro h
    obtain ⟨⟨a, v⟩, hmem, heq⟩ := List.mem_map.mp h
    obtain ⟨hled, hattr⟩ := pathName_inj (congrArg Prod.fst heq)
    obtain rfl : v = value := congrArg Prod.snd heq
    exact ⟨hled.symm, hattr ▸ hmem⟩
  · rintro ⟨rfl, hmem⟩
    exact List.mem_map.mpr ⟨(attr, value), hmem, rfl⟩

/-! ### Runs in debug mode -/

def LedInfo.debugCommand (info : LedInfo) : Led × Command :=
  match info.mode with
  | .solid => (info.number, .bright info.brightness)
  | .blink => (info.number, .blinking info.delayOn info.delayOff)

theorem commands_debug {info : LedInfo} (h : info.sysStatus = .debug) :
    commands info = [info.debugCommand] := by
  unfold commands LedInfo.debugCommand
  rw [h]
  cases info.mode <;> rfl

theorem detected_debug {argc : ℕ} (st : State) (it : Iteration) (h : st.info.sysStatus = .debug) :
    detected argc st it = st.info := by
  unfold detected detect
  rw [if_neg fun hc => hc.1 h]

structure DebugRun (info : LedInfo) (st : State) : Prop where
  status : st.info.sysStatus = .debug
  command : st.info.debugCommand = info.debugCommand
  opened : st.fs.opened ⊆ handedOver info.debugCommand

theorem loopBody_debugRun (k : LedClass) (argc : ℕ) {info : LedInfo} {st : State} (it : Iteration)
    (h : DebugRun info st) : DebugRun info (loopBody k argc st it) := by
  obtain ⟨hs, hc, ho⟩ := h
  obtain ⟨_, hstatus, hcommands⟩ := loopBody_info k argc st it
  rw [detected_debug st it hs] at hstatus hcommands
  have hs':=hstatus.trans hs
  rw [commands_debug hs, commands_debug hs', List.singleton_inj] at hcommands
  refine ⟨hs', hcommands.trans hc, ?_⟩
  by_cases hw : Writes argc st it
  · rw [(loopBody_writes k argc st it hw).2, detected_debug st it hs, commands_debug hs, hc]
    rw [List.foldl_cons, List.foldl_nil, perform_opened]
    exact List.append_subset.mpr ⟨ho, List.take_subset _ _⟩
  · rw [(loopBody_quiet k argc st it hw).2]
    exact ho

section Runs
variable (k : LedClass) (argc : ℕ) {info : LedInfo} (hd : info.sysStatus = .debug)
include hd

theorem stateAt_opened (leds : Led → LedState) (env : ℕ → Iteration) (n : ℕ) :
    (Machine.stateAt (loopBody k argc) (started info leds) env n).fs.opened ⊆
      handedOver info.debugCommand := by
  have hrun : DebugRun info (Machine.stateAt (loopBody k argc) (started info leds) env n) :=
    Machine.stateAt_invariant ⟨hd, rfl, List.nil_subset _⟩
      (fun n _ h => loopBody_debugRun k argc (env n) h) n
  exact hrun.opened

theorem first_pass_opened (leds : Led → LedState)
    (hl : info.lastMode = none ∧ info.lastSysStatus = none) (r : Reading) :
    (loopBody k argc (started info leds) (undisturbed r)).fs.opened =
      handedOver info.debugCommand := by
  have hw:=writes_of_unlatched argc (started info leds) (undisturbed r) hl
  rw [(loopBody_writes k argc _ _ hw).2, detected_debug (started info leds) _ hd,
    show (started info leds).info = info from rfl, commands_debug hd, List.foldl_cons, List.foldl_nil,
    perform_opened]
  exact handedOver_reached ((undisturbed r).access info.debugCommand.1) (fun attr => rfl) _

end Runs

/-! ### Checked and written -/

/-- What the range check of a command line looks at, for each attribute. -/
def checkedBy : List CString → Attr → Option ℤ
  | [_, _, _, value], .brightness => some (atoi value)
  | [_, _, _, on, _], .delayOn => some (atoi on)
  | [_, _, _, _, off], .delayOff => some (atoi off)
  | _, _ => none

def documentedMax : Attr → ℤ
  | .brightness => 255
  | _ => 65535

/-- The string is, as a whole, a numeral of a documented value, the one that was
checked. -/
def TrueToCheck (argv : List CString) (attr : Attr) (value : CString) : Prop :=
  ∃ n, decimalNumeral value = some n ∧ 0 ≤ n ∧ n ≤ documentedMax attr ∧ checkedBy argv attr = some n

/-- All strings handed to `brightness`, `delay_on` and `delay_off` are. -/
def WritesAsChecked (argv : List CString) (fs : Sysfs) : Prop :=
  ∀ (led : Led) (attr : Attr) (value : CString), attr ≠ .trigger →
    (pathName led.deviceName attr.fileName, value) ∈ fs.opened → TrueToCheck argv attr value

theorem atoi_of_numeral {s : CString} {n : ℤ} (h : decimalNumeral s = some n) (h0 : 0 ≤ atoi s)
    (hmax : atoi s < 65536) : n = atoi s := by
  unfold atoi INT_MIN INT_MAX at *
  rw [decimalPrefix_numeral h] at *
  omega

theorem trueToCheck_iff (argv : List CString) (attr : Attr) {s : CString}
    (hc : checkedBy argv attr = some (atoi s)) (h0 : 0 ≤ atoi s) (hmax : atoi s ≤ documentedMax attr) :
    TrueToCheck argv attr s ↔ (decimalNumeral s).isSome = true := by
  have hsmall : atoi s < 65536 := by
    cases attr <;> simp only [documentedMax] at hmax <;> omega
  constructor
  · rintro ⟨n, hn, _⟩
    rw [hn]
    rfl
  · intro h
    obtain ⟨n, hn⟩ := Option.isSome_iff_exists.mp h
    have hv:=atoi_of_numeral hn h0 hsmall
    refine ⟨n, hn, by omega, by omega, ?_⟩
    rw [hc, hv]

theorem runs_writeAsChecked_iff {argv : List CString} {info : LedInfo}
    (hp : parseArgs argv = .ok info) (hd : info.sysStatus = .debug) :
    (∀ k leds env n, WritesAsChecked argv (runFor k argv info leds env n).fs) ↔
      ∀ p ∈ info.debugCommand.2.strings, p.1 ≠ .trigger → TrueToCheck argv p.1 p.2 := by
  constructor
  · intro h p hp' htrigger
    have hopened:=first_pass_opened defaultClass argv.length hd ledsOff
      (parseArgs_unlatched argv info hp) .noOpen
    refine h defaultClass ledsOff (fun _ => undisturbed .noOpen) 1 info.debugCommand.1 p.1 p.2
      htrigger ?_
    change _ ∈ (loopBody defaultClass argv.length (started info ledsOff) (undisturbed .noOpen)).fs.opened
    rw [hopened]
    exact mem_handedOver.mpr ⟨rfl, hp'⟩
  · intro h k leds env n led attr value htrigger hmem
    have hin:=stateAt_opened k argv.length hd leds env n hmem
    exact h (attr, value) (mem_handedOver.mp hin).2 htrigger

theorem parseArgs_bright {prog c what value : CString} {info : LedInfo}
    (hp : parseArgs [prog, c, what, value] = .ok info) :
    info.debugCommand = (info.number, .bright value) ∧ 0 ≤ atoi value ∧ atoi value < 256 := by
  simp only [parseArgs] at hp
  split at hp
  · simp only [parseValues] at hp
    split_ifs at hp with hw hv
    cases hp
    exact ⟨rfl, hv⟩
  · cases hp

theorem parseArgs_blink {prog c what on off : CString} {info : LedInfo}
    (hp : parseArgs [prog, c, what, on, off] = .ok info) :
    info.debugCommand = (info.number, .blinking on off) ∧ (0 ≤ atoi on ∧ atoi on < 65536) ∧
      0 ≤ atoi off ∧ atoi off < 65536 := by
  simp only [parseArgs] at hp
  split at hp
  · simp only [parseValues] at hp
    split_ifs at hp with hw hon hoff
    cases hp
    exact ⟨rfl, hon, hoff⟩
  · cases hp

/-- Every string that is written is the numeral that was checked exactly if the
arguments are numerals as a whole. -/
theorem written_values_checked_iff (argv : List CString) (info : LedInfo)
    (hp : parseArgs argv = .ok info) (hd : info.sysStatus = .debug)
    (hn : argv.length = 4 ∨ argv.length = 5) :
    (∀ k leds env n, WritesAsChecked argv (runFor k argv info leds env n).fs) ↔
      ∀ s ∈ argv.drop 3, (decimalNumeral s).isSome = true := by
  rw [runs_writeAsChecked_iff hp hd]
  match argv with
  | [prog, c, what, value] =>
    obtain ⟨hcommand, h0, hmax⟩ := parseArgs_bright hp
    have hiff:=trueToCheck_iff [prog, c, what, value] .brightness rfl h0
      (Int.le_of_lt_add_one hmax)
    rw [hcommand]
    simp only [Command.strings, List.drop_succ_cons, List.drop_zero, List.forall_mem_singleton, ← hiff]
    exact ⟨fun h => h nofun, fun h _ => h⟩
  | [prog, c, what, on, off] =>
    obtain ⟨hcommand, ⟨hon0, honmax⟩, hoff0, hoffmax⟩ := parseArgs_blink hp
    have hon:=trueToCheck_iff [prog, c, what, on, off] .delayOn rfl hon0
      (Int.le_of_lt_add_one honmax)
    have hoff:=trueToCheck_iff [prog, c, what, on, off] .delayOff rfl hoff0
      (Int.le_of_lt_add_one hoffmax)
    rw [hcommand]
    simp only [Command.strings, List.drop_succ_cons, List.drop_zero, List.forall_mem_cons, ← hon,
      ← hoff]
    constructor
    · exact fun h => ⟨h.2.1 nofun, h.2.2.1 nofun, nofun⟩
    · exact fun h => ⟨fun hne => absurd rfl hne, fun _ => h.1, fun _ => h.2.1, nofun⟩
  | [] | [_] | [_, _] | [_, _, _] | _ :: _ :: _ :: _ :: _ :: _ :: _ => simp at hn

theorem written_values_checked_iff_bright :
    ∃ info, parseArgs (["panel_led", "red", "bright", "128"].map String.toList) = .ok info ∧
      ∀ k leds env n, WritesAsChecked (["panel_led", "red", "bright", "128"].map String.toList)
        (runFor k (["panel_led", "red", "bright", "128"].map String.toList) info leds env n).fs :=
  ⟨_, rfl, (written_values_checked_iff _ _ rfl rfl (Or.inl rfl)).mpr (by decide)⟩

/-- `12abc` passes the check as 12 and is handed to the kernel as it is. -/
theorem trailing_text_written :
    ∃ info, parseArgs (["panel_led", "green", "bright", "12abc"].map String.toList) = .ok info ∧
      info.sysStatus = .debug ∧
      ¬ ∀ k leds env n, WritesAsChecked (["panel_led", "green", "bright", "12abc"].map String.toList)
        (runFor k (["panel_led", "green", "bright", "12abc"].map String.toList) info leds env n).fs := by
  refine ⟨_, rfl, rfl, fun h => ?_⟩
  have htrue:=(runs_writeAsChecked_iff rfl rfl).mp h (.brightness, "12abc".toList)
    (List.mem_singleton_self _) nofun
  obtain ⟨n, hn, _⟩ := htrue
  have hnone : decimalNumeral "12abc".toList = none := by decide
  cases hnone.symm.trans hn

end BoardServices.PanelLed
