import BoardServices.Lib.Numerals
import BoardServices.Testmode.Naming

/-!
# Which device is opened (testmode.c:161-197)

The argument of `-D` goes through `strtok` and `strtoul`, neither of which says
that a string is not what it should be, and the ids are narrowed to 16 bits by
the call that opens the device.
-/

namespace BoardServices.Testmode
open Lib.Strings Lib.CommandLine Lib.Numerals

/-- Two hexadecimal numerals up to `0xffff`, separated by one colon. -/
def Names (s : CString) (vid pid : BitVec 16) : Prop :=
  ∃ a b v p, s = a ++ ':' :: b ∧ hexNumeral a = some v ∧ hexNumeral b = some p ∧ v ≤ 0xffff ∧
    p ≤ 0xffff ∧ vid = BitVec.ofNat 16 v ∧ pid = BitVec.ofNat 16 p

def deviceArgument : OptResult → Option CString
  | .value 'D' optarg => some optarg
  | _ => none

def lastDevice (argv : List CString) : Option CString :=
  lastWrite deviceArgument (getoptLong testmodeOpts argv.tail)

/-- The program has opened nothing but the device that was named, and where none was
named it has opened nothing and failed without faulting. A named device may stay
closed because another option is rejected. -/
structure OpensOnlyNamed (usb : Usb) (last : Option CString) (o : Outcome) : Prop where
  named : ∀ s vid pid, last = some s → Names s vid pid →
    (o.calls = [] ∧ ∃ status, o.ending = .exits status ∧ status < 0) ∨
      (UsbCall.openDevice vid pid (usb.finds vid pid) ∈ o.calls ∧
        ∀ v p found, UsbCall.openDevice v p found ∈ o.calls → v = vid ∧ p = pid)
  otherwise : (∀ s vid pid, last = some s → ¬ Names s vid pid) →
    ¬ o.Opened ∧ ∃ status, o.ending = .exits status ∧ status < 0

/-! ### The ids of a string -/

theorem hexNumeral_no_colon {s : CString} {n : ℕ} (h : hexNumeral s = some n) :
    s ≠ [] ∧ ∀ c ∈ s, c ≠ ':' := by
  obtain ⟨hne, hall⟩ := hexNumeral_digits h
  exact ⟨hne, fun c hc => (isxdigit_not_lead c (hall c hc)).2.2.2⟩

theorem narrowed_ids {s : CString} {n : ℕ} (h : hexNumeral s = some n) (hn : n ≤ 0xffff) :
    (strtoul16 s).setWidth 16 = BitVec.ofNat 16 n := by
  rw [strtoul16_numeral h (by omega), BitVec.setWidth_ofNat_of_le (by decide)]

theorem deviceIds_names {s : CString} {vid pid : BitVec 16} (h : Names s vid pid) :
    ∃ ids, deviceIds s = some ids ∧ ids.1.setWidth 16 = vid ∧ ids.2.setWidth 16 = pid := by
  obtain ⟨a, b, v, p, rfl, ha, hb, hv, hp, rfl, rfl⟩ := h
  obtain ⟨hane, hacolon⟩ := hexNumeral_no_colon ha
  obtain ⟨hbne, hbcolon⟩ := hexNumeral_no_colon hb
  have hfirst : strtok (a ++ ':' :: b) ':' = some (a, b) := strtok_append hane hacolon rfl
  have hsecond : strtok b ':' = some (b, []) := by
    have hlast:=strtok_append (t := []) hbne hbcolon rfl
    rwa [List.append_nil] at hlast
  refine ⟨(strtoul16 a, strtoul16 b), ?_, narrowed_ids ha hv, narrowed_ids hb hp⟩
  simp only [deviceIds, hfirst, Option.bind_some, hsecond, Option.map_some]

theorem names_one_colon {s : CString} {vid pid : BitVec 16} (h : Names s vid pid) :
    s.count ':' = 1 := by
  obtain ⟨a, b, v, p, rfl, ha, hb, _⟩ := h
  have hnone {t : CString} {n : ℕ} (ht : hexNumeral t = some n) : t.count ':' = 0 :=
    List.count_eq_zero.mpr fun hmem => (hexNumeral_no_colon ht).2 ':' hmem rfl
  rw [List.count_append, List.count_cons_self, hnone ha, hnone hb]

/-! ### The option loop -/

/-- What ends the option loop: a `-D` whose argument has no two tokens faults, an
option that is not expected exits. -/
def stops : OptResult → Bool
  | .flag 'd' => false
  | .value 't' _ => false
  | .value 'D' optarg => (deviceIds optarg).isNone
  | _ => true

def stopped : OptResult → Ending
  | .value 'D' _ => .faults
  | _ => .exits (-1)

/-- The ids of the last `-D`, as `strtoul` reads them; 0:0 without one. -/
def idsRead (last : Option CString) : BitVec 32 × BitVec 32 := (last.bind deviceIds).getD (0, 0)

theorem takeOption_stops {s : Settings} {r : OptResult} (h : stops r = true) :
    takeOption s r = .error (stopped r) := by
  unfold stops at h
  split at h
  · cases h
  · cases h
  · simp only [takeOption, stopped, Option.isNone_iff_eq_none.mp h]
  · rename_i hdebug htest hdevice
    have htake : takeOption s r = .error (.exits (-1)) := by
      unfold takeOption
      split
      · exact (htest _ rfl).elim
      · exact (hdevice _ rfl).elim
      · exact (hdebug rfl).elim
      · rfl
    have hexits : stopped r = .exits (-1) := by
      unfold stopped
      split
      · exact (hdevice _ rfl).elim
      · rfl
    rw [htake, hexits]

theorem takeOption_goes_on {s : Settings} {r : OptResult} (h : stops r = false) :
    ∃ t, takeOption s r = .ok t ∧
      (t.vid, t.pid) = ((deviceArgument r).bind deviceIds).getD (s.vid, s.pid) := by
  unfold stops at h
  split at h
  · exact ⟨s, rfl, rfl⟩
  · exact ⟨_, rfl, rfl⟩
  · rename_i optarg
    obtain ⟨ids, hids⟩ := Option.isSome_iff_exists.mp (Option.isNone_eq_false_iff.mp h)
    simp only [takeOption, deviceArgument, hids]
    exact ⟨_, rfl, by simp [hids]⟩
  · cases h

theorem deviceIds_isSome {r : OptResult} {optarg : CString} (hr : deviceArgument r = some optarg)
    (h : stops r = false) : (deviceIds optarg).isSome = true := by
  unfold deviceArgument at hr
  split at hr
  · cases hr
    exact Option.isNone_eq_false_iff.mp h
  · cases hr

theorem takeOptions_stops {rs : List OptResult} {r : OptResult} (h : rs.find? stops = some r)
    (s : Settings) : takeOptions s rs = .error (stopped r) := by
  induction rs generalizing s with
  | nil => cases h
  | cons x rs ih =>
    cases hx : stops x with
    | true =>
      rw [List.find?_cons_of_pos hx] at h
      cases h
      rw [takeOptions, takeOption_stops hx]
    | false =>
      obtain ⟨t, ht, _⟩ := takeOption_goes_on (s := s) hx
      rw [List.find?_cons_of_neg (by simp [hx])] at h
      rw [takeOptions, ht]
      exact ih h t

theorem takeOptions_takes {rs : List OptResult} (h : rs.find? stops = none) (s : Settings) :
    ∃ t, takeOptions s rs = .ok t ∧
      (t.vid, t.pid) = ((lastWrite deviceArgument rs).bind deviceIds).getD (s.vid, s.pid) := by
  induction rs generalizing s with
  | nil => exact ⟨s, rfl, rfl⟩
  | cons x rs ih =>
    have hx : stops x = false := by
      have hall:=List.find?_eq_none.mp h x (List.mem_cons_self ..)
      simpa using hall
    obtain ⟨u, hu, huids⟩ := takeOption_goes_on (s := s) hx
    rw [List.find?_cons_of_neg (by simp [hx])] at h
    obtain ⟨t, ht, htids⟩ := ih h u
    refine ⟨t, ?_, ?_⟩
    · rw [takeOptions, hu]
      exact ht
    · rw [htids, lastWrite_cons]
      cases hl : lastWrite deviceArgument rs with
      | none => exact huids
      | some optarg =>
        -- a later `-D` that is taken has ids of its own
        obtain ⟨y, hy, hoptarg⟩ := exists_of_lastWrite _ hl
        have hgoes : stops y = false := by
          have hall:=List.find?_eq_none.mp h y hy
          simpa using hall
        obtain ⟨ids, hids⟩ := Option.isSome_iff_exists.mp (deviceIds_isSome hoptarg hgoes)
        simp [hids]

/-! ### Opening -/

def openedBy : UsbCall → Option (BitVec 16 × BitVec 16 × Bool)
  | .openDevice vid pid found => some (vid, pid, found)
  | _ => none

theorem startTestmode_opens_nothing (usb : Usb) (testmode : Option CString) :
    (startTestmode usb testmode).1.filterMap openedBy = [] := by
  unfold startTestmode doTest badDescriptorTest
  split
  · rfl
  · dsimp only
    split
    · split
      · rfl
      · split <;> rfl
    · rfl

theorem runTest_opens (usb : Usb) (s : Settings) :
    (runTest usb s).calls.filterMap openedBy =
      [(s.vid.setWidth 16, s.pid.setWidth 16,
        usb.finds (s.vid.setWidth 16) (s.pid.setWidth 16))] := by
  have hstart:=startTestmode_opens_nothing usb s.testmode
  unfold runTest
  dsimp only
  split
  · rename_i hfound
    rw [hfound]
    split
    · simp [openedBy, hstart]
    · simp [openedBy, hstart]
  · rename_i hmissing
    rw [Bool.not_eq_true] at hmissing
    simp [openedBy, hmissing]

theorem runTest_opens_iff (usb : Usb) (s : Settings) (vid pid : BitVec 16) (found : Bool) :
    UsbCall.openDevice vid pid found ∈ (runTest usb s).calls ↔
      vid = s.vid.setWidth 16 ∧ pid = s.pid.setWidth 16 ∧ found = usb.finds vid pid := by
  have hmem : UsbCall.openDevice vid pid found ∈ (runTest usb s).calls ↔
      (vid, pid, found) ∈ (runTest usb s).calls.filterMap openedBy := by
    rw [List.mem_filterMap]
    constructor
    · exact fun h => ⟨_, h, rfl⟩
    · rintro ⟨c, hc, heq⟩
      cases c with
      | openDevice v p f =>
        cases heq
        exact hc
      | _ => cases heq
  rw [hmem, runTest_opens, List.mem_singleton, Prod.mk.injEq, Prod.mk.injEq]
  constructor
  · rintro ⟨rfl, rfl, rfl⟩
    exact ⟨rfl, rfl, rfl⟩
  · rintro ⟨rfl, rfl, rfl⟩
    exact ⟨rfl, rfl, rfl⟩

/-! ### The whole program -/

theorem opensOnlyNamed_rejected (usb : Usb) (last : Option CString) :
    OpensOnlyNamed usb last ⟨[], .exits (-1)⟩ := by
  refine ⟨fun _ _ _ _ _ => Or.inl ⟨rfl, -1, rfl, by decide⟩, fun _ => ⟨?_, -1, rfl, by decide⟩⟩
  rintro ⟨vid, pid, h⟩
  cases h

theorem not_opensOnlyNamed_faulted (usb : Usb) (last : Option CString) :
    ¬ OpensOnlyNamed usb last ⟨[], .faults⟩ := by
  intro h
  by_cases hn : ∃ s vid pid, last = some s ∧ Names s vid pid
  · obtain ⟨s, vid, pid, hlast, hnames⟩ := hn
    rcases h.named s vid pid hlast hnames with ⟨_, status, hstatus, _⟩ | ⟨hmem, _⟩
    · cases hstatus
    · cases hmem
  · obtain ⟨_, status, hstatus, _⟩ :=
      h.otherwise fun s vid pid hlast hnames => hn ⟨s, vid, pid, hlast, hnames⟩
    cases hstatus

/-- With the options taken, the device tried is the one whose ids were read. -/
theorem opensOnlyNamed_runTest_iff (usb : Usb) (s : Settings) (last : Option CString)
    (hids : (s.vid, s.pid) = idsRead last) :
    OpensOnlyNamed usb last (runTest usb s) ↔
      (∃ str vid pid, last = some str ∧ Names str vid pid) ∨
        usb.finds (s.vid.setWidth 16) (s.pid.setWidth 16) = false := by
  have hnamed {str : CString} {vid pid : BitVec 16} (hlast : last = some str)
      (hn : Names str vid pid) : s.vid.setWidth 16 = vid ∧ s.pid.setWidth 16 = pid := by
    obtain ⟨ids, hsome, hvid, hpid⟩ := deviceIds_names hn
    have heq : (s.vid, s.pid) = ids := by
      rw [hids, hlast, idsRead, Option.bind_some, hsome, Option.getD_some]
    rw [← heq] at hvid hpid
    exact ⟨hvid, hpid⟩
  constructor
  · intro h
    by_cases hn : ∃ str vid pid, last = some str ∧ Names str vid pid
    · exact Or.inl hn
    · refine Or.inr (Bool.eq_false_iff.mpr fun hfound => ?_)
      refine (h.otherwise fun str vid pid hlast hnames => hn ⟨str, vid, pid, hlast, hnames⟩).1 ?_
      exact ⟨_, _, (runTest_opens_iff usb s _ _ true).mpr ⟨rfl, rfl, hfound.symm⟩⟩
  · intro h
    refine ⟨fun str vid pid hlast hn => Or.inr ?_, fun hno => ?_⟩
    · obtain ⟨rfl, rfl⟩ := hnamed hlast hn
      refine ⟨(runTest_opens_iff usb s _ _ _).mpr ⟨rfl, rfl, rfl⟩, fun v p found hmem => ?_⟩
      have hopen:=(runTest_opens_iff usb s v p found).mp hmem
      exact ⟨hopen.1, hopen.2.1⟩
    · have hmissing:=h.resolve_left fun ⟨str, vid, pid, hlast, hn⟩ => hno str vid pid hlast hn
      refine ⟨?_, -ENODEV, ?_, by decide⟩
      · rintro ⟨vid, pid, hmem⟩
        obtain ⟨rfl, rfl, hfound⟩ := (runTest_opens_iff usb s vid pid true).mp hmem
        rw [hmissing] at hfound
        cases hfound
      · unfold runTest
        dsimp only
        rw [if_neg (by rw [hmissing]; exact Bool.false_ne_true)]

/-- The argument vectors for which the program does open only what was named: no
result of the option loop faults, and if none is rejected the last `-D` names a
device or the device with the ids that are read from it is not attached. -/
def Safe (usb : Usb) (argv : List CString) : Prop :=
  argv.length < 2 ∨
    match (getoptLong testmodeOpts argv.tail).find? stops with
    | some r => stopped r ≠ .faults
    | none =>
      (∃ s vid pid, lastDevice argv = some s ∧ Names s vid pid) ∨
        usb.finds ((idsRead (lastDevice argv)).1.setWidth 16)
          ((idsRead (lastDevice argv)).2.setWidth 16) = false

theorem stopped_cases (r : OptResult) : stopped r = .faults ∨ stopped r = .exits (-1) := by
  unfold stopped
  split
  · exact Or.inl rfl
  · exact Or.inr rfl

theorem opens_only_named_iff (usb : Usb) (argv : List CString) :
    OpensOnlyNamed usb (lastDevice argv) (main usb argv) ↔ Safe usb argv := by
  unfold Safe main
  by_cases hargc : argv.length < 2
  · rw [if_pos hargc]
    exact iff_of_true (opensOnlyNamed_rejected usb _) (Or.inl hargc)
  · rw [if_neg hargc, or_iff_right hargc]
    cases hf : (getoptLong testmodeOpts argv.tail).find? stops with
    | some r =>
      rw [takeOptions_stops hf]
      rcases stopped_cases r with hr | hr
      · simp only [hr]
        exact iff_of_false (not_opensOnlyNamed_faulted usb _) fun h => h rfl
      · simp only [hr]
        exact iff_of_true (opensOnlyNamed_rejected usb _) nofun
    | none =>
      obtain ⟨t, ht, hids⟩ := takeOptions_takes hf Settings.initial
      have hread : (t.vid, t.pid) = idsRead (lastDevice argv) := hids
      rw [ht]
      dsimp only
      rw [← hread]
      exact opensOnlyNamed_runTest_iff usb t (lastDevice argv) hread

/-- `1:2:3` opens the device 1:2, and a string without a colon faults. -/
theorem extra_field_opens_device :
    ¬ OpensOnlyNamed obliging
        (lastDevice (["testmode", "-D", "1:2:3", "-t", "test_k"].map String.toList))
        (main obliging (["testmode", "-D", "1:2:3", "-t", "test_k"].map String.toList)) ∧
      ¬ OpensOnlyNamed obliging
        (lastDevice (["testmode", "-D", "12", "-t", "test_k"].map String.toList))
        (main obliging (["testmode", "-D", "12", "-t", "test_k"].map String.toList)) := by
  refine ⟨fun h => ?_, ?_⟩
  · have hlast : lastDevice (["testmode", "-D", "1:2:3", "-t", "test_k"].map String.toList) =
        some "1:2:3".toList := by decide
    rw [hlast] at h
    refine (h.otherwise ?_).1 ⟨1, 2, by decide⟩
    intro s vid pid hs hn
    cases hs
    exact absurd (names_one_colon hn) (by decide)
  · have hmain : main obliging (["testmode", "-D", "12", "-t", "test_k"].map String.toList) =
        ⟨[], .faults⟩ := by decide
    rw [hmain]
    exact not_opensOnlyNamed_faulted _ _

end BoardServices.Testmode
