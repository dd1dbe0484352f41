import BoardServices.Testmode.Program

/-!
# Which names start a test

The comparisons of `start_testmode` accept every string that begins with a name,
and a string that begins with none leaves the selector at zero, which is sent
all the same. So a device is left alone, or put into the mode that was named,
exactly for the names themselves.
-/

namespace BoardServices.Testmode
open Lib.Strings Lib.CommandLine

def testModes : List (CString × ℕ) :=
  [("test_j".toList, TEST_J), ("test_k".toList, TEST_K), ("test_se0_nak".toList, TEST_SE0_NAK),
    ("test_packet".toList, TEST_PACKET), ("test_force_hs".toList, TEST_FORCE_HS),
    ("test_force_fs".toList, TEST_FORCE_FS)]

def badDescriptor : CString := "bad_descriptor".toList

/-- What `start_testmode` compares with, in its order. -/
def names : List (CString × ℕ) := testModes ++ [(badDescriptor, TEST_BAD_DESCRIPTOR)]

def testArgument : OptResult → Option CString
  | .value 't' optarg => some optarg
  | _ => none

def lastTest (argv : List CString) : Option CString :=
  lastWrite testArgument (getoptLong testmodeOpts argv.tail)

/-! ### The selector of a string -/

def matchName (testmode : CString) (m : CString × ℕ) : Option ℕ :=
  if strncmp testmode m.1 m.1.length = 0 then some m.2 else none

theorem matchName_getD (testmode : CString) (m : CString × ℕ) (test : ℕ) :
    (matchName testmode m).getD test = if strncmp testmode m.1 m.1.length = 0 then m.2 else test := by
  unfold matchName
  split <;> rfl

theorem testOf_eq (testmode : CString) :
    testOf testmode = (lastWrite (matchName testmode) names).getD 0 := by
  have hfold : testOf testmode =
      names.foldl (fun test m => if strncmp testmode m.1 m.1.length = 0 then m.2 else test) 0 := rfl
  rw [hfold, ← foldl_lastWrite]
  simp only [matchName_getD]

theorem matchName_iff (testmode : CString) (m : CString × ℕ) (hm : m ∈ names) (v : ℕ) :
    matchName testmode m = some v ↔ m.1 <+: testmode ∧ v = m.2 := by
  have hnul : ∀ m ∈ names, '\x00' ∉ m.1 := by decide
  have hpre:=strncmp_eq_zero_iff testmode m.1 (hnul m hm)
  unfold matchName
  split
  · rename_i h
    rw [Option.some.injEq, and_iff_right (hpre.mp h), eq_comm]
  · rename_i h
    exact ⟨nofun, fun hc => absurd (hpre.mpr hc.1) h⟩

theorem names_apart : ∀ a ∈ names, ∀ b ∈ names, a.1 <+: b.1 → a = b := by decide

theorem testOf_name (m : CString × ℕ) (hm : m ∈ names) : testOf m.1 = m.2 := by
  have hself:=(matchName_iff m.1 m hm m.2).mpr ⟨List.prefix_rfl, rfl⟩
  rw [testOf_eq]
  cases hw : lastWrite (matchName m.1) names with
  | none =>
    have hno:=lastWrite_eq_none _ hw m hm
    rw [hself] at hno
    cases hno
  | some v =>
    obtain ⟨x, hx, hv⟩ := exists_of_lastWrite _ hw
    obtain ⟨hpre, rfl⟩ := (matchName_iff m.1 x hx v).mp hv
    rw [names_apart x hx m hm hpre, Option.getD_some]

/-! ### The option loop -/

theorem takeOption_testmode (s t : Settings) (r : OptResult) (h : takeOption s r = .ok t) :
    t.testmode = (testArgument r).or s.testmode := by
  unfold takeOption at h
  split at h
  · cases h
    rfl
  · split at h
    · cases h
      rfl
    · cases h
  · cases h
    rfl
  · cases h

theorem takeOptions_testmode (s t : Settings) (rs : List OptResult) (h : takeOptions s rs = .ok t) :
    t.testmode = (lastWrite testArgument rs).or s.testmode := by
  induction rs generalizing s with
  | nil =>
    cases h
    rfl
  | cons r rs ih =>
    unfold takeOptions at h
    split at h
    · rename_i u hu
      rw [ih u h, takeOption_testmode s u r hu, lastWrite_cons, Option.or_assoc]
    · cases h

/-! ### What is sent -/

def transferOf : UsbCall → Option ControlTransfer
  | .controlTransfer t => some t
  | _ => none

def Outcome.transfers (o : Outcome) : List ControlTransfer := o.calls.filterMap transferOf

def SetsTestMode (t : ControlTransfer) : Prop :=
  t.requestType = LIBUSB_RECIPIENT_DEVICE ||| LIBUSB_REQUEST_TYPE_STANDARD ∧
    t.request = LIBUSB_REQUEST_SET_FEATURE ∧ t.wValue = TEST_MODE

def Outcome.Opened (o : Outcome) : Prop := ∃ vid pid, UsbCall.openDevice vid pid true ∈ o.calls

/-- What a run does with the device it has opened, for the argument of the last
`-t`: a named mode is set with its own selector, and without a name nothing is
sent and the program fails without faulting. -/
structure SetsNamedModeOnly (last : Option CString) (o : Outcome) : Prop where
  sends_iff : (∃ t ∈ o.transfers, SetsTestMode t) ↔ ∃ m ∈ testModes, last = some m.1
  selector : ∀ m ∈ testModes, last = some m.1 →
    ∀ t ∈ o.transfers, SetsTestMode t → t.wIndex = BitVec.ofNat 16 (m.2 <<< 8)
  otherwise : (∀ m ∈ testModes, last ≠ some m.1) → last ≠ some badDescriptor →
    o.transfers = [] ∧ ∃ status, o.ending = .exits status ∧ status < 0

theorem runTest_opened (usb : Usb) (s : Settings) (h : (runTest usb s).Opened) :
    (runTest usb s).transfers = (startTestmode usb s.testmode).1.filterMap transferOf ∧
      (runTest usb s).ending = (startTestmode usb s.testmode).2.elim .faults .exits := by
  unfold runTest at h ⊢
  dsimp only at h ⊢
  split
  · cases hret : (startTestmode usb s.testmode).2 with
    | none => exact ⟨rfl, rfl⟩
    | some ret =>
      refine ⟨?_, rfl⟩
      simp only [Outcome.transfers, List.filterMap_append, List.filterMap_cons, transferOf,
        List.filterMap_nil, List.append_nil, List.cons_append]
  · rename_i hno
    rw [if_neg hno] at h
    obtain ⟨vid, pid, hc⟩ := h
    simp at hc

/-- An opened device: the options were accepted, and the test of the last `-t`
was started on it. -/
theorem main_opened (usb : Usb) (argv : List CString) (h : (main usb argv).Opened) :
    (main usb argv).transfers = (startTestmode usb (lastTest argv)).1.filterMap transferOf ∧
      (main usb argv).ending = (startTestmode usb (lastTest argv)).2.elim .faults .exits := by
  have hempty (e : Ending) : ¬ (⟨[], e⟩ : Outcome).Opened := by
    rintro ⟨vid, pid, hc⟩
    cases hc
  unfold main at h ⊢
  split at h
  · exact absurd h (hempty _)
  · rename_i hargc
    rw [if_neg hargc]
    cases ho : takeOptions Settings.initial (getoptLong testmodeOpts argv.tail) with
    | error e =>
      rw [ho] at h
      exact absurd h (hempty e)
    | ok s =>
      rw [ho] at h
      have hlast:=takeOptions_testmode Settings.initial s _ ho
      rw [show lastTest argv = s.testmode from (hlast.trans (Option.or_none ..)).symm]
      exact runTest_opened usb s h

theorem doTest_transfers (usb : Usb) (test : ℕ) :
    (doTest usb test).1.filterMap transferOf =
      [if test = TEST_BAD_DESCRIPTOR then getDescriptor 0xcc 0 1024 else setTestMode test] := by
  unfold doTest badDescriptorTest
  split
  · dsimp only
    split
    · rfl
    · split <;> rfl
  · rfl

theorem setsNamedModeOnly_mode (m : CString × ℕ) (hm : m ∈ testModes) (o : Outcome)
    (ht : o.transfers = [setTestMode m.2]) : SetsNamedModeOnly (some m.1) o := by
  refine ⟨iff_of_true ⟨setTestMode m.2, ?_, rfl, rfl, rfl⟩ ⟨m, hm, rfl⟩, ?_, ?_⟩
  · rw [ht]
    exact List.mem_singleton.mpr rfl
  · intro m' hm' hname t hmem _
    have hpre : m.1 <+: m'.1 := Option.some.inj hname ▸ List.prefix_rfl
    rw [ht, List.mem_singleton] at hmem
    rw [hmem, names_apart m (List.mem_append_left _ hm) m' (List.mem_append_left _ hm') hpre]
    rfl
  · exact fun hno => absurd rfl (hno m hm)

theorem setsNamedModeOnly_badDescriptor (o : Outcome)
    (ht : o.transfers = [getDescriptor 0xcc 0 1024]) :
    SetsNamedModeOnly (some badDescriptor) o := by
  have hother : ∀ m ∈ testModes, badDescriptor ≠ m.1 := by decide
  refine ⟨iff_of_false ?_ ?_, ?_, ?_⟩
  · rintro ⟨t, hmem, hsets⟩
    rw [ht, List.mem_singleton] at hmem
    rw [hmem] at hsets
    exact absurd hsets.2.1 (by decide)
  · rintro ⟨m, hm, hname⟩
    exact hother m hm (Option.some.inj hname)
  · exact fun m hm hname => absurd (Option.some.inj hname) (hother m hm)
  · exact fun _ hno => absurd rfl hno

/-- An opened device is treated as the arguments say exactly if the last `-t` is
one of the seven names as a whole. -/
theorem sets_named_mode_only_iff (usb : Usb) (argv : List CString) (h : (main usb argv).Opened) :
    SetsNamedModeOnly (lastTest argv) (main usb argv) ↔ ∃ m ∈ names, lastTest argv = some m.1 := by
  obtain ⟨htransfers, hending⟩ := main_opened usb argv h
  cases hl : lastTest argv with
  | none =>
    rw [hl] at hending
    refine ⟨?_, nofun⟩
    intro hset
    obtain ⟨_, status, hstatus, _⟩ := hset.otherwise nofun nofun
    exact absurd (hending.symm.trans hstatus) nofun
  | some testmode =>
    rw [hl, startTestmode, doTest_transfers] at htransfers
    constructor
    · intro hset
      by_contra hno
      have hmodes (m : CString × ℕ) (hm : m ∈ names) : some testmode ≠ some m.1 :=
        fun he => hno ⟨m, hm, he⟩
      have hnone:=(hset.otherwise (fun m hm => hmodes m (List.mem_append_left _ hm))
        (hmodes (badDescriptor, TEST_BAD_DESCRIPTOR) (List.mem_append_right _ (by decide)))).1
      rw [htransfers] at hnone
      exact List.cons_ne_nil _ _ hnone
    · rintro ⟨m, hm, hname⟩
      cases hname
      rw [testOf_name m hm] at htransfers
      rcases List.mem_append.mp hm with hmode | hbad
      · have hsel : ∀ m ∈ testModes, m.2 ≠ TEST_BAD_DESCRIPTOR := by decide
        rw [if_neg (hsel m hmode)] at htransfers
        exact setsNamedModeOnly_mode m hmode _ htransfers
      · rw [List.mem_singleton.mp hbad] at htransfers ⊢
        exact setsNamedModeOnly_badDescriptor _ htransfers

def obliging : Usb := ⟨fun _ _ => true, fun _ => 0, 0, 0⟩

theorem sets_named_mode_only_iff_test_k :
    SetsNamedModeOnly (lastTest (["testmode", "-D", "1:2", "-t", "test_k"].map String.toList))
      (main obliging (["testmode", "-D", "1:2", "-t", "test_k"].map String.toList)) :=
  (sets_named_mode_only_iff obliging (["testmode", "-D", "1:2", "-t", "test_k"].map String.toList)
    ⟨1, 2, by decide⟩).mpr ⟨("test_k".toList, TEST_K), by decide, by decide⟩

/-- A string that is no name at all still sets a test mode, with selector zero. -/
theorem unknown_name_sets_test_mode :
    ¬ ∀ (usb : Usb) (argv : List CString), (main usb argv).Opened →
      SetsNamedModeOnly (lastTest argv) (main usb argv) := by
  intro h
  have hset:=h obliging (["testmode", "-D", "1:2", "-t", "foo"].map String.toList) ⟨1, 2, by decide⟩
  have hsent : (main obliging (["testmode", "-D", "1:2", "-t", "foo"].map String.toList)).transfers =
      [setTestMode 0] := by decide
  have hlast : lastTest (["testmode", "-D", "1:2", "-t", "foo"].map String.toList) =
      some "foo".toList := by decide
  rw [hlast] at hset
  have hnone:=(hset.otherwise (by decide) (by decide)).1
  rw [hsent] at hnone
  exact List.cons_ne_nil _ _ hnone

end BoardServices.Testmode
