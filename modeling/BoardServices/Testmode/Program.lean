import BoardServices.Lib.CommandLine

/-!
# The program testmode (testmode.c:37-123, 144-210)

The program is a function of its arguments and of what libusb answers; its
result is the list of the calls that touch a device and how it ends.
-/

namespace BoardServices.Testmode
open Lib.Strings Lib.CommandLine

def TEST_MODE : BitVec 16 := 0x02

def TEST_J : ℕ := 0x01
def TEST_K : ℕ := 0x02
def TEST_SE0_NAK : ℕ := 0x03
def TEST_PACKET : ℕ := 0x04
def TEST_FORCE_HS : ℕ := 0xc0
def TEST_FORCE_FS : ℕ := 0xc1
def TEST_BAD_DESCRIPTOR : ℕ := 0xff

def EINVAL : ℤ := 22
def ENODEV : ℤ := 19

/-- The name that `OPTION` makes of a string literal: `#n` keeps its quotation marks. -/
def optionName (n : String) : CString := '"' :: n.toList ++ ['"']

/-- `testmode_opts` and the option string `"t:D:dh"`. -/
def testmodeOpts : List OptionSpec :=
  [⟨'d', optionName "debug", false⟩, ⟨'h', optionName "help", false⟩, ⟨'t', optionName "test", true⟩,
    ⟨'D', optionName "device", true⟩]

-- only with the quotation marks is a long option known
example : getoptLong testmodeOpts ["--test=test_k".toList] = [.invalid] := by decide

example : getoptLong testmodeOpts [['-', '-'] ++ optionName "test" ++ "=test_k".toList] =
    [.value 't' "test_k".toList] := by decide

/-! ### libusb -/

structure ControlTransfer where
  requestType : BitVec 8
  request : BitVec 8
  wValue : BitVec 16
  wIndex : BitVec 16
  wLength : BitVec 16
  timeout : ℕ
  deriving DecidableEq, Repr

inductive UsbCall where
  | openDevice (vid pid : BitVec 16) (found : Bool)
  | controlTransfer (t : ControlTransfer)
  | getDeviceDescriptor
  | resetDevice
  | close
  | exitContext
  deriving DecidableEq, Repr

structure Usb where
  finds : BitVec 16 → BitVec 16 → Bool
  control : ControlTransfer → ℤ
  deviceDescriptor : ℤ
  reset : ℤ

def LIBUSB_ENDPOINT_IN : BitVec 8 := 0x80
def LIBUSB_REQUEST_SET_FEATURE : BitVec 8 := 0x03
def LIBUSB_REQUEST_GET_DESCRIPTOR : BitVec 8 := 0x06
def LIBUSB_RECIPIENT_DEVICE : BitVec 8 := 0x00
def LIBUSB_REQUEST_TYPE_STANDARD : BitVec 8 := 0x00

def getDescriptor (descType descIndex : BitVec 8) (length : ℕ) : ControlTransfer :=
  ⟨LIBUSB_ENDPOINT_IN, LIBUSB_REQUEST_GET_DESCRIPTOR,
    (descType.setWidth 16 <<< 8) ||| descIndex.setWidth 16, 0, BitVec.ofNat 16 length, 1000⟩

/-! ### The tests -/

def badDescriptorTest (usb : Usb) : List UsbCall × ℤ :=
  let transfer := getDescriptor 0xcc 0 1024
  if usb.control transfer ≥ 0 then ([.controlTransfer transfer], -EINVAL)
  else if usb.deviceDescriptor < 0 then
    ([.controlTransfer transfer, .getDeviceDescriptor], usb.deviceDescriptor)
  else ([.controlTransfer transfer, .getDeviceDescriptor, .resetDevice], usb.reset)

def setTestMode (test : ℕ) : ControlTransfer :=
  ⟨LIBUSB_RECIPIENT_DEVICE ||| LIBUSB_REQUEST_TYPE_STANDARD, LIBUSB_REQUEST_SET_FEATURE, TEST_MODE,
    BitVec.ofNat 16 (test <<< 8), 0, 2000⟩

def doTest (usb : Usb) (test : ℕ) : List UsbCall × ℤ :=
  if test = TEST_BAD_DESCRIPTOR then badDescriptorTest usb
  else ([.controlTransfer (setTestMode test)], usb.control (setTestMode test))

/-- The comparisons of `start_testmode`, each of which may override the ones
before it. -/
def testOf (testmode : CString) : ℕ :=
  let test := 0
  let test := if strncmp testmode "test_j".toList 6 = 0 then TEST_J else test
  let test := if strncmp testmode "test_k".toList 6 = 0 then TEST_K else test
  let test := if strncmp testmode "test_se0_nak".toList 12 = 0 then TEST_SE0_NAK else test
  let test := if strncmp testmode "test_packet".toList 11 = 0 then TEST_PACKET else test
  let test := if strncmp testmode "test_force_hs".toList 13 = 0 then TEST_FORCE_HS else test
  let test := if strncmp testmode "test_force_fs".toList 13 = 0 then TEST_FORCE_FS else test
  if strncmp testmode "bad_descriptor".toList 14 = 0 then TEST_BAD_DESCRIPTOR else test

/-- `start_testmode`; with a null pointer the first comparison faults. -/
def startTestmode (usb : Usb) : Option CString → List UsbCall × Option ℤ
  | none => ([], none)
  | some testmode => ((doTest usb (testOf testmode)).1, some (doTest usb (testOf testmode)).2)

/-! ### main -/

structure Settings where
  testmode : Option CString
  vid : BitVec 32
  pid : BitVec 32
  deriving DecidableEq

def Settings.initial : Settings := ⟨none, 0, 0⟩

inductive Ending where
  | exits (status : ℤ)
  | faults
  deriving DecidableEq, Repr

structure Outcome where
  calls : List UsbCall
  ending : Ending
  deriving DecidableEq

/-- The two numerals of `-D`; `strtoul` of a null pointer faults. -/
def deviceIds (optarg : CString) : Option (BitVec 32 × BitVec 32) :=
  (strtok optarg ':').bind fun first =>
    (strtok first.2 ':').map fun second => (strtoul16 first.1, strtoul16 second.1)

def takeOption (s : Settings) : OptResult → Except Ending Settings
  | .value 't' optarg => .ok { s with testmode := some optarg }
  | .value 'D' optarg =>
    match deviceIds optarg with
    | some ids => .ok { s with vid := ids.1, pid := ids.2 }
    | none => .error .faults
  | .flag 'd' => .ok s
  | _ => .error (.exits (-1))

def takeOptions : Settings → List OptResult → Except Ending Settings
  | s, [] => .ok s
  | s, r :: rs =>
    match takeOption s r with
    | .ok s' => takeOptions s' rs
    | .error e => .error e

/-- The part of `main` behind the option loop. The two ids are narrowed to 16
bits by the call. -/
def runTest (usb : Usb) (s : Settings) : Outcome :=
  let vid := s.vid.setWidth 16
  let pid := s.pid.setWidth 16
  if usb.finds vid pid then
    let started := startTestmode usb s.testmode
    match started.2 with
    | some ret => ⟨.openDevice vid pid true :: started.1 ++ [.close, .exitContext], .exits ret⟩
    | none => ⟨.openDevice vid pid true :: started.1, .faults⟩
  else ⟨[.openDevice vid pid false, .exitContext], .exits (-ENODEV)⟩

def main (usb : Usb) (argv : List CString) : Outcome :=
  if argv.length < 2 then ⟨[], .exits (-1)⟩
  else
    match takeOptions Settings.initial (getoptLong testmodeOpts argv.tail) with
    | .ok s => runTest usb s
    | .error e => ⟨[], e⟩

end BoardServices.Testmode
