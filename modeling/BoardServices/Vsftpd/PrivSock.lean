import BoardServices.Lib.SideBySide
import BoardServices.Vsftpd.Str

/-!
# Messages between the processes (vsftpd-3.0.3/privsock.c, twoprocess.c)

The two processes of a session talk over a pair of stream sockets, which carry
bytes and descriptors. A descriptor travels with one byte. Where the stream has
ended a read returns what there is; how much of a write is taken is up to the
other end, which may be gone. A signal that has come meanwhile is looked at when
a read or a write returns, and its handler ends the process.
-/

namespace BoardServices.Vsftpd
open Lib.Process

/-- How a process ends: through `die()`, `bug()` or `vsf_sysutil_exit()`, or by
an access that the C code must not make. -/
inductive Ending
  | died (message : String)
  | bug (message : String)
  | exits (status : ℕ)
  | faults
deriving DecidableEq, Repr

/-- A descriptor, by the open file it stands for in whatever process; -1 is none. -/
abbrev Fd := ℤ

theorem ne_none_of_nonneg {fd : Fd} (h : 0 ≤ fd) : fd ≠ -1 := by
  rintro rfl
  exact absurd h (by decide)

inductive Item
  | byte (b : UInt8)
  | passed (fd : Fd)
deriving DecidableEq, Repr

/-- `read()` loses a descriptor that it comes across. -/
def Item.toByte : Item → UInt8
  | .byte b => b
  | .passed _ => 0

/-- One end of the pair. -/
structure Sock where
  inbox : List Item
  outbox : List Item
deriving DecidableEq, Repr

abbrev Messages := ExceptT Ending (StateM Sock)

/-! ### The handlers of the parent (twoprocess.c) -/

/-- What `wait()` tells of the child. -/
inductive Waited
  | failed
  | exitedNormally
  | otherwise
deriving DecidableEq, Repr

inductive Signal
  | sigchld (waited : Waited)
  | sigterm
deriving DecidableEq, Repr

/-- `handle_sigchld` -/
def Waited.handleSigchld : Waited → Ending
  | .failed => .died "waiting for child"
  | .otherwise => .died "child died"
  | .exitedNormally => .exits 0

/-- The connection to the client is shut down before. -/
def handleSigterm : Ending := .exits 1

/-- The other end, and who else has to do with the process: how many bytes of a
write are taken, and whether a signal has come when a call returns. -/
structure Peer where
  takes : Sock → ℕ → ℕ
  signal : Sock → Option Signal

/-- The other end waits for what is sent, and no signal comes. -/
def alive : Peer := ⟨fun _ size => size, fun _ => none⟩

/-- No handler is installed for `SIGCHLD`. -/
def Peer.withoutSigchld (peer : Peer) : Peer :=
  { peer with signal := fun s => (peer.signal s).filter (· = .sigterm) }

def checkPendingActions (peer : Peer) : Messages Unit := do
  match peer.signal (← get) with
  | none => return ()
  | some (.sigchld waited) => throw waited.handleSigchld
  | some .sigterm => throw handleSigterm

/-! ### privsock.c -/

def privSockMaxstr : ℕ := 65536 * 2

def PRIV_SOCK_LOGIN : UInt8 := 1
def PRIV_SOCK_CHOWN : UInt8 := 2
def PRIV_SOCK_GET_DATA_SOCK : UInt8 := 3
def PRIV_SOCK_PASV_CLEANUP : UInt8 := 10
def PRIV_SOCK_PASV_ACTIVE : UInt8 := 11
def PRIV_SOCK_PASV_LISTEN : UInt8 := 12
def PRIV_SOCK_PASV_ACCEPT : UInt8 := 13
def PRIV_SOCK_RESULT_OK : UInt8 := 1
def PRIV_SOCK_RESULT_BAD : UInt8 := 2

def readLoop (peer : Peer) (size : ℕ) : Messages (List UInt8) := do
  let s ← get
  set (Sock.mk (s.inbox.drop size) s.outbox)
  checkPendingActions peer
  return (s.inbox.take size).map Item.toByte

def writeLoop (peer : Peer) (buf : List UInt8) : Messages ℕ := do
  let s ← get
  let written := min (peer.takes s buf.length) buf.length
  set (Sock.mk s.inbox (s.outbox ++ (buf.take written).map Item.byte))
  checkPendingActions peer
  return written

/-- The body of `priv_sock_send_cmd`, `priv_sock_send_result` and `priv_sock_send_int`. -/
def sendBytes (peer : Peer) (message : String) (buf : List UInt8) : Messages Unit := do
  let retval ← writeLoop peer buf
  if retval ≠ buf.length then throw (.died message)

/-- The body of `priv_sock_get_cmd` and `priv_sock_get_result`. -/
def getChar (peer : Peer) (message : String) : Messages UInt8 := do
  match ← readLoop peer 1 with
  | [res] => return res
  | _ => throw (.died message)

def privSockGetCmd (peer : Peer) : Messages UInt8 := getChar peer "priv_sock_get_cmd"
def privSockGetResult (peer : Peer) : Messages UInt8 := getChar peer "priv_sock_get_result"

def privSockSendCmd (peer : Peer) (cmd : UInt8) : Messages Unit :=
  sendBytes peer "priv_sock_send_cmd" [cmd]

def privSockSendResult (peer : Peer) (res : UInt8) : Messages Unit :=
  sendBytes peer "priv_sock_send_result" [res]

/-- The bytes of an `int` in memory, and the value of such bytes. -/
def intBytes (v : ℤ) : List UInt8 :=
  let n := (v % 2 ^ 32).toNat
  [UInt8.ofNat n, UInt8.ofNat (n / 256), UInt8.ofNat (n / 65536), UInt8.ofNat (n / 16777216)]

def toUnsigned (v : ℤ) : ℕ := (v % 2 ^ 32).toNat

def toInt (n : ℕ) : ℤ := if n < 2 ^ 31 then n else n - 2 ^ 32

def privSockSendInt (peer : Peer) (v : ℤ) : Messages Unit :=
  sendBytes peer "priv_sock_send_int" (intBytes v)

def privSockGetInt (peer : Peer) : Messages ℤ := do
  match ← readLoop peer 4 with
  | [a, b, c, d] =>
    return toInt (a.toNat + 256 * b.toNat + 65536 * c.toNat + 16777216 * d.toNat)
  | _ => throw (.died "priv_sock_get_int")

/-- The result of `str_netfd_write` is not looked at. -/
def privSockSendStr (peer : Peer) (str : MyStr) : Messages Unit := do
  privSockSendInt peer str.length
  if str.length > 0 then discard (writeLoop peer str)

def privSockGetStr (peer : Peer) : Messages MyStr := do
  let len := toUnsigned (← privSockGetInt peer)
  if len > privSockMaxstr then throw (.died "priv_sock_get_str: too big")
  if len > 0 then do
    let str ← readLoop peer len
    if str.length ≠ len then throw (.died "priv_sock_get_str: read error")
    return str
  else return []

def privSockSendFd (peer : Peer) (fd : Fd) : Messages Unit := do
  let s ← get
  if peer.takes s 1 = 0 then throw (.died "sendmsg")
  else set (Sock.mk s.inbox (s.outbox ++ [Item.passed fd]))

def privSockRecvFd : Messages Fd := do
  let s ← get
  match s.inbox with
  | [] => throw (.died "recvmsg")
  | .byte _ :: rest => do
    set { s with inbox := rest }
    throw (.died "no passed fd")
  | .passed fd :: rest => do
    set { s with inbox := rest }
    if fd = -1 then throw (.died "no passed fd")
    return fd

/-! ### What was sent is received -/

section Received
variable {rest out : List Item}

def intItems (v : ℤ) : List Item := (intBytes v).map .byte

theorem readLoop_run (size : ℕ) (s : Sock) :
    readLoop alive size s =
      (.ok ((s.inbox.take size).map Item.toByte), ⟨s.inbox.drop size, s.outbox⟩) := rfl

theorem writeLoop_run (buf : List UInt8) (s : Sock) :
    writeLoop alive buf s = (.ok buf.length, ⟨s.inbox, s.outbox ++ buf.map .byte⟩) := by
  have hwrite : writeLoop alive buf s = (.ok (min buf.length buf.length),
      ⟨s.inbox, s.outbox ++ (buf.take (min buf.length buf.length)).map .byte⟩) := rfl
  rw [hwrite, Nat.min_self, List.take_length]

theorem sendBytes_run (message : String) (buf : List UInt8) (s : Sock) :
    sendBytes alive message buf s = (.ok (), ⟨s.inbox, s.outbox ++ buf.map .byte⟩) := by
  unfold sendBytes
  rw [bind_ok (writeLoop_run buf s), if_neg (not_not.mpr rfl)]
  rfl

theorem sendCmd_run (cmd : UInt8) (s : Sock) :
    privSockSendCmd alive cmd s = (.ok (), ⟨s.inbox, s.outbox ++ [.byte cmd]⟩) := sendBytes_run _ _ s

theorem sendResult_run (res : UInt8) (s : Sock) :
    privSockSendResult alive res s = (.ok (), ⟨s.inbox, s.outbox ++ [.byte res]⟩) := sendBytes_run _ _ s

theorem sendInt_run (v : ℤ) (s : Sock) :
    privSockSendInt alive v s = (.ok (), ⟨s.inbox, s.outbox ++ intItems v⟩) := sendBytes_run _ _ s

theorem sendFd_run (fd : Fd) (s : Sock) :
    privSockSendFd alive fd s = (.ok (), ⟨s.inbox, s.outbox ++ [.passed fd]⟩) := rfl

theorem getChar_run (message : String) (b : UInt8) :
    getChar alive message ⟨.byte b :: rest, out⟩ = (.ok b, ⟨rest, out⟩) := rfl

theorem recvFd_run {fd : Fd} (h : fd ≠ -1) :
    privSockRecvFd ⟨.passed fd :: rest, out⟩ = (.ok fd, ⟨rest, out⟩) := by
  unfold privSockRecvFd
  rw [bind_ok (get_run _)]
  simp only [h, if_false]
  rfl

theorem toInt_bytes (v : ℤ) (hlo : -2 ^ 31 ≤ v) (hhi : v < 2 ^ 31) :
    toInt ((v % 2 ^ 32).toNat % 256 + 256 * ((v % 2 ^ 32).toNat / 256 % 256) +
      65536 * ((v % 2 ^ 32).toNat / 65536 % 256) +
      16777216 * ((v % 2 ^ 32).toNat / 16777216 % 256)) = v := by
  obtain ⟨n, hn⟩ : ∃ n, (v % 2 ^ 32).toNat = n := ⟨_, rfl⟩
  have hsum : n % 256 + 256 * (n / 256 % 256) + 65536 * (n / 65536 % 256) +
      16777216 * (n / 16777216 % 256) = n := by omega
  rw [hn, hsum, toInt]
  split <;> omega

theorem getInt_run {v : ℤ} (hlo : -2 ^ 31 ≤ v) (hhi : v < 2 ^ 31) :
    privSockGetInt alive ⟨intItems v ++ rest, out⟩ = (.ok v, ⟨rest, out⟩) := by
  have hread : readLoop alive 4 ⟨intItems v ++ rest, out⟩ = (.ok (intBytes v), ⟨rest, out⟩) := rfl
  unfold privSockGetInt
  rw [bind_ok hread]
  have hvalue:=toInt_bytes v hlo hhi
  simp only [intBytes, UInt8.toNat_ofNat']
  rw [show (2 : ℕ) ^ 8 = 256 from rfl, hvalue]
  rfl

theorem toUnsigned_natCast {n : ℕ} (h : n < 2 ^ 32) : toUnsigned n = n := by
  unfold toUnsigned
  omega

def strItems (str : MyStr) : List Item := intItems str.length ++ str.map .byte

theorem sendStr_run (str : MyStr) (s : Sock) :
    privSockSendStr alive str s = (.ok (), ⟨s.inbox, s.outbox ++ strItems str⟩) := by
  unfold privSockSendStr
  rw [bind_ok (sendInt_run _ _)]
  by_cases h : str.length > 0
  · rw [if_pos h, strItems, ← List.append_assoc]
    exact bind_ok (writeLoop_run str ⟨s.inbox, s.outbox ++ intItems str.length⟩)
  · have hnil : str = [] := List.eq_nil_of_length_eq_zero (by omega)
    rw [if_neg h, hnil]
    simp only [strItems, List.map_nil, List.append_nil]
    rfl

theorem getStr_run {str : MyStr} (h : str.length ≤ privSockMaxstr) :
    privSockGetStr alive ⟨strItems str ++ rest, out⟩ = (.ok str, ⟨rest, out⟩) := by
  have hmax : privSockMaxstr = 131072 := rfl
  unfold privSockGetStr
  rw [strItems, List.append_assoc, bind_ok (getInt_run (by omega) (by omega))]
  rw [toUnsigned_natCast (by omega), if_neg (by omega)]
  by_cases hpos : str.length > 0
  · have hread : readLoop alive str.length ⟨str.map .byte ++ rest, out⟩ = (.ok str, ⟨rest, out⟩) := by
      rw [readLoop_run, List.take_left' (by simp), List.drop_left' (by simp), List.map_map]
      simp [Function.comp_def, Item.toByte]
    change (if str.length > 0 then _ else _ : Messages MyStr) _ = _
    rw [if_pos hpos, bind_ok hread, if_neg (by simp)]
    rfl
  · have hnil : str = [] := List.eq_nil_of_length_eq_zero (by omega)
    subst hnil
    rfl

end Received

/-! ### Whatever the other end does -/

/-- The handlers that the parent has installed end it so. -/
def Interrupted (e : Ending) : Prop :=
  e = .died "waiting for child" ∨ e = .died "child died" ∨ e = .exits 0 ∨ e = .exits 1

section Any
variable (peer : Peer) (s : Sock)

theorem checkPendingActions_cases :
    checkPendingActions peer s = (.ok (), s) ∨
      ∃ e, Interrupted e ∧ checkPendingActions peer s = (.error e, s) := by
  unfold checkPendingActions
  rw [bind_ok (get_run s)]
  cases peer.signal s with
  | none => exact Or.inl rfl
  | some sig =>
    cases sig with
    | sigterm => exact Or.inr ⟨.exits 1, Or.inr (Or.inr (Or.inr rfl)), rfl⟩
    | sigchld waited =>
      cases waited with
      | failed => exact Or.inr ⟨_, Or.inl rfl, rfl⟩
      | otherwise => exact Or.inr ⟨_, Or.inr (Or.inl rfl), rfl⟩
      | exitedNormally => exact Or.inr ⟨_, Or.inr (Or.inr (Or.inl rfl)), rfl⟩

theorem readLoop_cases (size : ℕ) :
    readLoop peer size s =
        (.ok ((s.inbox.take size).map Item.toByte), ⟨s.inbox.drop size, s.outbox⟩) ∨
      ∃ e, Interrupted e ∧ readLoop peer size s = (.error e, ⟨s.inbox.drop size, s.outbox⟩) := by
  have hstart : readLoop peer size s = (do
      checkPendingActions peer
      return (s.inbox.take size).map Item.toByte : Messages (List UInt8))
      ⟨s.inbox.drop size, s.outbox⟩ := rfl
  rw [hstart]
  rcases checkPendingActions_cases peer ⟨s.inbox.drop size, s.outbox⟩ with h | ⟨e, he, h⟩
  · rw [bind_ok h]
    exact Or.inl rfl
  · rw [bind_error h]
    exact Or.inr ⟨e, he, rfl⟩

theorem getChar_cases (message : String) :
    (∃ c inbox, getChar peer message s = (.ok c, ⟨inbox, s.outbox⟩)) ∨
      ∃ e inbox, (e = .died message ∨ Interrupted e) ∧
        getChar peer message s = (.error e, ⟨inbox, s.outbox⟩) := by
  unfold getChar
  rcases readLoop_cases peer s 1 with h | ⟨e, he, h⟩
  · rw [bind_ok h]
    generalize List.map Item.toByte (s.inbox.take 1) = bytes
    rcases bytes with _ | ⟨c, _ | _⟩
    · exact Or.inr ⟨_, _, Or.inl rfl, rfl⟩
    · exact Or.inl ⟨_, _, rfl⟩
    · exact Or.inr ⟨_, _, Or.inl rfl, rfl⟩
  · rw [bind_error h]
    exact Or.inr ⟨e, _, Or.inr he, rfl⟩

theorem getInt_cases :
    (∃ v inbox, privSockGetInt peer s = (.ok v, ⟨inbox, s.outbox⟩)) ∨
      ∃ e inbox, (e = .died "priv_sock_get_int" ∨ Interrupted e) ∧
        privSockGetInt peer s = (.error e, ⟨inbox, s.outbox⟩) := by
  unfold privSockGetInt
  rcases readLoop_cases peer s 4 with h | ⟨e, he, h⟩
  · rw [bind_ok h]
    generalize List.map Item.toByte (s.inbox.take 4) = bytes
    rcases bytes with _ | ⟨a, _ | ⟨b, _ | ⟨c, _ | ⟨d, _ | _⟩⟩⟩⟩
    · exact Or.inr ⟨_, _, Or.inl rfl, rfl⟩
    · exact Or.inr ⟨_, _, Or.inl rfl, rfl⟩
    · exact Or.inr ⟨_, _, Or.inl rfl, rfl⟩
    · exact Or.inr ⟨_, _, Or.inl rfl, rfl⟩
    · exact Or.inl ⟨_, _, rfl⟩
    · exact Or.inr ⟨_, _, Or.inl rfl, rfl⟩
  · rw [bind_error h]
    exact Or.inr ⟨e, _, Or.inr he, rfl⟩

theorem getStr_cases :
    (∃ str inbox, privSockGetStr peer s = (.ok str, ⟨inbox, s.outbox⟩)) ∨
      ∃ e inbox, (Interrupted e ∨ ∃ message ∈ ["priv_sock_get_int", "priv_sock_get_str: too big",
          "priv_sock_get_str: read error"], e = .died message) ∧
        privSockGetStr peer s = (.error e, ⟨inbox, s.outbox⟩) := by
  unfold privSockGetStr
  rcases getInt_cases peer s with ⟨v, inbox, hread⟩ | ⟨e, inbox, he, hread⟩
  · rw [bind_ok hread]
    dsimp only
    by_cases hbig : toUnsigned v > privSockMaxstr
    · rw [if_pos hbig]
      exact Or.inr ⟨_, inbox, Or.inr ⟨_, by simp, rfl⟩, rfl⟩
    rw [if_neg hbig]
    by_cases hpos : toUnsigned v > 0
    · rw [if_pos hpos]
      rcases readLoop_cases peer ⟨inbox, s.outbox⟩ (toUnsigned v) with hstr | ⟨e, he, hstr⟩
      · rw [bind_ok hstr]
        by_cases hlen : ((inbox.take (toUnsigned v)).map Item.toByte).length ≠ toUnsigned v
        · rw [if_pos hlen]
          exact Or.inr ⟨_, _, Or.inr ⟨_, by simp, rfl⟩, rfl⟩
        · rw [if_neg hlen]
          exact Or.inl ⟨_, _, rfl⟩
      · rw [bind_error hstr]
        exact Or.inr ⟨e, _, Or.inl he, rfl⟩
    · rw [if_neg hpos]
      exact Or.inl ⟨_, _, rfl⟩
  · rw [bind_error hread]
    rcases he with rfl | hsignal
    · exact Or.inr ⟨_, inbox, Or.inr ⟨_, by simp, rfl⟩, rfl⟩
    · exact Or.inr ⟨e, inbox, Or.inl hsignal, rfl⟩

/-- A write may stop anywhere, and a signal may have come even where it has not. -/
theorem sendBytes_cases (message : String) (buf : List UInt8) :
    sendBytes peer message buf s = (.ok (), ⟨s.inbox, s.outbox ++ buf.map .byte⟩) ∨
      ∃ e written, (e = .died message ∨ Interrupted e) ∧
        sendBytes peer message buf s = (.error e, ⟨s.inbox, s.outbox ++ (buf.take written).map .byte⟩) := by
  obtain ⟨written, hmin⟩ : ∃ n, min (peer.takes s buf.length) buf.length = n := ⟨_, rfl⟩
  have hstart : writeLoop peer buf s = (do
      checkPendingActions peer
      return written : Messages ℕ) ⟨s.inbox, s.outbox ++ (buf.take written).map .byte⟩ := by
    rw [← hmin]
    rfl
  unfold sendBytes
  rcases checkPendingActions_cases peer ⟨s.inbox, s.outbox ++ (buf.take written).map .byte⟩ with
    h | ⟨e, he, h⟩
  · have hwrite : writeLoop peer buf s =
        (.ok written, ⟨s.inbox, s.outbox ++ (buf.take written).map .byte⟩) := by
      rw [hstart, bind_ok h]
      rfl
    rw [bind_ok hwrite]
    by_cases hall : written = buf.length
    · rw [if_neg (not_not.mpr hall), hall, List.take_length]
      exact Or.inl rfl
    · rw [if_pos hall]
      exact Or.inr ⟨_, written, Or.inl rfl, rfl⟩
  · rw [bind_error (hstart.trans (bind_error h))]
    exact Or.inr ⟨e, written, Or.inr he, rfl⟩

end Any

end BoardServices.Vsftpd
