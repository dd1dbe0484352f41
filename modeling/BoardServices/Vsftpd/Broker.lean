import BoardServices.Vsftpd.Permitted

/-!
# The privileged parent (vsftpd-3.0.3/postprivparent.c)

After the login the parent serves one request after the other. The process that
asks has handled the commands of a client and is not trusted: the requests here
are whatever bytes and descriptors it may send, it may stop reading the answers,
and the parent may be sent signals.
-/

namespace BoardServices.Vsftpd
open Lib.Process

structure Parent where
  sock : Sock
  view : View

abbrev Broker := ExceptT Ending (StateM Parent)

def atSock : Lens Parent Sock := ⟨Parent.sock, fun s p => { p with sock := s }⟩
def atView : Lens Parent View := ⟨Parent.view, fun v p => { p with view := v }⟩

section Runs
variable {α : Type} {s t : Sock} {v w : View}

theorem atSock_ok {m : Messages α} {a : α} (h : m s = (.ok a, t)) :
    within atSock m ⟨s, v⟩ = (.ok a, ⟨t, v⟩) := within_ok h

theorem atView_ok {m : Priv α} {a : α} (h : m v = (.ok a, w)) :
    within atView m ⟨s, v⟩ = (.ok a, ⟨s, w⟩) := within_ok h

theorem atView_error {m : Priv α} {e : Ending} (h : m v = (.error e, w)) :
    within atView m ⟨s, v⟩ = (.error e, ⟨s, w⟩) := within_error h

end Runs

section Requests
variable (peer : Peer) (sys : System) (cfg : Config)

def cmdProcessChown : Broker Unit := do
  let theFd ← within atSock privSockRecvFd
  within atView (received theFd)
  within atView (vsfPrivopDoFileChown sys cfg theFd)
  within atView (sysClose theFd)
  within atSock (privSockSendResult peer PRIV_SOCK_RESULT_OK)

def cmdProcessGetDataSock : Broker Unit := do
  let port := toUnsigned (← within atSock (privSockGetInt peer)) % 2 ^ 16
  let sockFd ← within atView (vsfPrivopGetFtpPortSock sys cfg port none)
  if sockFd = -1 then within atSock (privSockSendResult peer PRIV_SOCK_RESULT_BAD)
  else do
    within atSock (privSockSendResult peer PRIV_SOCK_RESULT_OK)
    within atSock (privSockSendFd peer sockFd)
    within atView (sysClose sockFd)

def cmdProcessPasvCleanup : Broker Unit := do
  within atView vsfPrivopPasvCleanup
  within atSock (privSockSendResult peer PRIV_SOCK_RESULT_OK)

def cmdProcessPasvActive : Broker Unit := do
  let active ← within atView vsfPrivopPasvActive
  within atSock (privSockSendInt peer active)

def cmdProcessPasvListen : Broker Unit := do
  let port ← within atView (vsfPrivopPasvListen sys cfg)
  within atSock (privSockSendInt peer port)

def cmdProcessPasvAccept : Broker Unit := do
  let fd ← within atView (vsfPrivopAcceptPasv sys cfg)
  if fd < 0 then do
    within atSock (privSockSendResult peer PRIV_SOCK_RESULT_BAD)
    within atSock (privSockSendInt peer fd)
  else do
    within atSock (privSockSendResult peer PRIV_SOCK_RESULT_OK)
    within atSock (privSockSendFd peer fd)
    within atView (sysClose fd)

def processPostLoginReq : Broker Unit := do
  let cmd ← within atSock (privSockGetCmd peer)
  if cfg.chownUploads ∧ cmd = PRIV_SOCK_CHOWN then cmdProcessChown peer sys cfg
  else if cmd = PRIV_SOCK_GET_DATA_SOCK then cmdProcessGetDataSock peer sys cfg
  else if cmd = PRIV_SOCK_PASV_CLEANUP then cmdProcessPasvCleanup peer
  else if cmd = PRIV_SOCK_PASV_ACTIVE then cmdProcessPasvActive peer
  else if cmd = PRIV_SOCK_PASV_LISTEN then cmdProcessPasvListen peer sys cfg
  else if cmd = PRIV_SOCK_PASV_ACCEPT then cmdProcessPasvAccept peer sys cfg
  else throw (.died "bad request in process_post_login_req")

end Requests

/-- The addresses the parent connects to. -/
def client (cfg : Config) (a : Addr) : Prop := a = cfg.remoteAddr

def BrokerEnds (e : Ending) : Prop :=
  Refused e ∨ Interrupted e ∨
    ∃ message ∈ ["priv_sock_get_cmd", "priv_sock_get_int", "recvmsg", "no passed fd",
      "bad request in process_post_login_req", "listed fd is active?", "Illegal port request",
      "listed fd already active", "listed fd not active", "invalid fd in cmd_process_chown",
      "priv_sock_send_result", "priv_sock_send_int", "sendmsg"], e = .died message

section Invariant
variable (sys : System) (cfg : Config)

/-- What holds of the parent whenever it ends. -/
structure Confined (p : Parent) : Prop where
  orderly : Orderly sys cfg (client cfg) p.view.log
  handedOver : ∀ fd, .passed fd ∈ p.sock.outbox → ToClient sys cfg (client cfg) p.view.log fd

/-- What holds between two requests. -/
structure Waiting (p : Parent) : Prop extends Confined sys cfg p where
  fds : p.view.fds = listenFds p.view.pasvListenFd
  listening : p.view.pasvListenFd ≠ -1 → Listening sys p.view.log p.view.pasvListenFd

def Served : Except Ending Unit × Parent → Prop
  | (.ok _, p) => Waiting sys cfg p
  | (.error e, p) => Confined sys cfg p ∧ BrokerEnds e

end Invariant

section Proofs
variable {peer : Peer} {sys : System} {cfg : Config} {p : Parent} {s : Sock} {v : View}

/-- Whatever is taken from the inbox, and whatever calls are made that are in order. -/
theorem Confined.logged (h : Confined sys cfg ⟨s, v⟩) {log : List SysCall} {inbox : List Item}
    {F : Multiset Fd} {l : Fd} (hg : Grows sys cfg (client cfg) v.log log) :
    Confined sys cfg ⟨⟨inbox, s.outbox⟩, ⟨log, F, l⟩⟩ :=
  ⟨hg.orderly h.orderly, fun fd hfd => (h.handedOver fd hfd).mono hg.start⟩

theorem BrokerEnds.for {log log' : List SysCall} {blame : Ending → Prop} {e : Ending}
    (h : EndsFor sys cfg (client cfg) log blame e log') (hb : blame e → BrokerEnds e) :
    BrokerEnds e := by
  rcases h.2 with hr | hblame
  · exact Or.inl hr
  · exact hb hblame

theorem BrokerEnds.message {m : String} (h : BrokerEnds (.died m)) {e : Ending}
    (he : e = .died m ∨ Interrupted e) : BrokerEnds e := by
  rcases he with rfl | hsignal
  · exact h
  · exact Or.inr (Or.inl hsignal)

theorem Served.stopped {α : Type} {m : Broker α} {f : α → Broker Unit} {s : Sock} {v : View}
    (h : Confined sys cfg ⟨s, v⟩) {e : Ending} {inbox : List Item} {log : List SysCall}
    {F : Multiset Fd} {l : Fd} {blame : Ending → Prop}
    (hrun : m ⟨s, v⟩ = (.error e, ⟨⟨inbox, s.outbox⟩, ⟨log, F, l⟩⟩))
    (he : EndsFor sys cfg (client cfg) v.log blame e log) (hb : blame e → BrokerEnds e) :
    Served sys cfg ((m >>= f) ⟨s, v⟩) := by
  rw [bind_error hrun]
  exact ⟨h.logged he.1, BrokerEnds.for he hb⟩

end Proofs

end BoardServices.Vsftpd
