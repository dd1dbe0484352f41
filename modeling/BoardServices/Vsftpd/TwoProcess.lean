import BoardServices.Vsftpd.DataCommands

/-!
# The two process model does what the one process model does

In the two process model each privileged operation is a request to the parent.
The calls here agree with the direct ones: same value, same calls of the system,
and afterwards nothing is left on the sockets and each descriptor is held by the
process that is to have it.
-/

namespace BoardServices.Vsftpd
open Lib.Process

/-! ### One request and its answer -/

section Requests
variable {sys : System} {cfg : Config} {log log' : List SysCall} {p : Proc} {F F' : Multiset Fd}
  {l l' fd : Fd} {s : Sess} {e : Ending}

/-- The world while a request is under way. -/
def asking (log : List SysCall) (p : Proc) (F : Multiset Fd) (l : Fd) (s : Sess)
    (toParent toChild : List Item) : World := ⟨log, p, ⟨F, l⟩, toParent, toChild, s⟩

theorem atChild_cmd (cmd : UInt8) (i o : List Item) :
    within atChild (privSockSendCmd alive cmd) (asking log p F l s i o) =
      (.ok (), asking log p F l s (i ++ [.byte cmd]) o) :=
  within_ok (L := atChild) (s := asking log p F l s i o) (sendCmd_run cmd ⟨o, i⟩)

theorem atChild_sendInt (v : ℤ) (i o : List Item) :
    within atChild (privSockSendInt alive v) (asking log p F l s i o) =
      (.ok (), asking log p F l s (i ++ intItems v) o) :=
  within_ok (L := atChild) (s := asking log p F l s i o) (sendInt_run v ⟨o, i⟩)

theorem atChild_sendFd (i o : List Item) :
    within atChild (privSockSendFd alive fd) (asking log p F l s i o) =
      (.ok (), asking log p F l s (i ++ [.passed fd]) o) := rfl

theorem atChild_result (b : UInt8) (o : List Item) :
    within atChild (privSockGetResult alive) (asking log p F l s [] (.byte b :: o)) =
      (.ok b, asking log p F l s [] o) := rfl

theorem atChild_int {v : ℤ} (hlo : -2 ^ 31 ≤ v) (hhi : v < 2 ^ 31) :
    within atChild (privSockGetInt alive) (asking log p F l s [] (intItems v)) =
      (.ok v, asking log p F l s [] []) := by
  have hget : privSockGetInt alive ⟨intItems v ++ [], []⟩ = (.ok v, ⟨[], []⟩) := getInt_run hlo hhi
  rw [List.append_nil] at hget
  exact within_ok (L := atChild) (s := asking log p F l s [] (intItems v)) hget

theorem recvFd_passed (h : fd ≠ -1) :
    recvFd (asking log p F l s [] [.passed fd]) =
      (.ok fd, asking log ⟨fd ::ₘ p.fds, p.pasvListenFd⟩ F l s [] []) := by
  have hread : within atChild privSockRecvFd (asking log p F l s [] [.passed fd]) =
      (.ok fd, asking log p F l s [] []) :=
    within_ok (L := atChild) (s := asking log p F l s [] [.passed fd]) (recvFd_run h)
  unfold recvFd
  rw [bind_ok hread]
  rfl

theorem parentServes_run {i o i' o' : List Item} {r : Except Ending Unit}
    (h : processPostLoginReq alive sys cfg ⟨⟨i, o⟩, ⟨log, F, l⟩⟩ = (r, ⟨⟨i', o'⟩, ⟨log', F', l'⟩⟩)) :
    parentServes sys cfg (asking log p F l s i o) = (r, asking log' p F' l' s i' o') := by
  unfold parentServes within
  change ((processPostLoginReq alive sys cfg ⟨⟨i, o⟩, ⟨log, F, l⟩⟩).1,
    inParent.put (processPostLoginReq alive sys cfg ⟨⟨i, o⟩, ⟨log, F, l⟩⟩).2 _) = _
  rw [h]
  rfl

/-- The parent takes the command and goes to its handler. -/
theorem processPostLoginReq_run (cmd : UInt8) (rest o : List Item) (v : View) :
    processPostLoginReq alive sys cfg ⟨⟨.byte cmd :: rest, o⟩, v⟩ =
      (if cfg.chownUploads ∧ cmd = PRIV_SOCK_CHOWN then cmdProcessChown alive sys cfg
      else if cmd = PRIV_SOCK_GET_DATA_SOCK then cmdProcessGetDataSock alive sys cfg
      else if cmd = PRIV_SOCK_PASV_CLEANUP then cmdProcessPasvCleanup alive
      else if cmd = PRIV_SOCK_PASV_ACTIVE then cmdProcessPasvActive alive
      else if cmd = PRIV_SOCK_PASV_LISTEN then cmdProcessPasvListen alive sys cfg
      else if cmd = PRIV_SOCK_PASV_ACCEPT then cmdProcessPasvAccept alive sys cfg
      else throw (.died "bad request in process_post_login_req") : Broker Unit) ⟨⟨rest, o⟩, v⟩ := by
  unfold processPostLoginReq privSockGetCmd
  rw [bind_ok (atSock_ok (getChar_run _ _))]

/-- A request that the parent does not live through. -/
theorem request_dies {α : Type} {i i' o' : List Item} {f : Unit → Ftp α}
    (h : processPostLoginReq alive sys cfg ⟨⟨i, []⟩, ⟨log, F, l⟩⟩ =
      (.error e, ⟨⟨i', o'⟩, ⟨log', F', l'⟩⟩)) :
    (parentServes sys cfg >>= f) (asking log p F l s i []) =
      (.error e, asking log' p F' l' s i' o') := bind_error (parentServes_run h)

theorem twoProcessPasvCleanup_ok (h : vsfPrivopPasvCleanup ⟨log, F, l⟩ = (.ok (), ⟨log', F', l'⟩)) :
    vsfTwoProcessPasvCleanup sys cfg (asking log p F l s [] []) =
      (.ok (), asking log' p F' l' s [] []) := by
  have hserve : processPostLoginReq alive sys cfg ⟨⟨[.byte PRIV_SOCK_PASV_CLEANUP], []⟩, ⟨log, F, l⟩⟩ =
      (.ok (), ⟨⟨[], [.byte PRIV_SOCK_RESULT_OK]⟩, ⟨log', F', l'⟩⟩) := by
    rw [processPostLoginReq_run, if_neg (fun hc => absurd hc.2 (by decide)), if_neg (by decide),
      if_pos rfl, cmdProcessPasvCleanup, bind_ok (atView_ok h)]
    rfl
  unfold vsfTwoProcessPasvCleanup
  rw [bind_ok (atChild_cmd _ _ _), List.nil_append, bind_ok (parentServes_run hserve),
    bind_ok (atChild_result _ _)]
  rfl

theorem twoProcessPasvActive_ok :
    vsfTwoProcessPasvActive sys cfg (asking log p F l s [] []) =
      (.ok (if l ≠ -1 then 1 else 0), asking log p F l s [] []) := by
  have hserve : processPostLoginReq alive sys cfg ⟨⟨[.byte PRIV_SOCK_PASV_ACTIVE], []⟩, ⟨log, F, l⟩⟩ =
      (.ok (), ⟨⟨[], intItems (if l ≠ -1 then 1 else 0)⟩, ⟨log, F, l⟩⟩) := by
    rw [processPostLoginReq_run, if_neg (fun hc => absurd hc.2 (by decide)), if_neg (by decide),
      if_neg (by decide), if_pos rfl]
    rfl
  unfold vsfTwoProcessPasvActive
  rw [bind_ok (atChild_cmd _ _ _), List.nil_append, bind_ok (parentServes_run hserve)]
  exact atChild_int (by split <;> decide) (by split <;> decide)

theorem twoProcessListen_ok {port : ℕ} (hport : port < 2 ^ 16)
    (h : vsfPrivopPasvListen sys cfg ⟨log, F, l⟩ = (.ok port, ⟨log', F', l'⟩)) :
    vsfTwoProcessListen sys cfg (asking log p F l s [] []) =
      (.ok port, asking log' p F' l' s [] []) := by
  have hserve : processPostLoginReq alive sys cfg ⟨⟨[.byte PRIV_SOCK_PASV_LISTEN], []⟩, ⟨log, F, l⟩⟩ =
      (.ok (), ⟨⟨[], intItems port⟩, ⟨log', F', l'⟩⟩) := by
    rw [processPostLoginReq_run, if_neg (fun hc => absurd hc.2 (by decide)), if_neg (by decide),
      if_neg (by decide), if_neg (by decide), if_pos rfl, cmdProcessPasvListen, bind_ok (atView_ok h)]
    rfl
  unfold vsfTwoProcessListen
  rw [bind_ok (atChild_cmd _ _ _), List.nil_append, bind_ok (parentServes_run hserve),
    bind_ok (atChild_int (by omega) (by omega)), toUnsigned_natCast (by omega),
    Nat.mod_eq_of_lt hport]
  rfl

theorem twoProcessListen_dies
    (h : vsfPrivopPasvListen sys cfg ⟨log, F, l⟩ = (.error e, ⟨log', F', l'⟩)) :
    vsfTwoProcessListen sys cfg (asking log p F l s [] []) =
      (.error e, asking log' p F' l' s [] []) := by
  have hserve : processPostLoginReq alive sys cfg ⟨⟨[.byte PRIV_SOCK_PASV_LISTEN], []⟩, ⟨log, F, l⟩⟩ =
      (.error e, ⟨⟨[], []⟩, ⟨log', F', l'⟩⟩) := by
    rw [processPostLoginReq_run, if_neg (fun hc => absurd hc.2 (by decide)), if_neg (by decide),
      if_neg (by decide), if_neg (by decide), if_pos rfl, cmdProcessPasvListen,
      bind_error (atView_error h)]
  unfold vsfTwoProcessListen
  rw [bind_ok (atChild_cmd _ _ _), List.nil_append, request_dies hserve]

/-- The descriptor goes out behind the result, and the parent closes its own. -/
theorem handOver_run {i o : List Item} :
    (do
      within atSock (privSockSendResult alive PRIV_SOCK_RESULT_OK)
      within atSock (privSockSendFd alive fd)
      within atView (sysClose fd) : Broker Unit) ⟨⟨i, o⟩, ⟨log, fd ::ₘ F, l⟩⟩ =
      (.ok (), ⟨⟨i, o ++ [.byte PRIV_SOCK_RESULT_OK] ++ [.passed fd]⟩, ⟨log, F, l⟩⟩) := by
  rw [bind_ok (atSock_ok (sendResult_run _ _)), bind_ok (atSock_ok (sendFd_run fd _)),
    atView_ok (sysClose_run F)]

theorem portSockaddr_run {a : SockAddr} (ha : s.portSockaddr = some a) :
    portSockaddr (asking log p F l s [] []) = (.ok a, asking log p F l s [] []) := by
  have hsess : session (asking log p F l s [] []) = (.ok s, asking log p F l s [] []) := rfl
  unfold portSockaddr
  rw [bind_ok hsess, ha]
  rfl

section DataSock
variable {a : SockAddr}

variable (sys cfg log F l) in
/-- What the parent makes of the port. -/
theorem cmdProcessGetDataSock_reads (hport : a.port < 2 ^ 16) :
    processPostLoginReq alive sys cfg
        ⟨⟨[.byte PRIV_SOCK_GET_DATA_SOCK] ++ intItems a.port, []⟩, ⟨log, F, l⟩⟩ =
      (do
        let sockFd ← within atView (vsfPrivopGetFtpPortSock sys cfg a.port none)
        if sockFd = -1 then within atSock (privSockSendResult alive PRIV_SOCK_RESULT_BAD)
        else do
          within atSock (privSockSendResult alive PRIV_SOCK_RESULT_OK)
          within atSock (privSockSendFd alive sockFd)
          within atView (sysClose sockFd) : Broker Unit) ⟨⟨[], []⟩, ⟨log, F, l⟩⟩ := by
  have hint : privSockGetInt alive ⟨intItems a.port ++ [], []⟩ = (.ok (a.port : ℤ), ⟨[], []⟩) :=
    getInt_run (by omega) (by omega)
  rw [List.append_nil] at hint
  rw [List.singleton_append, processPostLoginReq_run, if_neg (fun hc => absurd hc.2 (by decide)),
    if_pos rfl, cmdProcessGetDataSock, bind_ok (atSock_ok hint), toUnsigned_natCast (by omega),
    Nat.mod_eq_of_lt hport]

variable (ha : s.portSockaddr = some a) (hport : a.port < 2 ^ 16)
include ha hport

theorem twoProcessGetPrivDataSock_refused
    (h : vsfPrivopGetFtpPortSock sys cfg a.port none ⟨log, F, l⟩ = (.ok (-1), ⟨log', F', l'⟩)) :
    vsfTwoProcessGetPrivDataSock sys cfg (asking log p F l s [] []) =
      (.ok (-1), asking log' p F' l' s [] []) := by
  have hserve:=cmdProcessGetDataSock_reads sys cfg log F l hport
  rw [bind_ok (atView_ok h), if_pos rfl, atSock_ok (sendResult_run _ _)] at hserve
  unfold vsfTwoProcessGetPrivDataSock
  rw [bind_ok (portSockaddr_run ha), bind_ok (atChild_cmd _ _ _), bind_ok (atChild_sendInt _ _ _),
    List.nil_append, bind_ok (parentServes_run hserve), List.nil_append, bind_ok (atChild_result _ _)]
  rfl

theorem twoProcessGetPrivDataSock_connected (hfd : fd ≠ -1)
    (h : vsfPrivopGetFtpPortSock sys cfg a.port none ⟨log, F, l⟩ =
      (.ok fd, ⟨log', fd ::ₘ F', l'⟩)) :
    vsfTwoProcessGetPrivDataSock sys cfg (asking log p F l s [] []) =
      (.ok fd, asking log' ⟨fd ::ₘ p.fds, p.pasvListenFd⟩ F' l' s [] []) := by
  have hserve:=cmdProcessGetDataSock_reads sys cfg log F l hport
  rw [bind_ok (atView_ok h), if_neg hfd, handOver_run] at hserve
  unfold vsfTwoProcessGetPrivDataSock
  rw [bind_ok (portSockaddr_run ha), bind_ok (atChild_cmd _ _ _), bind_ok (atChild_sendInt _ _ _),
    List.nil_append, bind_ok (parentServes_run hserve), List.nil_append, List.singleton_append,
    bind_ok (atChild_result _ _)]
  exact recvFd_passed hfd

theorem twoProcessGetPrivDataSock_dies
    (h : vsfPrivopGetFtpPortSock sys cfg a.port none ⟨log, F, l⟩ = (.error e, ⟨log', F', l'⟩)) :
    vsfTwoProcessGetPrivDataSock sys cfg (asking log p F l s [] []) =
      (.error e, asking log' p F' l' s [] []) := by
  have hserve:=cmdProcessGetDataSock_reads sys cfg log F l hport
  rw [bind_error (atView_error h)] at hserve
  unfold vsfTwoProcessGetPrivDataSock
  rw [bind_ok (portSockaddr_run ha), bind_ok (atChild_cmd _ _ _), bind_ok (atChild_sendInt _ _ _),
    List.nil_append, request_dies hserve]

end DataSock

section PasvFd

variable (sys cfg log F l) in
theorem cmdProcessPasvAccept_reads :
    processPostLoginReq alive sys cfg ⟨⟨[.byte PRIV_SOCK_PASV_ACCEPT], []⟩, ⟨log, F, l⟩⟩ =
      cmdProcessPasvAccept alive sys cfg ⟨⟨[], []⟩, ⟨log, F, l⟩⟩ := by
  rw [processPostLoginReq_run, if_neg (fun hc => absurd hc.2 (by decide)), if_neg (by decide),
    if_neg (by decide), if_neg (by decide), if_neg (by decide), if_pos rfl]

theorem twoProcessGetPasvFd_refused (hneg : fd = -1 ∨ fd = -2)
    (h : vsfPrivopAcceptPasv sys cfg ⟨log, F, l⟩ = (.ok fd, ⟨log', F', l'⟩)) :
    vsfTwoProcessGetPasvFd sys cfg (asking log p F l s [] []) =
      (.ok fd, asking log' p F' l' s [] []) := by
  have hlt : fd < 0 := by rcases hneg with rfl | rfl <;> decide
  have hint : within atChild (privSockGetInt alive) (asking log' p F' l' s [] (intItems fd)) =
      (.ok fd, asking log' p F' l' s [] []) := by
    apply atChild_int
    · rcases hneg with rfl | rfl <;> decide
    · rcases hneg with rfl | rfl <;> decide
  have hserve:=cmdProcessPasvAccept_reads sys cfg log F l
  rw [cmdProcessPasvAccept, bind_ok (atView_ok h), if_pos hlt, bind_ok (atSock_ok (sendResult_run _ _)),
    atSock_ok (sendInt_run _ _)] at hserve
  unfold vsfTwoProcessGetPasvFd
  rw [bind_ok (atChild_cmd _ _ _), List.nil_append, bind_ok (parentServes_run hserve),
    List.nil_append, List.singleton_append, bind_ok (atChild_result _ _)]
  exact hint

theorem twoProcessGetPasvFd_connected (hfd : 0 ≤ fd)
    (h : vsfPrivopAcceptPasv sys cfg ⟨log, F, l⟩ = (.ok fd, ⟨log', fd ::ₘ F', l'⟩)) :
    vsfTwoProcessGetPasvFd sys cfg (asking log p F l s [] []) =
      (.ok fd, asking log' ⟨fd ::ₘ p.fds, p.pasvListenFd⟩ F' l' s [] []) := by
  have hserve:=cmdProcessPasvAccept_reads sys cfg log F l
  rw [cmdProcessPasvAccept, bind_ok (atView_ok h), if_neg (not_lt.mpr hfd), handOver_run] at hserve
  unfold vsfTwoProcessGetPasvFd
  rw [bind_ok (atChild_cmd _ _ _), List.nil_append, bind_ok (parentServes_run hserve),
    List.nil_append, List.singleton_append, bind_ok (atChild_result _ _)]
  exact recvFd_passed (ne_none_of_nonneg hfd)

theorem twoProcessGetPasvFd_dies
    (h : vsfPrivopAcceptPasv sys cfg ⟨log, F, l⟩ = (.error e, ⟨log', F', l'⟩)) :
    vsfTwoProcessGetPasvFd sys cfg (asking log p F l s [] []) =
      (.error e, asking log' p F' l' s [] []) := by
  have hserve:=cmdProcessPasvAccept_reads sys cfg log F l
  rw [cmdProcessPasvAccept, bind_error (atView_error h)] at hserve
  unfold vsfTwoProcessGetPasvFd
  rw [bind_ok (atChild_cmd _ _ _), List.nil_append, request_dies hserve]

end PasvFd

section Chown
variable (hup : cfg.chownUploads = true) (hfd : fd ≠ -1)
include hup hfd

variable (sys log F l) in
/-- The parent has the descriptor as well while it works on it. -/
theorem cmdProcessChown_reads :
    processPostLoginReq alive sys cfg ⟨⟨[.byte PRIV_SOCK_CHOWN, .passed fd], []⟩, ⟨log, F, l⟩⟩ =
      (do
        within atView (vsfPrivopDoFileChown sys cfg fd)
        within atView (sysClose fd)
        within atSock (privSockSendResult alive PRIV_SOCK_RESULT_OK) : Broker Unit)
        ⟨⟨[], []⟩, ⟨log, fd ::ₘ F, l⟩⟩ := by
  have hreceived : within atView (received fd) ⟨⟨[], []⟩, ⟨log, F, l⟩⟩ =
      (.ok (), ⟨⟨[], []⟩, ⟨log, fd ::ₘ F, l⟩⟩) := rfl
  rw [processPostLoginReq_run, if_pos ⟨hup, rfl⟩, cmdProcessChown,
    bind_ok (atSock_ok (recvFd_run hfd)), bind_ok hreceived]

theorem twoProcessChownUpload_ok
    (h : vsfPrivopDoFileChown sys cfg fd ⟨log, fd ::ₘ F, l⟩ = (.ok (), ⟨log', fd ::ₘ F', l'⟩)) :
    vsfTwoProcessChownUpload sys cfg fd (asking log p F l s [] []) =
      (.ok (), asking log' p F' l' s [] []) := by
  have hserve:=cmdProcessChown_reads sys log F l hup hfd
  rw [bind_ok (atView_ok h), bind_ok (atView_ok (sysClose_run F')),
    atSock_ok (sendResult_run _ _)] at hserve
  unfold vsfTwoProcessChownUpload
  rw [bind_ok (atChild_cmd _ _ _), bind_ok (atChild_sendFd _ _), List.nil_append,
    List.singleton_append, bind_ok (parentServes_run hserve), List.nil_append,
    bind_ok (atChild_result _ _)]
  rfl

theorem twoProcessChownUpload_dies
    (h : vsfPrivopDoFileChown sys cfg fd ⟨log, fd ::ₘ F, l⟩ = (.error e, ⟨log', F', l'⟩)) :
    vsfTwoProcessChownUpload sys cfg fd (asking log p F l s [] []) =
      (.error e, asking log' p F' l' s [] []) := by
  have hserve:=cmdProcessChown_reads sys log F l hup hfd
  rw [bind_error (atView_error h)] at hserve
  unfold vsfTwoProcessChownUpload
  rw [bind_ok (atChild_cmd _ _ _), bind_ok (atChild_sendFd _ _), List.nil_append,
    List.singleton_append, request_dies hserve]

end Chown

end Requests

end BoardServices.Vsftpd
