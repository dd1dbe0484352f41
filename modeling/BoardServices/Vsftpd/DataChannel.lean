import BoardServices.Vsftpd.Broker
import BoardServices.Vsftpd.IpAddrParse

/-!
# The data channel of a session (vsftpd-3.0.3/oneprocess.c, twoprocess.c, ftpdataio.c, postlogin.c)

A client names a data connection by `PASV`, `EPSV`, `PORT` or `EPRT` and uses it
with the next transfer. The handlers of these commands ask for what needs
privilege; in the one process model the session does it itself, in the two
process model it sends a request to its parent and waits for the answer. Files,
encryption and the transfers themselves are answered from outside.
-/

namespace BoardServices.Vsftpd
open Lib.Process

structure Tunables extends Config where
  pasvEnable : Bool
  portEnable : Bool
  downloadEnable : Bool
  dirlistEnable : Bool
  writeEnable : Bool
  anonUploadEnable : Bool
  anonOtherWriteEnable : Bool
  anonWorldReadableOnly : Bool
  asciiDownloadEnable : Bool
  sslEnable : Bool
  forceLocalDataSsl : Bool
  forceAnonDataSsl : Bool
  requireSslReuse : Bool
  isAnonymous : Bool
  /-- `pasv_address`, and the address that `inet_aton` makes of it. -/
  pasvAddress : Option (Option (List UInt8))

/-- `tunables_load_defaults`, for an anonymous session between two addresses. -/
def tunablesLoadDefaults (localAddr remoteAddr : Addr) : Tunables where
  oneProcessModel := false
  connectFromPort20 := false
  ftpDataPort := 20
  pasvMinPort := 5001
  pasvMaxPort := 0
  pasvPromiscuous := false
  portPromiscuous := false
  chownUploads := false
  localAddr := localAddr
  remoteAddr := remoteAddr
  anonUploadChownUid := -1
  anonFtpUid := 14
  guestUserUid := -1
  pasvEnable := true
  portEnable := true
  downloadEnable := true
  dirlistEnable := true
  writeEnable := false
  anonUploadEnable := false
  anonOtherWriteEnable := false
  anonWorldReadableOnly := true
  asciiDownloadEnable := false
  sslEnable := false
  forceLocalDataSsl := true
  forceAnonDataSsl := false
  requireSslReuse := true
  isAnonymous := true
  pasvAddress := none

structure Proc where
  fds : Multiset Fd
  pasvListenFd : Fd

/-- What a session knows of its data channel, and what it has told its client. -/
structure Sess where
  portSockaddr : Option SockAddr
  dataFd : Fd
  epsvAll : Bool
  isAscii : Bool
  restartPos : ℕ
  dataUseSsl : Bool
  aborReceived : Bool
  dataTimeout : Bool
  replies : List Reply
deriving DecidableEq, Repr

structure World where
  log : List SysCall
  ftp : Proc
  parent : Proc
  toParent : List Item
  toChild : List Item
  sess : Sess

abbrev Ftp := ExceptT Ending (StateM World)

def inFtp : Lens World View where
  get w := ⟨w.log, w.ftp.fds, w.ftp.pasvListenFd⟩
  put v w := { w with log := v.log, ftp := ⟨v.fds, v.pasvListenFd⟩ }

def inParent : Lens World Parent where
  get w := ⟨⟨w.toParent, w.toChild⟩, ⟨w.log, w.parent.fds, w.parent.pasvListenFd⟩⟩
  put p w := { w with
    log := p.view.log
    parent := ⟨p.view.fds, p.view.pasvListenFd⟩
    toParent := p.sock.inbox
    toChild := p.sock.outbox }

def atChild : Lens World Sock where
  get w := ⟨w.toChild, w.toParent⟩
  put s w := { w with toChild := s.inbox, toParent := s.outbox }

def session : Ftp Sess := do return (← get).sess

def updateSession (f : Sess → Sess) : Ftp Unit := modify fun w => { w with sess := f w.sess }

def strAllocText (s : String) : MyStr := s.toList.map fun c => UInt8.ofNat c.toNat

section Replies
variable (sys : System)

/-- `ftp_write_str_common`, with what is kept of a reply that was written. -/
def writeReply (r : Reply) : Ftp Unit := do
  let s ← session
  if ¬ sys.takesReply s.replies.length then throw (.died "ftp_write")
  updateSession fun s => { s with replies := s.replies ++ [r] }

def cmdioWrite (status : ℕ) (text : MyStr) : Ftp Unit := writeReply sys ⟨status, sp, text⟩

/-- `vsf_cmdio_write` with a fixed text. -/
def cmdioWriteText (status : ℕ) (text : String) : Ftp Unit := cmdioWrite sys status (strAllocText text)

def cmdioWriteExit (status : ℕ) (text : String) (exitVal : ℕ) : Ftp Unit := do
  cmdioWriteText sys status text
  throw (.exits exitVal)

end Replies

section Models
variable (sys : System) (cfg : Config)

/-- `vsf_sysutil_sockaddr_get_port(p_sess->p_port_sockaddr)` with the address itself. -/
def portSockaddr : Ftp SockAddr := do
  match (← session).portSockaddr with
  | none => throw .faults
  | some a => return a

def vsfOneProcessGetPrivDataSock : Ftp Fd := do
  let a ← portSockaddr
  within inFtp (vsfPrivopGetFtpPortSock sys cfg a.port (some a))

def vsfOneProcessPasvCleanup : Ftp Unit := within inFtp vsfPrivopPasvCleanup
def vsfOneProcessPasvActive : Ftp ℤ := within inFtp vsfPrivopPasvActive
def vsfOneProcessListen : Ftp ℕ := within inFtp (vsfPrivopPasvListen sys cfg)
def vsfOneProcessGetPasvFd : Ftp Fd := within inFtp (vsfPrivopAcceptPasv sys cfg)
def vsfOneProcessChownUpload (fd : Fd) : Ftp Unit := within inFtp (vsfPrivopDoFileChown sys cfg fd)

/-- The session waits; the parent serves what was asked. Each takes what the other sends. -/
def parentServes : Ftp Unit := within inParent (processPostLoginReq alive sys cfg)

def recvFd : Ftp Fd := do
  let fd ← within atChild privSockRecvFd
  within inFtp (received fd)
  return fd

def vsfTwoProcessGetPrivDataSock : Ftp Fd := do
  let a ← portSockaddr
  within atChild (privSockSendCmd alive PRIV_SOCK_GET_DATA_SOCK)
  within atChild (privSockSendInt alive a.port)
  parentServes sys cfg
  let res ← within atChild (privSockGetResult alive)
  if res = PRIV_SOCK_RESULT_BAD then return -1
  else if res ≠ PRIV_SOCK_RESULT_OK then throw (.died "could not get privileged socket")
  else recvFd

def vsfTwoProcessPasvCleanup : Ftp Unit := do
  within atChild (privSockSendCmd alive PRIV_SOCK_PASV_CLEANUP)
  parentServes sys cfg
  let res ← within atChild (privSockGetResult alive)
  if res ≠ PRIV_SOCK_RESULT_OK then throw (.died "could not clean up socket")

def vsfTwoProcessPasvActive : Ftp ℤ := do
  within atChild (privSockSendCmd alive PRIV_SOCK_PASV_ACTIVE)
  parentServes sys cfg
  within atChild (privSockGetInt alive)

def vsfTwoProcessListen : Ftp ℕ := do
  within atChild (privSockSendCmd alive PRIV_SOCK_PASV_LISTEN)
  parentServes sys cfg
  return toUnsigned (← within atChild (privSockGetInt alive)) % 2 ^ 16

def vsfTwoProcessGetPasvFd : Ftp Fd := do
  within atChild (privSockSendCmd alive PRIV_SOCK_PASV_ACCEPT)
  parentServes sys cfg
  let res ← within atChild (privSockGetResult alive)
  if res = PRIV_SOCK_RESULT_BAD then within atChild (privSockGetInt alive)
  else if res ≠ PRIV_SOCK_RESULT_OK then throw (.died "could not accept on listening socket")
  else recvFd

def vsfTwoProcessChownUpload (fd : Fd) : Ftp Unit := do
  within atChild (privSockSendCmd alive PRIV_SOCK_CHOWN)
  within atChild (privSockSendFd alive fd)
  parentServes sys cfg
  let res ← within atChild (privSockGetResult alive)
  if res ≠ PRIV_SOCK_RESULT_OK then
    throw (.died "unexpected failure in vsf_two_process_chown_upload")

/-! The choice between the models, where it is made. -/

def askPasvActive : Ftp ℤ :=
  if cfg.oneProcessModel then vsfOneProcessPasvActive else vsfTwoProcessPasvActive sys cfg

def pasvCleanup : Ftp Unit :=
  if cfg.oneProcessModel then vsfOneProcessPasvCleanup else vsfTwoProcessPasvCleanup sys cfg

def askListen : Ftp ℕ :=
  if cfg.oneProcessModel then vsfOneProcessListen sys cfg else vsfTwoProcessListen sys cfg

def askPasvFd : Ftp Fd :=
  if cfg.oneProcessModel then vsfOneProcessGetPasvFd sys cfg else vsfTwoProcessGetPasvFd sys cfg

def askPrivDataSock : Ftp Fd :=
  if cfg.oneProcessModel ∨ cfg.portPromiscuous then vsfOneProcessGetPrivDataSock sys cfg
  else vsfTwoProcessGetPrivDataSock sys cfg

def askChownUpload (fd : Fd) : Ftp Unit :=
  if cfg.oneProcessModel then vsfOneProcessChownUpload sys cfg fd
  else vsfTwoProcessChownUpload sys cfg fd

end Models

/-! ### The channel (postlogin.c, ftpdataio.c) -/

/-- What the file system, the client and the encryption answer in one command. -/
structure Answers where
  accessible : Bool
  opened : Option ℕ
  isRegfile : Bool
  isDir : Bool
  readableOther : Bool
  fileSize : ℕ
  sslAccepted : Bool
  sslClosed : Bool
  transferRet : ℤ
  aborReceived : Bool
  dataTimeout : Bool
deriving DecidableEq, Repr

section Channel
variable (sys : System) (tun : Tunables)

mutual
/-- `port_active` and `pasv_active` check each other, to so many calls deep. -/
def portActive : ℕ → Ftp ℤ
  | 0 => throw .faults
  | depth + 1 => do
    match (← session).portSockaddr with
    | none => return 0
    | some _ => do
      if (← pasvActive depth) ≠ 0 then throw (.bug "port and pasv both active")
      return 1

def pasvActive : ℕ → Ftp ℤ
  | 0 => throw .faults
  | depth + 1 => do
    let ret ← askPasvActive sys tun.toConfig
    if ret ≠ 0 then do
      if (← portActive depth) ≠ 0 then throw (.bug "pasv and port both active")
    return ret
end

def portCleanup : Ftp Unit := updateSession fun s => { s with portSockaddr := none }

def initDataSockParams (sockFd : Fd) : Ftp Unit := do
  if (← session).dataFd ≠ -1 then
    throw (.bug "data descriptor still present in init_data_sock_params")
  updateSession fun s => { s with dataFd := sockFd }

def vsfFtpdataioGetPasvFd : Ftp Fd := do
  let remoteFd ← askPasvFd sys tun.toConfig
  if remoteFd = -1 then do
    cmdioWriteText sys 425 "Failed to establish connection."
    return remoteFd
  else if remoteFd = -2 then do
    cmdioWriteText sys 425 "Security: Bad IP connecting."
    return -1
  else do
    initDataSockParams remoteFd
    return remoteFd

def vsfFtpdataioGetPortFd : Ftp Fd := do
  let remoteFd ← askPrivDataSock sys tun.toConfig
  if remoteFd < 0 then do
    cmdioWriteText sys 425 "Failed to establish connection."
    return -1
  else do
    initDataSockParams remoteFd
    return remoteFd

/-- `vsf_sysutil_close_failok` -/
def closeFailok (fd : Fd) : Priv Unit := modify fun v => { v with fds := v.fds.erase fd }

/-- The result is that of `ssl_accept` or of the handshake in the other process. -/
def vsfFtpdataioPostMarkConnect (a : Answers) : Ftp ℤ := do
  if ¬ (← session).dataUseSsl then return 1
  else if a.sslAccepted then return 1
  else do
    if tun.requireSslReuse then
      cmdioWriteExit sys 522 "SSL connection failed: session reuse required" 1
    else cmdioWriteText sys 522 "SSL connection failed"
    return 0

def vsfFtpdataioDisposeTransferFd (a : Answers) : Ftp ℤ := do
  let s ← session
  if s.dataFd = -1 then throw (.bug "no data descriptor in vsf_ftpdataio_dispose_transfer_fd")
  within inFtp (closeFailok s.dataFd)
  updateSession fun s => { s with dataFd := -1 }
  return if s.aborReceived ∨ s.dataTimeout ∨ (s.dataUseSsl ∧ ¬ a.sslClosed) then 0 else 1

/-- The end of `get_remote_transfer_fd`, once there is a connection or none. -/
def markConnect (statusMsg : MyStr) (a : Answers) (remoteFd : Fd) : Ftp Fd := do
  if remoteFd < 0 then return remoteFd
  else do
    cmdioWrite sys 150 statusMsg
    if (← vsfFtpdataioPostMarkConnect sys tun a) ≠ 1 then do
      let _ ← vsfFtpdataioDisposeTransferFd a
      return -1
    else return remoteFd

def getRemoteTransferFd (statusMsg : MyStr) (a : Answers) : Ftp Fd := do
  if (← pasvActive sys tun 2) = 0 then do
    if (← portActive sys tun 2) = 0 then
      throw (.bug "neither PORT nor PASV active in get_remote_transfer_fd")
  updateSession fun s => { s with aborReceived := false }
  let remoteFd ← if (← pasvActive sys tun 2) ≠ 0 then vsfFtpdataioGetPasvFd sys tun
    else vsfFtpdataioGetPortFd sys tun
  markConnect sys tun statusMsg a remoteFd

def dataTransferChecksOk : Ftp Bool := do
  let pasv ← pasvActive sys tun 2
  let port ← if pasv = 0 then portActive sys tun 2 else pure 1
  if port = 0 then do
    cmdioWriteText sys 425 "Use PORT or PASV first."
    return false
  else if tun.sslEnable ∧ ¬ (← session).dataUseSsl ∧
      ((tun.forceLocalDataSsl ∧ ¬ tun.isAnonymous) ∨ (tun.forceAnonDataSsl ∧ tun.isAnonymous)) then do
    cmdioWriteText sys 522 "Data connections must be encrypted."
    return false
  else return true

/-- `vsf_ftpdataio_transfer_file` and `vsf_ftpdataio_transfer_dir`: what happens
meanwhile, and their result. -/
def transfer (a : Answers) : Ftp ℤ := do
  updateSession fun s => { s with
    aborReceived := a.aborReceived, dataTimeout := s.dataTimeout || a.dataTimeout }
  return a.transferRet

def checkAbor : Ftp Unit := do
  if (← session).aborReceived then do
    updateSession fun s => { s with aborReceived := false }
    cmdioWriteText sys 226 "ABOR successful."

end Channel

end BoardServices.Vsftpd
