import BoardServices.Vsftpd.PrivSock

/-!
# Privileged operations (vsftpd-3.0.3/privops.c)

What a session asks of the system on behalf of the unprivileged side. The system
answers a call by all the calls before it. The operations act on a log of these
calls and on the descriptors of the process that carries them out, which is the
privileged parent or, in the one process model, the session itself.
-/

namespace BoardServices.Vsftpd
open Lib.Process

inductive Addr
  | ipv4 (raw : List UInt8)
  | ipv6 (raw : List UInt8)
deriving DecidableEq, Repr

structure SockAddr where
  addr : Addr
  port : ℕ
deriving DecidableEq, Repr

/-- `vsf_sysutil_sockaddr_ipv6_v4` -/
def ipv6V4 (raw : List UInt8) : Option (List UInt8) :=
  if raw.take 12 = [0, 0, 0, 0, 0, 0, 0, 0, 0, 0, 255, 255] then some (raw.drop 12) else none

/-- `vsf_sysutil_sockaddr_addr_equal` -/
def sockaddrAddrEqual : Addr → Addr → Bool
  | .ipv4 a, .ipv4 b => a = b
  | .ipv6 a, .ipv6 b => a = b
  | .ipv4 a, .ipv6 b => ipv6V4 b = some a
  | .ipv6 a, .ipv4 b => ipv6V4 a = some b

inductive Errno
  | addrInUse
  | acces
  | other
deriving DecidableEq, Repr

structure Stat where
  uid : ℤ
  isRegfile : Bool
deriving DecidableEq, Repr

inductive SysCall
  | socket
  | bind (fd : Fd) (sockaddr : SockAddr)
  | listen (fd : Fd)
  | connect (fd : Fd) (sockaddr : SockAddr)
  | accept (fd : Fd)
  | fstat (fd : Fd)
  | fchown (fd : Fd) (uid : ℤ)
  | sleep
deriving DecidableEq, Repr

/-- The answers, by the calls so far; and whether the client takes a reply, by the
number of those that it has been sent. -/
structure System where
  socket : List SysCall → Option ℕ
  bind : List SysCall → Option Errno
  listen : List SysCall → Option Errno
  connect : List SysCall → Bool
  accept : List SysCall → Option (ℕ × Addr)
  fstat : List SysCall → Option Stat
  fchown : List SysCall → Bool
  randomBytes : List SysCall → UInt8 × UInt8
  takesReply : ℕ → Bool

/-- The tunables that matter here, and what a session knows of its client. -/
structure Config where
  oneProcessModel : Bool
  connectFromPort20 : Bool
  ftpDataPort : ℕ
  pasvMinPort : ℕ
  pasvMaxPort : ℕ
  pasvPromiscuous : Bool
  portPromiscuous : Bool
  chownUploads : Bool
  localAddr : Addr
  remoteAddr : Addr
  anonUploadChownUid : ℤ
  anonFtpUid : ℤ
  guestUserUid : ℤ

/-- The log, and the process that acts. -/
structure View where
  log : List SysCall
  fds : Multiset Fd
  pasvListenFd : Fd

abbrev Priv := ExceptT Ending (StateM View)

def callsSoFar : Priv (List SysCall) := do return (← get).log

def record (c : SysCall) : Priv Unit := modify fun v => { v with log := v.log ++ [c] }

def received (fd : Fd) : Priv Unit := modify fun v => { v with fds := fd ::ₘ v.fds }

/-- `p_sess->pasv_listen_fd` -/
def pasvListenFd : Priv Fd := do return (← get).pasvListenFd

def setPasvListenFd (fd : Fd) : Priv Unit := modify fun v => { v with pasvListenFd := fd }

def closeOrDie (message : String) (fd : Fd) : Priv Unit := do
  let v ← get
  if fd ∈ v.fds then set { v with fds := v.fds.erase fd } else throw (.died message)

def sysClose (fd : Fd) : Priv Unit := closeOrDie "close" fd

/-- `vsf_sysutil_closedir`, for the descriptor that `opendir` has taken. -/
def sysClosedir (fd : Fd) : Priv Unit := closeOrDie "closedir" fd

section Operations
variable (sys : System) (cfg : Config)

/-- `vsf_sysutil_get_ipsock` -/
def getIpsock : Priv Fd := do
  match sys.socket (← callsSoFar) with
  | none => throw (.died "socket")
  | some fd => do
    record .socket
    received fd
    return fd

def sysBind (fd : Fd) (sockaddr : SockAddr) : Priv (Option Errno) := do
  let past ← callsSoFar
  record (.bind fd sockaddr)
  return sys.bind past

/-- `vsf_sysutil_listen` -/
def sysListen (fd : Fd) : Priv (Option Errno) := do
  let past ← callsSoFar
  record (.listen fd)
  match sys.listen past with
  | none => return none
  | some e => if e ≠ .addrInUse then throw (.died "listen") else return some e

/-- `vsf_sysutil_connect_timeout` -/
def connectTimeout (fd : Fd) (sockaddr : SockAddr) : Priv Bool := do
  let past ← callsSoFar
  record (.connect fd sockaddr)
  return sys.connect past

/-- `vsf_sysutil_accept_timeout` -/
def acceptTimeout (fd : Fd) : Priv (Option (Fd × Addr)) := do
  let past ← callsSoFar
  record (.accept fd)
  match sys.accept past with
  | none => return none
  | some (remoteFd, peer) => do
    received remoteFd
    return some (remoteFd, peer)

def sysFstat (fd : Fd) : Priv Stat := do
  let past ← callsSoFar
  record (.fstat fd)
  match sys.fstat past with
  | none => throw (.died "fstat")
  | some st => return st

def sysFchown (fd : Fd) (uid : ℤ) : Priv Unit := do
  let past ← callsSoFar
  record (.fchown fd uid)
  if ¬ sys.fchown past then throw (.died "fchown")

def isPortReserved (port : ℕ) : Bool := port < 1024

/-- The attempts at `bind()` in `vsf_privop_get_ftp_port_sock`. -/
def bindLoop (s : Fd) (sockaddr : SockAddr) : ℕ → Priv Unit
  | 0 => return ()
  | tries + 1 => do
    match ← sysBind sys s sockaddr with
    | none => return ()
    | some e =>
      if e ≠ .addrInUse ∨ tries = 0 then throw (.died "vsf_sysutil_bind")
      else do
        record .sleep
        bindLoop s sockaddr tries

/-- `vsf_privop_get_ftp_port_sock`, where `portSockaddr` is the address to use in
place of that of the client, if any. -/
def vsfPrivopGetFtpPortSock (remotePort : ℕ) (portSockaddr : Option SockAddr) : Priv Fd := do
  let s ← getIpsock sys
  if (← pasvListenFd) ≠ -1 then throw (.died "listed fd is active?")
  if isPortReserved remotePort then throw (.died "Illegal port request")
  let port := if cfg.connectFromPort20 then cfg.ftpDataPort % 2 ^ 16 else 0
  bindLoop sys s ⟨cfg.localAddr, port⟩ 2
  let connectTo := portSockaddr.getD ⟨cfg.remoteAddr, remotePort⟩
  if ← connectTimeout sys s connectTo then return s
  else do
    sysClose s
    return -1

def vsfPrivopPasvCleanup : Priv Unit := do
  let fd ← pasvListenFd
  if fd ≠ -1 then do
    sysClose fd
    setPasvListenFd (-1)

def vsfPrivopPasvActive : Priv ℤ := do
  return if (← pasvListenFd) ≠ -1 then 1 else 0

def minPort : ℕ :=
  if cfg.pasvMinPort > 1024 ∧ cfg.pasvMinPort ≤ 65535 then cfg.pasvMinPort else 1024

def maxPort : ℕ :=
  if cfg.pasvMaxPort ≥ minPort cfg ∧ cfg.pasvMaxPort < 65535 then cfg.pasvMaxPort else 65535

/-- The products and quotients are exact in a `double`. -/
def scaledPort (r : UInt8 × UInt8) : ℕ :=
  minPort cfg + (r.1.toNat * 256 + r.2.toNat) * (maxPort cfg - minPort cfg + 1) / 65536

def bindAndListen (fd : Fd) (sockaddr : SockAddr) : Priv (Option Errno) := do
  match ← sysBind sys fd sockaddr with
  | some e => return some e
  | none => sysListen sys fd

/-- The attempts in `vsf_privop_pasv_listen`. -/
def listenLoop : ℕ → Priv ℕ
  | 0 => throw (.died "vsf_sysutil_bind")
  | retries + 1 => do
    let thePort := scaledPort cfg (sys.randomBytes (← callsSoFar))
    let fd ← getIpsock sys
    setPasvListenFd fd
    match ← bindAndListen sys fd ⟨cfg.localAddr, thePort⟩ with
    | none => return thePort
    | some e =>
      if e = .addrInUse ∨ e = .acces then do
        sysClose fd
        setPasvListenFd (-1)
        listenLoop retries
      else throw (.died "vsf_sysutil_bind / listen")

def vsfPrivopPasvListen : Priv ℕ := do
  if (← pasvListenFd) ≠ -1 then throw (.died "listed fd already active")
  listenLoop sys cfg 9

def vsfPrivopAcceptPasv : Priv Fd := do
  let fd ← pasvListenFd
  if fd = -1 then throw (.died "listed fd not active")
  match ← acceptTimeout sys fd with
  | none => return -1
  | some (remoteFd, peer) =>
    if ¬ cfg.pasvPromiscuous ∧ ¬ sockaddrAddrEqual cfg.remoteAddr peer then do
      sysClose remoteFd
      return -2
    else return remoteFd

def vsfPrivopDoFileChown (fd : Fd) : Priv Unit := do
  let st ← sysFstat sys fd
  if st.uid = cfg.anonUploadChownUid then return ()
  else if cfg.anonUploadChownUid = -1 ∨ ¬ st.isRegfile ∨
      (st.uid ≠ cfg.anonFtpUid ∧ st.uid ≠ cfg.guestUserUid) then
    throw (.died "invalid fd in cmd_process_chown")
  else sysFchown sys fd cfg.anonUploadChownUid

end Operations

end BoardServices.Vsftpd
