import BoardServices.Vsftpd.DataChannel

/-!
# Commands on the data channel (vsftpd-3.0.3/postlogin.c)

The handlers of the commands that name or use a data connection. Files, the log
and the locks are taken from outside as `Answers`; the descriptor of an opened
file is kept, for the handler has to close it.
-/

namespace BoardServices.Vsftpd
open Lib.Process

def bar : UInt8 := 124
def percent : UInt8 := 37

inductive Command
  | pasv
  | epsv (arg : MyStr)
  | port (arg : MyStr)
  | eprt (arg : MyStr)
  | retr (arg : MyStr) (a : Answers)
  | list (a : Answers)
  /-- `STOR`, `APPE` and `STOU`; the last of them names the file itself. -/
  | upload (isAppend : Bool) (isUnique : Bool) (filename : MyStr) (a : Answers)
  /-- A command that does not touch the data channel, with what it sets. -/
  | other (isAscii : Bool) (restartPos : ℕ) (dataUseSsl : Bool) (replies : List Reply)
  | quit
deriving DecidableEq, Repr

/-- `inet_ntoa` with commas for the dots. -/
def addrText (raw : List UInt8) : MyStr := strReplaceChar (ucharText dot raw) dot comma

def isIpv6 : Addr → Bool
  | .ipv4 _ => false
  | .ipv6 _ => true

section Handlers
variable (sys : System) (tun : Tunables)

/-- The text for an address, on a connection that came in at `localAddr`. -/
def announcedText (localAddr : Addr) : Addr → MyStr
  | .ipv4 raw => if isIpv6 localAddr then strAllocText "0,0,0,0" else addrText raw
  | .ipv6 raw => ((ipv6V4 raw).map addrText).getD (strAllocText "0,0,0,0")

/-- The address that `handle_pasv` puts between the brackets. -/
def announced : Ftp MyStr := do
  match tun.pasvAddress with
  | none => return announcedText tun.localAddr tun.localAddr
  | some none => throw (.died "invalid pasv_address")
  | some (some raw) => return announcedText tun.localAddr (.ipv4 raw)

def pasvText (addr : MyStr) (port : ℕ) : MyStr :=
  strAllocText "Entering Passive Mode (" ++ addr ++ [comma] ++ ulongToStr (port / 256) ++ [comma] ++
    ulongToStr (port % 256) ++ strAllocText ")."

def epsvText (port : ℕ) : MyStr :=
  strAllocText "Entering Extended Passive Mode (|||" ++ ulongToStr port ++ strAllocText "|)"

/-- The argument of `EPSV`: whether the handler goes on. -/
def epsvArg (arg : MyStr) : Ftp Bool := do
  if arg = [] then return true
  else if strUpper arg = strAllocText "ALL" then do
    updateSession fun s => { s with epsvAll := true }
    cmdioWriteText sys 200 "EPSV ALL ok."
    return false
  else
    let argval := strAtoi (strUpper arg)
    if argval < 1 ∨ argval > 2 ∨ (¬ isIpv6 tun.localAddr ∧ argval = 2) then do
      cmdioWriteText sys 522 "Bad network protocol."
      return false
    else return true

/-- The rest of `handle_pasv`. -/
def enterPassive (isEpsv : Bool) : Ftp Unit := do
  pasvCleanup sys tun.toConfig
  portCleanup
  let thePort ← askListen sys tun.toConfig
  if isEpsv then cmdioWrite sys 229 (epsvText thePort)
  else do
    let addr ← announced tun
    cmdioWrite sys 227 (pasvText addr thePort)

def handlePasv : Option MyStr → Ftp Unit
  | none => enterPassive sys tun false
  | some arg => do
    if ← epsvArg sys tun arg then enterPassive sys tun true

/-- What `handle_port` and `handle_eprt` do with an address they have read. -/
def setPortSockaddr (addr : Addr) (port : ℕ) (bad ok : String) (okCode : ℕ) : Ftp Unit := do
  updateSession fun s => { s with portSockaddr := some ⟨addr, port⟩ }
  if ¬ tun.portPromiscuous ∧
      (¬ sockaddrAddrEqual tun.remoteAddr addr ∨ isPortReserved port) then do
    cmdioWriteText sys 500 bad
    portCleanup
  else cmdioWriteText sys okCode ok

/-- `vsf_sysutil_sockaddr_set_ipv4addr` on a clone of the local address. -/
def setIpv4addr (raw : List UInt8) : Addr :=
  if isIpv6 tun.localAddr then .ipv6 ([0, 0, 0, 0, 0, 0, 0, 0, 0, 0, 255, 255] ++ raw) else .ipv4 raw

def handlePort (arg : MyStr) : Ftp Unit := do
  pasvCleanup sys tun.toConfig
  portCleanup
  match parseUcharStringSep comma 6 arg with
  | none => cmdioWriteText sys 500 "Illegal PORT command."
  | some vals =>
    setPortSockaddr sys tun (setIpv4addr tun (vals.take 4))
      (256 * (vals.getD 4 0).toNat + (vals.getD 5 0).toNat)
      "Illegal PORT command." "PORT command successful. Consider using PASV." 200

/-- The fields of an `EPRT` argument: protocol, address and port, or why not. -/
def eprtFields (arg : MyStr) : Except String (ℤ × List UInt8 × ℤ) :=
  let (part1, part2) := strSplitChar arg bar
  if part1 ≠ [] then .error "Bad EPRT command."
  else
    let (protoStr, rest) := strSplitChar part2 bar
    let proto := strAtoi protoStr
    if proto < 1 ∨ proto > 2 ∨ (¬ isIpv6 tun.localAddr ∧ proto = 2) then
      .error "Bad EPRT protocol."
    else
      let (addrStr, rest) := strSplitChar rest bar
      let raw := if proto = 2 then parseIpv6 (strSplitChar addrStr percent).1 else parseIpv4 addrStr
      match raw with
      | none => .error "Bad EPRT command."
      | some raw =>
        let (portStr, rest) := strSplitChar rest bar
        if rest ≠ [] ∨ portStr = [] then .error "Bad EPRT command."
        else
          let port := strAtoi portStr
          if port < 0 ∨ port > 65535 then .error "Bad EPRT command."
          else .ok (proto, raw, port)

def handleEprt (arg : MyStr) : Ftp Unit := do
  portCleanup
  pasvCleanup sys tun.toConfig
  match eprtFields tun arg with
  | .error text => cmdioWriteText sys 500 text
  | .ok (proto, raw, port) => do
    -- 16 bytes are copied from a buffer that may hold fewer
    if proto = 2 ∧ raw.length < 16 then throw .faults
    setPortSockaddr sys tun (if proto = 2 then .ipv6 raw else setIpv4addr tun raw) port.toNat
      "Illegal EPRT command." "EPRT command successful. Consider using EPSV." 200

/-- `port_pasv_cleanup_out` -/
def portPasvCleanup : Ftp Unit := do
  portCleanup
  pasvCleanup sys tun.toConfig

def finishTransfer (ret : ℤ) (badNet : String) (badFile : String) : Ftp Unit := do
  if ret = -1 then cmdioWriteText sys 451 badFile
  else if ret = -2 then do
    if ¬ (← session).dataTimeout then cmdioWriteText sys 426 badNet
  else cmdioWriteText sys 226 "Transfer complete."

/-- From the mark to `check_abor`, for a file. -/
def transferFile (statusMsg : MyStr) (a : Answers) (badNet badFile : String) : Ftp Unit := do
  let remoteFd ← getRemoteTransferFd sys tun statusMsg a
  if 0 ≤ remoteFd then do
    let ret ← transfer a
    let disposed ← vsfFtpdataioDisposeTransferFd a
    finishTransfer sys (if disposed ≠ 1 ∧ ret = 0 then -2 else ret) badNet badFile
    checkAbor sys
  portPasvCleanup sys tun

def retrText (arg : MyStr) (a : Answers) (isAscii : Bool) : MyStr :=
  strAllocText "Opening " ++ strAllocText (if isAscii then "ASCII" else "BINARY") ++
    strAllocText " mode data connection for " ++ arg ++ strAllocText " (" ++ ulongToStr a.fileSize ++
    strAllocText " bytes)."

def handleRetr (arg : MyStr) (a : Answers) : Ftp Unit := do
  let s ← session
  updateSession fun s => { s with restartPos := 0 }
  if ← dataTransferChecksOk sys tun then do
    if s.isAscii ∧ s.restartPos ≠ 0 then cmdioWriteText sys 550 "No support for resume of ASCII transfer."
    else if ¬ a.accessible then cmdioWriteText sys 550 "Permission denied."
    else
      match a.opened with
      | none => cmdioWriteText sys 550 "Failed to open file."
      | some openedFile => do
        within inFtp (received openedFile)
        if ¬ a.isRegfile ∨ (tun.isAnonymous ∧ tun.anonWorldReadableOnly ∧ ¬ a.readableOther) then
          cmdioWriteText sys 550 "Failed to open file."
        else
          transferFile sys tun (retrText arg a (tun.asciiDownloadEnable && s.isAscii)) a
            "Failure writing network stream." "Failure reading local file."
        within inFtp (sysClose openedFile)

/-- What the client is told of a listing, and whether there was one. -/
def finishListing (ret : ℤ) (listed : Bool) : Ftp Unit := do
  if ret ≠ 0 then do
    if ¬ (← session).dataTimeout then cmdioWriteText sys 426 "Failure writing network stream."
  else if listed then cmdioWriteText sys 226 "Directory send OK."
  else cmdioWriteText sys 226 "Transfer done (but failed to open directory)."

/-- From the mark to `dir_close_out`. -/
def listDirectory (a : Answers) : Ftp Unit := do
  let remoteFd ← getRemoteTransferFd sys tun (strAllocText "Here comes the directory listing.") a
  if 0 ≤ remoteFd then do
    let dirAllowRead := ¬ tun.isAnonymous || ¬ tun.anonWorldReadableOnly || a.readableOther
    let listed := a.opened.isSome && dirAllowRead
    let ret ← if listed then transfer a else pure 0
    let disposed ← vsfFtpdataioDisposeTransferFd a
    finishListing sys (if disposed ≠ 1 ∧ ret = 0 then -1 else ret) listed
    checkAbor sys

/-- `handle_dir_common` for `LIST` and `NLST`. -/
def handleDirCommon (a : Answers) : Ftp Unit := do
  if ← dataTransferChecksOk sys tun then do
    if ¬ a.accessible then cmdioWriteText sys 550 "Permission denied."
    else
      match a.opened with
      | none => do
        listDirectory sys tun a
        portPasvCleanup sys tun
      | some dirFd => do
        within inFtp (received dirFd)
        listDirectory sys tun a
        within inFtp (sysClosedir dirFd)
        portPasvCleanup sys tun

def handleUploadCommon (isUnique : Bool) (filename : MyStr) (a : Answers) : Ftp Unit := do
  updateSession fun s => { s with restartPos := 0 }
  if ← dataTransferChecksOk sys tun then do
    if ¬ a.accessible then cmdioWriteText sys 550 "Permission denied."
    else
      match a.opened with
      | none => cmdioWriteText sys 553 "Could not create file."
      | some newFileFd => do
        within inFtp (received newFileFd)
        if tun.isAnonymous ∧ tun.chownUploads then askChownUpload sys tun.toConfig newFileFd
        let mark := if isUnique then strAllocText "FILE: " ++ filename else strAllocText "Ok to send data."
        transferFile sys tun mark a "Failure reading network stream." "Failure writing to local file."
        within inFtp (sysClose newFileFd)

def noPerm : Ftp Unit := cmdioWriteText sys 550 "Permission denied."

def writeReplies : List Reply → Ftp Unit
  | [] => return ()
  | r :: replies => do
    writeReply sys r
    writeReplies replies

/-- One round of the loop in `process_post_login`. -/
def processCommand : Command → Ftp Unit
  | .pasv => do
    if tun.pasvEnable ∧ ¬ (← session).epsvAll then handlePasv sys tun none else noPerm sys
  | .epsv arg => if tun.pasvEnable then handlePasv sys tun (some arg) else noPerm sys
  | .port arg => do
    if tun.portEnable ∧ ¬ (← session).epsvAll then handlePort sys tun arg else noPerm sys
  | .eprt arg => if tun.portEnable then handleEprt sys tun arg else noPerm sys
  | .retr arg a => if tun.downloadEnable then handleRetr sys tun arg a else noPerm sys
  | .list a => if tun.dirlistEnable then handleDirCommon sys tun a else noPerm sys
  | .upload isAppend isUnique filename a =>
    if tun.writeEnable ∧
        ((if isAppend then tun.anonOtherWriteEnable else tun.anonUploadEnable) ∨ ¬ tun.isAnonymous) then
      handleUploadCommon sys tun isUnique filename a
    else noPerm sys
  | .other isAscii restartPos dataUseSsl replies => do
    updateSession fun s => { s with
      isAscii := isAscii, restartPos := restartPos, dataUseSsl := dataUseSsl }
    writeReplies sys replies
  | .quit => cmdioWriteExit sys 221 "Goodbye." 0

/-- The session, for so many commands. -/
def processPostLogin : List Command → Ftp Unit
  | [] => return ()
  | cmd :: cmds => do
    processCommand sys tun cmd
    if (← session).dataTimeout then cmdioWriteExit sys 421 "Data timeout. Reconnect. Sorry." 1
    processPostLogin cmds

end Handlers

def sessionStart : World where
  log := []
  ftp := ⟨0, -1⟩
  parent := ⟨0, -1⟩
  toParent := []
  toChild := []
  sess := ⟨none, -1, false, false, 0, false, false, false, []⟩

end BoardServices.Vsftpd
