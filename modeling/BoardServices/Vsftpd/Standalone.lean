import BoardServices.Lib.Machine
import BoardServices.Vsftpd.Hash

/-!
# The listener (vsftpd-3.0.3/standalone.c, check_limits of prelogin.c)

One process accepts the connections and forks a session for each. Signals are
handled at two places only: after `accept()` has returned, and inside
`vsf_sysutil_close` where `close()` was interrupted. Between these the listener
runs alone; the sessions end at any time.
-/

namespace BoardServices.Vsftpd

abbrev IpAddr := List UInt8

def hashIp (buckets : ℕ) (rawIp : IpAddr) : ℕ :=
  let r := rawIp.foldl (fun (p : ℕ × ℕ) b =>
    (p.1 ^^^ (b.toNat <<< p.2), if p.2 < 8 then 24 else p.2 - 8)) (0, 24)
  r.1 % buckets

def hashPid (buckets pid : ℕ) : ℕ := pid % buckets

/-- `handle_ip_count`, where `malloc` gives `a` to a new entry. -/
def handleIpCount (h : Hash IpAddr ℕ) (a : ℕ) (ipaddr : IpAddr) :
    Except Fault (Hash IpAddr ℕ × ℕ) := do
  match ← hashLookupEntry h ipaddr with
  | none => do
    let h' ← hashAddEntry h a ipaddr 1
    return (h', 1)
  | some p => do
    let count ← valueAt h p
    let h' ← storeAt h p ((count + 1) % 2 ^ 32)
    return (h', (count + 1) % 2 ^ 32)

/-- `drop_ip_count`; its argument may be a null pointer. -/
def dropIpCount (h : Hash IpAddr ℕ) (rawAddr : Option IpAddr) : Except Fault (Hash IpAddr ℕ) :=
  match rawAddr with
  | none => .error .badPointer
  | some ipaddr => do
    match ← hashLookupEntry h ipaddr with
    | none => .error (.bug "IP address missing from hash")
    | some p => do
      let count ← valueAt h p
      if count = 0 then .error (.bug "zero count for IP address")
      let h' ← storeAt h p (count - 1)
      if count - 1 = 0 then hashFreeEntry h' ipaddr else return h'

structure ClientLaunch where
  numChildren : ℕ
  numThisIp : ℕ
deriving DecidableEq, Repr

/-- What a session goes by in `check_limits`: its own tunables, which it has
from the listener or from the configuration of its address. -/
structure Limits where
  maxClients : ℕ
  maxPerIp : ℕ
  tcpWrapperOk : Bool
deriving DecidableEq, Repr

/-- The status a session refuses its client with, if it does. -/
def checkLimits (limits : Limits) (client : ClientLaunch) : Option (ℕ × String) :=
  if limits.maxClients > 0 ∧ client.numChildren > limits.maxClients then
    some (421, "There are too many connected users, please try later.")
  else if limits.maxPerIp > 0 ∧ client.numThisIp > limits.maxPerIp then
    some (421, "There are too many connections from your internet address.")
  else if ¬ limits.tcpWrapperOk then some (421, "Service not available.")
  else none

/-- A session that the listener has not waited for yet. -/
structure Session where
  pid : ℕ
  addr : IpAddr
  launch : ClientLaunch
  limits : Limits
  ended : Bool
deriving DecidableEq, Repr

inductive Resume
  | afterAccept (client : Option IpAddr)
  | inClose (client : IpAddr) (child : Option ℕ)
deriving DecidableEq

inductive Phase
  | accepting
  | counting (client : IpAddr)
  | forking (client : IpAddr) (info : ClientLaunch)
  | closing (client : IpAddr) (child : Option ℕ)
  | recording (client : IpAddr) (child : Option ℕ)
  | handling (r : Resume)
  | faulted (f : Fault)
deriving DecidableEq

structure Listener where
  sChildren : ℕ
  ipCount : Hash IpAddr ℕ
  pidIp : Hash ℕ IpAddr
  phase : Phase
  /-- The last one launched first. -/
  sessions : List Session

def standaloneStart : Listener where
  sChildren := 0
  ipCount := hashAlloc 256 hashIp
  pidIp := hashAlloc 256 hashPid
  phase := .accepting
  sessions := []

inductive Event
  /-- `accept()` returns, with an error or with a client. -/
  | accepted (client : Option IpAddr)
  | counted (a : ℕ)
  | forked (child : Option ℕ) (limits : Limits)
  | closed (interrupted : Bool)
  | recorded (a : ℕ)
  /-- `waitpid()` gives a session that has ended. -/
  | reaped (pid : ℕ)
  /-- No handler is left to run. -/
  | handled
  | sessionEnds (pid : ℕ)

def handleSigchld (s : Listener) (pid : ℕ) : Except Fault Listener := do
  let s := { s with sChildren := (s.sChildren + (2 ^ 32 - 1)) % 2 ^ 32 }
  let ip ← match ← hashLookupEntry s.pidIp pid with
    | none => pure none
    | some p => do
      let v ← valueAt s.pidIp p
      pure (some v)
  let ipCount ← dropIpCount s.ipCount ip
  let pidIp ← hashFreeEntry s.pidIp pid
  return { s with ipCount := ipCount, pidIp := pidIp }

def Listener.orFault (s : Listener) : Except Fault Listener → Listener
  | .ok t => t
  | .error f => { s with phase := .faulted f }

/-- The pids the kernel may give to a child. -/
def freshPid (s : Listener) (pid : ℕ) : Prop :=
  0 < pid ∧ pid < 2 ^ 31 ∧ ∀ c ∈ s.sessions, c.pid ≠ pid

instance (s : Listener) (pid : ℕ) : Decidable (freshPid s pid) :=
  inferInstanceAs (Decidable (_ ∧ _ ∧ _))

def clientCounted (s : Listener) (client : IpAddr) (a : ℕ) : Except Fault Listener := do
  let sChildren := (s.sChildren + 1) % 2 ^ 32
  let (ipCount, numThisIp) ← handleIpCount s.ipCount a client
  return { s with
    sChildren := sChildren
    ipCount := ipCount
    phase := .forking client ⟨sChildren, numThisIp⟩ }

def childRecorded (s : Listener) (client : IpAddr) (child : Option ℕ) (a : ℕ) :
    Except Fault Listener :=
  match child with
  | some pid => do
    let pidIp ← hashAddEntry s.pidIp a pid client
    return { s with pidIp := pidIp, phase := .accepting }
  | none => do
    -- fork() failed
    let ipCount ← dropIpCount s.ipCount (some client)
    return { s with
      sChildren := (s.sChildren + (2 ^ 32 - 1)) % 2 ^ 32
      ipCount := ipCount
      phase := .accepting }

def step (s : Listener) : Event → Option Listener
  | .sessionEnds pid =>
    some { s with
      sessions := s.sessions.map fun c => if c.pid = pid then { c with ended := true } else c }
  | .accepted client =>
    if s.phase = .accepting then some { s with phase := .handling (.afterAccept client) } else none
  | .counted a =>
    match s.phase with
    | .counting client =>
      if s.ipCount.heap.lookup a = none then some (s.orFault (clientCounted s client a)) else none
    | _ => none
  | .forked child limits =>
    match s.phase, child with
    | .forking client _, none => some { s with phase := .closing client none }
    | .forking client info, some pid =>
      if freshPid s pid then
        some { s with
          phase := .closing client (some pid)
          sessions := ⟨pid, client, info, limits, false⟩ :: s.sessions }
      else none
    | _, _ => none
  | .closed interrupted =>
    match s.phase with
    | .closing client child =>
      some { s with
        phase := if interrupted then .handling (.inClose client child)
          else .recording client child }
    | _ => none
  | .recorded a =>
    match s.phase with
    | .recording client child =>
      if s.pidIp.heap.lookup a = none then some (s.orFault (childRecorded s client child a))
      else none
    | _ => none
  | .reaped pid =>
    match s.phase with
    | .handling _ =>
      if ∃ c ∈ s.sessions, c.pid = pid ∧ c.ended then
        some { s.orFault (handleSigchld s pid) with
          sessions := s.sessions.filter fun c => c.pid ≠ pid }
      else none
    | _ => none
  | .handled =>
    match s.phase with
    | .handling (.afterAccept none) => some { s with phase := .accepting }
    | .handling (.afterAccept (some client)) => some { s with phase := .counting client }
    | .handling (.inClose client child) => some { s with phase := .closing client child }
    | _ => none

end BoardServices.Vsftpd
