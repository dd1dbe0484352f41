import BoardServices.Vsftpd.DataChannel
import BoardServices.Vsftpd.FileFilter

/-!
# The login in the privileged parent (vsftpd-3.0.3/twoprocess.c, privops.c)

Before the login the parent takes names and passwords from a process that talks
to a client nobody knows yet. What this process sends is not trusted; PAM, the
log and the delays are outside. PAM may know an accepted user by another name.
-/

namespace BoardServices.Vsftpd
open Lib.Process

def vsftpUsernameMax : ℕ := 128
def vsftpPasswordMax : ℕ := 128

def underscore : UInt8 := 95
def slash : UInt8 := 47

/-! ### Characters and lines (str.c, sysutil.c), in the C locale -/

def sysutilIsalnum (c : UInt8) : Bool :=
  (48 ≤ c && c ≤ 57) || (65 ≤ c && c ≤ 90) || (97 ≤ c && c ≤ 122)

def sysutilIsspace (c : UInt8) : Bool := (9 ≤ c && c ≤ 13) || c == 32

def sysutilIsprint (c : UInt8) : Bool :=
  if c ≤ 31 then false
  else if c = 177 then false
  else if 128 ≤ c ∧ c ≤ 159 then false
  else 32 ≤ c && c ≤ 126

def strContainsSpace (s : MyStr) : Bool := s.any sysutilIsspace

def strContainsUnprintable (s : MyStr) : Bool := s.any fun c => !sysutilIsprint c

/-- The next line and what is behind it. -/
def strGetline (s : MyStr) : Option (MyStr × MyStr) :=
  if s = [] then none else some (s.takeWhile (· ≠ lf), (s.dropWhile (· ≠ lf)).drop 1)

def containsLoop (line : MyStr) : ℕ → MyStr → Bool
  | 0, _ => false
  | fuel + 1, s =>
    match strGetline s with
    | none => false
    | some (l, rest) => l == line || containsLoop line fuel rest

def strContainsLine (s line : MyStr) : Bool := containsLoop line (s.length + 1) s

/-! ### Tunables -/

/-- What `user_config_dir` may change for one user. -/
structure UserTunables where
  guestEnable : Bool
  guestUsername : Option MyStr
  virtualUseLocalPrivs : Bool
  allowWriteableChroot : Bool
  passwdChrootEnable : Bool
  anonRoot : Option MyStr
  localRoot : Option MyStr
  userSubToken : Option MyStr

/-- The last three are what the files hold; `chroot_list_file` may be missing. -/
structure LoginTunables where
  anonymousEnable : Bool
  localEnable : Bool
  sslEnable : Bool
  ftpUsername : Option MyStr
  chrootLocalUser : Bool
  chrootListEnable : Bool
  forAll : UserTunables
  userConfig : Option (MyStr → Option UserTunables)
  chrootList : Option MyStr
  bannedEmailStr : MyStr
  emailPasswordsStr : MyStr

/-- `tunables_load_defaults`, with none of the files there. -/
def loginTunablesLoadDefaults : LoginTunables where
  anonymousEnable := true
  localEnable := false
  sslEnable := false
  ftpUsername := some (strAllocText "ftp")
  chrootLocalUser := false
  chrootListEnable := false
  forAll :=
    { guestEnable := false
      guestUsername := some (strAllocText "ftp")
      virtualUseLocalPrivs := false
      allowWriteableChroot := false
      passwdChrootEnable := false
      anonRoot := none
      localRoot := none
      userSubToken := none }
  userConfig := none
  chrootList := none
  bannedEmailStr := []
  emailPasswordsStr := []

/-! ### privops.c -/

/-- A question to PAM, and whether the connection was said to be encrypted. -/
structure Attempt where
  user : MyStr
  pass : MyStr
  overSsl : ℤ
deriving DecidableEq, Repr

/-- What PAM says, and the name it has then, which `PAM_USER` gives. -/
structure PamResult where
  accepted : Bool
  user : MyStr
deriving DecidableEq, Repr

/-- What `common_do_login` is called with. -/
structure Grant where
  user : MyStr
  anonPassStr : MyStr
  doChroot : Bool
  anon : Bool
  controlUseSsl : ℤ
  dataUseSsl : ℤ
deriving DecidableEq, Repr

structure Keeper where
  userStr : MyStr
  anonPassStr : MyStr
  controlUseSsl : ℤ
  dataUseSsl : ℤ
  attempts : List Attempt
  granted : Option Grant
deriving DecidableEq, Repr

abbrev Login := ExceptT Ending (StateM Keeper)

inductive LoginResult
  | fail
  | anon
  | real
deriving DecidableEq, Repr

def isAnonymousName (user : MyStr) : Bool :=
  strUpper user == strAllocText "FTP" || strUpper user == strAllocText "ANONYMOUS"

/-- The identity of an anonymous user, fit for the log. -/
def anonIdentity (pass : MyStr) : MyStr :=
  strReplaceChar (strReplaceChar (if pass = [] then strAllocText "?" else pass) sp underscore) lf question

section Privops
variable (auth : List Attempt → Attempt → PamResult) (tun : LoginTunables)

/-- `vsf_sysdep_check_auth`, which writes the name of PAM over that of the session. -/
def sysdepCheckAuth (user pass : MyStr) : Login Bool := do
  let k ← get
  let a : Attempt := ⟨user, pass, k.controlUseSsl⟩
  let answer := auth k.attempts a
  set { k with attempts := k.attempts ++ [a], userStr := answer.user }
  return answer.accepted

def setupUsernameGlobals (user : MyStr) : Login Unit := modify fun k => { k with userStr := user }

def handleAnonymousLogin (pass : MyStr) : Login LoginResult := do
  if tun.bannedEmailStr ≠ [] ∧ strContainsLine tun.bannedEmailStr pass then return .fail
  else if tun.emailPasswordsStr ≠ [] ∧
      (¬ strContainsLine tun.emailPasswordsStr pass ∨ pass = []) then return .fail
  else do
    modify fun k => { k with anonPassStr := anonIdentity pass }
    setupUsernameGlobals (tun.ftpUsername.getD [])
    return .anon

def handleLocalLogin (user pass : MyStr) : Login LoginResult := do
  if ← sysdepCheckAuth auth user pass then do
    setupUsernameGlobals (← get).userStr
    return .real
  else return .fail

def handleLogin (user pass : MyStr) : Login LoginResult := do
  let firstChar := user.headD 0
  if user.length = 0 ∨ user.length > vsftpUsernameMax then return .fail
  else if ¬ sysutilIsalnum firstChar ∧ firstChar ≠ underscore ∧ firstChar ≠ dot then return .fail
  else if strContainsSpace user ∨ strContainsUnprintable user then return .fail
  else if pass.length > vsftpPasswordMax then return .fail
  else if tun.anonymousEnable ∧ isAnonymousName user then handleAnonymousLogin tun pass
  else if ¬ tun.localEnable then throw (.died "unexpected local login in handle_login")
  else handleLocalLogin auth user pass

def vsfPrivopDoLogin (pass : MyStr) : Login LoginResult := do
  handleLogin auth tun (← get).userStr pass

end Privops

/-! ### twoprocess.c -/

structure Gatekeeper where
  sock : Sock
  keeper : Keeper

abbrev Gate := ExceptT Ending (StateM Gatekeeper)

def gateSock : Lens Gatekeeper Sock := ⟨Gatekeeper.sock, fun s g => { g with sock := s }⟩
def gateKeeper : Lens Gatekeeper Keeper := ⟨Gatekeeper.keeper, fun k g => { g with keeper := k }⟩

section Requests
variable (peer : Peer) (auth : List Attempt → Attempt → PamResult) (tun : LoginTunables)

def Keeper.grant (k : Keeper) (doChroot anon : Bool) : Keeper :=
  { k with granted := some ⟨k.userStr, k.anonPassStr, doChroot, anon, k.controlUseSsl, k.dataUseSsl⟩ }

/-- The beginning of `common_do_login`, with what it was called for. -/
def commonDoLogin (doChroot anon : Bool) : Gate Unit := do
  within gateKeeper (modify fun k => k.grant doChroot anon)
  within gateSock (privSockSendResult peer.withoutSigchld PRIV_SOCK_RESULT_OK)

/-- Whether a local user is confined to a directory. -/
def chrootDecision (user : MyStr) : Login Bool := do
  if tun.chrootListEnable then
    match tun.chrootList with
    | none => throw (.died "could not read chroot() list file:")
    | some list => return if strContainsLine list user then !tun.chrootLocalUser else tun.chrootLocalUser
  else return tun.chrootLocalUser

def answerLogin (pass : MyStr) : Gate Unit := do
  match ← within gateKeeper (vsfPrivopDoLogin auth tun pass) with
  | .fail => within gateSock (privSockSendResult peer PRIV_SOCK_RESULT_BAD)
  | .anon => do
    within gateKeeper (setupUsernameGlobals (tun.ftpUsername.getD []))
    commonDoLogin peer true true
  | .real => do
    let doChroot ← within gateKeeper (do chrootDecision tun (← get).userStr)
    commonDoLogin peer doChroot false

/-- What the parent keeps of a request while it answers it. -/
def Keeper.asking (k : Keeper) (user : MyStr) (controlUseSsl dataUseSsl : ℤ) : Keeper :=
  { k with
    userStr := user
    controlUseSsl := if tun.sslEnable then controlUseSsl else 0
    dataUseSsl := if tun.sslEnable then dataUseSsl else 0 }

def processLoginReq : Gate Unit := do
  let cmd ← within gateSock (privSockGetCmd peer)
  if cmd ≠ PRIV_SOCK_LOGIN then throw (.died "bad request")
  let user ← within gateSock (privSockGetStr peer)
  let pass ← within gateSock (privSockGetStr peer)
  let controlUseSsl ← within gateSock (privSockGetInt peer)
  let dataUseSsl ← within gateSock (privSockGetInt peer)
  within gateKeeper (modify fun k => k.asking tun user controlUseSsl dataUseSsl)
  answerLogin peer auth tun pass

/-- The loop of the parent in `vsf_two_process_start`, for so many requests. -/
def vsfTwoProcessStart : ℕ → Gate Unit
  | 0 => return ()
  | n + 1 => do
    processLoginReq peer auth tun
    if (← get).keeper.granted.isSome then return () else vsfTwoProcessStart n

end Requests

def gateStart (inbox : List Item) : Gatekeeper := ⟨⟨inbox, []⟩, ⟨[], [], 0, 0, [], none⟩⟩

/-! ### Any requests whatever -/

/-- A name fit for PAM: it begins with a letter, a digit, `_` or `.`, and all of
it can be printed, without spaces. -/
structure Sane (user : MyStr) : Prop where
  length : 0 < user.length ∧ user.length ≤ vsftpUsernameMax
  first : sysutilIsalnum (user.headD 0) = true ∨ user.headD 0 = underscore ∨ user.headD 0 = dot
  printable : ∀ c ∈ user, 33 ≤ c ∧ c ≤ 126

/-- A question that may be put to PAM. -/
structure Proper (tun : LoginTunables) (a : Attempt) : Prop where
  name : Sane a.user
  pass : a.pass.length ≤ vsftpPasswordMax
  localUsers : tun.localEnable = true
  notAnonymous : ¬ (tun.anonymousEnable = true ∧ isAnonymousName a.user = true)

/-- The passwords that an anonymous user may give. -/
def EmailAccepted (tun : LoginTunables) (pass : MyStr) : Prop :=
  ¬ (tun.bannedEmailStr ≠ [] ∧ strContainsLine tun.bannedEmailStr pass = true) ∧
    (tun.emailPasswordsStr ≠ [] → strContainsLine tun.emailPasswordsStr pass = true ∧ pass ≠ [])

/-- The last question to PAM was accepted, and this is the name that PAM has then. -/
def Authenticated (auth : List Attempt → Attempt → PamResult) (tun : LoginTunables)
    (attempts : List Attempt) (user : MyStr) : Prop :=
  ∃ before a, attempts = before ++ [a] ∧ Proper tun a ∧ (auth before a).accepted = true ∧
    (auth before a).user = user

def ChrootDecided (tun : LoginTunables) (user : MyStr) (doChroot : Bool) : Prop :=
  (tun.chrootListEnable = false ∧ doChroot = tun.chrootLocalUser) ∨
    ∃ list, tun.chrootList = some list ∧ tun.chrootListEnable = true ∧
      doChroot = xor (strContainsLine list user) tun.chrootLocalUser

/-- Why a session may be granted, after these questions to PAM. -/
def Entitled (auth : List Attempt → Attempt → PamResult) (tun : LoginTunables) (attempts : List Attempt)
    (g : Grant) : Prop :=
  (g.anon = true ∧ tun.anonymousEnable = true ∧ g.user = tun.ftpUsername.getD [] ∧ g.doChroot = true ∧
      ∃ pass, EmailAccepted tun pass ∧ g.anonPassStr = anonIdentity pass) ∨
    (g.anon = false ∧ Authenticated auth tun attempts g.user ∧ ChrootDecided tun g.user g.doChroot)

section Invariant
variable (auth : List Attempt → Attempt → PamResult) (tun : LoginTunables)

def GateEnds (e : Ending) : Prop :=
  Interrupted e ∨ ∃ message ∈ ["priv_sock_get_cmd", "bad request", "priv_sock_get_int",
    "priv_sock_get_str: too big", "priv_sock_get_str: read error",
    "unexpected local login in handle_login", "could not read chroot() list file:",
    "priv_sock_send_result"], e = .died message

/-- What holds of the parent whenever it ends. A grant may still be on its way. -/
structure Guarded (g : Gatekeeper) : Prop where
  proper : ∀ a ∈ g.keeper.attempts, Proper tun a
  replies : ∃ n, g.sock.outbox = List.replicate n (.byte PRIV_SOCK_RESULT_BAD) ∨
    (g.keeper.granted ≠ none ∧ g.sock.outbox =
      List.replicate n (.byte PRIV_SOCK_RESULT_BAD) ++ [.byte PRIV_SOCK_RESULT_OK])
  entitled : ∀ gr, g.keeper.granted = some gr → Entitled auth tun g.keeper.attempts gr

/-- Between two requests every answer has been sent. -/
def AllSent (g : Gatekeeper) : Prop :=
  g.keeper.granted ≠ none → ∃ n, g.sock.outbox =
    List.replicate n (.byte PRIV_SOCK_RESULT_BAD) ++ [.byte PRIV_SOCK_RESULT_OK]

def Answered : Except Ending Unit × Gatekeeper → Prop
  | (.ok _, g) => Guarded auth tun g ∧ AllSent g
  | (.error e, g) => Guarded auth tun g ∧ GateEnds e

end Invariant

section Proofs
variable {peer : Peer} {auth : List Attempt → Attempt → PamResult} {tun : LoginTunables}
  {s t : Sock} {k l : Keeper} {g : Gatekeeper} {user pass : MyStr}

theorem gateSock_ok {α : Type} {m : Messages α} {a : α} (h : m s = (.ok a, t)) :
    within gateSock m ⟨s, k⟩ = (.ok a, ⟨t, k⟩) := within_ok h

theorem gateSock_error {α : Type} {m : Messages α} {e : Ending} (h : m s = (.error e, t)) :
    within gateSock m ⟨s, k⟩ = (.error e, ⟨t, k⟩) := within_error h

theorem gateKeeper_ok {α : Type} {m : Login α} {a : α} (h : m k = (.ok a, l)) :
    within gateKeeper m ⟨s, k⟩ = (.ok a, ⟨s, l⟩) := within_ok h

theorem gateKeeper_error {α : Type} {m : Login α} {e : Ending} (h : m k = (.error e, l)) :
    within gateKeeper m ⟨s, k⟩ = (.error e, ⟨s, l⟩) := within_error h

theorem printable_bounds {c : UInt8} (hp : sysutilIsprint c = true) (hs : sysutilIsspace c = false) :
    33 ≤ c ∧ c ≤ 126 := by
  unfold sysutilIsprint at hp
  unfold sysutilIsspace at hs
  simp only [UInt8.le_iff_toNat_le, Bool.if_false_left, Bool.and_eq_true, Bool.not_eq_true',
    decide_eq_false_iff_not, decide_eq_true_eq, Bool.or_eq_false_iff, Bool.and_eq_false_iff,
    beq_eq_false_iff_ne, ne_eq, ← UInt8.toNat_inj] at hp hs ⊢
  simp only [UInt8.reduceToNat] at hp hs ⊢
  omega

theorem sane_of_checks (hlen : ¬ (user.length = 0 ∨ user.length > vsftpUsernameMax))
    (hfirst : ¬ (¬ sysutilIsalnum (user.headD 0) = true ∧ user.headD 0 ≠ underscore ∧ user.headD 0 ≠ dot))
    (hall : ¬ (strContainsSpace user = true ∨ strContainsUnprintable user = true)) : Sane user := by
  refine ⟨by omega, by tauto, fun c hc => ?_⟩
  rw [not_or, strContainsSpace, strContainsUnprintable] at hall
  refine printable_bounds ?_ ?_
  · by_contra hno
    exact hall.2 (List.any_eq_true.mpr ⟨c, hc, by simpa using hno⟩)
  · by_contra hno
    exact hall.1 (List.any_eq_true.mpr ⟨c, hc, by simpa using hno⟩)

/-- A question has been put to PAM, which has this name since. -/
def Keeper.asked (k : Keeper) (a : Attempt) (user : MyStr) : Keeper :=
  { k with attempts := k.attempts ++ [a], userStr := user }

/-- All that `vsf_privop_do_login` does. -/
theorem vsfPrivopDoLogin_cases (auth : List Attempt → Attempt → PamResult) (tun : LoginTunables)
    (pass : MyStr) (k : Keeper) :
    vsfPrivopDoLogin auth tun pass k = (.ok .fail, k) ∨
    (Proper tun ⟨k.userStr, pass, k.controlUseSsl⟩ ∧
      vsfPrivopDoLogin auth tun pass k =
        (.ok (if (auth k.attempts ⟨k.userStr, pass, k.controlUseSsl⟩).accepted then .real else .fail),
          k.asked ⟨k.userStr, pass, k.controlUseSsl⟩
            (auth k.attempts ⟨k.userStr, pass, k.controlUseSsl⟩).user)) ∨
    (tun.anonymousEnable = true ∧ isAnonymousName k.userStr = true ∧ EmailAccepted tun pass ∧
      vsfPrivopDoLogin auth tun pass k =
        (.ok .anon, { k with userStr := tun.ftpUsername.getD [], anonPassStr := anonIdentity pass })) ∨
    (tun.localEnable = false ∧ ¬ (tun.anonymousEnable = true ∧ isAnonymousName k.userStr = true) ∧
      vsfPrivopDoLogin auth tun pass k =
        (.error (.died "unexpected local login in handle_login"), k)) := by
  have hstart : vsfPrivopDoLogin auth tun pass k = handleLogin auth tun k.userStr pass k := by
    unfold vsfPrivopDoLogin
    rw [bind_ok (get_run k)]
  rw [hstart]
  unfold handleLogin
  by_cases hlen : k.userStr.length = 0 ∨ k.userStr.length > vsftpUsernameMax
  · rw [if_pos hlen]
    exact Or.inl rfl
  rw [if_neg hlen]
  by_cases hfirst : ¬ sysutilIsalnum (k.userStr.headD 0) = true ∧ k.userStr.headD 0 ≠ underscore ∧
      k.userStr.headD 0 ≠ dot
  · rw [if_pos hfirst]
    exact Or.inl rfl
  rw [if_neg hfirst]
  by_cases hall : strContainsSpace k.userStr = true ∨ strContainsUnprintable k.userStr = true
  · rw [if_pos hall]
    exact Or.inl rfl
  rw [if_neg hall]
  by_cases hpass : pass.length > vsftpPasswordMax
  · rw [if_pos hpass]
    exact Or.inl rfl
  rw [if_neg hpass]
  by_cases hanon : tun.anonymousEnable = true ∧ isAnonymousName k.userStr = true
  · rw [if_pos hanon]
    unfold handleAnonymousLogin
    by_cases hban : tun.bannedEmailStr ≠ [] ∧ strContainsLine tun.bannedEmailStr pass = true
    · rw [if_pos hban]
      exact Or.inl rfl
    rw [if_neg hban]
    by_cases hmail : tun.emailPasswordsStr ≠ [] ∧
        (¬ strContainsLine tun.emailPasswordsStr pass = true ∨ pass = [])
    · rw [if_pos hmail]
      exact Or.inl rfl
    · rw [if_neg hmail]
      exact Or.inr (Or.inr (Or.inl ⟨hanon.1, hanon.2, ⟨hban, by tauto⟩, rfl⟩))
  rw [if_neg hanon]
  by_cases hlocal : tun.localEnable = true
  · rw [if_neg (not_not.mpr hlocal)]
    refine Or.inr (Or.inl ⟨⟨sane_of_checks hlen hfirst hall, not_lt.mp hpass, hlocal, hanon⟩, ?_⟩)
    obtain ⟨answer, hanswer⟩ : ∃ r, auth k.attempts ⟨k.userStr, pass, k.controlUseSsl⟩ = r := ⟨_, rfl⟩
    have hask : sysdepCheckAuth auth k.userStr pass k =
        (.ok answer.accepted, k.asked ⟨k.userStr, pass, k.controlUseSsl⟩ answer.user) := by
      rw [← hanswer]
      rfl
    unfold handleLocalLogin
    rw [bind_ok hask, hanswer]
    obtain ⟨accepted, name⟩ := answer
    cases accepted with
    | false => rfl
    | true =>
      change ((get : Login Keeper) >>= _) _ = _
      rw [bind_ok (get_run _)]
      rfl
  · rw [if_pos hlocal]
    exact Or.inr (Or.inr (Or.inr ⟨by simpa using hlocal, hanon, rfl⟩))

/-- One byte of an answer: it is sent, or the parent ends before or after it. -/
inductive Delivered (s : Sock) (k : Keeper) (b : UInt8) : Except Ending Unit × Gatekeeper → Prop
  | sent : Delivered s k b (.ok (), ⟨⟨s.inbox, s.outbox ++ [.byte b]⟩, k⟩)
  | unsent (e : Ending) (he : e = .died "priv_sock_send_result" ∨ Interrupted e) :
    Delivered s k b (.error e, ⟨s, k⟩)
  | last (e : Ending) (he : e = .died "priv_sock_send_result" ∨ Interrupted e) :
    Delivered s k b (.error e, ⟨⟨s.inbox, s.outbox ++ [.byte b]⟩, k⟩)

theorem sendResult_delivered (peer : Peer) (b : UInt8) (s : Sock) (k : Keeper) :
    Delivered s k b (within gateSock (privSockSendResult peer b) ⟨s, k⟩) := by
  unfold privSockSendResult
  rcases sendBytes_cases peer s "priv_sock_send_result" [b] with hrun | ⟨e, written, he, hrun⟩
  · rw [gateSock_ok hrun]
    exact Delivered.sent
  · rw [gateSock_error hrun]
    cases written with
    | zero =>
      rw [List.take_zero, List.map_nil, List.append_nil]
      exact Delivered.unsent e he
    | succ n =>
      rw [List.take_succ_cons, List.take_nil]
      exact Delivered.last e he

/-- What an answer can be: a refusal, or the grant of a session. -/
inductive Answer (auth : List Attempt → Attempt → PamResult) (tun : LoginTunables) (s : Sock) (k : Keeper) :
    Except Ending Unit × Gatekeeper → Prop
  | refused (k' : Keeper) (hk : k' = k ∨ ∃ a name, Proper tun a ∧ k' = k.asked a name)
      (r : Except Ending Unit × Gatekeeper) (hr : Delivered s k' PRIV_SOCK_RESULT_BAD r) :
    Answer auth tun s k r
  | granted (gr : Grant) (k' : Keeper) (hgr : Entitled auth tun k'.attempts gr)
      (hk : k'.attempts = k.attempts ∨ ∃ a, Proper tun a ∧ k'.attempts = k.attempts ++ [a])
      (hg : k'.granted = some gr)
      (r : Except Ending Unit × Gatekeeper) (hr : Delivered s k' PRIV_SOCK_RESULT_OK r) :
    Answer auth tun s k r
  | unexpected : Answer auth tun s k (.error (.died "unexpected local login in handle_login"), ⟨s, k⟩)
  | unreadable (k' : Keeper) (hk : ∃ a name, Proper tun a ∧ k' = k.asked a name) :
    Answer auth tun s k (.error (.died "could not read chroot() list file:"), ⟨s, k'⟩)

theorem chrootDecision_cases (tun : LoginTunables) (user : MyStr) (k : Keeper) :
    (∃ b, chrootDecision tun user k = (.ok b, k) ∧ ChrootDecided tun user b) ∨
    ((tun.chrootListEnable = true ∧ tun.chrootList = none) ∧
      chrootDecision tun user k = (.error (.died "could not read chroot() list file:"), k)) := by
  unfold chrootDecision
  by_cases hen : tun.chrootListEnable = true
  · rw [if_pos hen]
    cases hlist : tun.chrootList with
    | none => exact Or.inr ⟨⟨hen, rfl⟩, rfl⟩
    | some list =>
      refine Or.inl ⟨_, rfl, Or.inr ⟨list, hlist, hen, ?_⟩⟩
      cases strContainsLine list user <;> simp
  · rw [if_neg hen]
    exact Or.inl ⟨_, rfl, Or.inl ⟨by simpa using hen, rfl⟩⟩

theorem answerLogin_fail (s : Sock) (h : vsfPrivopDoLogin auth tun pass k = (.ok .fail, l)) :
    answerLogin peer auth tun pass ⟨s, k⟩ =
      within gateSock (privSockSendResult peer PRIV_SOCK_RESULT_BAD) ⟨s, l⟩ := by
  unfold answerLogin
  rw [bind_ok (gateKeeper_ok h)]

/-- The grant is decided before it is sent. -/
theorem commonDoLogin_sends (doChroot anon : Bool) (s : Sock) (k : Keeper) :
    commonDoLogin peer doChroot anon ⟨s, k⟩ =
      within gateSock (privSockSendResult peer.withoutSigchld PRIV_SOCK_RESULT_OK)
        ⟨s, k.grant doChroot anon⟩ := rfl

theorem answerLogin_anon (s : Sock) (h : vsfPrivopDoLogin auth tun pass k = (.ok .anon, l)) :
    answerLogin peer auth tun pass ⟨s, k⟩ =
      commonDoLogin peer true true ⟨s, { l with userStr := tun.ftpUsername.getD [] }⟩ := by
  unfold answerLogin
  rw [bind_ok (gateKeeper_ok h)]
  rfl

theorem answerLogin_error (s : Sock) {e : Ending} (h : vsfPrivopDoLogin auth tun pass k = (.error e, l)) :
    answerLogin peer auth tun pass ⟨s, k⟩ = (.error e, ⟨s, l⟩) := by
  unfold answerLogin
  rw [bind_error (gateKeeper_error h)]

/-- After PAM has accepted, only the decision about the jail is left. -/
theorem answerLogin_real (s : Sock) (h : vsfPrivopDoLogin auth tun pass k = (.ok .real, l)) :
    (∃ b, ChrootDecided tun l.userStr b ∧
      answerLogin peer auth tun pass ⟨s, k⟩ = commonDoLogin peer b false ⟨s, l⟩) ∨
    ((tun.chrootListEnable = true ∧ tun.chrootList = none) ∧ answerLogin peer auth tun pass ⟨s, k⟩ =
      (.error (.died "could not read chroot() list file:"), ⟨s, l⟩)) := by
  have hget : (do chrootDecision tun (← get).userStr : Login Bool) l =
      chrootDecision tun l.userStr l := by
    rw [bind_ok (get_run l)]
  unfold answerLogin
  rw [bind_ok (gateKeeper_ok h)]
  dsimp only
  rcases chrootDecision_cases tun l.userStr l with ⟨b, hdec, hb⟩ | ⟨hlist, hdec⟩
  · rw [bind_ok (gateKeeper_ok (hget.trans hdec))]
    exact Or.inl ⟨b, hb, rfl⟩
  · rw [bind_error (gateKeeper_error (hget.trans hdec))]
    exact Or.inr ⟨hlist, rfl⟩

theorem answerLogin_answer (peer : Peer) (s : Sock) (k : Keeper) (pass : MyStr) :
    Answer auth tun s k (answerLogin peer auth tun pass ⟨s, k⟩) := by
  rcases vsfPrivopDoLogin_cases auth tun pass k with hrun | ⟨hp, hrun⟩ | ⟨hen, hname, hmail, hrun⟩ |
    ⟨hlocal, hanon, hrun⟩
  · rw [answerLogin_fail s hrun]
    exact Answer.refused k (Or.inl rfl) _ (sendResult_delivered _ _ _ _)
  · cases hauth : (auth k.attempts ⟨k.userStr, pass, k.controlUseSsl⟩).accepted with
    | false =>
      rw [hauth] at hrun
      rw [answerLogin_fail s hrun]
      exact Answer.refused _ (Or.inr ⟨_, _, hp, rfl⟩) _ (sendResult_delivered _ _ _ _)
    | true =>
      rw [hauth] at hrun
      rcases answerLogin_real s hrun with ⟨b, hb, hanswer⟩ | ⟨hlist, hanswer⟩
      · rw [hanswer, commonDoLogin_sends]
        refine Answer.granted _ _ ?_ (Or.inr ⟨_, hp, rfl⟩) rfl _ (sendResult_delivered _ _ _ _)
        exact Or.inr ⟨rfl, ⟨k.attempts, _, rfl, hp, hauth, rfl⟩, hb⟩
      · rw [hanswer]
        exact Answer.unreadable _ ⟨_, _, hp, rfl⟩
  · rw [answerLogin_anon s hrun, commonDoLogin_sends]
    let named : Keeper := { k with
      userStr := tun.ftpUsername.getD [], anonPassStr := anonIdentity pass }
    have hdone:=sendResult_delivered peer.withoutSigchld PRIV_SOCK_RESULT_OK s (named.grant true true)
    have hentitled : Entitled auth tun k.attempts ⟨tun.ftpUsername.getD [], anonIdentity pass, true, true,
        k.controlUseSsl, k.dataUseSsl⟩ := Or.inl ⟨rfl, hen, rfl, rfl, pass, hmail, rfl⟩
    have hasked : (named.grant true true).attempts = k.attempts := rfl
    exact Answer.granted _ (named.grant true true) hentitled (Or.inl hasked) rfl _ hdone
  · rw [answerLogin_error s hrun]
    exact Answer.unexpected

theorem GateEnds.message {m : String} (h : GateEnds (.died m)) {e : Ending}
    (he : e = .died m ∨ Interrupted e) : GateEnds e := by
  rcases he with rfl | hsignal
  · exact h
  · exact Or.inl hsignal

theorem gateEnds_result : GateEnds (.died "priv_sock_send_result") := Or.inr ⟨_, by simp, rfl⟩

theorem gateEnds_cmd : GateEnds (.died "priv_sock_get_cmd") := Or.inr ⟨_, by simp, rfl⟩

theorem gateEnds_int : GateEnds (.died "priv_sock_get_int") := Or.inr ⟨_, by simp, rfl⟩

theorem GateEnds.str {e : Ending} (he : Interrupted e ∨ ∃ message ∈ ["priv_sock_get_int",
    "priv_sock_get_str: too big", "priv_sock_get_str: read error"], e = .died message) : GateEnds e := by
  rcases he with hsignal | ⟨message, hm, rfl⟩
  · exact Or.inl hsignal
  · refine Or.inr ⟨message, ?_, rfl⟩
    simp only [List.mem_cons, List.not_mem_nil, or_false] at hm ⊢
    tauto

/-- A refusal on its way. -/
theorem Delivered.refusal {r : Except Ending Unit × Gatekeeper} {n : ℕ}
    (hr : Delivered s k PRIV_SOCK_RESULT_BAD r) (hn : k.granted = none)
    (hproper : ∀ a ∈ k.attempts, Proper tun a)
    (hout : s.outbox = List.replicate n (.byte PRIV_SOCK_RESULT_BAD)) : Answered auth tun r := by
  have hno : ∀ gr, k.granted = some gr → Entitled auth tun k.attempts gr := by
    intro gr hgr
    cases hn.symm.trans hgr
  have hsent : s.outbox ++ [.byte PRIV_SOCK_RESULT_BAD] =
      List.replicate (n + 1) (.byte PRIV_SOCK_RESULT_BAD) := by
    rw [List.replicate_succ', hout]
  cases hr with
  | sent => exact ⟨⟨hproper, ⟨n + 1, Or.inl hsent⟩, hno⟩, fun hg => absurd hn hg⟩
  | unsent e he => exact ⟨⟨hproper, ⟨n, Or.inl hout⟩, hno⟩, gateEnds_result.message he⟩
  | last e he => exact ⟨⟨hproper, ⟨n + 1, Or.inl hsent⟩, hno⟩, gateEnds_result.message he⟩

/-- A grant on its way. -/
theorem Delivered.grant {r : Except Ending Unit × Gatekeeper} {n : ℕ} {gr : Grant}
    (hr : Delivered s k PRIV_SOCK_RESULT_OK r) (hg : k.granted = some gr)
    (hproper : ∀ a ∈ k.attempts, Proper tun a) (hgr : Entitled auth tun k.attempts gr)
    (hout : s.outbox = List.replicate n (.byte PRIV_SOCK_RESULT_BAD)) : Answered auth tun r := by
  have honly : ∀ gr', k.granted = some gr' → Entitled auth tun k.attempts gr' := by
    intro gr' hgr'
    cases hg.symm.trans hgr'
    exact hgr
  have hsome : k.granted ≠ none := by
    rw [hg]
    exact Option.some_ne_none gr
  have hsent : s.outbox ++ [.byte PRIV_SOCK_RESULT_OK] =
      List.replicate n (.byte PRIV_SOCK_RESULT_BAD) ++ [.byte PRIV_SOCK_RESULT_OK] := by
    rw [hout]
  cases hr with
  | sent => exact ⟨⟨hproper, ⟨n, Or.inr ⟨hsome, hsent⟩⟩, honly⟩, fun _ => ⟨n, hsent⟩⟩
  | unsent e he => exact ⟨⟨hproper, ⟨n, Or.inl hout⟩, honly⟩, gateEnds_result.message he⟩
  | last e he => exact ⟨⟨hproper, ⟨n, Or.inr ⟨hsome, hsent⟩⟩, honly⟩, gateEnds_result.message he⟩

/-- The parent stays guarded by what it answers. -/
theorem Guarded.answered (h : Guarded auth tun ⟨s, k⟩) (hn : k.granted = none)
    {r : Except Ending Unit × Gatekeeper} (hr : Answer auth tun s k r) : Answered auth tun r := by
  obtain ⟨n, hout⟩ : ∃ n, s.outbox = List.replicate n (.byte PRIV_SOCK_RESULT_BAD) := by
    obtain ⟨n, hout | ⟨hsome, _⟩⟩ := h.replies
    · exact ⟨n, hout⟩
    · exact absurd hn hsome
  have hgrown : ∀ {k' : Keeper} {a : Attempt}, Proper tun a → k'.attempts = k.attempts ++ [a] →
      ∀ b ∈ k'.attempts, Proper tun b := by
    intro k' a ha hk b hb
    rw [hk, List.mem_append, List.mem_singleton] at hb
    rcases hb with hb | rfl
    · exact h.proper b hb
    · exact ha
  cases hr with
  | refused k' hk _ hr =>
    rcases hk with rfl | ⟨a, name, ha, rfl⟩
    · exact hr.refusal hn h.proper hout
    · exact hr.refusal hn (hgrown ha rfl) hout
  | granted gr k' hgr hk hg _ hr =>
    rcases hk with hk | ⟨a, ha, hk⟩
    · exact hr.grant hg (hk ▸ h.proper) hgr hout
    · exact hr.grant hg (hgrown ha hk) hgr hout
  | unexpected => exact ⟨h, Or.inr ⟨_, by simp, rfl⟩⟩
  | unreadable k' hk =>
    obtain ⟨a, name, ha, rfl⟩ := hk
    refine ⟨⟨hgrown ha rfl, ⟨n, Or.inl hout⟩, fun gr hgr => ?_⟩, Or.inr ⟨_, by simp, rfl⟩⟩
    cases hn.symm.trans hgr

/-- Reading changes nothing that matters. -/
theorem Guarded.reading (h : Guarded auth tun ⟨s, k⟩) (inbox : List Item) :
    Guarded auth tun ⟨⟨inbox, s.outbox⟩, k⟩ := ⟨h.proper, h.replies, h.entitled⟩

/-- One request, whatever it is. -/
theorem processLoginReq_answered (h : Guarded auth tun g) (hn : g.keeper.granted = none) :
    Answered auth tun (processLoginReq peer auth tun g) := by
  obtain ⟨s, k⟩ := g
  unfold processLoginReq privSockGetCmd
  rcases getChar_cases peer s "priv_sock_get_cmd" with ⟨cmd, i₁, hread⟩ | ⟨e, i₁, he, hread⟩
  · rw [bind_ok (gateSock_ok hread)]
    by_cases hcmd : cmd ≠ PRIV_SOCK_LOGIN
    · rw [if_pos hcmd]
      exact ⟨h.reading i₁, Or.inr ⟨_, by simp, rfl⟩⟩
    rw [if_neg hcmd]
    beta_reduce
    rcases getStr_cases peer ⟨i₁, s.outbox⟩ with ⟨user, i₂, huser⟩ | ⟨e, i₂, he, huser⟩
    · rw [bind_ok (gateSock_ok huser)]
      rcases getStr_cases peer ⟨i₂, s.outbox⟩ with ⟨pass, i₃, hpass⟩ | ⟨e, i₃, he, hpass⟩
      · rw [bind_ok (gateSock_ok hpass)]
        rcases getInt_cases peer ⟨i₃, s.outbox⟩ with ⟨control, i₄, hcontrol⟩ | ⟨e, i₄, he, hcontrol⟩
        · rw [bind_ok (gateSock_ok hcontrol)]
          rcases getInt_cases peer ⟨i₄, s.outbox⟩ with ⟨data, i₅, hdata⟩ | ⟨e, i₅, he, hdata⟩
          · have hset : within gateKeeper (modify fun k => k.asking tun user control data : Login Unit)
                ⟨⟨i₅, s.outbox⟩, k⟩ = (.ok (), ⟨⟨i₅, s.outbox⟩, k.asking tun user control data⟩) := rfl
            rw [bind_ok (gateSock_ok hdata), bind_ok hset]
            have hasking : Guarded auth tun ⟨⟨i₅, s.outbox⟩, k.asking tun user control data⟩ :=
              ⟨h.proper, h.replies, h.entitled⟩
            exact hasking.answered hn (answerLogin_answer _ _ _ pass)
          · rw [bind_error (gateSock_error hdata)]
            exact ⟨h.reading i₅, gateEnds_int.message he⟩
        · rw [bind_error (gateSock_error hcontrol)]
          exact ⟨h.reading i₄, gateEnds_int.message he⟩
      · rw [bind_error (gateSock_error hpass)]
        exact ⟨h.reading i₃, GateEnds.str he⟩
    · rw [bind_error (gateSock_error huser)]
      exact ⟨h.reading i₂, GateEnds.str he⟩
  · rw [bind_error (gateSock_error hread)]
    exact ⟨h.reading i₁, gateEnds_cmd.message he⟩

variable (peer) in
/-- The loop, by induction on the number of requests. -/
theorem vsfTwoProcessStart_answered (n : ℕ) (h : Guarded auth tun g) (hn : g.keeper.granted = none) :
    Answered auth tun (vsfTwoProcessStart peer auth tun n g) := by
  induction n generalizing g with
  | zero => exact ⟨h, fun hsome => absurd hn hsome⟩
  | succ n ih =>
    have hfirst : Answered auth tun (processLoginReq peer auth tun g) := processLoginReq_answered h hn
    unfold vsfTwoProcessStart
    generalize hr : processLoginReq peer auth tun g = r at hfirst
    obtain ⟨r, g'⟩ := r
    cases r with
    | ok u =>
      rw [bind_ok hr, bind_ok (get_run g')]
      cases hgr : g'.keeper.granted with
      | none => exact ih hfirst.1 hgr
      | some gr => exact hfirst
    | error e =>
      rw [bind_error hr]
      exact hfirst

end Proofs

theorem gateStart_guarded (auth : List Attempt → Attempt → PamResult) (tun : LoginTunables)
    (inbox : List Item) : Guarded auth tun (gateStart inbox) :=
  ⟨fun _ h => absurd h List.not_mem_nil, ⟨0, Or.inl rfl⟩, fun _ h => absurd h.symm (Option.some_ne_none _)⟩

/-- The parent is guarded however the login ends. -/
theorem vsfTwoProcessStart_guarded (peer : Peer) (auth : List Attempt → Attempt → PamResult)
    (tun : LoginTunables) (inbox : List Item) (n : ℕ) :
    Guarded auth tun (vsfTwoProcessStart peer auth tun n (gateStart inbox)).2 := by
  have hanswered:=vsfTwoProcessStart_answered peer n (gateStart_guarded auth tun inbox) rfl
  generalize vsfTwoProcessStart peer auth tun n (gateStart inbox) = r at hanswered ⊢
  obtain ⟨r, g⟩ := r
  cases r with
  | ok u => exact hanswered.1
  | error e => exact hanswered.1

/-- Whatever the process before the login sends, and whether or not it takes the
answers, the parent asks PAM only about local users with proper names and
passwords, answers yes once at most, after refusals only, and only when it grants
a session to who is entitled to it. -/
theorem login_guarded (peer : Peer) (auth : List Attempt → Attempt → PamResult) (tun : LoginTunables)
    (inbox : List Item) (n : ℕ) :
    let r := vsfTwoProcessStart peer auth tun n (gateStart inbox)
    (∀ a ∈ r.2.keeper.attempts, Proper tun a) ∧
      (∃ m, r.2.sock.outbox = List.replicate m (.byte PRIV_SOCK_RESULT_BAD) ∨
        (r.2.keeper.granted ≠ none ∧ r.2.sock.outbox =
          List.replicate m (.byte PRIV_SOCK_RESULT_BAD) ++ [.byte PRIV_SOCK_RESULT_OK])) ∧
      (r.1 = .ok () → r.2.keeper.granted ≠ none → ∃ m, r.2.sock.outbox =
        List.replicate m (.byte PRIV_SOCK_RESULT_BAD) ++ [.byte PRIV_SOCK_RESULT_OK]) ∧
      (∀ gr, r.2.keeper.granted = some gr → Entitled auth tun r.2.keeper.attempts gr) ∧
      ∀ e, r.1 = .error e → GateEnds e := by
  have hanswered:=vsfTwoProcessStart_answered peer n (gateStart_guarded auth tun inbox) rfl
  intro r
  change Answered auth tun r at hanswered
  obtain ⟨r, g⟩ := r
  cases r with
  | ok u =>
    refine ⟨hanswered.1.proper, hanswered.1.replies, fun _ => hanswered.2, hanswered.1.entitled,
      fun _ h => ?_⟩
    cases h
  | error e =>
    refine ⟨hanswered.1.proper, hanswered.1.replies, fun h => ?_, hanswered.1.entitled, fun _ h => ?_⟩
    · cases h
    cases h
    exact hanswered.2

end BoardServices.Vsftpd
