import BoardServices.Vsftpd.Login

/-!
# The same login in both models (vsftpd-3.0.3/twoprocess.c, oneprocess.c)

The process before the login leaves the name and the password to its parent and
gets a verdict of one byte. This is the verdict of `vsf_privop_do_login`, which
the one process model calls directly.
-/

namespace BoardServices.Vsftpd
open Lib.Process

/-- How the process before the login goes on: with its next command, by
`exit(0)`, by forwarding what SSL protects, or with the session. -/
inductive AfterLogin
  | again
  | exits
  | sslSlave
  | postLogin
deriving DecidableEq, Repr

/-- The process before the login, its parent, and what is on its way. -/
structure Lobby where
  toChild : List Item
  toParent : List Item
  keeper : Keeper

abbrev Prelogin := ExceptT Ending (StateM Lobby)

def lobbyChild : Lens Lobby Sock :=
  ⟨fun w => ⟨w.toChild, w.toParent⟩, fun s w => { w with toChild := s.inbox, toParent := s.outbox }⟩

def lobbyParent : Lens Lobby Gatekeeper :=
  ⟨fun w => ⟨⟨w.toParent, w.toChild⟩, w.keeper⟩, fun g _ => ⟨g.sock.outbox, g.sock.inbox, g.keeper⟩⟩

section Models
variable (auth : List Attempt → Attempt → PamResult) (tun : LoginTunables)

/-- What `vsf_two_process_login` makes of the answer. -/
def loginResult (controlUseSsl : ℤ) (result : UInt8) : Prelogin AfterLogin :=
  if result = PRIV_SOCK_RESULT_OK then return if controlUseSsl = 0 then .exits else .sslSlave
  else if result = PRIV_SOCK_RESULT_BAD then return .again
  else throw (.died "priv_sock_get_result")

/-- The parent serves while the child waits, and the child does not outlive it. Each
takes what the other sends. -/
def vsfTwoProcessLogin (user pass : MyStr) (controlUseSsl dataUseSsl : ℤ) : Prelogin AfterLogin := do
  within lobbyChild (privSockSendCmd alive PRIV_SOCK_LOGIN)
  within lobbyChild (privSockSendStr alive user)
  within lobbyChild (privSockSendStr alive pass)
  within lobbyChild (privSockSendInt alive controlUseSsl)
  within lobbyChild (privSockSendInt alive dataUseSsl)
  within lobbyParent (processLoginReq alive auth tun)
  let result ← within lobbyChild (privSockGetResult alive)
  loginResult controlUseSsl result

/-- Only anonymous users are known here. -/
def vsfOneProcessLogin (pass : MyStr) : Login AfterLogin := do
  match ← vsfPrivopDoLogin auth tun pass with
  | .fail => return .again
  | .anon => return .postLogin
  | .real => throw (.bug "bad state in vsf_one_process_login")

end Models

section Agreement
variable {auth : List Attempt → Attempt → PamResult} {tun : LoginTunables} {k k' : Keeper}
  {user pass : MyStr} {c d : ℤ} {e : Ending} {rest out : List Item}

/-- The whole of a request. -/
def loginItems (user pass : MyStr) (c d : ℤ) : List Item :=
  .byte PRIV_SOCK_LOGIN :: (strItems user ++ (strItems pass ++ (intItems c ++ intItems d)))

theorem answerLogin_refuses (h : vsfPrivopDoLogin auth tun pass k = (.ok .fail, k')) :
    answerLogin alive auth tun pass ⟨⟨[], []⟩, k⟩ = (.ok (), ⟨⟨[], [.byte PRIV_SOCK_RESULT_BAD]⟩, k'⟩) :=
  (answerLogin_fail _ h).trans (gateSock_ok (sendResult_run _ _))

theorem commonDoLogin_run (doChroot anon : Bool) (k : Keeper) :
    commonDoLogin alive doChroot anon ⟨⟨[], []⟩, k⟩ =
      (.ok (), ⟨⟨[], [.byte PRIV_SOCK_RESULT_OK]⟩, k.grant doChroot anon⟩) :=
  (commonDoLogin_sends doChroot anon _ k).trans (gateSock_ok (sendResult_run _ _))

theorem processLoginReq_run (hu : user.length ≤ privSockMaxstr) (hp : pass.length ≤ privSockMaxstr)
    (hc : -2 ^ 31 ≤ c ∧ c < 2 ^ 31) (hd : -2 ^ 31 ≤ d ∧ d < 2 ^ 31) :
    processLoginReq alive auth tun ⟨⟨loginItems user pass c d, out⟩, k⟩ =
      answerLogin alive auth tun pass ⟨⟨[], out⟩, k.asking tun user c d⟩ := by
  have hcmd : privSockGetCmd alive ⟨loginItems user pass c d, out⟩ =
      (.ok PRIV_SOCK_LOGIN, ⟨strItems user ++ (strItems pass ++ (intItems c ++ intItems d)), out⟩) :=
    getChar_run _ _
  have hlast : privSockGetInt alive ⟨intItems d, out⟩ = (.ok d, ⟨[], out⟩) := by
    have hget : privSockGetInt alive ⟨intItems d ++ [], out⟩ = (.ok d, ⟨[], out⟩) := getInt_run hd.1 hd.2
    rwa [List.append_nil] at hget
  unfold processLoginReq
  rw [bind_ok (gateSock_ok hcmd), if_neg (not_not.mpr rfl)]
  beta_reduce
  rw [bind_ok (gateSock_ok (getStr_run hu)), bind_ok (gateSock_ok (getStr_run hp)),
    bind_ok (gateSock_ok (getInt_run hc.1 hc.2)), bind_ok (gateSock_ok hlast)]
  rfl

theorem lobbyChild_run {s t : Sock} {α : Type} {m : Messages α} {a : α} (h : m s = (.ok a, t)) :
    within lobbyChild m ⟨s.inbox, s.outbox, k⟩ = (.ok a, ⟨t.inbox, t.outbox, k⟩) :=
  within_ok (L := lobbyChild) (s := ⟨s.inbox, s.outbox, k⟩) h

/-- Up to the parent's turn. -/
theorem vsfTwoProcessLogin_asks :
    vsfTwoProcessLogin auth tun user pass c d ⟨[], [], k⟩ =
      (do
        within lobbyParent (processLoginReq alive auth tun)
        let result ← within lobbyChild (privSockGetResult alive)
        loginResult c result : Prelogin AfterLogin) ⟨[], loginItems user pass c d, k⟩ := by
  have hcmd : within lobbyChild (privSockSendCmd alive PRIV_SOCK_LOGIN) ⟨[], [], k⟩ =
      (.ok (), ⟨[], [.byte PRIV_SOCK_LOGIN], k⟩) := rfl
  unfold vsfTwoProcessLogin
  rw [bind_ok hcmd, bind_ok (lobbyChild_run (sendStr_run user ⟨[], [.byte PRIV_SOCK_LOGIN]⟩)),
    bind_ok (lobbyChild_run (sendStr_run pass ⟨[], _⟩)), bind_ok (lobbyChild_run (sendInt_run c ⟨[], _⟩)),
    bind_ok (lobbyChild_run (sendInt_run d ⟨[], _⟩))]
  simp only [loginItems, List.append_assoc, List.cons_append, List.nil_append]

theorem lobbyParent_run {r : Except Ending Unit} {i o i' o' : List Item}
    (h : processLoginReq alive auth tun ⟨⟨i, o⟩, k⟩ = (r, ⟨⟨i', o'⟩, k'⟩)) :
    within lobbyParent (processLoginReq alive auth tun) ⟨o, i, k⟩ = (r, ⟨o', i', k'⟩) := by
  unfold within
  change ((processLoginReq alive auth tun ⟨⟨i, o⟩, k⟩).1,
    lobbyParent.put (processLoginReq alive auth tun ⟨⟨i, o⟩, k⟩).2 _) = _
  rw [h]
  rfl

section Request
variable (hu : user.length ≤ privSockMaxstr) (hp : pass.length ≤ privSockMaxstr)
  (hc : -2 ^ 31 ≤ c ∧ c < 2 ^ 31) (hd : -2 ^ 31 ≤ d ∧ d < 2 ^ 31)
include hu hp hc hd

theorem vsfTwoProcessLogin_answered {res : UInt8}
    (h : answerLogin alive auth tun pass ⟨⟨[], []⟩, k.asking tun user c d⟩ =
      (.ok (), ⟨⟨[], [.byte res]⟩, k'⟩)) :
    vsfTwoProcessLogin auth tun user pass c d ⟨[], [], k⟩ = loginResult c res ⟨[], [], k'⟩ := by
  have hread : within lobbyChild (privSockGetResult alive) ⟨[.byte res], [], k'⟩ =
      (.ok res, ⟨[], [], k'⟩) := rfl
  rw [vsfTwoProcessLogin_asks, bind_ok (lobbyParent_run ((processLoginReq_run hu hp hc hd).trans h)),
    bind_ok hread]

theorem vsfTwoProcessLogin_dies
    (h : answerLogin alive auth tun pass ⟨⟨[], []⟩, k.asking tun user c d⟩ = (.error e, ⟨⟨[], []⟩, k'⟩)) :
    vsfTwoProcessLogin auth tun user pass c d ⟨[], [], k⟩ = (.error e, ⟨[], [], k'⟩) := by
  rw [vsfTwoProcessLogin_asks, bind_error (lobbyParent_run ((processLoginReq_run hu hp hc hd).trans h))]

end Request

/-- The verdict of `vsf_privop_do_login` decides in both models. They differ for
a local user: the one process model has none. Whether one is confined goes by the
name that PAM has left. -/
theorem logins_agree (auth : List Attempt → Attempt → PamResult) (tun : LoginTunables) (k : Keeper)
    (user pass : MyStr) (c d : ℤ) (hu : user.length ≤ privSockMaxstr) (hp : pass.length ≤ privSockMaxstr)
    (hc : -2 ^ 31 ≤ c ∧ c < 2 ^ 31) (hd : -2 ^ 31 ≤ d ∧ d < 2 ^ 31) :
    let one := vsfOneProcessLogin auth tun pass (k.asking tun user c d)
    let two := vsfTwoProcessLogin auth tun user pass c d ⟨[], [], k⟩
    match vsfPrivopDoLogin auth tun pass (k.asking tun user c d) with
    | (.ok .fail, k') => one = (.ok .again, k') ∧ two = (.ok .again, ⟨[], [], k'⟩)
    | (.ok .anon, k') => one = (.ok .postLogin, k') ∧
        two = (.ok (if c = 0 then .exits else .sslSlave), ⟨[], [], k'.grant true true⟩)
    | (.ok .real, k') => one = (.error (.bug "bad state in vsf_one_process_login"), k') ∧
        ((∃ doChroot, ChrootDecided tun k'.userStr doChroot ∧
            two = (.ok (if c = 0 then .exits else .sslSlave), ⟨[], [], k'.grant doChroot false⟩)) ∨
          ((tun.chrootListEnable = true ∧ tun.chrootList = none) ∧
            two = (.error (.died "could not read chroot() list file:"), ⟨[], [], k'⟩)))
    | (.error e, k') => one = (.error e, k') ∧ two = (.error e, ⟨[], [], k'⟩) := by
  intro one two
  have hone : one = vsfOneProcessLogin auth tun pass (k.asking tun user c d) := rfl
  clear_value one
  generalize hk : k.asking tun user c d = k₀ at hone ⊢
  unfold vsfOneProcessLogin at hone
  have hasks : ∀ {l r}, answerLogin alive auth tun pass ⟨⟨[], []⟩, k₀⟩ = (.ok (), ⟨⟨[], [.byte r]⟩, l⟩) →
      two = loginResult c r ⟨[], [], l⟩ := fun h =>
    vsfTwoProcessLogin_answered hu hp hc hd (by rw [hk]; exact h)
  have hstops : ∀ {l e}, answerLogin alive auth tun pass ⟨⟨[], []⟩, k₀⟩ = (.error e, ⟨⟨[], []⟩, l⟩) →
      two = (.error e, ⟨[], [], l⟩) := fun h => vsfTwoProcessLogin_dies hu hp hc hd (by rw [hk]; exact h)
  have hrefused : ∀ {l}, vsfPrivopDoLogin auth tun pass k₀ = (.ok .fail, l) →
      one = (.ok .again, l) ∧ two = (.ok .again, ⟨[], [], l⟩) := by
    intro l h
    exact ⟨by rw [hone, bind_ok h]; rfl, hasks (answerLogin_refuses h)⟩
  rcases vsfPrivopDoLogin_cases auth tun pass k₀ with hrun | ⟨_, hrun⟩ | ⟨_, _, _, hrun⟩ | ⟨_, _, hrun⟩
  · rw [hrun]
    exact hrefused hrun
  · cases hauth : (auth k₀.attempts ⟨k₀.userStr, pass, k₀.controlUseSsl⟩).accepted with
    | false =>
      rw [hauth] at hrun
      rw [hrun]
      exact hrefused hrun
    | true =>
      rw [hauth] at hrun
      rw [hrun]
      refine ⟨by rw [hone, bind_ok hrun]; rfl, ?_⟩
      rcases answerLogin_real ⟨[], []⟩ hrun with ⟨b, hb, hanswer⟩ | ⟨hlist, hanswer⟩
      · exact Or.inl ⟨b, hb, hasks (hanswer.trans (commonDoLogin_run _ _ _))⟩
      · exact Or.inr ⟨hlist, hstops hanswer⟩
  · rw [hrun]
    exact ⟨by rw [hone, bind_ok hrun]; rfl,
      hasks ((answerLogin_anon _ hrun).trans (commonDoLogin_run _ _ _))⟩
  · rw [hrun]
    exact ⟨by rw [hone, bind_error hrun], hstops (answerLogin_error _ hrun)⟩

theorem logins_agree_anonymous :
    vsfTwoProcessLogin (fun _ a => ⟨false, a.user⟩) loginTunablesLoadDefaults (strAllocText "ftp") [] 0 0
        ⟨[], [], ⟨[], [], 0, 0, [], none⟩⟩ =
      (.ok .exits, ⟨[], [],
        (⟨strAllocText "ftp", strAllocText "?", 0, 0, [], none⟩ : Keeper).grant true true⟩) :=
  And.right (logins_agree (fun _ a => ⟨false, a.user⟩) loginTunablesLoadDefaults ⟨[], [], 0, 0, [], none⟩
    (strAllocText "ftp") [] 0 0 (by decide) (by decide) (by decide) (by decide))

end Agreement

end BoardServices.Vsftpd
