import BoardServices.Vsftpd.Login
import BoardServices.Vsftpd.Credentials

/-!
# What each process may do (vsftpd-3.0.3/twoprocess.c, postprivparent.c, oneprocess.c)

Each process that serves a client gives up root before: the one before the login,
the session, the parent that stays behind it and the process of the one process
model. Sandboxes are outside, and so are per user files that cannot be read.
-/

namespace BoardServices.Vsftpd
open Lib.Process

def handlePerUserConfig (tun : LoginTunables) (user : MyStr) : UserTunables :=
  match tun.userConfig with
  | none => tun.forAll
  | some file => if slash ∈ user then tun.forAll else (file user).getD tun.forAll

def UserTunables.substituted (ut : UserTunables) (dir origUser : MyStr) : MyStr :=
  match ut.userSubToken with
  | none => dir
  | some token => strReplaceText dir token origUser

structure SessionDirs where
  userdir : MyStr
  chroot : MyStr
  chdir : MyStr

structure FtpSession where
  user : MyStr
  isAnonymous : Bool
  isGuest : Bool
deriving DecidableEq, Repr

section Session
variable (host : Host)

def calculateChdirDir (ut : UserTunables) (anonLogin : Bool) (user origUser : MyStr) :
    Drop SessionDirs := do
  if anonLogin then return ⟨[], ut.anonRoot.getD [], []⟩
  else
    match host.getpwnam user with
    | none => throw (.died "cannot locate user entry:")
    | some pw =>
      let userdir := ut.substituted pw.homedir origUser
      if ut.passwdChrootEnable ∧ (strLocateText userdir (strAllocText "/./")).isSome then
        let split := strSplitText userdir (strAllocText "/./")
        return ⟨split.1, split.1, split.2⟩
      else return ⟨userdir, (ut.localRoot.map fun dir => ut.substituted dir origUser).getD [], []⟩

/-- A guest who is to have the rights of an anonymous user. -/
def UserTunables.remaps (ut : UserTunables) (g : Grant) : Bool :=
  ut.guestEnable && !g.anon && !ut.virtualUseLocalPrivs

def startSession (tun : LoginTunables) (g : Grant) : Drop FtpSession := do
  let ut := handlePerUserConfig tun g.user
  let isGuest := ut.guestEnable && !g.anon
  let user := if isGuest then ut.guestUsername.getD [] else g.user
  let anon := g.anon || ut.remaps g
  let dirs ← calculateChdirDir host ut g.anon user g.user
  vsfSecutilChangeCredentials host user dirs.userdir dirs.chroot []
    { chroot := g.doChroot || ut.remaps g
      useGroups := true
      changeEuid := !anon
      noFds := false
      noProcs := true
      allowWriteableRoot := !g.anon && ut.allowWriteableChroot }
  if dirs.chdir ≠ [] then discard (strChdir host dirs.chdir)
  return ⟨user, anon, isGuest⟩

end Session

section Confinement
variable {host : Host} {tun : LoginTunables} {g : Grant} {st : FtpSession} {root : Dir} {c c' : Cred}
  {dirs : SessionDirs} {ut : UserTunables} {user origUser : MyStr}

/-- The directory of a session is its root, and its user cannot write to it
unless that is allowed. -/
structure Jailed (host : Host) (root : Dir) (pw : User) (changeEuid writeable : Bool) (c : Cred)
    (dirStr extDirStr : MyStr) : Prop where
  reached : ∃ ids : Ids, ids.euid = (if changeEuid then pw.uid else 0) ∧ ids.groups = c.ids.groups ∧
    Reached host ids root root dirStr extDirStr true c.root
  unwritable : writeable = false → host.writable c.ids c.root = false

section Became
variable {pw : User} {dirStr extDirStr : MyStr} {caps : List Capability} {options : SecutilOptions}

theorem Became.permitted_only (hb : Became host pw dirStr extDirStr caps options (rootCred root) c)
    (hne : pw.uid ≠ 0) : c.permitted = caps := by
  rw [hb.permitted]
  by_cases hcaps : caps = []
  · have hnot : ¬ (pw.uid = 0 ∨ (rootCred root).keepCaps = true) := by
      rintro (h0 | hk)
      · exact hne h0
      · cases hk
    rw [if_neg (not_not.mpr hcaps), if_neg hnot, hcaps]
  · rw [if_pos hcaps]

theorem Became.jailed (hb : Became host pw dirStr extDirStr caps options (rootCred root) c)
    (hj : options.chroot = true) :
    Jailed host root pw options.changeEuid options.allowWriteableRoot c
      (if dirStr = [] then pw.homedir else dirStr) extDirStr := by
  obtain ⟨ids, heuid, hgroups, hd⟩ := hb.reached
  have hroot:=hb.root
  rw [if_pos hj] at hroot
  rw [hj] at hd
  refine ⟨⟨ids, heuid, hgroups, ?_⟩, hb.unwritable hj⟩
  rw [hroot]
  exact hd

end Became

/-- The user database is only read. -/
theorem calculateChdirDir_ok {anonLogin : Bool}
    (h : calculateChdirDir host ut anonLogin user origUser c = (.ok dirs, c')) :
    c' = c ∧ (anonLogin = true → dirs = ⟨[], ut.anonRoot.getD [], []⟩) := by
  unfold calculateChdirDir at h
  by_cases ha : anonLogin = true
  · rw [if_pos ha] at h
    cases h
    exact ⟨rfl, fun _ => rfl⟩
  · rw [if_neg ha] at h
    refine ⟨?_, fun hanon => absurd hanon ha⟩
    cases hpw : host.getpwnam user with
    | none =>
      rw [hpw] at h
      cases h
    | some pw =>
      rw [hpw] at h
      dsimp only at h
      split at h <;> (cases h; rfl)

/-- What becomes of root's process in a session. -/
theorem startSession_ok (h : startSession host tun g (rootCred root) = (.ok st, c)) :
    let ut := handlePerUserConfig tun g.user
    st = ⟨if ut.guestEnable && !g.anon then ut.guestUsername.getD [] else g.user,
        g.anon || ut.remaps g, ut.guestEnable && !g.anon⟩ ∧
      ∃ pw dirs, host.getpwnam st.user = some pw ∧
        calculateChdirDir host ut g.anon st.user g.user (rootCred root) = (.ok dirs, rootCred root) ∧
        c.ids = ⟨pw.uid, pw.uid, pw.uid, pw.gid, pw.gid, pw.gid, host.groupsOf pw⟩ ∧
        (pw.uid ≠ 0 → c.permitted = []) ∧
        if g.doChroot || ut.remaps g then
          Jailed host root pw (!st.isAnonymous) (!g.anon && ut.allowWriteableChroot) c
            (if dirs.userdir = [] then pw.homedir else dirs.userdir) dirs.chroot
        else c.root = root := by
  intro ut
  unfold startSession at h
  obtain ⟨dirs, c₁, hdirs, hrest⟩ := bind_eq_ok h
  obtain rfl:=(calculateChdirDir_ok hdirs).1
  obtain ⟨_, c₂, hchange, hrest₂⟩ := bind_eq_ok hrest
  obtain ⟨pw, hpw, hb | hkept⟩ := vsfSecutilChangeCredentials_ok ⟨rfl, rfl⟩ hchange
  swap
  · exact absurd rfl hkept.needed
  obtain ⟨c₃, hchdir, hrest₃⟩ := when_eq_ok hrest₂
  cases hrest₃
  -- the last `chdir()` may fail, and moves nothing else
  obtain ⟨d, rfl⟩ : ∃ d, c = { c₂ with cwd := d } := by
    rcases hchdir with ⟨_, hchdir⟩ | ⟨_, rfl⟩
    · obtain ⟨_, c₄, hmoved, hend⟩ := bind_eq_ok hchdir
      cases hend
      exact ⟨_, strChdir_ok hmoved⟩
    · exact ⟨_, rfl⟩
  refine ⟨rfl, pw, dirs, hpw, hdirs, hb.ids, hb.permitted_only, ?_⟩
  by_cases hj : (g.doChroot || ut.remaps g) = true
  · rw [if_pos hj]
    have hjailed:=hb.jailed hj
    exact ⟨hjailed.reached, hjailed.unwritable⟩
  · rw [if_neg hj]
    exact hb.root.trans (if_neg hj)

end Confinement

/-- Whatever was sent before the login: a session has all its ids from one entry
of the user database and no capability left of root. An anonymous one is in a
jail it cannot write to; a local one belongs to a user that PAM has accepted,
and is in a jail when the configuration says so. -/
theorem session_confined (peer : Peer) (auth : List Attempt → Attempt → PamResult)
    (tun : LoginTunables) (host : Host) (root : Dir) (inbox : List Item) (n : ℕ) (g : Grant)
    (st : FtpSession) (c : Cred)
    (hg : (vsfTwoProcessStart peer auth tun n (gateStart inbox)).2.keeper.granted = some g)
    (hs : startSession host tun g (rootCred root) = (.ok st, c)) :
    let attempts := (vsfTwoProcessStart peer auth tun n (gateStart inbox)).2.keeper.attempts
    let ut := handlePerUserConfig tun g.user
    ∃ pw, host.getpwnam st.user = some pw ∧
      c.ids = ⟨pw.uid, pw.uid, pw.uid, pw.gid, pw.gid, pw.gid, host.groupsOf pw⟩ ∧
      (pw.uid ≠ 0 → c.permitted = []) ∧
      ((tun.anonymousEnable = true ∧ st = ⟨tun.ftpUsername.getD [], true, false⟩ ∧
          Jailed host root pw false false c pw.homedir (ut.anonRoot.getD [])) ∨
        (Authenticated auth tun attempts g.user ∧
          st = ⟨if ut.guestEnable then ut.guestUsername.getD [] else g.user, ut.remaps g,
            ut.guestEnable⟩ ∧
          ∃ doChroot dirs, ChrootDecided tun g.user doChroot ∧
            calculateChdirDir host ut false st.user g.user (rootCred root) = (.ok dirs, rootCred root) ∧
            if doChroot || ut.remaps g then
              Jailed host root pw (!st.isAnonymous) ut.allowWriteableChroot c
                (if dirs.userdir = [] then pw.homedir else dirs.userdir) dirs.chroot
            else c.root = root)) := by
  intro attempts ut
  have hentitled:=(vsfTwoProcessStart_guarded peer auth tun inbox n).entitled g hg
  obtain ⟨hst, pw, dirs, hpw, hdirs, hids, hperm, hjail⟩ := startSession_ok hs
  refine ⟨pw, hpw, hids, hperm, ?_⟩
  rcases hentitled with ⟨hanon, hen, huser, hdo, _⟩ | ⟨hanon, hauth, hdec⟩
  · left
    have hroots:=(calculateChdirDir_ok hdirs).2 hanon
    rw [hdo, Bool.true_or, if_pos rfl, hroots, hst, hanon] at hjail
    refine ⟨hen, ?_, hjail⟩
    rw [hst, hanon, huser]
    simp
  · right
    rw [hanon] at hst hdirs hjail
    refine ⟨hauth, ?_, g.doChroot, dirs, hdec, hdirs, ?_⟩
    · rw [hst]
      simp [ut]
    · simpa using hjail

/-- One user, one directory for each path. -/
def smallHost (uid gid : ℕ) : Host where
  getpwnam _ := some ⟨uid, gid, strAllocText "/home"⟩
  groupsOf pw := [pw.gid]
  chdir _ _ _ path := some path.length
  chroots _ := true
  lstat _ := true
  writable _ _ := false
  hasCapabilities := true
  hasCapabilitiesAsNonRoot := true

/-- An anonymous user, and a local one whom PAM knows by another name. -/
theorem session_confined_both :
    (∃ pw, (smallHost 14 50).getpwnam (strAllocText "ftp") = some pw ∧
      Jailed (smallHost 14 50) 0 pw false false
        ⟨⟨14, 14, 14, 50, 50, 50, [50]⟩, [], false, 5, 5, false, true⟩ pw.homedir []) ∧
    (∃ pw, (smallHost 7 8).getpwnam (strAllocText "bob") = some pw ∧ pw.uid = 7 ∧
      Authenticated (fun _ _ => ⟨true, strAllocText "bob"⟩)
        { loginTunablesLoadDefaults with localEnable := true }
        [⟨strAllocText "BOB", strAllocText "secret", 0⟩] (strAllocText "bob")) := by
  constructor
  · obtain ⟨pw, hpw, _, _, ⟨_, _, hjail⟩ | ⟨⟨_, _, _, _, hno, _⟩, _⟩⟩ :=
      session_confined alive (fun _ a => ⟨false, a.user⟩) loginTunablesLoadDefaults (smallHost 14 50) 0
        (.byte PRIV_SOCK_LOGIN :: strItems (strAllocText "ftp") ++ strItems [] ++ intItems 0 ++
          intItems 0) 1
        ⟨strAllocText "ftp", strAllocText "?", true, true, 0, 0⟩ ⟨strAllocText "ftp", true, false⟩
        ⟨⟨14, 14, 14, 50, 50, 50, [50]⟩, [], false, 5, 5, false, true⟩ (by decide) rfl
    · exact ⟨pw, hpw, hjail⟩
    · cases hno
  · obtain ⟨pw, hpw, hids, _, ⟨_, hno, _⟩ | ⟨hauth, _⟩⟩ :=
      session_confined alive (fun _ _ => ⟨true, strAllocText "bob"⟩)
        { loginTunablesLoadDefaults with localEnable := true } (smallHost 7 8) 0
        (.byte PRIV_SOCK_LOGIN :: strItems (strAllocText "BOB") ++ strItems (strAllocText "secret") ++
          intItems 0 ++ intItems 0) 1
        ⟨strAllocText "bob", [], false, false, 0, 0⟩ ⟨strAllocText "bob", false, false⟩
        ⟨⟨7, 7, 7, 8, 8, 8, [8]⟩, [], false, 0, 5, false, true⟩ (by decide) rfl
    · cases hno
    · exact ⟨pw, hpw, (congrArg Ids.ruid hids).symm, hauth⟩

/-! ### The other processes -/

structure ProcessTunables extends LoginTunables where
  noprivUser : Option MyStr
  secureChrootDir : Option MyStr
  chownUploads : Bool
  connectFromPort20 : Bool
  sessionSupport : Bool
  runAsLaunchingUser : Bool

/-- What the requests of a session need of the superuser. -/
def ProcessTunables.caps (tun : ProcessTunables) : List Capability :=
  (if tun.chownUploads then [.chown] else []) ++ if tun.connectFromPort20 then [.netBindService] else []

def processTunablesLoadDefaults : ProcessTunables where
  toLoginTunables := loginTunablesLoadDefaults
  noprivUser := some (strAllocText "nobody")
  secureChrootDir := some (strAllocText "/usr/share/empty")
  chownUploads := false
  connectFromPort20 := false
  sessionSupport := false
  runAsLaunchingUser := false

section Processes
variable (host : Host) (tun : ProcessTunables)

/-- The process before the login. -/
def dropAllPrivs : Drop Unit := do
  if host.lstat (tun.secureChrootDir.getD []) then
    vsfSecutilChangeCredentials host (tun.noprivUser.getD []) (tun.secureChrootDir.getD []) [] []
      { chroot := true
        useGroups := false
        changeEuid := false
        noFds := !tun.sslEnable
        noProcs := true
        allowWriteableRoot := false }
  else throw (.died "vsftpd: not found: directory given in 'secure_chroot_dir':")

/-- The parent, which serves the session from then on. -/
def minimizePrivilege (isAnonymous : Bool) : Drop Unit := do
  if !isAnonymous && tun.sessionSupport then return ()
  else
    vsfSecutilChangeCredentials host (tun.noprivUser.getD []) (tun.secureChrootDir.getD []) [] tun.caps
      { chroot := true
        useGroups := false
        changeEuid := false
        noFds := false
        noProcs := false
        allowWriteableRoot := false }

/-- The one process, which serves anonymous users only. -/
def oneProcessStart : Drop Unit := do
  let chdirStr := tun.forAll.anonRoot.getD []
  if tun.runAsLaunchingUser then
    if chdirStr ≠ [] then discard (strChdir host chdirStr)
  else
    vsfSecutilChangeCredentials host (tun.ftpUsername.getD []) [] chdirStr tun.caps
      { chroot := true
        useGroups := true
        changeEuid := false
        noFds := false
        noProcs := true
        allowWriteableRoot := false }

end Processes

/-- A process of one user in a jail it cannot write to, with these capabilities only. -/
def JailedUser (host : Host) (root : Dir) (user dirStr extDirStr : MyStr) (useGroups : Bool)
    (caps : List Capability) (c : Cred) : Prop :=
  ∃ pw, host.getpwnam user = some pw ∧
    c.ids = ⟨pw.uid, pw.uid, pw.uid, pw.gid, pw.gid, pw.gid, if useGroups then host.groupsOf pw else []⟩ ∧
    (pw.uid ≠ 0 → c.permitted = caps) ∧
    Jailed host root pw false false c (if dirStr = [] then pw.homedir else dirStr) extDirStr

/-- Root in a jail, where the system cannot divide its rights. -/
structure RootInJail (host : Host) (caps : List Capability) (c : Cred) : Prop where
  needed : caps ≠ []
  noSupport : host.hasCapabilities = false ∨ host.hasCapabilitiesAsNonRoot = false
  superuser : Superuser c
  root : c.root = c.cwd

section Processes
variable {host : Host} {tun : ProcessTunables} {root : Dir} {user dirStr extDirStr : MyStr}
  {caps : List Capability} {options : SecutilOptions} {c : Cred}

/-- One call that asks for a jail, with the ids of root until it is in there. -/
theorem changeCredentials_confined (hj : options.chroot = true) (hw : options.allowWriteableRoot = false)
    (he : options.changeEuid = false)
    (h : vsfSecutilChangeCredentials host user dirStr extDirStr caps options (rootCred root) =
      (.ok (), c)) :
    JailedUser host root user dirStr extDirStr options.useGroups caps c ∨ RootInJail host caps c := by
  obtain ⟨pw, hpw, hb | hkept⟩ := vsfSecutilChangeCredentials_ok ⟨rfl, rfl⟩ h
  · have hjailed:=hb.jailed hj
    rw [he, hw] at hjailed
    exact Or.inl ⟨pw, hpw, hb.ids, hb.permitted_only, hjailed⟩
  · have hroot:=hkept.root
    rw [if_pos hj] at hroot
    exact Or.inr ⟨hkept.needed, hkept.noSupport, hkept.superuser, hroot⟩

/-- What is left of root in the process before the login, in the parent after it
and in the one process: the capabilities that the requests need, in a jail that
cannot be written to, unless the configuration or the system asks for root. -/
theorem processes_confined (host : Host) (tun : ProcessTunables) (root : Dir) (c : Cred) :
    (dropAllPrivs host tun (rootCred root) = (.ok (), c) →
      JailedUser host root (tun.noprivUser.getD []) (tun.secureChrootDir.getD []) [] false [] c) ∧
    (∀ isAnonymous, minimizePrivilege host tun isAnonymous (rootCred root) = (.ok (), c) →
      (isAnonymous = false ∧ tun.sessionSupport = true ∧ c = rootCred root) ∨
        JailedUser host root (tun.noprivUser.getD []) (tun.secureChrootDir.getD []) [] false tun.caps c ∨
          RootInJail host tun.caps c) ∧
    (oneProcessStart host tun (rootCred root) = (.ok (), c) →
      (tun.runAsLaunchingUser = true ∧ c = { rootCred root with cwd := c.cwd }) ∨
        JailedUser host root (tun.ftpUsername.getD []) [] (tun.forAll.anonRoot.getD []) true tun.caps c ∨
          RootInJail host tun.caps c) := by
  refine ⟨fun h => ?_, fun isAnonymous h => ?_, fun h => ?_⟩
  · unfold dropAllPrivs at h
    split at h
    · rcases changeCredentials_confined rfl rfl rfl h with hc | hkept
      · exact hc
      · exact absurd rfl hkept.needed
    · cases h
  · unfold minimizePrivilege at h
    split at h
    · rename_i hkeep
      cases h
      rw [Bool.and_eq_true, Bool.not_eq_true'] at hkeep
      exact Or.inl ⟨hkeep.1, hkeep.2, rfl⟩
    · exact Or.inr (changeCredentials_confined rfl rfl rfl h)
  · unfold oneProcessStart at h
    split at h
    · rename_i hlaunch
      refine Or.inl ⟨hlaunch, ?_⟩
      split at h
      · obtain ⟨_, c₁, hmoved, hend⟩ := bind_eq_ok h
        cases hend
        exact strChdir_ok hmoved
      · cases h
        rfl
    · exact Or.inr (changeCredentials_confined rfl rfl rfl h)

theorem processes_confined_port20 :
    let host : Host := ⟨fun _ => some ⟨99, 99, strAllocText "/"⟩, fun pw => [pw.gid],
      fun _ _ _ path => some path.length, fun _ => true, fun _ => true, fun _ _ => false, true, true⟩
    JailedUser host 0 (strAllocText "nobody") (strAllocText "/usr/share/empty") [] false [.netBindService]
      ⟨⟨99, 99, 99, 99, 99, 99, []⟩, [.netBindService], true, 16, 16, false, false⟩ := by
  intro host
  rcases (processes_confined host { processTunablesLoadDefaults with connectFromPort20 := true } 0
      ⟨⟨99, 99, 99, 99, 99, 99, []⟩, [.netBindService], true, 16, 16, false, false⟩).2.1 true rfl with
    ⟨hno, _⟩ | hjailed | hroot
  · cases hno
  · exact hjailed
  · cases hroot.superuser.ruid

end Processes

end BoardServices.Vsftpd
