import BoardServices.Vsftpd.PrivSock

/-!
# Giving up privilege (vsftpd-3.0.3/secutil.c, sysdeputil.c, sysutil.c)

`vsf_secutil_change_credentials` turns a process of root into one of a user.
Ids, groups and capabilities change as the kernel documents it; the user
database and the directories answer from outside.
-/

namespace BoardServices.Vsftpd
open Lib.Process

/-- An entry of the user database. -/
structure User where
  uid : ℕ
  gid : ℕ
  homedir : MyStr
deriving DecidableEq, Repr

structure Ids where
  ruid : ℕ
  euid : ℕ
  suid : ℕ
  rgid : ℕ
  egid : ℕ
  sgid : ℕ
  groups : List ℕ
deriving DecidableEq, Repr

/-- The capabilities that vsftpd has a use for, and all the others. -/
inductive Capability
  | chown
  | netBindService
  | others
deriving DecidableEq, Repr

/-- A directory, whatever its path. -/
abbrev Dir := ℕ

structure Cred where
  ids : Ids
  permitted : List Capability
  keepCaps : Bool
  root : Dir
  cwd : Dir
  noFds : Bool
  noProcs : Bool
deriving DecidableEq, Repr

/-- A process of the superuser, as `init` or `xinetd` starts it. -/
def rootCred (root : Dir) : Cred :=
  ⟨⟨0, 0, 0, 0, 0, 0, []⟩, [.chown, .netBindService, .others], false, root, root, false, false⟩

structure Host where
  getpwnam : MyStr → Option User
  /-- What `initgroups` finds for a user. -/
  groupsOf : User → List ℕ
  /-- `chdir`, by who asks, its root, its directory and the path. -/
  chdir : Ids → Dir → Dir → MyStr → Option Dir
  chroots : Dir → Bool
  lstat : MyStr → Bool
  /-- `access(.., W_OK)`, which goes by the real ids. -/
  writable : Ids → Dir → Bool
  hasCapabilities : Bool
  hasCapabilitiesAsNonRoot : Bool

structure SecutilOptions where
  chroot : Bool
  useGroups : Bool
  changeEuid : Bool
  noFds : Bool
  noProcs : Bool
  allowWriteableRoot : Bool
deriving DecidableEq, Repr

abbrev Drop := ExceptT Ending (StateM Cred)

/-! ### System calls -/

def sysutilSetuid (uid : ℕ) : Drop Unit := do
  let c ← get
  if c.ids.euid = 0 then
    set { c with
      ids := { c.ids with ruid := uid, euid := uid, suid := uid }
      permitted := if uid = 0 ∨ c.keepCaps then c.permitted else [] }
  else if uid = c.ids.ruid ∨ uid = c.ids.suid then
    set { c with ids := { c.ids with euid := uid } }
  else throw (.died "setuid")

def sysutilSetgid (gid : ℕ) : Drop Unit := do
  let c ← get
  if c.ids.euid = 0 then
    set { c with ids := { c.ids with rgid := gid, egid := gid, sgid := gid } }
  else if gid = c.ids.rgid ∨ gid = c.ids.sgid then
    set { c with ids := { c.ids with egid := gid } }
  else throw (.died "setgid")

/-- `setreuid(-1, uid)` -/
def sysutilSeteuid (uid : ℕ) : Drop Unit := do
  let c ← get
  if c.ids.euid = 0 ∨ uid = c.ids.ruid ∨ uid = c.ids.euid ∨ uid = c.ids.suid then
    set { c with ids := { c.ids with euid := uid, suid := if uid = c.ids.ruid then c.ids.suid else uid } }
  else throw (.died "seteuid")

/-- `setregid(-1, gid)` -/
def sysutilSetegid (gid : ℕ) : Drop Unit := do
  let c ← get
  if c.ids.euid = 0 ∨ gid = c.ids.rgid ∨ gid = c.ids.egid ∨ gid = c.ids.sgid then
    set { c with ids := { c.ids with egid := gid, sgid := if gid = c.ids.rgid then c.ids.sgid else gid } }
  else throw (.died "setegid")

def setGroups (groups : List ℕ) (message : String) : Drop Unit := do
  let c ← get
  if c.ids.euid = 0 then set { c with ids := { c.ids with groups := groups } }
  else throw (.died message)

section Privilege
variable (host : Host)

def sysutilInitgroups (pw : User) : Drop Unit := setGroups (host.groupsOf pw) "initgroups"

def sysutilClearSuppGroups : Drop Unit := setGroups [] "setgroups"

/-- `str_chdir`, true where it succeeds. -/
def strChdir (path : MyStr) : Drop Bool := do
  let c ← get
  match host.chdir c.ids c.root c.cwd path with
  | some d => do
    set { c with cwd := d }
    return true
  | none => return false

/-- `vsf_sysutil_chroot(".")` -/
def sysutilChroot : Drop Unit := do
  let c ← get
  if c.ids.euid = 0 ∧ host.chroots c.cwd then set { c with root := c.cwd }
  else throw (.died "chroot")

def sysutilWriteAccess : Drop Bool := do
  let c ← get
  return host.writable c.ids c.root

def sysutilSetNoFds : Drop Unit := modify fun c => { c with noFds := true }

def sysutilSetNoProcs : Drop Unit := modify fun c => { c with noProcs := true }

def sysdepKeepCapabilities : Drop Unit :=
  if host.hasCapabilitiesAsNonRoot then modify fun c => { c with keepCaps := true }
  else throw (.bug "asked to keep capabilities, but no support exists")

def sysdepAdoptCapabilities (caps : List Capability) : Drop Unit := do
  let c ← get
  if ∀ cap ∈ caps, cap ∈ c.permitted then set { c with permitted := caps }
  else throw (.died "cap_set_proc")

/-! ### secutil.c -/

/-- Before the `chdir()`, to cater for NFS mounted home directories. -/
def takeEffectiveIds (pw : User) : Drop Unit := do
  sysutilSetegid pw.gid
  sysutilSeteuid pw.uid

def restoreEffectiveIds (saved : Ids) : Drop Unit := do
  sysutilSeteuid saved.euid
  sysutilSetegid saved.egid

/-- Outside of a jail the second directory may be missing. -/
def enterExtDirectory (extDirStr : MyStr) (options : SecutilOptions) : Drop Unit := do
  let entered ← strChdir host extDirStr
  if !entered && options.chroot then throw (.died "cannot change directory:")

/-- The `chdir()` and `chroot()` part of `vsf_secutil_change_credentials`. -/
def enterDirectory (pw : User) (dirStr extDirStr : MyStr) (options : SecutilOptions) : Drop Unit := do
  let saved := (← get).ids
  if options.changeEuid then takeEffectiveIds pw
  if !(← strChdir host dirStr) then throw (.died "cannot change directory:")
  if extDirStr ≠ [] then enterExtDirectory host extDirStr options
  if options.changeEuid then restoreEffectiveIds saved
  if options.chroot then sysutilChroot host

/-- Ids and capabilities. True where root has to be kept. -/
def dropIds (pw : User) (caps : List Capability) : Drop Bool := do
  if caps ≠ [] ∧ host.hasCapabilities = false then return true
  else if caps ≠ [] ∧ host.hasCapabilitiesAsNonRoot = false then do
    sysdepAdoptCapabilities caps
    return true
  else do
    if caps ≠ [] then sysdepKeepCapabilities host
    sysutilSetgid pw.gid
    sysutilSetuid pw.uid
    if caps ≠ [] then sysdepAdoptCapabilities caps
    return false

/-- The end of `vsf_secutil_change_credentials`, with its check for a misconfiguration. -/
def checkRoot (options : SecutilOptions) : Drop Unit := do
  if options.noProcs then sysutilSetNoProcs
  if options.chroot && !options.allowWriteableRoot then
    if ← sysutilWriteAccess host then
      throw (.died "vsftpd: refusing to run with writable root inside chroot()")

def vsfSecutilChangeCredentials (userStr dirStr extDirStr : MyStr) (caps : List Capability)
    (options : SecutilOptions) : Drop Unit := do
  if (← get).ids.ruid ≠ 0 then throw (.bug "vsf_secutil_change_credentials: not running as root")
  match host.getpwnam userStr with
  | none => throw (.died "cannot locate user entry:")
  | some pw => do
    if options.useGroups then sysutilInitgroups host pw else sysutilClearSuppGroups
    enterDirectory host pw (if dirStr = [] then pw.homedir else dirStr) extDirStr options
    if options.noFds then sysutilSetNoFds
    let keptRoot ← dropIds host pw caps
    if !keptRoot then checkRoot host options

end Privilege

/-! ### What is left of root -/

section Ids
variable {host : Host} {pw : User} {c c' : Cred} {caps : List Capability} {options : SecutilOptions}
  {dirStr extDirStr path : MyStr}

structure Superuser (c : Cred) : Prop where
  ruid : c.ids.ruid = 0
  euid : c.ids.euid = 0

theorem sysutilSetuid_run (uid : ℕ) (h : c.ids.euid = 0) :
    sysutilSetuid uid c = (.ok (), { c with
      ids := { c.ids with ruid := uid, euid := uid, suid := uid }
      permitted := if uid = 0 ∨ c.keepCaps then c.permitted else [] }) := by
  unfold sysutilSetuid
  rw [bind_ok (get_run c), if_pos h]
  rfl

theorem sysutilSetgid_run (gid : ℕ) (h : c.ids.euid = 0) :
    sysutilSetgid gid c = (.ok (), { c with
      ids := { c.ids with rgid := gid, egid := gid, sgid := gid } }) := by
  unfold sysutilSetgid
  rw [bind_ok (get_run c), if_pos h]
  rfl

theorem setGroups_run (groups : List ℕ) (message : String) (h : c.ids.euid = 0) :
    setGroups groups message c = (.ok (), { c with ids := { c.ids with groups := groups } }) := by
  unfold setGroups
  rw [bind_ok (get_run c), if_pos h]
  rfl

theorem takeEffectiveIds_run (h : Superuser c) :
    takeEffectiveIds pw c = (.ok (), { c with ids := { c.ids with
      egid := pw.gid, sgid := if pw.gid = c.ids.rgid then c.ids.sgid else pw.gid
      euid := pw.uid, suid := if pw.uid = c.ids.ruid then c.ids.suid else pw.uid } }) := by
  have hgid : sysutilSetegid pw.gid c = (.ok (), { c with ids := { c.ids with
      egid := pw.gid, sgid := if pw.gid = c.ids.rgid then c.ids.sgid else pw.gid } }) := by
    unfold sysutilSetegid
    rw [bind_ok (get_run c), if_pos (Or.inl h.euid)]
    rfl
  unfold takeEffectiveIds
  rw [bind_ok hgid]
  unfold sysutilSeteuid
  rw [bind_ok (get_run _), if_pos (Or.inl h.euid)]
  rfl

/-- Root is the real user still, and so gets its effective ids back. -/
theorem restoreEffectiveIds_run (saved : Ids) (hr : c.ids.ruid = 0) (hs : saved.euid = 0) :
    restoreEffectiveIds saved c = (.ok (), { c with ids := { c.ids with
      euid := 0, egid := saved.egid
      sgid := if saved.egid = c.ids.rgid then c.ids.sgid else saved.egid } }) := by
  have huid : sysutilSeteuid saved.euid c = (.ok (), { c with ids := { c.ids with euid := 0 } }) := by
    unfold sysutilSeteuid
    rw [bind_ok (get_run c), if_pos (Or.inr (Or.inl (hs.trans hr.symm))), if_pos (hs.trans hr.symm), hs]
    rfl
  unfold restoreEffectiveIds
  rw [bind_ok huid]
  unfold sysutilSetegid
  rw [bind_ok (get_run _), if_pos (Or.inl rfl)]
  rfl

theorem strChdir_run (host : Host) (path : MyStr) (c : Cred) :
    (∃ d, host.chdir c.ids c.root c.cwd path = some d ∧
      strChdir host path c = (.ok true, { c with cwd := d })) ∨
    (host.chdir c.ids c.root c.cwd path = none ∧ strChdir host path c = (.ok false, c)) := by
  unfold strChdir
  rw [bind_ok (get_run c)]
  cases hd : host.chdir c.ids c.root c.cwd path with
  | none => exact Or.inr ⟨rfl, rfl⟩
  | some d => exact Or.inl ⟨d, rfl, rfl⟩

theorem strChdir_ok {entered : Bool} (h : strChdir host path c = (.ok entered, c')) :
    c' = { c with cwd := c'.cwd } := by
  rcases strChdir_run host path c with ⟨d, _, hrun⟩ | ⟨_, hrun⟩
  · cases hrun.symm.trans h
    rfl
  · cases hrun.symm.trans h
    rfl

/-- To one directory, and from there to another one if there is any; in a jail
the second one must exist. -/
def Reached (host : Host) (ids : Ids) (root cwd : Dir) (dirStr extDirStr : MyStr) (jail : Bool)
    (d : Dir) : Prop :=
  ∃ d₁, host.chdir ids root cwd dirStr = some d₁ ∧
    ((extDirStr ≠ [] ∧ host.chdir ids root d₁ extDirStr = some d) ∨
      (d = d₁ ∧ (extDirStr = [] ∨ (jail = false ∧ host.chdir ids root d₁ extDirStr = none))))

/-- After `enterDirectory`: superuser again, only the directories have changed. -/
structure EnteredAs (host : Host) (pw : User) (dirStr extDirStr : MyStr) (options : SecutilOptions)
    (c c' : Cred) : Prop where
  superuser : Superuser c'
  groups : c'.ids.groups = c.ids.groups
  permitted : c'.permitted = c.permitted
  keepCaps : c'.keepCaps = c.keepCaps
  reached : ∃ ids : Ids, ids.euid = (if options.changeEuid then pw.uid else 0) ∧
    ids.groups = c.ids.groups ∧
    Reached host ids c.root c.cwd dirStr extDirStr options.chroot c'.cwd
  root : c'.root = if options.chroot then c'.cwd else c.root

theorem sysutilChroot_ok {u : Unit} (h : sysutilChroot host c = (.ok u, c')) :
    c' = { c with root := c.cwd } := by
  unfold sysutilChroot at h
  rw [bind_ok (get_run c)] at h
  split at h
  · cases h
    rfl
  · cases h

theorem enterExtDirectory_ok {u : Unit} (h : enterExtDirectory host extDirStr options c = (.ok u, c')) :
    ∃ d, c' = { c with cwd := d } ∧
      (host.chdir c.ids c.root c.cwd extDirStr = some d ∨
        (d = c.cwd ∧ options.chroot = false ∧ host.chdir c.ids c.root c.cwd extDirStr = none)) := by
  unfold enterExtDirectory at h
  rcases strChdir_run host extDirStr c with ⟨d, hd, hrun⟩ | ⟨hd, hrun⟩
  · rw [bind_ok hrun] at h
    cases h
    exact ⟨d, rfl, Or.inl hd⟩
  · rw [bind_ok hrun] at h
    cases hj : options.chroot with
    | false =>
      rw [hj] at h
      cases h
      exact ⟨c.cwd, rfl, Or.inr ⟨rfl, rfl, hd⟩⟩
    | true =>
      rw [hj] at h
      cases h

theorem enterDirectory_ok {u : Unit} (hs : Superuser c)
    (h : enterDirectory host pw dirStr extDirStr options c = (.ok u, c')) :
    EnteredAs host pw dirStr extDirStr options c c' := by
  unfold enterDirectory at h
  rw [bind_ok (get_run c)] at h
  obtain ⟨c₁, htake, h⟩ := when_eq_ok h
  have hids : ∃ ids : Ids, c₁ = { c with ids := ids } ∧ ids.ruid = 0 ∧
      ids.euid = (if options.changeEuid then pw.uid else 0) ∧ ids.groups = c.ids.groups := by
    rcases htake with ⟨he, htake⟩ | ⟨he, rfl⟩
    · rw [takeEffectiveIds_run hs] at htake
      cases htake
      exact ⟨_, rfl, hs.ruid, by rw [if_pos he], rfl⟩
    · exact ⟨_, rfl, hs.ruid, by rw [if_neg he]; exact hs.euid, rfl⟩
  obtain ⟨ids, rfl, hruid, heuid, hgroups⟩ := hids
  rcases strChdir_run host dirStr { c with ids := ids } with ⟨d₁, hd₁, hrun⟩ | ⟨_, hrun⟩
  · beta_reduce at h
    rw [bind_ok hrun] at h
    obtain ⟨_, ⟨hno, _⟩ | ⟨_, rfl⟩, h⟩ := when_eq_ok h
    · exact absurd hno (by decide)
    obtain ⟨c₂, hext, h⟩ := when_eq_ok h
    have hreached : ∃ d, c₂ = { c with ids := ids, cwd := d } ∧
        Reached host ids c.root c.cwd dirStr extDirStr options.chroot d := by
      rcases hext with ⟨hne, hext⟩ | ⟨hnil, rfl⟩
      · obtain ⟨d, rfl, hd⟩ := enterExtDirectory_ok hext
        refine ⟨d, rfl, d₁, hd₁, ?_⟩
        rcases hd with hd | ⟨rfl, hj, hd⟩
        · exact Or.inl ⟨hne, hd⟩
        · exact Or.inr ⟨rfl, Or.inr ⟨hj, hd⟩⟩
      · exact ⟨d₁, rfl, d₁, hd₁, Or.inr ⟨rfl, Or.inl (not_not.mp hnil)⟩⟩
    obtain ⟨d, rfl, hd⟩ := hreached
    obtain ⟨c₃, hback, h⟩ := when_eq_ok h
    have hsuper : ∃ ids' : Ids, c₃ = { c with ids := ids', cwd := d } ∧ ids'.ruid = 0 ∧
        ids'.euid = 0 ∧ ids'.groups = c.ids.groups := by
      rcases hback with ⟨_, hback⟩ | ⟨he, rfl⟩
      · rw [restoreEffectiveIds_run c.ids hruid hs.euid] at hback
        cases hback
        exact ⟨_, rfl, hruid, rfl, hgroups⟩
      · exact ⟨ids, rfl, hruid, by rw [heuid, if_neg he], hgroups⟩
    obtain ⟨ids', rfl, hr, he, hg⟩ := hsuper
    by_cases hj : options.chroot = true
    · rw [if_pos hj] at h
      obtain rfl:=sysutilChroot_ok h
      exact ⟨⟨hr, he⟩, hg, rfl, rfl, ⟨ids, heuid, hgroups, hd⟩, by rw [if_pos hj]⟩
    · rw [if_neg hj] at h
      cases h
      exact ⟨⟨hr, he⟩, hg, rfl, rfl, ⟨ids, heuid, hgroups, hd⟩, by rw [if_neg hj]⟩
  · beta_reduce at h
    rw [bind_ok hrun] at h
    obtain ⟨_, ⟨_, hno⟩ | ⟨hno, _⟩, _⟩ := when_eq_ok h
    · cases hno
    · exact absurd rfl hno

/-- The ids are those of the user, and nothing but the capabilities is left of root. -/
structure Dropped (pw : User) (caps : List Capability) (c c' : Cred) : Prop where
  ids : c'.ids = ⟨pw.uid, pw.uid, pw.uid, pw.gid, pw.gid, pw.gid, c.ids.groups⟩
  permitted : c'.permitted =
    if caps ≠ [] then caps else if pw.uid = 0 ∨ c.keepCaps then c.permitted else []
  root : c'.root = c.root
  cwd : c'.cwd = c.cwd

theorem sysdepAdoptCapabilities_ok {u : Unit} (h : sysdepAdoptCapabilities caps c = (.ok u, c')) :
    c' = { c with permitted := caps } := by
  unfold sysdepAdoptCapabilities at h
  rw [bind_ok (get_run c)] at h
  split at h
  · cases h
    rfl
  · cases h

theorem sysdepKeepCapabilities_ok {u : Unit} (h : sysdepKeepCapabilities host c = (.ok u, c')) :
    c' = { c with keepCaps := true } := by
  unfold sysdepKeepCapabilities at h
  split at h
  · cases h
    rfl
  · cases h

theorem dropIds_ok {kept : Bool} (hs : Superuser c) (h : dropIds host pw caps c = (.ok kept, c')) :
    (kept = true ∧ caps ≠ [] ∧
      (host.hasCapabilities = false ∨ host.hasCapabilitiesAsNonRoot = false) ∧
      c'.ids = c.ids ∧ c'.root = c.root ∧ c'.cwd = c.cwd) ∨
    (kept = false ∧ Dropped pw caps c c') := by
  unfold dropIds at h
  split at h
  · rename_i hno
    cases h
    exact Or.inl ⟨rfl, hno.1, Or.inl hno.2, rfl, rfl, rfl⟩
  · split at h
    · rename_i hno
      obtain ⟨_, _, hadopt, h⟩ := bind_eq_ok h
      obtain rfl:=sysdepAdoptCapabilities_ok hadopt
      cases h
      exact Or.inl ⟨rfl, hno.1, Or.inr hno.2, rfl, rfl, rfl⟩
    · obtain ⟨c₁, hkeep, h⟩ := when_eq_ok h
      have hk : c₁.ids = c.ids ∧ c₁.root = c.root ∧ c₁.cwd = c.cwd ∧ (¬ caps ≠ [] → c₁ = c) := by
        rcases hkeep with ⟨hne, hkeep⟩ | ⟨_, rfl⟩
        · obtain rfl:=sysdepKeepCapabilities_ok hkeep
          exact ⟨rfl, rfl, rfl, fun hnil => absurd hne hnil⟩
        · exact ⟨rfl, rfl, rfl, fun _ => rfl⟩
      obtain ⟨hids, hroot, hcwd, hnone⟩ := hk
      have h0 : c₁.ids.euid = 0 := by rw [hids]; exact hs.euid
      have huid:=sysutilSetuid_run
        (c := { c₁ with ids := { c₁.ids with rgid := pw.gid, egid := pw.gid, sgid := pw.gid } }) pw.uid h0
      beta_reduce at h
      rw [bind_ok (sysutilSetgid_run pw.gid h0), bind_ok huid] at h
      obtain ⟨c₂, hadopt, h⟩ := when_eq_ok h
      cases h
      refine Or.inr ⟨rfl, ?_⟩
      rcases hadopt with ⟨hne, hadopt⟩ | ⟨hnil, rfl⟩
      · obtain rfl:=sysdepAdoptCapabilities_ok hadopt
        exact ⟨by rw [← hids], by rw [if_pos hne], hroot, hcwd⟩
      · obtain rfl:=hnone hnil
        exact ⟨rfl, by rw [if_neg hnil], rfl, rfl⟩

/-- The process after `vsf_secutil_change_credentials`, where root is not kept. -/
structure Became (host : Host) (pw : User) (dirStr extDirStr : MyStr) (caps : List Capability)
    (options : SecutilOptions) (c c' : Cred) : Prop where
  ids : c'.ids = ⟨pw.uid, pw.uid, pw.uid, pw.gid, pw.gid, pw.gid,
    if options.useGroups then host.groupsOf pw else []⟩
  permitted : c'.permitted =
    if caps ≠ [] then caps else if pw.uid = 0 ∨ c.keepCaps then c.permitted else []
  reached : ∃ ids : Ids, ids.euid = (if options.changeEuid then pw.uid else 0) ∧
    ids.groups = c'.ids.groups ∧
    Reached host ids c.root c.cwd (if dirStr = [] then pw.homedir else dirStr) extDirStr
      options.chroot c'.cwd
  root : c'.root = if options.chroot then c'.cwd else c.root
  unwritable : options.chroot = true → options.allowWriteableRoot = false →
    host.writable c'.ids c'.root = false

/-- Where the system cannot keep the capabilities without root, root is kept. -/
structure KeptRoot (host : Host) (caps : List Capability) (options : SecutilOptions) (c c' : Cred) :
    Prop where
  needed : caps ≠ []
  noSupport : host.hasCapabilities = false ∨ host.hasCapabilitiesAsNonRoot = false
  superuser : Superuser c'
  root : c'.root = if options.chroot then c'.cwd else c.root

theorem checkRoot_ok {u : Unit} (h : checkRoot host options c = (.ok u, c')) :
    c'.ids = c.ids ∧ c'.permitted = c.permitted ∧ c'.root = c.root ∧ c'.cwd = c.cwd ∧
      (options.chroot = true → options.allowWriteableRoot = false →
        host.writable c.ids c.root = false) := by
  unfold checkRoot at h
  obtain ⟨c₁, hprocs, hrest⟩ := when_eq_ok h
  have hc₁ : c₁.ids = c.ids ∧ c₁.permitted = c.permitted ∧ c₁.root = c.root ∧ c₁.cwd = c.cwd := by
    rcases hprocs with ⟨_, hprocs⟩ | ⟨_, rfl⟩
    · cases hprocs
      exact ⟨rfl, rfl, rfl, rfl⟩
    · exact ⟨rfl, rfl, rfl, rfl⟩
  obtain ⟨hids, hperm, hroot, hcwd⟩ := hc₁
  beta_reduce at hrest
  split at hrest
  · rename_i hj
    have haccess : sysutilWriteAccess host c₁ = (.ok (host.writable c₁.ids c₁.root), c₁) := rfl
    rw [bind_ok haccess] at hrest
    cases hw : host.writable c₁.ids c₁.root with
    | true =>
      rw [hw] at hrest
      cases hrest
    | false =>
      rw [hw] at hrest
      cases hrest
      rw [hids, hroot] at hw
      exact ⟨hids, hperm, hroot, hcwd, fun _ _ => hw⟩
  · rename_i hj
    cases hrest
    refine ⟨hids, hperm, hroot, hcwd, fun hc ha => absurd ?_ hj⟩
    rw [hc, ha]
    rfl

theorem vsfSecutilChangeCredentials_ok {u : Unit} {userStr : MyStr} (hs : Superuser c)
    (h : vsfSecutilChangeCredentials host userStr dirStr extDirStr caps options c = (.ok u, c')) :
    ∃ pw, host.getpwnam userStr = some pw ∧
      (Became host pw dirStr extDirStr caps options c c' ∨ KeptRoot host caps options c c') := by
  unfold vsfSecutilChangeCredentials at h
  rw [bind_ok (get_run c)] at h
  obtain ⟨_, ⟨hno, _⟩ | ⟨_, hc⟩, hrest⟩ := when_eq_ok h
  · exact absurd hs.ruid hno
  rw [hc] at hrest
  beta_reduce at hrest
  cases hpw : host.getpwnam userStr with
  | none =>
    rw [hpw] at hrest
    cases hrest
  | some pw =>
    rw [hpw] at hrest
    refine ⟨pw, rfl, ?_⟩
    obtain ⟨_, c₁, hgroups, hrest₁⟩ := branch_eq_ok hrest
    have hc₁ : c₁ = { c with ids := { c.ids with
        groups := if options.useGroups then host.groupsOf pw else [] } } := by
      split at hgroups
      · rename_i hg
        rw [sysutilInitgroups, setGroups_run _ _ hs.euid] at hgroups
        cases hgroups
        rw [if_pos hg]
      · rename_i hg
        rw [sysutilClearSuppGroups, setGroups_run _ _ hs.euid] at hgroups
        cases hgroups
        rw [if_neg hg]
    obtain ⟨_, c₂, henter, hrest₂⟩ := bind_eq_ok hrest₁
    have hin:=enterDirectory_ok (c := c₁) ⟨by rw [hc₁]; exact hs.ruid, by rw [hc₁]; exact hs.euid⟩ henter
    obtain ⟨c₃, hfds, hrest₃⟩ := when_eq_ok hrest₂
    have hc₃ : c₃.ids = c₂.ids ∧ c₃.permitted = c₂.permitted ∧ c₃.keepCaps = c₂.keepCaps ∧
        c₃.root = c₂.root ∧ c₃.cwd = c₂.cwd := by
      rcases hfds with ⟨_, hfds⟩ | ⟨_, rfl⟩
      · cases hfds
        exact ⟨rfl, rfl, rfl, rfl, rfl⟩
      · exact ⟨rfl, rfl, rfl, rfl, rfl⟩
    obtain ⟨kept, c₄, hdrop, hrest₄⟩ := bind_eq_ok hrest₃
    have hsuper : Superuser c₃ :=
      ⟨by rw [hc₃.1]; exact hin.superuser.ruid, by rw [hc₃.1]; exact hin.superuser.euid⟩
    rcases dropIds_ok hsuper hdrop with ⟨rfl, hne, hno, hids, hroot, hcwd⟩ | ⟨rfl, hd⟩
    · cases hrest₄
      refine Or.inr ⟨hne, hno, ⟨by rw [hids]; exact hsuper.ruid, by rw [hids]; exact hsuper.euid⟩, ?_⟩
      rw [hroot, hcwd, hc₃.2.2.2.1, hc₃.2.2.2.2, hin.root, hc₁]
    · obtain ⟨hids, hperm, hroot, hcwd, hguard⟩ := checkRoot_ok hrest₄
      obtain ⟨ids, heuid, hgr, hreach⟩ := hin.reached
      rw [hc₁] at hgr hreach
      have hidsAll : c'.ids = ⟨pw.uid, pw.uid, pw.uid, pw.gid, pw.gid, pw.gid,
          if options.useGroups then host.groupsOf pw else []⟩ := by
        rw [hids, hd.ids, hc₃.1, hin.groups, hc₁]
      have hcwdAll : c'.cwd = c₂.cwd := by rw [hcwd, hd.cwd, hc₃.2.2.2.2]
      refine Or.inl ⟨hidsAll, ?_, ⟨ids, heuid, ?_, ?_⟩, ?_, ?_⟩
      · rw [hperm, hd.permitted, hc₃.2.1, hc₃.2.2.1, hin.permitted, hin.keepCaps, hc₁]
      · rw [hgr, hidsAll]
      · rw [hcwdAll]
        exact hreach
      · rw [hroot, hd.root, hc₃.2.2.2.1, hin.root, hcwdAll, hc₁]
      · intro hj ha
        rw [hids, hroot]
        exact hguard hj ha

end Ids

end BoardServices.Vsftpd
