import BoardServices.Vsftpd.TwoProcess

/-!
# A session in both models (vsftpd-3.0.3/postlogin.c)

The one process model and the two process model run the same handlers. Side by
side they make the same calls of the system, tell the client the same and end
alike, with the descriptors spread over one process or two.
-/

namespace BoardServices.Vsftpd
open Lib.Process

def Tunables.oneProcess (tun : Tunables) : Tunables := { tun with oneProcessModel := true }
def Tunables.twoProcess (tun : Tunables) : Tunables := { tun with oneProcessModel := false }

/-- Where a session may connect to. -/
def reachable (tun : Tunables) (a : Addr) : Prop :=
  tun.portPromiscuous = true ∨ a = tun.remoteAddr

/-- The session holds `K`, besides the listening socket `l`. -/
def oneProcessWorld (log : List SysCall) (K : Multiset Fd) (l : Fd) (s : Sess) : World :=
  ⟨log, ⟨listenFds l + K, l⟩, ⟨0, -1⟩, [], [], s⟩

def twoProcessWorld (log : List SysCall) (K : Multiset Fd) (l : Fd) (s : Sess) : World :=
  ⟨log, ⟨K, -1⟩, ⟨listenFds l, l⟩, [], [], s⟩

section Models
variable (sys : System) (tun : Tunables)

/-- Both sessions are at the same point. -/
def At (K : Multiset Fd) (l : Fd) (s : Sess) (w v : World) : Prop :=
  ∃ log, w = oneProcessWorld log K l s ∧ v = twoProcessWorld log K l s ∧
    Orderly sys tun.toConfig (reachable tun) log ∧ (l ≠ -1 → Listening sys log l)

/-- A reply could not be written. -/
def Unheard (e : Ending) : Prop := e = .died "ftp_write"

/-- Both sessions are over: for the system, for the client who takes no reply, or for
one of the reasons `B`. -/
def Stopped (B : Ending → Prop) (e : Ending) (w v : World) : Prop :=
  w.log = v.log ∧ w.sess = v.sess ∧ Orderly sys tun.toConfig (reachable tun) v.log ∧
    (Refused e ∨ Unheard e ∨ B e)

variable {α : Type}

def Alike (m n : Ftp α) (K : Multiset Fd) (l : Fd) (s : Sess)
    (G : α → Multiset Fd → Fd → Sess → Prop) (B : Ending → Prop) : Prop :=
  Agrees (At sys tun K l s) m n
    (fun a w v => ∃ K' l' s', G a K' l' s' ∧ At sys tun K' l' s' w v) (Stopped sys tun B)

end Models

/-- Nothing has changed, and the value is known. -/
def Only {α : Type} (a : α) (K : Multiset Fd) (l : Fd) (s : Sess) (b : α) (K' : Multiset Fd)
    (l' : Fd) (s' : Sess) : Prop := b = a ∧ K' = K ∧ l' = l ∧ s' = s

section Rules
variable {sys : System} {tun : Tunables} {α β : Type} {m n : Ftp α} {f g : α → Ftp β}
  {K K' : Multiset Fd} {l l' : Fd} {s s' : Sess} {G G' : α → Multiset Fd → Fd → Sess → Prop}
  {H : β → Multiset Fd → Fd → Sess → Prop} {B C : Ending → Prop}

theorem Alike.returns {a : α} (h : G a K l s) :
    Alike sys tun (pure a) (pure a) K l s G B :=
  Agrees.pure fun _ _ hat => ⟨K, l, s, h, hat⟩

theorem Alike.dies {e : Ending} (h : B e) :
    Alike sys tun (throw e : Ftp α) (throw e) K l s G B := by
  apply Agrees.throw
  rintro w v ⟨log, rfl, rfl, ho, _⟩
  exact ⟨rfl, rfl, ho, Or.inr (Or.inr h)⟩

theorem Alike.unheard :
    Alike sys tun (throw (.died "ftp_write") : Ftp α) (throw (.died "ftp_write")) K l s G B := by
  apply Agrees.throw
  rintro w v ⟨log, rfl, rfl, ho, _⟩
  exact ⟨rfl, rfl, ho, Or.inr (Or.inl rfl)⟩

theorem Alike.bind (h : Alike sys tun m n K l s G B)
    (hf : ∀ a K' l' s', G a K' l' s' → Alike sys tun (f a) (g a) K' l' s' H B) :
    Alike sys tun (m >>= f) (n >>= g) K l s H B := by
  apply Agrees.bind h
  rintro a w v ⟨K', l', s', hg, hat⟩
  exact hf a K' l' s' hg w v hat

theorem Alike.step {a : α} (h : Alike sys tun m n K l s (Only a K' l' s') B)
    (hf : Alike sys tun (f a) (g a) K' l' s' H B) :
    Alike sys tun (m >>= f) (n >>= g) K l s H B := by
  apply h.bind
  rintro b _ _ _ ⟨rfl, rfl, rfl, rfl⟩
  exact hf

theorem Alike.weaken (h : Alike sys tun m n K l s G B)
    (hg : ∀ a K' l' s', G a K' l' s' → G' a K' l' s') (hb : ∀ e, B e → C e) :
    Alike sys tun m n K l s G' C := by
  apply Agrees.weaken h (fun _ _ hat => hat)
  · rintro a w v ⟨K', l', s', h, hat⟩
    exact ⟨K', l', s', hg a K' l' s' h, hat⟩
  · rintro e w v ⟨hlog, hsess, ho, hr | hu | hB⟩
    · exact ⟨hlog, hsess, ho, Or.inl hr⟩
    · exact ⟨hlog, hsess, ho, Or.inr (Or.inl hu)⟩
    · exact ⟨hlog, hsess, ho, Or.inr (Or.inr (hb e hB))⟩

theorem Alike.ite {c : Prop} [Decidable c] {m' n' : Ftp α}
    (ht : c → Alike sys tun m n K l s G B) (hf : ¬ c → Alike sys tun m' n' K l s G B) :
    Alike sys tun (if c then m else m') (if c then n else n') K l s G B := Agrees.ite ht hf

/-- A choice after which both branches go on alike. -/
theorem Alike.branch {c : Prop} [Decidable c] {m' n' : Ftp α}
    (h : Alike sys tun (if c then m else m') (if c then n else n') K l s G B)
    (hf : ∀ a K' l' s', G a K' l' s' → Alike sys tun (f a) (g a) K' l' s' H B) :
    Alike sys tun (if c then m >>= f else m' >>= f) (if c then n >>= g else n' >>= g) K l s H B := by
  by_cases hc : c
  · rw [if_pos hc, if_pos hc] at h ⊢
    exact h.bind hf
  · rw [if_neg hc, if_neg hc] at h ⊢
    exact h.bind hf

/-- A step that is taken in one case only. -/
theorem Alike.when {c : Prop} [Decidable c] {m n : Ftp Unit} {f g : Unit → Ftp β}
    {G : Unit → Multiset Fd → Fd → Sess → Prop} (hm : c → Alike sys tun m n K l s G B)
    (hskip : ¬ c → G () K l s)
    (hf : ∀ a K' l' s', G a K' l' s' → Alike sys tun (f a) (g a) K' l' s' H B) :
    Alike sys tun (if c then m >>= f else f ()) (if c then n >>= g else g ()) K l s H B := by
  by_cases hc : c
  · rw [if_pos hc, if_pos hc]
    exact (hm hc).bind hf
  · rw [if_neg hc, if_neg hc]
    exact hf () K l s (hskip hc)

theorem session_step {f g : Sess → Ftp β} (h : Alike sys tun (f s) (g s) K l s H B) :
    Alike sys tun (session >>= f) (session >>= g) K l s H B := by
  rintro w v ⟨log, rfl, rfl, hat⟩
  exact h _ _ ⟨log, rfl, rfl, hat⟩

theorem updateSession_run (u : Sess → Sess) {H : Unit → Multiset Fd → Fd → Sess → Prop}
    (h : H () K l (u s)) : Alike sys tun (updateSession u) (updateSession u) K l s H B := by
  rintro w v ⟨log, rfl, rfl, hat⟩
  exact ⟨rfl, K, l, u s, h, log, rfl, rfl, hat⟩

theorem updateSession_step (u : Sess → Sess) {f g : Unit → Ftp β}
    (h : Alike sys tun (f ()) (g ()) K l (u s) H B) :
    Alike sys tun (updateSession u >>= f) (updateSession u >>= g) K l s H B :=
  Alike.step (updateSession_run u ⟨rfl, rfl, rfl, rfl⟩) h

end Rules

/-! ### Descriptors of the session's own -/

section Descriptors
variable {sys : System} {tun : Tunables} {K : Multiset Fd} {l : Fd} {s : Sess} {B : Ending → Prop}

/-- What a session does with its own descriptors, whichever others it holds. -/
theorem own_run {α : Type} {op : Priv α} {a : α} {K' : Multiset Fd}
    (hrun : ∀ log F l, op ⟨log, K + F, l⟩ = (.ok a, ⟨log, K' + F, l⟩)) :
    Alike sys tun (within inFtp op) (within inFtp op) K l s (Only a K' l s) B := by
  rintro w v ⟨log, rfl, rfl, hat⟩
  have hone : within inFtp op (oneProcessWorld log K l s) = (.ok a, oneProcessWorld log K' l s) := by
    have hfds:=hrun log (listenFds l) l
    rw [add_comm K, add_comm K'] at hfds
    exact within_ok (L := inFtp) (s := oneProcessWorld log K l s) hfds
  have htwo : within inFtp op (twoProcessWorld log K l s) = (.ok a, twoProcessWorld log K' l s) := by
    have hfds:=hrun log 0 (-1)
    rw [add_zero, add_zero] at hfds
    exact within_ok (L := inFtp) (s := twoProcessWorld log K l s) hfds
  rw [hone, htwo]
  exact ⟨rfl, K', l, s, ⟨rfl, rfl, rfl, rfl⟩, log, rfl, rfl, hat⟩

theorem received_alike (fd : Fd) :
    Alike sys tun (within inFtp (received fd)) (within inFtp (received fd)) K l s
      (Only () (fd ::ₘ K) l s) B := by
  apply own_run
  intro log F l
  rw [Multiset.cons_add]
  rfl

theorem sysClose_alike (fd : Fd) :
    Alike sys tun (within inFtp (sysClose fd)) (within inFtp (sysClose fd)) (fd ::ₘ K) l s
      (Only () K l s) B := by
  apply own_run
  intro log F l
  rw [Multiset.cons_add, sysClose_run]

theorem sysClosedir_alike (fd : Fd) :
    Alike sys tun (within inFtp (sysClosedir fd)) (within inFtp (sysClosedir fd)) (fd ::ₘ K) l s
      (Only () K l s) B := by
  apply own_run
  intro log F l
  rw [Multiset.cons_add]
  exact closeOrDie_run _ _

theorem closeFailok_alike (fd : Fd) :
    Alike sys tun (within inFtp (closeFailok fd)) (within inFtp (closeFailok fd)) (fd ::ₘ K) l s
      (Only () K l s) B := by
  apply own_run
  intro log F l
  change (Except.ok (), View.mk log ((fd ::ₘ K + F).erase fd) l) = _
  rw [Multiset.cons_add, Multiset.erase_cons_head]

end Descriptors

/-! ### What is asked for -/

section Asked
variable {sys : System} {tun : Tunables} {α : Type} {log log' : List SysCall}
  {K K' held' F' : Multiset Fd} {l l' fd : Fd} {s : Sess} {B : Ending → Prop} {e : Ending}

/-- The operations do not look at the model. -/
theorem listenLoop_model (b : Bool) (retries : ℕ) :
    listenLoop sys { tun.toConfig with oneProcessModel := b } retries =
      listenLoop sys tun.toConfig retries := by
  induction retries with
  | zero => rfl
  | succ retries ih =>
    unfold listenLoop
    rw [ih]
    rfl

theorem pasvListen_model (b : Bool) :
    vsfPrivopPasvListen sys { tun.toConfig with oneProcessModel := b } =
      vsfPrivopPasvListen sys tun.toConfig := by
  unfold vsfPrivopPasvListen
  rw [listenLoop_model]

theorem inFtp_ok {op : Priv α} {a : α} (h : op ⟨log, listenFds l + K, l⟩ = (.ok a, ⟨log', held' + K, l'⟩))
    (hK : held' + K = listenFds l' + K') :
    within inFtp op (oneProcessWorld log K l s) = (.ok a, oneProcessWorld log' K' l' s) := by
  rw [hK] at h
  exact within_ok (L := inFtp) (s := oneProcessWorld log K l s) h

theorem inFtp_error {op : Priv α} (h : op ⟨log, listenFds l + K, l⟩ = (.error e, ⟨log', F', l'⟩)) :
    within inFtp op (oneProcessWorld log K l s) =
      (.error e, ⟨log', ⟨F', l'⟩, ⟨0, -1⟩, [], [], s⟩) :=
  within_error (L := inFtp) (s := oneProcessWorld log K l s) h

/-- A call and its counterpart, by their runs. -/
theorem Alike.runs {m n : Ftp α} {G : α → Multiset Fd → Fd → Sess → Prop}
    (h : ∀ log, (l ≠ -1 → Listening sys log l) →
      (∃ a log' K' l', G a K' l' s ∧ Grows sys tun.toConfig (reachable tun) log log' ∧
        (l' ≠ -1 → Listening sys log' l') ∧
        m (oneProcessWorld log K l s) = (.ok a, oneProcessWorld log' K' l' s) ∧
        n (twoProcessWorld log K l s) = (.ok a, twoProcessWorld log' K' l' s)) ∨
      (∃ e w v, EndsFor sys tun.toConfig (reachable tun) log B e v.log ∧
        m (oneProcessWorld log K l s) = (.error e, w) ∧
        n (twoProcessWorld log K l s) = (.error e, v) ∧ w.log = v.log ∧ w.sess = v.sess)) :
    Alike sys tun m n K l s G B := by
  rintro w v ⟨log, rfl, rfl, ho, hl⟩
  rcases h log hl with ⟨a, log', K', l', hg, hgrow, hl', hone, htwo⟩ |
    ⟨e, w, v, he, hone, htwo, hlog, hsess⟩
  · rw [hone, htwo]
    exact ⟨rfl, K', l', s, hg, log', rfl, rfl, hgrow.orderly ho, hl'⟩
  · rw [hone, htwo]
    exact ⟨rfl, hlog, hsess, he.1.orderly ho, he.2.imp_right Or.inr⟩

theorem pasvCleanup_alike :
    Alike sys tun (pasvCleanup sys tun.oneProcess.toConfig) (pasvCleanup sys tun.twoProcess.toConfig)
      K l s (Only () K (-1) s) B := by
  apply Alike.runs
  intro log _
  have hout:=vsfPrivopPasvCleanup_outcome log 0 l (E := fun _ _ => False)
  rw [add_zero] at hout
  rcases hout with ⟨_, _, _, _, ⟨rfl, rfl, rfl⟩, hrun⟩ | ⟨_, _, hno, _⟩
  · have htwo:=hrun 0
    rw [add_zero] at htwo
    refine Or.inl ⟨(), _, K, -1, ⟨rfl, rfl, rfl, rfl⟩, Grows.refl _, fun h => absurd rfl h,
      inFtp_ok (hrun K) rfl, twoProcessPasvCleanup_ok htwo⟩
  · exact absurd hno id

theorem askPasvActive_alike :
    Alike sys tun (askPasvActive sys tun.oneProcess.toConfig)
      (askPasvActive sys tun.twoProcess.toConfig) K l s (Only (if l ≠ -1 then 1 else 0) K l s) B := by
  apply Alike.runs
  intro log hl
  exact Or.inl ⟨_, log, K, l, ⟨rfl, rfl, rfl, rfl⟩, Grows.refl log, hl, rfl, twoProcessPasvActive_ok⟩

theorem askListen_alike (hl : l = -1) :
    Alike sys tun (askListen sys tun.oneProcess.toConfig) (askListen sys tun.twoProcess.toConfig)
      K l s (fun port K' l' s' => port < 2 ^ 16 ∧ K' = K ∧ 0 ≤ l' ∧ s' = s) B := by
  subst hl
  apply Alike.runs
  intro log _
  rcases vsfPrivopPasvListen_outcome sys tun.toConfig (reachable tun) log (listenFds (-1)) (-1) with
    ⟨port, log', _, l', ⟨hg, _, hpos, rfl, hlisten, hrange⟩, hrun⟩ | ⟨e, log', he, hrun⟩
  · have hport : port < 2 ^ 16 := by
      have hmax:=pasv_range tun.toConfig
      have hle:=hrange.2
      omega
    have hfds : l' ::ₘ listenFds (-1) = listenFds l' := by
      rw [show listenFds l' = {l'} from if_neg (ne_none_of_nonneg hpos)]
      rfl
    have hone:=hrun K
    have htwo:=hrun 0
    rw [hfds] at hone htwo
    rw [add_zero, add_zero] at htwo
    refine Or.inl ⟨port, log', K, l', ⟨hport, rfl, hpos, rfl⟩, hg, fun _ => hlisten, ?_, ?_⟩
    · change within inFtp (vsfPrivopPasvListen sys tun.oneProcess.toConfig) _ = _
      rw [Tunables.oneProcess, pasvListen_model]
      exact inFtp_ok hone rfl
    · apply twoProcessListen_ok hport
      rw [Tunables.twoProcess, pasvListen_model]
      exact htwo
  · have hends : EndsFor sys tun.toConfig (reachable tun) log B e log' := by
      refine ⟨he.1, Or.inl (he.2.resolve_right fun h => h.2 rfl)⟩
    obtain ⟨F₁, l₁, hone⟩ := hrun K
    obtain ⟨F₂, l₂, htwo⟩ := hrun 0
    refine Or.inr ⟨e, ⟨log', ⟨F₁, l₁⟩, ⟨0, -1⟩, [], [], s⟩, asking log' ⟨K, -1⟩ F₂ l₂ s [] [], hends,
      ?_, twoProcessListen_dies ?_, rfl, rfl⟩
    · change within inFtp (vsfPrivopPasvListen sys tun.oneProcess.toConfig) _ = _
      rw [Tunables.oneProcess, pasvListen_model]
      exact inFtp_error hone
    · rw [Tunables.twoProcess, pasvListen_model]
      exact htwo

/-- No data socket, or one that the session now holds. -/
def DataSock (K : Multiset Fd) (l : Fd) (s : Sess) (fd : Fd) (K' : Multiset Fd) (l' : Fd) (s' : Sess) :
    Prop :=
  l' = l ∧ s' = s ∧ (((fd = -1 ∨ fd = -2) ∧ K' = K) ∨ (0 ≤ fd ∧ K' = fd ::ₘ K))

theorem askPasvFd_alike (hl : l ≠ -1) :
    Alike sys tun (askPasvFd sys tun.oneProcess.toConfig) (askPasvFd sys tun.twoProcess.toConfig)
      K l s (DataSock K l s) B := by
  apply Alike.runs
  intro log hlisten
  rcases vsfPrivopAcceptPasv_outcome sys tun.toConfig (reachable tun) log (listenFds l) l hlisten with
    ⟨fd, log', held', l', ⟨hg, rfl, hfd⟩, hrun⟩ | ⟨e, log', he, hrun⟩
  · have hlisten':=fun h => (hlisten h).mono hg.start
    have hone:=hrun K
    have htwo:=hrun 0
    rw [add_zero, add_zero] at htwo
    rcases hfd with ⟨hneg, rfl⟩ | ⟨hpos, rfl, _⟩
    · exact Or.inl ⟨fd, log', K, l', ⟨rfl, rfl, Or.inl ⟨hneg, rfl⟩⟩, hg, hlisten', inFtp_ok hone rfl,
        twoProcessGetPasvFd_refused hneg htwo⟩
    · refine Or.inl ⟨fd, log', fd ::ₘ K, l', ⟨rfl, rfl, Or.inr ⟨hpos, rfl⟩⟩, hg, hlisten',
        inFtp_ok hone ?_, twoProcessGetPasvFd_connected hpos htwo⟩
      rw [Multiset.cons_add, Multiset.add_cons]
  · have hends : EndsFor sys tun.toConfig (reachable tun) log B e log' := by
      refine ⟨he.1, Or.inl (he.2.resolve_right fun h => hl h.2)⟩
    obtain ⟨F₁, l₁, hone⟩ := hrun K
    obtain ⟨F₂, l₂, htwo⟩ := hrun 0
    rw [add_zero] at htwo
    exact Or.inr ⟨e, ⟨log', ⟨F₁, l₁⟩, ⟨0, -1⟩, [], [], s⟩, asking log' ⟨K, -1⟩ F₂ l₂ s [] [], hends,
      inFtp_error hone, twoProcessGetPasvFd_dies htwo, rfl, rfl⟩

theorem askChownUpload_alike (hup : tun.chownUploads = true) (hfd : fd ≠ -1) :
    Alike sys tun (askChownUpload sys tun.oneProcess.toConfig fd)
      (askChownUpload sys tun.twoProcess.toConfig fd) (fd ::ₘ K) l s (Only () (fd ::ₘ K) l s)
      (fun e => e = .died "invalid fd in cmd_process_chown") := by
  apply Alike.runs
  intro log hlisten
  rcases vsfPrivopDoFileChown_outcome sys tun.toConfig (reachable tun) log (listenFds l) l fd hup with
    ⟨_, log', _, l', ⟨hg, rfl, rfl⟩, hrun⟩ | ⟨e, log', he, hrun⟩
  · have hlisten':=fun h => (hlisten h).mono hg.start
    have htwo:=hrun {fd}
    rw [add_comm, Multiset.singleton_add] at htwo
    exact Or.inl ⟨(), log', fd ::ₘ K, l', ⟨rfl, rfl, rfl, rfl⟩, hg, hlisten', inFtp_ok (hrun _) rfl,
      twoProcessChownUpload_ok hup hfd htwo⟩
  · obtain ⟨F₁, l₁, hone⟩ := hrun (fd ::ₘ K)
    obtain ⟨F₂, l₂, htwo⟩ := hrun {fd}
    rw [add_comm, Multiset.singleton_add] at htwo
    exact Or.inr ⟨e, ⟨log', ⟨F₁, l₁⟩, ⟨0, -1⟩, [], [], s⟩,
      asking log' ⟨fd ::ₘ K, -1⟩ F₂ l₂ s [] [], he, inFtp_error hone,
      twoProcessChownUpload_dies hup hfd htwo, rfl, rfl⟩

/-- The address that the session has checked is the one that the parent takes. -/
theorem getFtpPortSock_own {a : SockAddr} (ha : a.addr = tun.remoteAddr) :
    vsfPrivopGetFtpPortSock sys tun.toConfig a.port (some a) =
      vsfPrivopGetFtpPortSock sys tun.toConfig a.port none := by
  obtain ⟨addr, port⟩ := a
  obtain rfl : addr = tun.remoteAddr := ha
  rfl

theorem oneProcessGetPrivDataSock_run {cfg : Config} {a : SockAddr} (ha : s.portSockaddr = some a) :
    vsfOneProcessGetPrivDataSock sys cfg (oneProcessWorld log K l s) =
      within inFtp (vsfPrivopGetFtpPortSock sys cfg a.port (some a)) (oneProcessWorld log K l s) := by
  have hread : portSockaddr (oneProcessWorld log K l s) = (.ok a, oneProcessWorld log K l s) :=
    portSockaddr_run ha
  unfold vsfOneProcessGetPrivDataSock
  rw [bind_ok hread]

theorem worlds_eq (log : List SysCall) (K : Multiset Fd) (s : Sess) :
    twoProcessWorld log K (-1) s = oneProcessWorld log K (-1) s := by
  unfold oneProcessWorld
  rw [show listenFds (-1) = 0 from rfl, zero_add]
  rfl

section PrivDataSock
variable {a : SockAddr} (ha : s.portSockaddr = some a) (hport : a.port < 2 ^ 16)
  (hto : tun.portPromiscuous = true ∨ (a.addr = tun.remoteAddr ∧ 1024 ≤ a.port))

def IllegalPort (tun : Tunables) (e : Ending) : Prop :=
  e = .died "Illegal port request" ∧ tun.portPromiscuous = true

variable (sys) in
include hto in
theorem portSock_outcome (log : List SysCall) :
    Outcome (vsfPrivopGetFtpPortSock sys tun.toConfig a.port (some a)) log (listenFds (-1)) (-1)
      (fun fd log' held' l' => Grows sys tun.toConfig (reachable tun) log log' ∧ l' = -1 ∧
        ((fd = -1 ∧ held' = listenFds (-1)) ∨ (0 ≤ fd ∧ held' = fd ::ₘ listenFds (-1))))
      (EndsFor sys tun.toConfig (reachable tun) log (IllegalPort tun)) := by
  apply (vsfPrivopGetFtpPortSock_outcome sys tun.toConfig (reachable tun) log (listenFds (-1)) (-1)
    a.port (some a) (hto.imp id And.left) rfl).weaken
  · rintro fd log' held' l' ⟨hg, hl, hneg | ⟨hpos, hheld, _⟩⟩
    · exact ⟨hg, hl, Or.inl hneg⟩
    · exact ⟨hg, hl, Or.inr ⟨hpos, hheld⟩⟩
  · rintro e log' ⟨hg, hr | ⟨_, hl⟩ | ⟨he, hlow⟩⟩
    · exact ⟨hg, Or.inl hr⟩
    · exact absurd rfl hl
    · exact ⟨hg, Or.inr ⟨he, hto.resolve_right fun h => absurd hlow (not_lt.mpr h.2)⟩⟩

omit hto in
include ha in
theorem askPrivDataSock_one (log : List SysCall) (K : Multiset Fd) (l : Fd) :
    askPrivDataSock sys tun.oneProcess.toConfig (oneProcessWorld log K l s) =
      within inFtp (vsfPrivopGetFtpPortSock sys tun.toConfig a.port (some a))
        (oneProcessWorld log K l s) := oneProcessGetPrivDataSock_run ha

include ha hto in
/-- Without the check on the address the unprivileged process connects itself. -/
theorem askPrivDataSock_promiscuous (hprom : tun.portPromiscuous = true) :
    Alike sys tun (askPrivDataSock sys tun.oneProcess.toConfig)
      (askPrivDataSock sys tun.twoProcess.toConfig) K (-1) s (DataSock K (-1) s) (IllegalPort tun) := by
  have htwo : ∀ log, askPrivDataSock sys tun.twoProcess.toConfig (oneProcessWorld log K (-1) s) =
      within inFtp (vsfPrivopGetFtpPortSock sys tun.toConfig a.port (some a))
        (oneProcessWorld log K (-1) s) := by
    intro log
    have hask : askPrivDataSock sys tun.twoProcess.toConfig =
        vsfOneProcessGetPrivDataSock sys tun.twoProcess.toConfig := if_pos (Or.inr hprom)
    rw [hask]
    exact oneProcessGetPrivDataSock_run ha
  apply Alike.runs
  intro log _
  rw [worlds_eq, askPrivDataSock_one ha, htwo]
  rcases portSock_outcome sys hto log with ⟨fd, log', held', l', ⟨hg, rfl, hfd⟩, hrun⟩ |
    ⟨e, log', he, hrun⟩
  · rcases hfd with ⟨rfl, rfl⟩ | ⟨hpos, rfl⟩
    · have hdone:=inFtp_ok (s := s) (hrun K) rfl
      refine Or.inl ⟨-1, log', K, -1, ⟨rfl, rfl, Or.inl ⟨Or.inl rfl, rfl⟩⟩, hg,
        fun h => absurd rfl h, hdone, ?_⟩
      rw [worlds_eq]
      exact hdone
    · have hK : fd ::ₘ listenFds (-1) + K = listenFds (-1) + fd ::ₘ K := by
        rw [Multiset.cons_add, Multiset.add_cons]
      have hdone:=inFtp_ok (s := s) (hrun K) hK
      refine Or.inl ⟨fd, log', fd ::ₘ K, -1, ⟨rfl, rfl, Or.inr ⟨hpos, rfl⟩⟩, hg, fun h => absurd rfl h,
        hdone, ?_⟩
      rw [worlds_eq]
      exact hdone
  · obtain ⟨F', l', herr⟩ := hrun K
    exact Or.inr ⟨e, _, _, he, inFtp_error herr, inFtp_error herr, rfl, rfl⟩

include ha hport hto in
/-- With the check the parent connects, to the address that it knows. -/
theorem askPrivDataSock_checked (hprom : tun.portPromiscuous = false) :
    Alike sys tun (askPrivDataSock sys tun.oneProcess.toConfig)
      (askPrivDataSock sys tun.twoProcess.toConfig) K (-1) s (DataSock K (-1) s) (IllegalPort tun) := by
  have hown : a.addr = tun.remoteAddr := by
    rcases hto with h | h
    · exact absurd h (by rw [hprom]; decide)
    · exact h.1
  have hask : askPrivDataSock sys tun.twoProcess.toConfig =
      vsfTwoProcessGetPrivDataSock sys tun.twoProcess.toConfig := by
    refine if_neg fun h => ?_
    rcases h with h | h
    · cases h
    · exact absurd (hprom.symm.trans h) (by decide)
  apply Alike.runs
  intro log _
  rw [askPrivDataSock_one ha, hask]
  rcases portSock_outcome sys hto log with ⟨fd, log', held', l', ⟨hg, rfl, hfd⟩, hrun⟩ |
    ⟨e, log', he, hrun⟩
  · have htwo:=hrun 0
    rw [getFtpPortSock_own hown, add_zero, add_zero] at htwo
    rcases hfd with ⟨rfl, rfl⟩ | ⟨hpos, rfl⟩
    · exact Or.inl ⟨-1, log', K, -1, ⟨rfl, rfl, Or.inl ⟨Or.inl rfl, rfl⟩⟩, hg,
        fun h => absurd rfl h,
        inFtp_ok (hrun K) rfl, twoProcessGetPrivDataSock_refused ha hport htwo⟩
    · refine Or.inl ⟨fd, log', fd ::ₘ K, -1, ⟨rfl, rfl, Or.inr ⟨hpos, rfl⟩⟩, hg, fun h => absurd rfl h,
        inFtp_ok (hrun K) ?_, twoProcessGetPrivDataSock_connected ha hport (ne_none_of_nonneg hpos) htwo⟩
      rw [Multiset.cons_add, Multiset.add_cons]
  · obtain ⟨F₁, l₁, hone⟩ := hrun K
    obtain ⟨F₂, l₂, htwo⟩ := hrun 0
    rw [getFtpPortSock_own hown, add_zero] at htwo
    exact Or.inr ⟨e, ⟨log', ⟨F₁, l₁⟩, ⟨0, -1⟩, [], [], s⟩, asking log' ⟨K, -1⟩ F₂ l₂ s [] [], he,
      inFtp_error hone, twoProcessGetPrivDataSock_dies ha hport htwo, rfl, rfl⟩

include ha hport hto in
theorem askPrivDataSock_alike :
    Alike sys tun (askPrivDataSock sys tun.oneProcess.toConfig)
      (askPrivDataSock sys tun.twoProcess.toConfig) K (-1) s (DataSock K (-1) s) (IllegalPort tun) := by
  cases hprom : tun.portPromiscuous with
  | true => exact askPrivDataSock_promiscuous ha hto hprom
  | false => exact askPrivDataSock_checked ha hport hto hprom

end PrivDataSock

end Asked

end BoardServices.Vsftpd
