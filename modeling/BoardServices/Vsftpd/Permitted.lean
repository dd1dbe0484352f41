import BoardServices.Vsftpd.Privops

/-!
# What privilege is used for

The calls that the privileged side makes of the system, whoever asks for them:
where it binds and listens, where it connects to, which files it gives away. Each
operation is described by one lemma. It says what the operation does to the
descriptors it was given and that it leaves the others alone, so the same lemma
serves a process that holds other descriptors besides.
-/

namespace BoardServices.Vsftpd
open Lib.Process

/-- `fd` is a socket on which `listen()` succeeded. -/
def Listening (sys : System) (log : List SysCall) (fd : Fd) : Prop :=
  ∃ past, past ++ [.listen fd] <+: log ∧ sys.listen past = none

section Permitted
variable (sys : System) (cfg : Config) (target : Addr → Prop)

def InPasvRange (port : ℕ) : Prop := minPort cfg ≤ port ∧ port ≤ maxPort cfg

def Permitted (past : List SysCall) : SysCall → Prop
  | .socket | .fstat _ | .sleep => True
  | .bind _ a => a.addr = cfg.localAddr ∧ (a.port = 0 ∨ InPasvRange cfg a.port ∨
      (cfg.connectFromPort20 = true ∧ a.port = cfg.ftpDataPort % 2 ^ 16))
  | .listen fd => ∃ before a, past = before ++ [.bind fd a] ∧ sys.bind before = none ∧
      InPasvRange cfg a.port
  | .connect _ a => target a.addr ∧ 1024 ≤ a.port
  | .accept fd => Listening sys past fd
  | .fchown fd uid => cfg.chownUploads = true ∧ uid = cfg.anonUploadChownUid ∧ uid ≠ -1 ∧
      ∃ before st, past = before ++ [.fstat fd] ∧ sys.fstat before = some st ∧
        st.isRegfile = true ∧ (st.uid = cfg.anonFtpUid ∨ st.uid = cfg.guestUserUid)

def Orderly (log : List SysCall) : Prop :=
  ∀ past c, past ++ [c] <+: log → Permitted sys cfg target past c

/-- `fd` is a connection to the client of the session. -/
def ToClient (log : List SysCall) (fd : Fd) : Prop :=
  (∃ past a, past ++ [.connect fd a] <+: log ∧ sys.connect past = true ∧ target a.addr ∧
    1024 ≤ a.port) ∨
  (∃ past l peer, past ++ [.accept l] <+: log ∧
    (∃ n, sys.accept past = some (n, peer) ∧ fd = (n : ℤ)) ∧
    (cfg.pasvPromiscuous = true ∨ sockaddrAddrEqual cfg.remoteAddr peer = true))

structure Grows (log log' : List SysCall) : Prop where
  start : log <+: log'
  orderly : Orderly sys cfg target log → Orderly sys cfg target log'

end Permitted

section Log
variable {sys : System} {cfg : Config} {target : Addr → Prop} {log log' : List SysCall}
  {c : SysCall} {fd : Fd}

theorem Orderly.nil : Orderly sys cfg target [] := by
  intro past c h
  have hlen:=h.length_le
  simp at hlen

theorem Orderly.snoc (h : Orderly sys cfg target log) (hc : Permitted sys cfg target log c) :
    Orderly sys cfg target (log ++ [c]) := by
  intro past d hd
  rcases List.prefix_concat_iff.mp hd with heq | hpre
  · obtain ⟨rfl, hlast⟩ := List.append_inj' heq rfl
    obtain rfl : d = c := by simpa using hlast
    exact hc
  · exact h past d hpre

theorem Grows.refl (log : List SysCall) : Grows sys cfg target log log := ⟨List.prefix_rfl, id⟩

theorem Grows.snoc (h : Grows sys cfg target log log')
    (hc : Permitted sys cfg target log' c) : Grows sys cfg target log (log' ++ [c]) :=
  ⟨h.start.trans (List.prefix_append ..), fun ho => (h.orderly ho).snoc hc⟩

theorem Grows.trans {log'' : List SysCall} (h : Grows sys cfg target log log')
    (h' : Grows sys cfg target log' log'') : Grows sys cfg target log log'' :=
  ⟨h.start.trans h'.start, fun ho => h'.orderly (h.orderly ho)⟩

theorem Listening.mono (h : Listening sys log fd) (hs : log <+: log') : Listening sys log' fd := by
  obtain ⟨past, hp, hl⟩ := h
  exact ⟨past, hp.trans hs, hl⟩

theorem ToClient.mono (h : ToClient sys cfg target log fd) (hs : log <+: log') :
    ToClient sys cfg target log' fd := by
  rcases h with ⟨past, a, hp, h⟩ | ⟨past, l, peer, hp, h⟩
  · exact Or.inl ⟨past, a, hp.trans hs, h⟩
  · exact Or.inr ⟨past, l, peer, hp.trans hs, h⟩

theorem pasv_range (cfg : Config) :
    1024 ≤ minPort cfg ∧ minPort cfg ≤ maxPort cfg ∧ maxPort cfg ≤ 65535 := by
  unfold maxPort minPort
  split_ifs <;> omega

theorem scaledPort_inRange (cfg : Config) (r : UInt8 × UInt8) :
    InPasvRange cfg (scaledPort cfg r) := by
  have hrange:=pasv_range cfg
  have h1:=r.1.toNat_lt
  have h2:=r.2.toNat_lt
  have hlt : (r.1.toNat * 256 + r.2.toNat) * (maxPort cfg - minPort cfg + 1) / 65536
      < maxPort cfg - minPort cfg + 1 := by
    rw [Nat.div_lt_iff_lt_mul (by omega), Nat.mul_comm]
    exact Nat.mul_lt_mul_of_pos_left (by omega) (by omega)
  unfold InPasvRange scaledPort
  omega

end Log

/-! ### Outcomes -/

section Outcomes

/-- The operation on a process that holds `held` and anything else: what it comes
to does not depend on the rest, and a value leaves the rest alone. -/
def Outcome {α : Type} (op : Priv α) (log : List SysCall) (held : Multiset Fd) (l : Fd)
    (Q : α → List SysCall → Multiset Fd → Fd → Prop) (E : Ending → List SysCall → Prop) : Prop :=
  (∃ a log' held' l', Q a log' held' l' ∧
    ∀ F, op ⟨log, held + F, l⟩ = (.ok a, ⟨log', held' + F, l'⟩)) ∨
  (∃ e log', E e log' ∧ ∀ F, ∃ F' l', op ⟨log, held + F, l⟩ = (.error e, ⟨log', F', l'⟩))

variable {α β : Type} {op : Priv α} {f : α → Priv β} {log log' : List SysCall}
  {held held' : Multiset Fd} {l l' : Fd} {Q : α → List SysCall → Multiset Fd → Fd → Prop}
  {R : β → List SysCall → Multiset Fd → Fd → Prop} {E : Ending → List SysCall → Prop}

theorem Outcome.returns {a : α} (h : Q a log held l) : Outcome (pure a) log held l Q E :=
  Or.inl ⟨a, log, held, l, h, fun _ => rfl⟩

theorem Outcome.dies {e : Ending} (h : E e log) :
    Outcome (throw e : Priv α) log held l Q E :=
  Or.inr ⟨e, log, h, fun F => ⟨held + F, l, rfl⟩⟩

theorem Outcome.bind (h : Outcome op log held l Q E)
    (hf : ∀ a log' held' l', Q a log' held' l' → Outcome (f a) log' held' l' R E) :
    Outcome (op >>= f) log held l R E := by
  rcases h with ⟨a, log', held', l', hq, hrun⟩ | ⟨e, log', he, hrun⟩
  · rcases hf a log' held' l' hq with ⟨b, log'', held'', l'', hr, hrest⟩ | ⟨e, log'', he, hrest⟩
    · refine Or.inl ⟨b, log'', held'', l'', hr, fun F => ?_⟩
      rw [bind_ok (hrun F)]
      exact hrest F
    · refine Or.inr ⟨e, log'', he, fun F => ?_⟩
      rw [bind_ok (hrun F)]
      exact hrest F
  · refine Or.inr ⟨e, log', he, fun F => ?_⟩
    obtain ⟨F', l', herr⟩ := hrun F
    exact ⟨F', l', bind_error herr⟩

/-- A step whose run is known. -/
theorem Outcome.step (a : α) (log' : List SysCall) (held' : Multiset Fd) (l' : Fd)
    (hrun : ∀ F, op ⟨log, held + F, l⟩ = (.ok a, ⟨log', held' + F, l'⟩))
    (h : Outcome (f a) log' held' l' R E) : Outcome (op >>= f) log held l R E :=
  Outcome.bind (Q := fun a' log'' held'' l'' => a' = a ∧ log'' = log' ∧ held'' = held' ∧ l'' = l')
    (Or.inl ⟨a, log', held', l', ⟨rfl, rfl, rfl, rfl⟩, hrun⟩)
    fun _ _ _ _ ⟨ha, hlog, hheld, hl⟩ => ha ▸ hlog ▸ hheld ▸ hl ▸ h

theorem Outcome.weaken {Q' : α → List SysCall → Multiset Fd → Fd → Prop}
    {E' : Ending → List SysCall → Prop} (h : Outcome op log held l Q E)
    (hq : ∀ a log' held' l', Q a log' held' l' → Q' a log' held' l')
    (he : ∀ e log', E e log' → E' e log') : Outcome op log held l Q' E' := by
  rcases h with ⟨a, log', held', l', h, hrun⟩ | ⟨e, log', h, hrun⟩
  · exact Or.inl ⟨a, log', held', l', hq _ _ _ _ h, hrun⟩
  · exact Or.inr ⟨e, log', he _ _ h, hrun⟩

theorem Outcome.guard {c : Prop} [Decidable c] {e : Ending} {k : Unit → Priv β}
    (hc : c → E e log) (hk : ¬ c → Outcome (k ()) log held l R E) :
    Outcome (if c then (throw e : Priv Unit) >>= k else k ()) log held l R E := by
  by_cases h : c
  · rw [if_pos h]
    exact Outcome.dies (hc h)
  · rw [if_neg h]
    exact hk h

theorem Outcome.ite {c : Prop} [Decidable c] {op' : Priv α}
    (ht : c → Outcome op log held l Q E) (hf : ¬ c → Outcome op' log held l Q E) :
    Outcome (if c then op else op') log held l Q E := by
  by_cases h : c
  · rw [if_pos h]
    exact ht h
  · rw [if_neg h]
    exact hf h

end Outcomes

/-! ### The operations -/

/-- The system refused a call that must not fail. -/
def Refused (e : Ending) : Prop :=
  ∃ message ∈ ["socket", "vsf_sysutil_bind", "vsf_sysutil_bind / listen", "listen", "fstat",
    "fchown"], e = .died message

section Operations
variable {sys : System} {cfg : Config} {target : Addr → Prop}

/-- How an operation may end a process: for the system, or for what is blamed on
the one who asked. -/
def EndsFor (sys : System) (cfg : Config) (target : Addr → Prop) (log : List SysCall)
    (blame : Ending → Prop) (e : Ending) (log' : List SysCall) : Prop :=
  Grows sys cfg target log log' ∧ (Refused e ∨ blame e)

variable {log : List SysCall} {held : Multiset Fd} {l fd : Fd} {blame : Ending → Prop}

theorem EndsFor.refused {log' : List SysCall} {message : String}
    (hg : Grows sys cfg target log log') (h : Refused (.died message)) :
    EndsFor sys cfg target log blame (.died message) log' := ⟨hg, Or.inl h⟩

section Steps
variable {β : Type} {R : β → List SysCall → Multiset Fd → Fd → Prop}
  {E : Ending → List SysCall → Prop}

theorem record_step {f : Unit → Priv β} {c : SysCall}
    (h : Outcome (f ()) (log ++ [c]) held l R E) : Outcome (record c >>= f) log held l R E :=
  Outcome.step () (log ++ [c]) held l (fun _ => rfl) h

theorem received_step {f : Unit → Priv β} (h : Outcome (f ()) log (fd ::ₘ held) l R E) :
    Outcome (received fd >>= f) log held l R E :=
  Outcome.step () log (fd ::ₘ held) l
    (fun _ => by rw [Multiset.cons_add]; rfl) h

theorem setPasvListenFd_step {f : Unit → Priv β} (h : Outcome (f ()) log held fd R E) :
    Outcome (setPasvListenFd fd >>= f) log held l R E :=
  Outcome.step () log held fd (fun _ => rfl) h

theorem setPasvListenFd_run {Q : Unit → List SysCall → Multiset Fd → Fd → Prop}
    (h : Q () log held fd) : Outcome (setPasvListenFd fd) log held l Q E :=
  Or.inl ⟨(), log, held, fd, h, fun _ => rfl⟩

theorem callsSoFar_step {f : List SysCall → Priv β} (h : Outcome (f log) log held l R E) :
    Outcome (callsSoFar >>= f) log held l R E :=
  Outcome.step log log held l (fun _ => rfl) h

theorem pasvListenFd_step {f : Fd → Priv β} (h : Outcome (f l) log held l R E) :
    Outcome (pasvListenFd >>= f) log held l R E :=
  Outcome.step l log held l (fun _ => rfl) h

theorem sysBind_step {f : Option Errno → Priv β} {a : SockAddr}
    (h : Outcome (f (sys.bind log)) (log ++ [.bind fd a]) held l R E) :
    Outcome (sysBind sys fd a >>= f) log held l R E :=
  Outcome.step (sys.bind log) (log ++ [.bind fd a]) held l (fun _ => rfl) h

theorem connectTimeout_step {f : Bool → Priv β} {a : SockAddr}
    (h : Outcome (f (sys.connect log)) (log ++ [.connect fd a]) held l R E) :
    Outcome (connectTimeout sys fd a >>= f) log held l R E :=
  Outcome.step (sys.connect log) (log ++ [.connect fd a]) held l (fun _ => rfl) h

theorem closeOrDie_run (message : String) (F : Multiset Fd) :
    closeOrDie message fd ⟨log, fd ::ₘ F, l⟩ = (.ok (), ⟨log, F, l⟩) := by
  unfold closeOrDie
  rw [bind_ok (get_run _)]
  simp only [Multiset.mem_cons_self, if_true, Multiset.erase_cons_head]
  rfl

theorem sysClose_run (F : Multiset Fd) :
    sysClose fd ⟨log, fd ::ₘ F, l⟩ = (.ok (), ⟨log, F, l⟩) := closeOrDie_run _ F

theorem sysClose_step {f : Unit → Priv β}
    (h : Outcome (f ()) log held l R E) : Outcome (sysClose fd >>= f) log (fd ::ₘ held) l R E :=
  Outcome.step () log held l (fun F => by rw [Multiset.cons_add]; exact sysClose_run _) h

end Steps

theorem getIpsock_outcome :
    Outcome (getIpsock sys) log held l
      (fun s log' held' l' => log' = log ++ [.socket] ∧ 0 ≤ s ∧ held' = s ::ₘ held ∧ l' = l)
      (EndsFor sys cfg target log blame) := by
  unfold getIpsock
  refine callsSoFar_step ?_
  cases hs : sys.socket log with
  | none => exact Outcome.dies (EndsFor.refused (Grows.refl log) (by simp [Refused]))
  | some n =>
    refine record_step (received_step ?_)
    exact Outcome.returns ⟨rfl, Int.natCast_nonneg n, rfl, rfl⟩

theorem bindLoop_outcome {a : SockAddr} {log₀ : List SysCall}
    (hp : ∀ past, Permitted sys cfg target past (.bind fd a))
    (hg : Grows sys cfg target log₀ log) (tries : ℕ) :
    Outcome (bindLoop sys fd a tries) log held l
      (fun _ log' held' l' => Grows sys cfg target log₀ log' ∧ held' = held ∧ l' = l)
      (EndsFor sys cfg target log₀ blame) := by
  induction tries generalizing log with
  | zero => exact Outcome.returns ⟨hg, rfl, rfl⟩
  | succ tries ih =>
    have hbound:=hg.snoc (hp log)
    unfold bindLoop
    refine sysBind_step ?_
    cases sys.bind log with
    | none => exact Outcome.returns ⟨hbound, rfl, rfl⟩
    | some e =>
      refine Outcome.ite (fun _ => ?_) (fun _ => ?_)
      · exact Outcome.dies (EndsFor.refused hbound (by simp [Refused]))
      · exact record_step (ih (hbound.snoc (c := .sleep) trivial))

variable (sys cfg target log held l) in
/-- The data connection to a client that listens. -/
theorem vsfPrivopGetFtpPortSock_outcome (port : ℕ) (portSockaddr : Option SockAddr)
    (hto : target (portSockaddr.getD ⟨cfg.remoteAddr, port⟩).addr)
    (hport : (portSockaddr.getD ⟨cfg.remoteAddr, port⟩).port = port) :
    Outcome (vsfPrivopGetFtpPortSock sys cfg port portSockaddr) log held l
      (fun s log' held' l' => Grows sys cfg target log log' ∧ l' = l ∧
        ((s = -1 ∧ held' = held) ∨
          (0 ≤ s ∧ held' = s ::ₘ held ∧ ToClient sys cfg target log' s)))
      (EndsFor sys cfg target log fun e =>
        (e = .died "listed fd is active?" ∧ l ≠ -1) ∨
          (e = .died "Illegal port request" ∧ port < 1024)) := by
  unfold vsfPrivopGetFtpPortSock
  refine Outcome.bind getIpsock_outcome ?_
  rintro s log₁ held₁ l₁ ⟨rfl, hs, rfl, rfl⟩
  have hsocket : Grows sys cfg target log (log ++ [.socket]) := (Grows.refl log).snoc trivial
  refine pasvListenFd_step ?_
  refine Outcome.guard (fun hl => ⟨hsocket, Or.inr (Or.inl ⟨rfl, hl⟩)⟩) fun hl => ?_
  refine Outcome.guard (fun hp => ⟨hsocket, Or.inr (Or.inr ⟨rfl, ?_⟩)⟩) fun hp => ?_
  · simpa [isPortReserved] using hp
  have hhigh : 1024 ≤ port := by simpa [isPortReserved] using hp
  refine Outcome.bind (bindLoop_outcome (fun past => ⟨rfl, ?_⟩) hsocket 2) ?_
  · by_cases h20 : cfg.connectFromPort20 = true
    · exact Or.inr (Or.inr ⟨h20, if_pos h20⟩)
    · exact Or.inl (if_neg h20)
  rintro _ log₂ held₂ l₂ ⟨hbound, rfl, rfl⟩
  have hconnect:=hbound.snoc (c := .connect s (portSockaddr.getD ⟨cfg.remoteAddr, port⟩))
    ⟨hto, hport.symm ▸ hhigh⟩
  refine connectTimeout_step ?_
  refine Outcome.ite (fun hc => ?_) (fun _ => ?_)
  · refine Outcome.returns ⟨hconnect, rfl, Or.inr ⟨hs, rfl, Or.inl ?_⟩⟩
    exact ⟨log₂, _, List.prefix_rfl, hc, hto, hport.symm ▸ hhigh⟩
  · exact sysClose_step (Outcome.returns ⟨hconnect, rfl, Or.inl ⟨rfl, rfl⟩⟩)

/-- The descriptors that a listening socket takes up. -/
def listenFds (l : Fd) : Multiset Fd := if l = -1 then 0 else {l}

variable (log held l) in
theorem vsfPrivopPasvCleanup_outcome {E : Ending → List SysCall → Prop} :
    Outcome vsfPrivopPasvCleanup log (listenFds l + held) l
      (fun _ log' held' l' => log' = log ∧ held' = held ∧ l' = -1) E := by
  unfold vsfPrivopPasvCleanup
  refine pasvListenFd_step ?_
  refine Outcome.ite (fun hl => ?_) (fun hl => ?_)
  · have hheld : listenFds l + held = l ::ₘ held := by
      rw [listenFds, if_neg hl, Multiset.singleton_add]
    rw [hheld]
    exact sysClose_step (setPasvListenFd_run ⟨rfl, rfl, rfl⟩)
  · have hl : l = -1 := not_not.mp hl
    subst hl
    exact Outcome.returns ⟨rfl, zero_add held, rfl⟩

theorem bindAndListen_outcome {log₀ : List SysCall} {port : ℕ}
    (hg : Grows sys cfg target log₀ log) (hport : InPasvRange cfg port) :
    Outcome (bindAndListen sys fd ⟨cfg.localAddr, port⟩) log held l
      (fun e log' held' l' => Grows sys cfg target log₀ log' ∧ held' = held ∧ l' = l ∧
        (e = none → Listening sys log' fd))
      (EndsFor sys cfg target log₀ blame) := by
  have hbind:=hg.snoc (c := .bind fd ⟨cfg.localAddr, port⟩) ⟨rfl, Or.inr (Or.inl hport)⟩
  unfold bindAndListen
  refine sysBind_step ?_
  cases hb : sys.bind log with
  | some e => exact Outcome.returns ⟨hbind, rfl, rfl, fun h => by cases h⟩
  | none =>
    have hlisten:=hbind.snoc (c := .listen fd) ⟨log, _, rfl, hb, hport⟩
    unfold sysListen
    refine callsSoFar_step (record_step ?_)
    cases hl : sys.listen (log ++ [.bind fd ⟨cfg.localAddr, port⟩]) with
    | none => exact Outcome.returns ⟨hlisten, rfl, rfl, fun _ => ⟨_, List.prefix_rfl, hl⟩⟩
    | some e =>
      refine Outcome.ite (fun _ => ?_) (fun _ => ?_)
      · exact Outcome.dies (EndsFor.refused hlisten (by simp [Refused]))
      · exact Outcome.returns ⟨hlisten, rfl, rfl, fun h => by cases h⟩

theorem listenLoop_outcome {log₀ : List SysCall} (hg : Grows sys cfg target log₀ log)
    (retries : ℕ) (l : Fd) :
    Outcome (listenLoop sys cfg retries) log held l
      (fun port log' held' l' => Grows sys cfg target log₀ log' ∧ 0 ≤ l' ∧ held' = l' ::ₘ held ∧
        Listening sys log' l' ∧ InPasvRange cfg port)
      (EndsFor sys cfg target log₀ blame) := by
  induction retries generalizing log l with
  | zero => exact Outcome.dies (EndsFor.refused hg (by simp [Refused]))
  | succ retries ih =>
    unfold listenLoop
    refine callsSoFar_step ?_
    have hrange:=scaledPort_inRange cfg (sys.randomBytes log)
    refine Outcome.bind (getIpsock_outcome.weaken (fun _ _ _ _ h => h)
      fun e log' he => ⟨hg.trans he.1, he.2⟩) ?_
    rintro fd log₁ held₁ l₁ ⟨rfl, hfd, rfl, rfl⟩
    have hsocket:=hg.snoc (c := .socket) trivial
    refine setPasvListenFd_step ?_
    refine Outcome.bind (bindAndListen_outcome hsocket hrange) ?_
    rintro e log₂ held₂ l₂ ⟨hg₂, rfl, rfl, hlisten⟩
    cases e with
    | none => exact Outcome.returns ⟨hg₂, hfd, rfl, hlisten rfl, hrange⟩
    | some e =>
      refine Outcome.ite (fun _ => ?_) (fun _ => ?_)
      · -- an attempt that failed leaves no descriptor behind
        exact sysClose_step (setPasvListenFd_step (ih hg₂ _))
      · exact Outcome.dies (EndsFor.refused hg₂ (by simp [Refused]))

variable (sys cfg target log held l) in
theorem vsfPrivopPasvListen_outcome :
    Outcome (vsfPrivopPasvListen sys cfg) log held l
      (fun port log' held' l' => Grows sys cfg target log log' ∧ l = -1 ∧ 0 ≤ l' ∧
        held' = l' ::ₘ held ∧ Listening sys log' l' ∧ InPasvRange cfg port)
      (EndsFor sys cfg target log fun e => e = .died "listed fd already active" ∧ l ≠ -1) := by
  unfold vsfPrivopPasvListen
  refine pasvListenFd_step ?_
  refine Outcome.guard (fun hl => ⟨Grows.refl log, Or.inr ⟨rfl, hl⟩⟩) fun hl => ?_
  refine (listenLoop_outcome (Grows.refl log) 9 l).weaken ?_ (fun _ _ h => h)
  rintro port log' held' l' ⟨hg, h⟩
  exact ⟨hg, not_not.mp hl, h⟩

theorem acceptTimeout_outcome {E : Ending → List SysCall → Prop} :
    Outcome (acceptTimeout sys fd) log held l
      (fun r log' held' l' => log' = log ++ [.accept fd] ∧ l' = l ∧
        ((r = none ∧ held' = held) ∨ ∃ (n : ℕ) (peer : Addr), r = some ((n : ℤ), peer) ∧
          sys.accept log = some (n, peer) ∧ held' = (n : ℤ) ::ₘ held)) E := by
  unfold acceptTimeout
  refine callsSoFar_step (record_step ?_)
  cases ha : sys.accept log with
  | none => exact Outcome.returns ⟨rfl, rfl, Or.inl ⟨rfl, rfl⟩⟩
  | some r =>
    obtain ⟨n, peer⟩ := r
    exact received_step (Outcome.returns ⟨rfl, rfl, Or.inr ⟨n, peer, rfl, rfl, rfl⟩⟩)

variable (sys cfg target log held l) in
theorem vsfPrivopAcceptPasv_outcome (hlisten : l ≠ -1 → Listening sys log l) :
    Outcome (vsfPrivopAcceptPasv sys cfg) log held l
      (fun s log' held' l' => Grows sys cfg target log log' ∧ l' = l ∧
        (((s = -1 ∨ s = -2) ∧ held' = held) ∨
          (0 ≤ s ∧ held' = s ::ₘ held ∧ ToClient sys cfg target log' s)))
      (EndsFor sys cfg target log fun e => e = .died "listed fd not active" ∧ l = -1) := by
  unfold vsfPrivopAcceptPasv
  refine pasvListenFd_step ?_
  refine Outcome.guard (fun hl => ⟨Grows.refl log, Or.inr ⟨rfl, hl⟩⟩) fun hl => ?_
  have haccept : Grows sys cfg target log (log ++ [.accept l]) :=
    (Grows.refl log).snoc (hlisten hl)
  refine Outcome.bind acceptTimeout_outcome ?_
  rintro r log' held' l' ⟨rfl, rfl, ⟨rfl, rfl⟩ | ⟨n, peer, rfl, ha, rfl⟩⟩
  · exact Outcome.returns ⟨haccept, rfl, Or.inl ⟨Or.inl rfl, rfl⟩⟩
  · refine Outcome.ite (fun _ => ?_) (fun hsame => ?_)
    · exact sysClose_step (Outcome.returns ⟨haccept, rfl, Or.inl ⟨Or.inr rfl, rfl⟩⟩)
    · refine Outcome.returns ⟨haccept, rfl, Or.inr ⟨Int.natCast_nonneg n, rfl, Or.inr ?_⟩⟩
      refine ⟨log, l', peer, List.prefix_rfl, ⟨n, ha, rfl⟩, ?_⟩
      by_cases hp : cfg.pasvPromiscuous = true
      · exact Or.inl hp
      · exact Or.inr (not_not.mp fun h => hsame ⟨hp, h⟩)

theorem sysFstat_outcome {log₀ : List SysCall} (hg : Grows sys cfg target log₀ log) :
    Outcome (sysFstat sys fd) log held l
      (fun st log' held' l' => log' = log ++ [.fstat fd] ∧ sys.fstat log = some st ∧
        held' = held ∧ l' = l)
      (EndsFor sys cfg target log₀ blame) := by
  unfold sysFstat
  refine callsSoFar_step (record_step ?_)
  cases hs : sys.fstat log with
  | none => exact Outcome.dies (EndsFor.refused (hg.snoc (c := .fstat fd) trivial) (by simp [Refused]))
  | some st => exact Outcome.returns ⟨rfl, rfl, rfl, rfl⟩

variable (sys cfg target log held l fd) in
theorem vsfPrivopDoFileChown_outcome (hup : cfg.chownUploads = true) :
    Outcome (vsfPrivopDoFileChown sys cfg fd) log held l
      (fun _ log' held' l' => Grows sys cfg target log log' ∧ held' = held ∧ l' = l)
      (EndsFor sys cfg target log fun e =>
        e = .died "invalid fd in cmd_process_chown") := by
  unfold vsfPrivopDoFileChown
  refine Outcome.bind (sysFstat_outcome (Grows.refl log)) ?_
  rintro st log₁ held₁ l₁ ⟨rfl, hst, rfl, rfl⟩
  have hstat : Grows sys cfg target log (log ++ [.fstat fd]) := (Grows.refl log).snoc trivial
  refine Outcome.ite (fun _ => Outcome.returns ⟨hstat, rfl, rfl⟩) (fun _ => ?_)
  refine Outcome.ite (fun _ => Outcome.dies ⟨hstat, Or.inr rfl⟩) (fun hvalid => ?_)
  simp only [not_or, not_and_or, not_not] at hvalid
  have hchown:=hstat.snoc (c := .fchown fd cfg.anonUploadChownUid)
    ⟨hup, rfl, hvalid.1, log, st, rfl, hst, hvalid.2.1, hvalid.2.2⟩
  unfold sysFchown
  refine callsSoFar_step (record_step ?_)
  refine Outcome.ite (fun _ => ?_) (fun _ => Outcome.returns ⟨hchown, rfl, rfl⟩)
  exact Outcome.dies (EndsFor.refused hchown (by simp [Refused]))

end Operations

end BoardServices.Vsftpd
