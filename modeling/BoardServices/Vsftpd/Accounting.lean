import BoardServices.Vsftpd.Standalone
import Mathlib.Data.Finset.Interval
import Mathlib.Order.Interval.Finset.Nat

/-!
# What the listener accounts for

`s_children`, the count of each address and the address of each pid are three
views of one list, the sessions not waited for yet and the connection that has
been counted but has no session. The order of `fork()`, `close()` and
`hash_add_entry` leaves one window, in which a session is counted but its pid is
not recorded.
-/

namespace BoardServices.Vsftpd
open Lib.Machine

/-! ### Counting addresses -/

/-- No entry where nothing is counted. -/
def countMap (l : List IpAddr) (a : IpAddr) : Option ℕ :=
  if l.count a = 0 then none else some (l.count a)

theorem countMap_perm {l l' : List IpAddr} (h : l.Perm l') : countMap l = countMap l' := by
  funext a
  simp only [countMap, h.count_eq]

theorem countMap_cons (a : IpAddr) (l : List IpAddr) :
    countMap (a :: l) = Function.update (countMap l) a (some (l.count a + 1)) := by
  funext b
  by_cases hb : b = a
  · subst hb
    simp [countMap]
  · have hc : (a :: l).count b = l.count b := List.count_cons_of_ne fun he => hb he.symm
    rw [Function.update_of_ne hb]
    simp only [countMap, hc]

theorem countMap_of_cons (a : IpAddr) (l : List IpAddr) (x : Option ℕ)
    (hx : x = if l.count a = 0 then none else some (l.count a)) :
    Function.update (countMap (a :: l)) a x = countMap l := by
  rw [countMap_cons, Function.update_idem, hx]
  exact Function.update_eq_self a (countMap l)

structure IpTable (h : Hash IpAddr ℕ) (l : List IpAddr) : Prop where
  buckets : h.buckets = 256
  hashFunc : h.hashFunc = hashIp
  maps : Maps h (countMap l)

theorem IpTable.inRange {h : Hash IpAddr ℕ} {l : List IpAddr} (T : IpTable h l) (a : IpAddr) :
    h.hashFunc h.buckets a < h.buckets := by
  rw [T.hashFunc, T.buckets]
  exact Nat.mod_lt _ (by norm_num)

theorem handleIpCount_ok {h : Hash IpAddr ℕ} {l : List IpAddr} (T : IpTable h l) {a : ℕ}
    (ha : h.heap.lookup a = none) (client : IpAddr) (hl : l.count client + 1 < 2 ^ 32) :
    ∃ h', handleIpCount h a client = .ok (h', l.count client + 1) ∧ IpTable h' (client :: l) := by
  cases hk : countMap l client with
  | none =>
    have hzero : l.count client = 0 := by
      by_contra hne
      rw [countMap, if_neg hne] at hk
      cases hk
    obtain ⟨h', hadd, hb, hf, hm⟩ := hashAddEntry_ok T.maps (T.inRange client) hk ha 1
    refine ⟨h', ?_, hb.trans T.buckets, hf.trans T.hashFunc, ?_⟩
    · simp only [handleIpCount, hashLookupEntry_none T.maps (T.inRange client) hk]
      simp [bind, Except.bind, hadd, pure, Except.pure, hzero]
    · rw [countMap_cons, hzero]
      exact hm
  | some n =>
    have hn : n = l.count client := by
      rw [countMap] at hk
      split at hk
      · cases hk
      · exact (Option.some.inj hk).symm
    subst hn
    obtain ⟨p, hl', hv, h', hs, hb, hf, hm⟩ := storeAt_ok T.maps (T.inRange client) hk
      (l.count client + 1)
    refine ⟨h', ?_, hb.trans T.buckets, hf.trans T.hashFunc, ?_⟩
    · have hmod:=Nat.mod_eq_of_lt hl
      simp only [handleIpCount, hl', bind, Except.bind, hv, hmod, hs, pure, Except.pure]
    · rw [countMap_cons]
      exact hm

theorem dropIpCount_ok {h : Hash IpAddr ℕ} {l : List IpAddr} {client : IpAddr}
    (T : IpTable h (client :: l)) :
    ∃ h', dropIpCount h (some client) = .ok h' ∧ IpTable h' l := by
  have hk : countMap (client :: l) client = some (l.count client + 1) := by simp [countMap]
  obtain ⟨p, hl, hv, h₁, hs, hb₁, hf₁, hm₁⟩ := storeAt_ok T.maps (T.inRange client) hk
    (l.count client)
  by_cases hz : l.count client = 0
  · have hr₁ : h₁.hashFunc h₁.buckets client < h₁.buckets := by
      rw [hf₁, hb₁]
      exact T.inRange client
    obtain ⟨h₂, hfree, hb₂, hf₂, hm₂⟩ := hashFreeEntry_ok hm₁ hr₁ (Function.update_self ..)
    refine ⟨h₂, ?_, hb₂.trans (hb₁.trans T.buckets), hf₂.trans (hf₁.trans T.hashFunc), ?_⟩
    · rw [hz] at hs hv
      simp only [dropIpCount, hl]
      simp [bind, Except.bind, hv, hs, hfree]
    · rw [Function.update_idem, countMap_of_cons client l none (by rw [if_pos hz])] at hm₂
      exact hm₂
  · refine ⟨h₁, ?_, hb₁.trans T.buckets, hf₁.trans T.hashFunc, ?_⟩
    · simp only [dropIpCount, hl]
      simp [bind, Except.bind, hv, hs, pure, Except.pure, hz]
    · rw [countMap_of_cons client l _ (by rw [if_neg hz])] at hm₁
      exact hm₁

/-! ### The invariant -/

/-- The connection that is being served, and its session if `fork()` gave one. -/
def Phase.pending : Phase → Option (IpAddr × Option ℕ)
  | .forking client _ => some (client, none)
  | .closing client child | .recording client child | .handling (.inClose client child) =>
    some (client, child)
  | _ => none

def Phase.unborn (p : Phase) : List IpAddr :=
  match p.pending with
  | some (client, none) => [client]
  | _ => []

/-- The session whose pid is not recorded yet. -/
def Phase.newborn (p : Phase) : Option ℕ :=
  match p.pending with
  | some (_, some pid) => some pid
  | _ => none

namespace Listener

/-- The addresses that are counted. -/
def addrs (s : Listener) : List IpAddr := s.phase.unborn ++ s.sessions.map Session.addr

def addrOf (s : Listener) (pid : ℕ) : Option IpAddr :=
  (s.sessions.find? fun c => c.pid = pid).map Session.addr

def recordedPids (s : Listener) (pid : ℕ) : Option IpAddr :=
  if s.phase.newborn = some pid then none else s.addrOf pid

end Listener

structure PidTable (h : Hash ℕ IpAddr) (m : ℕ → Option IpAddr) : Prop where
  buckets : h.buckets = 256
  hashFunc : h.hashFunc = hashPid
  maps : Maps h m

theorem PidTable.inRange {h : Hash ℕ IpAddr} {m : ℕ → Option IpAddr} (T : PidTable h m) (pid : ℕ) :
    h.hashFunc h.buckets pid < h.buckets := by
  rw [T.hashFunc, T.buckets]
  exact Nat.mod_lt _ (by norm_num)

/-- The sessions that the kernel keeps for the listener have distinct pids. -/
structure Pids (l : List Session) : Prop where
  nodup : (l.map Session.pid).Nodup
  bounded : ∀ c ∈ l, 0 < c.pid ∧ c.pid < 2 ^ 31

structure Accounts (s : Listener) : Prop where
  children : s.sChildren = s.addrs.length
  ips : IpTable s.ipCount s.addrs
  pids : PidTable s.pidIp s.recordedPids
  newborn : ∀ client pid, s.phase.pending = some (client, some pid) → s.addrOf pid = some client
  launched : ∀ client info, s.phase = .forking client info →
    info.numChildren = s.sessions.length + 1 ∧
      info.numThisIp = (s.sessions.map Session.addr).count client + 1

def Faulted (s : Listener) : Prop := ∃ f, s.phase = .faulted f

theorem Pids.length_lt {s : Listener} (P : Pids s.sessions) : s.sessions.length < 2 ^ 31 := by
  have hsub : (s.sessions.map Session.pid).toFinset ⊆ Finset.Ioo 0 (2 ^ 31) := by
    intro pid hpid
    obtain ⟨c, hc, rfl⟩ := List.mem_map.mp (List.mem_toFinset.mp hpid)
    exact Finset.mem_Ioo.mpr (P.bounded c hc)
  have hcard:=Finset.card_le_card hsub
  rw [List.toFinset_card_of_nodup P.nodup, List.length_map, Nat.card_Ioo] at hcard
  omega

theorem Pids.addrs_length_lt {s : Listener} (P : Pids s.sessions) : s.addrs.length < 2 ^ 31 + 1 := by
  have hl:=P.length_lt
  have hu : s.phase.unborn.length ≤ 1 := by
    unfold Phase.unborn
    split <;> simp
  simp only [Listener.addrs, List.length_append, List.length_map]
  omega

theorem Pids.addrOf {s : Listener} (P : Pids s.sessions) {c : Session} (hc : c ∈ s.sessions) :
    s.addrOf c.pid = some c.addr := by
  obtain ⟨xs, ys, hsplit⟩ := List.append_of_mem hc
  have hnd:=P.nodup
  rw [hsplit, List.map_append, List.map_cons] at hnd
  have hx : xs.find? (fun d => d.pid = c.pid) = none := by
    rw [List.find?_eq_none]
    intro d hd he
    exact (List.nodup_append.mp hnd).2.2 _ (List.mem_map_of_mem hd) _ (List.mem_cons_self ..)
      (by simpa using he)
  rw [Listener.addrOf, hsplit, List.find?_append, hx]
  simp

/-! ### Steps -/

/-- What the accounts depend on. -/
theorem Accounts.of_phase {s : Listener} (A : Accounts s) (p : Phase)
    (hp : p.pending = s.phase.pending) (hf : ∀ client info, p ≠ .forking client info) :
    Accounts { s with phase := p } := by
  have hu : p.unborn = s.phase.unborn := by rw [Phase.unborn, hp]; rfl
  have hn : p.newborn = s.phase.newborn := by rw [Phase.newborn, hp]; rfl
  have haddrs : ({ s with phase := p } : Listener).addrs = s.addrs := by
    simp only [Listener.addrs, hu]
  have hpids : ({ s with phase := p } : Listener).recordedPids = s.recordedPids := by
    funext q
    simp only [Listener.recordedPids, hn]
    rfl
  refine ⟨?_, ?_, ?_, ?_, ?_⟩
  · rw [haddrs]
    exact A.children
  · rw [haddrs]
    exact A.ips
  · rw [hpids]
    exact A.pids
  · intro client pid hq
    exact A.newborn client pid (hp.symm.trans hq)
  · intro client info hq
    exact absurd hq (hf client info)

/-- A session that ends is still accounted for. -/
theorem Accounts.session_ends {s : Listener} (A : Accounts s) (pid : ℕ) :
    Accounts { s with
      sessions := s.sessions.map fun c => if c.pid = pid then { c with ended := true } else c } := by
  have hpid : ∀ c : Session, (if c.pid = pid then { c with ended := true } else c).pid = c.pid := by
    intro c
    split <;> rfl
  have haddr : ∀ c : Session, (if c.pid = pid then { c with ended := true } else c).addr = c.addr := by
    intro c
    split <;> rfl
  have hmap : (s.sessions.map fun c => if c.pid = pid then { c with ended := true } else c).map
      Session.addr = s.sessions.map Session.addr := by
    simp [Function.comp_def, haddr]
  have hof : ({ s with sessions := s.sessions.map fun c =>
      if c.pid = pid then { c with ended := true } else c } : Listener).addrOf = s.addrOf := by
    funext q
    simp only [Listener.addrOf, List.find?_map, Option.map_map, Function.comp_def, hpid, haddr]
  refine ⟨?_, ?_, ?_, ?_, ?_⟩
  · simp only [Listener.addrs, hmap]
    exact A.children
  · simp only [Listener.addrs, hmap]
    exact A.ips
  · have hr : s.recordedPids = ({ s with sessions := s.sessions.map fun c =>
        if c.pid = pid then { c with ended := true } else c } : Listener).recordedPids := by
      funext q
      simp only [Listener.recordedPids, hof]
    have hpids:=A.pids
    rw [hr] at hpids
    exact hpids
  · intro client q hq
    rw [hof]
    exact A.newborn client q hq
  · intro client info hq
    simp only [hmap, List.length_map]
    exact A.launched client info hq

theorem clientCounted_ok {s : Listener} (P : Pids s.sessions) (A : Accounts s) {client : IpAddr} {a : ℕ}
    (hp : s.phase = .counting client) (ha : s.ipCount.heap.lookup a = none) :
    ∃ t, clientCounted s client a = .ok t ∧ t.sessions = s.sessions ∧ ¬ Faulted t ∧ Accounts t := by
  have hpend : s.phase.pending = none := by rw [hp]; rfl
  have haddrs : s.addrs = s.sessions.map Session.addr := by
    simp only [Listener.addrs, Phase.unborn, hpend, List.nil_append]
  have hlen:=P.length_lt
  have hips:=A.ips
  rw [haddrs] at hips
  have hle : (s.sessions.map Session.addr).count client ≤ s.sessions.length := by
    have hc:=List.count_le_length (a := client) (l := s.sessions.map Session.addr)
    rwa [List.length_map] at hc
  obtain ⟨h', hcount, T⟩ := handleIpCount_ok hips ha client (by omega)
  have hchildren : (s.sChildren + 1) % 2 ^ 32 = s.sessions.length + 1 := by
    rw [A.children, haddrs, List.length_map]
    omega
  refine ⟨{ s with
    sChildren := (s.sChildren + 1) % 2 ^ 32
    ipCount := h'
    phase := .forking client ⟨(s.sChildren + 1) % 2 ^ 32,
      (s.sessions.map Session.addr).count client + 1⟩ }, ?_, rfl, ?_, ?_, ?_, ?_, ?_, ?_⟩
  · rw [clientCounted, hcount]
    rfl
  · rintro ⟨f, hf⟩
    cases hf
  · simp only [hchildren, Listener.addrs, Phase.unborn, Phase.pending]
    simp
  · simpa [Listener.addrs, Phase.unborn, Phase.pending] using T
  · have hr : s.recordedPids = s.addrOf := by
      funext q
      simp [Listener.recordedPids, Phase.newborn, hpend]
    have hpids:=A.pids
    rw [hr] at hpids
    exact hpids
  · intro c q hq
    cases hq
  · intro c info hq
    cases hq
    exact ⟨hchildren, rfl⟩

/-- The window opens. -/
theorem Accounts.forked {s : Listener} (A : Accounts s) {client : IpAddr} {info : ClientLaunch}
    {pid : ℕ} (hp : s.phase = .forking client info) (hpid : freshPid s pid) (limits : Limits) :
    Accounts { s with
      phase := .closing client (some pid)
      sessions := ⟨pid, client, info, limits, false⟩ :: s.sessions } := by
  have hnone : s.addrOf pid = none := by
    have hfind : s.sessions.find? (fun c => c.pid = pid) = none :=
      List.find?_eq_none.mpr fun c hc => by simpa using hpid.2.2 c hc
    rw [Listener.addrOf, hfind]
    rfl
  have haddrs : s.addrs = client :: s.sessions.map Session.addr := by
    simp only [Listener.addrs, Phase.unborn, hp, Phase.pending, List.singleton_append]
  refine ⟨?_, ?_, ?_, ?_, ?_⟩
  · have hc:=A.children
    rw [haddrs] at hc
    exact hc
  · have hi:=A.ips
    rw [haddrs] at hi
    exact hi
  · have hr : s.recordedPids = ({ s with
        phase := .closing client (some pid)
        sessions := ⟨pid, client, info, limits, false⟩ :: s.sessions } : Listener).recordedPids := by
      funext q
      by_cases hq : pid = q
      · subst hq
        simp [Listener.recordedPids, Phase.newborn, Phase.pending, hp, hnone]
      · simp [Listener.recordedPids, Phase.newborn, Phase.pending, hp, Listener.addrOf, hq]
    have hpids:=A.pids
    rw [hr] at hpids
    exact hpids
  · intro c q hq
    cases hq
    simp [Listener.addrOf]
  · intro c i hq
    cases hq

/-- The window closes, or the connection without a session is taken back. -/
theorem childRecorded_ok {s : Listener} (P : Pids s.sessions) (A : Accounts s) {client : IpAddr}
    {child : Option ℕ} {a : ℕ} (hp : s.phase = .recording client child)
    (ha : s.pidIp.heap.lookup a = none) :
    ∃ t, childRecorded s client child a = .ok t ∧ t.sessions = s.sessions ∧ ¬ Faulted t ∧
      Accounts t := by
  have hpend : s.phase.pending = some (client, child) := by rw [hp]; rfl
  have hlen:=P.length_lt
  cases child with
  | some pid =>
    have hnone : s.recordedPids pid = none := by
      simp [Listener.recordedPids, Phase.newborn, hpend]
    obtain ⟨h', hadd, hb, hf, hm⟩ := hashAddEntry_ok A.pids.maps (A.pids.inRange pid) hnone ha client
    have haddrs : s.addrs = s.sessions.map Session.addr := by
      simp only [Listener.addrs, Phase.unborn, hpend, List.nil_append]
    refine ⟨{ s with pidIp := h', phase := .accepting }, ?_, rfl, ?_, ?_, ?_, ?_, ?_, ?_⟩
    · rw [childRecorded, hadd]
      rfl
    · rintro ⟨f, hf⟩
      cases hf
    · exact A.children.trans (congrArg List.length haddrs)
    · have hi:=A.ips
      rw [haddrs] at hi
      exact hi
    · refine ⟨hb.trans A.pids.buckets, hf.trans A.pids.hashFunc, ?_⟩
      have hr : ({ s with pidIp := h', phase := .accepting } : Listener).recordedPids =
          Function.update s.recordedPids pid (some client) := by
        funext q
        by_cases hq : q = pid
        · rw [hq, Function.update_self]
          exact A.newborn client pid hpend
        · have hq' : pid ≠ q := fun he => hq he.symm
          rw [Function.update_of_ne hq]
          simp [Listener.recordedPids, Phase.newborn, Phase.pending, hp, hq', Listener.addrOf]
      rw [hr]
      exact hm
    · intro c q hq
      cases hq
    · intro c i hq
      cases hq
  | none =>
    have haddrs : s.addrs = client :: s.sessions.map Session.addr := by
      simp only [Listener.addrs, Phase.unborn, hpend, List.singleton_append]
    have hips:=A.ips
    rw [haddrs] at hips
    obtain ⟨h', hdrop, T⟩ := dropIpCount_ok hips
    refine ⟨{ s with
      sChildren := (s.sChildren + (2 ^ 32 - 1)) % 2 ^ 32
      ipCount := h'
      phase := .accepting }, ?_, rfl, ?_, ?_, T, ?_, ?_, ?_⟩
    · rw [childRecorded, hdrop]
      rfl
    · rintro ⟨f, hf⟩
      cases hf
    · have hc:=A.children
      rw [haddrs, List.length_cons, List.length_map] at hc
      change (s.sChildren + (2 ^ 32 - 1)) % 2 ^ 32 = (s.sessions.map Session.addr).length
      rw [hc, List.length_map]
      omega
    · have hr : s.recordedPids = s.addrOf := by
        funext q
        simp [Listener.recordedPids, Phase.newborn, hpend]
      have hpids:=A.pids
      rw [hr] at hpids
      exact hpids
    · intro c q hq
      cases hq
    · intro c i hq
      cases hq

theorem Pids.split {s : Listener} (P : Pids s.sessions) {c : Session} (hc : c ∈ s.sessions) :
    ∃ xs ys, s.sessions = xs ++ c :: ys ∧
      s.sessions.filter (fun d => d.pid ≠ c.pid) = xs ++ ys := by
  obtain ⟨xs, ys, hsplit⟩ := List.append_of_mem hc
  have hnd:=P.nodup
  rw [hsplit, List.map_append, List.map_cons] at hnd
  obtain ⟨-, hy, hdis⟩ := List.nodup_append.mp hnd
  have hx : ∀ d ∈ xs, d.pid ≠ c.pid := fun d hd =>
    hdis _ (List.mem_map_of_mem hd) _ (List.mem_cons_self ..)
  have hy' : ∀ d ∈ ys, d.pid ≠ c.pid := fun d hd he =>
    (List.nodup_cons.mp hy).1 (List.mem_map.mpr ⟨d, hd, he⟩)
  refine ⟨xs, ys, hsplit, ?_⟩
  rw [hsplit, List.filter_append, List.filter_cons_of_neg (by simp),
    List.filter_eq_self.mpr (by simpa using hx), List.filter_eq_self.mpr (by simpa using hy')]

/-- In the window the pid of the new session is missing, and a null pointer is
used as an address. -/
theorem handleSigchld_newborn {s : Listener} (A : Accounts s) {pid : ℕ}
    (hn : s.phase.newborn = some pid) : handleSigchld s pid = .error .badPointer := by
  have hnone : s.recordedPids pid = none := by rw [Listener.recordedPids, if_pos hn]
  simp only [handleSigchld, hashLookupEntry_none A.pids.maps (A.pids.inRange pid) hnone]
  rfl

theorem handleSigchld_ok {s : Listener} (P : Pids s.sessions) (A : Accounts s) {c : Session}
    (hc : c ∈ s.sessions) (hn : s.phase.newborn ≠ some c.pid) {r : Resume}
    (hp : s.phase = .handling r) :
    ∃ t, handleSigchld s c.pid = .ok t ∧ t.phase = s.phase ∧ t.sessions = s.sessions ∧
      Accounts { t with sessions := s.sessions.filter fun d => d.pid ≠ c.pid } := by
  obtain ⟨xs, ys, hsplit, hfilter⟩ := P.split hc
  have hsome : s.recordedPids c.pid = some c.addr := by
    rw [Listener.recordedPids, if_neg hn]
    exact P.addrOf hc
  obtain ⟨p, hl, hv, _⟩ := storeAt_ok A.pids.maps (A.pids.inRange c.pid) hsome c.addr
  obtain ⟨h₁, hfree, hb₁, hf₁, hm₁⟩ := hashFreeEntry_ok A.pids.maps (A.pids.inRange c.pid) hsome
  have hperm : s.addrs.Perm (c.addr :: (s.phase.unborn ++ (xs ++ ys).map Session.addr)) := by
    simp only [Listener.addrs, hsplit, List.map_append, List.map_cons]
    rw [← List.append_assoc, ← List.append_assoc]
    exact List.perm_middle
  have T : IpTable s.ipCount (c.addr :: (s.phase.unborn ++ (xs ++ ys).map Session.addr)) := by
    refine ⟨A.ips.buckets, A.ips.hashFunc, ?_⟩
    rw [← countMap_perm hperm]
    exact A.ips.maps
  obtain ⟨h₂, hdrop, T'⟩ := dropIpCount_ok T
  refine ⟨{ s with
    sChildren := (s.sChildren + (2 ^ 32 - 1)) % 2 ^ 32
    ipCount := h₂
    pidIp := h₁ }, ?_, rfl, rfl, ?_⟩
  · simp only [handleSigchld, hl]
    simp [bind, Except.bind, hv, pure, Except.pure, hdrop, hfree]
  · have hof : ∀ q, q ≠ c.pid →
        ((xs ++ ys).find? fun d => d.pid = q) = s.sessions.find? fun d => d.pid = q := by
      intro q hq
      rw [← hfilter, List.find?_filter]
      congr 1
      funext d
      simp only [ne_eq, decide_not, Bool.decide_and, Bool.not_eq_true', decide_eq_false_iff_not]
      by_cases hd : d.pid = q
      · simp [hd, hq]
      · simp [hd]
    rw [hfilter]
    refine ⟨?_, T', ⟨hb₁.trans A.pids.buckets, hf₁.trans A.pids.hashFunc, ?_⟩, ?_, ?_⟩
    · have hlen:=P.addrs_length_lt
      have hpl:=hperm.length_eq
      have hcl:=A.children
      rw [List.length_cons] at hpl
      change (s.sChildren + (2 ^ 32 - 1)) % 2 ^ 32 =
        (s.phase.unborn ++ (xs ++ ys).map Session.addr).length
      omega
    · have hr : ({ s with
          sChildren := (s.sChildren + (2 ^ 32 - 1)) % 2 ^ 32
          ipCount := h₂
          pidIp := h₁
          sessions := xs ++ ys } : Listener).recordedPids =
            Function.update s.recordedPids c.pid none := by
        funext q
        by_cases hq : q = c.pid
        · have hgone : ((xs ++ ys).find? fun d => d.pid = c.pid) = none := by
            rw [← hfilter, List.find?_eq_none]
            intro d hd
            simpa using (List.mem_filter.mp hd).2
          rw [hq, Function.update_self]
          simp [Listener.recordedPids, Listener.addrOf, hgone, -List.find?_append]
        · rw [Function.update_of_ne hq]
          simp only [Listener.recordedPids, Listener.addrOf, hof q hq]
      rw [hr]
      exact hm₁
    · intro client q hq
      have hqc : q ≠ c.pid := by
        rintro rfl
        exact hn (by simp only [Phase.newborn, hq])
      have hnew:=A.newborn client q hq
      simp only [Listener.addrOf, hof q hqc]
      exact hnew
    · intro client info hq
      exact absurd (hp.symm.trans hq) (by simp)

/-! ### What a step does -/

/-- The session just forked is waited for before its pid is recorded. -/
def ReapsNewborn (s : Listener) (e : Event) : Prop :=
  ∃ client pid, s.phase = .handling (.inClose client (some pid)) ∧ e = .reaped pid

inductive SessionStep (s : Listener) : List Session → Prop
  | same : SessionStep s s.sessions
  | ends (pid : ℕ) : SessionStep s
      (s.sessions.map fun c => if c.pid = pid then { c with ended := true } else c)
  | launched {client : IpAddr} {info : ClientLaunch} {pid : ℕ} (limits : Limits)
      (hp : s.phase = .forking client info) (hpid : freshPid s pid) :
      SessionStep s (⟨pid, client, info, limits, false⟩ :: s.sessions)
  | reaped (pid : ℕ) : SessionStep s (s.sessions.filter fun c => c.pid ≠ pid)

structure Kept (s t : Listener) : Prop where
  accounts : Accounts t
  alive : ¬ Faulted t
  sessions : SessionStep s t.sessions

/-- The listener moves on without touching its accounts. -/
theorem Accounts.moves {s : Listener} (A : Accounts s) (p : Phase)
    (hp : p.pending = s.phase.pending) (hf : ∀ client info, p ≠ .forking client info)
    (hq : ∀ f, p ≠ .faulted f) : Kept s { s with phase := p } :=
  ⟨A.of_phase p hp hf, fun ⟨f, h⟩ => hq f h, .same⟩

theorem handled_kept {s t : Listener} (A : Accounts s) (h : step s .handled = some t) :
    Kept s t := by
  simp only [step] at h
  split at h
  · rename_i hp
    obtain rfl := Option.some.inj h
    exact A.moves _ (by rw [hp]; rfl) (by simp) (by simp)
  · rename_i client hp
    obtain rfl := Option.some.inj h
    exact A.moves _ (by rw [hp]; rfl) (by simp) (by simp)
  · rename_i client child hp
    obtain rfl := Option.some.inj h
    exact A.moves _ (by rw [hp]; rfl) (by simp) (by simp)
  · cases h

theorem forked_kept {s t : Listener} {child : Option ℕ} {limits : Limits} (A : Accounts s)
    (h : step s (.forked child limits) = some t) : Kept s t := by
  simp only [step] at h
  split at h
  · rename_i client info hp
    obtain rfl := Option.some.inj h
    exact A.moves _ (by rw [hp]; rfl) (by simp) (by simp)
  · rename_i client info pid hp
    split at h
    · rename_i hpid
      obtain rfl := Option.some.inj h
      refine ⟨A.forked hp hpid limits, ?_, .launched limits hp hpid⟩
      rintro ⟨f, hf⟩
      cases hf
    · cases h
  · cases h

theorem Kept.of_ok {s t : Listener} {r : Except Fault Listener} (hr : r = .ok t)
    (hs : t.sessions = s.sessions) (hf : ¬ Faulted t) (hA : Accounts t) : Kept s (s.orFault r) := by
  rw [hr]
  refine ⟨hA, hf, ?_⟩
  change SessionStep s t.sessions
  rw [hs]
  exact .same

/-- One step keeps the accounts, or it waits for the session just forked. -/
theorem step_cases {s t : Listener} {e : Event} (P : Pids s.sessions) (A : Accounts s) (hn : ¬ Faulted s)
    (h : step s e = some t) :
    (ReapsNewborn s e ∧ t.phase = .faulted .badPointer ∧ SessionStep s t.sessions) ∨
      (¬ ReapsNewborn s e ∧ Kept s t) := by
  have hother : (∀ pid, e ≠ .reaped pid) → ¬ ReapsNewborn s e := by
    rintro he ⟨_, pid, _, rfl⟩
    exact he pid rfl
  cases e with
  | sessionEnds pid =>
    obtain rfl := Option.some.inj h
    exact .inr ⟨hother (by simp), A.session_ends pid, hn, .ends pid⟩
  | accepted client =>
    simp only [step] at h
    split at h
    · rename_i hp
      obtain rfl := Option.some.inj h
      exact .inr ⟨hother (by simp), A.moves _ (by rw [hp]; rfl) (by simp) (by simp)⟩
    · cases h
  | counted a =>
    simp only [step] at h
    split at h
    · rename_i client hp
      split at h
      · rename_i ha
        obtain ⟨t', ht, hs, hf, hA⟩ := clientCounted_ok P A hp ha
        obtain rfl := Option.some.inj h
        exact .inr ⟨hother (by simp), .of_ok ht hs hf hA⟩
      · cases h
    · cases h
  | forked child limits => exact .inr ⟨hother (by simp), forked_kept A h⟩
  | closed interrupted =>
    simp only [step] at h
    split at h
    · rename_i client child hp
      obtain rfl := Option.some.inj h
      refine .inr ⟨hother (by simp), A.moves _ ?_ ?_ ?_⟩
      · rw [hp]
        cases interrupted <;> rfl
      · cases interrupted <;> simp
      · cases interrupted <;> simp
    · cases h
  | recorded a =>
    simp only [step] at h
    split at h
    · rename_i client child hp
      split at h
      · rename_i ha
        obtain ⟨t', ht, hs, hf, hA⟩ := childRecorded_ok P A hp ha
        obtain rfl := Option.some.inj h
        exact .inr ⟨hother (by simp), .of_ok ht hs hf hA⟩
      · cases h
    · cases h
  | reaped pid =>
    simp only [step] at h
    split at h
    · rename_i r hp
      split at h
      · rename_i hc
        obtain ⟨c, hc, rfl, _⟩ := hc
        by_cases hnew : s.phase.newborn = some c.pid
        · -- the one session that is not recorded
          rw [handleSigchld_newborn A hnew] at h
          obtain rfl := Option.some.inj h
          refine .inl ⟨?_, rfl, .reaped c.pid⟩
          rw [hp] at hnew
          cases r with
          | afterAccept client => cases hnew
          | inClose client child =>
            cases child with
            | none => cases hnew
            | some q =>
              obtain rfl := Option.some.inj hnew
              exact ⟨client, c.pid, hp, rfl⟩
        · obtain ⟨t', ht, hph, hs, hA⟩ := handleSigchld_ok P A hc hnew hp
          rw [ht] at h
          obtain rfl := Option.some.inj h
          refine .inr ⟨?_, hA, ?_, .reaped c.pid⟩
          · rintro ⟨client, q, hp', heq⟩
            injection heq with heq
            refine hnew ?_
            rw [hp', heq]
            rfl
          · rintro ⟨f, hf⟩
            exact hn ⟨f, hph.symm.trans hf⟩
      · cases h
    · cases h
  | handled => exact .inr ⟨hother (by simp), handled_kept A h⟩

/-! ### Admission -/

def Session.admitted (c : Session) : Bool := checkLimits c.limits c.launch = none

/-- Each session was told of those launched before it that are still there. -/
def Ranked : List Session → Prop
  | [] => True
  | c :: rest =>
    rest.length < c.launch.numChildren ∧
      (rest.map Session.addr).count c.addr < c.launch.numThisIp ∧ Ranked rest

theorem Ranked.sublist {l l' : List Session} (hs : l'.Sublist l) (h : Ranked l) : Ranked l' := by
  induction hs with
  | slnil => exact h
  | cons c _ ih => exact ih h.2.2
  | cons_cons c hs ih =>
    obtain ⟨hlen, hcount, hrest⟩ := h
    have hle:=hs.length_le
    have hcl:=(hs.map Session.addr).count_le c.addr
    exact ⟨by omega, by omega, ih hrest⟩

theorem Ranked.map_ended {l : List Session} (h : Ranked l) (pid : ℕ) :
    Ranked (l.map fun c => if c.pid = pid then { c with ended := true } else c) := by
  induction l with
  | nil => trivial
  | cons c rest ih =>
    obtain ⟨hlen, hcount, hrest⟩ := h
    have haddr : (rest.map fun c => if c.pid = pid then { c with ended := true } else c).map
        Session.addr = rest.map Session.addr := by
      rw [List.map_map]
      refine List.map_congr_left fun d _ => ?_
      simp only [Function.comp]
      split <;> rfl
    rw [List.map_cons]
    by_cases hc : c.pid = pid
    · rw [if_pos hc]
      refine ⟨by rw [List.length_map]; exact hlen, ?_, ih hrest⟩
      rw [haddr]
      exact hcount
    · rw [if_neg hc]
      refine ⟨by rw [List.length_map]; exact hlen, ?_, ih hrest⟩
      rw [haddr]
      exact hcount

theorem SessionStep.ranked {s : Listener} {l : List Session} (hs : SessionStep s l)
    (A : Accounts s) (h : Ranked s.sessions) : Ranked l := by
  cases hs with
  | same => exact h
  | ends pid => exact h.map_ended pid
  | launched limits hp hpid =>
    obtain ⟨hnum, hip⟩ := A.launched _ _ hp
    exact ⟨hnum ▸ Nat.lt_succ_self _, hip ▸ Nat.lt_succ_self _, h⟩
  | reaped pid => exact h.sublist List.filter_sublist

theorem SessionStep.pids {s : Listener} {l : List Session} (hs : SessionStep s l)
    (P : Pids s.sessions) : Pids l := by
  cases hs with
  | same => exact P
  | ends pid =>
    have hpid : ∀ c : Session, (if c.pid = pid then { c with ended := true } else c).pid = c.pid := by
      intro c
      split <;> rfl
    constructor
    · have hmap : (s.sessions.map fun c => if c.pid = pid then { c with ended := true } else c).map
          Session.pid = s.sessions.map Session.pid := by
        simp [Function.comp_def, hpid]
      rw [hmap]
      exact P.nodup
    · intro d hd
      obtain ⟨c, hc, rfl⟩ := List.mem_map.mp hd
      rw [hpid]
      exact P.bounded c hc
  | launched limits hp hpid =>
    obtain ⟨hpos, hlt, hne⟩ := hpid
    constructor
    · refine List.nodup_cons.mpr ⟨fun hmem => ?_, P.nodup⟩
      obtain ⟨c, hc, he⟩ := List.mem_map.mp hmem
      exact hne c hc he
    · intro d hd
      rcases List.mem_cons.mp hd with rfl | hd
      · exact ⟨hpos, hlt⟩
      · exact P.bounded d hd
  | reaped pid =>
    constructor
    · exact P.nodup.sublist (List.filter_sublist.map _)
    · exact fun d hd => P.bounded d (List.mem_filter.mp hd).1

/-! ### Every run of the listener -/

structure Inv (s : Listener) : Prop where
  pids : Pids s.sessions
  ranked : Ranked s.sessions
  accounts : s.phase = .faulted .badPointer ∨ Accounts s ∧ ¬ Faulted s

theorem Inv.start : Inv standaloneStart where
  pids := ⟨List.nodup_nil, fun c hc => absurd hc List.not_mem_nil⟩
  ranked := trivial
  accounts := by
    refine .inr ⟨⟨rfl, ⟨rfl, rfl, ?_⟩, ⟨rfl, rfl, ?_⟩, ?_, ?_⟩, fun ⟨f, hf⟩ => by cases hf⟩
    · exact ⟨_, Layout.alloc 256 hashIp, fun k v => by
        simp [countMap, Listener.addrs, standaloneStart, Phase.unborn, Phase.pending]⟩
    · exact ⟨_, Layout.alloc 256 hashPid, fun k v => by
        simp [Listener.recordedPids, Listener.addrOf, standaloneStart, Phase.newborn,
          Phase.pending]⟩
    · intro client pid hp
      cases hp
    · intro client info hp
      cases hp

/-- A listener that is gone does nothing; its sessions go on. -/
theorem step_faulted {s t : Listener} {e : Event} {f : Fault} (hf : s.phase = .faulted f)
    (h : step s e = some t) : t.phase = .faulted f ∧ SessionStep s t.sessions := by
  cases e with
  | sessionEnds pid =>
    obtain rfl := Option.some.inj h
    exact ⟨hf, .ends pid⟩
  | accepted client => simp [step, hf] at h
  | counted a => simp [step, hf] at h
  | forked child limits => simp [step, hf] at h
  | closed interrupted => simp [step, hf] at h
  | recorded a => simp [step, hf] at h
  | reaped pid => simp [step, hf] at h
  | handled => simp [step, hf] at h

theorem SessionStep.ranked_of_faulted {s : Listener} {l : List Session} {f : Fault}
    (hs : SessionStep s l) (hf : s.phase = .faulted f) (h : Ranked s.sessions) : Ranked l := by
  cases hs with
  | same => exact h
  | ends pid => exact h.map_ended pid
  | launched limits hp hpid =>
    rw [hf] at hp
    cases hp
  | reaped pid => exact h.sublist List.filter_sublist

theorem Inv.step {s t : Listener} {e : Event} (I : Inv s) (h : step s e = some t) : Inv t := by
  rcases I.accounts with hf | ⟨A, hn⟩
  · obtain ⟨ht, hs⟩ := step_faulted hf h
    exact ⟨hs.pids I.pids, hs.ranked_of_faulted hf I.ranked, .inl ht⟩
  · rcases step_cases I.pids A hn h with ⟨_, hp, hs⟩ | ⟨_, K⟩
    · exact ⟨hs.pids I.pids, hs.ranked A I.ranked, .inl hp⟩
    · exact ⟨K.sessions.pids I.pids, K.sessions.ranked A I.ranked, .inr ⟨K.accounts, K.alive⟩⟩

theorem reachable_inv {s : Listener} (h : Reachable step standaloneStart s) : Inv s :=
  h.invariant Inv.start fun _ _ _ I hs => I.step hs

/-- The three tables agree at every moment of a run. -/
theorem listener_accounts {s : Listener} (h : Reachable step standaloneStart s)
    (hn : ¬ Faulted s) :
    s.sChildren = s.addrs.length ∧ Exact s.ipCount (countMap s.addrs) ∧
      Exact s.pidIp s.recordedPids := by
  rcases (reachable_inv h).accounts with hf | ⟨A, _⟩
  · exact absurd ⟨_, hf⟩ hn
  · exact ⟨A.children, A.ips.maps.exact, A.pids.maps.exact⟩

/-- No `bug()` of the tables is reached. The listener goes down by a null
pointer, and exactly where it waits for the session just forked. -/
theorem listener_faults_iff {s : Listener} (h : Reachable step standaloneStart s) :
    (∀ f, s.phase = .faulted f → f = .badPointer) ∧
      (¬ Faulted s → ∀ e t, step s e = some t → (Faulted t ↔ ReapsNewborn s e)) := by
  have I:=reachable_inv h
  constructor
  · intro f hf
    rcases I.accounts with hb | ⟨_, hn⟩
    · injection hf.symm.trans hb
    · exact absurd ⟨f, hf⟩ hn
  · intro hn e t ht
    have A:=(I.accounts.resolve_left fun hf => hn ⟨_, hf⟩).1
    rcases step_cases I.pids A hn ht with ⟨hr, hp, _⟩ | ⟨hr, K⟩
    · exact iff_of_true ⟨_, hp⟩ hr
    · exact iff_of_false K.alive hr

theorem checkLimits_none {limits : Limits} {client : ClientLaunch}
    (h : checkLimits limits client = none) :
    (0 < limits.maxClients → client.numChildren ≤ limits.maxClients) ∧
      (0 < limits.maxPerIp → client.numThisIp ≤ limits.maxPerIp) := by
  unfold checkLimits at h
  split at h
  · cases h
  · split at h
    · cases h
    · constructor
      · intro hpos
        omega
      · intro hpos
        omega

theorem Ranked.filter_le {l : List Session} (h : Ranked l) (p : Session → Bool) {m : ℕ}
    (hp : ∀ c rest, (∀ d ∈ c :: rest, p d) → Ranked (c :: rest) → rest.length < m) :
    (l.filter p).length ≤ m := by
  have hsub:=h.sublist (List.filter_sublist (p := p))
  have hall : ∀ d ∈ l.filter p, p d := fun d hd => (List.mem_filter.mp hd).2
  cases hl : l.filter p with
  | nil => exact Nat.zero_le m
  | cons c rest =>
    rw [hl] at hsub hall
    exact hp c rest hall hsub

/-- However the sessions come and go, and whatever limits each of them goes by:
of those let in under a limit of at most `m` there are never more than `m`, in
all and for each address. -/
theorem listener_limits {s : Listener} (h : Reachable step standaloneStart s) (m : ℕ) :
    (s.sessions.filter fun c => c.admitted ∧ 0 < c.limits.maxClients ∧
        c.limits.maxClients ≤ m).length ≤ m ∧
      ∀ a, (s.sessions.filter fun c => c.admitted ∧ c.addr = a ∧ 0 < c.limits.maxPerIp ∧
        c.limits.maxPerIp ≤ m).length ≤ m := by
  have hr:=(reachable_inv h).ranked
  constructor
  · refine hr.filter_le _ fun c rest hall hrank => ?_
    have hc:=hall c (List.mem_cons_self ..)
    simp only [decide_eq_true_eq, Session.admitted] at hc
    have hle:=(checkLimits_none hc.1).1 hc.2.1
    have hlt:=hrank.1
    omega
  · intro a
    refine hr.filter_le _ fun c rest hall hrank => ?_
    simp only [decide_eq_true_eq] at hall
    obtain ⟨hadm, hca, hpos, hlim⟩ := hall c (List.mem_cons_self ..)
    simp only [Session.admitted, decide_eq_true_eq] at hadm
    have hle:=(checkLimits_none hadm).2 hpos
    have hlt:=hrank.2.1
    -- all of them are at one address
    have hsame : (rest.map Session.addr).count c.addr = rest.length := by
      rw [List.count_eq_length.mpr, List.length_map]
      intro b hb
      obtain ⟨d, hd, rfl⟩ := List.mem_map.mp hb
      rw [hca, (hall d (List.mem_cons_of_mem _ hd)).2.1]
    omega

/-! ### A run -/

def twoAtMost : Limits := ⟨2, 1, true⟩

/-- Two clients of one address; the first session ends while the second client
is being served, and `close()` is interrupted by its signal. -/
def overlap : List Event :=
  [.accepted (some [10, 0, 0, 1]), .handled, .counted 1, .forked (some 400) twoAtMost,
    .closed false, .recorded 2,
    .accepted (some [10, 0, 0, 1]), .handled, .counted 3, .forked (some 401) twoAtMost,
    .sessionEnds 400, .closed true]

theorem overlap_runs : (follow step standaloneStart overlap).isSome := rfl

theorem listener_accounts_overlap :
    ∃ s, follow step standaloneStart overlap = some s ∧ s.sChildren = 2 ∧
      Exact s.ipCount (countMap [[10, 0, 0, 1], [10, 0, 0, 1]]) := by
  obtain ⟨s, hs⟩ := Option.isSome_iff_exists.mp overlap_runs
  have hview : (follow step standaloneStart overlap).map (fun s => (s.sChildren, s.addrs, s.phase)) =
      some (2, [[10, 0, 0, 1], [10, 0, 0, 1]], .handling (.inClose [10, 0, 0, 1] (some 401))) := rfl
  rw [hs] at hview
  simp only [Option.map_some, Option.some.injEq, Prod.mk.injEq] at hview
  obtain ⟨hc, ha, hp⟩ := hview
  have hn : ¬ Faulted s := fun ⟨f, hf⟩ => by rw [hp] at hf; cases hf
  have hacc:=listener_accounts (reachable_of_follow hs) hn
  exact ⟨s, hs, hc, ha ▸ hacc.2.1⟩

/-- The second session ends as well and is waited for in the interrupted
`close()`. -/
theorem listener_faults_iff_overlap :
    ∃ s t, follow step standaloneStart (overlap ++ [.sessionEnds 401]) = some s ∧
      step s (.reaped 401) = some t ∧ Faulted t := by
  have hrun : ((follow step standaloneStart (overlap ++ [.sessionEnds 401])).bind fun s =>
      step s (.reaped 401)).isSome := rfl
  have hphase : (follow step standaloneStart (overlap ++ [.sessionEnds 401])).map Listener.phase =
      some (.handling (.inClose [10, 0, 0, 1] (some 401))) := rfl
  obtain ⟨t, ht⟩ := Option.isSome_iff_exists.mp hrun
  obtain ⟨s, hs, hst⟩ := Option.bind_eq_some_iff.mp ht
  rw [hs] at hphase
  have hp:=Option.some.inj hphase
  have hn : ¬ Faulted s := fun ⟨f, hf⟩ => by rw [hp] at hf; cases hf
  have hiff:=(listener_faults_iff (reachable_of_follow hs)).2 hn (.reaped 401) t hst
  exact ⟨s, t, hs, hst, hiff.mpr ⟨_, 401, hp, rfl⟩⟩

/-- Of the two sessions at one address the second one is turned away. -/
theorem listener_limits_overlap :
    ∃ s, follow step standaloneStart overlap = some s ∧
      s.sessions.map Session.admitted = [false, true] ∧
      ∀ a, (s.sessions.filter fun c => c.admitted ∧ c.addr = a ∧ 0 < c.limits.maxPerIp ∧
        c.limits.maxPerIp ≤ 1).length ≤ 1 := by
  obtain ⟨s, hs⟩ := Option.isSome_iff_exists.mp overlap_runs
  have hview : (follow step standaloneStart overlap).map
      (fun s => s.sessions.map Session.admitted) = some [false, true] := rfl
  rw [hs] at hview
  exact ⟨s, hs, Option.some.inj hview, (listener_limits (reachable_of_follow hs) 1).2⟩

end BoardServices.Vsftpd
