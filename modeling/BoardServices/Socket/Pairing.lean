import BoardServices.Socket.Conservation

/-!
# Requests and answers

The client calls `recv` once for each message it sends and takes what it gets
for the answer. It is the answer exactly as long as every `recv` has returned as
many bytes as the message has; the cuts of the other direction do not matter.
-/

namespace BoardServices.Socket
open Lib Lib.Strings

/-- Message the `k`-th `recv` of the client is for: the welcome, the line of the
user, then the count of iteration `k - 2`. -/
def awaitedAt (line : UserLine) : ℕ → CString
  | 0 => welcome
  | 1 => cstr line.text
  | k + 2 => countMessage (BitVec.ofNat 32 k)

def Paired (c : Conn) : Prop := ∀ e ∈ c.exchanges, e.2 = e.1

/-- Each `recv` of the client was cut to the length of the message it was for. -/
def CutToMessages (tr : List (Conn × Label)) : Prop :=
  ∀ p ∈ tr, ∀ n, p.2 = .clientRecv n → n = p.1.client.awaited.length

/-! ### The messages in their order -/

def Client.Before (s : Client) (k : ℕ) : Prop :=
  match s.pc with
  | .recvWelcome => k = 0 ∧ s.count = 0
  | .sendLine | .recvLine => k = 1 ∧ s.count = 0
  | .sendCount | .recvCount => ∃ j, k = j + 2 ∧ s.count = BitVec.ofNat 32 j
  | .exited => True

structure InOrder (line : UserLine) (c : Conn) : Prop where
  sameLine : c.client.line = line
  before : c.client.Before c.exchanges.length
  messages : c.exchanges.map Prod.fst = (List.range c.exchanges.length).map (awaitedAt line)

theorem awaited_before (s : Client) (k : ℕ) (hr : s.Receiving) (hb : s.Before k) :
    s.awaited = awaitedAt s.line k := by
  obtain ⟨pc, b, line, count⟩ := s
  rcases hr with h | h | h
  · cases h
    rw [hb.1]
    rfl
  · cases h
    rw [hb.1]
    rfl
  · cases h
    obtain ⟨j, rfl, hcount⟩ := hb
    exact congrArg countMessage hcount

theorem onRecv_before (s : Client) (r : RecvResult) (k : ℕ) (hr : s.Receiving) (hb : s.Before k) :
    (s.onRecv r).Before (k + 1) := by
  obtain ⟨pc, b, line, count⟩ := s
  rcases hr with h | h | h
  · cases h
    exact ⟨by rw [hb.1], hb.2⟩
  · cases h
    exact ⟨0, by rw [hb.1], hb.2⟩
  · cases h
    obtain ⟨j, rfl, hcount⟩ := hb
    have hnext : count + 1 = BitVec.ofNat 32 (j + 1) := by
      rw [show count = BitVec.ofNat 32 j from hcount, BitVec.ofNat_add]
      rfl
    exact ⟨j + 1, by omega, hnext⟩

theorem onSend_receiving (s : Client) (call : SendCall) (n : ℕ) (h : s.sendCall = some call) :
    ¬ s.Receiving ∧ (s.onSend (.accepted n)).Receiving ∧
      (s.onSend (.accepted n)).awaited = call.whole ∧
      ∀ k, s.Before k → (s.onSend (.accepted n)).Before k := by
  rw [client_sendCall_whole s call h]
  obtain ⟨pc, b, line, count⟩ := s
  cases pc with
  | sendLine => exact ⟨by simp [Client.Receiving], Or.inr (Or.inl rfl), rfl, fun k hk => hk⟩
  | sendCount => exact ⟨by simp [Client.Receiving], Or.inr (Or.inr rfl), rfl, fun k hk => hk⟩
  | recvWelcome => cases h
  | recvLine => cases h
  | recvCount => cases h
  | exited => cases h

theorem inOrder_step {line : UserLine} {c d : Conn} {l : Label} (hc : InOrder line c)
    (h : step c l = some d) : InOrder line d := by
  obtain ⟨hl, hb, hm⟩ := hc
  cases l with
  | serverSend =>
    obtain ⟨call, _, rfl⟩ := serverSend_eq h
    exact ⟨hl, hb, hm⟩
  | serverRecv n =>
    obtain ⟨_, chunk, rest, _, _, rfl⟩ := serverRecv_eq h
    exact ⟨hl, hb, hm⟩
  | clientSend =>
    obtain ⟨call, hcall, rfl⟩ := clientSend_eq h
    have hs:=onSend_receiving c.client call call.length hcall
    exact ⟨(client_onSend_line _ _).trans hl, hs.2.2.2 _ hb, hm⟩
  | clientRecv n =>
    obtain ⟨hr, chunk, rest, _, _, rfl⟩ := clientRecv_eq h
    have ha:=awaited_before c.client _ hr hb
    refine ⟨(client_onRecv c.client (.bytes chunk) hr).2.trans hl, ?_, ?_⟩
    · rw [List.length_append]
      exact onRecv_before c.client _ _ hr hb
    · simp only [List.map_append, List.length_append, List.length_singleton, List.range_succ, hm,
        List.map_cons, List.map_nil, ha, hl]

theorem inOrder_connected (line : UserLine) (sb cb : LineBuffer) :
    InOrder line (connected line sb cb) := ⟨rfl, ⟨rfl, rfl⟩, rfl⟩

/-! ### Cuts and answers -/

def InStep (c : Conn) : Prop :=
  welcome ++ c.sent = c.received ++ if c.client.Receiving then c.client.awaited else []

structure Answered (c : Conn) : Prop where
  conserved : Conserved c
  inStep : InStep c
  paired : Paired c

theorem answered_connected (line : UserLine) (sb cb : LineBuffer) :
    Answered (connected line sb cb) :=
  ⟨conserved_connected line sb cb, rfl, by simp [Paired, connected]⟩

theorem chunk_eq_awaited {c : Conn} {chunk : Chunk} {rest : List Char} (hc : Answered c)
    (hr : c.client.Receiving) (hq : c.toClient = chunk.val ++ rest)
    (hn : chunk.val.length = c.client.awaited.length) : chunk.val = c.client.awaited := by
  have hin:=hc.inStep
  have hcons : welcome ++ c.sent = c.received ++ (c.toClient ++ c.server.held ++ c.toServer) :=
    hc.conserved
  rw [InStep, if_pos hr] at hin
  rw [hin, hq] at hcons
  simp only [List.append_assoc, List.append_cancel_left_eq] at hcons
  have hpre : chunk.val <+: c.client.awaited := ⟨_, hcons.symm⟩
  exact hpre.eq_of_length hn

theorem answered_step {c d : Conn} {l : Label} (hc : Answered c) (h : step c l = some d)
    (hcut : ∀ n, l = .clientRecv n → n = c.client.awaited.length) : Answered d := by
  have hcons:=conserved_step hc.conserved h
  have hin:=hc.inStep
  cases l with
  | serverSend =>
    obtain ⟨call, _, rfl⟩ := serverSend_eq h
    exact ⟨hcons, hin, hc.paired⟩
  | serverRecv n =>
    obtain ⟨_, chunk, rest, _, _, rfl⟩ := serverRecv_eq h
    exact ⟨hcons, hin, hc.paired⟩
  | clientSend =>
    obtain ⟨call, hcall, rfl⟩ := clientSend_eq h
    obtain ⟨hno, hyes, haw, _⟩ := onSend_receiving c.client call call.length hcall
    refine ⟨hcons, ?_, hc.paired⟩
    rw [InStep, if_neg hno, List.append_nil] at hin
    rw [InStep, if_pos hyes, haw, ← hin, List.append_assoc]
  | clientRecv n =>
    have hn:=hcut n rfl
    obtain ⟨hr, chunk, rest, hq, hlen, rfl⟩ := clientRecv_eq h
    have heq:=chunk_eq_awaited hc hr hq (hlen.trans hn)
    obtain ⟨hno, _⟩ := client_onRecv c.client (.bytes chunk) hr
    refine ⟨hcons, ?_, ?_⟩
    · rw [InStep, if_pos hr] at hin
      rw [InStep, if_neg hno, List.append_nil, heq]
      exact hin
    · intro e he
      rcases List.mem_append.mp he with he | he
      · exact hc.paired e he
      · rw [List.mem_singleton.mp he]
        exact heq

theorem answered_run {line : UserLine} {sb cb : LineBuffer} {tr : List (Conn × Label)} {c : Conn}
    (h : Machine.Run step (connected line sb cb) tr c) (hcut : CutToMessages tr) :
    Answered c := by
  induction h with
  | start => exact answered_connected line sb cb
  | next _ hstep ih =>
    refine answered_step (ih fun p hp => hcut p (List.mem_append_left _ hp)) hstep ?_
    intro n hl
    exact hcut _ (List.mem_append_right _ (List.mem_singleton.mpr rfl)) n hl

theorem exchanges_grow {c d : Conn} {l : Label} (h : step c l = some d) :
    c.exchanges <+: d.exchanges := by
  cases l with
  | serverSend =>
    obtain ⟨call, _, rfl⟩ := serverSend_eq h
    exact List.prefix_rfl
  | serverRecv n =>
    obtain ⟨_, chunk, rest, _, _, rfl⟩ := serverRecv_eq h
    exact List.prefix_rfl
  | clientSend =>
    obtain ⟨call, _, rfl⟩ := clientSend_eq h
    exact List.prefix_rfl
  | clientRecv n =>
    obtain ⟨_, chunk, rest, _, _, rfl⟩ := clientRecv_eq h
    exact List.prefix_append _ _

theorem recv_exchanged {line : UserLine} {sb cb : LineBuffer} {tr : List (Conn × Label)} {c : Conn}
    (h : Machine.Run step (connected line sb cb) tr c) :
    ∀ p ∈ tr, ∀ n, p.2 = .clientRecv n →
      ∃ e ∈ c.exchanges, e.1 = p.1.client.awaited ∧ e.2.length = n := by
  induction h with
  | start => simp
  | next _ hstep ih =>
    intro p hp n hl
    rcases List.mem_append.mp hp with hp | hp
    · obtain ⟨e, he, hawait, hlen⟩ := ih p hp n hl
      exact ⟨e, (exchanges_grow hstep).subset he, hawait, hlen⟩
    · rw [List.mem_singleton.mp hp] at hl ⊢
      dsimp only at hl
      rw [hl] at hstep
      obtain ⟨_, chunk, rest, _, hlen, rfl⟩ := clientRecv_eq hstep
      exact ⟨_, List.mem_append_right _ (List.mem_singleton.mpr rfl), rfl, hlen⟩

/-- In every run the `recv` calls of the client are for the welcome, the line of
the user and the counts in their order, and each returned its message exactly if
each was cut to the length of its message. -/
theorem answers_paired_iff_cut_to_messages (line : UserLine) (serverBuf clientBuf : LineBuffer)
    (tr : List (Conn × Label)) (c : Conn)
    (h : Machine.Run step (connected line serverBuf clientBuf) tr c) :
    c.exchanges.map Prod.fst = (List.range c.exchanges.length).map (awaitedAt line) ∧
      (Paired c ↔ CutToMessages tr) := by
  have horder:=h.invariant (inOrder_connected line serverBuf clientBuf) fun _ _ _ => inOrder_step
  refine ⟨horder.messages, ?_, fun hcut => (answered_run h hcut).paired⟩
  intro hpair p hp n hl
  obtain ⟨e, he, hawait, hlen⟩ := recv_exchanged h p hp n hl
  rw [← hawait, ← hlen, hpair e he]

/-- The welcome, the line and the first count, each in one piece. -/
def wholeMessages : List Label :=
  [.serverSend, .clientRecv 19, .clientSend, .serverRecv 6, .serverSend, .clientRecv 6,
    .clientSend, .serverRecv 8, .serverSend, .clientRecv 8]

theorem answers_paired_iff_cut_to_messages_whole :
    ∃ tr c, Machine.Run step (connected hello blankBuffer blankBuffer) tr c ∧
      tr.map Prod.snd = wholeMessages ∧ c.exchanges.length = 3 ∧ Paired c := by
  have hfollow : ((Machine.traced step (connected hello blankBuffer blankBuffer) wholeMessages).map fun r =>
      (r.1.map Prod.snd, r.2.exchanges.length, r.1.all fun p =>
        match p.2 with
        | .clientRecv n => n == p.1.client.awaited.length
        | _ => true)) = some (wholeMessages, 3, true) := by decide +kernel
  obtain ⟨⟨tr, c⟩, htraced, hfacts⟩ := Option.map_eq_some_iff.mp hfollow
  obtain ⟨hlabels, hthree, hcut⟩ : tr.map Prod.snd = wholeMessages ∧ c.exchanges.length = 3 ∧ _ = true := by
    simpa only [Prod.mk.injEq] using hfacts
  have hrun : Machine.Run step (connected hello blankBuffer blankBuffer) tr c :=
    Machine.Run.start.traced_from htraced
  have hiff:=(answers_paired_iff_cut_to_messages hello blankBuffer blankBuffer tr c hrun).2
  refine ⟨tr, c, hrun, hlabels, hthree, hiff.mpr fun p hp n hl => ?_⟩
  have hone:=List.all_eq_true.mp hcut p hp
  rw [hl] at hone
  exact beq_iff_eq.mp hone

/-- The welcome arrives in two pieces, and the first is taken for the whole. -/
theorem short_recv_breaks_pairing :
    ¬ ∀ (line : UserLine) (serverBuf clientBuf : LineBuffer) (tr : List (Conn × Label)) (c : Conn),
      Machine.Run step (connected line serverBuf clientBuf) tr c → Paired c := by
  intro h
  have hrun : (Machine.follow step (connected hello blankBuffer blankBuffer)
      [.serverSend, .clientRecv 7]).map (fun c => c.exchanges) =
        some [(welcome, "Welcome".toList)] := by decide
  obtain ⟨c, hc, hex⟩ := Option.map_eq_some_iff.mp hrun
  obtain ⟨tr, hr, _⟩ := Machine.Run.start.follow_from _ hc
  have hpair:=h hello blankBuffer blankBuffer tr c hr
  rw [Paired, hex] at hpair
  exact absurd (hpair _ (List.mem_singleton.mpr rfl)) (by decide)

end BoardServices.Socket
