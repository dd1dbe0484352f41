import BoardServices.Socket.Sessions

/-!
# What the server sends back

The server ignores how much `send` accepted and what `recv` returned, so it
echoes faithfully as long as no result gives it reason to do otherwise. The
last call of a run may return anything.
-/

namespace BoardServices.Socket
open Lib.Machine Lib.Strings

def RecvResult.bytesOf : RecvResult → List Char
  | .bytes c => c.val
  | .eof => []
  | .error => []

def RecvResult.Ended (r : RecvResult) : Prop := r = .eof ∨ r = .error

def received (tr : List (Server × Call)) : List Char :=
  tr.flatMap fun p =>
    match p.2 with
    | .recv r => r.bytesOf
    | .send _ => []

/-- The bytes `send` accepted behind the welcome. -/
def echoed (tr : List (Server × Call)) : List Char :=
  tr.flatMap fun p =>
    match p.1.pc, p.2 with
    | .sendBack _, .send (.accepted n) => p.1.recvline.data.take n
    | _, _ => []

def justReceived (tr : List (Server × Call)) : ℕ :=
  ((tr.filterMap fun p =>
    match p.2 with
    | .recv r => some r.bytesOf.length
    | .send _ => none).getLast?).getD 0

/-- The calls of a run: the bytes accepted are a prefix of the bytes received, each
`send` behind the welcome is given at most what was just received, and nothing is
called after a `recv` that returned 0 or -1. -/
structure EchoesOnly (tr : List (Server × Call)) : Prop where
  echo : echoed tr <+: received tr
  length : ∀ pre s r call post, tr = pre ++ (s, .send r) :: post → s.pc ≠ .sendWelcome →
    s.sendCall = some call → call.length ≤ justReceived pre
  silent : ∀ pre s r post, tr = pre ++ (s, .recv r) :: post → r.Ended → post = []

/-- The call gives the server no reason to change its course: a `recv` that brought
bytes, a `send` that was carried out whole or, behind the welcome, ends the program. -/
def Served (s : Server) : Call → Prop
  | .recv r => ¬ r.Ended
  | .send (.accepted n) => s.pc = .sendWelcome ∨ ∀ call, s.sendCall = some call → n = call.length
  | .send .error => True

/-! ### Runs that were served -/

/-- What was echoed and received, in each state of the server. -/
def Echoing (tr : List (Server × Call)) (s : Server) : Prop :=
  match s.pc with
  | .sendWelcome => received tr = [] ∧ echoed tr = []
  | .recv => echoed tr = received tr
  | .sendBack length => ∃ c : Chunk, length = c.val.length ∧
      s.recvline.data.take c.val.length = c.val ∧ received tr = echoed tr ++ c.val ∧
      justReceived tr = c.val.length
  | .returned => echoed tr <+: received tr

section Snoc
variable (tr : List (Server × Call)) (s : Server)

theorem received_recv (r : RecvResult) :
    received (tr ++ [(s, .recv r)]) = received tr ++ r.bytesOf := by
  simp [received]

theorem received_send (r : SendResult) : received (tr ++ [(s, .send r)]) = received tr := by
  simp [received]

theorem echoed_recv (r : RecvResult) : echoed (tr ++ [(s, .recv r)]) = echoed tr := by
  obtain ⟨pc, b⟩ := s
  cases pc <;> simp [echoed]

theorem echoed_error : echoed (tr ++ [(s, .send .error)]) = echoed tr := by
  obtain ⟨pc, b⟩ := s
  cases pc <;> simp [echoed]

theorem echoed_welcome (h : s.pc = .sendWelcome) (r : SendResult) :
    echoed (tr ++ [(s, .send r)]) = echoed tr := by
  obtain ⟨pc, b⟩ := s
  cases h
  simp [echoed]

theorem echoed_back {length : ℤ} (h : s.pc = .sendBack length) (n : ℕ) :
    echoed (tr ++ [(s, .send (.accepted n))]) = echoed tr ++ s.recvline.data.take n := by
  obtain ⟨pc, b⟩ := s
  cases h
  simp [echoed]

theorem justReceived_recv (r : RecvResult) :
    justReceived (tr ++ [(s, .recv r)]) = r.bytesOf.length := by
  simp [justReceived]

end Snoc

theorem sendCall_chunk {s : Server} {c : Chunk} (h : s.pc = .sendBack c.val.length) :
    s.sendCall = some ⟨s.recvline.data, c.val.length⟩ := by
  rw [Server.sendCall, h]
  dsimp only
  rw [sizeT_chunk]

theorem echoing_step {tr : List (Server × Call)} {s t : Server} {c : Call} (hi : Echoing tr s)
    (hc : Served s c) (h : serverEndpoint.step s c = some t) : Echoing (tr ++ [(s, c)]) t := by
  obtain ⟨pc, b⟩ := s
  cases c with
  | recv r =>
    obtain ⟨hr, rfl⟩ := step_recv h
    obtain rfl : pc = .recv := of_decide_eq_true hr
    have hsame : echoed tr = received tr := hi
    cases r with
    | bytes c =>
      refine ⟨c, rfl, terminate_recv_bytes b c, ?_, justReceived_recv ..⟩
      rw [received_recv, echoed_recv, hsame]
      rfl
    | eof => exact absurd (Or.inl rfl) hc
    | error => exact absurd (Or.inr rfl) hc
  | send r =>
    obtain ⟨call, hcall, _, rfl⟩ := step_send h
    cases pc with
    | sendWelcome =>
      have hrest : echoed (tr ++ [(⟨.sendWelcome, b⟩, .send r)]) =
          received (tr ++ [(⟨.sendWelcome, b⟩, .send r)]) := by
        rw [echoed_welcome tr _ rfl, received_send, hi.1, hi.2]
      cases r with
      | accepted n => exact hrest
      | error => exact hrest
    | recv => cases hcall
    | sendBack length =>
      obtain ⟨c, rfl, htake, hreceived, _⟩ := hi
      have hcall:=sendCall_chunk (s := ⟨.sendBack c.val.length, b⟩) rfl
      cases r with
      | accepted n =>
        have hn : n = c.val.length := (hc.resolve_left nofun) _ hcall
        have hrest : echoed (tr ++ [(⟨.sendBack c.val.length, b⟩, .send (.accepted n))]) =
            received (tr ++ [(⟨.sendBack c.val.length, b⟩, .send (.accepted n))]) := by
          rw [echoed_back tr _ rfl, received_send, hreceived, hn, htake]
        exact hrest
      | error =>
        have hrest : echoed (tr ++ [(⟨.sendBack c.val.length, b⟩, .send .error)]) <+:
            received (tr ++ [(⟨.sendBack c.val.length, b⟩, .send .error)]) := by
          rw [echoed_error, received_send, hreceived]
          exact List.prefix_append ..
        exact hrest
    | returned => cases hcall

theorem echoing_run {b : LineBuffer} {tr : List (Server × Call)} {t : Server}
    (r : Run serverEndpoint.step (Server.accepted b) tr t) (hs : ∀ p ∈ tr, Served p.1 p.2) :
    Echoing tr t := by
  induction r with
  | start => exact ⟨rfl, rfl⟩
  | next r h ih =>
    have hprev:=ih fun p hp => hs p (List.mem_append_left _ hp)
    exact echoing_step hprev (hs _ (List.mem_append_right _ (List.mem_singleton_self _))) h

/-! ### The last call -/

theorem echoed_of_echoing {tr : List (Server × Call)} {s : Server} (h : Echoing tr s) :
    echoed tr <+: received tr := by
  obtain ⟨pc, b⟩ := s
  cases pc with
  | sendWelcome => exact h.2 ▸ List.nil_prefix
  | recv =>
    have hsame : echoed tr = received tr := h
    rw [hsame]
  | sendBack length =>
    obtain ⟨c, _, _, hreceived, _⟩ := h
    rw [hreceived]
    exact List.prefix_append ..
  | returned => exact h

/-- Whatever the last call returns, nothing is echoed that was not received. -/
theorem echo_step {tr : List (Server × Call)} {s t : Server} {c : Call} (hi : Echoing tr s)
    (h : serverEndpoint.step s c = some t) :
    echoed (tr ++ [(s, c)]) <+: received (tr ++ [(s, c)]) := by
  have hp:=echoed_of_echoing hi
  cases c with
  | recv r =>
    rw [echoed_recv, received_recv]
    exact hp.trans (List.prefix_append ..)
  | send r =>
    rw [received_send]
    obtain ⟨call, hcall, hallowed, rfl⟩ := step_send h
    cases r with
    | error => rwa [echoed_error]
    | accepted n =>
      obtain ⟨pc, b⟩ := s
      cases pc with
      | sendWelcome => rwa [echoed_welcome tr _ rfl]
      | recv => cases hcall
      | sendBack length =>
        obtain ⟨c, rfl, htake, hreceived, _⟩ := hi
        rw [echoed_back tr _ rfl, hreceived, List.prefix_append_right_inj]
        have hcall':=hcall.symm.trans (sendCall_chunk (s := ⟨.sendBack c.val.length, b⟩) rfl)
        cases hcall'
        have hn : n ≤ c.val.length := hallowed
        rw [← htake]
        exact List.take_prefix_take_left hn
      | returned => cases hcall

theorem echoing_length {tr : List (Server × Call)} {s : Server} {call : SendCall}
    (hi : Echoing tr s) (hs : s.pc ≠ .sendWelcome) (hcall : s.sendCall = some call) :
    call.length = justReceived tr := by
  obtain ⟨pc, b⟩ := s
  cases pc with
  | sendWelcome => exact absurd rfl hs
  | recv => cases hcall
  | sendBack length =>
    obtain ⟨c, rfl, _, _, hjust⟩ := hi
    have hcall':=hcall.symm.trans (sendCall_chunk (s := ⟨.sendBack c.val.length, b⟩) rfl)
    cases hcall'
    exact hjust.symm
  | returned => cases hcall

/-- A run in which each call but the last was served echoes a prefix of what it
received, and stops with the connection. -/
theorem echoes_only_while_served (b : LineBuffer) (tr : List (Server × Call)) (t : Server)
    (r : Run serverEndpoint.step (Server.accepted b) tr t)
    (hs : ∀ p ∈ tr.dropLast, Served p.1 p.2) : EchoesOnly tr := by
  -- what stands before a call was served
  have hbefore (pre : List (Server × Call)) (p : Server × Call) (post : List (Server × Call))
      (htr : tr = pre ++ p :: post) : ∀ q ∈ pre, Served q.1 q.2 := by
    intro q hq
    apply hs
    rw [htr, List.dropLast_append_of_ne_nil (List.cons_ne_nil _ _)]
    exact List.mem_append_left _ hq
  refine ⟨?_, ?_, ?_⟩
  · cases r with
    | start => exact List.nil_prefix
    | next r h =>
      rw [List.dropLast_concat] at hs
      exact echo_step (echoing_run r hs) h
  · intro pre s res call post htr hpc hcall
    have hi:=echoing_run (r.split htr).1 (hbefore pre _ post htr)
    exact le_of_eq (echoing_length hi hpc hcall)
  · intro pre s res post htr hended
    by_contra hpost
    refine hs (s, .recv res) ?_ hended
    rw [htr, List.dropLast_append_of_ne_nil (List.cons_ne_nil _ _), List.dropLast_cons_of_ne_nil hpost]
    exact List.mem_append_right _ (List.mem_cons_self ..)

theorem echoes_only_while_served_hi :
    ∃ tr t, Run serverEndpoint.step (Server.accepted blankBuffer) tr t ∧ tr.length = 4 ∧
      EchoesOnly tr := by
  have r0 : Run serverEndpoint.step (Server.accepted blankBuffer) [] _ := Run.start
  have r:=((r0.next (i := .send (.accepted 19)) rfl).next (i := .recv (.bytes hi)) rfl).next
    (i := .send (.accepted 2)) rfl
  have r':=r.next (i := .recv .eof) rfl
  refine ⟨_, _, r', rfl, echoes_only_while_served blankBuffer _ _ r' ?_⟩
  intro p hp
  rw [List.dropLast_concat] at hp
  simp only [List.nil_append, List.cons_append, List.mem_cons, List.not_mem_nil, or_false] at hp
  rcases hp with rfl | rfl | rfl
  · exact Or.inl rfl
  · exact fun h => h.elim nofun nofun
  · refine Or.inr fun call hcall => ?_
    cases hcall
    rfl

/-- A `send` that accepts one byte of two loses the other, and the end of the stream
is answered by a `send` of no bytes. -/
theorem short_send_or_end_not_handled :
    (¬ ∀ tr t, Run serverEndpoint.step (Server.accepted blankBuffer) tr t →
        echoed tr <+: received tr) ∧
      ¬ ∀ tr t, Run serverEndpoint.step (Server.accepted blankBuffer) tr t → EchoesOnly tr := by
  have r0 : Run serverEndpoint.step (Server.accepted blankBuffer) [] _ := Run.start
  have r:=r0.next (i := .send (.accepted 19)) rfl
  refine ⟨fun h => ?_, fun h => ?_⟩
  · have r':=(((r.next (i := .recv (.bytes hi)) rfl).next (i := .send (.accepted 1)) rfl).next
      (i := .recv (.bytes hi)) rfl).next (i := .send (.accepted 1)) rfl
    have hp : ['h', 'h'] <+: ['h', 'i', 'h', 'i'] := h _ _ r'
    exact absurd hp (by decide)
  · have r':=(r.next (i := .recv .eof) rfl).next (i := .send (.accepted 0)) rfl
    exact absurd ((h _ _ r').silent [_] _ _ [_] rfl (Or.inl rfl)) (List.cons_ne_nil _ _)

end BoardServices.Socket
