import BoardServices.Lib.Pipe
import BoardServices.Socket.Connection

/-!
# The connection as a pipe

Seen from the client the connection is a pipe: the welcome and all it sends are
written into it and come out at its `recv`. The steps of the server move bytes
inside. So no byte is lost, and the count of the bytes inside shows that the two
programs never wait for each other on an empty connection.
-/

namespace BoardServices.Socket
open Lib Lib.Strings

/-- What the server has to send: the welcome, then what it last received. -/
def Server.held (s : Server) : List Char := s.sendCall.elim [] SendCall.whole

def pipe (c : Conn) : Pipe Char :=
  ⟨welcome ++ c.sent, c.toClient ++ c.server.held ++ c.toServer, c.received⟩

theorem held_recv (s : Server) (h : s.pc = .recv) : s.held = [] := by
  simp [Server.held, Server.sendCall, h]

theorem held_onRecv (s : Server) (chunk : Chunk) (h : s.pc = .recv) :
    (s.onRecv (.bytes chunk)).held = chunk.val := by
  have hdata:=terminate_recv_bytes s.recvline chunk
  have hlen : (s.recvline.recv (.bytes chunk)).1 = (chunk.val.length : ℤ) := rfl
  simp only [Server.held, Server.sendCall, Server.onRecv, h, SendCall.whole, Option.elim_some]
  rw [hlen, sizeT_chunk]
  exact hdata

theorem held_onSend (s : Server) (call : SendCall) (n : ℕ) (h : s.sendCall = some call) :
    (s.onSend (.accepted n)).pc = .recv ∧ s.held = call.whole := by
  refine ⟨?_, by rw [Server.held, h, Option.elim_some]⟩
  unfold Server.sendCall at h
  unfold Server.onSend
  cases hpc : s.pc with
  | sendWelcome => rfl
  | sendBack length => rfl
  | recv => rw [hpc] at h; cases h
  | returned => rw [hpc] at h; cases h

/-- Every step is a write into the pipe, a read from it or a move inside. -/
theorem step_pipe {c d : Conn} {l : Label} (h : step c l = some d) :
    Pipe.Steps (pipe c) (pipe d) := by
  cases l with
  | serverSend =>
    obtain ⟨call, hcall, rfl⟩ := serverSend_eq h
    obtain ⟨hpc, hheld⟩ := held_onSend c.server call call.length hcall
    simp only [pipe, held_recv _ hpc, hheld, List.append_nil]
    exact Relation.ReflTransGen.refl
  | serverRecv n =>
    obtain ⟨hpc, chunk, rest, hq, _, rfl⟩ := serverRecv_eq h
    simp only [pipe, held_recv _ hpc, held_onRecv _ chunk hpc, hq, List.append_nil,
      List.append_assoc]
    exact Relation.ReflTransGen.refl
  | clientSend =>
    obtain ⟨call, _, rfl⟩ := clientSend_eq h
    have hput:=Pipe.Step.put (welcome ++ c.sent) (c.toClient ++ c.server.held ++ c.toServer)
      c.received call.whole
    simp only [pipe, List.append_assoc] at hput ⊢
    exact Relation.ReflTransGen.single hput
  | clientRecv n =>
    obtain ⟨_, chunk, rest, hq, _, rfl⟩ := clientRecv_eq h
    have htake:=Pipe.Step.take (welcome ++ c.sent) (rest ++ c.server.held ++ c.toServer)
      c.received chunk.val
    simp only [pipe, hq, List.append_assoc] at htake ⊢
    exact Relation.ReflTransGen.single htake

def Conserved (c : Conn) : Prop := (pipe c).Balanced

theorem conserved_connected (line : UserLine) (sb cb : LineBuffer) :
    Conserved (connected line sb cb) := by
  simp [Conserved, Pipe.Balanced, pipe, connected, Server.held, Server.accepted, Server.sendCall,
    SendCall.whole]

theorem conserved_step {c d : Conn} {l : Label} (hc : Conserved c) (h : step c l = some d) :
    Conserved d := hc.steps (step_pipe h)

theorem conserved_reachable {line : UserLine} {sb cb : LineBuffer} {c : Conn}
    (h : Machine.Reachable step (connected line sb cb) c) : Conserved c :=
  h.invariant (conserved_connected line sb cb) fun _ _ _ => conserved_step

/-- Bytes are neither lost nor duplicated nor reordered. -/
theorem echo_conserves_bytes (line : UserLine) (serverBuf clientBuf : LineBuffer) (c : Conn)
    (h : Machine.Reachable step (connected line serverBuf clientBuf) c) :
    welcome.length = 19 ∧
      welcome ++ c.sent = c.received ++ c.toClient ++ c.server.held ++ c.toServer ∧
      c.received <+: welcome ++ c.sent := by
  have hc:=conserved_reachable h
  refine ⟨by decide, ?_, hc.read_prefix⟩
  have hbalance : welcome ++ c.sent = c.received ++ (c.toClient ++ c.server.held ++ c.toServer) := hc
  rw [hbalance]
  simp only [List.append_assoc]

def hello : UserLine := ⟨"hello\n".toList, by decide⟩

theorem echo_conserves_bytes_short_recv :
    ∃ c, Machine.follow step (connected hello blankBuffer blankBuffer)
        [.serverSend, .clientRecv 7, .clientSend] = some c ∧
      c.received <+: welcome ++ c.sent := by
  obtain ⟨c, hc⟩ := Option.isSome_iff_exists.mp (by decide : (Machine.follow step
    (connected hello blankBuffer blankBuffer)
    [.serverSend, .clientRecv 7, .clientSend]).isSome = true)
  exact ⟨c, hc, (echo_conserves_bytes hello blankBuffer blankBuffer c
    (Machine.reachable_of_follow hc)).2.2⟩

/-! ### Nobody waits for good -/

def Deadlocked (c : Conn) : Prop :=
  c.client.Receiving ∧ c.server.pc = .recv ∧ c.toClient = [] ∧ c.toServer = []

def Owed (c : Conn) : Prop :=
  c.client.Receiving → c.received.length < welcome.length + c.sent.length

theorem client_sendCall_whole (s : Client) (call : SendCall) (h : s.sendCall = some call) :
    call.whole = s.sendline := by
  unfold Client.sendCall at h
  split at h
  · cases h
    exact List.take_length
  · cases h
    exact List.take_length
  · cases h

theorem sendline_ne_nil (s : Client) (h : cstr s.line.text ≠ []) : s.sendline ≠ [] := by
  unfold Client.sendline
  split
  · exact h
  · exact h
  · exact h
  · exact countMessage_ne_nil s.count

theorem client_onRecv (s : Client) (r : RecvResult) (h : s.Receiving) :
    ¬ (s.onRecv r).Receiving ∧ (s.onRecv r).line = s.line := by
  obtain ⟨pc, b, line, count⟩ := s
  rcases h with h | h | h
  · cases h
    exact ⟨by simp [Client.onRecv, Client.Receiving], rfl⟩
  · cases h
    exact ⟨by simp [Client.onRecv, Client.Receiving], rfl⟩
  · cases h
    exact ⟨by simp [Client.onRecv, Client.Receiving], rfl⟩

theorem client_onSend_line (s : Client) (r : SendResult) : (s.onSend r).line = s.line := by
  unfold Client.onSend
  split <;> rfl

theorem conserved_length {c : Conn} (h : Conserved c) :
    welcome.length + c.sent.length =
      c.received.length + (c.toClient.length + c.server.held.length + c.toServer.length) := by
  have hl:=h.length
  simpa only [pipe, List.length_append] using hl

theorem owed_step {line : UserLine} (hline : cstr line.text ≠ []) {c d : Conn} {l : Label}
    (hc : Conserved c ∧ c.client.line = line ∧ Owed c) (h : step c l = some d) :
    Conserved d ∧ d.client.line = line ∧ Owed d := by
  obtain ⟨hcons, hl, ho⟩ := hc
  refine ⟨conserved_step hcons h, ?_⟩
  cases l with
  | serverSend =>
    obtain ⟨call, _, rfl⟩ := serverSend_eq h
    exact ⟨hl, ho⟩
  | serverRecv n =>
    obtain ⟨_, chunk, rest, _, _, rfl⟩ := serverRecv_eq h
    exact ⟨hl, ho⟩
  | clientSend =>
    obtain ⟨call, hcall, rfl⟩ := clientSend_eq h
    refine ⟨(client_onSend_line _ _).trans hl, ?_⟩
    intro _
    have hne:=sendline_ne_nil c.client (by rw [hl]; exact hline)
    rw [← client_sendCall_whole c.client call hcall] at hne
    have hpos:=List.length_pos_of_ne_nil hne
    have hlen:=conserved_length hcons
    dsimp only
    rw [List.length_append]
    omega
  | clientRecv n =>
    obtain ⟨hr, chunk, rest, _, _, rfl⟩ := clientRecv_eq h
    obtain ⟨hno, hkeep⟩ := client_onRecv c.client (.bytes chunk) hr
    exact ⟨hkeep.trans hl, fun hrecv => absurd hrecv hno⟩

theorem owed_connected (line : UserLine) (sb cb : LineBuffer) : Owed (connected line sb cb) :=
  fun _ => (by decide : 0 < welcome.length + 0)

/-- With a line that has something to send client and server never wait for each
other: while the client is in `recv` there is a byte in flight or at the server. -/
theorem echo_never_deadlocks (line : UserLine) (hne : line.text ≠ [])
    (hnul : '\x00' ∉ line.text) (serverBuf clientBuf : LineBuffer) (c : Conn)
    (h : Machine.Reachable step (connected line serverBuf clientBuf) c) : ¬ Deadlocked c := by
  have hline : cstr line.text ≠ [] := by
    rw [cstr_of_no_nul line.text hnul]
    exact hne
  have hinv:=h.invariant (I := fun c => Conserved c ∧ c.client.line = line ∧ Owed c)
    ⟨conserved_connected line serverBuf clientBuf, rfl, owed_connected line serverBuf clientBuf⟩
    fun _ _ _ => owed_step hline
  rintro ⟨hr, hpc, hto, hfrom⟩
  have howed:=hinv.2.2 hr
  have hlen:=conserved_length hinv.1
  rw [hto, hfrom, held_recv _ hpc] at hlen
  simp only [List.length_nil] at hlen
  omega

theorem echo_never_deadlocks_ahead :
    ∃ c, Machine.follow step (connected hello blankBuffer blankBuffer)
        [.serverSend, .clientRecv 7, .clientSend, .clientRecv 12, .serverRecv 6] = some c ∧
      ¬ Deadlocked c := by
  obtain ⟨c, hc⟩ := Option.isSome_iff_exists.mp (by decide : (Machine.follow step
    (connected hello blankBuffer blankBuffer)
    [.serverSend, .clientRecv 7, .clientSend, .clientRecv 12, .serverRecv 6]).isSome = true)
  exact ⟨c, hc, echo_never_deadlocks hello (by decide) (by decide) blankBuffer blankBuffer c
    (Machine.reachable_of_follow hc)⟩

end BoardServices.Socket
