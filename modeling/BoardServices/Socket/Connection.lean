import BoardServices.Lib.Machine
import BoardServices.Socket.Endpoints

/-!
# Client and server on one connection

Each direction is the list of the bytes in flight. A `send` is accepted whole,
a `recv` takes a nonempty piece from the front, of a length that the schedule
chooses: any interleaving of the two programs and any cut of the two streams is
a schedule.
-/

namespace BoardServices.Socket
open Lib Lib.Strings

structure Conn where
  server : Server
  client : Client
  toClient : List Char
  toServer : List Char
  -- what the client has sent and received since it was connected
  sent : List Char
  received : List Char
  /-- For each `recv` of the client the message it is for and what it returned. -/
  exchanges : List (CString × List Char)

inductive Label where
  | serverSend
  | serverRecv (n : ℕ)
  | clientSend
  | clientRecv (n : ℕ)
  deriving DecidableEq, Repr

def deliver (inFlight : List Char) (n : ℕ) : Option (Chunk × List Char) :=
  if h : 0 < n ∧ n ≤ MAXLINE ∧ n ≤ inFlight.length then
    some (⟨inFlight.take n, by rw [List.length_take]; omega⟩, inFlight.drop n)
  else none

def Conn.serverSend (c : Conn) : Option Conn :=
  c.server.sendCall.map fun call =>
    { c with
      server := c.server.onSend (.accepted call.length)
      toClient := c.toClient ++ call.whole }

def Conn.serverRecv (c : Conn) (n : ℕ) : Option Conn :=
  if c.server.pc = .recv then
    (deliver c.toServer n).map fun d =>
      { c with server := c.server.onRecv (.bytes d.1), toServer := d.2 }
  else none

def Conn.clientSend (c : Conn) : Option Conn :=
  c.client.sendCall.map fun call =>
    { c with
      client := c.client.onSend (.accepted call.length)
      toServer := c.toServer ++ call.whole
      sent := c.sent ++ call.whole }

def Conn.clientRecv (c : Conn) (n : ℕ) : Option Conn :=
  if c.client.Receiving then
    (deliver c.toClient n).map fun d =>
      { c with
        client := c.client.onRecv (.bytes d.1)
        toClient := d.2
        received := c.received ++ d.1.val
        exchanges := c.exchanges ++ [(c.client.awaited, d.1.val)] }
  else none

def step (c : Conn) : Label → Option Conn
  | .serverSend => c.serverSend
  | .serverRecv n => c.serverRecv n
  | .clientSend => c.clientSend
  | .clientRecv n => c.clientRecv n

/-- The connection is accepted; what the receive buffers hold is left open. -/
def connected (line : UserLine) (serverBuf clientBuf : LineBuffer) : Conn :=
  ⟨Server.accepted serverBuf, Client.connected clientBuf line, [], [], [], [], []⟩

/-! ### What a step does -/

theorem deliver_cut {q rest : List Char} {n : ℕ} {c : Chunk} (h : deliver q n = some (c, rest)) :
    q = c.val ++ rest ∧ c.val.length = n := by
  unfold deliver at h
  split at h
  · rename_i hn
    cases h
    refine ⟨(List.take_append_drop n q).symm, ?_⟩
    simp only [List.length_take]
    omega
  · cases h

theorem serverSend_eq {c d : Conn} (h : step c .serverSend = some d) :
    ∃ call, c.server.sendCall = some call ∧
      d = { c with
        server := c.server.onSend (.accepted call.length)
        toClient := c.toClient ++ call.whole } := by
  obtain ⟨call, hcall, rfl⟩ := Option.map_eq_some_iff.mp h
  exact ⟨call, hcall, rfl⟩

theorem serverRecv_eq {c d : Conn} {n : ℕ} (h : step c (.serverRecv n) = some d) :
    c.server.pc = .recv ∧ ∃ chunk rest, c.toServer = chunk.val ++ rest ∧ chunk.val.length = n ∧
      d = { c with server := c.server.onRecv (.bytes chunk), toServer := rest } := by
  simp only [step, Conn.serverRecv] at h
  split at h
  · rename_i hpc
    obtain ⟨⟨chunk, rest⟩, hd, rfl⟩ := Option.map_eq_some_iff.mp h
    obtain ⟨hq, hn⟩ := deliver_cut hd
    exact ⟨hpc, chunk, rest, hq, hn, rfl⟩
  · cases h

theorem clientSend_eq {c d : Conn} (h : step c .clientSend = some d) :
    ∃ call, c.client.sendCall = some call ∧
      d = { c with
        client := c.client.onSend (.accepted call.length)
        toServer := c.toServer ++ call.whole
        sent := c.sent ++ call.whole } := by
  obtain ⟨call, hcall, rfl⟩ := Option.map_eq_some_iff.mp h
  exact ⟨call, hcall, rfl⟩

theorem clientRecv_eq {c d : Conn} {n : ℕ} (h : step c (.clientRecv n) = some d) :
    c.client.Receiving ∧ ∃ chunk rest, c.toClient = chunk.val ++ rest ∧ chunk.val.length = n ∧
      d = { c with
        client := c.client.onRecv (.bytes chunk)
        toClient := rest
        received := c.received ++ chunk.val
        exchanges := c.exchanges ++ [(c.client.awaited, chunk.val)] } := by
  simp only [step, Conn.clientRecv] at h
  split at h
  · rename_i hpc
    obtain ⟨⟨chunk, rest⟩, hd, rfl⟩ := Option.map_eq_some_iff.mp h
    obtain ⟨hq, hn⟩ := deliver_cut hd
    exact ⟨hpc, chunk, rest, hq, hn, rfl⟩
  · cases h

end BoardServices.Socket
