import BoardServices.Lib.Machine
import BoardServices.Socket.Endpoints

/-!
# One program against any peer

Here a program runs alone and each of its calls returns whatever the system may
return: a `recv` any piece, the end or an error, a `send` an error or any number
of bytes up to what it was given. The calls and their results are the labels of
a run.
-/

namespace BoardServices.Socket
open Lib.Machine Lib.Strings

inductive Call where
  | send (r : SendResult)
  | recv (r : RecvResult)

def SendResult.Allowed (r : SendResult) (call : SendCall) : Prop :=
  match r with
  | .accepted n => n ≤ call.length
  | .error => True

instance (r : SendResult) (call : SendCall) : Decidable (r.Allowed call) :=
  match r with
  | .accepted n => inferInstanceAs (Decidable (n ≤ call.length))
  | .error => isTrue trivial

/-- What the two programs have in common. -/
structure Endpoint (α : Type) where
  sendCall : α → Option SendCall
  receiving : α → Bool
  onSend : α → SendResult → α
  onRecv : α → RecvResult → α
  recvline : α → LineBuffer

def Endpoint.step {α : Type} (e : Endpoint α) (s : α) : Call → Option α
  | .send r =>
    (e.sendCall s).bind fun call => if r.Allowed call then some (e.onSend s r) else none
  | .recv r => if e.receiving s then some (e.onRecv s r) else none

def serverEndpoint : Endpoint Server :=
  ⟨Server.sendCall, fun s => s.pc = .recv, Server.onSend, Server.onRecv, Server.recvline⟩

def clientEndpoint : Endpoint Client :=
  ⟨Client.sendCall, fun c => c.Receiving, Client.onSend, Client.onRecv, Client.recvline⟩

section Steps
variable {α : Type} {e : Endpoint α} {s t : α}

theorem step_send {r : SendResult} (h : e.step s (.send r) = some t) :
    ∃ call, e.sendCall s = some call ∧ r.Allowed call ∧ t = e.onSend s r := by
  obtain ⟨call, hcall, hsome⟩ := Option.bind_eq_some_iff.mp h
  split at hsome
  · rename_i hallowed
    cases hsome
    exact ⟨call, hcall, hallowed, rfl⟩
  · cases hsome

theorem step_recv {r : RecvResult} (h : e.step s (.recv r) = some t) :
    e.receiving s = true ∧ t = e.onRecv s r := by
  simp only [Endpoint.step] at h
  split at h
  · rename_i hr
    cases h
    exact ⟨hr, rfl⟩
  · cases h

end Steps

/-! ### The stores of the terminating NUL -/

def RecvResult.length : RecvResult → ℤ
  | .bytes c => c.val.length
  | .eof => 0
  | .error => -1

def Call.stored : Call → Option ℤ
  | .send _ => none
  | .recv r => some r.length

theorem recv_length (b : LineBuffer) (r : RecvResult) : (b.recv r).1 = r.length := by
  cases r <;> rfl

theorem recv_stores (b : LineBuffer) (r : RecvResult) : (b.recv r).2.stores = b.stores := by
  cases r <;> rfl

theorem terminate_recv_stores (b : LineBuffer) (r : RecvResult) :
    ((b.recv r).2.terminate (b.recv r).1).stores = b.stores ++ [r.length] := by
  rw [LineBuffer.terminate, recv_stores, recv_length]

/-- The program stores a NUL at the value of each `recv` and nowhere else. -/
structure Endpoint.StoresLengths {α : Type} (e : Endpoint α) : Prop where
  onSend : ∀ s r, (e.recvline (e.onSend s r)).stores = (e.recvline s).stores
  onRecv : ∀ s r, e.receiving s = true →
    (e.recvline (e.onRecv s r)).stores = (e.recvline s).stores ++ [r.length]

theorem server_storesLengths : serverEndpoint.StoresLengths := by
  refine ⟨?_, ?_⟩
  · rintro ⟨pc, b⟩ r
    cases pc <;> cases r <;> rfl
  · rintro ⟨pc, b⟩ r h
    obtain rfl : pc = .recv := of_decide_eq_true h
    exact terminate_recv_stores b r

theorem client_storesLengths : clientEndpoint.StoresLengths := by
  refine ⟨?_, ?_⟩
  · rintro ⟨pc, b, line, count⟩ r
    cases pc <;> cases r <;> rfl
  · rintro ⟨pc, b, line, count⟩ r h
    have hr : Client.Receiving ⟨pc, b, line, count⟩ := of_decide_eq_true h
    rcases hr with hpc | hpc | hpc
    · cases hpc
      exact terminate_recv_stores b r
    · cases hpc
      exact terminate_recv_stores b r
    · cases hpc
      exact terminate_recv_stores b r

theorem stores_of_run {α : Type} {e : Endpoint α} (he : e.StoresLengths) {s t : α}
    {tr : List (α × Call)} (r : Run e.step s tr t) :
    (e.recvline t).stores = (e.recvline s).stores ++ tr.filterMap fun p => p.2.stored := by
  induction r with
  | start => rw [List.filterMap_nil, List.append_nil]
  | next r h ih =>
    rw [List.filterMap_append, ← List.append_assoc, ← ih]
    rename_i i
    cases i with
    | send res =>
      obtain ⟨call, _, _, rfl⟩ := step_send h
      rw [he.onSend]
      exact (List.append_nil _).symm
    | recv res =>
      obtain ⟨hr, rfl⟩ := step_recv h
      exact he.onRecv _ res hr

def RecvResult.Fits : RecvResult → Prop
  | .bytes c => c.val.length ≤ 1023
  | .eof => True
  | .error => False

theorem fits_iff (r : RecvResult) : r.Fits ↔ 0 ≤ r.length ∧ r.length ≤ 1023 := by
  cases r with
  | bytes c =>
    have hpos : 0 ≤ (c.val.length : ℤ) := Int.natCast_nonneg _
    exact ⟨fun h => ⟨hpos, Int.ofNat_le.mpr h⟩, fun h => Int.ofNat_le.mp h.2⟩
  | eof => exact iff_of_true trivial (by decide)
  | error => exact iff_of_false id (by decide)

/-- Each index at which a NUL was stored lies in the array. -/
def LineBuffer.Inside (b : LineBuffer) : Prop := ∀ i ∈ b.stores, 0 ≤ i ∧ i ≤ 1023

theorem inside_iff_fits {α : Type} {e : Endpoint α} (he : e.StoresLengths) {s t : α}
    {tr : List (α × Call)} (hs : (e.recvline s).stores = []) (r : Run e.step s tr t) :
    (e.recvline t).Inside ↔ ∀ u res, (u, Call.recv res) ∈ tr → res.Fits := by
  unfold LineBuffer.Inside
  rw [stores_of_run he r, hs, List.nil_append]
  constructor
  · intro h u res hmem
    exact (fits_iff res).mpr (h res.length (List.mem_filterMap.mpr ⟨_, hmem, rfl⟩))
  · intro h i hi
    obtain ⟨⟨u, c⟩, hmem, hc⟩ := List.mem_filterMap.mp hi
    cases c with
    | send res => cases hc
    | recv res =>
      cases hc
      exact (fits_iff res).mp (h u res hmem)

/-- In every run of either program all indexes are in bounds exactly if each `recv`
left room for the NUL. -/
theorem nul_stores_inside_iff (b : LineBuffer) (hb : b.stores = []) :
    (∀ tr t, Run serverEndpoint.step (Server.accepted b) tr t →
        (t.recvline.Inside ↔ ∀ u res, (u, Call.recv res) ∈ tr → res.Fits)) ∧
      ∀ line tr t, Run clientEndpoint.step (Client.connected b line) tr t →
        (t.recvline.Inside ↔ ∀ u res, (u, Call.recv res) ∈ tr → res.Fits) := by
  refine ⟨?_, ?_⟩
  · intro tr t r
    exact inside_iff_fits server_storesLengths (s := Server.accepted b) hb r
  · intro line tr t r
    exact inside_iff_fits client_storesLengths (s := Client.connected b line) hb r

def hi : Chunk := ⟨['h', 'i'], by decide⟩

def typed : UserLine := ⟨"hi\n".toList, by decide⟩

theorem nul_stores_inside_iff_hi :
    ((Client.connected blankBuffer typed).onRecv (.bytes hi)).recvline.Inside := by
  refine ((nul_stores_inside_iff blankBuffer rfl).2 typed _ _
    (Run.start.next (i := .recv (.bytes hi)) rfl)).mpr ?_
  intro u res hmem
  cases List.mem_singleton.mp hmem
  exact (by decide : 2 ≤ 1023)

def full : Chunk := ⟨List.replicate MAXLINE 'a', by rw [List.length_replicate]; decide⟩

/-- A failed `recv` of the server stores in front of the array, a full `recv` of the
client behind it. -/
theorem failed_or_full_recv_stores_outside :
    (¬ ∀ tr t, Run serverEndpoint.step (Server.accepted blankBuffer) tr t → t.recvline.Inside) ∧
      ¬ ∀ tr t, Run clientEndpoint.step (Client.connected blankBuffer typed) tr t →
        t.recvline.Inside := by
  refine ⟨fun h => ?_, fun h => ?_⟩
  · have hin:=h _ _ ((Run.start.next (i := .send .error) rfl).next (i := .recv .error) rfl)
    exact absurd (hin (-1) (List.mem_singleton.mpr rfl)).1 (by decide)
  · have hin:=h _ _ (Run.start.next (i := .recv (.bytes full)) rfl)
    have hlength : RecvResult.length (.bytes full) = 1024 := by
      rw [RecvResult.length, full, List.length_replicate]
      rfl
    exact absurd (hin 1024 (by rw [← hlength]; exact List.mem_singleton.mpr rfl)).2 (by decide)

end BoardServices.Socket
