import BoardServices.Lib.Strings

/-!
# The programs server and client (server.c:12-75, client.c:13-95)

Each program is the state it keeps between two calls on its socket, and what it
does with the result of such a call. What the calls return is left to whoever
drives the program. A byte is the character of its code, `size_t` has 32 bits.
-/

namespace BoardServices.Socket
open Lib.Strings

def MAXLINE : ℕ := 1024

/-- What a `recv` for `MAXLINE` bytes may deliver. -/
abbrev Chunk := {bytes : List Char // 0 < bytes.length ∧ bytes.length ≤ MAXLINE}

inductive RecvResult where
  | bytes (c : Chunk)
  | eof
  | error

inductive SendResult where
  | accepted (n : ℕ)
  | error

structure SendCall where
  buffer : List Char
  length : ℕ

def SendCall.whole (c : SendCall) : List Char := c.buffer.take c.length

def sizeT (length : ℤ) : ℕ := (length % 2 ^ 32).toNat

/-! ### The receive buffer -/

/-- `char recvline[MAXLINE]`, with the indexes at which a NUL was stored. -/
structure LineBuffer where
  data : List Char
  size : data.length = MAXLINE
  stores : List ℤ

def blankBuffer : LineBuffer := ⟨List.replicate MAXLINE '\x00', by rw [List.length_replicate], []⟩

def LineBuffer.recv (b : LineBuffer) : RecvResult → ℤ × LineBuffer
  | .bytes c =>
    (c.val.length, ⟨c.val ++ b.data.drop c.val.length, by
      have hc:=c.property
      have hb:=b.size
      simp only [List.length_append, List.length_drop]
      omega, b.stores⟩)
  | .eof => (0, b)
  | .error => (-1, b)

/-- `recvline[length] = '\0'`; a store outside of the array is recorded and
leaves the array alone. -/
def LineBuffer.terminate (b : LineBuffer) (length : ℤ) : LineBuffer :=
  ⟨if 0 ≤ length then b.data.set length.toNat '\x00' else b.data, by
    have hb:=b.size
    split
    · rw [List.length_set, hb]
    · exact hb, b.stores ++ [length]⟩

theorem terminate_data (b : LineBuffer) (n : ℕ) :
    (b.terminate n).data = b.data.set n '\x00' := by
  have hpos : (0 : ℤ) ≤ (n : ℤ) := Int.natCast_nonneg n
  simp [LineBuffer.terminate, hpos]

theorem terminate_recv_bytes (b : LineBuffer) (c : Chunk) :
    ((b.recv (.bytes c)).2.terminate (b.recv (.bytes c)).1).data.take c.val.length = c.val := by
  have hdata:=terminate_data (b.recv (.bytes c)).2 c.val.length
  rw [show (b.recv (.bytes c)).1 = (c.val.length : ℤ) from rfl, hdata,
    List.take_set_of_le (Nat.le_refl _)]
  exact List.take_left

theorem sizeT_chunk (c : Chunk) : sizeT c.val.length = c.val.length := by
  have hc:=c.property.2
  unfold sizeT MAXLINE at *
  omega

/-! ### The server -/

inductive ServerPc where
  | sendWelcome
  | recv
  | sendBack (length : ℤ)
  | returned
  deriving DecidableEq, Repr

structure Server where
  pc : ServerPc
  recvline : LineBuffer

def welcome : CString := "Welcome to server!\n".toList

def Server.accepted (recvline : LineBuffer) : Server := ⟨.sendWelcome, recvline⟩

/-- The `send` the server is at. What it sends back has the length `recv`
returned, whatever that was. -/
def Server.sendCall (s : Server) : Option SendCall :=
  match s.pc with
  | .sendWelcome => some ⟨welcome, welcome.length⟩
  | .sendBack length => some ⟨s.recvline.data, sizeT length⟩
  | _ => none

/-- A failed welcome is not noticed, any other failed `send` ends the program. -/
def Server.onSend (s : Server) (r : SendResult) : Server :=
  match s.pc, r with
  | .sendWelcome, _ => { s with pc := .recv }
  | .sendBack _, .accepted _ => { s with pc := .recv }
  | .sendBack _, .error => { s with pc := .returned }
  | _, _ => s

def Server.onRecv (s : Server) (r : RecvResult) : Server :=
  match s.pc with
  | .recv =>
    let got := s.recvline.recv r
    ⟨.sendBack got.1, got.2.terminate got.1⟩
  | _ => s

/-! ### The client -/

inductive ClientPc where
  | recvWelcome
  | sendLine
  | recvLine
  | sendCount
  | recvCount
  | exited
  deriving DecidableEq, Repr

/-- What `fgets(sendline, 1024, stdin)` leaves in `sendline`. -/
structure UserLine where
  text : List Char
  fits : text.length < MAXLINE

structure Client where
  pc : ClientPc
  recvline : LineBuffer
  line : UserLine
  count : BitVec 32

def Client.connected (recvline : LineBuffer) (line : UserLine) : Client :=
  ⟨.recvWelcome, recvline, line, 0⟩

/-- `sprintf(sendline, "count=%d\n", count)`: an `unsigned int` printed as an
`int`. -/
def countMessage (count : BitVec 32) : CString :=
  "count=".toList ++ formatInt count.toInt ++ ['\n']

def Client.sendline (c : Client) : CString :=
  match c.pc with
  | .recvWelcome | .sendLine | .recvLine => cstr c.line.text
  | _ => countMessage c.count

def Client.sendCall (c : Client) : Option SendCall :=
  match c.pc with
  | .sendLine | .sendCount => some ⟨c.sendline, c.sendline.length⟩
  | _ => none

def Client.onSend (c : Client) (r : SendResult) : Client :=
  match c.pc, r with
  | .sendLine, .accepted _ => { c with pc := .recvLine }
  | .sendCount, .accepted _ => { c with pc := .recvCount }
  | .sendLine, .error | .sendCount, .error => { c with pc := .exited }
  | _, _ => c

/-- What `recv` returns is stored and printed; it does not change what happens
next. -/
def Client.onRecv (c : Client) (r : RecvResult) : Client :=
  let got := c.recvline.recv r
  let recvline := got.2.terminate got.1
  match c.pc with
  | .recvWelcome => { c with pc := .sendLine, recvline }
  | .recvLine => { c with pc := .sendCount, recvline }
  | .recvCount => { c with pc := .sendCount, recvline, count := c.count + 1 }
  | _ => c

def Client.Receiving (c : Client) : Prop :=
  c.pc = .recvWelcome ∨ c.pc = .recvLine ∨ c.pc = .recvCount

instance (c : Client) : Decidable c.Receiving := inferInstanceAs (Decidable (_ ∨ _))

def Client.awaited (c : Client) : CString :=
  match c.pc with
  | .recvWelcome => welcome
  | _ => c.sendline

theorem countMessage_ne_nil (count : BitVec 32) : countMessage count ≠ [] :=
  List.append_ne_nil_of_right_ne_nil _ (List.cons_ne_nil _ _)

end BoardServices.Socket
