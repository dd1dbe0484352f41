import BoardServices.Vsftpd.Ascii

/-!
# File transfers (vsftpd-3.0.3/ftpdataio.c)

The loops of `do_file_recv` and `do_file_send_rwloop`. A read gives some bytes,
nothing at the end of the data, or an error; a write may fall short or fail.
-/

namespace BoardServices.Vsftpd
open Lib

def vsftpDataBufsize : ℕ := 65536

def getChunkSize (transChunkSize : ℕ) : ℕ :=
  if transChunkSize < vsftpDataBufsize ∧ transChunkSize > 0 then
    if transChunkSize < 4096 then 4096 else transChunkSize
  else vsftpDataBufsize

theorem getChunkSize_le (n : ℕ) : getChunkSize n ≤ vsftpDataBufsize := by
  unfold getChunkSize vsftpDataBufsize
  split
  · split <;> omega
  · exact le_refl _

/-- One turn of a loop: what the read gives, and how the write ends. -/
structure Io where
  read : Option (List UInt8)
  missing : ℕ
  error : Bool

/-- A turn without failures. -/
def Io.full (data : List UInt8) : Io := ⟨some data, 0, false⟩

def Io.moved (io : Io) (size : ℕ) : ℕ := size - io.missing

def Io.complete (io : Io) (size : ℕ) : Prop := io.error = false ∧ io.moved size = size

instance (io : Io) (size : ℕ) : Decidable (io.complete size) :=
  inferInstanceAs (Decidable (_ ∧ _))

structure TransferRet where
  retval : ℤ
  transferred : ℕ
deriving DecidableEq, Repr

structure Transfer where
  buf : ℕ → UInt8
  prevCr : Bool
  transferred : ℕ
  /-- What has been written on the other side. -/
  output : List UInt8
  /-- What has been read. -/
  taken : List UInt8

def transferStart (buf : ℕ → UInt8) : Transfer := ⟨buf, false, 0, [], []⟩

/-- A read into `p_recvbuf + 1`. -/
def fill (buf : ℕ → UInt8) (data : List UInt8) (p : ℕ) : UInt8 :=
  if p = 0 then buf 0 else data.getD (p - 1) (buf p)

def recvBlock (isAscii : Bool) (t : Transfer) (data : List UInt8) : Transfer × List UInt8 :=
  let buf := fill t.buf data
  let t := { t with transferred := t.transferred + data.length, taken := t.taken ++ data }
  if isAscii then
    let ret := vsfAsciiAsciiToBin buf data.length t.prevCr
    ({ t with buf := ret.buf, prevCr := ret.lastWasCr }, bytesAt ret.buf ret.start ret.stored)
  else ({ t with buf := buf }, bytesAt buf 1 data.length)

def doFileRecv (isAscii : Bool) : List Io → Transfer → Transfer × Option TransferRet
  | [], t => (t, none)
  | io :: ios, t =>
    match io.read with
    | none => (t, some ⟨-2, t.transferred⟩)
    | some data =>
      if data = [] ∧ ¬ t.prevCr then (t, some ⟨0, t.transferred⟩)
      else
        let (t, out) := recvBlock isAscii t data
        let t := { t with output := t.output ++ out.take (io.moved out.length) }
        if io.complete out.length then doFileRecv isAscii ios t
        else (t, some ⟨-1, t.transferred⟩)

def doFileSendRwloop (isAscii : Bool) : List Io → Transfer → Transfer × Option TransferRet
  | [], t => (t, none)
  | io :: ios, t =>
    match io.read with
    | none => (t, some ⟨-1, t.transferred⟩)
    | some data =>
      if data = [] then (t, some ⟨0, t.transferred⟩)
      else
        let (out, prevCr) := if isAscii then vsfAsciiBinToAscii data t.prevCr else (data, t.prevCr)
        let retval := io.moved out.length
        let t := { t with
          prevCr := prevCr
          taken := t.taken ++ data
          output := t.output ++ out.take retval
          transferred := if io.error then t.transferred else t.transferred + retval }
        if io.complete out.length then doFileSendRwloop isAscii ios t
        else (t, some ⟨-2, t.transferred⟩)

/-! ### The blocks of a transfer -/

def plainBlocks : Streaming Bool UInt8 UInt8 where
  whole _ xs := xs
  block s xs := (xs, s)
  whole_append _ _ _ _ := rfl
  whole_nil _ := rfl

def recvBlocks (isAscii : Bool) : Streaming Bool UInt8 UInt8 :=
  if isAscii then toBinBlocks else plainBlocks

def sendBlocks (isAscii : Bool) : Streaming Bool UInt8 UInt8 :=
  if isAscii then toAsciiBlocks else plainBlocks

theorem recvBlocks_end (isAscii : Bool) : (recvBlocks isAscii).whole false [] = [] := by
  cases isAscii <;> rfl

theorem sendBlocks_end (isAscii prevCr : Bool) : (sendBlocks isAscii).whole prevCr [] = [] := by
  cases isAscii <;> rfl

theorem bytesAt_getD (buf : ℕ → UInt8) (data : List UInt8) (p : ℕ)
    (h : ∀ j, j < data.length → buf (p + j) = data.getD j 0) : bytesAt buf p data.length = data := by
  induction data generalizing p with
  | nil => rfl
  | cons c data ih =>
    rw [List.length_cons, bytesAt]
    have hc : buf p = c := h 0 (Nat.succ_pos _)
    rw [hc, ih (p + 1) fun j hj => ?_]
    have hj':=h (j + 1) (Nat.succ_lt_succ hj)
    rw [Nat.add_right_comm, Nat.add_assoc]
    exact hj'

theorem bytesAt_fill (buf : ℕ → UInt8) (data : List UInt8) :
    bytesAt (fill buf data) 1 data.length = data := by
  refine bytesAt_getD _ _ _ fun j hj => ?_
  rw [fill, if_neg (by omega), Nat.add_sub_cancel_left]
  simp [hj]

theorem recvBlock_ok (isAscii : Bool) (t : Transfer) (data : List UInt8) :
    let r := recvBlock isAscii t data
    r.2 = ((recvBlocks isAscii).block t.prevCr data).1 ∧
      r.1.prevCr = ((recvBlocks isAscii).block t.prevCr data).2 ∧
      r.1.taken = t.taken ++ data ∧ r.1.output = t.output ∧
      r.1.transferred = t.transferred + data.length := by
  have hfill:=bytesAt_fill t.buf data
  cases isAscii with
  | false => exact ⟨hfill, rfl, rfl, rfl, rfl⟩
  | true =>
    obtain ⟨hout, hflag, _, _⟩ := vsfAsciiAsciiToBin_ok t.prevCr hfill
    exact ⟨hout, hflag, rfl, rfl, rfl⟩

/-! ### Receiving -/

/-- A connection that has ended gives no data any more. -/
def EofLasts : List Io → Prop
  | [] => True
  | io :: ios =>
    (io.read = some [] → ∀ j ∈ ios, ∀ data, j.read = some data → data = []) ∧ EofLasts ios

theorem take_moved {io : Io} {out : List UInt8} (h : io.complete out.length) :
    out.take (io.moved out.length) = out := by
  rw [h.2, List.take_length]

/-- All that the reads give. -/
def gave (ios : List Io) : List UInt8 := (ios.filterMap Io.read).flatten

theorem gave_cons {io : Io} {data : List UInt8} (h : io.read = some data) (ios : List Io) :
    gave (io :: ios) = data ++ gave ios := by
  simp [gave, h]

theorem gave_eq_nil {ios : List Io} (h : ∀ j ∈ ios, ∀ data, j.read = some data → data = []) :
    gave ios = [] := by
  rw [gave, List.flatten_eq_nil_iff]
  intro data hd
  obtain ⟨j, hj, hr⟩ := List.mem_filterMap.mp hd
  exact h j hj data hr

/-- The file is what the data make so far, less a `\r` that is kept back. -/
def Receiving (isAscii : Bool) (t : Transfer) (ios : List Io) : Prop :=
  t.transferred = t.taken.length ∧
    ((recvBlocks isAscii).Covers false t.taken t.output t.prevCr ∨
      (recvBlocks isAscii).Ends false t.taken t.output t.prevCr ∧
        ∀ j ∈ ios, ∀ data, j.read = some data → data = [])

/-- Whatever is still to come, the file is the beginning of its conversion. -/
theorem Receiving.out_le {isAscii : Bool} {t : Transfer} {ios : List Io}
    (h : Receiving isAscii t ios) :
    t.output <+: (recvBlocks isAscii).whole false (t.taken ++ gave ios) := by
  rcases h.2 with hc | ⟨he, hempty⟩
  · exact ⟨_, (hc (gave ios)).symm⟩
  · rw [gave_eq_nil hempty, List.append_nil]
    exact Streaming.Ends.out_le he

/-- One turn: the block has been written in full. -/
theorem Receiving.block {isAscii : Bool} {t : Transfer} {io : Io} {ios : List Io}
    {data : List UInt8} (h : Receiving isAscii t (io :: ios)) (hr : io.read = some data)
    (hend : EofLasts (io :: ios)) :
    Receiving isAscii { (recvBlock isAscii t data).1 with
      output := t.output ++ (recvBlock isAscii t data).2 } ios := by
  obtain ⟨hout, hflag, htaken, _, htr⟩ := recvBlock_ok isAscii t data
  obtain ⟨hlen, hc⟩ := h
  refine ⟨?_, ?_⟩
  · change (recvBlock isAscii t data).1.transferred = (recvBlock isAscii t data).1.taken.length
    rw [htr, htaken, hlen, List.length_append]
  · simp only [htaken, hout, hflag]
    by_cases hd : data = []
    · subst hd
      have he : (recvBlocks isAscii).Ends false t.taken t.output t.prevCr :=
        hc.elim Streaming.Covers.ends And.left
      refine .inr ⟨?_, hend.1 hr⟩
      rw [List.append_nil]
      exact he.flush
    · have hcov:=hc.resolve_right fun hx => hd (hx.2 io (List.mem_cons_self ..) data hr)
      exact .inl (hcov.block hd)

theorem doFileRecv_run (isAscii : Bool) (ios : List Io) (t : Transfer) (hend : EofLasts ios)
    (h : Receiving isAscii t ios) :
    (doFileRecv isAscii ios t).1.output <+:
        (recvBlocks isAscii).whole false (t.taken ++ gave ios) ∧
      ∀ n, (doFileRecv isAscii ios t).2 = some ⟨0, n⟩ →
        (doFileRecv isAscii ios t).1.output =
            (recvBlocks isAscii).whole false (t.taken ++ gave ios) ∧
          n = (t.taken ++ gave ios).length := by
  induction ios generalizing t with
  | nil => exact ⟨h.out_le, fun n hn => by cases hn⟩
  | cons io ios ih =>
    cases hr : io.read with
    | none =>
      simp only [doFileRecv, hr]
      exact ⟨h.out_le, fun n hn => by simp at hn⟩
    | some data =>
      simp only [doFileRecv, hr]
      by_cases hdone : data = [] ∧ ¬ t.prevCr
      · -- the end of the data, nothing kept back
        rw [if_pos hdone]
        refine ⟨h.out_le, fun n hn => ?_⟩
        have hgave : gave (io :: ios) = [] := by
          rw [gave_cons hr, hdone.1, gave_eq_nil (hend.1 (by rw [hr, hdone.1]))]
          rfl
        have he : (recvBlocks isAscii).Ends false t.taken t.output t.prevCr :=
          h.2.elim Streaming.Covers.ends And.left
        have hcr : t.prevCr = false := by simpa using hdone.2
        unfold Streaming.Ends at he
        rw [hcr, recvBlocks_end, List.append_nil] at he
        simp only [Option.some.injEq, TransferRet.mk.injEq, true_and] at hn
        rw [hgave, List.append_nil, he, ← hn, h.1]
        exact ⟨rfl, rfl⟩
      · rw [if_neg hdone, gave_cons hr, ← List.append_assoc]
        have hnext:=h.block hr hend
        obtain ⟨_, _, htaken, hsame, _⟩ := recvBlock_ok isAscii t data
        by_cases hfull : io.complete (recvBlock isAscii t data).2.length
        · rw [if_pos hfull, take_moved hfull, hsame, ← htaken]
          exact ih _ hend.2 hnext
        · rw [if_neg hfull, hsame]
          refine ⟨?_, fun n hn => by simp at hn⟩
          have hpre : t.output ++ (recvBlock isAscii t data).2.take
              (io.moved (recvBlock isAscii t data).2.length) <+:
              t.output ++ (recvBlock isAscii t data).2 :=
            (List.prefix_append_right_inj _).mpr (List.take_prefix _ _)
          rw [← htaken]
          exact hpre.trans hnext.out_le

def convertIn (isAscii : Bool) (xs : List UInt8) : List UInt8 := if isAscii then toBin xs else xs

def convertOut (isAscii : Bool) (xs : List UInt8) : List UInt8 :=
  if isAscii then toAscii false xs else xs

theorem recvBlocks_whole (isAscii : Bool) (xs : List UInt8) :
    (recvBlocks isAscii).whole false xs = convertIn isAscii xs := by
  cases isAscii <;> rfl

theorem sendBlocks_whole (isAscii : Bool) (xs : List UInt8) :
    (sendBlocks isAscii).whole false xs = convertOut isAscii xs := by
  cases isAscii <;> rfl

/-- However the data are cut into reads and wherever a read or a write fails,
the file holds the beginning of the conversion of what was sent; after a
transfer that reports success it holds all of it. -/
theorem doFileRecv_converts (isAscii : Bool) (buf : ℕ → UInt8) (ios : List Io)
    (hend : EofLasts ios) :
    (doFileRecv isAscii ios (transferStart buf)).1.output <+: convertIn isAscii (gave ios) ∧
      ∀ n, (doFileRecv isAscii ios (transferStart buf)).2 = some ⟨0, n⟩ →
        (doFileRecv isAscii ios (transferStart buf)).1.output = convertIn isAscii (gave ios) ∧
          n = (gave ios).length := by
  have hrun:=doFileRecv_run isAscii ios (transferStart buf) hend
    ⟨rfl, .inl Streaming.covers_start⟩
  rw [recvBlocks_whole] at hrun
  exact hrun

/-- `a\r` and then `\nb`, where the second write falls one byte short. -/
def shortWrite : List Io := [⟨some [97, 13], 0, false⟩, ⟨some [10, 98], 1, false⟩]

/-- The same with whole writes, up to the end of the file. -/
def wholeWrites : List Io := [Io.full [97, 13], Io.full [10, 98], Io.full []]

theorem doFileRecv_converts_shortWrite :
    (doFileRecv true shortWrite (transferStart fun _ => 0)).1.output <+: [97, 10, 98] ∧
      (doFileRecv true shortWrite (transferStart fun _ => 0)).2 = some ⟨-1, 4⟩ ∧
      (doFileRecv true wholeWrites (transferStart fun _ => 0)).1.output = [97, 10, 98] := by
  refine ⟨(doFileRecv_converts true (fun _ => 0) shortWrite
    ⟨fun h => by simp at h, fun h => by simp at h, trivial⟩).1, rfl, ?_⟩
  have hends : (doFileRecv true wholeWrites (transferStart fun _ => 0)).2 = some ⟨0, 4⟩ := rfl
  have heof : EofLasts wholeWrites :=
    ⟨fun h => (by cases h), fun h => (by cases h), fun _ _ hj => absurd hj List.not_mem_nil, trivial⟩
  exact ((doFileRecv_converts true (fun _ => 0) wholeWrites heof).2 4 hends).1

/-! ### Sending -/

def untilEof (ios : List Io) : List Io := ios.takeWhile fun io => io.read ≠ some []

theorem doFileSend_run (isAscii : Bool) (ios : List Io) (t : Transfer)
    (ht : t.transferred = t.output.length)
    (hc : (sendBlocks isAscii).Covers false t.taken t.output t.prevCr) :
    (doFileSendRwloop isAscii ios t).1.output <+:
        (sendBlocks isAscii).whole false (t.taken ++ gave (untilEof ios)) ∧
      ∀ n, (doFileSendRwloop isAscii ios t).2 = some ⟨0, n⟩ →
        (doFileSendRwloop isAscii ios t).1.output =
            (sendBlocks isAscii).whole false (t.taken ++ gave (untilEof ios)) ∧
          n = (doFileSendRwloop isAscii ios t).1.output.length := by
  induction ios generalizing t with
  | nil => exact ⟨⟨_, (hc []).symm⟩, fun n hn => by cases hn⟩
  | cons io ios ih =>
    cases hr : io.read with
    | none =>
      simp only [doFileSendRwloop, hr]
      exact ⟨⟨_, (hc _).symm⟩, fun n hn => by simp at hn⟩
    | some data =>
      simp only [doFileSendRwloop, hr]
      by_cases hd : data = []
      · have hgave : gave (untilEof (io :: ios)) = [] := by
          rw [untilEof, List.takeWhile_cons_of_neg (by simp [hr, hd])]
          rfl
        rw [if_pos hd, hgave]
        have he:=hc []
        rw [sendBlocks_end, List.append_nil, List.append_nil] at he
        rw [List.append_nil]
        refine ⟨by rw [he], fun n hn => ?_⟩
        simp only [Option.some.injEq, TransferRet.mk.injEq, true_and] at hn
        exact ⟨he.symm, by rw [← hn, ht]⟩
      · have hgave : gave (untilEof (io :: ios)) = data ++ gave (untilEof ios) := by
          rw [untilEof, List.takeWhile_cons_of_pos (by simp [hr, hd]), gave_cons hr]
          rfl
        have hblock : (if isAscii then vsfAsciiBinToAscii data t.prevCr else (data, t.prevCr)) =
            (sendBlocks isAscii).block t.prevCr data := by
          cases isAscii <;> rfl
        have hcov:=hc.block hd
        rw [if_neg hd, hgave, hblock, ← List.append_assoc]
        by_cases hfull : io.complete ((sendBlocks isAscii).block t.prevCr data).1.length
        · rw [if_pos hfull, take_moved hfull]
          refine ih _ ?_ hcov
          simp only [hfull.1, hfull.2, Bool.false_eq_true, if_false, ht, List.length_append]
        · rw [if_neg hfull]
          refine ⟨?_, fun n hn => by simp at hn⟩
          have hpre : t.output ++ ((sendBlocks isAscii).block t.prevCr data).1.take
              (io.moved ((sendBlocks isAscii).block t.prevCr data).1.length) <+:
              t.output ++ ((sendBlocks isAscii).block t.prevCr data).1 :=
            (List.prefix_append_right_inj _).mpr (List.take_prefix _ _)
          exact hpre.trans ⟨_, (hcov _).symm⟩

theorem doFileSend_converts (isAscii : Bool) (buf : ℕ → UInt8) (ios : List Io) :
    (doFileSendRwloop isAscii ios (transferStart buf)).1.output <+:
        convertOut isAscii (gave (untilEof ios)) ∧
      ∀ n, (doFileSendRwloop isAscii ios (transferStart buf)).2 = some ⟨0, n⟩ →
        (doFileSendRwloop isAscii ios (transferStart buf)).1.output =
            convertOut isAscii (gave (untilEof ios)) ∧
          n = (convertOut isAscii (gave (untilEof ios))).length := by
  obtain ⟨hpre, hok⟩ := doFileSend_run isAscii ios (transferStart buf) rfl Streaming.covers_start
  rw [sendBlocks_whole] at hpre hok
  refine ⟨hpre, fun n hn => ?_⟩
  obtain ⟨hout, hlen⟩ := hok n hn
  exact ⟨hout, by rw [hlen, hout]; rfl⟩

/-! ### Transfers without failures -/

/-- Both loops end by themselves where nothing fails. -/
theorem doFileSend_completes (isAscii : Bool) (blocks : List (List UInt8)) (t : Transfer) :
    ∃ n, (doFileSendRwloop isAscii (blocks.map Io.full ++ [Io.full []]) t).2 = some ⟨0, n⟩ := by
  induction blocks generalizing t with
  | nil => exact ⟨t.transferred, rfl⟩
  | cons data blocks ih =>
    have hcomplete : ∀ size, (Io.full data).complete size := fun size => ⟨rfl, Nat.sub_zero _⟩
    simp only [List.map_cons, List.cons_append, doFileSendRwloop]
    have hread : (Io.full data).read = some data := rfl
    simp only [hread]
    by_cases hd : data = []
    · exact ⟨t.transferred, by rw [if_pos hd]⟩
    · rw [if_neg hd, if_pos (hcomplete _)]
      exact ih _

/-- A `\r` kept back is written in a turn of its own, so the end is read twice. -/
theorem doFileRecv_completes (isAscii : Bool) (blocks : List (List UInt8)) (t : Transfer)
    (ht : isAscii = false → t.prevCr = false) :
    ∃ n, (doFileRecv isAscii (blocks.map Io.full ++ [Io.full [], Io.full []]) t).2 =
      some ⟨0, n⟩ := by
  have hcomplete : ∀ data size, (Io.full data).complete size := fun _ _ => ⟨rfl, Nat.sub_zero _⟩
  have hread : ∀ data, (Io.full data).read = some data := fun _ => rfl
  have hflag : ∀ t data, (isAscii = false → t.prevCr = false) → isAscii = false →
      (recvBlock isAscii t data).1.prevCr = false := by
    rintro t data ht rfl
    exact ht rfl
  induction blocks generalizing t with
  | nil =>
    simp only [List.map_nil, List.nil_append, doFileRecv, hread]
    by_cases hcr : t.prevCr = true
    · have hgone : (recvBlock isAscii t []).1.prevCr = false := by
        obtain ⟨_, hf, _⟩ := recvBlock_ok isAscii t []
        cases isAscii with
        | false => exact hflag t [] ht rfl
        | true => exact hf
      rw [if_neg (by simp [hcr]), if_pos (hcomplete _ _), if_pos (by simp [hgone])]
      exact ⟨_, rfl⟩
    · rw [if_pos (by simpa using hcr)]
      exact ⟨_, rfl⟩
  | cons data blocks ih =>
    simp only [List.map_cons, List.cons_append, doFileRecv, hread]
    by_cases hdone : data = [] ∧ ¬ t.prevCr
    · exact ⟨t.transferred, by rw [if_pos hdone]⟩
    · rw [if_neg hdone, if_pos (hcomplete _ _)]
      exact ih _ (hflag t data ht)

theorem gave_full (blocks : List (List UInt8)) : gave (blocks.map Io.full) = blocks.flatten := by
  rw [gave, List.filterMap_map]
  exact congrArg List.flatten (List.filterMap_some)

theorem eofLasts_full {blocks : List (List UInt8)} (hb : [] ∉ blocks) :
    EofLasts (blocks.map Io.full ++ [Io.full [], Io.full []]) := by
  induction blocks with
  | nil =>
    refine ⟨fun _ j hj data hr => ?_, fun _ j hj => absurd hj List.not_mem_nil, trivial⟩
    rw [List.mem_singleton.mp hj] at hr
    exact (Option.some.inj hr).symm
  | cons data blocks ih =>
    rw [List.mem_cons, not_or] at hb
    refine ⟨fun he => absurd (Option.some.inj he).symm hb.1, ih hb.2⟩

theorem untilEof_full {blocks : List (List UInt8)} (hb : [] ∉ blocks) (ios : List Io) :
    untilEof (blocks.map Io.full ++ Io.full [] :: ios) = blocks.map Io.full := by
  induction blocks with
  | nil => rfl
  | cons data blocks ih =>
    rw [List.mem_cons, not_or] at hb
    have hd : (Io.full data).read ≠ some [] := fun he => hb.1 (Option.some.inj he).symm
    have htail:=ih hb.2
    rw [untilEof] at htail ⊢
    rw [List.map_cons, List.cons_append, List.takeWhile_cons_of_pos (by simpa using hd), htail]

theorem convertIn_convertOut (isAscii : Bool) (xs : List UInt8) :
    convertIn isAscii (convertOut isAscii xs) = convertIn isAscii xs := by
  cases isAscii with
  | false => rfl
  | true => exact toBin_toAscii xs false

theorem convertIn_eq_self_iff (isAscii : Bool) (xs : List UInt8) :
    convertIn isAscii xs = xs ↔ (isAscii = true → ¬ [cr, lf] <:+: xs) := by
  cases isAscii with
  | false => simp [convertIn]
  | true => simpa [convertIn] using toBin_eq_self_iff xs

/-- A file that is sent and stored again, each way in blocks of its own. In
ASCII mode it is the same file if and only if it has no `\r\n` of its own. -/
theorem transfer_round_trip (isAscii : Bool) (buf buf' : ℕ → UInt8)
    (fileBlocks netBlocks : List (List UInt8)) (hf : [] ∉ fileBlocks) (hn : [] ∉ netBlocks)
    (hnet : netBlocks.flatten = (doFileSendRwloop isAscii (fileBlocks.map Io.full ++ [Io.full []])
      (transferStart buf)).1.output) :
    let r := doFileRecv isAscii (netBlocks.map Io.full ++ [Io.full [], Io.full []])
      (transferStart buf')
    r.2 = some ⟨0, (convertOut isAscii fileBlocks.flatten).length⟩ ∧
      (r.1.output = fileBlocks.flatten ↔ (isAscii = true → ¬ [cr, lf] <:+: fileBlocks.flatten)) := by
  -- what goes over the network
  have hsent : netBlocks.flatten = convertOut isAscii fileBlocks.flatten := by
    obtain ⟨n, hret⟩ := doFileSend_completes isAscii fileBlocks (transferStart buf)
    have hrun:=((doFileSend_run isAscii _ (transferStart buf) rfl Streaming.covers_start).2 n hret).1
    rw [untilEof_full hf, gave_full, sendBlocks_whole] at hrun
    exact hnet.trans hrun
  have hgave : gave (netBlocks.map Io.full ++ [Io.full [], Io.full []]) = netBlocks.flatten := by
    rw [gave, List.filterMap_append, List.flatten_append]
    exact (List.append_nil _).trans (gave_full netBlocks)
  obtain ⟨n, hret⟩ := doFileRecv_completes isAscii netBlocks (transferStart buf') fun _ => rfl
  obtain ⟨hout, hlen⟩ := (doFileRecv_run isAscii _ (transferStart buf') (eofLasts_full hn)
    ⟨rfl, .inl Streaming.covers_start⟩).2 n hret
  intro r
  have htaken : (transferStart buf').taken ++ gave (netBlocks.map Io.full ++
      [Io.full [], Io.full []]) = convertOut isAscii fileBlocks.flatten := by
    rw [hgave, hsent]
    rfl
  rw [htaken] at hout hlen
  rw [recvBlocks_whole, convertIn_convertOut] at hout
  refine ⟨?_, ?_⟩
  · change (doFileRecv isAscii _ (transferStart buf')).2 = _
    rw [hret, hlen]
  · change (doFileRecv isAscii _ (transferStart buf')).1.output = _ ↔ _
    rw [hout]
    exact convertIn_eq_self_iff isAscii _

theorem transfer_round_trip_lines :
    (doFileRecv true ([[97, 13], [10], [98]].map Io.full ++ [Io.full [], Io.full []])
      (transferStart fun _ => 0)).1.output = [97, 10, 98] :=
  ((transfer_round_trip true (fun _ => 0) (fun _ => 0) [[97], [10, 98]] [[97, 13], [10], [98]]
    (by decide) (by decide) rfl).2.mpr fun _ h => by
      have hin : cr ∈ [97, 10, 98] := h.subset (List.mem_cons_self ..)
      revert hin
      decide)

/-! ### The buffers -/

theorem fill_above (buf : ℕ → UInt8) {data : List UInt8} {p : ℕ} (hp : data.length < p) :
    fill buf data p = buf p := by
  have hp0 : ¬ p = 0 := by omega
  rw [fill, if_neg hp0, List.getD_eq_getElem?_getD, List.getElem?_eq_none (by omega)]
  rfl

theorem recvBlock_above (isAscii : Bool) (t : Transfer) {data : List UInt8} {p : ℕ}
    (hp : data.length < p) : (recvBlock isAscii t data).1.buf p = t.buf p := by
  cases isAscii with
  | false => exact fill_above t.buf hp
  | true =>
    obtain ⟨_, _, habove, _⟩ := vsfAsciiAsciiToBin_ok t.prevCr (bytesAt_fill t.buf data)
    exact (habove p hp).trans (fill_above t.buf hp)

theorem doFileRecv_above (isAscii : Bool) {n : ℕ} (ios : List Io) (t : Transfer)
    (hsize : ∀ io ∈ ios, ∀ data, io.read = some data → data.length ≤ n) {p : ℕ} (hp : n < p) :
    (doFileRecv isAscii ios t).1.buf p = t.buf p := by
  induction ios generalizing t with
  | nil => rfl
  | cons io ios ih =>
    cases hr : io.read with
    | none => simp only [doFileRecv, hr]
    | some data =>
      simp only [doFileRecv, hr]
      have hd : data.length < p := by
        have hle:=hsize io (List.mem_cons_self ..) data hr
        omega
      split
      · rfl
      · split
        · rw [ih _ fun j hj => hsize j (List.mem_cons_of_mem _ hj)]
          exact recvBlock_above isAscii t hd
        · exact recvBlock_above isAscii t hd

/-- A transfer that reads no more than its chunk size never writes behind the
receive buffer, and a block it sends never leaves the ASCII buffer. -/
theorem transfer_stays_in_buffers (transChunkSize : ℕ) (isAscii : Bool) (ios : List Io)
    (t : Transfer)
    (hsize : ∀ io ∈ ios, ∀ data, io.read = some data →
      data.length ≤ getChunkSize transChunkSize) :
    (∀ p, vsftpDataBufsize + 1 ≤ p → (doFileRecv isAscii ios t).1.buf p = t.buf p) ∧
      ∀ io ∈ ios, ∀ data prevCr, io.read = some data →
        (vsfAsciiBinToAscii data prevCr).1.length ≤ vsftpDataBufsize * 2 := by
  have hchunk:=getChunkSize_le transChunkSize
  constructor
  · intro p hp
    exact doFileRecv_above isAscii ios t hsize (by omega)
  · intro io hio data prevCr hr
    have hle:=hsize io hio data hr
    have hout:=length_toAscii_le data prevCr
    rw [vsfAsciiBinToAscii_out]
    omega

theorem transfer_stays_in_buffers_shortWrite :
    (doFileRecv true shortWrite (transferStart fun _ => 7)).1.buf 65537 = 7 :=
  (transfer_stays_in_buffers 4096 true shortWrite (transferStart fun _ => 7)
    (by
      intro io hio data hr
      have hlen : ∀ io ∈ shortWrite, (io.read.getD []).length ≤ getChunkSize 4096 := by decide
      have hle:=hlen io hio
      rwa [hr] at hle)).1 65537 (le_refl _)

end BoardServices.Vsftpd
