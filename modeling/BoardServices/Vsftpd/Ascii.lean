import BoardServices.Lib.Streaming
import Mathlib.Logic.Function.Basic

/-!
# Line ends in ASCII mode (vsftpd-3.0.3/ascii.c)

Towards the client `\n` becomes `\r\n` unless a `\r` stands before it; from the
client `\r\n` becomes `\n`. `vsf_ascii_ascii_to_bin` works in the buffer it
reads, one place of which is kept free in front for a `\r` of the block before.
-/

namespace BoardServices.Vsftpd
open Lib

def cr : UInt8 := 13
def lf : UInt8 := 10

/-! ### The conversions of a whole file -/

def toBin : List UInt8 → List UInt8
  | [] => []
  | c :: rest => if c = cr ∧ rest.head? = some lf then toBin rest else c :: toBin rest

def toAscii (prevCr : Bool) : List UInt8 → List UInt8
  | [] => []
  | c :: rest =>
    if c = lf ∧ ¬ prevCr then cr :: lf :: toAscii false rest else c :: toAscii (c = cr) rest

theorem lf_ne_cr : lf ≠ cr := by decide

theorem toBin_lf (rest : List UInt8) : toBin (lf :: rest) = lf :: toBin rest := by
  rw [toBin, if_neg fun h => lf_ne_cr h.1]

theorem head?_toAscii_true (xs : List UInt8) : (toAscii true xs).head? = xs.head? := by
  cases xs with
  | nil => rfl
  | cons c rest => simp [toAscii]

/-- What comes back is the file with its own `\r\n` taken for line ends. -/
theorem toBin_toAscii (xs : List UInt8) (prevCr : Bool) : toBin (toAscii prevCr xs) = toBin xs := by
  induction xs generalizing prevCr with
  | nil => rfl
  | cons c rest ih =>
    by_cases hlf : c = lf
    · subst hlf
      rw [toBin_lf]
      cases prevCr with
      | true => simp only [toAscii, lf_ne_cr, and_false, not_true_eq_false, if_false, decide_false,
          toBin_lf, ih]
      | false =>
        have hhead : toBin (cr :: lf :: toAscii false rest) = toBin (lf :: toAscii false rest) := by
          rw [toBin, if_pos ⟨rfl, rfl⟩]
        simp only [toAscii, Bool.false_eq_true, not_false_eq_true, and_self, if_true]
        rw [hhead, toBin_lf, ih]
    · have hstep : toAscii prevCr (c :: rest) = c :: toAscii (c = cr) rest := by
        rw [toAscii, if_neg fun h => hlf h.1]
      rw [hstep]
      by_cases hcr : c = cr
      · subst hcr
        simp only [decide_true, toBin, head?_toAscii_true, ih]
      · simp only [toBin, hcr, false_and, if_false, ih]

theorem length_toBin_le (xs : List UInt8) : (toBin xs).length ≤ xs.length := by
  induction xs with
  | nil => exact le_refl 0
  | cons c rest ih =>
    rw [toBin]
    split
    · exact Nat.le_succ_of_le ih
    · exact Nat.succ_le_succ ih

theorem toBin_eq_self_iff (xs : List UInt8) : toBin xs = xs ↔ ¬ [cr, lf] <:+: xs := by
  induction xs with
  | nil => simp [toBin]
  | cons c rest ih =>
    rw [List.infix_cons_iff]
    by_cases hpair : c = cr ∧ rest.head? = some lf
    · -- the pair stands at the front, and the result is shorter
      have hpre : [cr, lf] <+: c :: rest := by
        obtain ⟨rfl, hh⟩ := hpair
        cases rest with
        | nil => cases hh
        | cons d rest =>
          obtain rfl := Option.some.inj hh
          exact ⟨rest, rfl⟩
      rw [toBin, if_pos hpair]
      refine iff_of_false (fun he => ?_) (fun hn => hn (.inl hpre))
      have hlen:=length_toBin_le rest
      rw [he, List.length_cons] at hlen
      omega
    · have hpre : ¬ [cr, lf] <+: c :: rest := by
        intro hpre
        obtain ⟨t, ht⟩ := hpre
        injection ht with hc ht
        refine hpair ⟨hc.symm, ?_⟩
        rw [← ht]
        rfl
      rw [toBin, if_neg hpair]
      constructor
      · intro he hor
        injection he with _ he
        exact hor.elim hpre (ih.mp he)
      · intro hn
        rw [ih.mpr fun hin => hn (.inr hin)]

theorem length_toAscii_le (xs : List UInt8) (prevCr : Bool) :
    (toAscii prevCr xs).length ≤ 2 * xs.length := by
  induction xs generalizing prevCr with
  | nil => exact le_refl 0
  | cons c rest ih =>
    rw [toAscii]
    split
    · have hl:=ih false
      simp only [List.length_cons]
      omega
    · have hl:=ih (c = cr)
      simp only [List.length_cons]
      omega

/-! ### Towards the client -/

/-- The locals of the loop; `out` is what stands at `p_out` so far. -/
structure BinToAscii where
  out : List UInt8
  lastChar : UInt8
  lastWasCr : Bool

def binToAsciiChar (r : BinToAscii) (theChar : UInt8) : BinToAscii where
  out := (if theChar = lf ∧ r.lastChar ≠ cr then r.out ++ [cr] else r.out) ++ [theChar]
  lastChar := theChar
  lastWasCr := theChar = cr

def vsfAsciiBinToAscii (input : List UInt8) (prevCr : Bool) : List UInt8 × Bool :=
  let r := input.foldl binToAsciiChar ⟨[], if prevCr then cr else 0, prevCr⟩
  (r.out, r.lastWasCr)

theorem foldl_binToAsciiChar (xs : List UInt8) (r : BinToAscii)
    (hr : r.lastWasCr = decide (r.lastChar = cr)) :
    (xs.foldl binToAsciiChar r).out = r.out ++ toAscii r.lastWasCr xs ∧
      ∀ rest, toAscii r.lastWasCr (xs ++ rest) =
        toAscii r.lastWasCr xs ++ toAscii (xs.foldl binToAsciiChar r).lastWasCr rest := by
  induction xs generalizing r with
  | nil => simp [toAscii]
  | cons c xs ih =>
    obtain ⟨hout, hsplit⟩ := ih (binToAsciiChar r c) rfl
    simp only [List.foldl_cons, List.cons_append]
    by_cases hc : c = lf ∧ ¬ r.lastWasCr
    · have hlast : c = lf ∧ r.lastChar ≠ cr := ⟨hc.1, by simpa [hr] using hc.2⟩
      have hflag : (binToAsciiChar r c).lastWasCr = false := by
        simp [binToAsciiChar, hc.1, lf_ne_cr]
      rw [hflag] at hout hsplit
      constructor
      · rw [hout, toAscii, if_pos hc, binToAsciiChar, if_pos hlast, hc.1]
        simp
      · intro rest
        rw [toAscii, if_pos hc, toAscii, if_pos hc, hsplit rest]
        rfl
    · have hlast : ¬ (c = lf ∧ r.lastChar ≠ cr) := by
        rintro ⟨h1, h2⟩
        exact hc ⟨h1, by simpa [hr] using h2⟩
      have hflag : (binToAsciiChar r c).lastWasCr = decide (c = cr) := rfl
      rw [hflag] at hout hsplit
      constructor
      · rw [hout, toAscii, if_neg hc, binToAsciiChar, if_neg hlast]
        simp
      · intro rest
        rw [toAscii, if_neg hc, toAscii, if_neg hc, hsplit rest]
        rfl

theorem vsfAsciiBinToAscii_out (input : List UInt8) (prevCr : Bool) :
    (vsfAsciiBinToAscii input prevCr).1 = toAscii prevCr input := by
  have h:=foldl_binToAsciiChar input ⟨[], if prevCr then cr else 0, prevCr⟩
    (by cases prevCr <;> decide)
  exact h.1

def toAsciiBlocks : Streaming Bool UInt8 UInt8 where
  whole := toAscii
  block prevCr input := vsfAsciiBinToAscii input prevCr
  whole_append prevCr xs rest _ := by
    have h:=foldl_binToAsciiChar xs ⟨[], if prevCr then cr else 0, prevCr⟩
      (by cases prevCr <;> decide)
    rw [vsfAsciiBinToAscii_out]
    exact h.2 rest
  whole_nil _ := rfl

/-! ### From the client -/

/-- The bytes of a buffer from `p` on. -/
def bytesAt (buf : ℕ → UInt8) (p : ℕ) : ℕ → List UInt8
  | 0 => []
  | n + 1 => buf p :: bytesAt buf (p + 1) n

theorem bytesAt_congr {buf buf' : ℕ → UInt8} {p n : ℕ} (h : ∀ q, p ≤ q → buf' q = buf q) :
    bytesAt buf' p n = bytesAt buf p n := by
  induction n generalizing p with
  | zero => rfl
  | succ n ih => rw [bytesAt, bytesAt, h p (le_refl p), ih fun q hq => h q (by omega)]

structure Scan where
  buf : ℕ → UInt8
  out : ℕ
  written : ℕ
  lastWasCr : Bool

def Scan.put (s : Scan) (c : UInt8) : Scan :=
  { s with buf := Function.update s.buf s.out c, out := s.out + 1, written := s.written + 1 }

def asciiToBinChar (inLen : ℕ) (s : Scan) (index : ℕ) : Scan :=
  let theChar := s.buf (index + 1)
  if theChar ≠ cr then s.put theChar
  else if index = inLen - 1 then { s with lastWasCr := true }
  else if s.buf (index + 2) ≠ lf then s.put theChar
  else s

structure AsciiToBinRet where
  buf : ℕ → UInt8
  start : ℕ
  stored : ℕ
  lastWasCr : Bool

/-- The loop, where the result is to start at `start`. -/
def scanBlock (inLen start : ℕ) (first : Scan) : AsciiToBinRet :=
  let s := (List.range' 0 inLen).foldl (asciiToBinChar inLen) first
  ⟨s.buf, start, s.written, s.lastWasCr⟩

def vsfAsciiAsciiToBin (buf : ℕ → UInt8) (inLen : ℕ) (prevCr : Bool) : AsciiToBinRet :=
  if prevCr ∧ (inLen = 0 ∨ buf 1 ≠ lf) then
    scanBlock inLen 0 ⟨Function.update buf 0 cr, 1, 1, false⟩
  else scanBlock inLen 1 ⟨buf, 1, 0, false⟩

/-- What the loop makes of a block, and whether a `\r` is left at its end. -/
def convertBlock : List UInt8 → List UInt8 × Bool
  | [] => ([], false)
  | c :: rest =>
    if c ≠ cr then (c :: (convertBlock rest).1, (convertBlock rest).2)
    else if rest = [] then ([], true)
    else if rest.head? ≠ some lf then (c :: (convertBlock rest).1, (convertBlock rest).2)
    else convertBlock rest

/-- The places the loop writes: from `s.out` on, up to where it has read. -/
structure Scanned (s t : Scan) (inLen : ℕ) (r : List UInt8 × Bool) : Prop where
  bytes : bytesAt t.buf s.out r.1.length = r.1
  written : t.written = s.written + r.1.length
  out : t.out = s.out + r.1.length
  lastWasCr : t.lastWasCr = (s.lastWasCr || r.2)
  below : ∀ p, p < s.out → t.buf p = s.buf p
  above : ∀ p, inLen < p → t.buf p = s.buf p

theorem Scanned.put {s t : Scan} {inLen : ℕ} {c : UInt8} {r : List UInt8 × Bool}
    (h : Scanned (s.put c) t inLen r) (hout : s.out ≤ inLen) :
    Scanned s t inLen (c :: r.1, r.2) := by
  refine ⟨?_, ?_, ?_, h.lastWasCr, ?_, ?_⟩
  · have hc : t.buf s.out = c := by
      rw [h.below s.out (Nat.lt_succ_self _)]
      exact Function.update_self ..
    have hb : bytesAt t.buf (s.out + 1) r.1.length = r.1 := h.bytes
    rw [List.length_cons, bytesAt, hc, hb]
  · have hw : t.written = s.written + 1 + r.1.length := h.written
    rw [hw, List.length_cons]
    omega
  · have ho : t.out = s.out + 1 + r.1.length := h.out
    rw [ho, List.length_cons]
    omega
  · intro p hp
    rw [h.below p (Nat.lt_succ_of_lt hp)]
    exact Function.update_of_ne (by omega) ..
  · intro p hp
    rw [h.above p hp]
    exact Function.update_of_ne (by omega) ..

/-- The loop never overwrites what it has still to read. -/
theorem scan_ok {inLen : ℕ} (xs : List UInt8) (i : ℕ) (s : Scan) (hi : i + xs.length = inLen)
    (hbuf : bytesAt s.buf (i + 1) xs.length = xs) (hout : s.out ≤ i + 1) :
    Scanned s ((List.range' i xs.length).foldl (asciiToBinChar inLen) s) inLen
      (convertBlock xs) := by
  induction xs generalizing i s with
  | nil => exact ⟨rfl, rfl, rfl, (Bool.or_false _).symm, fun _ _ => rfl, fun _ _ => rfl⟩
  | cons c rest ih =>
    rw [List.length_cons] at hi hbuf ⊢
    injection hbuf with hc hrest
    rw [List.range'_succ, List.foldl_cons]
    have hnext : (i + 1) + rest.length = inLen := by omega
    -- the same block again, one place on
    have hput : Scanned (s.put c) ((List.range' (i + 1) rest.length).foldl (asciiToBinChar inLen)
        (s.put c)) inLen (convertBlock rest) := by
      refine ih (i + 1) (s.put c) hnext ?_ (Nat.succ_le_succ hout)
      have hframe : bytesAt (s.put c).buf (i + 1 + 1) rest.length =
          bytesAt s.buf (i + 1 + 1) rest.length :=
        bytesAt_congr fun q hq => Function.update_of_ne (by omega) ..
      rw [hframe, hrest]
    by_cases hcr : c = cr
    · cases rest with
      | nil =>
        have hlast : i = inLen - 1 := by simp at hnext; omega
        simp only [asciiToBinChar, hc, hcr, ne_eq, not_true_eq_false, if_false, if_pos hlast,
          convertBlock, if_true]
        exact ⟨rfl, rfl, rfl, (Bool.or_true _).symm, fun _ _ => rfl, fun _ _ => rfl⟩
      | cons d rest =>
        have hlast : ¬ i = inLen - 1 := by simp at hnext; omega
        have hd : s.buf (i + 2) = d := by injection hrest
        by_cases hdlf : d = lf
        · have hstep : asciiToBinChar inLen s i = s := by
            simp only [asciiToBinChar, hc, hcr, ne_eq, not_true_eq_false, if_false, if_neg hlast, hd,
              hdlf]
          have hconv : convertBlock (c :: d :: rest) = convertBlock (d :: rest) := by
            rw [convertBlock, if_neg (by simp [hcr]), if_neg (by simp), if_neg (by simp [hdlf])]
          rw [hstep, hconv]
          exact ih (i + 1) s hnext hrest (by omega)
        · have hstep : asciiToBinChar inLen s i = s.put c := by
            simp only [asciiToBinChar, hc, hcr, ne_eq, not_true_eq_false, if_false, if_neg hlast, hd,
              hdlf, not_false_eq_true, if_true]
          have hconv : convertBlock (c :: d :: rest) =
              (c :: (convertBlock (d :: rest)).1, (convertBlock (d :: rest)).2) := by
            rw [convertBlock, if_neg (by simp [hcr]), if_neg (by simp), if_pos (by simp [hdlf])]
          rw [hstep, hconv]
          exact hput.put (by omega)
    · have hstep : asciiToBinChar inLen s i = s.put c := by
        simp only [asciiToBinChar, hc, ne_eq, hcr, not_false_eq_true, if_true]
      have hconv : convertBlock (c :: rest) = (c :: (convertBlock rest).1, (convertBlock rest).2) := by
        rw [convertBlock, if_pos hcr]
      rw [hstep, hconv]
      exact hput.put (by omega)

def unseen (prevCr : Bool) : List UInt8 := if prevCr then [cr] else []

def toBinBlock (prevCr : Bool) (xs : List UInt8) : List UInt8 × Bool :=
  ((if prevCr ∧ xs.head? ≠ some lf then [cr] else []) ++ (convertBlock xs).1, (convertBlock xs).2)

theorem convertBlock_append (xs rest : List UInt8) (hx : xs ≠ []) :
    toBin (xs ++ rest) = (convertBlock xs).1 ++ toBin (unseen (convertBlock xs).2 ++ rest) := by
  induction xs with
  | nil => exact absurd rfl hx
  | cons c xs ih =>
    cases xs with
    | nil =>
      by_cases hcr : c = cr
      · simp [convertBlock, hcr, unseen]
      · simp [convertBlock, hcr, unseen, toBin]
    | cons d xs =>
      have hrest:=ih (List.cons_ne_nil d xs)
      rw [List.cons_append, toBin]
      by_cases hcr : c = cr
      · by_cases hd : d = lf
        · rw [if_pos ⟨hcr, by rw [hd]; rfl⟩, convertBlock, if_neg (by simp [hcr]),
            if_neg (by simp), if_neg (by simp [hd])]
          exact hrest
        · rw [if_neg (by simp [hd]), convertBlock, if_neg (by simp [hcr]), if_neg (by simp),
            if_pos (by simp [hd]), hrest]
          rfl
      · rw [if_neg (by simp [hcr]), convertBlock, if_pos hcr, hrest]
        rfl

def toBinBlocks : Streaming Bool UInt8 UInt8 where
  whole prevCr xs := toBin (unseen prevCr ++ xs)
  block := toBinBlock
  whole_append prevCr xs rest hx := by
    have hblock:=convertBlock_append xs rest hx
    cases prevCr with
    | false => simpa [unseen, toBinBlock] using hblock
    | true =>
      obtain ⟨c, xs, rfl⟩ := List.exists_cons_of_ne_nil hx
      by_cases hc : c = lf
      · subst hc
        have hdrop : toBin (cr :: (lf :: xs ++ rest)) = toBin (lf :: xs ++ rest) := by
          rw [toBin, if_pos ⟨rfl, rfl⟩]
        simp only [unseen, if_true, List.singleton_append, toBinBlock, List.head?_cons, ne_eq,
          not_true_eq_false, and_false, if_false, List.nil_append]
        rw [hdrop, hblock]
        rfl
      · have hkeep : toBin (cr :: (c :: xs ++ rest)) = cr :: toBin (c :: xs ++ rest) := by
          rw [toBin, if_neg (by simp [hc])]
        have hfront : (toBinBlock true (c :: xs)).1 = cr :: (convertBlock (c :: xs)).1 := by
          simp [toBinBlock, hc]
        rw [hfront]
        change toBin (cr :: (c :: xs ++ rest)) = cr :: ((convertBlock (c :: xs)).1 ++
          toBin (unseen (convertBlock (c :: xs)).2 ++ rest))
        rw [hkeep, hblock]
  whole_nil prevCr := by cases prevCr <;> rfl

theorem length_convertBlock_le (xs : List UInt8) : (convertBlock xs).1.length ≤ xs.length := by
  induction xs with
  | nil => exact le_refl 0
  | cons c rest ih =>
    rw [convertBlock]
    split
    · exact Nat.succ_le_succ ih
    · split
      · exact Nat.zero_le _
      · split
        · exact Nat.succ_le_succ ih
        · exact Nat.le_succ_of_le ih

/-- In the buffer the conversion of a block stands where the caller is told,
and nothing behind the block is touched. -/
theorem vsfAsciiAsciiToBin_ok {buf : ℕ → UInt8} {xs : List UInt8} (prevCr : Bool)
    (hbuf : bytesAt buf 1 xs.length = xs) :
    let r := vsfAsciiAsciiToBin buf xs.length prevCr
    bytesAt r.buf r.start r.stored = (toBinBlock prevCr xs).1 ∧
      r.lastWasCr = (toBinBlock prevCr xs).2 ∧ (∀ p, xs.length < p → r.buf p = buf p) ∧
      r.start + r.stored ≤ xs.length + 1 := by
  have hlen:=length_convertBlock_le xs
  have hcond : (prevCr = true ∧ (xs.length = 0 ∨ buf 1 ≠ lf)) ↔
      (prevCr = true ∧ xs.head? ≠ some lf) := by
    cases xs with
    | nil => simp
    | cons c rest =>
      have hc : buf 1 = c := by injection hbuf
      simp [hc]
  intro r
  by_cases hf : prevCr = true ∧ xs.head? ≠ some lf
  · have hframe : bytesAt (Function.update buf 0 cr) 1 xs.length = xs := by
      rw [bytesAt_congr fun q hq => Function.update_of_ne (by omega) ..]
      exact hbuf
    have hs:=scan_ok xs 0 ⟨Function.update buf 0 cr, 1, 1, false⟩ (Nat.zero_add _) hframe
      (le_refl 1)
    have hr : r = scanBlock xs.length 0 ⟨Function.update buf 0 cr, 1, 1, false⟩ :=
      if_pos (hcond.mpr hf)
    have hw : _ = 1 + (convertBlock xs).1.length := hs.written
    rw [hr]
    simp only [scanBlock]
    refine ⟨?_, ?_, ?_, ?_⟩
    · rw [hw, toBinBlock, if_pos hf, Nat.add_comm, bytesAt, hs.below 0 Nat.one_pos]
      exact congrArg (List.cons _) hs.bytes
    · exact hs.lastWasCr.trans (Bool.false_or _)
    · intro p hp
      exact (hs.above p hp).trans (Function.update_of_ne (by omega) ..)
    · omega
  · have hs:=scan_ok xs 0 ⟨buf, 1, 0, false⟩ (Nat.zero_add _) hbuf (le_refl 1)
    have hr : r = scanBlock xs.length 1 ⟨buf, 1, 0, false⟩ :=
      if_neg fun h => hf (hcond.mp h)
    have hw : _ = 0 + (convertBlock xs).1.length := hs.written
    rw [hr]
    simp only [scanBlock]
    refine ⟨?_, ?_, hs.above, ?_⟩
    · rw [hw, toBinBlock, if_neg hf, Nat.zero_add]
      exact hs.bytes
    · exact hs.lastWasCr.trans (Bool.false_or _)
    · omega

end BoardServices.Vsftpd
