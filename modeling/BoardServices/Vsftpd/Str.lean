import Mathlib.Data.List.Basic

/-!
# Strings (vsftpd-3.0.3/str.c)

The buffers of `str.c` hold any bytes and know their length. A string is the
list of its bytes.
-/

namespace BoardServices.Vsftpd

abbrev MyStr := List UInt8

/-- `str_locate_text`: the place where the text is met first. -/
def strLocateText : MyStr → MyStr → Option ℕ
  | [], _ => none
  | c :: s, text =>
    if text = [] ∨ text.length > (c :: s).length then none
    else if text.isPrefixOf (c :: s) then some 0
    else (strLocateText s text).map (· + 1)

/-- `str_split_text`: what is left of the string, and the right hand side. -/
def strSplitText (src text : MyStr) : MyStr × MyStr :=
  match strLocateText src text with
  | none => (src, [])
  | some index => (src.take index, src.drop (index + text.length))

def strSplitChar (src : MyStr) (c : UInt8) : MyStr × MyStr := strSplitText src [c]

def strReplaceChar (s : MyStr) (c d : UInt8) : MyStr := s.map fun x => if x = c then d else x

/-- The loop of `str_replace_text`, with what it has built so far. -/
def replaceLoop (old new : MyStr) : ℕ → MyStr → MyStr → MyStr
  | 0, _, done => done
  | fuel + 1, lhs, done =>
    let (l, r) := strSplitText lhs old
    let done := done ++ l ++ if l.length < lhs.length then new else []
    if r = [] then done else replaceLoop old new fuel r done

def strReplaceText (s old new : MyStr) : MyStr := replaceLoop old new (s.length + 1) s []

def toUpper (c : UInt8) : UInt8 := if 97 ≤ c ∧ c ≤ 122 then c - 32 else c

def strUpper (s : MyStr) : MyStr := s.map toUpper

/-! ### One character -/

theorem strLocateText_char_ne {c d : UInt8} (h : d ≠ c) (s : MyStr) :
    strLocateText (d :: s) [c] = (strLocateText s [c]).map (· + 1) := by
  have hpre : ([c] : MyStr).isPrefixOf (d :: s) = false := by
    simp only [List.isPrefixOf, Bool.and_eq_false_imp, beq_iff_eq]
    exact fun he => absurd he.symm h
  rw [strLocateText, if_neg (by simp), hpre, if_neg Bool.false_ne_true]

theorem strSplitChar_append {l : MyStr} {c : UInt8} (hl : c ∉ l) (r : MyStr) :
    strSplitChar (l ++ c :: r) c = (l, r) := by
  have hlocate : strLocateText (l ++ c :: r) [c] = some l.length := by
    induction l with
    | nil =>
      rw [List.nil_append, strLocateText, if_neg (by simp), if_pos (by simp)]
      rfl
    | cons d l ih =>
      rw [List.mem_cons, not_or] at hl
      rw [List.cons_append, strLocateText_char_ne (fun he => hl.1 he.symm), ih hl.2]
      rfl
  rw [strSplitChar, strSplitText, hlocate]
  simp

theorem strSplitChar_of_not_mem {s : MyStr} {c : UInt8} (hs : c ∉ s) : strSplitChar s c = (s, []) := by
  have hlocate : strLocateText s [c] = none := by
    induction s with
    | nil => rfl
    | cons d s ih =>
      rw [List.mem_cons, not_or] at hs
      rw [strLocateText_char_ne (fun he => hs.1 he.symm), ih hs.2]
      rfl
  rw [strSplitChar, strSplitText, hlocate]

/-- Each `c` gives way to the new text. -/
def substitute (c : UInt8) (new : MyStr) (s : MyStr) : MyStr :=
  s.flatMap fun x => if x = c then new else [x]

theorem substitute_of_not_mem {c : UInt8} {s : MyStr} (hs : c ∉ s) (new : MyStr) :
    substitute c new s = s := by
  induction s with
  | nil => rfl
  | cons d s ih =>
    rw [List.mem_cons, not_or] at hs
    have hrest:=ih hs.2
    rw [substitute] at hrest ⊢
    rw [List.flatMap_cons, if_neg (fun he => hs.1 he.symm), hrest]
    rfl

/-- Every occurrence is replaced, the new text is not searched again. -/
theorem replaceLoop_char (c : UInt8) (new : MyStr) (fuel : ℕ) (lhs done : MyStr)
    (hf : lhs.length < fuel) :
    replaceLoop [c] new fuel lhs done = done ++ substitute c new lhs := by
  induction fuel generalizing lhs done with
  | zero => exact absurd hf (Nat.not_lt_zero _)
  | succ fuel ih =>
    by_cases hc : c ∈ lhs
    · obtain ⟨l, r, rfl, hl⟩ := List.eq_append_cons_of_mem hc
      have hsplit : strSplitText (l ++ c :: r) [c] = (l, r) := strSplitChar_append hl r
      have hlen : l.length < (l ++ c :: r).length := by simp
      have hsub : substitute c new (l ++ c :: r) = l ++ (new ++ substitute c new r) := by
        have hkeep:=substitute_of_not_mem hl new
        rw [substitute] at hkeep ⊢
        rw [List.flatMap_append, hkeep, List.flatMap_cons, if_pos rfl]
        rfl
      simp only [replaceLoop, hsplit]
      rw [if_pos hlen, hsub]
      by_cases hr : r = []
      · rw [if_pos hr, hr]
        simp [substitute]
      · have hfuel : r.length < fuel := by
          simp only [List.length_append, List.length_cons] at hf
          omega
        rw [if_neg hr, ih r _ hfuel]
        simp
    · have hsplit : strSplitText lhs [c] = (lhs, []) := strSplitChar_of_not_mem hc
      simp only [replaceLoop, hsplit]
      rw [if_neg (Nat.lt_irrefl _), if_pos trivial, substitute_of_not_mem hc, List.append_nil]

theorem strReplaceText_char (s : MyStr) (c : UInt8) (new : MyStr) :
    strReplaceText s [c] new = substitute c new s :=
  replaceLoop_char c new (s.length + 1) s [] (Nat.lt_succ_self _)

end BoardServices.Vsftpd
