import BoardServices.Lib.Strings
import BoardServices.Vsftpd.CommandChannel

/-!
# Addresses as text (vsftpd-3.0.3/ipaddrparse.c)
-/

namespace BoardServices.Vsftpd
open Lib

def comma : UInt8 := 44
def dot : UInt8 := 46
def colon : UInt8 := 58

def strAtoi (s : MyStr) : ℤ := Strings.atoi (s.map fun b => Char.ofNat b.toNat)

/-- `vsf_sysutil_parse_uchar_string_sep`, with so many items to go. -/
def parseUcharStringSep (sep : UInt8) : ℕ → MyStr → Option (List UInt8)
  | 0, _ => some []
  | items + 1, tmp =>
    let (tmp, rhs) := strSplitChar tmp sep
    if (0 < items ∧ rhs = []) ∨ (items = 0 ∧ rhs ≠ []) then none
    else
      let thisNumber := strAtoi tmp
      if thisNumber < 0 ∨ thisNumber > 255 then none
      else (parseUcharStringSep sep items rhs).map (UInt8.ofNat thisNumber.toNat :: ·)

def parseIpv4 (s : MyStr) : Option (List UInt8) := parseUcharStringSep dot 4 s

def hexDigitValue (c : UInt8) : Option ℕ :=
  let ch := (toUpper c).toNat
  if 48 ≤ ch ∧ ch ≤ 57 then some (ch - 48)
  else if 65 ≤ ch ∧ ch ≤ 70 then some (ch - 65 + 10)
  else none

def hexChar (val : ℕ) (c : UInt8) : Option ℕ :=
  match hexDigitValue c with
  | none => none
  | some d => if 16 * val + d > 0xFFFF then none else some (16 * val + d)

def ipv6ParseHex (s : MyStr) : Option (List UInt8) :=
  (s.foldlM hexChar 0).map fun val => [UInt8.ofNat (val / 256), UInt8.ofNat val]

structure DotQuad where
  val : ℕ
  finalVal : ℕ
  seenChar : Bool
  dots : ℕ
deriving DecidableEq, Repr

def dotQuadChar (q : DotQuad) (c : UInt8) : Option DotQuad :=
  if c = dot then
    if ¬ q.seenChar ∨ q.dots = 3 then none
    else some ⟨0, 256 * q.finalVal + q.val, false, q.dots + 1⟩
  else if 48 ≤ c.toNat ∧ c.toNat ≤ 57 then
    let val := q.val * 10 + (c.toNat - 48)
    if val > 255 then none else some { q with val := val, seenChar := true }
  else none

def ipv4ParseDotquad (s : MyStr) : Option (List UInt8) :=
  match s.foldlM dotQuadChar ⟨0, 0, false, 0⟩ with
  | none => none
  | some q =>
    if q.dots ≠ 3 ∨ ¬ q.seenChar then none
    else
      let v := 256 * q.finalVal + q.val
      some [UInt8.ofNat (v / 2 ^ 24), UInt8.ofNat (v / 2 ^ 16), UInt8.ofNat (v / 2 ^ 8), UInt8.ofNat v]

/-- `ipv6_parse_main`: what it appends, if it succeeds. -/
def ipv6ParseMain : ℕ → MyStr → Option (List UInt8)
  | 0, _ => some []
  | fuel + 1, s =>
    if s = [] then some []
    else
      let (lhs, rhs) := strSplitChar s colon
      if lhs = [] then none
      else
        match if dot ∈ lhs then ipv4ParseDotquad lhs else ipv6ParseHex lhs with
        | none => none
        | some out => (ipv6ParseMain fuel rhs).map (out ++ ·)

/-- `vsf_sysutil_parse_ipv6`: the buffer it returns, as far as it has been written. -/
def parseIpv6 (s : MyStr) : Option (List UInt8) :=
  let (lhs, rhs) := strSplitText s [colon, colon]
  match ipv6ParseMain s.length lhs, ipv6ParseMain s.length rhs with
  | some ret, some rhsRet =>
    if ret.length + rhsRet.length > 16 then none
    else if rhsRet.length > 0 then
      some (ret ++ List.replicate (16 - (ret.length + rhsRet.length)) 0 ++ rhsRet)
    else some ret
  | _, _ => none

/-! ### Numbers between separators -/

/-- The text of such numbers. -/
def ucharText (sep : UInt8) : List UInt8 → MyStr
  | [] => []
  | [b] => ulongToStr b.toNat
  | b :: c :: bytes => ulongToStr b.toNat ++ sep :: ucharText sep (c :: bytes)

theorem strAtoi_ulongToStr (n : ℕ) (hn : n < 2 ^ 31) : strAtoi (ulongToStr n) = n := by
  have hback : (ulongToStr n).map (fun b => Char.ofNat b.toNat) = Strings.formatInt n := by
    unfold ulongToStr Strings.formatInt
    rw [if_neg (by omega), Int.natAbs_natCast, List.map_map]
    refine (List.map_congr_left fun c hc => ?_).trans (List.map_id _)
    have hd:=Strings.toDigits_all_isDigit n c hc
    simp only [Char.isDigit, Bool.and_eq_true, decide_eq_true_eq] at hd
    have hhi : c.toNat ≤ 57 := hd.2
    simp only [Function.comp_apply, id_eq]
    rw [UInt8.toNat_ofNat_of_lt' (show c.toNat < 256 by omega), Char.ofNat_toNat]
  have hvalue:=Strings.atoi_formatInt_append n []
    ⟨by unfold Strings.INT_MIN; omega, by unfold Strings.INT_MAX; omega⟩ (fun _ h => by cases h)
  rw [List.append_nil] at hvalue
  rw [strAtoi, hback, hvalue]

theorem ulongToStr_ne_nil (n : ℕ) : ulongToStr n ≠ [] := by
  unfold ulongToStr
  simp [Nat.toDigits_ne_nil]

theorem not_mem_ulongToStr {sep : UInt8} (hs : sep.toNat < 48 ∨ 57 < sep.toNat) (n : ℕ) :
    sep ∉ ulongToStr n := by
  intro h
  have hd:=ulongToStr_digit n sep h
  omega

theorem ucharText_ne_nil (sep c : UInt8) (bytes : List UInt8) : ucharText sep (c :: bytes) ≠ [] := by
  cases bytes with
  | nil => exact ulongToStr_ne_nil _
  | cons d bytes => simp [ucharText]

theorem strAtoi_uchar (b : UInt8) :
    strAtoi (ulongToStr b.toNat) = b.toNat ∧
      ¬ (strAtoi (ulongToStr b.toNat) < 0 ∨ strAtoi (ulongToStr b.toNat) > 255) ∧
      UInt8.ofNat (strAtoi (ulongToStr b.toNat)).toNat = b := by
  have hb:=b.toNat_lt
  have hvalue:=strAtoi_ulongToStr b.toNat (by omega)
  rw [hvalue]
  refine ⟨rfl, by omega, ?_⟩
  rw [Int.toNat_natCast, UInt8.ofNat_toNat]

/-- Numbers that were written are read back. -/
theorem parseUcharStringSep_ucharText {sep : UInt8} (hs : sep.toNat < 48 ∨ 57 < sep.toNat)
    (bytes : List UInt8) (hne : bytes ≠ []) :
    parseUcharStringSep sep bytes.length (ucharText sep bytes) = some bytes := by
  induction bytes with
  | nil => exact absurd rfl hne
  | cons b bytes ih =>
    obtain ⟨hvalue, hrange, hback⟩ := strAtoi_uchar b
    cases bytes with
    | nil =>
      change parseUcharStringSep sep 1 (ulongToStr b.toNat) = some [b]
      simp only [parseUcharStringSep, strSplitChar_of_not_mem (not_mem_ulongToStr hs _)]
      rw [if_neg (by simp), if_neg hrange, hback]
      rfl
    | cons c bytes =>
      have hrest:=ih (List.cons_ne_nil _ _)
      have hsplit:=strSplitChar_append (not_mem_ulongToStr hs b.toNat) (ucharText sep (c :: bytes))
      have hmore : ¬ ((0 < (c :: bytes).length ∧ ucharText sep (c :: bytes) = []) ∨
          ((c :: bytes).length = 0 ∧ ucharText sep (c :: bytes) ≠ [])) := by
        simp [ucharText_ne_nil]
      change parseUcharStringSep sep ((c :: bytes).length + 1)
        (ulongToStr b.toNat ++ sep :: ucharText sep (c :: bytes)) = some (b :: c :: bytes)
      rw [parseUcharStringSep]
      simp only [hsplit]
      rw [if_neg hmore, if_neg hrange, hback, hrest]
      rfl

/-! ### The text of an IPv6 address -/

def wordText (w : BitVec 16) : MyStr := (Nat.toDigits 16 w.toNat).map fun c => UInt8.ofNat c.toNat

def wordBytes (w : BitVec 16) : List UInt8 := [UInt8.ofNat (w.toNat / 256), UInt8.ofNat w.toNat]

/-- Words between single colons. -/
def wordsText : List (BitVec 16) → MyStr
  | [] => []
  | [w] => wordText w
  | w :: v :: ws => wordText w ++ colon :: wordsText (v :: ws)

theorem hexDigitValue_digitChar :
    ∀ d < 16, hexDigitValue (UInt8.ofNat (Nat.digitChar d).toNat) = some d := by decide

theorem hexChars_toDigits (n : ℕ) (hn : n ≤ 0xFFFF) :
    ((Nat.toDigits 16 n).map fun c => UInt8.ofNat c.toNat).foldlM hexChar 0 = some n := by
  induction n using Nat.strong_induction_on with
  | _ n ih =>
    by_cases hlt : n < 16
    · rw [Nat.toDigits_of_lt_base hlt, List.map_singleton, List.foldlM_cons, hexChar,
        hexDigitValue_digitChar n hlt]
      simp only [Nat.mul_zero, Nat.zero_add, if_neg (show ¬ n > 0xFFFF by omega)]
      rfl
    · have hdigit:=hexDigitValue_digitChar (n % 16) (Nat.mod_lt _ (by omega))
      have hhead:=ih (n / 16) (by omega) (by omega)
      have hvalue : 16 * (n / 16) + n % 16 = n := by omega
      rw [Nat.toDigits_of_base_le (by omega) (by omega), List.map_append, List.foldlM_append,
        hhead, List.map_singleton]
      simp only [Option.bind_eq_bind, Option.bind_some, List.foldlM_cons, hexChar, hdigit, hvalue,
        if_neg (show ¬ n > 0xFFFF by omega)]
      rfl

theorem ipv6ParseHex_wordText (w : BitVec 16) : ipv6ParseHex (wordText w) = some (wordBytes w) := by
  have hw:=w.isLt
  rw [ipv6ParseHex, wordText, hexChars_toDigits w.toNat (by omega)]
  rfl

theorem hexDigit_of_toDigits (n : ℕ) : ∀ c ∈ Nat.toDigits 16 n, ∃ d < 16, c = Nat.digitChar d := by
  induction n using Nat.strong_induction_on with
  | _ n ih =>
    intro c hc
    by_cases hlt : n < 16
    · rw [Nat.toDigits_of_lt_base hlt, List.mem_singleton] at hc
      exact ⟨n, hlt, hc⟩
    · rw [Nat.toDigits_of_base_le (by omega) (by omega), List.mem_append, List.mem_singleton] at hc
      rcases hc with hc | hc
      · exact ih (n / 16) (by omega) c hc
      · exact ⟨n % 16, Nat.mod_lt _ (by omega), hc⟩

theorem not_mem_wordText {c : UInt8} (hc : hexDigitValue c = none) (w : BitVec 16) :
    c ∉ wordText w := by
  intro h
  obtain ⟨x, hx, rfl⟩ := List.mem_map.mp h
  obtain ⟨d, hd, rfl⟩ := hexDigit_of_toDigits _ x hx
  rw [hexDigitValue_digitChar d hd] at hc
  cases hc

theorem wordText_ne_nil (w : BitVec 16) : wordText w ≠ [] := by
  unfold wordText
  simp [Nat.toDigits_ne_nil]

theorem colon_not_mem_wordText (w : BitVec 16) : colon ∉ wordText w := not_mem_wordText rfl w

theorem wordsText_cons (w : BitVec 16) (ws : List (BitVec 16)) (hne : ws ≠ []) :
    wordsText (w :: ws) = wordText w ++ colon :: wordsText ws := by
  cases ws with
  | nil => exact absurd rfl hne
  | cons v ws => rfl

theorem length_le_wordsText (ws : List (BitVec 16)) : ws.length ≤ (wordsText ws).length := by
  induction ws with
  | nil => exact Nat.zero_le _
  | cons w ws ih =>
    have hpos:=List.length_pos_of_ne_nil (wordText_ne_nil w)
    cases ws with
    | nil => exact hpos
    | cons v ws =>
      rw [wordsText_cons w _ (List.cons_ne_nil _ _)]
      simp only [List.length_append, List.length_cons] at ih ⊢
      omega

theorem ipv6ParseMain_wordsText (fuel : ℕ) (ws : List (BitVec 16)) (hf : ws.length ≤ fuel) :
    ipv6ParseMain fuel (wordsText ws) = some (ws.flatMap wordBytes) := by
  induction ws generalizing fuel with
  | nil => cases fuel <;> rfl
  | cons w ws ih =>
    cases fuel with
    | zero => simp at hf
    | succ fuel =>
      have hne:=wordText_ne_nil w
      have hhex : (if dot ∈ wordText w then ipv4ParseDotquad (wordText w)
          else ipv6ParseHex (wordText w)) = some (wordBytes w) := by
        rw [if_neg (not_mem_wordText rfl w), ipv6ParseHex_wordText]
      rw [List.length_cons, Nat.add_le_add_iff_right] at hf
      cases ws with
      | nil =>
        have hsplit : strSplitChar (wordText w) colon = (wordText w, []) :=
          strSplitChar_of_not_mem (colon_not_mem_wordText w)
        change ipv6ParseMain (fuel + 1) (wordText w) = _
        simp only [ipv6ParseMain, hsplit, if_neg hne, hhex]
        cases fuel <;> rfl
      | cons v ws =>
        have hsplit:=strSplitChar_append (colon_not_mem_wordText w) (wordsText (v :: ws))
        have hrest:=ih fuel hf
        have hcons : wordText w ++ colon :: wordsText (v :: ws) ≠ [] := by simp
        rw [wordsText_cons w _ (List.cons_ne_nil _ _)]
        simp only [ipv6ParseMain, hsplit, if_neg hcons, if_neg hne, hhex, hrest]
        rfl

/-! Where a text of words meets two colons. -/

theorem locate_skip {d : UInt8} (hd : d ≠ colon) (s : MyStr) :
    strLocateText (d :: s) [colon, colon] = (strLocateText s [colon, colon]).map (· + 1) := by
  have hpre : ([colon, colon] : MyStr).isPrefixOf (d :: s) = false := by
    simp only [List.isPrefixOf, Bool.and_eq_false_imp, beq_iff_eq]
    exact fun he => absurd he.symm hd
  rw [strLocateText, hpre]
  cases s with
  | nil => rfl
  | cons e s => rw [if_neg (by simp), if_neg Bool.false_ne_true]

theorem locate_colon {d : UInt8} (hd : d ≠ colon) (s : MyStr) :
    strLocateText (colon :: d :: s) [colon, colon] =
      (strLocateText (d :: s) [colon, colon]).map (· + 1) := by
  have hpre : ([colon, colon] : MyStr).isPrefixOf (colon :: d :: s) = false := by
    simp only [List.isPrefixOf, beq_self_eq_true, Bool.true_and, Bool.and_eq_false_imp, beq_iff_eq]
    exact fun he => absurd he.symm hd
  rw [strLocateText, if_neg (by simp), hpre, if_neg Bool.false_ne_true]

theorem locate_found (s : MyStr) : strLocateText (colon :: colon :: s) [colon, colon] = some 0 := by
  rw [strLocateText, if_neg (by simp), if_pos (by simp [List.isPrefixOf])]

theorem locate_skip_word {t : MyStr} (ht : colon ∉ t) (s : MyStr) :
    strLocateText (t ++ s) [colon, colon] = (strLocateText s [colon, colon]).map (· + t.length) := by
  induction t with
  | nil => simp
  | cons d t ih =>
    rw [List.mem_cons, not_or] at ht
    rw [List.cons_append, locate_skip (fun he => ht.1 he.symm), ih ht.2, Option.map_map]
    rfl

theorem exists_wordsText (v : BitVec 16) (ws : List (BitVec 16)) :
    ∃ d t, wordsText (v :: ws) = d :: t ∧ d ≠ colon := by
  obtain ⟨d, t, ht⟩ := List.exists_cons_of_ne_nil (wordText_ne_nil v)
  have hd : d ≠ colon := by
    rintro rfl
    exact colon_not_mem_wordText v (ht ▸ List.mem_cons_self ..)
  cases ws with
  | nil => exact ⟨d, t, ht, hd⟩
  | cons w ws =>
    refine ⟨d, t ++ colon :: wordsText (w :: ws), ?_, hd⟩
    rw [wordsText_cons v _ (List.cons_ne_nil _ _), ht]
    rfl

theorem locate_wordsText (ws : List (BitVec 16)) (rest : MyStr) :
    strLocateText (wordsText ws ++ colon :: colon :: rest) [colon, colon] =
      some (wordsText ws).length := by
  induction ws with
  | nil => exact locate_found rest
  | cons w ws ih =>
    cases ws with
    | nil =>
      change strLocateText (wordText w ++ _) _ = some (wordText w).length
      rw [locate_skip_word (colon_not_mem_wordText w), locate_found, Option.map_some, Nat.zero_add]
    | cons v ws =>
      obtain ⟨d, t, ht, hd⟩ := exists_wordsText v ws
      rw [ht] at ih
      rw [wordsText_cons w _ (List.cons_ne_nil _ _), ht, List.append_assoc, List.cons_append,
        locate_skip_word (colon_not_mem_wordText w), List.cons_append, locate_colon hd]
      rw [List.cons_append] at ih
      rw [ih]
      simp only [Option.map_some, List.length_append, List.length_cons]
      congr 1
      omega

theorem locate_none (ws : List (BitVec 16)) : strLocateText (wordsText ws) [colon, colon] = none := by
  have hword : ∀ w, strLocateText (wordText w) [colon, colon] = none := by
    intro w
    have hskip:=locate_skip_word (colon_not_mem_wordText w) []
    rw [List.append_nil] at hskip
    rw [hskip]
    rfl
  induction ws with
  | nil => rfl
  | cons w ws ih =>
    cases ws with
    | nil => exact hword w
    | cons v ws =>
      obtain ⟨d, t, ht, hd⟩ := exists_wordsText v ws
      rw [ht] at ih
      rw [wordsText_cons w _ (List.cons_ne_nil _ _), ht,
        locate_skip_word (colon_not_mem_wordText w), locate_colon hd, ih]
      rfl

theorem length_flatMap_wordBytes (ws : List (BitVec 16)) :
    (ws.flatMap wordBytes).length = 2 * ws.length := by
  induction ws with
  | nil => rfl
  | cons w ws ih =>
    simp only [List.flatMap_cons, List.length_append, ih, List.length_cons, wordBytes, List.length_nil]
    omega

/-- All the words written out. -/
theorem parseIpv6_full (ws : List (BitVec 16)) (hlen : ws.length ≤ 8) :
    parseIpv6 (wordsText ws) = some (ws.flatMap wordBytes) := by
  have hbytes:=length_flatMap_wordBytes ws
  have hsplit : strSplitText (wordsText ws) [colon, colon] = (wordsText ws, []) := by
    rw [strSplitText, locate_none]
  have hmain:=ipv6ParseMain_wordsText (wordsText ws).length ws (length_le_wordsText ws)
  have hnil : ipv6ParseMain (wordsText ws).length [] = some [] := by
    cases (wordsText ws).length <;> rfl
  simp only [parseIpv6, hsplit, hmain, hnil, List.length_nil]
  rw [if_neg (by omega), if_neg (by omega)]

theorem parseIpv6_gap (l r : List (BitVec 16)) (hlen : l.length + r.length ≤ 8) :
    parseIpv6 (wordsText l ++ colon :: colon :: wordsText r) =
      some (if r = [] then l.flatMap wordBytes
        else l.flatMap wordBytes ++ List.replicate (16 - 2 * (l.length + r.length)) 0 ++
          r.flatMap wordBytes) := by
  have hl:=length_flatMap_wordBytes l
  have hr:=length_flatMap_wordBytes r
  have hsplit : strSplitText (wordsText l ++ colon :: colon :: wordsText r) [colon, colon] =
      (wordsText l, wordsText r) := by
    rw [strSplitText, locate_wordsText]
    simp only [List.take_left', List.length_cons, List.length_nil]
    rw [← List.drop_drop, List.drop_left']
    · rfl
    · rfl
  have htext : (wordsText l ++ colon :: colon :: wordsText r).length =
      (wordsText l).length + (wordsText r).length + 2 := by
    simp only [List.length_append, List.length_cons]
    omega
  have hll:=length_le_wordsText l
  have hrl:=length_le_wordsText r
  have hlm:=ipv6ParseMain_wordsText ((wordsText l).length + (wordsText r).length + 2) l (by omega)
  have hrm:=ipv6ParseMain_wordsText ((wordsText l).length + (wordsText r).length + 2) r (by omega)
  simp only [parseIpv6, hsplit, htext, hlm, hrm, hl, hr]
  rw [if_neg (by omega)]
  by_cases h : r = []
  · subst h
    simp
  · have hpos:=List.length_pos_of_ne_nil h
    rw [if_pos (by omega), if_neg h]
    congr 4
    omega

/-- The address that a text with two colons stands for. -/
def gapAddress (l r : List (BitVec 16)) : List UInt8 :=
  l.flatMap wordBytes ++ List.replicate (16 - 2 * (l.length + r.length)) 0 ++ r.flatMap wordBytes

/-- Behind the two colons there must be something, or the zeros they stand for
are not written and the address is cut short. -/
theorem ipv6_gap_read_iff (l r : List (BitVec 16)) (hlen : l.length + r.length ≤ 8) :
    parseIpv6 (wordsText l ++ colon :: colon :: wordsText r) = some (gapAddress l r) ↔
      r ≠ [] ∨ l.length = 8 := by
  rw [parseIpv6_gap l r hlen]
  by_cases hr : r = []
  · subst hr
    have hl:=length_flatMap_wordBytes l
    simp only [if_pos, gapAddress, List.length_nil, Nat.add_zero, List.flatMap_nil, List.append_nil,
      Option.some.injEq, ne_eq, not_true_eq_false, false_or]
    constructor
    · intro h
      have hcount:=congrArg List.length h
      rw [List.length_append, List.length_replicate] at hcount
      rw [List.length_nil, Nat.add_zero] at hlen
      omega
    · intro h
      rw [h]
      simp
  · rw [if_neg hr]
    exact iff_of_true rfl (Or.inl hr)

theorem ipv6_gap_read_iff_linkLocal :
    parseIpv6 (wordsText [0xfe80] ++ colon :: colon :: wordsText []) ≠ some (gapAddress [0xfe80] []) ∧
      parseIpv6 (wordsText [0xfe80] ++ colon :: colon :: wordsText [1]) =
        some (gapAddress [0xfe80] [1]) := by
  refine ⟨fun h => ?_, (ipv6_gap_read_iff [0xfe80] [1] (by decide)).mpr (Or.inl (by decide))⟩
  rcases (ipv6_gap_read_iff [0xfe80] [] (by decide)).mp h with h | h
  · exact h rfl
  · simp at h

end BoardServices.Vsftpd
