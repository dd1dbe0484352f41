import Mathlib.Algebra.BigOperators.Fin
import BoardServices.Lib.BinaryRounding
import BoardServices.Lib.SkipRing
import BoardServices.Lib.Strings

/-!
# Temperature of panel_led (panel_led.c:344-364, 386-404)

`sleek_filter` keeps six `float` slots and an index in static storage.
`get_system_temperature` reads the thermal zone, hands the whole degrees to the
filter and casts the `float` it returns back to `int`.
-/

namespace BoardServices.PanelLed
open Lib Lib.Strings Lib.BinaryRounding

def SYSTEM_OVER_TEMPERATURE : ℤ := 99
abbrev MAX_SLEEK_FILTER_COUNT : ℕ := 6

/-- Static storage of `sleek_filter`: `static char i` and `static float
temp_value[MAX_SLEEK_FILTER_COUNT]`. -/
structure Filter where
  i : Fin (MAX_SLEEK_FILTER_COUNT + 1)
  tempValue : Fin MAX_SLEEK_FILTER_COUNT → ℚ

def Filter.initial : Filter := ⟨0, fun _ => 0⟩

/-- `sleek_filter` in its only use, with `filter_count` the number of slots. The
sum is a `double`, the result is narrowed to `float`. -/
def sleekFilter (f : Filter) (rawData : ℚ) : ℚ × Filter :=
  let f' : Filter :=
    if h : f.i.val < MAX_SLEEK_FILTER_COUNT then
      ⟨⟨f.i.val + 1, by omega⟩, Function.update f.tempValue ⟨f.i.val, h⟩ rawData⟩
    else ⟨0, f.tempValue⟩
  let sum := (List.finRange MAX_SLEEK_FILTER_COUNT).foldl
    (fun acc count => roundBits 53 (acc + f'.tempValue count)) 0
  (roundBits 24 (roundBits 53 (sum / MAX_SLEEK_FILTER_COUNT)), f')

/-- What open and read of `thermal_zone0/temp` yield. `content` is the text of
the file; with no content `read` returns no bytes. -/
inductive Reading where
  | noOpen
  | readError
  | content (text : List Char)

/-- `rec_buf` after the read: seven zeroed bytes, of which at most six are filled. -/
def recBuf : Reading → List Char
  | .content text => text.take 6 ++ List.replicate (7 - (text.take 6).length) '\x00'
  | _ => List.replicate 7 '\x00'

/-- `(int)sleek_filter(raw, MAX_SLEEK_FILTER_COUNT)` for an `int` argument, which
is converted to `float` on the way in. -/
def filteredDegrees (f : Filter) (raw : ℤ) : ℤ × Filter :=
  let out := sleekFilter f (roundBits 24 raw)
  (trunc out.1, out.2)

/-- `get_system_temperature`: a failed open is reported as -1, the result of
`read` is not looked at. -/
def getSystemTemperature (f : Filter) : Reading → ℤ × Filter
  | .noOpen => (-1, f)
  | r => filteredDegrees f ((atoi (recBuf r)).tdiv 1000)

/-! ### The filter over the integers -/

abbrev Samples := SkipRing MAX_SLEEK_FILTER_COUNT ℤ

def mean (a : Samples) : ℤ := (∑ s, a.value s).tdiv MAX_SLEEK_FILTER_COUNT

def Small (x : ℤ) : Prop := -999 ≤ x ∧ x ≤ 999

/-- The `float` slots hold the integer samples of the ring, all of them small. -/
structure Refines (f : Filter) (a : Samples) : Prop where
  index : f.i = a.i
  slots : ∀ s, f.tempValue s = (a.value s : ℚ)
  small : ∀ s, Small (a.value s)

theorem initial_refines : Refines Filter.initial (SkipRing.empty MAX_SLEEK_FILTER_COUNT 0) :=
  ⟨rfl, fun _ => by simp [Filter.initial, SkipRing.empty], fun _ => by
    simp [SkipRing.empty, Small]⟩

theorem foldl_add_exact (g : Fin MAX_SLEEK_FILTER_COUNT → ℚ) (v : Fin MAX_SLEEK_FILTER_COUNT → ℤ)
    (hg : ∀ s, g s = (v s : ℚ)) (hv : ∀ s, Small (v s)) (l : List (Fin MAX_SLEEK_FILTER_COUNT))
    (acc : ℤ) (hacc : |acc| + 999 * l.length < 2 ^ 53) :
    l.foldl (fun acc count => roundBits 53 (acc + g count)) (acc : ℚ) =
      ((acc + (l.map v).sum : ℤ) : ℚ) := by
  induction l generalizing acc with
  | nil => simp
  | cons s l ih =>
    have hs:=hv s
    unfold Small at hs
    simp only [List.length_cons, Nat.cast_add, Nat.cast_one] at hacc
    have habs : |acc + v s| ≤ |acc| + 999 := by
      have htri:=abs_add_le acc (v s)
      have hvs : |v s| ≤ 999 := abs_le.mpr hs
      omega
    have hround : roundBits 53 ((acc : ℚ) + g s) = ((acc + v s : ℤ) : ℚ) := by
      rw [hg s, ← Int.cast_add]
      exact roundBits_intCast 53 _ (by omega)
    simp only [List.foldl_cons, List.map_cons, List.sum_cons]
    rw [hround, ih (acc + v s) (by omega)]
    push_cast
    ring

theorem sum_small (v : Fin MAX_SLEEK_FILTER_COUNT → ℤ) (hv : ∀ s, Small (v s)) :
    |∑ s, v s| ≤ 5994 := by
  have h0:=hv 0
  have h1:=hv 1
  have h2:=hv 2
  have h3:=hv 3
  have h4:=hv 4
  have h5:=hv 5
  unfold Small at h0 h1 h2 h3 h4 h5
  rw [Fin.sum_univ_six, abs_le]
  omega

/-- One call of `sleek_filter` on a small integer is one push on the ring, and
the cast of its result is the mean of the ring. -/
theorem sleekFilter_refines (f : Filter) (a : Samples) (x : ℤ) (h : Refines f a) (hx : Small x) :
    Refines (sleekFilter f x).2 (a.push x) ∧ trunc (sleekFilter f x).1 = mean (a.push x) := by
  have href : Refines (sleekFilter f x).2 (a.push x) := by
    obtain ⟨fi, ft⟩ := f
    obtain ⟨ai, av⟩ := a
    obtain ⟨hi, hslots, hsmall⟩ := h
    dsimp only at hi hslots hsmall
    subst hi
    unfold sleekFilter SkipRing.push
    dsimp only
    split
    · rename_i hlt
      refine ⟨rfl, ?_, ?_⟩
      · intro s
        by_cases hs : s = ⟨fi.val, hlt⟩
        · subst hs
          simp
        · simp only [Function.update_of_ne hs, hslots s]
      · intro s
        by_cases hs : s = ⟨fi.val, hlt⟩
        · subst hs
          simpa using hx
        · simpa only [Function.update_of_ne hs] using hsmall s
    · exact ⟨rfl, hslots, hsmall⟩
  refine ⟨href, ?_⟩
  have hsum : (List.finRange MAX_SLEEK_FILTER_COUNT).foldl
      (fun acc count => roundBits 53 (acc + (sleekFilter f x).2.tempValue count)) 0 =
      ((∑ s, (a.push x).value s : ℤ) : ℚ) := by
    have hf:=foldl_add_exact _ _ href.slots href.small (List.finRange MAX_SLEEK_FILTER_COUNT) 0
      (by simp)
    rw [Int.cast_zero] at hf
    rw [hf, zero_add, ← Fin.sum_univ_def]
  have hbound:=sum_small _ href.small
  change trunc (roundBits 24 (roundBits 53 (List.foldl (fun acc count =>
    roundBits 53 (acc + (sleekFilter f x).2.tempValue count)) 0
      (List.finRange MAX_SLEEK_FILTER_COUNT) / MAX_SLEEK_FILTER_COUNT))) = mean (a.push x)
  rw [hsum, mean]
  have hdiv:=trunc_float_div (∑ s, (a.push x).value s) 6 (by norm_num) (by norm_num) (by omega)
  exact_mod_cast hdiv

theorem filteredDegrees_refines (f : Filter) (a : Samples) (x : ℤ) (h : Refines f a)
    (hx : Small x) :
    Refines (filteredDegrees f x).2 (a.push x) ∧ (filteredDegrees f x).1 = mean (a.push x) := by
  have hround : roundBits 24 (x : ℚ) = x := roundBits_intCast 24 x (by
    unfold Small at hx
    rw [abs_lt]
    omega)
  unfold filteredDegrees
  rw [hround]
  exact sleekFilter_refines f a x h hx

theorem le_mean_iff (a : Samples) (c : ℤ) (hc : 0 < c) : c ≤ mean a ↔ c * 6 ≤ ∑ s, a.value s :=
  le_tdiv_iff (by norm_num) hc

theorem le_mean (a : Samples) (c : ℤ) (hc : 0 < c) (h : ∀ s, c ≤ a.value s) : c ≤ mean a := by
  have hsum:=Finset.card_nsmul_le_sum Finset.univ (fun s => a.value s) c fun s _ => h s
  rw [Finset.card_univ, Fintype.card_fin, nsmul_eq_mul] at hsum
  rw [le_mean_iff a c hc, mul_comm]
  exact hsum

theorem mean_le (a : Samples) (c : ℤ) (hc : 0 ≤ c) (h : ∀ s, a.value s ≤ c) : mean a ≤ c := by
  have hsum:=Finset.sum_le_card_nsmul Finset.univ (fun s => a.value s) c fun s _ => h s
  rw [Finset.card_univ, Fintype.card_fin, nsmul_eq_mul] at hsum
  have hlt : ¬ c + 1 ≤ mean a := by
    rw [le_mean_iff a (c + 1) (by omega)]
    push_cast at hsum
    omega
  omega

/-! ### What a reading contributes -/

/-- The sample a reading puts into the filter, none if the filter is not called. -/
def sampleOf : Reading → Option ℤ
  | .noOpen => none
  | r => some ((atoi (recBuf r)).tdiv 1000)

theorem recBuf_value (r : Reading) :
    ∃ s : List Char, s.length ≤ 6 ∧ decimalPrefix (recBuf r) = decimalPrefix s := by
  cases r with
  | content text =>
    have hlen : (text.take 6).length ≤ 6 := List.length_take_le 6 text
    have hz : List.replicate (7 - (text.take 6).length) '\x00' =
        '\x00' :: List.replicate (6 - (text.take 6).length) '\x00' := by
      rw [← List.replicate_succ]
      congr 1
      omega
    exact ⟨text.take 6, hlen, by rw [recBuf, hz, decimalPrefix_append_nul]⟩
  | noOpen => exact ⟨[], by simp, by decide⟩
  | readError => exact ⟨[], by simp, by decide⟩

theorem sampleOf_small (r : Reading) (x : ℤ) (h : sampleOf r = some x) : Small x := by
  obtain ⟨s, hs, hv⟩ := recBuf_value r
  have habs:=decimalPrefix_natAbs_lt s 6 hs
  have hle:=atoi_natAbs_le (recBuf r)
  rw [hv] at hle
  have hx : x = (atoi (recBuf r)).tdiv 1000 := by
    cases r with
    | noOpen => simp [sampleOf] at h
    | readError => exact (Option.some.inj h).symm
    | content text => exact (Option.some.inj h).symm
  have hsplit:=Int.natAbs_tdiv (atoi (recBuf r)) 1000
  have hb : (atoi (recBuf r)).natAbs / (1000 : ℤ).natAbs ≤ 999 := by
    have hth : (1000 : ℤ).natAbs = 1000 := rfl
    rw [hth]
    omega
  unfold Small
  rw [hx]
  have hn : ((atoi (recBuf r)).tdiv 1000).natAbs ≤ 999 := by
    rw [hsplit]
    exact hb
  omega

theorem getSystemTemperature_sample (f : Filter) (r : Reading) (x : ℤ) (hx : sampleOf r = some x) :
    getSystemTemperature f r = filteredDegrees f x := by
  cases r with
  | noOpen => simp [sampleOf] at hx
  | readError =>
    rw [← Option.some.inj hx]
    rfl
  | content text =>
    rw [← Option.some.inj hx]
    rfl

theorem getSystemTemperature_refines (f : Filter) (a : Samples) (r : Reading) (x : ℤ)
    (h : Refines f a) (hx : sampleOf r = some x) :
    Refines (getSystemTemperature f r).2 (a.push x) ∧
      (getSystemTemperature f r).1 = mean (a.push x) := by
  rw [getSystemTemperature_sample f r x hx]
  exact filteredDegrees_refines f a x h (sampleOf_small r x hx)

theorem sampleOf_millidegrees (v : ℤ) (hv : -99999 ≤ v ∧ v ≤ 999999) :
    sampleOf (.content (formatInt v ++ ['\n'])) = some (v.tdiv 1000) := by
  have hlen : (formatInt v).length ≤ 6 :=
    formatInt_length_le v 5 (by norm_num) (by norm_num; omega) (by norm_num; omega)
  have hbuf : ∃ rest, recBuf (.content (formatInt v ++ ['\n'])) = formatInt v ++ rest ∧
      NotDigitHead rest := by
    rw [recBuf, List.take_append, List.take_of_length_le hlen, List.append_assoc]
    refine ⟨_, rfl, ?_⟩
    -- a newline follows unless the numeral fills the six bytes, then the NUL does
    rcases Nat.lt_or_ge (formatInt v).length 6 with hlt | hge
    · obtain ⟨k, hk⟩ : ∃ k, 6 - (formatInt v).length = k + 1 := ⟨5 - (formatInt v).length, by omega⟩
      rw [hk]
      intro c hc
      simp only [List.take_succ_cons, List.cons_append, List.head?_cons, Option.some.injEq] at hc
      subst hc
      decide
    · have h6 : (formatInt v).length = 6 := by omega
      rw [h6]
      intro c hc
      simp only [Nat.sub_self, List.take_zero, List.nil_append, List.append_nil, h6] at hc
      have hnul : '\x00' = c := Option.some.inj hc
      subst hnul
      decide
  obtain ⟨rest, hb, hr⟩ := hbuf
  have hi : IsInt v := by
    unfold IsInt INT_MIN INT_MAX
    omega
  rw [sampleOf, hb, atoi_formatInt_append v rest hi hr]
  simp

end BoardServices.PanelLed
