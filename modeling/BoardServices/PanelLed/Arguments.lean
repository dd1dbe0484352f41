import BoardServices.Lib.Numerals
import BoardServices.PanelLed.Program

/-!
# Which command lines are accepted (panel_led.c:85-178, 250-254)

The usage text lists the command lines; the parser checks the keyword in one
cascade and the number of arguments in another. The two differ on the arguments
that neither cascade looks at.
-/

namespace BoardServices.PanelLed
open Lib Lib.Strings Lib.Numerals

/-- `help_information`, without the arguments its format does not use. -/
def helpInformation : String :=
  " Usage:\n" ++
  " Set working status or mode:\n" ++
  "   (1) ./panel_led (normal working in default)\n" ++
  "   (2) ./panel_led system_start (force into system start status)\n" ++
  "   (3) ./panel_led normal_operation (force into normal operation status)\n" ++
  "   (4) ./panel_led over_temprature (force into over temperature status)\n" ++
  "   (5) ./panel_led backligt_off (force into backligt_off status)\n" ++
  "   (6) You can enter the debug mode with the following instructions:\n" ++
  "\t ./panel_led <green/red/charger> <bright> <value=1>\n" ++
  "\t or\n" ++
  "\t ./panel_led <green/red/charger> <blink> <delay_on=500> <delay_of=500>\n" ++
  "     Value range:\n" ++
  "\t value = [0, 255].\n" ++
  "\t delay_on = [0, 65535], in ms.\n" ++
  "\t delay_off = [0, 65535], in ms.\n" ++
  "     Example:\n" ++
  "\t ./panel_led charger bright 1\n" ++
  "\t ./panel_led charger blink 500 500\n"

/-- The process after some passes: still in the loop, or returned before it. -/
inductive Outcome where
  | looping (st : State)
  | returned (printed : List String) (status : ℤ) (fs : Sysfs)

def main (k : LedClass) (argv : List CString) (leds : Led → LedState) (env : ℕ → Iteration)
    (passes : ℕ) : Outcome :=
  match parseArgs argv with
  | .ok info => .looping (runFor k argv info leds env passes)
  | .error texts => .returned (texts ++ [helpInformation]) 0 ⟨leds, []⟩

/-! ### The usage text -/

def statusKeywords : List CString :=
  ["system_start", "normal_operation", "over_temprature", "backligt_off"].map String.toList

def colours : List CString := ["green", "red", "charger"].map String.toList

def InRange (s : CString) (max : ℤ) : Prop := ∃ n, decimalNumeral s = some n ∧ 0 ≤ n ∧ n ≤ max

/-- The command lines of the usage text. -/
def Documented : List CString → Prop
  | [] => True
  | [status] => status ∈ statusKeywords
  | [colour, what, value] => colour ∈ colours ∧ what = "bright".toList ∧ InRange value 255
  | [colour, what, on, off] =>
    colour ∈ colours ∧ what = "blink".toList ∧ InRange on 65535 ∧ InRange off 65535
  | _ => False

def IntNumeral (s : CString) : Prop := ∃ n, decimalNumeral s = some n ∧ IsInt n

/-- The numeric arguments, where the usage has them, are numerals. -/
def NumericArgs : List CString → Prop
  | [colour, what, value] => colour ∈ colours → what = "bright".toList → IntNumeral value
  | [colour, what, on, off] =>
    colour ∈ colours → what = "blink".toList → IntNumeral on ∧ IntNumeral off
  | _ => True

/-- The program is in its loop for a documented command line, and for any other it
prints the help and returns without touching an LED file. -/
def AcceptsAsDocumented (argv : List CString) : Prop :=
  ∀ k leds env passes,
    (Documented argv.tail → ∃ st, main k argv leds env passes = .looping st) ∧
      (¬ Documented argv.tail →
        ∃ printed, helpInformation ∈ printed ∧
          main k argv leds env passes = .returned printed 0 ⟨leds, []⟩)

/-! ### The parser -/

/-- Arguments behind the first that the second cascade lets pass. -/
def Tolerated : List CString → Prop
  | [what, value] => what = "bright".toList ∧ 0 ≤ atoi value ∧ atoi value < 256
  | [what, on, off] =>
    what = "blink".toList ∧ (0 ≤ atoi on ∧ atoi on < 65536) ∧ 0 ≤ atoi off ∧ atoi off < 65536
  | _ => True

theorem parseKeyword_some_iff (info : LedInfo) (arg : CString) :
    (∃ info', parseKeyword info arg = some info') ↔ arg ∈ statusKeywords ∨ arg ∈ colours := by
  unfold parseKeyword statusKeywords colours
  simp only [List.map_cons, List.map_nil, List.mem_cons, List.not_mem_nil, or_false]
  split_ifs with h1 h2 h3 h4 h5 h6 h7
  · exact iff_of_true ⟨_, rfl⟩ (Or.inl (Or.inl h1))
  · exact iff_of_true ⟨_, rfl⟩ (Or.inl (Or.inr (Or.inl h2)))
  · exact iff_of_true ⟨_, rfl⟩ (Or.inl (Or.inr (Or.inr (Or.inl h3))))
  · exact iff_of_true ⟨_, rfl⟩ (Or.inl (Or.inr (Or.inr (Or.inr h4))))
  · exact iff_of_true ⟨_, rfl⟩ (Or.inr (Or.inl h5))
  · exact iff_of_true ⟨_, rfl⟩ (Or.inr (Or.inr (Or.inl h6)))
  · exact iff_of_true ⟨_, rfl⟩ (Or.inr (Or.inr (Or.inr h7)))
  · refine iff_of_false nofun ?_
    rintro ((h | h | h | h) | h | h | h)
    · exact h1 h
    · exact h2 h
    · exact h3 h
    · exact h4 h
    · exact h5 h
    · exact h6 h
    · exact h7 h

theorem parseValues_ok_iff (info : LedInfo) (rest : List CString) :
    (∃ info', parseValues info rest = .ok info') ↔ Tolerated rest := by
  match rest with
  | [] => exact iff_of_true ⟨_, rfl⟩ trivial
  | [_] => exact iff_of_true ⟨_, rfl⟩ trivial
  | [what, value] =>
    simp only [parseValues, Tolerated]
    split_ifs with h1 h2
    · exact iff_of_true ⟨_, rfl⟩ ⟨h1, h2⟩
    · exact iff_of_false (not_exists.mpr fun _ => id) fun h => h2 h.2
    · exact iff_of_false (not_exists.mpr fun _ => id) fun h => h1 h.1
  | [what, on, off] =>
    simp only [parseValues, Tolerated]
    split_ifs with h1 h2 h3
    · exact iff_of_true ⟨_, rfl⟩ ⟨h1, h2, h3⟩
    · exact iff_of_false (not_exists.mpr fun _ => id) fun h => h3 h.2.2
    · exact iff_of_false (not_exists.mpr fun _ => id) fun h => h2 h.2.1
    · exact iff_of_false (not_exists.mpr fun _ => id) fun h => h1 h.1
  | _ :: _ :: _ :: _ :: _ => exact iff_of_true ⟨_, rfl⟩ trivial

def Accepted : List CString → Prop
  | [] => True
  | arg1 :: rest => (arg1 ∈ statusKeywords ∨ arg1 ∈ colours) ∧ Tolerated rest

theorem parseArgs_ok_iff (argv : List CString) :
    (∃ info, parseArgs argv = .ok info) ↔ Accepted argv.tail := by
  match argv with
  | [] => exact iff_of_true ⟨_, rfl⟩ trivial
  | [_] => exact iff_of_true ⟨_, rfl⟩ trivial
  | _ :: arg1 :: rest =>
    simp only [parseArgs, List.tail_cons, Accepted, ← parseKeyword_some_iff {} arg1]
    cases hk : parseKeyword {} arg1 with
    | none =>
      refine iff_of_false ?_ ?_
      · rintro ⟨info, h⟩
        cases h
      · rintro ⟨⟨info, h⟩, _⟩
        cases h
    | some info =>
      rw [and_iff_right ⟨info, rfl⟩]
      exact parseValues_ok_iff info rest

/-! ### Accepted and documented -/

theorem keyword_not_colour {a : CString} (hs : a ∈ statusKeywords) : a ∉ colours := by
  have hall : ∀ a ∈ statusKeywords, a ∉ colours := by decide
  exact hall a hs

/-- The command lines that are accepted although the usage does not list them: a
status with anything behind it that is tolerated, a colour with too few or too many
arguments. -/
def Misparsed : List CString → Prop
  | [] => False
  | arg1 :: rest =>
    (arg1 ∈ statusKeywords ∧ rest ≠ [] ∧ Tolerated rest) ∨
      (arg1 ∈ colours ∧ rest.length ≠ 2 ∧ rest.length ≠ 3)

theorem inRange_iff_atoi {s : CString} (h : IntNumeral s) (max : ℤ) :
    InRange s max ↔ 0 ≤ atoi s ∧ atoi s < max + 1 := by
  obtain ⟨n, hn, hi⟩ := h
  rw [atoi_numeral hn hi, Int.lt_add_one_iff]
  constructor
  · rintro ⟨m, hm, h0, hmax⟩
    cases hn.symm.trans hm
    exact ⟨h0, hmax⟩
  · rintro ⟨h0, hmax⟩
    exact ⟨n, hn, h0, hmax⟩

theorem documented_status_iff {a : CString} (hs : a ∈ statusKeywords) (rest : List CString) :
    Documented (a :: rest) ↔ rest = [] := by
  have hc:=keyword_not_colour hs
  match rest with
  | [] => exact iff_of_true hs rfl
  | [_] => exact iff_of_false id nofun
  | [_, _] => exact iff_of_false (fun h => hc h.1) nofun
  | [_, _, _] => exact iff_of_false (fun h => hc h.1) nofun
  | _ :: _ :: _ :: _ :: _ => exact iff_of_false id nofun

theorem documented_colour_iff {a : CString} (hc : a ∈ colours) (rest : List CString)
    (hn : NumericArgs (a :: rest)) :
    Documented (a :: rest) ↔ (rest.length = 2 ∨ rest.length = 3) ∧ Tolerated rest := by
  match rest with
  | [] => exact iff_of_false (fun h => keyword_not_colour h hc) (by simp)
  | [_] => exact iff_of_false id (by simp)
  | [what, value] =>
    simp only [Documented, Tolerated, hc, true_and, List.length_cons, List.length_nil, true_or]
    refine and_congr_right fun hw => ?_
    exact inRange_iff_atoi (hn hc hw) 255
  | [what, on, off] =>
    simp only [Documented, Tolerated, hc, true_and, List.length_cons, List.length_nil, or_true]
    refine and_congr_right fun hw => and_congr ?_ ?_
    · exact inRange_iff_atoi (hn hc hw).1 65535
    · exact inRange_iff_atoi (hn hc hw).2 65535
  | _ :: _ :: _ :: _ :: _ => exact iff_of_false id (by simp)

theorem documented_keyword {a : CString} {rest : List CString} (h : Documented (a :: rest)) :
    a ∈ statusKeywords ∨ a ∈ colours := by
  match rest with
  | [] => exact Or.inl h
  | [_] => exact absurd h id
  | [_, _] => exact Or.inr h.1
  | [_, _, _] => exact Or.inr h.1
  | _ :: _ :: _ :: _ :: _ => exact absurd h id

theorem tolerated_of_length {rest : List CString} (h2 : rest.length ≠ 2) (h3 : rest.length ≠ 3) :
    Tolerated rest := by
  match rest with
  | [] => trivial
  | [_] => trivial
  | [_, _] => exact absurd rfl h2
  | [_, _, _] => exact absurd rfl h3
  | _ :: _ :: _ :: _ :: _ => trivial

theorem accepted_iff_documented_iff (args : List CString) (hn : NumericArgs args) :
    (Accepted args ↔ Documented args) ↔ ¬ Misparsed args := by
  cases args with
  | nil => exact iff_of_true Iff.rfl id
  | cons a rest =>
    simp only [Accepted, Misparsed]
    by_cases hs : a ∈ statusKeywords
    · have hc:=keyword_not_colour hs
      rw [documented_status_iff hs]
      simp only [hs, hc, true_and, false_and, or_false]
      by_cases hr : rest = []
      · subst hr
        exact iff_of_true (iff_of_true trivial rfl) fun h => h.1 rfl
      · simp [hr]
    · by_cases hc : a ∈ colours
      · rw [documented_colour_iff hc rest hn]
        simp only [hs, hc, or_true, true_and, false_and, false_or]
        by_cases hl : rest.length = 2 ∨ rest.length = 3
        · rw [and_iff_right hl]
          exact iff_of_true Iff.rfl fun h => hl.elim h.1 h.2
        · rw [not_or] at hl
          exact iff_of_false (fun h => absurd (h.mp (tolerated_of_length hl.1 hl.2)).1 (not_or.mpr hl))
            (not_not.mpr hl)
      · refine iff_of_true (iff_of_false ?_ ?_) ?_
        · exact fun h => h.1.elim hs hc
        · exact fun h => (documented_keyword h).elim hs hc
        · rintro (h | h)
          · exact hs h.1
          · exact hc h.1

theorem acceptsAsDocumented_iff_accepted (argv : List CString) :
    AcceptsAsDocumented argv ↔ (Accepted argv.tail ↔ Documented argv.tail) := by
  rw [← parseArgs_ok_iff]
  constructor
  · intro h
    obtain ⟨hdoc, hother⟩ := h defaultClass ledsOff (fun _ => undisturbed .noOpen) 0
    by_cases hd : Documented argv.tail
    · obtain ⟨st, hst⟩ := hdoc hd
      refine iff_of_true ?_ hd
      unfold main at hst
      split at hst
      · rename_i info hp
        exact ⟨info, hp⟩
      · cases hst
    · obtain ⟨printed, _, hreturned⟩ := hother hd
      refine iff_of_false ?_ hd
      rintro ⟨info, hp⟩
      rw [main, hp] at hreturned
      cases hreturned
  · intro h k leds env passes
    refine ⟨fun hd => ?_, fun hd => ?_⟩
    · obtain ⟨info, hp⟩ := h.mpr hd
      rw [main, hp]
      exact ⟨_, rfl⟩
    · cases hp : parseArgs argv with
      | ok info => exact absurd (h.mp ⟨info, hp⟩) hd
      | error texts =>
        rw [main, hp]
        exact ⟨_, List.mem_append_right _ (List.mem_singleton_self _), rfl⟩

/-- Among the command lines whose numeric arguments are numerals exactly the
misparsed ones are not treated as documented. -/
theorem accepts_as_documented_iff (argv : List CString) (hn : NumericArgs argv.tail) :
    AcceptsAsDocumented argv ↔ ¬ Misparsed argv.tail :=
  (acceptsAsDocumented_iff_accepted argv).trans (accepted_iff_documented_iff argv.tail hn)

theorem accepts_as_documented_iff_blink :
    AcceptsAsDocumented (["panel_led", "red", "blink", "100", "70000"].map String.toList) := by
  refine (accepts_as_documented_iff _ ?_).mpr ?_
  · exact fun _ _ => ⟨⟨100, by decide, by decide⟩, ⟨70000, by decide, by decide⟩⟩
  · rintro (⟨h, _⟩ | ⟨_, _, h⟩)
    · exact absurd h (by decide)
    · exact h rfl

/-- `panel_led green` enters the loop in debug mode with the default value, and a
status keyword takes blink delays along. -/
theorem colour_alone_enters_loop :
    ¬ AcceptsAsDocumented (["panel_led", "green"].map String.toList) ∧
      ¬ AcceptsAsDocumented
        (["panel_led", "system_start", "blink", "1", "1"].map String.toList) := by
  refine ⟨fun h => ?_, fun h => ?_⟩
  · obtain ⟨printed, _, hreturned⟩ :=
      (h defaultClass ledsOff (fun _ => undisturbed .noOpen) 0).2 (by
        change ¬ ("green".toList ∈ statusKeywords)
        decide)
    cases hreturned
  · obtain ⟨printed, _, hreturned⟩ :=
      (h defaultClass ledsOff (fun _ => undisturbed .noOpen) 0).2 fun hd => by
        have hc : "system_start".toList ∈ colours := hd.1
        exact absurd hc (by decide)
    cases hreturned

end BoardServices.PanelLed
