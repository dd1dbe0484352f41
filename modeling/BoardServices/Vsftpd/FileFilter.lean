import BoardServices.Lib.Segments
import BoardServices.Vsftpd.IpAddrParse

/-!
# Names and filters (vsftpd-3.0.3/ls.c, access.c)

`vsf_filename_passes_filter` matches a name against `*`, `?` and lists in braces.
It never goes back on a match it has found, and it counts its iterations across
the calls for the alternatives of a list.
-/

namespace BoardServices.Vsftpd
open Lib

def star : UInt8 := 42
def question : UInt8 := 63
def openBrace : UInt8 := 123
def closeBrace : UInt8 := 125

/-- The tokens that are looked for. -/
def special : List UInt8 := [star, question, openBrace]

def vsftpMatchitersMax : ℕ := 1000

/-- `str_locate_chars` -/
def strLocateChars (chars : List UInt8) : MyStr → Option (ℕ × UInt8)
  | [] => none
  | c :: s => if c ∈ chars then some (0, c) else (strLocateChars chars s).map fun r => (r.1 + 1, r.2)

/-- `str_locate_str`, which looks for the text up to its first NUL. -/
def strLocateStr (s look : MyStr) : Option ℕ := strLocateText s (look.takeWhile (· ≠ nul))

/-- The text that must be matched is found and cut off, with what stands before it. -/
def matchNeeded (needed name : MyStr) (mustMatchAtCurrentPos : Bool) : Option MyStr :=
  if needed = [] then some name
  else
    match strLocateStr name needed with
    | none => none
    | some index =>
      if mustMatchAtCurrentPos ∧ index > 0 then none else some (name.drop (index + needed.length))

/-- The items of a list in braces, up to the first empty one. -/
def braceAlternatives : ℕ → MyStr → List MyStr
  | 0, _ => []
  | fuel + 1, braceList =>
    let (item, rest) := strSplitChar braceList comma
    if item = [] then [] else item :: braceAlternatives fuel rest

/-- The alternatives in turn, with the iterations that are left. -/
def tryAlternatives (passes : ℕ → MyStr → Bool × ℕ) : ℕ → List MyStr → Bool × ℕ
  | left, [] => (false, left)
  | left, item :: items =>
    match passes left item with
    | (true, left) => (true, left)
    | (false, left) => tryAlternatives passes left items

/-- The loop, where `left` of the iterations may still be made. -/
def passesFilter : ℕ → ℕ → MyStr → MyStr → Bool → UInt8 → Bool × ℕ
  | 0, left, _, _, _, _ => (false, left)
  | fuel + 1, left, filterRemain, nameRemain, mustMatch, lastToken =>
    if filterRemain = [] ∨ left = 0 then
      ((nameRemain = [] ∨ lastToken = star) ∧ left ≠ 0, left)
    else
      let left := left - 1
      let (needed, filterRemain, lastToken) :=
        match strLocateChars special filterRemain with
        | some (index, c) => (filterRemain.take index, filterRemain.drop (index + 1), c)
        | none => (filterRemain, [], 0)
      match matchNeeded needed nameRemain mustMatch with
      | none => (false, left)
      | some nameRemain =>
        if lastToken = question then
          match nameRemain with
          | [] => (false, left)
          | _ :: nameRemain => passesFilter fuel left filterRemain nameRemain true lastToken
        else if lastToken = openBrace then
          match strLocateText filterRemain [closeBrace] with
          | some _ =>
            let (braceList, filterRemain) := strSplitChar filterRemain closeBrace
            tryAlternatives
              (fun left item => passesFilter fuel left (item ++ filterRemain) nameRemain true 0)
              left (braceAlternatives braceList.length braceList)
          | none =>
            match nameRemain with
            | [] => (false, left)
            | c :: nameRemain =>
              if c ≠ openBrace then (false, left)
              else passesFilter fuel left filterRemain nameRemain true lastToken
        else passesFilter fuel left filterRemain nameRemain false lastToken

/-- `vsf_filename_passes_filter`, with so many iterations left. -/
def vsfFilenamePassesFilter (filename filter : MyStr) (left : ℕ) : Bool × ℕ :=
  passesFilter (filter.length + 1) left filter filename true 0

/-- `vsf_access_check_file` and `vsf_access_check_file_visible`, for the value of
`deny_file` or `hide_file`. -/
def vsfAccessCheckFile (tunable : Option MyStr) (filename : MyStr) : Bool :=
  match tunable with
  | none => true
  | some access =>
    !(vsfFilenamePassesFilter filename access vsftpMatchitersMax).1 && (strLocateStr filename access).isNone

/-! ### What a filter stands for -/

/-- The names of a filter. A list in braces ends at the first closing brace, and
an opening brace that is never closed stands for itself. -/
inductive Matches : MyStr → MyStr → Prop
  | nil : Matches [] []
  | star {f name : MyStr} (x : MyStr) (h : Matches f name) : Matches (star :: f) (x ++ name)
  | question {f name : MyStr} (c : UInt8) (h : Matches f name) : Matches (question :: f) (c :: name)
  | char {f name : MyStr} {c : UInt8} (hc : c ∉ special) (h : Matches f name) :
    Matches (c :: f) (c :: name)
  | item {f name items item : MyStr} (hclose : closeBrace ∉ items)
    (hitem : item ∈ items.splitOn comma) (h : Matches (item ++ f) name) :
    Matches (openBrace :: (items ++ closeBrace :: f)) name
  | brace {f name : MyStr} (hopen : closeBrace ∉ f) (h : Matches f name) :
    Matches (openBrace :: f) (openBrace :: name)

theorem Matches.chars {needed f name : MyStr} (hn : ∀ c ∈ needed, c ∉ special) (h : Matches f name) :
    Matches (needed ++ f) (needed ++ name) := by
  induction needed with
  | nil => exact h
  | cons c needed ih =>
    apply Matches.char (hn c List.mem_cons_self)
    exact ih fun d hd => hn d (List.mem_cons_of_mem _ hd)

/-! ### What the searches find -/

section Search
variable {s look : MyStr} {i : ℕ} {c : UInt8}

theorem strLocateText_some (h : strLocateText s look = some i) :
    ∃ x y, Segments.First look s x y ∧ x.length = i := by
  induction s generalizing i with
  | nil => cases h
  | cons c s ih =>
    rw [strLocateText] at h
    split_ifs at h with hshort hpre
    · obtain ⟨y, hy⟩ := List.isPrefixOf_iff_prefix.mp hpre
      refine ⟨[], y, ⟨hy.symm, fun _ _ _ => Nat.zero_le _⟩, Option.some.inj h⟩
    · obtain ⟨j, hj, rfl⟩ := Option.map_eq_some_iff.mp h
      obtain ⟨x, y, hfirst, rfl⟩ := ih hj
      refine ⟨c :: x, y, ⟨by rw [hfirst.here]; rfl, fun x' y' h' => ?_⟩, rfl⟩
      cases x' with
      | nil => exact absurd (List.isPrefixOf_iff_prefix.mpr ⟨y', h'.symm⟩) hpre
      | cons d x' =>
        have hrest:=hfirst.first x' y' (List.cons.inj h').2
        simpa using hrest

theorem strLocateText_none (hne : look ≠ []) (h : strLocateText s look = none) : ¬ look <:+: s := by
  induction s with
  | nil => exact fun hin => hne (List.eq_nil_of_infix_nil hin)
  | cons c s ih =>
    rw [strLocateText] at h
    split_ifs at h with hshort hpre
    · intro hin
      have hlen:=hin.length_le
      exact absurd hlen (not_le.mpr (hshort.resolve_left hne))
    · rw [List.infix_cons_iff]
      rintro (hin | hin)
      · exact hpre (List.isPrefixOf_iff_prefix.mpr hin)
      · exact ih (Option.map_eq_none_iff.mp h) hin

theorem strLocateStr_eq (h : nul ∉ look) (s : MyStr) : strLocateStr s look = strLocateText s look := by
  have hall : look.takeWhile (· ≠ nul) = look := by
    refine List.takeWhile_eq_self_iff.mpr fun c hc => ?_
    exact decide_eq_true fun he => h (he ▸ hc)
  rw [strLocateStr, hall]

theorem strLocateChars_some {chars : List UInt8} (h : strLocateChars chars s = some (i, c)) :
    s = s.take i ++ c :: s.drop (i + 1) ∧ c ∈ chars ∧ ∀ x ∈ s.take i, x ∉ chars := by
  induction s generalizing i with
  | nil => cases h
  | cons d s ih =>
    rw [strLocateChars] at h
    split_ifs at h with hd
    · obtain ⟨rfl, rfl⟩ := Prod.mk.inj (Option.some.inj h)
      exact ⟨rfl, hd, fun x hx => by cases hx⟩
    · obtain ⟨⟨j, e⟩, hj, hr⟩ := Option.map_eq_some_iff.mp h
      obtain ⟨rfl, rfl⟩ := Prod.mk.inj hr
      obtain ⟨hs, he, hbefore⟩ := ih hj
      refine ⟨congrArg (List.cons d) hs, he, fun x hx => ?_⟩
      rcases List.mem_cons.mp hx with rfl | hx
      · exact hd
      · exact hbefore x hx

theorem strLocateChars_none {chars : List UInt8} (h : strLocateChars chars s = none) :
    ∀ x ∈ s, x ∉ chars := by
  induction s with
  | nil => exact fun x hx => by cases hx
  | cons d s ih =>
    rw [strLocateChars] at h
    split_ifs at h with hd
    intro x hx
    rcases List.mem_cons.mp hx with rfl | hx
    · exact hd
    · exact ih (Option.map_eq_none_iff.mp h) x hx

end Search

/-! ### One step of the loop -/

section Steps
variable {needed name name' : MyStr} {mustMatch : Bool}

theorem matchNeeded_some (hn : nul ∉ needed) (h : matchNeeded needed name mustMatch = some name') :
    ∃ x, Segments.First needed name x name' ∧ (mustMatch = true → x = []) := by
  unfold matchNeeded at h
  split_ifs at h with hempty
  · obtain rfl := Option.some.inj h
    subst hempty
    exact ⟨[], ⟨rfl, fun _ _ _ => Nat.zero_le _⟩, fun _ => rfl⟩
  · rw [strLocateStr_eq hn] at h
    cases hl : strLocateText name needed with
    | none =>
      rw [hl] at h
      cases h
    | some i =>
      rw [hl] at h
      obtain ⟨x, y, hfirst, rfl⟩ := strLocateText_some hl
      dsimp only at h
      split_ifs at h with hmust
      have hdrop : name.drop (x.length + needed.length) = y := by
        rw [hfirst.here]
        exact List.drop_left' (by simp)
      rw [hdrop] at h
      obtain rfl := Option.some.inj h
      refine ⟨x, hfirst, fun hm => ?_⟩
      by_contra hne
      exact hmust ⟨hm, List.length_pos_of_ne_nil hne⟩

theorem mem_braceAlternatives {fuel : ℕ} {list item : MyStr} (h : item ∈ braceAlternatives fuel list) :
    item ∈ list.splitOn comma ∧ item ⊆ list := by
  induction fuel generalizing list with
  | zero => cases h
  | succ fuel ih =>
    by_cases hc : comma ∈ list
    · obtain ⟨l, r, rfl, hl⟩ := List.eq_append_cons_of_mem hc
      rw [List.splitOn_append_cons_self_of_not_mem hl]
      simp only [braceAlternatives, strSplitChar_append hl] at h
      split_ifs at h with hempty
      · cases h
      · rcases List.mem_cons.mp h with rfl | h
        · exact ⟨List.mem_cons_self, List.subset_append_left _ _⟩
        · obtain ⟨hmem, hsub⟩ := ih h
          refine ⟨List.mem_cons_of_mem _ hmem, fun d hd => ?_⟩
          exact List.mem_append_right _ (List.mem_cons_of_mem _ (hsub hd))
    · rw [List.splitOn_eq_singleton hc]
      simp only [braceAlternatives, strSplitChar_of_not_mem hc] at h
      split_ifs at h with hempty
      · cases h
      · rcases List.mem_cons.mp h with rfl | h
        · exact ⟨List.mem_cons_self, List.Subset.refl _⟩
        · have hnone : braceAlternatives fuel [] = [] := by cases fuel <;> rfl
          rw [hnone] at h
          cases h

theorem tryAlternatives_true {passes : ℕ → MyStr → Bool × ℕ} {left : ℕ} {items : List MyStr}
    (h : (tryAlternatives passes left items).1 = true) :
    ∃ item ∈ items, ∃ left, (passes left item).1 = true := by
  induction items generalizing left with
  | nil => cases h
  | cons item items ih =>
    rw [tryAlternatives] at h
    split at h
    · next hpass => exact ⟨item, List.mem_cons_self, left, by rw [hpass]⟩
    · obtain ⟨item', hmem, hpass⟩ := ih h
      exact ⟨item', List.mem_cons_of_mem _ hmem, hpass⟩

theorem passesFilter_nil {fuel left : ℕ} {lastToken : UInt8}
    (h : (passesFilter fuel left [] name mustMatch lastToken).1 = true) :
    name = [] ∨ lastToken = star := by
  cases fuel with
  | zero => cases h
  | succ fuel =>
    rw [passesFilter, if_pos (Or.inl rfl)] at h
    exact (of_decide_eq_true h).1

end Steps

/-- What passes is a name of the filter; without `mustMatch` something may stand before it. -/
def PassesSound (fuel : ℕ) : Prop :=
  ∀ left filter name mustMatch lastToken, nul ∉ filter → (lastToken = star → mustMatch = false) →
    (passesFilter fuel left filter name mustMatch lastToken).1 = true →
    ∃ x y, name = x ++ y ∧ Matches filter y ∧ (mustMatch = true → x = [])

theorem PassesSound.here {fuel left : ℕ} (ih : PassesSound fuel) {filter name : MyStr} {lastToken : UInt8}
    (hnul : nul ∉ filter) (hlast : lastToken ≠ star)
    (h : (passesFilter fuel left filter name true lastToken).1 = true) : Matches filter name := by
  obtain ⟨x, y, rfl, hmatch, hx⟩ := ih left filter name true lastToken hnul (fun he => absurd he hlast) h
  rw [hx rfl]
  exact hmatch

theorem char_mem_iff {s : MyStr} {c : UInt8} : (strLocateText s [c]).isSome = true ↔ c ∈ s := by
  cases h : strLocateText s [c] with
  | none =>
    have hno:=strLocateText_none (List.cons_ne_nil c []) h
    rw [List.singleton_infix_iff] at hno
    simpa using hno
  | some i =>
    obtain ⟨x, y, hfirst, _⟩ := strLocateText_some h
    rw [hfirst.here]
    simp

/-- By induction on the loop and the calls it makes. -/
theorem passesFilter_sound (fuel : ℕ) : PassesSound fuel := by
  induction fuel with
  | zero =>
    intro left filter name mustMatch lastToken _ _ h
    cases h
  | succ fuel ih =>
    intro left filter name mustMatch lastToken hnul hlast h
    rw [passesFilter] at h
    by_cases hstop : filter = [] ∨ left = 0
    · rw [if_pos hstop] at h
      obtain ⟨hend, hleft⟩ := of_decide_eq_true h
      obtain rfl := hstop.resolve_right hleft
      refine ⟨name, [], (List.append_nil _).symm, Matches.nil, fun hm => ?_⟩
      refine hend.resolve_right fun hs => ?_
      rw [hlast hs] at hm
      cases hm
    rw [if_neg hstop] at h
    cases hchars : strLocateChars special filter with
    | none =>
      have hplain:=strLocateChars_none hchars
      rw [hchars] at h
      dsimp only at h
      cases hneed : matchNeeded filter name mustMatch with
      | none =>
        rw [hneed] at h
        cases h
      | some name' =>
        obtain ⟨x, hfirst, hx⟩ := matchNeeded_some hnul hneed
        rw [hneed] at h
        have hend : name' = [] := (passesFilter_nil h).resolve_right (by decide)
        subst hend
        refine ⟨x, filter, by simpa using hfirst.here, ?_, hx⟩
        simpa using Matches.chars hplain Matches.nil
    | some found =>
      obtain ⟨i, c⟩ := found
      obtain ⟨hsplit, hc, hplain⟩ := strLocateChars_some hchars
      rw [hchars] at h
      dsimp only at h
      generalize filter.take i = needed at h hsplit hplain
      generalize filter.drop (i + 1) = rest at h hsplit
      subst hsplit
      rw [List.mem_append, List.mem_cons, not_or, not_or] at hnul
      obtain ⟨hneeded, _, hrest⟩ := hnul
      cases hneed : matchNeeded needed name mustMatch with
      | none =>
        rw [hneed] at h
        cases h
      | some name' =>
        obtain ⟨x, hfirst, hx⟩ := matchNeeded_some hneeded hneed
        rw [hneed] at h
        dsimp only at h
        refine ⟨x, needed ++ name', by rw [hfirst.here, List.append_assoc], ?_, hx⟩
        apply Matches.chars hplain
        split_ifs at h with hq hb
        · subst hq
          cases name' with
          | nil => cases h
          | cons d name' =>
            exact Matches.question d (ih.here hrest (by decide) h)
        · subst hb
          cases hclose : strLocateText rest [closeBrace] with
          | some j =>
            rw [hclose] at h
            have hmem : closeBrace ∈ rest := char_mem_iff.mp (by rw [hclose]; rfl)
            obtain ⟨l, r, rfl, hl⟩ := List.eq_append_cons_of_mem hmem
            simp only [strSplitChar_append hl] at h
            obtain ⟨item, hitem, left', hpass⟩ := tryAlternatives_true h
            obtain ⟨hsplit, hsub⟩ := mem_braceAlternatives hitem
            simp only [List.mem_append, List.mem_cons, not_or] at hrest
            have hitems : nul ∉ item ++ r := by
              rw [List.mem_append]
              rintro (hi | hr)
              · exact hrest.1 (hsub hi)
              · exact hrest.2.2 hr
            exact Matches.item hl hsplit (ih.here hitems (by decide) hpass)
          | none =>
            have hmem : closeBrace ∉ rest := fun hin => by
              have hsome:=char_mem_iff.mpr hin
              rw [hclose] at hsome
              cases hsome
            rw [hclose] at h
            cases name' with
            | nil => cases h
            | cons d name' =>
              dsimp only at h
              split_ifs at h with hd
              obtain rfl := not_not.mp hd
              exact Matches.brace hmem (ih.here hrest (by decide) h)
        · have hs : c = star := by simpa [special, hq, hb] using hc
          subst hs
          obtain ⟨x', y, rfl, hmatch, _⟩ := ih _ _ _ _ _ hrest (fun _ => rfl) h
          exact Matches.star x' hmatch

/-- A name that passes is a name of the filter. -/
theorem filter_sound (filename filter : MyStr) (left : ℕ) (hnul : nul ∉ filter)
    (h : (vsfFilenamePassesFilter filename filter left).1 = true) : Matches filter filename :=
  (passesFilter_sound _).here hnul (by decide) h

/-- `?a{b,c}*` and a name it passes. -/
theorem filter_sound_braces :
    Matches [question, 97, openBrace, 98, comma, 99, closeBrace, star] [120, 97, 99, 100] :=
  filter_sound _ _ vsftpMatchitersMax (by decide) (by decide)

/-! ### Filters of characters and stars -/

section Stars
variable {f needed name name' : MyStr} {c : UInt8}

theorem matches_nil_iff : Matches [] name ↔ name = [] := by
  constructor
  · intro h
    cases h
    rfl
  · rintro rfl
    exact Matches.nil

theorem matches_char_iff (hc : c ∉ special) :
    Matches (c :: f) name ↔ ∃ n, name = c :: n ∧ Matches f n := by
  constructor
  · intro h
    generalize hg : c :: f = g at h
    cases h with
    | nil => cases hg
    | star x h => exact absurd (List.cons.inj hg).1 (fun he => hc (by rw [he]; decide))
    | question d h => exact absurd (List.cons.inj hg).1 (fun he => hc (by rw [he]; decide))
    | char hd h =>
      obtain ⟨rfl, rfl⟩ := List.cons.inj hg
      exact ⟨_, rfl, h⟩
    | item hclose hitem h => exact absurd (List.cons.inj hg).1 (fun he => hc (by rw [he]; decide))
    | brace hopen h => exact absurd (List.cons.inj hg).1 (fun he => hc (by rw [he]; decide))
  · rintro ⟨n, rfl, h⟩
    exact Matches.char hc h

theorem matches_star_iff : Matches (star :: f) name ↔ ∃ x y, name = x ++ y ∧ Matches f y := by
  constructor
  · intro h
    generalize hg : star :: f = g at h
    cases h with
    | nil => cases hg
    | star x h =>
      obtain rfl := (List.cons.inj hg).2
      exact ⟨x, _, rfl, h⟩
    | question d h => exact absurd (List.cons.inj hg).1 (by decide)
    | char hd h => exact absurd (List.cons.inj hg).1 (fun he => hd (by rw [← he]; decide))
    | item hclose hitem h => exact absurd (List.cons.inj hg).1 (by decide)
    | brace hopen h => exact absurd (List.cons.inj hg).1 (by decide)
  · rintro ⟨x, y, rfl, h⟩
    exact Matches.star x h

theorem matches_chars_iff (hn : ∀ c ∈ needed, c ∉ special) :
    Matches (needed ++ f) name ↔ ∃ n, name = needed ++ n ∧ Matches f n := by
  constructor
  · intro h
    induction needed generalizing name with
    | nil => exact ⟨name, rfl, h⟩
    | cons c needed ih =>
      obtain ⟨n, rfl, htail⟩ := (matches_char_iff (hn c List.mem_cons_self)).mp h
      obtain ⟨m, rfl, hrest⟩ := ih (fun d hd => hn d (List.mem_cons_of_mem _ hd)) htail
      exact ⟨m, rfl, hrest⟩
  · rintro ⟨n, rfl, h⟩
    exact Matches.chars hn h

theorem matches_star_chars_iff (hn : ∀ c ∈ needed, c ∉ special) :
    Matches (star :: (needed ++ f)) name ↔ ∃ x y, name = x ++ needed ++ y ∧ Matches f y := by
  rw [matches_star_iff]
  constructor
  · rintro ⟨x, y, rfl, h⟩
    obtain ⟨n, rfl, hrest⟩ := (matches_chars_iff hn).mp h
    exact ⟨x, n, (List.append_assoc x needed n).symm, hrest⟩
  · rintro ⟨x, y, rfl, h⟩
    exact ⟨x, needed ++ y, List.append_assoc x needed y, (matches_chars_iff hn).mpr ⟨y, rfl, h⟩⟩

theorem Matches.star_append (h : Matches (Vsftpd.star :: f) name) (z : MyStr) :
    Matches (Vsftpd.star :: f) (z ++ name) := by
  obtain ⟨x, y, rfl, hrest⟩ := matches_star_iff.mp h
  rw [← List.append_assoc]
  exact Matches.star (z ++ x) hrest

/-- What the matcher makes of such a filter: behind the last star, the first
match has to be at the end. -/
def Exactly (f name : MyStr) : Prop :=
  if f.getLast? = some star then Matches f name else Segments.Shortest (Matches f) name

theorem getLast?_append_cons (l : MyStr) (c : UInt8) (f : MyStr) :
    (l ++ c :: f).getLast? = (c :: f).getLast? := by
  rw [List.getLast?_append, Option.or_of_isSome (by simp)]

/-- Where the match must be here, the characters go first. -/
theorem exactly_chars_iff (hn : ∀ c ∈ needed, c ∉ special) (rest : MyStr) :
    Exactly (needed ++ star :: rest) (needed ++ name') ↔ Exactly (star :: rest) name' := by
  have hmatch : ∀ n, Matches (needed ++ star :: rest) (needed ++ n) ↔ Matches (star :: rest) n := by
    intro n
    rw [matches_chars_iff hn]
    constructor
    · rintro ⟨m, hm, h⟩
      rw [List.append_cancel_left hm]
      exact h
    · exact fun h => ⟨n, rfl, h⟩
  unfold Exactly
  rw [getLast?_append_cons]
  split_ifs
  · exact hmatch name'
  · constructor
    · rintro ⟨h, hwhole⟩
      refine ⟨(hmatch name').mp h, fun q hq hm => ?_⟩
      have heq:=hwhole (needed ++ q) ((List.prefix_append_right_inj needed).mpr hq) ((hmatch q).mpr hm)
      exact List.append_cancel_left heq
    · rintro ⟨h, hwhole⟩
      refine ⟨(hmatch name').mpr h, fun p hp hm => ?_⟩
      obtain ⟨q, rfl, hq⟩ := (matches_chars_iff hn).mp hm
      rw [hwhole q ((List.prefix_append_right_inj needed).mp hp) hq]

/-- Behind a star the characters are found where they occur first. -/
theorem exactly_star_chars_iff (hn : ∀ c ∈ needed, c ∉ special) {x : MyStr}
    (hfirst : Segments.First needed name x name') (rest : MyStr) :
    Exactly (star :: (needed ++ star :: rest)) name ↔ Exactly (star :: rest) name' := by
  have hmatch : Matches (star :: (needed ++ star :: rest)) =
      fun p => ∃ a t, p = a ++ needed ++ t ∧ Matches (star :: rest) t :=
    funext fun p => propext (matches_star_chars_iff hn)
  have habsorb : ∀ z t, Matches (star :: rest) t → Matches (star :: rest) (z ++ t) :=
    fun z t h => h.star_append z
  unfold Exactly
  rw [← List.cons_append, getLast?_append_cons, List.cons_append, hmatch]
  split_ifs
  · exact hfirst.exists_iff habsorb
  · exact hfirst.shortest_iff habsorb

theorem strLocateChars_append (hn : ∀ c ∈ needed, c ∉ special) (hc : c ∈ special) (rest : MyStr) :
    strLocateChars special (needed ++ c :: rest) = some (needed.length, c) := by
  induction needed with
  | nil =>
    rw [List.nil_append, strLocateChars, if_pos hc]
    rfl
  | cons d needed ih =>
    rw [List.cons_append, strLocateChars, if_neg (hn d List.mem_cons_self),
      ih fun e he => hn e (List.mem_cons_of_mem _ he)]
    rfl

theorem strLocateChars_plain (hn : ∀ c ∈ needed, c ∉ special) : strLocateChars special needed = none := by
  induction needed with
  | nil => rfl
  | cons d needed ih =>
    rw [strLocateChars, if_neg (hn d List.mem_cons_self), ih fun e he => hn e (List.mem_cons_of_mem _ he)]
    rfl

theorem matchNeeded_none {mustMatch : Bool} (hn : nul ∉ needed)
    (h : matchNeeded needed name mustMatch = none) (x y : MyStr) (hx : mustMatch = true → x = []) :
    name ≠ x ++ needed ++ y := by
  rintro rfl
  unfold matchNeeded at h
  split_ifs at h with hempty
  rw [strLocateStr_eq hn] at h
  cases hl : strLocateText (x ++ needed ++ y) needed with
  | none => exact strLocateText_none hempty hl ⟨x, y, rfl⟩
  | some i =>
    obtain ⟨x', y', hfirst, rfl⟩ := strLocateText_some hl
    rw [hl] at h
    dsimp only at h
    split_ifs at h with hmust
    have hle:=hfirst.first x y rfl
    rw [hx hmust.1] at hle
    exact absurd hle (not_le.mpr hmust.2)

section Runs
variable {fuel left : ℕ} {mustMatch : Bool} {lastToken : UInt8}

theorem passesFilter_star (hn : ∀ c ∈ needed, c ∉ special) (rest : MyStr) :
    passesFilter (fuel + 1) (left + 1) (needed ++ star :: rest) name mustMatch lastToken =
      match matchNeeded needed name mustMatch with
      | none => (false, left)
      | some name' => passesFilter fuel left rest name' false star := by
  have hgo : ¬ (needed ++ star :: rest = [] ∨ left + 1 = 0) := by simp
  have htake : (needed ++ star :: rest).take needed.length = needed := List.take_left
  have hdrop : (needed ++ star :: rest).drop (needed.length + 1) = rest := by
    rw [← List.drop_drop, List.drop_left]
    rfl
  rw [passesFilter, if_neg hgo, strLocateChars_append hn (by decide)]
  simp only [htake, hdrop, Nat.add_sub_cancel]
  cases matchNeeded needed name mustMatch with
  | none => rfl
  | some name' => rfl

theorem passesFilter_plain (hn : ∀ c ∈ needed, c ∉ special) (hne : needed ≠ []) :
    (passesFilter (fuel + 2) (left + 2) needed name mustMatch lastToken).1 = true ↔
      matchNeeded needed name mustMatch = some [] := by
  have hgo : ¬ (needed = [] ∨ left + 2 = 0) := by simp [hne]
  rw [passesFilter, if_neg hgo, strLocateChars_plain hn]
  dsimp only
  cases matchNeeded needed name mustMatch with
  | none => simp
  | some name' =>
    have hlast : ¬ ((0 : UInt8) = question) := by decide
    have hlast' : ¬ ((0 : UInt8) = openBrace) := by decide
    have hstar : ¬ ((0 : UInt8) = star) := by decide
    dsimp only
    rw [if_neg hlast, if_neg hlast', passesFilter, if_pos (Or.inl rfl)]
    simp [hstar]

end Runs

theorem Exactly.matches (h : Exactly f name) : Matches f name := by
  unfold Exactly at h
  split_ifs at h
  · exact h
  · exact h.holds

section Plain
variable (hn : ∀ c ∈ needed, c ∉ special)
include hn

theorem matches_plain_iff : Matches needed name ↔ name = needed := by
  have hiff : Matches (needed ++ []) name ↔ ∃ n, name = needed ++ n ∧ Matches [] n := matches_chars_iff hn
  rw [List.append_nil] at hiff
  rw [hiff]
  constructor
  · rintro ⟨n, rfl, h⟩
    rw [matches_nil_iff.mp h, List.append_nil]
  · rintro rfl
    exact ⟨[], (List.append_nil _).symm, Matches.nil⟩

theorem getLast?_plain : needed.getLast? ≠ some star :=
  fun h => hn star (List.mem_of_getLast? h) (by decide)

/-- No star at all: the name itself. -/
theorem exactly_plain_iff : Exactly needed name ↔ name = needed := by
  unfold Exactly
  rw [if_neg (getLast?_plain hn)]
  constructor
  · exact fun h => (matches_plain_iff hn).mp h.holds
  · rintro rfl
    exact ⟨(matches_plain_iff hn).mpr rfl, fun p _ hp => (matches_plain_iff hn).mp hp⟩

/-- One star, and what it ends in. -/
theorem exactly_star_plain_iff (hne : needed ≠ []) :
    Exactly (star :: needed) name ↔ Segments.Shortest (fun p => needed <:+ p) name := by
  have hmatch : Matches (star :: needed) = fun p => needed <:+ p := by
    funext p
    rw [matches_star_iff]
    refine propext ⟨?_, ?_⟩
    · rintro ⟨x, y, rfl, h⟩
      rw [(matches_plain_iff hn).mp h]
      exact List.suffix_append x needed
    · rintro ⟨x, rfl⟩
      exact ⟨x, needed, rfl, (matches_plain_iff hn).mpr rfl⟩
  have hlast : (star :: needed).getLast? = needed.getLast? := List.getLast?_cons_of_ne_nil hne
  unfold Exactly
  rw [hlast, if_neg (getLast?_plain hn), hmatch]

end Plain

theorem plain_of_not_mem (hs : star ∉ f) (hq : question ∉ f) (hb : openBrace ∉ f) :
    ∀ c ∈ f, c ∉ special := by
  intro c hc hspecial
  simp only [special, List.mem_cons, List.not_mem_nil, or_false] at hspecial
  rcases hspecial with rfl | rfl | rfl
  · exact hs hc
  · exact hq hc
  · exact hb hc

/-- The last round of the loop. -/
theorem passesFilter_last {fuel left : ℕ} {mustMatch : Bool} {lastToken : UInt8}
    (hplain : ∀ c ∈ f, c ∉ special) (hnul : nul ∉ f) (hne : f ≠ []) :
    (passesFilter (fuel + 2) (left + 2) f name mustMatch lastToken).1 = true ↔
      Exactly (if mustMatch = true then f else star :: f) name := by
  rw [passesFilter_plain hplain hne]
  cases hm : matchNeeded f name mustMatch with
  | none =>
    have hno:=matchNeeded_none hnul hm
    refine iff_of_false (by simp) fun h => ?_
    split_ifs at h with hmust
    · exact hno [] [] (fun _ => rfl) (by simpa using (exactly_plain_iff hplain).mp h)
    · obtain ⟨x, hx⟩ := ((exactly_star_plain_iff hplain hne).mp h).holds
      exact hno x [] (fun h => absurd h hmust) (by simpa using hx.symm)
  | some name' =>
    obtain ⟨x, hfirst, hx⟩ := matchNeeded_some hnul hm
    rw [Option.some.injEq]
    split_ifs with hmust
    · obtain rfl := hx hmust
      rw [exactly_plain_iff hplain, hfirst.here]
      simp
    · rw [exactly_star_plain_iff hplain hne]
      exact hfirst.nil_iff

/-- The whole loop, by induction on it. -/
theorem passesFilter_exact {fuel left : ℕ} {mustMatch : Bool} {lastToken : UInt8}
    (hq : question ∉ f) (hb : openBrace ∉ f) (hnul : nul ∉ f) (hfuel : f.length < fuel)
    (hleft : f.count star + 1 < left) (hstart : mustMatch = true ∧ lastToken ≠ star ∨
      mustMatch = false ∧ lastToken = star) :
    (passesFilter fuel left f name mustMatch lastToken).1 = true ↔
      Exactly (if mustMatch = true then f else star :: f) name := by
  induction fuel generalizing left f name mustMatch lastToken with
  | zero => exact absurd hfuel (Nat.not_lt_zero _)
  | succ fuel ih =>
    by_cases hs : star ∈ f
    · obtain ⟨needed, rest, rfl, hns⟩ := List.eq_append_cons_of_mem hs
      obtain ⟨left, rfl⟩ : ∃ k, left = k + 1 := ⟨left - 1, by omega⟩
      simp only [List.mem_append, List.mem_cons, not_or] at hq hb hnul
      have hplain:=plain_of_not_mem hns hq.1 hb.1
      have hcount : (needed ++ star :: rest).count star = rest.count star + 1 := by
        rw [List.count_append, List.count_eq_zero_of_not_mem hns, List.count_cons_self, Nat.zero_add]
      have hrest : ∀ name', (passesFilter fuel left rest name' false star).1 = true ↔
          Exactly (star :: rest) name' := fun name' =>
        ih hq.2.2 hb.2.2 hnul.2.2 (by simp only [List.length_append, List.length_cons] at hfuel; omega)
          (by omega) (Or.inr ⟨rfl, rfl⟩)
      rw [passesFilter_star hplain]
      cases hm : matchNeeded needed name mustMatch with
      | none =>
        have hno:=matchNeeded_none hnul.1 hm
        refine iff_of_false (by simp) fun h => ?_
        split_ifs at h with hmust
        · obtain ⟨n, rfl, _⟩ := (matches_chars_iff hplain).mp h.matches
          exact hno [] n (fun _ => rfl) rfl
        · obtain ⟨x, y, rfl, _⟩ := (matches_star_chars_iff hplain).mp h.matches
          exact hno x y (fun h => absurd h hmust) rfl
      | some name' =>
        obtain ⟨x, hfirst, hx⟩ := matchNeeded_some hnul.1 hm
        rw [hrest]
        split_ifs with hmust
        · obtain rfl := hx hmust
          rw [hfirst.here, List.nil_append, exactly_chars_iff hplain]
        · exact (exactly_star_chars_iff hplain hfirst rest).symm
    · have hplain:=plain_of_not_mem hs hq hb
      by_cases hne : f = []
      · subst hne
        have hleft' : left ≠ 0 := by omega
        rw [passesFilter, if_pos (Or.inl rfl)]
        rcases hstart with ⟨rfl, hlast⟩ | ⟨rfl, rfl⟩
        · rw [if_pos rfl, exactly_plain_iff hplain]
          simp [hlast, hleft']
        · have hany : Exactly [star] name := by
            have hall:=Matches.star name Matches.nil
            rw [List.append_nil] at hall
            exact hall
          exact iff_of_true (by simp [hleft']) hany
      · have hpos:=List.length_pos_of_ne_nil hne
        obtain ⟨fuel, rfl⟩ : ∃ k, fuel = k + 1 := ⟨fuel - 1, by omega⟩
        obtain ⟨left, rfl⟩ : ∃ k, left = k + 2 := ⟨left - 2, by omega⟩
        exact passesFilter_last hplain hnul hne

theorem vsfFilenamePassesFilter_iff (filename filter : MyStr) (hq : question ∉ filter)
    (hb : openBrace ∉ filter) (hnul : nul ∉ filter) (hstars : filter.count star + 1 < vsftpMatchitersMax) :
    (vsfFilenamePassesFilter filename filter vsftpMatchitersMax).1 = true ↔ Exactly filter filename :=
  passesFilter_exact hq hb hnul (Nat.lt_succ_self _) hstars (Or.inl ⟨rfl, by decide⟩)

/-- A filter of characters and stars passes the names it stands for if it ends in
a star, and otherwise those of which no shorter beginning is one. -/
theorem filter_exact (filename filter : MyStr) (hq : question ∉ filter) (hb : openBrace ∉ filter)
    (hnul : nul ∉ filter) (hstars : filter.count star + 1 < vsftpMatchitersMax) :
    (vsfFilenamePassesFilter filename filter vsftpMatchitersMax).1 = true ↔
      if filter.getLast? = some star then Matches filter filename
      else Segments.Shortest (Matches filter) filename :=
  vsfFilenamePassesFilter_iff filename filter hq hb hnul hstars

/-- `*a*` and `*a`, for the name `aba`. -/
theorem filter_exact_twice :
    Matches [star, 97, star] [97, 98, 97] ∧ ¬ Segments.Shortest (Matches [star, 97]) [97, 98, 97] := by
  constructor
  · exact (filter_exact [97, 98, 97] [star, 97, star] (by decide) (by decide) (by decide) (by decide)).mp
      (by decide)
  · intro h
    have hpass:=(filter_exact [97, 98, 97] [star, 97] (by decide) (by decide) (by decide) (by decide)).mpr h
    exact absurd hpass (by decide)

end Stars

theorem strLocateStr_isNone {s look : MyStr} (hnul : nul ∉ look) (hne : look ≠ []) :
    (strLocateStr s look).isNone = true ↔ ¬ look <:+: s := by
  rw [strLocateStr_eq hnul]
  cases hl : strLocateText s look with
  | none => exact iff_of_true rfl (strLocateText_none hne hl)
  | some i =>
    obtain ⟨x, y, hfirst, _⟩ := strLocateText_some hl
    exact iff_of_false (by simp) fun h => h ⟨x, y, hfirst.here.symm⟩

/-- What `deny_file=*suffix` lets through: a name that does not end in the suffix,
and one that does but has it before the end as well. -/
theorem deny_suffix_iff (filename suffix : MyStr) (hplain : ∀ c ∈ suffix, c ∉ special ∧ c ≠ nul)
    (hne : suffix ≠ []) :
    vsfAccessCheckFile (some (star :: suffix)) filename = true ↔
      ¬ Segments.Shortest (fun p => suffix <:+ p) filename ∧ ¬ (star :: suffix) <:+: filename := by
  have hn : ∀ c ∈ suffix, c ∉ special := fun c hc => (hplain c hc).1
  have hno : ∀ d ∈ [question, openBrace, nul], d ∉ star :: suffix := by
    intro d hd h
    rcases List.mem_cons.mp h with rfl | h
    · exact absurd hd (by decide)
    · obtain ⟨hspecial, hnul⟩ := hplain d h
      simp only [List.mem_cons, List.not_mem_nil, or_false] at hd
      rcases hd with rfl | rfl | rfl
      · exact hspecial (by decide)
      · exact hspecial (by decide)
      · exact hnul rfl
  have hstars : (star :: suffix).count star + 1 < vsftpMatchitersMax := by
    rw [List.count_cons_self, List.count_eq_zero_of_not_mem fun h => hn star h (by decide)]
    decide
  have hpass : (vsfFilenamePassesFilter filename (star :: suffix) vsftpMatchitersMax).1 = true ↔
      Segments.Shortest (fun p => suffix <:+ p) filename :=
    (vsfFilenamePassesFilter_iff _ _ (hno _ (by simp)) (hno _ (by simp)) (hno _ (by simp)) hstars).trans
      (exactly_star_plain_iff hn hne)
  rw [vsfAccessCheckFile, Bool.and_eq_true, Bool.not_eq_true',
    strLocateStr_isNone (hno _ (by simp)) (List.cons_ne_nil _ _), ← hpass, Bool.not_eq_true]

/-- `song.mp3` is denied by `*.mp3`, `song.mp3.mp3` is not. -/
theorem deny_suffix_iff_twice :
    vsfAccessCheckFile (some (star :: [46, 109, 112, 51])) [115, 46, 109, 112, 51] = false ∧
      vsfAccessCheckFile (some (star :: [46, 109, 112, 51]))
        [115, 46, 109, 112, 51, 46, 109, 112, 51] = true := by
  have hplain : ∀ c ∈ ([46, 109, 112, 51] : MyStr), c ∉ special ∧ c ≠ nul := by
    simp only [List.forall_mem_cons, List.not_mem_nil, false_implies, implies_true, and_true]
    decide
  refine ⟨by decide, (deny_suffix_iff _ _ hplain (by decide)).mpr ⟨fun h => ?_, by decide⟩⟩
  have hwhole:=h.whole [115, 46, 109, 112, 51] (by decide) (by decide)
  exact absurd hwhole (by decide)

end BoardServices.Vsftpd
