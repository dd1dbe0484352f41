import BoardServices.Lib.Strings
import BoardServices.Vsftpd.Ascii
import BoardServices.Vsftpd.Str
import Mathlib.Data.List.DropRight

/-!
# The control connection (vsftpd-3.0.3/netstr.c, ftpcmdio.c)

Lines are taken from the connection by peeking: `str_netfd_alloc` looks at what
has arrived, reads no further than the line end and looks again. How much each
look shows is up to the network; the rest of the stream stays for the next line.
-/

namespace BoardServices.Vsftpd
open Lib

def nul : UInt8 := 0
def sp : UInt8 := 32
def iac : UInt8 := 255

def vsftpMaxCommandLine : ℕ := 4096

/-- The result of `str_netfd_alloc` by the sign of its value. -/
inductive GetLine
  | got (line : MyStr)
  | tooLong
  | hangup
deriving DecidableEq, Repr

/-- The loop of `str_netfd_alloc` at its `i`th look. It shows `seen i + 1`
bytes, or what there is room for, or what is still to come. -/
def netLoop (term : UInt8) (seen : ℕ → ℕ) : ℕ → ℕ → MyStr → ℕ → MyStr → GetLine × MyStr
  | 0, _, _, _, input => (.tooLong, input)
  | fuel + 1, i, readbuf, left, input =>
    if left = 0 then (.tooLong, input)
    else
      let chunk := input.take (min (seen i + 1) left)
      if chunk = [] then (.hangup, input)
      else
        match chunk.findIdx? (· = term) with
        | some j =>
          (.got ((readbuf ++ input.take (j + 1)).takeWhile (· ≠ term)), input.drop (j + 1))
        | none =>
          netLoop term seen fuel (i + 1) (readbuf ++ chunk) (left - chunk.length)
            (input.drop chunk.length)

def strNetfdAlloc (term : UInt8) (maxlen : ℕ) (seen : ℕ → ℕ) (input : MyStr) : GetLine × MyStr :=
  netLoop term seen (maxlen + 1) 0 [] maxlen input

def controlGetline (seen : ℕ → ℕ) (input : MyStr) : GetLine × MyStr :=
  match strNetfdAlloc lf vsftpMaxCommandLine seen input with
  | (.got line, rest) => (.got ((strReplaceChar line nul lf).rdropWhile (· = cr)), rest)
  | r => r

inductive Request
  | command (cmd arg : MyStr)
  | tooLong
  | hangup
deriving DecidableEq, Repr

def commandOf (line : MyStr) : Request :=
  let r := if line.length = 1 ∧ line.head? = some sp then (line, []) else strSplitChar line sp
  .command (strUpper r.1) r.2

def getCmdAndArg (seen : ℕ → ℕ) (input : MyStr) : Request × MyStr :=
  match controlGetline seen input with
  | (.got line, rest) => (commandOf line, rest)
  | (.tooLong, rest) => (.tooLong, rest)
  | (.hangup, rest) => (.hangup, rest)

/-- The requests of a session, up to the one that ends it. -/
def readRequests (seen : ℕ → ℕ → ℕ) : ℕ → MyStr → List Request
  | 0, _ => []
  | n + 1, input =>
    match getCmdAndArg (seen n) input with
    | (.command cmd arg, rest) => .command cmd arg :: readRequests seen n rest
    | (r, _) => [r]

/-- `str_alloc_ulong` -/
def ulongToStr (n : ℕ) : MyStr := (Nat.toDigits 10 n).map fun c => UInt8.ofNat c.toNat

structure Reply where
  status : ℕ
  sep : UInt8
  text : MyStr
deriving DecidableEq, Repr

/-- `ftp_write_str_common` -/
def ftpWriteStrCommon (r : Reply) : MyStr :=
  ulongToStr r.status ++ [r.sep] ++
    strReplaceChar (strReplaceText r.text [iac] [iac, iac]) lf nul ++ [cr, lf]

/-! ### One line -/

section Line
variable {term : UInt8} {seen : ℕ → ℕ}

theorem findIdx?_of_not_mem {chunk : MyStr} (h : term ∉ chunk) :
    chunk.findIdx? (· = term) = none := by
  rw [List.findIdx?_eq_none_iff]
  intro x hx
  simp only [decide_eq_false_iff_not]
  rintro rfl
  exact h hx

theorem findIdx?_append_term {l r : MyStr} (h : term ∉ l) :
    (l ++ term :: r).findIdx? (· = term) = some l.length := by
  rw [List.findIdx?_append, findIdx?_of_not_mem h, List.findIdx?_cons]
  simp

theorem takeWhile_append_term {l r : MyStr} (h : term ∉ l) :
    (l ++ term :: r).takeWhile (· ≠ term) = l := by
  rw [List.takeWhile_append_of_pos fun x hx => ?_]
  · simp
  · simp only [decide_eq_true_eq]
    rintro rfl
    exact h hx

/-- The line is found whatever the looks show, and no byte behind it is read. -/
theorem netLoop_got {fuel i left : ℕ} {readbuf l r : MyStr} (hb : term ∉ readbuf) (hl : term ∉ l)
    (hlen : l.length < left) (hfuel : left < fuel) :
    netLoop term seen fuel i readbuf left (l ++ term :: r) = (.got (readbuf ++ l), r) := by
  induction fuel generalizing i readbuf l left with
  | zero => omega
  | succ fuel ih =>
    have hpos : ¬ left = 0 := by omega
    have hne : ∀ n, (l ++ term :: r).take (n + 1) ≠ [] := by
      intro n
      cases l <;> simp
    obtain ⟨n, hn⟩ : ∃ n, min (seen i + 1) left = n + 1 :=
      ⟨min (seen i + 1) left - 1, by omega⟩
    simp only [netLoop, if_neg hpos, hn, if_neg (hne n)]
    by_cases hshow : l.length < n + 1
    · -- the line end is in sight
      have htake : (l ++ term :: r).take (n + 1) = l ++ term :: r.take (n - l.length) := by
        rw [List.take_append, List.take_of_length_le (by omega)]
        have hone : n + 1 - l.length = (n - l.length) + 1 := by omega
        rw [hone, List.take_succ_cons]
      have hread : (l ++ term :: r).take (l.length + 1) = l ++ [term] := by
        rw [List.take_append, List.take_of_length_le (by omega)]
        simp
      have hrest : (l ++ term :: r).drop (l.length + 1) = r := by
        rw [← List.drop_drop, List.drop_left' rfl]
        rfl
      have hbl : term ∉ readbuf ++ l := by simp [hb, hl]
      simp only [htake, findIdx?_append_term hl, hread, hrest]
      rw [← List.append_assoc, takeWhile_append_term hbl]
    · -- it is not, and what was shown is consumed
      have htake : (l ++ term :: r).take (n + 1) = l.take (n + 1) :=
        List.take_append_of_le_length (by omega)
      have hnot : term ∉ l.take (n + 1) := fun hm => hl (List.mem_of_mem_take hm)
      have hlt : (l.take (n + 1)).length = n + 1 := List.length_take_of_le (by omega)
      have hdrop : (l ++ term :: r).drop (n + 1) = l.drop (n + 1) ++ term :: r :=
        List.drop_append_of_le_length (by omega)
      simp only [htake, findIdx?_of_not_mem hnot, hlt, hdrop]
      rw [ih (by simp [hb, hnot]) (fun hm => hl (List.mem_of_mem_drop hm))
        (by rw [List.length_drop]; omega) (by omega), List.append_assoc, List.take_append_drop]

theorem netLoop_tooLong {fuel i left : ℕ} {readbuf input : MyStr} (hi : term ∉ input.take left)
    (hlen : left ≤ input.length) (hfuel : left < fuel) :
    netLoop term seen fuel i readbuf left input = (.tooLong, input.drop left) := by
  induction fuel generalizing i readbuf input left with
  | zero => omega
  | succ fuel ih =>
    by_cases hz : left = 0
    · simp [netLoop, hz]
    · obtain ⟨n, hn⟩ : ∃ n, min (seen i + 1) left = n + 1 :=
        ⟨min (seen i + 1) left - 1, by omega⟩
      have hlt : (input.take (n + 1)).length = n + 1 := List.length_take_of_le (by omega)
      have hne : input.take (n + 1) ≠ [] := List.ne_nil_of_length_pos (by omega)
      have hnot : term ∉ input.take (n + 1) := fun hm =>
        hi (List.IsPrefix.subset (List.take_prefix_take_left (by omega)) hm)
      simp only [netLoop, if_neg hz, hn, if_neg hne, findIdx?_of_not_mem hnot, hlt]
      rw [ih ?_ (by rw [List.length_drop]; omega) (by omega), List.drop_drop]
      · congr 2
        omega
      · intro hm
        refine hi ?_
        have hsplit : input.take left =
            input.take (n + 1) ++ (input.drop (n + 1)).take (left - (n + 1)) := by
          rw [← List.take_add]
          congr 1
          omega
        rw [hsplit]
        exact List.mem_append_right _ hm

theorem netLoop_hangup {fuel i left : ℕ} {readbuf input : MyStr} (hi : term ∉ input)
    (hlen : input.length < left) (hfuel : left < fuel) :
    netLoop term seen fuel i readbuf left input = (.hangup, []) := by
  induction fuel generalizing i readbuf input left with
  | zero => omega
  | succ fuel ih =>
    have hz : ¬ left = 0 := by omega
    obtain ⟨n, hn⟩ : ∃ n, min (seen i + 1) left = n + 1 := ⟨min (seen i + 1) left - 1, by omega⟩
    cases input with
    | nil => simp [netLoop, hz]
    | cons c input =>
      have hne : (c :: input).take (n + 1) ≠ [] := by simp
      have hnot : term ∉ (c :: input).take (n + 1) := fun hm => hi (List.mem_of_mem_take hm)
      have hlt : ((c :: input).take (n + 1)).length = min (n + 1) (c :: input).length :=
        List.length_take
      simp only [netLoop, if_neg hz, hn, if_neg hne, findIdx?_of_not_mem hnot, hlt]
      refine ih (fun hm => hi (List.mem_of_mem_drop hm)) ?_ (by simp only [List.length_cons]; omega)
      rw [List.length_drop]
      simp only [List.length_cons] at hlen ⊢
      omega

end Line

/-! ### A session -/

/-- What a line asks for. -/
def parseLine (line : MyStr) : Request :=
  commandOf ((strReplaceChar line nul lf).rdropWhile (· = cr))

/-- The requests in a stream of complete lines and a tail without line end. -/
def requestsOf : List MyStr → MyStr → List Request
  | [], tail => [if tail.length < vsftpMaxCommandLine then .hangup else .tooLong]
  | l :: ls, tail =>
    if l.length < vsftpMaxCommandLine then parseLine l :: requestsOf ls tail else [.tooLong]

def stream (lines : List MyStr) : MyStr := lines.flatMap (· ++ [lf])

theorem stream_cons (l : MyStr) (ls : List MyStr) (tail : MyStr) :
    stream (l :: ls) ++ tail = l ++ lf :: (stream ls ++ tail) := by
  simp [stream]

section Session
variable {seen : ℕ → ℕ}

theorem controlGetline_line {l : MyStr} (r : MyStr) (hl : lf ∉ l)
    (hlen : l.length < vsftpMaxCommandLine) :
    controlGetline seen (l ++ lf :: r) =
      (.got ((strReplaceChar l nul lf).rdropWhile (· = cr)), r) := by
  have hgot : strNetfdAlloc lf vsftpMaxCommandLine seen (l ++ lf :: r) = (.got l, r) :=
    netLoop_got List.not_mem_nil hl hlen (Nat.lt_succ_self _)
  rw [controlGetline, hgot]

theorem getCmdAndArg_line {l : MyStr} (r : MyStr) (hl : lf ∉ l)
    (hlen : l.length < vsftpMaxCommandLine) :
    getCmdAndArg seen (l ++ lf :: r) = (parseLine l, r) := by
  rw [getCmdAndArg, controlGetline_line r hl hlen]
  rfl

theorem getCmdAndArg_tooLong {input : MyStr} (hi : lf ∉ input.take vsftpMaxCommandLine)
    (hlen : vsftpMaxCommandLine ≤ input.length) :
    getCmdAndArg seen input = (.tooLong, input.drop vsftpMaxCommandLine) := by
  have hlong : strNetfdAlloc lf vsftpMaxCommandLine seen input =
      (.tooLong, input.drop vsftpMaxCommandLine) :=
    netLoop_tooLong hi hlen (Nat.lt_succ_self _)
  rw [getCmdAndArg, controlGetline, hlong]

theorem getCmdAndArg_hangup {input : MyStr} (hi : lf ∉ input)
    (hlen : input.length < vsftpMaxCommandLine) : getCmdAndArg seen input = (.hangup, []) := by
  have hup : strNetfdAlloc lf vsftpMaxCommandLine seen input = (.hangup, []) :=
    netLoop_hangup hi hlen (Nat.lt_succ_self _)
  rw [getCmdAndArg, controlGetline, hup]

end Session

/-- The requests are those of the lines, in order, however the network cuts the
stream; a line of 4096 bytes or more ends the session. -/
theorem readRequests_stream (seen : ℕ → ℕ → ℕ) (lines : List MyStr) (tail : MyStr) (n : ℕ)
    (hn : lines.length < n) (hl : ∀ l ∈ lines, lf ∉ l) (ht : lf ∉ tail) :
    readRequests seen n (stream lines ++ tail) = requestsOf lines tail := by
  induction lines generalizing n with
  | nil =>
    obtain ⟨n, rfl⟩ : ∃ k, n = k + 1 := ⟨n - 1, by simp at hn; omega⟩
    have hnil : stream [] ++ tail = tail := rfl
    rw [hnil, readRequests, requestsOf]
    by_cases hlen : tail.length < vsftpMaxCommandLine
    · rw [getCmdAndArg_hangup ht hlen, if_pos hlen]
    · rw [getCmdAndArg_tooLong (fun hm => ht (List.mem_of_mem_take hm)) (by omega), if_neg hlen]
  | cons l ls ih =>
    obtain ⟨n, rfl⟩ : ∃ k, n = k + 1 := ⟨n - 1, by simp at hn; omega⟩
    have hlf:=hl l (List.mem_cons_self ..)
    rw [stream_cons, readRequests, requestsOf]
    by_cases hlen : l.length < vsftpMaxCommandLine
    · rw [getCmdAndArg_line _ hlf hlen, if_pos hlen]
      have hrest:=ih n (by simpa using hn) fun k hk => hl k (List.mem_cons_of_mem _ hk)
      simp only [parseLine, commandOf, hrest]
    · have htake : (l ++ lf :: (stream ls ++ tail)).take vsftpMaxCommandLine =
          l.take vsftpMaxCommandLine := List.take_append_of_le_length (by omega)
      rw [getCmdAndArg_tooLong, if_neg hlen]
      · rw [htake]
        exact fun hm => hlf (List.mem_of_mem_take hm)
      · rw [List.length_append]
        omega

/-- `a b`, a lone space, and then the client is gone in the middle of a line. The
network shows one byte more with each look. -/
theorem readRequests_stream_broken :
    readRequests (fun _ i => i) 3 (stream [[97, 32, 98, 13], [32]] ++ [113]) =
      [.command [65] [98], .command [32] [], .hangup] :=
  readRequests_stream (fun _ i => i) [[97, 32, 98, 13], [32]] [113] 3 (by decide) (by decide)
    (by decide)

/-! ### Commands -/

/-- The line of a command as a client sends it, a line end in the argument as a
null byte. -/
def commandLine (c : MyStr × MyStr) : MyStr := c.1 ++ sp :: strReplaceChar c.2 lf nul ++ [cr]

structure Sendable (c : MyStr × MyStr) : Prop where
  verb : c.1 ≠ []
  no_space : sp ∉ c.1
  no_lf : lf ∉ c.1
  no_nul : nul ∉ c.1
  arg_no_nul : nul ∉ c.2
  arg_end : c.2.getLast? ≠ some cr
  short : (commandLine c).length < vsftpMaxCommandLine

theorem strReplaceChar_of_not_mem {s : MyStr} {c : UInt8} (hs : c ∉ s) (d : UInt8) :
    strReplaceChar s c d = s := by
  refine (List.map_congr_left fun x hx => if_neg ?_).trans (List.map_id s)
  rintro rfl
  exact hs hx

theorem strReplaceChar_back {s : MyStr} (hs : nul ∉ s) :
    strReplaceChar (strReplaceChar s lf nul) nul lf = s := by
  rw [strReplaceChar, strReplaceChar, List.map_map]
  refine (List.map_congr_left fun x hx => ?_).trans (List.map_id s)
  by_cases hlf : x = lf
  · simp [hlf]
  · have hnul : x ≠ nul := by
      rintro rfl
      exact hs hx
    simp [hlf, hnul]

theorem not_mem_strReplaceChar {c d : UInt8} (hcd : c ≠ d) (s : MyStr) :
    c ∉ strReplaceChar s c d := by
  intro hm
  obtain ⟨x, _, hx⟩ := List.mem_map.mp hm
  split at hx
  · exact hcd hx.symm
  · rename_i hne
    exact hne hx

theorem strReplaceChar_append (s t : MyStr) (c d : UInt8) :
    strReplaceChar (s ++ t) c d = strReplaceChar s c d ++ strReplaceChar t c d := List.map_append

theorem rdropWhile_cr_of_getLast {s : MyStr} (hs : s.getLast? ≠ some cr) :
    (s ++ [cr]).rdropWhile (· = cr) = s := by
  rw [List.rdropWhile_concat_pos _ _ _ (by simp), List.rdropWhile_eq_self_iff]
  intro hne he
  refine hs ?_
  rw [List.getLast?_eq_getLast_of_ne_nil hne]
  simpa using he

theorem parseLine_commandLine {c : MyStr × MyStr} (h : Sendable c) :
    parseLine (commandLine c) = .command (strUpper c.1) c.2 := by
  obtain ⟨cmd, arg⟩ := c
  have hback : strReplaceChar (commandLine (cmd, arg)) nul lf = cmd ++ sp :: arg ++ [cr] := by
    have hsp : strReplaceChar (sp :: strReplaceChar arg lf nul) nul lf = sp :: arg :=
      congrArg (List.cons sp) (strReplaceChar_back h.arg_no_nul)
    rw [commandLine, strReplaceChar_append, strReplaceChar_append, hsp,
      strReplaceChar_of_not_mem h.no_nul]
    rfl
  have hlast : (cmd ++ sp :: arg).getLast? ≠ some cr := by
    have hend:=h.arg_end
    cases arg with
    | nil => simp [sp, cr]
    | cons d arg =>
      rw [List.getLast?_append_of_ne_nil _ (List.cons_ne_nil _ _), List.getLast?_cons_cons]
      exact hend
  have hlen : ¬ ((cmd ++ sp :: arg).length = 1 ∧ (cmd ++ sp :: arg).head? = some sp) := by
    rintro ⟨hl, _⟩
    have hpos : 0 < cmd.length := List.length_pos_of_ne_nil h.verb
    simp only [List.length_append, List.length_cons] at hl
    omega
  rw [parseLine, hback, rdropWhile_cr_of_getLast hlast, commandOf, if_neg hlen,
    strSplitChar_append h.no_space]

/-- A session in which the client sends these commands and leaves. -/
theorem commands_round_trip (seen : ℕ → ℕ → ℕ) (cmds : List (MyStr × MyStr))
    (h : ∀ c ∈ cmds, Sendable c) :
    readRequests seen (cmds.length + 1) (stream (cmds.map commandLine)) =
      cmds.map (fun c => .command (strUpper c.1) c.2) ++ [.hangup] := by
  have hline : ∀ l ∈ cmds.map commandLine, lf ∉ l := by
    intro l hl
    obtain ⟨c, hc, rfl⟩ := List.mem_map.mp hl
    have harg:=not_mem_strReplaceChar (show lf ≠ nul by decide) c.2
    simp only [commandLine, List.mem_append, List.mem_cons, List.not_mem_nil, or_false, not_or]
    exact ⟨⟨(h c hc).no_lf, by decide, harg⟩, by decide⟩
  have hread:=readRequests_stream seen (cmds.map commandLine) [] (cmds.length + 1)
    (by simp) hline List.not_mem_nil
  rw [List.append_nil] at hread
  rw [hread]
  clear hread hline
  induction cmds with
  | nil => rfl
  | cons c cmds ih =>
    have hc:=h c (List.mem_cons_self ..)
    rw [List.map_cons, requestsOf, if_pos hc.short, parseLine_commandLine hc,
      ih fun d hd => h d (List.mem_cons_of_mem _ hd)]
    rfl

theorem commands_round_trip_login :
    readRequests (fun _ i => i) 3
        (stream ([([117, 115, 101, 114], [97, 32, 98]), ([81], [10])].map commandLine)) =
      [.command [85, 83, 69, 82] [97, 32, 98], .command [81] [10], .hangup] := by
  have hall : ∀ c ∈ ([([117, 115, 101, 114], [97, 32, 98]), ([81], [10])] : List (MyStr × MyStr)),
      Sendable c := by
    intro c hc
    simp only [List.mem_cons, List.not_mem_nil, or_false] at hc
    rcases hc with rfl | rfl
    · exact ⟨by decide, by decide, by decide, by decide, by decide, by decide, by decide⟩
    · exact ⟨by decide, by decide, by decide, by decide, by decide, by decide, by decide⟩
  exact commands_round_trip (fun _ i => i) _ hall

/-! ### Replies -/

theorem ulongToStr_digit (n : ℕ) : ∀ x ∈ ulongToStr n, 48 ≤ x.toNat ∧ x.toNat ≤ 57 := by
  intro x hx
  obtain ⟨c, hc, rfl⟩ := List.mem_map.mp hx
  have hd:=Strings.toDigits_all_isDigit n c hc
  simp only [Char.isDigit, Bool.and_eq_true, decide_eq_true_eq] at hd
  have hlo : 48 ≤ c.toNat := hd.1
  have hhi : c.toNat ≤ 57 := hd.2
  rw [UInt8.toNat_ofNat_of_lt' (show c.toNat < 256 by omega)]
  exact ⟨hlo, hhi⟩

/-- The line of a reply, without its line end. -/
def replyBody (r : Reply) : MyStr :=
  ulongToStr r.status ++ [r.sep] ++ substitute iac [iac, iac] r.text

structure Writable (r : Reply) : Prop where
  sep : r.sep ≠ lf ∧ r.sep ≠ nul
  no_nul : nul ∉ r.text
  short : (ftpWriteStrCommon r).length ≤ vsftpMaxCommandLine

theorem not_mem_substitute {c d : UInt8} {s new : MyStr} (hs : d ∉ s) (hn : d ∉ new) :
    d ∉ substitute c new s := by
  intro hm
  obtain ⟨x, hx, hd⟩ := List.mem_flatMap.mp hm
  split at hd
  · exact hn hd
  · rw [List.mem_singleton.mp hd] at hs
    exact hs hx

theorem ftpWriteStrCommon_line {r : Reply} (h : Writable r) :
    ∃ l, ftpWriteStrCommon r = l ++ [lf] ∧ lf ∉ l ∧
      strReplaceChar l nul lf = replyBody r ++ [cr] := by
  have hdigits : ∀ d : UInt8, d.toNat < 48 → d ∉ ulongToStr r.status := by
    intro d hd hm
    have hge:=(ulongToStr_digit r.status d hm).1
    omega
  have htext:=not_mem_substitute (c := iac) h.no_nul (show nul ∉ [iac, iac] by decide)
  refine ⟨ulongToStr r.status ++ [r.sep] ++
    strReplaceChar (substitute iac [iac, iac] r.text) lf nul ++ [cr], ?_, ?_, ?_⟩
  · rw [ftpWriteStrCommon, strReplaceText_char]
    simp
  · have hmangled:=not_mem_strReplaceChar (show lf ≠ nul by decide) (substitute iac [iac, iac] r.text)
    have hdig:=hdigits lf (by decide)
    have hsep : ¬ lf = r.sep := fun he => h.sep.1 he.symm
    simp only [List.mem_append, List.mem_singleton, not_or]
    exact ⟨⟨⟨hdig, hsep⟩, hmangled⟩, by decide⟩
  · have hsep : nul ∉ [r.sep] := by
      rw [List.mem_singleton]
      exact fun he => h.sep.2 he.symm
    rw [strReplaceChar_append, strReplaceChar_append, strReplaceChar_append,
      strReplaceChar_back htext, strReplaceChar_of_not_mem (hdigits nul (by decide)),
      strReplaceChar_of_not_mem hsep]
    rfl

/-- The lines a reader of the connection gets. -/
def readLines (seen : ℕ → ℕ → ℕ) : ℕ → MyStr → List MyStr
  | 0, _ => []
  | n + 1, input =>
    match controlGetline (seen n) input with
    | (.got line, rest) => line :: readLines seen n rest
    | _ => []

/-- Each reply is one line, whatever its text; read as vsftpd itself reads, it
gives the text back, the line ends in it included. -/
theorem replies_read_back (seen : ℕ → ℕ → ℕ) (replies : List Reply)
    (h : ∀ r ∈ replies, Writable r) :
    readLines seen (replies.length + 1) (replies.flatMap ftpWriteStrCommon) =
      replies.map fun r => (replyBody r).rdropWhile (· = cr) := by
  induction replies with
  | nil =>
    have hup : strNetfdAlloc lf vsftpMaxCommandLine (seen 0) [] = (.hangup, []) :=
      netLoop_hangup List.not_mem_nil (by decide) (Nat.lt_succ_self _)
    rw [List.length_nil, readLines, List.flatMap_nil, controlGetline, hup]
    rfl
  | cons r replies ih =>
    have hr:=h r (List.mem_cons_self ..)
    obtain ⟨l, hline, hlf, hback⟩ := ftpWriteStrCommon_line hr
    have hshort:=hr.short
    rw [hline, List.length_append, List.length_singleton] at hshort
    have hcons : (r :: replies).flatMap ftpWriteStrCommon =
        l ++ lf :: replies.flatMap ftpWriteStrCommon := by
      rw [List.flatMap_cons, hline, List.append_assoc]
      rfl
    rw [List.length_cons, readLines, hcons, controlGetline_line _ hlf hshort, hback,
      List.rdropWhile_concat_pos _ _ _ (by simp), List.map_cons]
    exact congrArg (List.cons _) (ih fun d hd => h d (List.mem_cons_of_mem _ hd))

/-- `220-a\nb` and `221 \377`. -/
theorem replies_read_back_greeting :
    readLines (fun _ i => i) 3 ([⟨220, 45, [97, 10, 98]⟩, ⟨221, 32, [255]⟩].flatMap ftpWriteStrCommon) =
      [[50, 50, 48, 45, 97, 10, 98], [50, 50, 49, 32, 255, 255]] := by
  have hall : ∀ r ∈ ([⟨220, 45, [97, 10, 98]⟩, ⟨221, 32, [255]⟩] : List Reply), Writable r := by
    intro r hr
    simp only [List.mem_cons, List.not_mem_nil, or_false] at hr
    rcases hr with rfl | rfl
    · exact ⟨by decide, by decide, by decide⟩
    · exact ⟨by decide, by decide, by decide⟩
  exact (replies_read_back (fun _ i => i) _ hall).trans (by decide)

end BoardServices.Vsftpd
