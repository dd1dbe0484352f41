import BoardServices.Vsftpd.DataCommands

/-!
# What the replies and the commands say of an address (vsftpd-3.0.3/postlogin.c)

The reply to `PASV` is written in the form that `PORT` reads, and `EPRT` reads
the two forms of an address that its protocol numbers stand for.
-/

namespace BoardServices.Vsftpd
open Lib

/-! ### PASV and PORT -/

theorem not_mem_ucharText {c sep : UInt8} (hc : c.toNat < 48 ∨ 57 < c.toNat) (hne : c ≠ sep)
    (bytes : List UInt8) : c ∉ ucharText sep bytes := by
  induction bytes with
  | nil => exact List.not_mem_nil
  | cons b bytes ih =>
    have hb:=not_mem_ulongToStr hc b.toNat
    cases bytes with
    | nil => exact hb
    | cons d bytes =>
      rw [ucharText, List.mem_append, List.mem_cons]
      rintro (h | h | h)
      · exact hb h
      · exact hne h
      · exact ih h

theorem strReplaceChar_ulongToStr (n : ℕ) : strReplaceChar (ulongToStr n) dot comma = ulongToStr n := by
  unfold strReplaceChar
  refine (List.map_congr_left fun c hc => ?_).trans (List.map_id _)
  have hdot : dot ∉ ulongToStr n := not_mem_ulongToStr (by decide) n
  exact if_neg fun h : c = dot => hdot (h ▸ hc)

theorem addrText_eq (raw : List UInt8) : addrText raw = ucharText comma raw := by
  unfold addrText
  induction raw with
  | nil => rfl
  | cons b raw ih =>
    cases raw with
    | nil => exact strReplaceChar_ulongToStr _
    | cons c raw =>
      rw [ucharText, ucharText, ← ih]
      unfold strReplaceChar
      rw [List.map_append, List.map_cons]
      congr 1
      exact strReplaceChar_ulongToStr _

theorem ucharText_snoc (sep b : UInt8) (bytes : List UInt8) (hne : bytes ≠ []) :
    ucharText sep (bytes ++ [b]) = ucharText sep bytes ++ sep :: ulongToStr b.toNat := by
  induction bytes with
  | nil => exact absurd rfl hne
  | cons c bytes ih =>
    cases bytes with
    | nil => rfl
    | cons d bytes =>
      have hrest:=ih (List.cons_ne_nil _ _)
      change ulongToStr c.toNat ++ sep :: ucharText sep (d :: bytes ++ [b]) = _
      rw [hrest, ucharText, List.append_assoc]
      rfl

/-- What stands between the brackets of the reply. -/
def pasvNumbers (raw : List UInt8) (port : ℕ) : MyStr :=
  ucharText comma (raw ++ [UInt8.ofNat (port / 256), UInt8.ofNat port])

theorem pasvText_eq {raw : List UInt8} (hraw : raw ≠ []) {port : ℕ} (hport : port < 2 ^ 16) :
    pasvText (addrText raw) port =
      strAllocText "Entering Passive Mode (" ++ pasvNumbers raw port ++ strAllocText ")." := by
  have hhi : (UInt8.ofNat (port / 256)).toNat = port / 256 :=
    UInt8.toNat_ofNat_of_lt' (show port / 256 < 256 by omega)
  have hlo : (UInt8.ofNat port).toNat = port % 256 := UInt8.toNat_ofNat'
  have hnumbers : pasvNumbers raw port =
      ucharText comma raw ++ comma :: ulongToStr (port / 256) ++ comma :: ulongToStr (port % 256) := by
    have hsplit : raw ++ [UInt8.ofNat (port / 256), UInt8.ofNat port] =
        raw ++ [UInt8.ofNat (port / 256)] ++ [UInt8.ofNat port] := by simp
    unfold pasvNumbers
    rw [hsplit, ucharText_snoc comma _ _ (by simp), ucharText_snoc comma _ _ hraw, hhi, hlo]
  unfold pasvText
  rw [hnumbers, addrText_eq]
  simp only [List.append_assoc, List.cons_append, List.nil_append]

/-- A reply to `PASV` names the address and the port, and `PORT` would read them. -/
theorem pasv_reply_reads_back (localAddr : Addr) (raw : List UInt8) (port : ℕ)
    (haddr : localAddr = .ipv4 raw ∨
      localAddr = .ipv6 ([0, 0, 0, 0, 0, 0, 0, 0, 0, 0, 255, 255] ++ raw))
    (hraw : raw.length = 4) (hport : port < 2 ^ 16) :
    pasvText (announcedText localAddr localAddr) port =
        strAllocText "Entering Passive Mode (" ++ pasvNumbers raw port ++ strAllocText ")." ∧
      ∃ hi lo, parseUcharStringSep comma 6 (pasvNumbers raw port) = some (raw ++ [hi, lo]) ∧
        256 * hi.toNat + lo.toNat = port := by
  have hne : raw ≠ [] := by
    rintro rfl
    cases hraw
  have hannounced : announcedText localAddr localAddr = addrText raw := by
    rcases haddr with rfl | rfl
    · rfl
    · have hmapped : ipv6V4 ([0, 0, 0, 0, 0, 0, 0, 0, 0, 0, 255, 255] ++ raw) = some raw := rfl
      rw [announcedText, hmapped]
      rfl
  refine ⟨by rw [hannounced, pasvText_eq hne hport], UInt8.ofNat (port / 256), UInt8.ofNat port, ?_, ?_⟩
  · have hlen : (raw ++ [UInt8.ofNat (port / 256), UInt8.ofNat port]).length = 6 := by simp [hraw]
    rw [← hlen]
    exact parseUcharStringSep_ucharText (by decide) _ (by simp)
  · rw [UInt8.toNat_ofNat_of_lt' (show port / 256 < 256 by omega), UInt8.toNat_ofNat']
    omega

theorem pasv_reply_reads_back_mapped :
    ∃ hi lo, parseUcharStringSep comma 6 (pasvNumbers [192, 0, 2, 1] 50021) =
        some ([192, 0, 2, 1] ++ [hi, lo]) ∧ 256 * hi.toNat + lo.toNat = 50021 :=
  (pasv_reply_reads_back (.ipv6 ([0, 0, 0, 0, 0, 0, 0, 0, 0, 0, 255, 255] ++ [192, 0, 2, 1]))
    [192, 0, 2, 1] 50021 (Or.inr rfl) rfl (by decide)).2

/-! ### EPRT -/

/-- The argument of `EPRT`, with a bar before and after each field. -/
def eprtText (proto : ℕ) (addr : MyStr) (port : ℕ) : MyStr :=
  bar :: (ulongToStr proto ++ bar :: (addr ++ bar :: (ulongToStr port ++ [bar])))

section Eprt
variable {tun : Tunables} {addr : MyStr} {port : ℕ}

theorem bar_not_mem_ulongToStr (n : ℕ) : bar ∉ ulongToStr n := not_mem_ulongToStr (by decide) n

variable (port) in
theorem eprtText_split (proto : ℕ) (haddr : bar ∉ addr) :
    strSplitChar (eprtText proto addr port) bar =
        ([], ulongToStr proto ++ bar :: (addr ++ bar :: (ulongToStr port ++ [bar]))) ∧
      strSplitChar (ulongToStr proto ++ bar :: (addr ++ bar :: (ulongToStr port ++ [bar]))) bar =
        (ulongToStr proto, addr ++ bar :: (ulongToStr port ++ [bar])) ∧
      strSplitChar (addr ++ bar :: (ulongToStr port ++ [bar])) bar = (addr, ulongToStr port ++ [bar]) ∧
      strSplitChar (ulongToStr port ++ [bar]) bar = (ulongToStr port, []) := by
  refine ⟨?_, ?_, ?_, ?_⟩
  · exact strSplitChar_append List.not_mem_nil _
  · exact strSplitChar_append (bar_not_mem_ulongToStr proto) _
  · exact strSplitChar_append haddr _
  · exact strSplitChar_append (bar_not_mem_ulongToStr port) []

/-- The fields of an argument in the right form, whatever its address is read as. -/
theorem eprtFields_eprtText (proto : ℕ) (hproto : proto = 1 ∨ (proto = 2 ∧ isIpv6 tun.localAddr = true))
    (haddr : bar ∉ addr) (hport : port < 2 ^ 16) {raw : List UInt8}
    (hread : (if (proto : ℤ) = 2 then parseIpv6 (strSplitChar addr percent).1 else parseIpv4 addr) =
      some raw) :
    eprtFields tun (eprtText proto addr port) = .ok ((proto : ℤ), raw, (port : ℤ)) := by
  obtain ⟨h1, h2, h3, h4⟩ := eprtText_split port proto haddr
  have hnumber : strAtoi (ulongToStr proto) = proto := strAtoi_ulongToStr proto (by omega)
  have hvalue : strAtoi (ulongToStr port) = port := strAtoi_ulongToStr port (by omega)
  have hfine : ¬ ((proto : ℤ) < 1 ∨ (proto : ℤ) > 2 ∨
      (¬ isIpv6 tun.localAddr = true ∧ (proto : ℤ) = 2)) := by
    rcases hproto with rfl | ⟨rfl, hsix⟩
    · omega
    · simp [hsix]
  unfold eprtFields
  simp only [h1, h2, h3, h4, hnumber, hvalue]
  rw [if_neg (not_not.mpr rfl), if_neg hfine, hread]
  dsimp only
  rw [if_neg (by simp [ulongToStr_ne_nil]), if_neg (by omega)]

theorem not_mem_wordsText {c : UInt8} (hc : hexDigitValue c = none) (hne : c ≠ colon)
    (ws : List (BitVec 16)) : c ∉ wordsText ws := by
  induction ws with
  | nil => exact List.not_mem_nil
  | cons w ws ih =>
    have hw:=not_mem_wordText hc w
    cases ws with
    | nil => exact hw
    | cons v ws =>
      rw [wordsText_cons w _ (List.cons_ne_nil _ _), List.mem_append, List.mem_cons]
      rintro (h | h | h)
      · exact hw h
      · exact hne h
      · exact ih h

variable (tun port) in
/-- `EPRT` reads back an address of either kind, and its port. -/
theorem eprt_reads_back (raw : List UInt8) (ws : List (BitVec 16)) (hport : port < 2 ^ 16) :
    (raw.length = 4 →
      eprtFields tun (eprtText 1 (ucharText dot raw) port) = .ok (1, raw, (port : ℤ))) ∧
    (ws.length = 8 → isIpv6 tun.localAddr = true →
      eprtFields tun (eprtText 2 (wordsText ws) port) = .ok (2, ws.flatMap wordBytes, (port : ℤ)) ∧
        (ws.flatMap wordBytes).length = 16) := by
  constructor
  · intro hraw
    have hne : raw ≠ [] := by
      rintro rfl
      cases hraw
    have hparse : parseUcharStringSep dot raw.length (ucharText dot raw) = some raw :=
      parseUcharStringSep_ucharText (by decide) raw hne
    rw [hraw] at hparse
    exact eprtFields_eprtText 1 (Or.inl rfl) (not_mem_ucharText (by decide) (by decide) raw) hport hparse
  · intro hws hsix
    have hzone : strSplitChar (wordsText ws) percent = (wordsText ws, []) :=
      strSplitChar_of_not_mem (not_mem_wordsText (by decide) (by decide) ws)
    have hparse:=parseIpv6_full ws (by omega)
    refine ⟨?_, by rw [length_flatMap_wordBytes, hws]⟩
    apply eprtFields_eprtText 2 (Or.inr ⟨rfl, hsix⟩) (not_mem_wordsText (by decide) (by decide) ws) hport
    rw [if_pos (show ((2 : ℕ) : ℤ) = 2 from rfl), hzone]
    exact hparse

theorem eprt_reads_back_loopback :
    let addr := Addr.ipv6 [0, 0, 0, 0, 0, 0, 0, 0, 0, 0, 0, 0, 0, 0, 0, 1]
    let tun := tunablesLoadDefaults addr addr
    eprtFields tun (eprtText 1 (ucharText dot [127, 0, 0, 1]) 50021) =
        .ok (1, [127, 0, 0, 1], ((50021 : ℕ) : ℤ)) ∧
      eprtFields tun (eprtText 2 (wordsText [0, 0, 0, 0, 0, 0, 0, 1]) 50021) =
        .ok (2, [0, 0, 0, 0, 0, 0, 0, 0, 0, 0, 0, 0, 0, 0, 0, 1], ((50021 : ℕ) : ℤ)) :=
  ⟨(eprt_reads_back _ 50021 [127, 0, 0, 1] [] (by decide)).1 rfl,
    ((eprt_reads_back _ 50021 [] [0, 0, 0, 0, 0, 0, 0, 1] (by decide)).2 rfl rfl).1⟩

end Eprt

end BoardServices.Vsftpd
