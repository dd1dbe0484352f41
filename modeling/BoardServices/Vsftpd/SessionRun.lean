import BoardServices.Vsftpd.BothModels

/-!
# Whole sessions (vsftpd-3.0.3/postlogin.c, ftpdataio.c)

What the handlers keep from one command to the next, in both models at once: at
most one data connection is named, the address it goes to has been checked, and
no descriptor stays behind.
-/

namespace BoardServices.Vsftpd
open Lib.Process

/-- A data connection to this address has been allowed. -/
structure Allowed (tun : Tunables) (a : SockAddr) : Prop where
  port : a.port < 2 ^ 16
  checked : tun.portPromiscuous = true ∨ (a.addr = tun.remoteAddr ∧ 1024 ≤ a.port)

/-- An address that the client has named is allowed, and there is no listening socket beside it. -/
def Addressed (tun : Tunables) (l : Fd) (s : Sess) : Prop :=
  ∀ a, s.portSockaddr = some a → l = -1 ∧ Allowed tun a

/-- Between two commands. -/
structure Ready (tun : Tunables) (l : Fd) (s : Sess) : Prop where
  idle : s.dataFd = -1
  addressed : Addressed tun l s

/-- While the data connection `fd` is open. -/
structure Busy (tun : Tunables) (fd l : Fd) (s : Sess) : Prop where
  valid : 0 ≤ fd
  open_ : s.dataFd = fd
  addressed : Addressed tun l s

/-- There is something to connect to. -/
def Named (l : Fd) (s : Sess) : Prop := l ≠ -1 ∨ s.portSockaddr ≠ none

/-- The command copies past the end of what `vsf_sysutil_parse_ipv6` has allocated. -/
def Overreads (tun : Tunables) (cmd : Command) : Prop :=
  ∃ arg raw port, cmd = .eprt arg ∧ eprtFields tun arg = .ok (2, raw, port) ∧ raw.length < 16

/-- How a command may end the session. -/
def Expected (tun : Tunables) (cmd : Command) (e : Ending) : Prop :=
  (e = .exits 0 ∧ cmd = .quit) ∨ e = .exits 1 ∨ IllegalPort tun e ∨
    (e = .died "invalid pasv_address" ∧ tun.pasvAddress = some none) ∨
    (e = .died "invalid fd in cmd_process_chown" ∧ tun.chownUploads = true) ∨
    (e = .faults ∧ Overreads tun cmd)

/-- The session is ready again and holds what it held. -/
def StillReady {α : Type} (tun : Tunables) (K : Multiset Fd) (_ : α) (K' : Multiset Fd) (l' : Fd)
    (s' : Sess) : Prop := K' = K ∧ Ready tun l' s'

section Channel
variable {sys : System} {tun : Tunables} {cmd : Command} {K : Multiset Fd} {l fd : Fd} {s : Sess}
  {B : Ending → Prop}

theorem portActive_none (h : s.portSockaddr = none) (depth : ℕ) :
    Alike sys tun (portActive sys tun.oneProcess (depth + 1)) (portActive sys tun.twoProcess (depth + 1))
      K l s (Only 0 K l s) B := by
  unfold portActive
  apply session_step
  rw [h]
  exact Alike.returns ⟨rfl, rfl, rfl, rfl⟩

theorem pasvActive_none (hl : l = -1) (depth : ℕ) :
    Alike sys tun (pasvActive sys tun.oneProcess (depth + 1)) (pasvActive sys tun.twoProcess (depth + 1))
      K l s (Only 0 K l s) B := by
  subst hl
  unfold pasvActive
  apply Alike.step askPasvActive_alike
  exact Alike.returns ⟨rfl, rfl, rfl, rfl⟩

theorem portActive_alike (h : Addressed tun l s) :
    Alike sys tun (portActive sys tun.oneProcess 2) (portActive sys tun.twoProcess 2) K l s
      (Only (if s.portSockaddr = none then 0 else 1) K l s) B := by
  cases hs : s.portSockaddr with
  | none => exact portActive_none hs 1
  | some a =>
    unfold portActive
    apply session_step
    rw [hs]
    apply Alike.step (pasvActive_none (h a hs).1 0)
    exact Alike.returns ⟨rfl, rfl, rfl, rfl⟩

theorem pasvActive_alike (h : Addressed tun l s) :
    Alike sys tun (pasvActive sys tun.oneProcess 2) (pasvActive sys tun.twoProcess 2) K l s
      (Only (if l ≠ -1 then 1 else 0) K l s) B := by
  by_cases hl : l = -1
  · subst hl
    exact pasvActive_none rfl 1
  · have hs : s.portSockaddr = none := Option.eq_none_iff_forall_ne_some.mpr fun a ha => hl (h a ha).1
    unfold pasvActive
    apply Alike.step askPasvActive_alike
    rw [if_pos hl]
    apply Alike.step (portActive_none hs 0)
    exact Alike.returns ⟨rfl, rfl, rfl, rfl⟩

theorem writeReply_alike (r : Reply) :
    Alike sys tun (writeReply sys r) (writeReply sys r) K l s
      (Only () K l { s with replies := s.replies ++ [r] }) B := by
  unfold writeReply
  apply session_step
  apply Alike.when (G := Only () K l s)
  · exact fun _ => Alike.unheard
  · exact fun _ => ⟨rfl, rfl, rfl, rfl⟩
  · rintro _ _ _ _ ⟨_, rfl, rfl, rfl⟩
    exact updateSession_run _ ⟨rfl, rfl, rfl, rfl⟩

theorem cmdioWrite_step {α : Type} {f g : Unit → Ftp α} {H : α → Multiset Fd → Fd → Sess → Prop}
    (status : ℕ) (text : MyStr)
    (h : Alike sys tun (f ()) (g ()) K l { s with replies := s.replies ++ [⟨status, sp, text⟩] } H B) :
    Alike sys tun (cmdioWrite sys status text >>= f) (cmdioWrite sys status text >>= g) K l s H B :=
  (writeReply_alike _).step h

theorem dataTransferChecksOk_alike (h : Ready tun l s) :
    Alike sys tun (dataTransferChecksOk sys tun.oneProcess) (dataTransferChecksOk sys tun.twoProcess)
      K l s (fun b K' l' s' => K' = K ∧ Ready tun l' s' ∧ (b = true → Named l' s')) B := by
  unfold dataTransferChecksOk
  apply Alike.step (pasvActive_alike h.addressed)
  have hport : Alike sys tun
      (if (if l ≠ -1 then (1 : ℤ) else 0) = 0 then portActive sys tun.oneProcess 2 else pure 1)
      (if (if l ≠ -1 then (1 : ℤ) else 0) = 0 then portActive sys tun.twoProcess 2 else pure 1)
      K l s (fun a K' l' s' => K' = K ∧ l' = l ∧ s' = s ∧ (a ≠ 0 → Named l s)) B := by
    apply Alike.ite
    · intro _
      apply (portActive_alike h.addressed).weaken
      · rintro a _ _ _ ⟨rfl, rfl, rfl, rfl⟩
        refine ⟨rfl, rfl, rfl, fun hne => Or.inr fun hnone => hne (if_pos hnone)⟩
      · exact fun _ hb => hb
    · intro hl
      refine Alike.returns ⟨rfl, rfl, rfl, fun _ => Or.inl fun hnone => hl (if_neg (not_not.mpr hnone))⟩
  apply Alike.branch hport
  rintro a _ _ _ ⟨rfl, rfl, rfl, hnamed⟩
  apply Alike.ite
  · intro _
    apply cmdioWrite_step
    exact Alike.returns ⟨rfl, ⟨h.idle, h.addressed⟩, fun hb => by cases hb⟩
  · intro ha
    apply session_step
    apply Alike.ite
    · intro _
      apply cmdioWrite_step
      exact Alike.returns ⟨rfl, ⟨h.idle, h.addressed⟩, fun hb => by cases hb⟩
    · intro _
      exact Alike.returns ⟨rfl, h, fun _ => hnamed ha⟩

/-- What an attempt to connect leaves: a data connection, or the session as it was. -/
def Connected (tun : Tunables) (K : Multiset Fd) (fd : Fd) (K' : Multiset Fd) (l' : Fd) (s' : Sess) :
    Prop :=
  (fd = -1 ∧ K' = K ∧ Ready tun l' s') ∨ (K' = fd ::ₘ K ∧ Busy tun fd l' s')

theorem initDataSockParams_step {f g : Unit → Ftp Fd} {H : Fd → Multiset Fd → Fd → Sess → Prop}
    (hidle : s.dataFd = -1) (h : Alike sys tun (f ()) (g ()) K l { s with dataFd := fd } H B) :
    Alike sys tun (initDataSockParams fd >>= f) (initDataSockParams fd >>= g) K l s H B := by
  have hinit : Alike sys tun (initDataSockParams fd) (initDataSockParams fd) K l s
      (Only () K l { s with dataFd := fd }) B := by
    unfold initDataSockParams
    apply session_step
    rw [if_neg (not_not.mpr hidle)]
    exact updateSession_run _ ⟨rfl, rfl, rfl, rfl⟩
  exact hinit.step h

theorem vsfFtpdataioGetPasvFd_alike (hl : l ≠ -1) (h : Ready tun l s) :
    Alike sys tun (vsfFtpdataioGetPasvFd sys tun.oneProcess) (vsfFtpdataioGetPasvFd sys tun.twoProcess)
      K l s (Connected tun K) B := by
  unfold vsfFtpdataioGetPasvFd
  apply (askPasvFd_alike hl).bind
  rintro fd K' l' s' ⟨rfl, rfl, ⟨rfl | rfl, rfl⟩ | ⟨hpos, rfl⟩⟩
  · apply cmdioWrite_step
    exact Alike.returns (Or.inl ⟨rfl, rfl, h.idle, h.addressed⟩)
  · apply cmdioWrite_step
    exact Alike.returns (Or.inl ⟨rfl, rfl, h.idle, h.addressed⟩)
  · rw [if_neg (ne_none_of_nonneg hpos), if_neg (by rintro rfl; exact absurd hpos (by decide))]
    apply initDataSockParams_step h.idle
    exact Alike.returns (Or.inr ⟨rfl, hpos, rfl, h.addressed⟩)

theorem vsfFtpdataioGetPortFd_alike (hnamed : s.portSockaddr ≠ none) (h : Ready tun l s) :
    Alike sys tun (vsfFtpdataioGetPortFd sys tun.oneProcess) (vsfFtpdataioGetPortFd sys tun.twoProcess)
      K l s (Connected tun K) (Expected tun cmd) := by
  obtain ⟨a, ha⟩ := Option.ne_none_iff_exists'.mp hnamed
  obtain ⟨rfl, hallowed⟩ := h.addressed a ha
  have hask : Alike sys tun (askPrivDataSock sys tun.oneProcess.toConfig)
      (askPrivDataSock sys tun.twoProcess.toConfig) K (-1) s (DataSock K (-1) s) (Expected tun cmd) :=
    (askPrivDataSock_alike ha hallowed.port hallowed.checked).weaken (fun _ _ _ _ hsock => hsock)
      fun _ he => Or.inr (Or.inr (Or.inl he))
  unfold vsfFtpdataioGetPortFd
  apply hask.bind
  rintro fd K' l' s' ⟨rfl, rfl, ⟨hneg, rfl⟩ | ⟨hpos, rfl⟩⟩
  · rw [if_pos (by rcases hneg with rfl | rfl <;> decide)]
    apply cmdioWrite_step
    exact Alike.returns (Or.inl ⟨rfl, rfl, h.idle, h.addressed⟩)
  · rw [if_neg (not_lt.mpr hpos)]
    apply initDataSockParams_step h.idle
    exact Alike.returns (Or.inr ⟨rfl, hpos, rfl, h.addressed⟩)

theorem vsfFtpdataioDisposeTransferFd_alike (a : Answers) (h : Busy tun fd l s) :
    Alike sys tun (vsfFtpdataioDisposeTransferFd a) (vsfFtpdataioDisposeTransferFd a) (fd ::ₘ K) l s
      (StillReady tun K) B := by
  obtain ⟨hpos, rfl, hdest⟩ := h
  unfold vsfFtpdataioDisposeTransferFd
  apply session_step
  rw [if_neg (ne_none_of_nonneg hpos)]
  apply Alike.step (closeFailok_alike s.dataFd)
  apply updateSession_step
  exact Alike.returns ⟨rfl, rfl, hdest⟩

theorem cmdioWriteExit_alike {G : Unit → Multiset Fd → Fd → Sess → Prop} (status : ℕ) (text : String)
    (exitVal : ℕ) (h : B (.exits exitVal)) :
    Alike sys tun (cmdioWriteExit sys status text exitVal) (cmdioWriteExit sys status text exitVal)
      K l s G B := by
  unfold cmdioWriteExit
  apply cmdioWrite_step
  exact Alike.dies h

theorem vsfFtpdataioPostMarkConnect_alike (a : Answers) (h : Busy tun fd l s) :
    Alike sys tun (vsfFtpdataioPostMarkConnect sys tun.oneProcess a)
      (vsfFtpdataioPostMarkConnect sys tun.twoProcess a) K l s
      (fun _ K' l' s' => K' = K ∧ Busy tun fd l' s') (Expected tun cmd) := by
  unfold vsfFtpdataioPostMarkConnect
  apply session_step
  apply Alike.ite
  · intro _
    exact Alike.returns ⟨rfl, h⟩
  · intro _
    apply Alike.ite
    · intro _
      exact Alike.returns ⟨rfl, h⟩
    · intro _
      apply Alike.ite
      · intro _
        apply Alike.bind (cmdioWriteExit_alike 522 _ 1 (Or.inr (Or.inl rfl)))
        exact fun _ _ _ _ hno => absurd hno id
      · intro _
        apply cmdioWrite_step
        exact Alike.returns ⟨rfl, h.valid, h.open_, h.addressed⟩

theorem markConnect_alike (statusMsg : MyStr) (a : Answers) {K' : Multiset Fd}
    (h : Connected tun K fd K' l s) :
    Alike sys tun (markConnect sys tun.oneProcess statusMsg a fd)
      (markConnect sys tun.twoProcess statusMsg a fd) K' l s (Connected tun K) (Expected tun cmd) := by
  unfold markConnect
  rcases h with ⟨rfl, rfl, h⟩ | ⟨rfl, h⟩
  · exact Alike.returns (Or.inl ⟨rfl, rfl, h⟩)
  · rw [if_neg (not_lt.mpr h.valid), if_neg (not_lt.mpr h.valid)]
    apply cmdioWrite_step
    refine Alike.bind (vsfFtpdataioPostMarkConnect_alike a ⟨h.valid, h.open_, h.addressed⟩) ?_
    rintro ret K' l' s' ⟨rfl, h⟩
    apply Alike.ite
    · intro _
      apply (vsfFtpdataioDisposeTransferFd_alike a h).bind
      rintro _ K' l' s' ⟨rfl, h⟩
      exact Alike.returns (Or.inl ⟨rfl, rfl, h⟩)
    · intro _
      exact Alike.returns (Or.inr ⟨rfl, h⟩)

theorem getRemoteTransferFd_alike (statusMsg : MyStr) (a : Answers) (h : Ready tun l s)
    (hnamed : Named l s) :
    Alike sys tun (getRemoteTransferFd sys tun.oneProcess statusMsg a)
      (getRemoteTransferFd sys tun.twoProcess statusMsg a) K l s (Connected tun K) (Expected tun cmd) := by
  have hready : Ready tun l { s with aborReceived := false } := ⟨h.idle, h.addressed⟩
  unfold getRemoteTransferFd
  apply Alike.step (pasvActive_alike h.addressed)
  by_cases hl : l ≠ -1
  · rw [if_pos hl]
    apply updateSession_step
    apply Alike.step (pasvActive_alike hready.addressed)
    rw [if_pos hl]
    apply (vsfFtpdataioGetPasvFd_alike hl hready).bind
    exact fun fd K' l' s' hc => markConnect_alike statusMsg a hc
  · have hport:=hnamed.resolve_left hl
    rw [if_neg hl]
    apply Alike.step (portActive_alike h.addressed)
    rw [if_neg hport]
    apply updateSession_step
    apply Alike.step (pasvActive_alike hready.addressed)
    rw [if_neg hl]
    refine Alike.bind (vsfFtpdataioGetPortFd_alike hport hready) ?_
    exact fun fd K' l' s' hc => markConnect_alike statusMsg a hc

end Channel

/-! ### The handlers -/

section Handlers
variable {sys : System} {tun : Tunables} {cmd : Command} {K : Multiset Fd} {l fd : Fd} {s : Sess}
  {B : Ending → Prop}

theorem cmdioWrite_alike (status : ℕ) (text : MyStr) (h : Ready tun l s) :
    Alike sys tun (cmdioWrite sys status text) (cmdioWrite sys status text) K l s (StillReady tun K) B := by
  apply (writeReply_alike ⟨status, sp, text⟩).weaken
  · rintro _ _ _ _ ⟨_, rfl, rfl, rfl⟩
    exact ⟨rfl, h.idle, h.addressed⟩
  · exact fun _ hb => hb

theorem cmdioWriteText_alike (status : ℕ) (text : String) (h : Ready tun l s) :
    Alike sys tun (cmdioWriteText sys status text) (cmdioWriteText sys status text) K l s
      (StillReady tun K) B := cmdioWrite_alike status _ h

/-- Each reply is written or ends the session. -/
theorem writeReplies_alike (replies : List Reply) (h : Ready tun l s) :
    Alike sys tun (writeReplies sys replies) (writeReplies sys replies) K l s (StillReady tun K) B := by
  induction replies generalizing s with
  | nil => exact Alike.returns ⟨rfl, h⟩
  | cons r replies ih =>
    unfold writeReplies
    apply Alike.step (writeReply_alike r)
    exact ih ⟨h.idle, h.addressed⟩

theorem portCleanup_step {α : Type} {f g : Unit → Ftp α} {H : α → Multiset Fd → Fd → Sess → Prop}
    (h : Alike sys tun (f ()) (g ()) K l { s with portSockaddr := none } H B) :
    Alike sys tun (portCleanup >>= f) (portCleanup >>= g) K l s H B := updateSession_step _ h

theorem portPasvCleanup_alike (h : Ready tun l s) :
    Alike sys tun (portPasvCleanup sys tun.oneProcess) (portPasvCleanup sys tun.twoProcess) K l s
      (StillReady tun K) B := by
  unfold portPasvCleanup
  apply portCleanup_step
  apply pasvCleanup_alike.weaken
  · rintro _ _ _ _ ⟨_, rfl, rfl, rfl⟩
    exact ⟨rfl, h.idle, fun a ha => by cases ha⟩
  · exact fun _ hb => hb

theorem transfer_alike (a : Answers) (h : Busy tun fd l s) :
    Alike sys tun (transfer a) (transfer a) K l s (fun _ K' l' s' => K' = K ∧ Busy tun fd l' s') B := by
  unfold transfer
  apply updateSession_step
  exact Alike.returns ⟨rfl, h.valid, h.open_, h.addressed⟩

theorem checkAbor_alike (h : Ready tun l s) :
    Alike sys tun (checkAbor sys) (checkAbor sys) K l s (StillReady tun K) B := by
  unfold checkAbor
  apply session_step
  apply Alike.ite
  · intro _
    apply updateSession_step
    exact cmdioWriteText_alike _ _ ⟨h.idle, h.addressed⟩
  · intro _
    exact Alike.returns ⟨rfl, h⟩

theorem finishTransfer_alike (ret : ℤ) (badNet badFile : String) (h : Ready tun l s) :
    Alike sys tun (finishTransfer sys ret badNet badFile) (finishTransfer sys ret badNet badFile) K l s
      (StillReady tun K) B := by
  unfold finishTransfer
  apply Alike.ite
  · intro _
    exact cmdioWriteText_alike _ _ h
  · intro _
    apply Alike.ite
    · intro _
      apply session_step
      apply Alike.ite
      · intro _
        exact cmdioWriteText_alike _ _ h
      · intro _
        exact Alike.returns ⟨rfl, h⟩
    · intro _
      exact cmdioWriteText_alike _ _ h

theorem transferFile_alike (statusMsg : MyStr) (a : Answers) (badNet badFile : String)
    (h : Ready tun l s) (hnamed : Named l s) :
    Alike sys tun (transferFile sys tun.oneProcess statusMsg a badNet badFile)
      (transferFile sys tun.twoProcess statusMsg a badNet badFile) K l s (StillReady tun K)
      (Expected tun cmd) := by
  unfold transferFile
  apply (getRemoteTransferFd_alike statusMsg a h hnamed).bind
  rintro fd K' l' s' (⟨rfl, rfl, h⟩ | ⟨rfl, h⟩)
  · exact portPasvCleanup_alike h
  · rw [if_pos h.valid, if_pos h.valid]
    apply (transfer_alike a h).bind
    rintro ret K' l' s' ⟨rfl, h⟩
    apply (vsfFtpdataioDisposeTransferFd_alike a h).bind
    rintro disposed K' l' s' ⟨rfl, h⟩
    apply (finishTransfer_alike _ badNet badFile h).bind
    rintro _ K' l' s' ⟨rfl, h⟩
    apply (checkAbor_alike h).bind
    rintro _ K' l' s' ⟨rfl, h⟩
    exact portPasvCleanup_alike h

/-- The end of a handler that has a file open. -/
theorem closing_alike (openedFile : Fd) (h : Ready tun l s) :
    Alike sys tun (within inFtp (sysClose openedFile)) (within inFtp (sysClose openedFile))
      (openedFile ::ₘ K) l s (StillReady tun K) B := by
  apply (sysClose_alike openedFile).weaken
  · rintro _ _ _ _ ⟨_, rfl, rfl, rfl⟩
    exact ⟨rfl, h⟩
  · exact fun _ hb => hb

theorem handleRetr_alike (arg : MyStr) (a : Answers) (h : Ready tun l s) :
    Alike sys tun (handleRetr sys tun.oneProcess arg a) (handleRetr sys tun.twoProcess arg a) K l s
      (StillReady tun K) (Expected tun cmd) := by
  unfold handleRetr
  apply session_step
  apply updateSession_step
  refine Alike.bind (dataTransferChecksOk_alike ⟨h.idle, h.addressed⟩) ?_
  rintro ok K' l' s' ⟨rfl, h, hnamed⟩
  apply Alike.ite
  · intro hok
    apply Alike.ite
    · intro _
      exact cmdioWriteText_alike _ _ h
    · intro _
      apply Alike.ite
      · intro _
        exact cmdioWriteText_alike _ _ h
      · intro _
        cases a.opened with
        | none => exact cmdioWriteText_alike _ _ h
        | some openedFile =>
          apply Alike.step (received_alike openedFile)
          apply Alike.branch (G := StillReady tun (openedFile ::ₘ K'))
          · apply Alike.ite
            · intro _
              exact cmdioWriteText_alike _ _ h
            · intro _
              exact transferFile_alike _ a _ _ h (hnamed hok)
          · rintro _ K' l' s' ⟨rfl, h⟩
            exact closing_alike openedFile h
  · intro _
    exact Alike.returns ⟨rfl, h⟩

theorem finishListing_alike (ret : ℤ) (listed : Bool) (h : Ready tun l s) :
    Alike sys tun (finishListing sys ret listed) (finishListing sys ret listed) K l s
      (StillReady tun K) B := by
  unfold finishListing
  apply Alike.ite
  · intro _
    apply session_step
    apply Alike.ite
    · intro _
      exact cmdioWriteText_alike _ _ h
    · intro _
      exact Alike.returns ⟨rfl, h⟩
  · intro _
    apply Alike.ite
    · intro _
      exact cmdioWriteText_alike _ _ h
    · intro _
      exact cmdioWriteText_alike _ _ h

theorem listDirectory_alike (a : Answers) (h : Ready tun l s) (hnamed : Named l s) :
    Alike sys tun (listDirectory sys tun.oneProcess a) (listDirectory sys tun.twoProcess a) K l s
      (StillReady tun K) (Expected tun cmd) := by
  unfold listDirectory
  apply (getRemoteTransferFd_alike _ a h hnamed).bind
  rintro fd K' l' s' (⟨rfl, rfl, h⟩ | ⟨rfl, h⟩)
  · exact Alike.returns ⟨rfl, h⟩
  · rw [if_pos h.valid, if_pos h.valid]
    apply Alike.branch (G := fun _ K₁ l₁ s₁ => K₁ = fd ::ₘ K ∧ Busy tun fd l₁ s₁)
    · apply Alike.ite
      · intro _
        exact transfer_alike a h
      · intro _
        exact Alike.returns ⟨rfl, h⟩
    · rintro ret K' l' s' ⟨rfl, h⟩
      apply (vsfFtpdataioDisposeTransferFd_alike a h).bind
      rintro disposed K' l' s' ⟨rfl, h⟩
      apply (finishListing_alike _ _ h).bind
      rintro _ K' l' s' ⟨rfl, h⟩
      exact checkAbor_alike h

/-- The directory is held from before the data connection to the end of the handler. -/
theorem handleDirCommon_alike (a : Answers) (h : Ready tun l s) :
    Alike sys tun (handleDirCommon sys tun.oneProcess a) (handleDirCommon sys tun.twoProcess a) K l s
      (StillReady tun K) (Expected tun cmd) := by
  unfold handleDirCommon
  apply (dataTransferChecksOk_alike h).bind
  rintro ok K' l' s' ⟨rfl, h, hnamed⟩
  apply Alike.ite
  · intro hok
    apply Alike.ite
    · intro _
      exact cmdioWriteText_alike _ _ h
    · intro _
      cases a.opened with
      | none =>
        apply (listDirectory_alike a h (hnamed hok)).bind
        rintro _ K' l' s' ⟨rfl, h⟩
        exact portPasvCleanup_alike h
      | some dirFd =>
        apply Alike.step (received_alike dirFd)
        apply (listDirectory_alike a h (hnamed hok)).bind
        rintro _ K' l' s' ⟨rfl, h⟩
        apply Alike.step (sysClosedir_alike dirFd)
        exact portPasvCleanup_alike h
  · intro _
    exact Alike.returns ⟨rfl, h⟩

theorem handleUploadCommon_alike (isUnique : Bool) (filename : MyStr) (a : Answers) (h : Ready tun l s) :
    Alike sys tun (handleUploadCommon sys tun.oneProcess isUnique filename a)
      (handleUploadCommon sys tun.twoProcess isUnique filename a) K l s
      (StillReady tun K) (Expected tun cmd) := by
  unfold handleUploadCommon
  apply updateSession_step
  refine Alike.bind (dataTransferChecksOk_alike ⟨h.idle, h.addressed⟩) ?_
  rintro ok K' l' s' ⟨rfl, h, hnamed⟩
  apply Alike.ite
  · intro hok
    apply Alike.ite
    · intro _
      exact cmdioWriteText_alike _ _ h
    · intro _
      cases a.opened with
      | none => exact cmdioWriteText_alike _ _ h
      | some newFileFd =>
        have hfd : (newFileFd : ℤ) ≠ -1 := ne_none_of_nonneg (Int.natCast_nonneg newFileFd)
        apply Alike.step (received_alike newFileFd)
        apply Alike.when (G := Only () ((newFileFd : ℤ) ::ₘ K') l' s')
        · intro hchown
          exact (askChownUpload_alike hchown.2 hfd).weaken (fun _ _ _ _ hsame => hsame)
            fun e he => Or.inr (Or.inr (Or.inr (Or.inr (Or.inl ⟨he, hchown.2⟩))))
        · exact fun _ => ⟨rfl, rfl, rfl, rfl⟩
        · rintro _ K' l' s' ⟨_, rfl, rfl, rfl⟩
          apply (transferFile_alike _ a _ _ h (hnamed hok)).bind
          rintro _ K' l' s' ⟨rfl, h⟩
          exact closing_alike newFileFd h
  · intro _
    exact Alike.returns ⟨rfl, h⟩

theorem epsvArg_alike (arg : MyStr) (h : Ready tun l s) :
    Alike sys tun (epsvArg sys tun.oneProcess arg) (epsvArg sys tun.twoProcess arg) K l s
      (StillReady tun K) B := by
  unfold epsvArg
  apply Alike.ite
  · intro _
    exact Alike.returns ⟨rfl, h⟩
  · intro _
    apply Alike.ite
    · intro _
      apply updateSession_step
      apply cmdioWrite_step
      exact Alike.returns ⟨rfl, h.idle, h.addressed⟩
    · intro _
      apply Alike.ite
      · intro _
        apply cmdioWrite_step
        exact Alike.returns ⟨rfl, h.idle, h.addressed⟩
      · intro _
        exact Alike.returns ⟨rfl, h⟩

theorem announced_alike (h : Ready tun l s) :
    Alike sys tun (announced tun.oneProcess) (announced tun.twoProcess) K l s (StillReady tun K)
      (Expected tun cmd) := by
  have hmodel : announced tun.oneProcess = announced tun.twoProcess := rfl
  rw [hmodel]
  unfold announced
  cases hp : tun.twoProcess.pasvAddress with
  | none => exact Alike.returns ⟨rfl, h⟩
  | some parsed =>
    cases parsed with
    | none => exact Alike.dies (Or.inr (Or.inr (Or.inr (Or.inl ⟨rfl, hp⟩))))
    | some raw => exact Alike.returns ⟨rfl, h⟩

theorem enterPassive_alike (isEpsv : Bool) (h : Ready tun l s) :
    Alike sys tun (enterPassive sys tun.oneProcess isEpsv) (enterPassive sys tun.twoProcess isEpsv)
      K l s (StillReady tun K) (Expected tun cmd) := by
  unfold enterPassive
  apply Alike.step pasvCleanup_alike
  apply portCleanup_step
  apply (askListen_alike rfl).bind
  rintro port K' l' _ ⟨_, rfl, _, rfl⟩
  have hready : Ready tun l' { s with portSockaddr := none } := ⟨h.idle, fun a ha => by cases ha⟩
  apply Alike.ite
  · intro _
    exact cmdioWrite_alike _ _ hready
  · intro _
    apply (announced_alike hready).bind
    rintro addr K' l' s' ⟨rfl, h⟩
    exact cmdioWrite_alike _ _ h

theorem handlePasv_alike (epsv : Option MyStr) (h : Ready tun l s) :
    Alike sys tun (handlePasv sys tun.oneProcess epsv) (handlePasv sys tun.twoProcess epsv)
      K l s (StillReady tun K) (Expected tun cmd) := by
  cases epsv with
  | none => exact enterPassive_alike false h
  | some arg =>
    unfold handlePasv
    apply (epsvArg_alike arg h).bind
    rintro goesOn K' l' s' ⟨rfl, h⟩
    apply Alike.ite
    · intro _
      exact enterPassive_alike true h
    · intro _
      exact Alike.returns ⟨rfl, h⟩

theorem sockaddrAddrEqual_family {a b : Addr} (hfam : isIpv6 a = isIpv6 b)
    (h : sockaddrAddrEqual a b = true) : b = a := by
  cases a with
  | ipv4 x =>
    cases b with
    | ipv4 y => simpa [sockaddrAddrEqual, eq_comm] using h
    | ipv6 y => cases hfam
  | ipv6 x =>
    cases b with
    | ipv4 y => cases hfam
    | ipv6 y => simpa [sockaddrAddrEqual, eq_comm] using h

/-- The address is kept only where it is allowed. -/
theorem setPortSockaddr_alike {addr : Addr} {port : ℕ} (bad good : String) (okCode : ℕ)
    (hidle : s.dataFd = -1) (hfam : isIpv6 tun.remoteAddr = isIpv6 addr) (hport : port < 2 ^ 16) :
    Alike sys tun (setPortSockaddr sys tun.oneProcess addr port bad good okCode)
      (setPortSockaddr sys tun.twoProcess addr port bad good okCode) K (-1) s (StillReady tun K) B := by
  unfold setPortSockaddr
  apply updateSession_step
  apply Alike.ite
  · intro _
    apply cmdioWrite_step
    unfold portCleanup
    apply updateSession_run
    exact ⟨rfl, hidle, fun a ha => by cases ha⟩
  · intro hchecked
    apply cmdioWriteText_alike
    refine ⟨hidle, fun a ha => ?_⟩
    obtain rfl : (⟨addr, port⟩ : SockAddr) = a := Option.some.inj ha
    refine ⟨rfl, hport, ?_⟩
    by_cases hprom : tun.portPromiscuous = true
    · exact Or.inl hprom
    · have hboth : sockaddrAddrEqual tun.remoteAddr addr = true ∧ isPortReserved port = false := by
        have hno : ¬ (¬ sockaddrAddrEqual tun.remoteAddr addr = true ∨ isPortReserved port = true) :=
          fun h => hchecked ⟨hprom, h⟩
        simpa using hno
      refine Or.inr ⟨sockaddrAddrEqual_family hfam hboth.1, ?_⟩
      simpa [isPortReserved] using hboth.2

theorem isIpv6_setIpv4addr (raw : List UInt8) : isIpv6 (setIpv4addr tun raw) = isIpv6 tun.localAddr := by
  unfold setIpv4addr
  cases h : isIpv6 tun.localAddr <;> rfl

theorem handlePort_alike (arg : MyStr) (hfam : isIpv6 tun.localAddr = isIpv6 tun.remoteAddr)
    (h : Ready tun l s) :
    Alike sys tun (handlePort sys tun.oneProcess arg) (handlePort sys tun.twoProcess arg) K l s
      (StillReady tun K) B := by
  unfold handlePort
  apply Alike.step pasvCleanup_alike
  apply portCleanup_step
  cases parseUcharStringSep comma 6 arg with
  | none => exact cmdioWriteText_alike _ _ ⟨h.idle, fun a ha => by cases ha⟩
  | some vals =>
    refine setPortSockaddr_alike _ _ _ h.idle ?_ ?_
    · exact hfam.symm.trans (isIpv6_setIpv4addr _).symm
    · have hhi:=(vals.getD 4 0).toNat_lt
      have hlo:=(vals.getD 5 0).toNat_lt
      omega

theorem eprtFields_ok {arg : MyStr} {proto port : ℤ} {raw : List UInt8}
    (h : eprtFields tun arg = .ok (proto, raw, port)) :
    (proto = 2 → isIpv6 tun.localAddr = true) ∧ port.toNat < 2 ^ 16 := by
  unfold eprtFields at h
  dsimp only at h
  generalize strAtoi (strSplitChar (strSplitChar arg bar).2 bar).1 = p at h
  split at h
  · cases h
  split at h
  · cases h
  next hproto =>
  split at h
  · cases h
  split at h
  · cases h
  split at h
  · cases h
  next hport =>
  cases h
  refine ⟨fun hp => ?_, ?_⟩
  · by_contra hfour
    exact hproto (Or.inr (Or.inr ⟨hfour, hp⟩))
  · omega

theorem handleEprt_alike {arg : MyStr} (hfam : isIpv6 tun.localAddr = isIpv6 tun.remoteAddr)
    (h : Ready tun l s) :
    Alike sys tun (handleEprt sys tun.oneProcess arg) (handleEprt sys tun.twoProcess arg) K l s
      (StillReady tun K) (Expected tun (.eprt arg)) := by
  have hmodel : eprtFields tun.oneProcess = eprtFields tun := rfl
  have hmodel' : eprtFields tun.twoProcess = eprtFields tun := rfl
  unfold handleEprt
  apply portCleanup_step
  apply Alike.step pasvCleanup_alike
  rw [hmodel, hmodel']
  cases hf : eprtFields tun arg with
  | error text => exact cmdioWriteText_alike _ _ ⟨h.idle, fun a ha => by cases ha⟩
  | ok fields =>
    obtain ⟨proto, raw, port⟩ := fields
    obtain ⟨hsix, hport⟩ := eprtFields_ok hf
    apply Alike.when (G := Only () K (-1) { s with portSockaddr := none })
    · rintro ⟨rfl, hshort⟩
      exact Alike.dies (Or.inr (Or.inr (Or.inr (Or.inr (Or.inr ⟨rfl, arg, raw, port, rfl, hf, hshort⟩)))))
    · exact fun _ => ⟨rfl, rfl, rfl, rfl⟩
    · rintro _ _ _ _ ⟨_, rfl, rfl, rfl⟩
      by_cases hp : proto = 2
      · rw [if_pos hp, if_pos hp]
        refine setPortSockaddr_alike _ _ _ h.idle ?_ hport
        exact hfam.symm.trans (hsix hp)
      · rw [if_neg hp, if_neg hp]
        refine setPortSockaddr_alike _ _ _ h.idle ?_ hport
        exact hfam.symm.trans (isIpv6_setIpv4addr _).symm

theorem noPerm_alike (h : Ready tun l s) :
    Alike sys tun (noPerm sys) (noPerm sys) K l s (StillReady tun K) B := cmdioWriteText_alike _ _ h

/-- One command. -/
theorem processCommand_alike (cmd : Command) (hfam : isIpv6 tun.localAddr = isIpv6 tun.remoteAddr)
    (h : Ready tun l s) :
    Alike sys tun (processCommand sys tun.oneProcess cmd) (processCommand sys tun.twoProcess cmd) K l s
      (StillReady tun K) (Expected tun cmd) := by
  unfold processCommand
  cases cmd with
  | pasv =>
    apply session_step
    exact Alike.ite (fun _ => handlePasv_alike none h) (fun _ => noPerm_alike h)
  | epsv arg => exact Alike.ite (fun _ => handlePasv_alike (some arg) h) (fun _ => noPerm_alike h)
  | port arg =>
    apply session_step
    exact Alike.ite (fun _ => handlePort_alike arg hfam h) (fun _ => noPerm_alike h)
  | eprt arg => exact Alike.ite (fun _ => handleEprt_alike hfam h) (fun _ => noPerm_alike h)
  | retr arg a => exact Alike.ite (fun _ => handleRetr_alike arg a h) (fun _ => noPerm_alike h)
  | list a => exact Alike.ite (fun _ => handleDirCommon_alike a h) (fun _ => noPerm_alike h)
  | upload isAppend isUnique filename a =>
    exact Alike.ite (fun _ => handleUploadCommon_alike isUnique filename a h) (fun _ => noPerm_alike h)
  | other isAscii restartPos dataUseSsl replies =>
    apply updateSession_step
    exact writeReplies_alike replies ⟨h.idle, h.addressed⟩
  | quit =>
    exact cmdioWriteExit_alike 221 _ 0 (Or.inl ⟨rfl, rfl⟩)

variable (sys K) in
/-- Any commands, by induction on the list. -/
theorem processPostLogin_alike (cmds : List Command)
    (hfam : isIpv6 tun.localAddr = isIpv6 tun.remoteAddr) (h : Ready tun l s) :
    Alike sys tun (processPostLogin sys tun.oneProcess cmds) (processPostLogin sys tun.twoProcess cmds)
      K l s (StillReady tun K) (fun e => ∃ cmd ∈ cmds, Expected tun cmd e) := by
  induction cmds generalizing l s with
  | nil => exact Alike.returns ⟨rfl, h⟩
  | cons cmd cmds ih =>
    have hcmd : Alike sys tun (processCommand sys tun.oneProcess cmd)
        (processCommand sys tun.twoProcess cmd) K l s (StillReady tun K)
        (fun e => ∃ c ∈ cmd :: cmds, Expected tun c e) :=
      (processCommand_alike cmd hfam h).weaken (fun _ _ _ _ hk => hk)
        fun e he => ⟨cmd, List.mem_cons_self, he⟩
    unfold processPostLogin
    apply hcmd.bind
    rintro _ K' l' s' ⟨rfl, h⟩
    apply session_step
    apply Alike.when (G := Only () K' l' s')
    · intro _
      exact cmdioWriteExit_alike 421 _ 1 ⟨cmd, List.mem_cons_self, Or.inr (Or.inl rfl)⟩
    · exact fun _ => ⟨rfl, rfl, rfl, rfl⟩
    · rintro _ _ _ _ ⟨_, rfl, rfl, rfl⟩
      apply (ih h).weaken
      · exact fun _ _ _ _ hk => hk
      · rintro e ⟨c, hc, he⟩
        exact ⟨c, List.mem_cons_of_mem _ hc, he⟩

end Handlers

/-! ### Sessions from the start -/

section Sessions
variable (sys : System) (tun : Tunables)

theorem sessionStart_ready : Ready tun (-1) sessionStart.sess := ⟨rfl, fun a ha => by cases ha⟩

theorem sessionStart_at : At sys tun 0 (-1) sessionStart.sess sessionStart sessionStart :=
  ⟨[], rfl, rfl, Orderly.nil, fun h => absurd rfl h⟩

theorem processPostLogin_ends (cmds : List Command)
    (hfam : isIpv6 tun.localAddr = isIpv6 tun.remoteAddr) :
    (∃ log l s, Ready tun l s ∧ Orderly sys tun.toConfig (reachable tun) log ∧
      (l ≠ -1 → Listening sys log l) ∧
      processPostLogin sys tun.oneProcess cmds sessionStart = (.ok (), oneProcessWorld log 0 l s) ∧
      processPostLogin sys tun.twoProcess cmds sessionStart = (.ok (), twoProcessWorld log 0 l s)) ∨
    (∃ e w v, Stopped sys tun (fun e => ∃ cmd ∈ cmds, Expected tun cmd e) e w v ∧
      processPostLogin sys tun.oneProcess cmds sessionStart = (.error e, w) ∧
      processPostLogin sys tun.twoProcess cmds sessionStart = (.error e, v)) := by
  have halike:=processPostLogin_alike sys 0 cmds hfam (sessionStart_ready tun) _ _
    (sessionStart_at sys tun)
  rcases halike.cases with ⟨_, w, v, hone, htwo, K, l, s, ⟨rfl, hready⟩, log, rfl, rfl, hlog⟩ |
    ⟨e, w, v, hone, htwo, hstop⟩
  · exact Or.inl ⟨log, l, s, hready, hlog.1, hlog.2, hone, htwo⟩
  · exact Or.inr ⟨e, w, v, hstop, hone, htwo⟩

/-- Every session goes the same way in both models: the same calls of the system,
the same replies and the same end. Between commands nothing is left on the
sockets, the parent holds the listening socket alone, and the session nothing. -/
theorem both_models_agree (cmds : List Command)
    (hfam : isIpv6 tun.localAddr = isIpv6 tun.remoteAddr) :
    let one := processPostLogin sys tun.oneProcess cmds sessionStart
    let two := processPostLogin sys tun.twoProcess cmds sessionStart
    one.1 = two.1 ∧ one.2.log = two.2.log ∧ one.2.sess = two.2.sess ∧
      (two.1 = .ok () → one.2.ftp.fds = two.2.parent.fds + two.2.ftp.fds ∧
        one.2.ftp.pasvListenFd = two.2.parent.pasvListenFd ∧
        two.2.parent.fds = listenFds two.2.parent.pasvListenFd ∧ two.2.ftp.fds = 0 ∧
        two.2.toParent = [] ∧ two.2.toChild = []) := by
  intro one two
  rcases processPostLogin_ends sys tun cmds hfam with ⟨log, l, s, _, _, _, hone, htwo⟩ |
    ⟨e, w, v, ⟨hlog, hsess, _⟩, hone, htwo⟩
  · rw [show one = _ from hone, show two = _ from htwo]
    exact ⟨rfl, rfl, rfl, fun _ => ⟨rfl, rfl, rfl, rfl, rfl, rfl⟩⟩
  · rw [show one = _ from hone, show two = _ from htwo]
    exact ⟨rfl, hlog, hsess, fun h => by cases h⟩

/-- A system on which every call succeeds, and the peer is always the same. -/
def willing (peer : Addr) : System where
  socket log := some (3 + log.length)
  bind _ := none
  listen _ := none
  connect _ := true
  accept log := some (3 + log.length, peer)
  fstat _ := some ⟨14, true⟩
  fchown _ := true
  randomBytes _ := (0, 0)
  takesReply _ := true

def listing : List Command :=
  [.pasv, .list ⟨true, some 9, true, true, true, 0, true, true, 0, false, false⟩, .pasv]

/-- Both ends of the connection are this machine. -/
def loopback : Addr := .ipv4 [127, 0, 0, 1]

theorem listing_goes_on :
    (processPostLogin (willing loopback) (tunablesLoadDefaults loopback loopback).twoProcess listing
      sessionStart).1 = .ok () := by
  have hok : (processPostLogin (willing loopback) (tunablesLoadDefaults loopback loopback).twoProcess
      listing sessionStart).1.isOk = true := by decide +kernel
  generalize (processPostLogin (willing loopback) _ listing sessionStart).1 = r at hok
  cases r with
  | ok u => rfl
  | error e => cases hok

theorem both_models_agree_listing :
    let two := processPostLogin (willing loopback) (tunablesLoadDefaults loopback loopback).twoProcess
      listing sessionStart
    two.1 = .ok () ∧ two.2.parent.fds = listenFds two.2.parent.pasvListenFd ∧ two.2.ftp.fds = 0 := by
  obtain ⟨_, _, _, hends⟩ :=
    both_models_agree (willing loopback) (tunablesLoadDefaults loopback loopback) listing rfl
  obtain ⟨_, _, hparent, hftp, _⟩ := hends listing_goes_on
  exact ⟨listing_goes_on, hparent, hftp⟩

/-- Any session, in either model: the calls it makes of the system are in order;
it ends for the system, for a client that takes no reply or for a reason that is
expected of one of its commands;
between commands there is no descriptor but that of a listening socket, and none
beside an address that the client has named. -/
theorem session_safe (cmds : List Command) (hfam : isIpv6 tun.localAddr = isIpv6 tun.remoteAddr) :
    let r := processPostLogin sys tun cmds sessionStart
    Orderly sys tun.toConfig (reachable tun) r.2.log ∧
      (∀ e, r.1 = .error e → Refused e ∨ Unheard e ∨ ∃ cmd ∈ cmds, Expected tun cmd e) ∧
      (r.1 = .ok () → ∃ l, r.2.ftp.fds + r.2.parent.fds = listenFds l ∧ Ready tun l r.2.sess ∧
        (l ≠ -1 → Listening sys r.2.log l)) := by
  have hmodel : tun = tun.oneProcess ∨ tun = tun.twoProcess := by
    obtain ⟨⟨model⟩⟩ := tun
    cases model
    · exact Or.inr rfl
    · exact Or.inl rfl
  intro r
  rcases processPostLogin_ends sys tun cmds hfam with
    ⟨log, l, s, hready, hord, hlisten, hone, htwo⟩ | ⟨e, w, v, ⟨hlog, _, hord, hend⟩, hone, htwo⟩
  · have hr : r.1 = .ok () ∧ r.2.log = log ∧ r.2.sess = s ∧ r.2.ftp.fds + r.2.parent.fds = listenFds l := by
      rcases hmodel with h | h
      · rw [← h] at hone
        rw [show r = _ from hone]
        exact ⟨rfl, rfl, rfl, by simp [oneProcessWorld]⟩
      · rw [← h] at htwo
        rw [show r = _ from htwo]
        exact ⟨rfl, rfl, rfl, by simp [twoProcessWorld]⟩
    obtain ⟨hok, rfl, rfl, hfds⟩ := hr
    refine ⟨hord, fun e he => ?_, fun _ => ⟨l, hfds, hready, hlisten⟩⟩
    rw [hok] at he
    cases he
  · have hr : r.1 = .error e ∧ r.2.log = v.log := by
      rcases hmodel with h | h
      · rw [← h] at hone
        rw [show r = _ from hone]
        exact ⟨rfl, hlog⟩
      · rw [← h] at htwo
        rw [show r = _ from htwo]
        exact ⟨rfl, rfl⟩
    rw [hr.2]
    refine ⟨hord, fun e' he => ?_, fun hok => ?_⟩
    · rw [hr.1] at he
      cases he
      exact hend
    · rw [hr.1] at hok
      cases hok

theorem session_safe_listing :
    let r := processPostLogin (willing loopback) (tunablesLoadDefaults loopback loopback).twoProcess
      listing sessionStart
    r.1 = .ok () ∧ ∃ l, r.2.ftp.fds + r.2.parent.fds = listenFds l ∧
      Ready (tunablesLoadDefaults loopback loopback).twoProcess l r.2.sess := by
  obtain ⟨_, _, hends⟩ :=
    session_safe (willing loopback) (tunablesLoadDefaults loopback loopback).twoProcess listing rfl
  obtain ⟨l, hfds, hready, _⟩ := hends listing_goes_on
  exact ⟨listing_goes_on, l, hfds, hready⟩

end Sessions

end BoardServices.Vsftpd
