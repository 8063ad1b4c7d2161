import VxSqlite.Pager.FileCalls

/-!
# The end of a transaction

`pager_end_transaction` finalizes the journal as the journal mode has it and gives up the locks.
It touches no file but the journal, and of the names at most the journal's. In the mode `DELETE`
the journal keeps its content, and its name is gone if the call succeeds.
-/

namespace VxSqlite

variable {σ : Type} {env : Env σ} {view : σ → Disk}

/-! ## Frames -/

/-- Nothing is lost but the name of the journal, what file `j` held and handles on it. -/
structure EndsJournal (zJournal : CString) (j : Nat) (d d' : Disk) : Prop where
  dir : ∀ name, d'.dir name = d.dir name ∨ name = zJournal ∧ d'.dir name = none
  data : ∀ g, g ≠ j → d'.data g = d.data g
  openOn : ∀ pFile g, g ≠ j → OpenOn d pFile g → OpenOn d' pFile g

namespace EndsJournal

variable {zJournal : CString} {j : Nat} {d d' d'' : Disk}

theorem refl (d : Disk) : EndsJournal zJournal j d d :=
  ⟨fun _ => Or.inl rfl, fun _ _ => rfl, fun _ _ _ h => h⟩

theorem of_touches (h : Touches j d d') : EndsJournal zJournal j d d' :=
  ⟨fun name => Or.inl (by rw [h.dir]), h.data, fun pFile g _ hopen => h.openOn pFile g hopen⟩

theorem of_undisturbed (h : Undisturbed d d') : EndsJournal zJournal j d d' :=
  of_touches (h.touches j)

theorem trans (h : EndsJournal zJournal j d d') (h' : EndsJournal zJournal j d' d'') :
    EndsJournal zJournal j d d'' := by
  refine ⟨?_, fun g hg => (h'.data g hg).trans (h.data g hg),
    fun pFile g hg hopen => h'.openOn pFile g hg (h.openOn pFile g hg hopen)⟩
  intro name
  rcases h'.dir name with hsame | hgone
  · rcases h.dir name with hfirst | ⟨hname, hnone⟩
    · exact Or.inl (hsame.trans hfirst)
    · exact Or.inr ⟨hname, hsame.trans hnone⟩
  · exact Or.inr hgone

theorem unlink (d : Disk) : EndsJournal zJournal j d (d.unlink zJournal) := by
  refine ⟨?_, fun _ _ => rfl, fun _ _ _ hopen => hopen⟩
  intro name
  by_cases hname : name = zJournal
  · exact Or.inr ⟨hname, by simp [Disk.unlink, hname]⟩
  · exact Or.inl (by simp [Disk.unlink, Function.update_of_ne hname])

/-- Closing a handle on the journal keeps all other files open. -/
theorem closeHandle {pFile : VerixFile} (hopen : OpenOn d pFile j) (locks : Nat → Option Int) :
    EndsJournal zJournal j d { d.closeHandle pFile.h with locks := locks } := by
  refine ⟨fun _ => Or.inl rfl, fun _ _ => rfl, ?_⟩
  intro other g hg hother
  obtain ⟨p, hp⟩ := hother
  obtain ⟨q, hq⟩ := hopen
  have hhandle : other.h ≠ pFile.h := by
    intro heq
    rw [heq, hq] at hp
    cases hp
    exact hg rfl
  exact ⟨p, (Function.update_of_ne hhandle _ _).trans hp⟩

/-- The name of another file still leads to it. -/
theorem dir_eq (h : EndsJournal zJournal j d d') {name : CString} (hne : name ≠ zJournal) :
    d'.dir name = d.dir name :=
  (h.dir name).resolve_right fun hgone => hne hgone.1

end EndsJournal

/-- A lock that is taken or refused moves nothing else. -/
theorem verixLock_undisturbed (laws : LockLaws env.os view) {pFile : VerixFile} {f : Nat}
    {w : World σ} (hopen : OpenOn (view w.os) pFile f) :
    ((verixLock env pFile w).1 = .ok ∨ (verixLock env pFile w).1 = .busy) ∧
      Undisturbed (view w.os) (view (verixLock env pFile w).2.os) := by
  have hsame : Undisturbed (view w.os) (view (env.sys (.lock pFile.h) w).world.os) := by
    obtain ⟨p, hp⟩ := hopen
    have hkeeps : Keeps (view w.os) (view (env.sys (.lock pFile.h) w).world.os) :=
      laws.lock_keeps hp
    refine ⟨hkeeps.dir, ?_, hkeeps.openOn⟩
    rw [Env.sys_os]
    by_cases hfree : (view w.os).locks f = none ∨ (view w.os).locks f = some pFile.h
    · rw [(laws.lock_free w.os pFile.h f p hp hfree).2]
      rfl
    · obtain ⟨other, hother⟩ := Option.ne_none_iff_exists'.mp (fun hnone => hfree (Or.inl hnone))
      rw [(laws.lock_held w.os pFile.h f p other hp hother ?_).2]
      intro heq
      exact hfree (Or.inr (by rw [hother, heq]))
  simp only [verixLock]
  split
  · exact ⟨Or.inl rfl, by simpa using hsame⟩
  · exact ⟨Or.inr rfl, by simpa using hsame⟩

theorem verixUnlock_undisturbed (laws : LockLaws env.os view) {pFile : VerixFile} {f : Nat}
    {w : World σ} (hopen : OpenOn (view w.os) pFile f) :
    Undisturbed (view w.os) (view (verixUnlock env pFile w).2.os) := by
  have hsame : Undisturbed (view w.os) (view (env.sys (.unlock pFile.h) w).world.os) := by
    obtain ⟨p, hp⟩ := hopen
    have hkeeps : Keeps (view w.os) (view (env.sys (.unlock pFile.h) w).world.os) :=
      laws.unlock_keeps hp
    refine ⟨hkeeps.dir, ?_, hkeeps.openOn⟩
    rw [Env.sys_os]
    by_cases hown : (view w.os).locks f = some pFile.h
    · rw [(laws.unlock_own w.os pFile.h f p hp hown).2]
      rfl
    · rw [laws.unlock_other w.os pFile.h f p hp hown]
  simp only [verixUnlock]
  split
  · simpa using hsame
  · simpa using hsame

/-! ## The journal -/

/-- A pager's open journal: file `j`, under the name that the pager removes. -/
structure JournalOpen (view : σ → Disk) (pPager : Pager) (j : Nat) (w : World σ) : Prop where
  named : NamedFile (view w.os) pPager.jfd j
  filename : pPager.jfd.filename = pPager.zJournal

variable {pPager : Pager} {j : Nat} {w : World σ}

/-- The pager finalizes a journal by removing it. -/
def DeletesJournal (pPager : Pager) : Prop :=
  pPager.journalMode = .delete ∧ pPager.exclusiveMode = false ∧ pPager.tempFile = false

/-- What is left of a journal that is removed: it keeps its content, and its name is gone if the
call succeeds. -/
structure Removed (zJournal : CString) (j : Nat) (rc : ResultCode) (d d' : Disk) : Prop where
  data : d'.data j = d.data j
  gone : rc = .ok → d'.dir zJournal = none

/-- What is returned for a journal that is removed, and that it is closed. -/
structure Closed (rc : ResultCode) (jfd : VerixFile) : Prop where
  rc_eq : rc = .ok ∨ rc.IsIoerr
  closed : ¬ IsOpen jfd

theorem verixDelete_rc (env : Env σ) (zFilename : CString) (w : World σ) :
    (verixDelete env zFilename w).1 = .ok ∨ (verixDelete env zFilename w).1.IsIoerr := by
  simp only [verixDelete]
  split_ifs
  · exact Or.inl rfl
  · exact Or.inr (show ResultCode.ioerrDeleteNoent.IsIoerr from by decide)
  · exact Or.inr (show ResultCode.ioerrDelete.IsIoerr from by decide)

theorem sqlite3OsClose_closed (env : Env σ) (pId : VerixFile) (w : World σ) :
    ¬ IsOpen (sqlite3OsClose env pId w).1 := by
  unfold sqlite3OsClose
  split_ifs with hopen
  · exact fun h => Bool.false_ne_true h
  · exact hopen

/-- Closing the journal, which may also remove its name. -/
theorem sqlite3OsClose_journal (laws : DirLaws env.os view) (hjrnl : JournalOpen view pPager j w) :
    EndsJournal pPager.zJournal j (view w.os)
        (view (sqlite3OsClose env pPager.jfd w).2.os) ∧
      (view (sqlite3OsClose env pPager.jfd w).2.os).data j = (view w.os).data j := by
  unfold sqlite3OsClose
  split_ifs
  · show EndsJournal pPager.zJournal j (view w.os) (view (verixClose env pPager.jfd w).2.os) ∧
      (view (verixClose env pPager.jfd w).2.os).data j = (view w.os).data j
    obtain ⟨locks, ⟨-, hview⟩ | ⟨-, -, -, hview⟩⟩ := verixClose_cases laws hjrnl.named.openOn
    · rw [hview]
      exact ⟨.closeHandle hjrnl.named.openOn locks, rfl⟩
    · rw [hview, hjrnl.filename]
      exact ⟨(EndsJournal.closeHandle hjrnl.named.openOn locks).trans (.unlink _), rfl⟩
  · exact ⟨.refl _, rfl⟩

theorem verixDelete_journal (laws : Lawful env.os view) (zJournal : CString) (j : Nat)
    (w : World σ) :
    EndsJournal zJournal j (view w.os) (view (verixDelete env zJournal w).2.os) ∧
      Removed zJournal j (verixDelete env zJournal w).1 (view w.os)
        (view (verixDelete env zJournal w).2.os) := by
  rcases verixDelete_cases laws.dir zJournal w with ⟨-, -, hview⟩ | ⟨hrc, hview⟩
  · rw [hview]
    exact ⟨.unlink _, rfl, fun _ => by simp [Disk.unlink]⟩
  · rw [hview]
    exact ⟨.refl _, rfl, fun hok => absurd hok hrc⟩

/-- A narrowed position lies outside the file or is a position in it. -/
theorem toInt_cases (size : Nat) (x : Int) :
    (toInt x < 0 ∨ size < toInt x) ∨ ∃ p : Nat, toInt x = p ∧ p ≤ size := by
  by_cases hout : toInt x < 0 ∨ (size : Int) < toInt x
  · exact Or.inl hout
  · exact Or.inr ⟨(toInt x).toNat, by omega, by omega⟩

theorem verixTruncate_journal (laws : FileLaws env.os view) {pFile : VerixFile}
    (hopen : OpenOn (view w.os) pFile j) (nByte : Int) :
    Touches j (view w.os) (view (verixTruncate env pFile nByte w).2.os) := by
  rcases toInt_cases ((view w.os).data j).length nByte with hout | ⟨n, hn, hle⟩
  · obtain ⟨w', htruncate, hview⟩ := verixTruncate_outside laws hopen nByte hout
    rw [htruncate]
    exact (Undisturbed.of_eq hview).touches j
  · obtain ⟨rc, w', htruncate, -, hsame⟩ := verixTruncate_inside laws hopen rfl nByte hn hle
    rw [htruncate]
    exact hsame.touches

/-- Zeroing the first header, or truncating the journal, is done on the journal's file. -/
theorem zeroJournalHdr_journal (laws : FileLaws env.os view)
    (hjrnl : NamedFile (view w.os) pPager.jfd j) (hfuel : 28 ≤ env.writeFuel)
    (doTruncate : Bool) :
    ∃ rc w', zeroJournalHdr env pPager doTruncate w = .ok (rc, w') ∧
      Touches j (view w.os) (view w'.os) := by
  unfold zeroJournalHdr
  split_ifs with hoff
  · have hdone : ∃ done, (if doTruncate = true ∨ pPager.journalSizeLimit = 0 then
        Except.ok (verixTruncate env pPager.jfd 0 w)
        else verixWrite env pPager.jfd (List.replicate 28 0) 0 w) = .ok done ∧
          Touches j (view w.os) (view done.2.os) := by
      split_ifs
      · exact ⟨_, rfl, verixTruncate_journal laws hjrnl.openOn 0⟩
      · obtain ⟨rc, w', hwrite, -, htouch⟩ := verixWrite_at laws hjrnl.openOn
          (show List.replicate 28 0 ≠ [] from by simp) (show (0 : Int) = (0 : Nat) from rfl)
          (by omega) (by simpa using hfuel)
        exact ⟨(rc, w'), hwrite, htouch⟩
    obtain ⟨done, hrun, htouch⟩ := hdone
    simp only [hrun, ok_bind]
    -- a sync changes the result at most
    have hsynced : ∀ done' : ResultCode × World σ, done'.2 = done.2 →
        ∃ rc w', (if done'.1 = .ok ∧ pPager.journalSizeLimit > 0 then
          if (verixFileSize env pPager.jfd 0 done'.2).1 = .ok ∧
              (verixFileSize env pPager.jfd 0 done'.2).2.1 > pPager.journalSizeLimit then
            (pure (verixTruncate env pPager.jfd pPager.journalSizeLimit
              (verixFileSize env pPager.jfd 0 done'.2).2.2) : Except Fault _)
          else pure ((verixFileSize env pPager.jfd 0 done'.2).1,
            (verixFileSize env pPager.jfd 0 done'.2).2.2)
          else pure done') = .ok (rc, w') ∧ Touches j (view w.os) (view w'.os) := by
      intro done' hworld
      have hnamed : NamedFile (view done'.2.os) pPager.jfd j := by
        rw [hworld]
        exact htouch.namedFile hjrnl
      obtain ⟨w₁, hsize, hsame⟩ := verixFileSize_at laws hnamed 0
      have htouch' : Touches j (view w.os) (view w₁.os) := by
        rw [hworld] at hsame
        exact htouch.trans (hsame.touches j)
      rw [hsize]
      split_ifs
      · exact ⟨_, _, rfl,
          htouch'.trans (verixTruncate_journal laws (hsame.openOn _ _ hnamed.openOn) _)⟩
      · exact ⟨_, _, rfl, htouch'⟩
      · exact ⟨_, _, rfl, by rw [hworld]; exact htouch⟩
    by_cases hsync : done.1 = .ok ∧ ¬ pPager.noSync
    · rw [if_pos hsync]
      exact hsynced _ rfl
    · rw [if_neg hsync]
      exact hsynced _ rfl
  · exact ⟨_, _, rfl, (Undisturbed.refl _).touches j⟩

/-- Finalizing the journal touches no other file. -/
theorem finalizeJournal_journal (laws : Lawful env.os view) (hjrnl : JournalOpen view pPager j w)
    (hfuel : 28 ≤ env.writeFuel) (hasMaster : Bool) :
    ∃ ret, finalizeJournal env pPager hasMaster w = .ok ret ∧
      EndsJournal pPager.zJournal j (view w.os) (view ret.world.os) ∧
      ret.pPager = { pPager with journalOff := ret.pPager.journalOff, jfd := ret.pPager.jfd } ∧
      (DeletesJournal pPager → Closed ret.rc ret.pPager.jfd ∧
        Removed pPager.zJournal j ret.rc (view w.os) (view ret.world.os)) := by
  unfold finalizeJournal
  by_cases htruncate : pPager.journalMode = .truncate
  · rw [if_pos htruncate]
    refine ⟨_, rfl, ?_, rfl, ?_⟩
    · have htruncated := verixTruncate_journal laws.file hjrnl.named.openOn 0
      dsimp only
      split_ifs
      · exact .refl _
      · exact .of_touches htruncated
      · exact .of_touches htruncated
    · intro hdelete
      cases htruncate.symm.trans hdelete.1
  rw [if_neg htruncate]
  by_cases hzero : pPager.journalMode = .persist ∨
      pPager.exclusiveMode = true ∧ pPager.journalMode ≠ .wal
  · obtain ⟨rc, w', hrun, htouch⟩ :=
      zeroJournalHdr_journal laws.file hjrnl.named hfuel hasMaster
    refine ⟨⟨rc, { pPager with journalOff := 0 }, w'⟩, ?_, .of_touches htouch, rfl, ?_⟩
    · rw [if_pos hzero, hrun]
      rfl
    · intro hdelete
      rcases hzero with hpersist | ⟨hexclusive, -⟩
      · cases hpersist.symm.trans hdelete.1
      · cases hexclusive.symm.trans hdelete.2.1
  · rw [if_neg hzero]
    obtain ⟨hclosed, hdata⟩ := sqlite3OsClose_journal laws.dir hjrnl
    by_cases hbDelete : (!pPager.tempFile) = true
    · obtain ⟨hdeleted, hremoved⟩ := verixDelete_journal laws pPager.zJournal j
        (sqlite3OsClose env pPager.jfd w).2
      exact ⟨_, if_pos hbDelete, hclosed.trans hdeleted, rfl,
        fun _ => ⟨⟨verixDelete_rc env _ _, sqlite3OsClose_closed env _ w⟩,
          hremoved.data.trans hdata, hremoved.gone⟩⟩
    · refine ⟨_, if_neg hbDelete, hclosed, rfl, ?_⟩
      intro hdelete
      exact absurd (by rw [hdelete.2.2]; rfl) hbDelete

/-! ## The end -/

/-- Giving up the lock moves nothing but the lock. -/
theorem pagerUnlockDb_undisturbed (laws : LockLaws env.os view) {f : Nat}
    (hopen : IsOpen pPager.fd → OpenOn (view w.os) pPager.fd f) (eLock : LockLevel) :
    Undisturbed (view w.os) (view (pagerUnlockDb env pPager eLock w).2.2.os) ∧
      (pagerUnlockDb env pPager eLock w).2.1 =
        { pPager with eLock := (pagerUnlockDb env pPager eLock w).2.1.eLock } := by
  unfold pagerUnlockDb
  by_cases hisOpen : IsOpen pPager.fd
  · have hunlocked := verixUnlock_undisturbed laws (hopen hisOpen)
    rw [if_pos hisOpen]
    dsimp only
    split_ifs
    · exact ⟨.refl _, rfl⟩
    · exact ⟨hunlocked, rfl⟩
    · exact ⟨.refl _, rfl⟩
    · exact ⟨hunlocked, rfl⟩
  · rw [if_neg hisOpen]
    exact ⟨.refl _, rfl⟩

theorem pagerUnlockDb_rc (env : Env σ) (pPager : Pager) (eLock : LockLevel) (w : World σ) :
    (pagerUnlockDb env pPager eLock w).1 = .ok ∨ (pagerUnlockDb env pPager eLock w).1.IsIoerr := by
  have hunlock : (if pPager.noLock then (.ok, w) else verixUnlock env pPager.fd w).1 = .ok ∨
      (if pPager.noLock then (.ok, w) else verixUnlock env pPager.fd w).1.IsIoerr := by
    simp only [verixUnlock]
    split_ifs
    · exact Or.inl rfl
    · exact Or.inl rfl
    · exact Or.inr (show ResultCode.ioerrUnlock.IsIoerr from by decide)
  unfold pagerUnlockDb
  by_cases hopen : IsOpen pPager.fd
  · rw [if_pos hopen]
    dsimp only
    by_cases hknown : pPager.eLock ≠ .unknown
    · rw [if_pos hknown]
      exact hunlock
    · rw [if_neg hknown]
      exact hunlock
  · rw [if_neg hopen]
    exact Or.inl rfl

/-- The second pager is the first after the end of a transaction. -/
def Ended (pPager pPager' : Pager) : Prop :=
  pPager' = { pPager with
    nRec := 0
    pPCache := pPager.pPCache.truncate pPager.dbSize
    eState := .reader
    setMaster := false
    journalOff := pPager'.journalOff
    jfd := pPager'.jfd
    changeCountDone := pPager'.changeCountDone
    eLock := pPager'.eLock }

theorem fileControlIfKnown_eq (env : Env σ) (fd : VerixFile) (op : Int) (w : World σ) :
    (fileControlIfKnown env fd op w).1 = .ok ∧ (fileControlIfKnown env fd op w).2.os = w.os := by
  simp only [fileControlIfKnown, verixFileControl]
  split_ifs <;> simp_all

/-- A transaction that leaves no pages to cut off the file ends without touching any file but the
journal. -/
theorem pagerEndTransaction_journal (laws : Lawful env.os view) {f : Nat}
    (hdb : OpenOn (view w.os) pPager.fd f) (hjrnl : IsOpen pPager.jfd → JournalOpen view pPager j w)
    (hne : f ≠ j) (hfuel : 28 ≤ env.writeFuel) (hsub : ¬ IsOpen pPager.sjfd)
    (hactive : ¬ (pPager.eState.rank < PagerState.writerLocked.rank ∧ pPager.eLock < .reserved))
    (hasMaster bCommit : Bool)
    (hgrown : bCommit = true → pPager.dbFileSize ≤ pPager.dbSize) :
    ∃ ret, pagerEndTransaction env pPager hasMaster bCommit w = .ok ret ∧
      EndsJournal pPager.zJournal j (view w.os) (view ret.world.os) ∧ Ended pPager ret.pPager ∧
      (DeletesJournal pPager → Closed ret.rc ret.pPager.jfd ∧ (IsOpen pPager.jfd →
        Removed pPager.zJournal j ret.rc (view w.os) (view ret.world.os))) := by
  have hreleased : releaseAllSavepoints env pPager w = (pPager, w) := by
    unfold releaseAllSavepoints sqlite3OsClose
    split_ifs
    · rfl
    · rfl
  have hfinalized : ∃ ret, (if IsOpen pPager.jfd then finalizeJournal env pPager hasMaster w
      else .ok ⟨.ok, pPager, w⟩) = .ok ret ∧
        EndsJournal pPager.zJournal j (view w.os) (view ret.world.os) ∧
        ret.pPager = { pPager with journalOff := ret.pPager.journalOff, jfd := ret.pPager.jfd } ∧
        (DeletesJournal pPager → Closed ret.rc ret.pPager.jfd ∧ (IsOpen pPager.jfd →
          Removed pPager.zJournal j ret.rc (view w.os) (view ret.world.os))) := by
    by_cases hopen : IsOpen pPager.jfd
    · rw [if_pos hopen]
      obtain ⟨ret, hrun, hends, hpager, hremoved⟩ :=
        finalizeJournal_journal laws (hjrnl hopen) hfuel hasMaster
      exact ⟨ret, hrun, hends, hpager,
        fun hdelete => ⟨(hremoved hdelete).1, fun _ => (hremoved hdelete).2⟩⟩
    · rw [if_neg hopen]
      exact ⟨_, rfl, .refl _, rfl,
        fun _ => ⟨⟨Or.inl rfl, hopen⟩, fun hopen' => absurd hopen' hopen⟩⟩
  obtain ⟨final, hrun, hends, hpager, hremoved⟩ := hfinalized
  let ended : Pager := { final.pPager with
    nRec := 0, pPCache := final.pPager.pPCache.truncate final.pPager.dbSize }
  have hended : ended = { pPager with
      nRec := 0
      pPCache := pPager.pPCache.truncate pPager.dbSize
      journalOff := final.pPager.journalOff
      jfd := final.pPager.jfd } := by
    show ({ final.pPager with nRec := 0, pPCache := _ } : Pager) = _
    rw [hpager]
  have hfd : ended.fd = pPager.fd := by rw [hended]
  have hnoTruncate : ¬ (final.rc = .ok ∧ bCommit = true ∧ ended.dbFileSize > ended.dbSize) := by
    intro h
    have hle := hgrown h.2.1
    have hgt := h.2.2
    rw [hended] at hgt
    exact absurd hgt (Nat.not_lt.mpr hle)
  -- the file control of a commit does nothing in the port
  obtain ⟨committed, hcommitted, hcommittedRc, hcommittedOs⟩ :
      ∃ committed, (if final.rc = .ok ∧ bCommit = true ∧ IsOpen ended.fd then
          fileControlIfKnown env ended.fd fcntlCommitPhasetwo final.world
        else (final.rc, final.world)) = committed ∧ committed.1 = final.rc ∧
          committed.2.os = final.world.os := by
    split_ifs with hcommit
    · obtain ⟨hrc, hos⟩ := fileControlIfKnown_eq env ended.fd fcntlCommitPhasetwo final.world
      exact ⟨_, rfl, hrc.trans hcommit.1.symm, hos⟩
    · exact ⟨_, rfl, rfl, rfl⟩
  have hdb' : IsOpen ended.fd → OpenOn (view committed.2.os) ended.fd f := by
    intro _
    rw [hcommittedOs, hfd]
    exact hends.openOn _ _ hne hdb
  obtain ⟨hunlocked, hunlockedPager⟩ := pagerUnlockDb_undisturbed laws.lock hdb' .shared
  rw [hcommittedOs] at hunlocked
  let parting : PagerRet σ :=
    ⟨(pagerUnlockDb env ended .shared committed.2).1,
      { (pagerUnlockDb env ended .shared committed.2).2.1 with changeCountDone := false },
      (pagerUnlockDb env ended .shared committed.2).2.2⟩
  have hparting : parting.pPager = { ended with
      changeCountDone := parting.pPager.changeCountDone, eLock := parting.pPager.eLock } :=
    (congrArg (fun p : Pager => { p with changeCountDone := false }) hunlockedPager).trans rfl
  obtain ⟨left, hleft, hleftSame, hleftPager, hleftRc⟩ : ∃ left : PagerRet σ,
      (if ¬ ended.exclusiveMode then parting else ⟨.ok, ended, committed.2⟩) = left ∧
        Undisturbed (view final.world.os) (view left.world.os) ∧
        left.pPager = { ended with
          changeCountDone := left.pPager.changeCountDone, eLock := left.pPager.eLock } ∧
        (left.rc = .ok ∨ left.rc.IsIoerr) := by
    by_cases hexclusive : ¬ ended.exclusiveMode
    · exact ⟨parting, if_pos hexclusive, hunlocked, hparting,
        pagerUnlockDb_rc env ended .shared committed.2⟩
    · refine ⟨_, if_neg hexclusive, .of_eq ?_, rfl, Or.inl rfl⟩
      show view committed.2.os = view final.world.os
      rw [hcommittedOs]
  have heq : pagerEndTransaction env pPager hasMaster bCommit w =
      .ok ⟨if final.rc = .ok then left.rc else final.rc,
        { left.pPager with eState := .reader, setMaster := false }, left.world⟩ := by
    have hnoTruncate' : ¬ (final.rc = .ok ∧ bCommit = true ∧
        final.pPager.dbFileSize > final.pPager.dbSize) := hnoTruncate
    have hcommitted' : (if final.rc = .ok ∧ bCommit = true ∧ IsOpen final.pPager.fd then
          fileControlIfKnown env final.pPager.fd fcntlCommitPhasetwo final.world
        else (final.rc, final.world)) = committed := hcommitted
    rw [← hleft]
    simp only [pagerEndTransaction, if_neg hactive, hreleased, hrun, ok_bind, if_neg hnoTruncate',
      hcommitted', hcommittedRc]
    rfl
  refine ⟨_, heq, hends.trans (.of_undisturbed hleftSame), ?_, ?_⟩
  · unfold Ended
    show ({ left.pPager with eState := .reader, setMaster := false } : Pager) = _
    rw [hleftPager, hended]
  · intro hdelete
    obtain ⟨hclosed, hgone⟩ := hremoved hdelete
    have hjfd : left.pPager.jfd = final.pPager.jfd := by
      rw [hleftPager, hended]
    refine ⟨⟨?_, ?_⟩, ?_⟩
    · show (if final.rc = .ok then left.rc else final.rc) = .ok ∨
        (if final.rc = .ok then left.rc else final.rc).IsIoerr
      split_ifs
      · exact hleftRc
      · exact hclosed.rc_eq
    · show ¬ IsOpen left.pPager.jfd
      rw [hjfd]
      exact hclosed.closed
    intro hopen
    refine ⟨?_, ?_⟩
    · show (view left.world.os).data j = _
      rw [hleftSame.data]
      exact (hgone hopen).data
    · intro hok
      show (view left.world.os).dir _ = none
      rw [hleftSame.dir]
      refine (hgone hopen).gone ?_
      by_contra hfailed
      exact hfailed ((if_neg hfailed).symm.trans hok)

end VxSqlite
