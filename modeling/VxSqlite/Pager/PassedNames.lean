import VxSqlite.Pager.NameCalls
import VxSqlite.Pager.PageCalls

/-!
# The names that a pager passes

`sqlite3PagerOpen` refuses a database name or opens its file, and every run of the pager after that
is on the record of `NameCalls`: the shared lock with its search for a hot journal and for a
write-ahead log, the writing of journals and pages, commits and rollbacks. The busy handler and
the write-ahead log's own code are parameters, which may pass no more than the pager itself.
-/

namespace VxSqlite

variable {σ : Type} {names : PagerNames} {record : List Event} {w : World (σ × List Event)}
  {pPager : Pager}

/-! ## The shared lock -/

section

variable (env : Env σ)

theorem pagerSyncHotJournal_follows (h : names.Follows record pPager w) :
    names.Follows record (pagerSyncHotJournal env.traced pPager w).pPager
      (pagerSyncHotJournal env.traced pPager w).world := by
  have hsize := verixFileSize_recorded h.2 env pPager.jfd pPager.journalHdr
  simp only [pagerSyncHotJournal, verixSync]
  split_ifs <;> first | exact h | exact ⟨h.1, hsize⟩

theorem pagerError_held (h : names.Held pPager) (rc : ResultCode) :
    names.Held (pagerError pPager rc) := by
  unfold pagerError
  split <;> exact h

theorem pagerPagecount_follows (calls : PagerCallbacks (σ × List Event))
    (h : names.Follows record pPager w) :
    names.Follows record (pagerPagecount env.traced calls pPager w).pPager
      (pagerPagecount env.traced calls pPager w).world := by
  have hsize := verixFileSize_recorded h.2 env pPager.fd 0
  simp only [pagerPagecount]
  split_ifs <;> first | exact h | exact ⟨h.1, hsize⟩

theorem journalNotEmpty_follows (h : names.Follows record pPager w) (jrnlOpen : Bool) :
    Ensures (journalNotEmpty env.traced pPager jrnlOpen w) fun hot =>
      names.Follows record hot.pPager hot.world := by
  obtain ⟨⟨hnames, htemp, hjfd, hsjfd⟩, hkeeps⟩ := id h
  refine .bind (fun opened => opened.file.temporary = false ∧
    names.Keeps record opened.world.record) ?_ fun opened hopened => ?_
  · refine .ite (fun _ => .ok ⟨hjfd, hkeeps⟩) fun _ => ?_
    exact sqlite3OsOpen_recorded hkeeps env (Or.inl (h.1.passes_zJournal _)) hjfd (by decide)
  obtain ⟨hkept, hopened⟩ := hopened
  have hfile : ∀ {world : World (σ × List Event)}, names.Keeps record world.record →
      names.Follows record { pPager with jfd := opened.file } world :=
    fun hworld => ⟨⟨hnames, htemp, hkept, hsjfd⟩, hworld⟩
  have hread := sqlite3OsRead_recorded hopened env opened.file 1 0
  refine .ite (fun _ => .ok ?_) fun _ => .ite (fun _ => .ok (hfile hopened)) fun _ =>
    .ok (hfile hopened)
  simp only
  split
  · exact hfile hread
  · exact closeJournal_follows (hfile hread) env

theorem journalExists_recorded (h : names.Follows record pPager w) :
    names.Keeps record (journalExists env.traced pPager w).2.2.record := by
  unfold journalExists
  split
  · exact h.2
  · exact verixAccess_recorded h.2 env (Or.inl (h.1.passes_zJournal _)) .exists

theorem hasHotJournal_follows (calls : PagerCallbacks (σ × List Event))
    (h : names.Follows record pPager w) :
    Ensures (hasHotJournal env.traced calls pPager w) fun hot =>
      names.Follows record hot.pPager hot.world := by
  have hjournal := journalExists_recorded env h
  have hprobed := verixCheckReservedLock_recorded hjournal env pPager.fd
  have hcount := pagerPagecount_follows env calls (⟨h.1, hprobed⟩ : names.Follows record pPager _)
  have hreserved := pagerLockDb_follows hcount env .reserved
  have hdeleted := verixDelete_recorded hreserved.2 env (Or.inl (hcount.1.passes_zJournal .xDelete))
  refine .ite (fun _ => ?_) fun _ => .ok ⟨h.1, hjournal⟩
  refine .ite (fun _ => ?_) fun _ => .ok ⟨h.1, hprobed⟩
  refine .ite (fun _ => .ok hcount) fun _ => .ite (fun _ => ?_) fun _ =>
    journalNotEmpty_follows env hcount _
  refine .ite (fun _ => ?_) fun _ => .ok hreserved
  refine .ite (fun _ => .ok ?_) fun _ => .ok ⟨hreserved.1, hdeleted⟩
  exact pagerUnlockDb_follows ⟨hreserved.1, hdeleted⟩ env .shared

theorem pagerExclusiveLock_follows (h : names.Follows record pPager w) :
    names.Follows record (pagerExclusiveLock env.traced pPager w).pPager
      (pagerExclusiveLock env.traced pPager w).world := by
  have hlocked := pagerLockDb_follows h env .exclusive
  simp only [pagerExclusiveLock]
  split
  · exact pagerUnlockDb_follows hlocked env .shared
  · exact hlocked

theorem openHotJournal_follows (h : names.Follows record pPager w) :
    Ensures (openHotJournal env.traced pPager w) fun ret =>
      names.Follows record ret.pPager ret.world := by
  obtain ⟨⟨hnames, htemp, hjfd, hsjfd⟩, hkeeps⟩ := id h
  have haccess := verixAccess_recorded hkeeps env (Or.inl (h.1.passes_zJournal _)) .exists
  refine .ite (fun _ => .ite (fun _ => ?_) fun _ => .ok ⟨h.1, haccess⟩) fun _ => .ok h
  refine .bind _ (sqlite3OsOpen_recorded haccess env (Or.inl (h.1.passes_zJournal _)) hjfd
    (by decide)) fun opened hopened => ?_
  have hfile : names.Follows record { pPager with jfd := opened.file } opened.world :=
    ⟨⟨hnames, htemp, hopened.1, hsjfd⟩, hopened.2⟩
  exact .ite (fun _ => .ok (closeJournal_follows hfile env)) fun _ => .ok hfile

theorem rollbackHotJournal_follows (h : names.Follows record pPager w) :
    Ensures (rollbackHotJournal env.traced pPager w) fun ret =>
      names.Follows record ret.pPager ret.world := by
  have hlocked := pagerLockDb_follows h env .exclusive
  refine .ite (fun _ => .ok h) fun _ => .ite (fun _ => .ok hlocked) fun _ => ?_
  refine .bind _ (openHotJournal_follows env hlocked) fun opened hopened => ?_
  refine .bind (fun ret => names.Follows record ret.pPager ret.world) ?_ fun played hplayed => ?_
  · have hsynced := pagerSyncHotJournal_follows env hopened
    refine .ite (fun _ => .ite (fun _ => ?_) fun _ => .ok hsynced) fun _ =>
      .ite (fun _ => .ok (pagerUnlockDb_follows hopened env .shared)) fun _ => .ok hopened
    exact .bind _ (pagerPlayback_follows hsynced env true) fun played hplayed => .ok hplayed
  · exact .ite (fun _ => .ok ⟨pagerError_held hplayed.1 _, hplayed.2⟩) fun _ => .ok hplayed

theorem checkDbFileVers_follows (calls : PagerCallbacks (σ × List Event))
    (h : names.Follows record pPager w) :
    names.Follows record (checkDbFileVers env.traced calls pPager w).pPager
      (checkDbFileVers env.traced calls pPager w).world := by
  have hcount := pagerPagecount_follows env calls h
  unfold checkDbFileVers
  split
  swap
  · exact h
  extract_lets count pPager' read
  split
  · exact hcount
  have hread : names.Keeps record read.2.2.record := by
    simp only [read]
    split
    · exact sqlite3OsRead_recorded hcount.2 env _ _ _
    · exact hcount.2
  split
  · exact ⟨hcount.1, hread⟩
  split
  · exact ⟨hcount.1, hread⟩
  · exact ⟨hcount.1, hread⟩

end

/-- What the pager calls outside of its own code passes no more than the pager may: of its names,
`sqlite3WalOpen` is given the one of the log. -/
structure PagerNames.CallsKeep (names : PagerNames) (calls : PagerCallbacks (σ × List Event)) :
    Prop where
  xBusyHandler : ∀ nBusy w, names.Keeps w.record (calls.xBusyHandler nBusy w).2.record
  walOpen : ∀ pPager w, names.Held pPager → names.Keeps w.record (calls.walOpen pPager w).2.record
  walEndReadTransaction : ∀ w, names.Keeps w.record (calls.walEndReadTransaction w).record
  walBeginReadTransaction : ∀ w,
    names.Keeps w.record (calls.walBeginReadTransaction w).2.2.record

section SharedLock

variable {calls : PagerCallbacks (σ × List Event)} (hcalls : names.CallsKeep calls) (env : Env σ)
include hcalls

theorem waitOnLockLoop_follows (h : names.Follows record pPager w) (locktype : LockLevel)
    (fuel nBusy : Nat) :
    Ensures (waitOnLockLoop env.traced calls pPager locktype fuel nBusy w) fun ret =>
      names.Follows record ret.pPager ret.world := by
  induction fuel generalizing nBusy pPager w with
  | zero => exact .error _
  | succ fuel ih =>
      have hlocked := pagerLockDb_follows h env locktype
      have hasked := hlocked.2.trans (hcalls.xBusyHandler nBusy _)
      refine .ite (fun _ => ?_) fun _ => .ok hlocked
      exact .ite (fun _ => ih ⟨hlocked.1, hasked⟩ (nBusy + 1)) fun _ => .ok ⟨hlocked.1, hasked⟩

theorem pagerWaitOnLock_follows (h : names.Follows record pPager w) (locktype : LockLevel) :
    Ensures (pagerWaitOnLock env.traced calls pPager locktype w) fun ret =>
      names.Follows record ret.pPager ret.world :=
  waitOnLockLoop_follows hcalls env h locktype _ 0

theorem pagerUnlock_follows (h : names.Follows record pPager w) :
    names.Follows record (pagerUnlock env.traced calls pPager w).1
      (pagerUnlock env.traced calls pPager w).2 := by
  have hreleased := releaseAllSavepoints_follows h env
  unfold pagerUnlock
  extract_lets released pPager₁ iDc closed unlockedDb _ pPager₂ unlocked pPager₃ _ pPager₄
  have hiDc : names.Follows record pPager₁ iDc.2 := by
    simp only [iDc]
    split <;> exact hreleased
  have hclosed : names.Follows record { pPager₁ with jfd := closed.1 } closed.2 := by
    simp only [closed]
    split
    · exact closeJournal_follows hiDc env
    · exact hiDc
  have hunlockedDb : names.Follows record unlockedDb.2.1 unlockedDb.2.2 :=
    pagerUnlockDb_follows hclosed env .noLock
  have hunlocked : names.Follows record unlocked.1 unlocked.2 := by
    simp only [unlocked]
    split
    · exact ⟨hreleased.1, hreleased.2.trans (hcalls.walEndReadTransaction _)⟩
    split
    · refine ⟨?_, hunlockedDb.2⟩
      simp only [pPager₂]
      split <;> exact hunlockedDb.1
    · exact hreleased
  have hpPager₄ : names.Held pPager₄ := by
    simp only [pPager₄]
    split <;> exact hunlocked.1
  exact ⟨hpPager₄, hunlocked.2⟩

theorem pagerOpenWal_follows (h : names.Follows record pPager w) :
    names.Follows record (pagerOpenWal env.traced calls pPager w).pPager
      (pagerOpenWal env.traced calls pPager w).world := by
  unfold pagerOpenWal
  extract_lets locked
  have hlocked : names.Follows record locked.pPager locked.world := by
    simp only [locked]
    split
    · exact pagerExclusiveLock_follows env h
    · exact h
  split
  · exact ⟨hlocked.1, hlocked.2.trans (hcalls.walOpen _ _ hlocked.1)⟩
  · exact hlocked

theorem sqlite3PagerOpenWal_follows (h : names.Follows record pPager w) :
    names.Follows record (sqlite3PagerOpenWal env.traced calls pPager w).pPager
      (sqlite3PagerOpenWal env.traced calls pPager w).world := by
  have hopened := pagerOpenWal_follows hcalls env (closeJournal_follows h env)
  simp only [sqlite3PagerOpenWal]
  split
  · exact h
  split
  · exact hopened
  · exact hopened

theorem pagerOpenWalIfPresent_follows (h : names.Follows record pPager w) :
    names.Follows record (pagerOpenWalIfPresent env.traced calls pPager w).pPager
      (pagerOpenWalIfPresent env.traced calls pPager w).world := by
  have hcount := pagerPagecount_follows env calls h
  unfold pagerOpenWalIfPresent
  split
  swap
  · exact h
  extract_lets count pPager' deleted isWal
  split
  · exact hcount
  have hisWal : names.Keeps record isWal.2.2.record := by
    simp only [isWal]
    split
    · exact verixDelete_recorded hcount.2 env (Or.inl (hcount.1.passes_zWal _))
    · exact verixAccess_recorded hcount.2 env (Or.inl (hcount.1.passes_zWal _)) .exists
  split
  swap
  · exact ⟨hcount.1, hisWal⟩
  split
  · exact sqlite3PagerOpenWal_follows hcalls env ⟨hcount.1, hisWal⟩
  split
  · exact ⟨hcount.1, hisWal⟩
  · exact ⟨hcount.1, hisWal⟩

theorem pagerBeginReadTransaction_follows (h : names.Follows record pPager w) :
    names.Follows record (pagerBeginReadTransaction calls pPager w).pPager
      (pagerBeginReadTransaction calls pPager w).world := by
  refine ⟨?_, h.2.trans ((hcalls.walEndReadTransaction w).trans
    (hcalls.walBeginReadTransaction _))⟩
  simp only [pagerBeginReadTransaction]
  split
  · exact h.1
  · exact h.1

theorem sharedLockOpen_follows (h : names.Follows record pPager w) :
    Ensures (sharedLockOpen env.traced calls pPager w) fun ret =>
      names.Follows record ret.pPager ret.world := by
  refine .bind _ (pagerWaitOnLock_follows hcalls env h .shared) fun waited hwaited => ?_
  refine .ite (fun _ => .ok hwaited) fun _ => ?_
  refine .bind (fun hot => names.Follows record hot.pPager hot.world) ?_ fun hot hhot => ?_
  · exact .ite (fun _ => hasHotJournal_follows env calls hwaited) fun _ => .ok hwaited
  refine .ite (fun _ => .ok hhot) fun _ => ?_
  refine .bind (fun ret => names.Follows record ret.pPager ret.world) ?_ fun rolled hrolled => ?_
  · exact .ite (fun _ => rollbackHotJournal_follows env hhot) fun _ => .ok hhot
  have hchecked := checkDbFileVers_follows env calls hrolled
  exact .ite (fun _ => .ok hrolled) fun _ => .ite (fun _ => .ok hchecked) fun _ =>
    .ok (pagerOpenWalIfPresent_follows hcalls env hchecked)

theorem sharedLockEnd_follows {opened : PagerRet (σ × List Event)}
    (h : names.Follows record opened.pPager opened.world) :
    names.Follows record (sharedLockEnd env.traced calls opened).pPager
      (sharedLockEnd env.traced calls opened).world := by
  unfold sharedLockEnd
  extract_lets begun count _ counted unlocked
  have hbegun : names.Follows record begun.pPager begun.world := by
    simp only [begun]
    split
    · exact pagerBeginReadTransaction_follows hcalls h
    · exact h
  have hcount := pagerPagecount_follows env calls hbegun
  have hcounted : names.Follows record counted.pPager counted.world := by
    simp only [counted]
    split
    · split
      · exact hcount
      · exact hcount
    · exact hbegun
  split
  · exact pagerUnlock_follows hcalls env hcounted
  · exact hcounted

/-- Taking the shared lock passes the pager's names only, and what it has read. -/
theorem sqlite3PagerSharedLock_follows (h : names.Follows record pPager w) :
    Ensures (sqlite3PagerSharedLock env.traced calls pPager w) fun ret =>
      names.Follows record ret.pPager ret.world := by
  refine .bind (fun ret => names.Follows record ret.pPager ret.world) ?_ fun opened hopened => ?_
  · exact .ite (fun _ => sharedLockOpen_follows hcalls env h) fun _ => .ok h
  · exact .ok (sharedLockEnd_follows hcalls env hopened)

end SharedLock

/-! ## Writing journals -/

section Journals

variable (env : Env σ)

theorem write32bits_recorded (h : names.Keeps record w.record) (fd : VerixFile) (offset : Int)
    (val : UInt32) : Ensures (write32bits env.traced fd offset val w) fun written =>
      names.Keeps record written.2.record :=
  verixWrite_recorded h env fd _ offset

theorem journalHdrStart_recorded (h : names.Keeps record w.record) (pPager : Pager) :
    names.Keeps record (journalHdrStart env.traced pPager w).2.record := by
  simp only [journalHdrStart]
  split <;> exact h

theorem journalHdrLoop_follows (h : names.Follows record pPager w) (zHeader : List UInt8)
    (fuel nWrite : Nat) :
    Ensures (journalHdrLoop env.traced zHeader fuel nWrite pPager w) fun ret =>
      names.Follows record ret.pPager ret.world := by
  induction fuel generalizing nWrite pPager w with
  | zero => exact .error _
  | succ fuel ih =>
      refine .ite (fun _ => ?_) fun _ => .ok h
      refine .bind _ (verixWrite_recorded h.2 env _ _ _) fun write hwrite => ?_
      have hgone : names.Follows record
          { pPager with journalOff := pPager.journalOff + zHeader.length } write.2 := ⟨h.1, hwrite⟩
      exact .ite (fun _ => ih hgone _) fun _ => .ok hgone

theorem writeJournalHdr_follows (h : names.Follows record pPager w) (dbOrigSize : Nat)
    (randomness : UInt32) :
    Ensures (writeJournalHdr env.traced pPager dbOrigSize randomness w) fun ret =>
      names.Follows record ret.pPager ret.world := by
  refine journalHdrLoop_follows env ?_ _ _ _
  exact ⟨h.1, journalHdrStart_recorded env h.2 pPager⟩

theorem writeJournalRecord_follows (h : names.Follows record pPager w) (pgno : Nat)
    (pData : List UInt8) :
    Ensures (writeJournalRecord env.traced pPager pgno pData w) fun ret =>
      names.Follows record ret.pPager ret.world := by
  refine .bind _ (write32bits_recorded env h.2 _ _ _) fun number hnumber => ?_
  refine .ite (fun _ => .ok ⟨h.1, hnumber⟩) fun _ => ?_
  refine .bind _ (verixWrite_recorded hnumber env _ _ _) fun page hpage => ?_
  refine .ite (fun _ => .ok ⟨h.1, hpage⟩) fun _ => ?_
  refine .bind _ (write32bits_recorded env hpage _ _ _) fun cksum hcksum => ?_
  exact .ite (fun _ => .ok ⟨h.1, hcksum⟩) fun _ => .ok ⟨h.1, hcksum⟩

theorem writeMasterRecord_recorded (h : names.Keeps record w.record) (pPager : Pager)
    (zMaster : CString) (iHdrOff : Int) :
    Ensures (writeMasterRecord env.traced pPager zMaster iHdrOff w) fun written =>
      names.Keeps record written.2.record := by
  refine .bind _ (write32bits_recorded env h _ _ _) fun number hnumber => ?_
  refine .ite (fun _ => .ok hnumber) fun _ => ?_
  refine .bind _ (verixWrite_recorded hnumber env _ _ _) fun name hname => ?_
  refine .ite (fun _ => .ok hname) fun _ => ?_
  refine .bind _ (write32bits_recorded env hname _ _ _) fun len hlen => ?_
  refine .ite (fun _ => .ok hlen) fun _ => ?_
  refine .bind _ (write32bits_recorded env hlen _ _ _) fun cksum hcksum => ?_
  exact .ite (fun _ => .ok hcksum) fun _ => verixWrite_recorded hcksum env _ _ _

/-- The name of a master journal is written, not passed. -/
theorem writeMasterJournal_follows (h : names.Follows record pPager w)
    (zMaster : Option CString) :
    Ensures (writeMasterJournal env.traced pPager zMaster w) fun ret =>
      names.Follows record ret.pPager ret.world := by
  cases zMaster with
  | none => exact .ok h
  | some zMaster =>
      unfold writeMasterJournal
      refine .ite (fun _ => .ok h) fun _ => ?_
      extract_lets pPager₁ pPager₂
      have hheld : names.Held pPager₂ := by
        simp only [pPager₂]
        split <;> exact h.1
      refine .bind _ (writeMasterRecord_recorded env h.2 _ _ _) fun written hwritten => ?_
      have hsize := verixFileSize_recorded hwritten env pPager₂.jfd 0
      refine .ite (fun _ => .ok ⟨hheld, hwritten⟩) fun _ => ?_
      refine .ite (fun _ => .ok ⟨hheld, ?_⟩) fun _ => .ok ⟨hheld, hsize⟩
      exact verixTruncate_recorded hsize env _ _

end Journals

/-! ## The page cache -/

theorem sqlite3PcacheMakeDirty_held {p : Writer} (h : names.Held p.toPager) (pgno : Nat) :
    names.Held (sqlite3PcacheMakeDirty p pgno).toPager := by
  simp only [sqlite3PcacheMakeDirty]
  split <;> exact h

theorem pcacheUnpin_held {p : Writer} (h : names.Held p.toPager) (pgno : Nat) :
    names.Held (pcacheUnpin p pgno).toPager := by
  simp only [pcacheUnpin]
  split <;> exact h

theorem sqlite3PcacheMakeClean_held {p : Writer} (h : names.Held p.toPager) (pgno : Nat) :
    names.Held (sqlite3PcacheMakeClean p pgno).toPager := by
  simp only [sqlite3PcacheMakeClean]
  split
  · refine pcacheUnpin_held ?_ pgno
    exact h
  · exact h

theorem sqlite3PcacheCleanAll_held {p : Writer} (h : names.Held p.toPager) :
    names.Held (sqlite3PcacheCleanAll p).toPager := by
  unfold sqlite3PcacheCleanAll
  generalize p.pDirty = pages
  induction pages generalizing p with
  | nil => exact h
  | cons pgno pages ih => exact ih (sqlite3PcacheMakeClean_held h pgno)

theorem sqlite3PcacheRelease_held {p : Writer} (h : names.Held p.toPager) (pgno : Nat) :
    names.Held (sqlite3PcacheRelease p pgno).toPager := by
  obtain ⟨nRefSum, page1Ref, pDirty, heq, -⟩ := sqlite3PcacheRelease_eq p pgno
  rw [heq]
  exact h

/-! ## Writing to the database -/

section Writing

variable {calls : WriterCallbacks (σ × List Event)}
  (hcalls : names.CallsKeep calls.toPagerCallbacks) (env : Env σ) {p : Writer}

theorem writerError_follows {ret : WriterRet (σ × List Event)}
    (h : names.Follows record ret.writer.toPager ret.world) :
    names.Follows record (writerError ret).writer.toPager (writerError ret).world :=
  ⟨pagerError_held h.1 ret.rc, h.2⟩

include hcalls in
theorem sqlite3PagerExclusiveLock_follows (h : names.Follows record p.toPager w) :
    Ensures (sqlite3PagerExclusiveLock env.traced calls p w) fun ret =>
      names.Follows record ret.writer.toPager ret.world := by
  refine .ite (fun _ => .ok h) fun _ => ?_
  exact .bind _ (pagerWaitOnLock_follows hcalls env h .exclusive) fun waited hwaited => .ok hwaited

theorem hideNextHeader_recorded (h : names.Keeps record w.record) (p : Writer) :
    Ensures (hideNextHeader env.traced p w) fun hidden =>
      names.Keeps record hidden.2.record := by
  have hmagic := sqlite3OsRead_recorded h env p.jfd 8 (journalHdrOffset p.toPager)
  exact .ite (fun _ => verixWrite_recorded hmagic env _ _ _) fun _ => .ok hmagic

theorem markJournalHdr_recorded (h : names.Keeps record w.record) (iDc : Nat) (p : Writer) :
    Ensures (markJournalHdr env.traced iDc p w) fun marked =>
      names.Keeps record marked.2.record := by
  refine .bind _ (hideNextHeader_recorded env h p) fun hidden hhidden => ?_
  refine .ite (fun _ => .ok hhidden) fun _ => ?_
  extract_lets synced
  have hsynced : names.Keeps record synced.2.record := by
    simp only [synced]
    split <;> exact hhidden
  exact .ite (fun _ => .ok hsynced) fun _ => verixWrite_recorded hsynced env _ _ _

theorem syncJournalFile_follows (h : names.Follows record p.toPager w) (newHdr : Bool) :
    Ensures (syncJournalFile env.traced calls p newHdr w) fun ret =>
      names.Follows record ret.writer.toPager ret.world := by
  refine .bind (fun marked => names.Keeps record marked.2.record) ?_ fun marked hmarked => ?_
  · refine .ite (fun _ => markJournalHdr_recorded env ?_ _ p) fun _ => .ok h.2
    exact h.2
  refine .ite (fun _ => .ok ⟨h.1, hmarked⟩) fun _ => ?_
  extract_lets synced p₁ p₂
  have hsynced : names.Keeps record synced.2.record := by
    simp only [synced]
    split <;> exact hmarked
  refine .ite (fun _ => .ok ⟨h.1, hsynced⟩) fun _ => .ite (fun _ => ?_) fun _ =>
    .ok ⟨h.1, hsynced⟩
  refine .bind _ (writeJournalHdr_follows env ?_ _ _) fun written hwritten => .ok hwritten
  exact ⟨h.1, hsynced⟩

include hcalls in
theorem syncJournal_follows (h : names.Follows record p.toPager w) (newHdr : Bool) :
    Ensures (syncJournal env.traced calls p newHdr w) fun ret =>
      names.Follows record ret.writer.toPager ret.world := by
  refine .bind _ (sqlite3PagerExclusiveLock_follows hcalls env h) fun locked hlocked => ?_
  refine .ite (fun _ => .ok hlocked) fun _ => ?_
  refine .bind (fun ret => names.Follows record ret.writer.toPager ret.world) ?_
    fun synced hsynced => ?_
  · refine .ite (fun _ => .ite (fun _ => ?_) fun _ => .ok hlocked) fun _ => .ok hlocked
    exact syncJournalFile_follows env hlocked newHdr
  · exact .ite (fun _ => .ok hsynced) fun _ => .ok hsynced

theorem writePages_follows (h : names.Follows record p.toPager w) (pList : List Nat) :
    Ensures (writePages env.traced pList p w) fun ret =>
      names.Follows record ret.writer.toPager ret.world := by
  induction pList generalizing p w with
  | nil => exact .ok h
  | cons pgno pList ih =>
      refine .ite (fun _ => ?_) fun _ => ih h
      extract_lets offset p₁ pData
      have hheld : names.Held p₁.toPager := by
        simp only [p₁]
        split <;> exact h.1
      refine .bind _ (verixWrite_recorded h.2 env _ _ _) fun write hwrite => ?_
      have hstored : names.Held (if pgno = 1
          then p₁.put { p₁.toPager with dbFileVers := window pData 24 16 } else p₁).toPager := by
        split <;> exact hheld
      refine .ite (fun _ => ih ⟨?_, hwrite⟩) fun _ => .ok ⟨?_, hwrite⟩
      · exact hstored
      · exact hstored

theorem pagerWritePagelist_follows (h : names.Follows record p.toPager w) (pList : List Nat) :
    Ensures (pagerWritePagelist env.traced p pList w) fun ret =>
      names.Follows record ret.writer.toPager ret.world := by
  refine writePages_follows env ?_ pList
  split <;> exact h

theorem stressWrite_follows {synced : WriterRet (σ × List Event)}
    (h : names.Follows record synced.writer.toPager synced.world) (pgno : Nat) :
    Ensures (stressWrite env.traced pgno synced) fun ret =>
      names.Follows record ret.writer.toPager ret.world := by
  refine .bind (fun ret => names.Follows record ret.writer.toPager ret.world) ?_
    fun written hwritten => .ok (writerError_follows ⟨?_, hwritten.2⟩)
  · exact .ite (fun _ => pagerWritePagelist_follows env h _) fun _ => .ok h
  · simp only
    split
    · exact sqlite3PcacheMakeClean_held hwritten.1 pgno
    · exact hwritten.1

include hcalls in
theorem pagerStress_follows (h : names.Follows record p.toPager w) (pgno : Nat) :
    Ensures (pagerStress env.traced calls p pgno w) fun ret =>
      names.Follows record ret.writer.toPager ret.world := by
  refine .ite (fun _ => .ok h) fun _ => .ite (fun _ => .ok h) fun _ => ?_
  refine .bind (fun ret => names.Follows record ret.writer.toPager ret.world) ?_
    fun synced hsynced => stressWrite_follows env hsynced pgno
  exact .ite (fun _ => syncJournal_follows hcalls env h true) fun _ => .ok h

include hcalls in
theorem pcacheFetch_follows (h : names.Follows record p.toPager w) :
    Ensures (pcacheFetch env.traced calls p w) fun ret =>
      names.Follows record ret.writer.toPager ret.world := by
  refine .bind (fun ret => names.Follows record ret.writer.toPager ret.world) ?_
    fun spilled hspilled => .ite (fun _ => .ok hspilled) fun _ => .ok hspilled
  unfold pcacheSpill
  split
  · exact .ok h
  · refine .ite (fun _ => ?_) fun _ => .ok h
    refine .bind _ (pagerStress_follows hcalls env h _) fun stressed hstressed => .ok ?_
    split <;> exact hstressed

theorem readDbPage_follows (h : names.Follows record pPager w) (pgno iFrame : Nat) :
    names.Follows record
      (readDbPage env.traced (fun _ w => (.ok, [], w)) pPager pgno iFrame w).2.2.1
      (readDbPage env.traced (fun _ w => (.ok, [], w)) pPager pgno iFrame w).2.2.2 := by
  simp only [readDbPage]
  refine ⟨?_, ?_⟩
  · split_ifs <;> exact h.1
  · split
    · exact h.2
    · exact sqlite3OsRead_recorded h.2 env _ _ _

theorem acquireNew_follows (h : names.Follows record p.toPager w) (pgno : Nat) :
    names.Follows record (acquireNew env.traced p pgno w).2.1.toPager
      (acquireNew env.traced p pgno w).2.2 := by
  unfold acquireNew
  split
  · exact h
  split
  · split
    · exact h
    · exact h
  · exact readDbPage_follows env h pgno 0

include hcalls in
theorem sqlite3PagerGet_follows (h : names.Follows record p.toPager w) (pgno : Nat) :
    Ensures (sqlite3PagerGet env.traced calls p pgno w) fun ret =>
      names.Follows record ret.writer.toPager ret.world := by
  have hused : names.Follows record
      (p.put { p.toPager with hasBeenUsed := true }).toPager w := h
  refine .ite (fun _ => .ok h) fun _ => .ite (fun _ => .ok h) fun _ => .ite (fun _ => .ok h)
    fun _ => ?_
  refine .bind _ (pcacheFetch_follows hcalls env hused) fun fetched hfetched => ?_
  refine .ite (fun _ => .ok hfetched) fun _ => ?_
  have hacquired := acquireNew_follows env (p := pcacheFetchFinishWithInit fetched.writer pgno)
    hfetched pgno
  exact .ite (fun _ => .ok hacquired) fun _ => .ok hacquired

theorem openJournalFile_follows (h : names.Follows record pPager w) :
    Ensures (openJournalFile env.traced pPager w) fun ret =>
      names.Follows record ret.pPager ret.world := by
  obtain ⟨⟨hnames, htemp, hjfd, hsjfd⟩, hkeeps⟩ := id h
  have hunmoved : names.Keeps record (databaseIsUnmoved env.traced pPager w).2.record := by
    simp only [databaseIsUnmoved]
    split <;> exact hkeeps
  have hflags : ¬ HasFlag (journalOpenFlags pPager &&& 0x87f7f) openDeleteonclose := by
    rw [journalOpenFlags, htemp]
    decide
  refine .ite (fun _ => .ite (fun _ => ?_) fun _ => .ok ⟨h.1, hunmoved⟩) fun _ => .ok h
  refine .bind _ (sqlite3OsOpen_recorded hunmoved env (Or.inl (h.1.passes_zJournal _)) hjfd hflags)
    fun opened hopened => .ok ?_
  exact ⟨⟨hnames, htemp, hopened.1, hsjfd⟩, hopened.2⟩

theorem pagerOpenJournal_follows (h : names.Follows record p.toPager w) :
    Ensures (pagerOpenJournal env.traced calls p w) fun ret =>
      names.Follows record ret.writer.toPager ret.world := by
  refine .ite (fun _ => .ok h) fun _ => ?_
  refine .bind (fun ret => names.Follows record ret.writer.toPager ret.world) ?_
    fun opened hopened => .ite (fun _ => .ok hopened) fun _ => .ok hopened
  refine .ite (fun _ => ?_) fun _ => .ok h
  refine .bind _ (openJournalFile_follows env h) fun opened hopened => ?_
  refine .ite (fun _ => ?_) fun _ => .ok hopened
  refine .bind _ (writeJournalHdr_follows env ?_ _ _) fun written hwritten => .ok hwritten
  exact hopened

theorem journalPage_follows (h : names.Follows record p.toPager w) (pgno : Nat) :
    Ensures (journalPage env.traced p pgno w) fun ret =>
      names.Follows record ret.writer.toPager ret.world := by
  have hneed : names.Follows record (p.setNeedSync pgno true).toPager w := h
  refine .ite (fun _ => ?_) fun _ => .ite (fun _ => .ok h) fun _ => .ok h
  refine .bind _ (writeJournalRecord_follows env hneed _ _) fun written hwritten => ?_
  refine .ite (fun _ => .ok hwritten) fun _ => ?_
  exact .bind (fun _ => True) (fun _ _ => trivial) fun pInJournal _ => .ok hwritten

theorem pagerWrite_follows (h : names.Follows record p.toPager w) (pgno : Nat) :
    Ensures (pagerWrite env.traced calls p pgno w) fun ret =>
      names.Follows record ret.writer.toPager ret.world := by
  refine .bind (fun ret => names.Follows record ret.writer.toPager ret.world) ?_
    fun opened hopened => .ite (fun _ => .ok hopened) fun _ => ?_
  · exact .ite (fun _ => pagerOpenJournal_follows env h) fun _ => .ok h
  have hdirty : names.Follows record (sqlite3PcacheMakeDirty opened.writer pgno).toPager
      opened.world := ⟨sqlite3PcacheMakeDirty_held hopened.1 pgno, hopened.2⟩
  refine .bind (fun _ => True) (fun _ _ => trivial) fun inJournal _ => ?_
  refine .bind (fun ret => names.Follows record ret.writer.toPager ret.world) ?_
    fun journalled hjournalled => .ite (fun _ => .ok hjournalled) fun _ => .ok hjournalled
  exact .ite (fun _ => journalPage_follows env hdirty pgno) fun _ => .ok hdirty

include hcalls in
theorem writeSectorPages_follows (h : names.Follows record p.toPager w) (pgno : Nat)
    (pages : List Nat) (needSync : Bool) :
    Ensures (writeSectorPages env.traced calls pgno pages needSync p w) fun ret =>
      names.Follows record ret.1.writer.toPager ret.1.world := by
  induction pages generalizing needSync p w with
  | nil => exact .ok h
  | cons pg pages ih =>
      refine .bind (fun _ => True) (fun _ _ => trivial) fun inJournal _ => ?_
      refine .ite (fun _ => .ite (fun _ => ?_) fun _ => ih h needSync) fun _ =>
        .ite (fun _ => ih ⟨?_, h.2⟩ _) fun _ => ih h needSync
      · refine .bind _ (sqlite3PagerGet_follows hcalls env h pg) fun acquired hacquired => ?_
        refine .ite (fun _ => .ok hacquired) fun _ => ?_
        refine .bind _ (pagerWrite_follows env hacquired pg) fun written hwritten => ?_
        have hreleased : names.Follows record (sqlite3PcacheRelease written.writer pg).toPager
            written.world := ⟨sqlite3PcacheRelease_held hwritten.1 pg, hwritten.2⟩
        exact .ite (fun _ => .ok hreleased) fun _ => ih hreleased _
      · refine sqlite3PcacheRelease_held ?_ pg
        exact h.1

theorem markSectorPage_held (h : names.Held p.toPager) (pg : Nat) :
    names.Held (markSectorPage p pg).toPager := by
  unfold markSectorPage
  split
  · refine sqlite3PcacheRelease_held ?_ pg
    exact h
  · exact h

include hcalls in
theorem sqlite3PagerWrite_follows (h : names.Follows record p.toPager w) (pgno : Nat) :
    Ensures (sqlite3PagerWrite env.traced calls p pgno w) fun ret =>
      names.Follows record ret.writer.toPager ret.world := by
  have hmarked : ∀ (pages : List Nat) {q : Writer}, names.Held q.toPager →
      names.Held (pages.foldl markSectorPage q).toPager := by
    intro pages
    induction pages with
    | nil => exact fun hq => hq
    | cons pg pages ih => exact fun hq => ih (markSectorPage_held hq pg)
  refine .ite (fun _ => ?_) fun _ => pagerWrite_follows env h pgno
  have hkept : names.Follows record
      { p with doNotSpill := p.doNotSpill ||| spillflagNosync }.toPager w := h
  refine .bind _ (writeSectorPages_follows hcalls env hkept pgno _ false) fun written hwritten => ?_
  refine .ok ⟨?_, hwritten.2⟩
  simp only
  split
  · exact hmarked _ hwritten.1
  · exact hwritten.1

/-! ## Transactions -/

include hcalls in
theorem sqlite3PagerBegin_follows (h : names.Follows record p.toPager w) (exFlag : Bool) :
    Ensures (sqlite3PagerBegin env.traced calls p exFlag w) fun ret =>
      names.Follows record ret.writer.toPager ret.world := by
  have hreserved := pagerLockDb_follows h env .reserved
  refine .ite (fun _ => .ok h) fun _ => .ite (fun _ => ?_) fun _ => .ok h
  refine .ite (fun _ => .ok hreserved) fun _ => ?_
  refine .bind (fun ret => names.Follows record ret.pPager ret.world) ?_
    fun locked hlocked => .ite (fun _ => .ok hlocked) fun _ => .ok hlocked
  exact .ite (fun _ => pagerWaitOnLock_follows hcalls env hreserved .exclusive) fun _ =>
    .ok hreserved

include hcalls in
theorem pagerIncrChangecounter_follows (h : names.Follows record p.toPager w) :
    Ensures (pagerIncrChangecounter env.traced calls p w) fun ret =>
      names.Follows record ret.writer.toPager ret.world := by
  refine .ite (fun _ => ?_) fun _ => .ok h
  refine .bind _ (sqlite3PagerGet_follows hcalls env h 1) fun acquired hacquired => ?_
  refine .ite (fun _ => .ok hacquired) fun _ => ?_
  refine .bind _ (sqlite3PagerWrite_follows hcalls env hacquired 1) fun written hwritten => ?_
  refine .ok ⟨sqlite3PcacheRelease_held ?_ 1, hwritten.2⟩
  split
  · exact hwritten.1
  · exact hwritten.1

theorem commitPages_follows (h : names.Follows record p.toPager w) :
    Ensures (commitPages env.traced p w) fun ret =>
      names.Follows record ret.writer.toPager ret.world := by
  refine .bind _ (pagerWritePagelist_follows env h _) fun written hwritten => ?_
  refine .ite (fun _ => .ok hwritten) fun _ => ?_
  have hclean : names.Follows record (sqlite3PcacheCleanAll written.writer).toPager
      written.world := ⟨sqlite3PcacheCleanAll_held hwritten.1, hwritten.2⟩
  refine .ite (fun _ => ?_) fun _ => .ok hclean
  exact .bind _ (pagerTruncate_follows hclean env _) fun grown hgrown => .ok hgrown

include hcalls in
theorem sqlite3PagerCommitPhaseOne_follows (h : names.Follows record p.toPager w)
    (zMaster : Option CString) (noSync : Bool) :
    Ensures (sqlite3PagerCommitPhaseOne env.traced calls p zMaster noSync w) fun ret =>
      names.Follows record ret.writer.toPager ret.world := by
  refine .ite (fun _ => .ok h) fun _ => .ite (fun _ => .ok h) fun _ => ?_
  refine .bind _ (pagerIncrChangecounter_follows hcalls env h) fun counted hcounted => ?_
  refine .ite (fun _ => .ok hcounted) fun _ => ?_
  refine .bind _ (writeMasterJournal_follows env hcounted zMaster) fun master hmaster => ?_
  refine .ite (fun _ => .ok hmaster) fun _ => ?_
  have hput : names.Follows record (counted.writer.put master.pPager).toPager master.world :=
    hmaster
  refine .bind _ (syncJournal_follows hcalls env hput false) fun synced hsynced => ?_
  refine .ite (fun _ => .ok hsynced) fun _ => ?_
  refine .bind _ (commitPages_follows env hsynced) fun paged hpaged => ?_
  refine .ite (fun _ => .ok hpaged) fun _ => ?_
  extract_lets finished
  have hfinished : names.Keeps record finished.2.record := by
    simp only [finished]
    split
    · exact hpaged.2
    · exact sqlite3PagerSync_recorded hpaged.2 env _
  exact .ite (fun _ => .ok ⟨hpaged.1, hfinished⟩) fun _ => .ok ⟨hpaged.1, hfinished⟩

theorem writerEndTransaction_follows (h : names.Follows record p.toPager w)
    (hasMaster bCommit : Bool) :
    Ensures (writerEndTransaction env.traced p hasMaster bCommit w) fun ret =>
      names.Follows record ret.writer.toPager ret.world := by
  have hclean : names.Follows record (sqlite3PcacheCleanAll p).toPager w :=
    ⟨sqlite3PcacheCleanAll_held h.1, h.2⟩
  refine .ite (fun _ => .ok h) fun _ => ?_
  exact .bind _ (pagerEndTransaction_follows hclean env _ _) fun ended hended => .ok hended

theorem sqlite3PagerCommitPhaseTwo_follows (h : names.Follows record p.toPager w) :
    Ensures (sqlite3PagerCommitPhaseTwo env.traced p w) fun ret =>
      names.Follows record ret.writer.toPager ret.world := by
  refine .ite (fun _ => .ok h) fun _ => .ite (fun _ => .ok h) fun _ => ?_
  exact .bind _ (writerEndTransaction_follows env h _ _) fun ended hended =>
    .ok (writerError_follows hended)

theorem sqlite3PagerRollback_follows (h : names.Follows record p.toPager w) :
    Ensures (sqlite3PagerRollback env.traced p w) fun ret =>
      names.Follows record ret.writer.toPager ret.world := by
  have hclean : names.Follows record (sqlite3PcacheCleanAll p).toPager w :=
    ⟨sqlite3PcacheCleanAll_held h.1, h.2⟩
  refine .ite (fun _ => .ok h) fun _ => .ite (fun _ => .ok h) fun _ =>
    .ite (fun _ => ?_) fun _ => ?_
  · exact .bind _ (writerEndTransaction_follows env h _ _) fun ended hended =>
      .ok (writerError_follows hended)
  · refine .bind _ (pagerPlayback_follows hclean env false) fun played hplayed =>
      .ok (writerError_follows ⟨?_, hplayed.2⟩)
    simp only
    split
    · exact hplayed.1
    · exact hplayed.1

end Writing

/-! ## Runs -/

/-- What is called of a pager: it begins and ends to read, it is in the hands of a client within a
transaction, and it commits or rolls back. -/
inductive PagerCall where
  | sharedLock
  | unlock
  | exclusiveLock
  | page (call : PageCall)
  | commitPhaseOne (zMaster : Option CString) (noSync : Bool)
  | commitPhaseTwo
  | rollback

section Perform

variable (env : Env σ) (calls : WriterCallbacks σ)

/-- Perform a call. -/
def PagerCall.perform (c : Client σ) : PagerCall → Except Fault (Client σ)
  | .sharedLock => do
      let ret ← sqlite3PagerSharedLock env calls.toPagerCallbacks c.writer.toPager c.world
      return c.returned ⟨ret.rc, c.writer.put ret.pPager, ret.world⟩
  | .unlock =>
      let unlocked := pagerUnlock env calls.toPagerCallbacks c.writer.toPager c.world
      .ok { c with
        writer := { c.writer.put unlocked.1 with pInJournal := .null }
        world := unlocked.2 }
  | .exclusiveLock => do
      let ret ← sqlite3PagerExclusiveLock env calls c.writer c.world
      return c.returned ret
  | .page call => call.perform env calls c
  | .commitPhaseOne zMaster noSync => do
      let ret ← sqlite3PagerCommitPhaseOne env calls c.writer zMaster noSync c.world
      return c.returned ret
  | .commitPhaseTwo => do
      let ret ← sqlite3PagerCommitPhaseTwo env c.writer c.world
      return c.returned ret
  | .rollback => do
      let ret ← sqlite3PagerRollback env c.writer c.world
      return c.returned ret

/-- A call that does not come to an end stops the run. -/
def PagerCall.step (c : Client σ) (call : PagerCall) : Option (Client σ) :=
  match call.perform env calls c with
  | .ok c' => some c'
  | .error _ => none

end Perform

section Runs

variable {calls : WriterCallbacks (σ × List Event)}
  (hcalls : names.CallsKeep calls.toPagerCallbacks) (env : Env σ) {c : Client (σ × List Event)}
include hcalls

/-- A client's call passes the pager's names only, and what has been read. -/
theorem PageCall.perform_follows (h : names.Follows record c.writer.toPager c.world)
    (call : PageCall) : Ensures (call.perform env.traced calls c) fun c' =>
      names.Follows record c'.writer.toPager c'.world := by
  cases call with
  | begin exFlag =>
      exact .bind _ (sqlite3PagerBegin_follows hcalls env h exFlag) fun ret hret => .ok hret
  | get pgno => exact .bind _ (sqlite3PagerGet_follows hcalls env h pgno) fun ret hret => .ok hret
  | release pgno => exact .ok ⟨sqlite3PcacheRelease_held h.1 pgno, h.2⟩
  | write pgno =>
      exact .bind _ (sqlite3PagerWrite_follows hcalls env h pgno) fun ret hret => .ok hret
  | store pgno pData => exact .ok h
  | dontWrite pgno =>
      refine .ok ⟨?_, h.2⟩
      simp only [sqlite3PagerDontWrite]
      split
      · exact h.1
      · exact h.1
  | recycle pages => exact .ok h

theorem PagerCall.perform_follows (h : names.Follows record c.writer.toPager c.world)
    (call : PagerCall) : Ensures (call.perform env.traced calls c) fun c' =>
      names.Follows record c'.writer.toPager c'.world := by
  cases call with
  | sharedLock =>
      exact .bind _ (sqlite3PagerSharedLock_follows hcalls env h) fun ret hret => .ok hret
  | unlock => exact .ok (pagerUnlock_follows hcalls env h)
  | exclusiveLock =>
      exact .bind _ (sqlite3PagerExclusiveLock_follows hcalls env h) fun ret hret => .ok hret
  | page call => exact call.perform_follows hcalls env h
  | commitPhaseOne zMaster noSync =>
      exact .bind _ (sqlite3PagerCommitPhaseOne_follows hcalls env h zMaster noSync)
        fun ret hret => .ok hret
  | commitPhaseTwo =>
      exact .bind _ (sqlite3PagerCommitPhaseTwo_follows env h) fun ret hret => .ok hret
  | rollback => exact .bind _ (sqlite3PagerRollback_follows env h) fun ret hret => .ok hret

/-- So does a run of calls. -/
theorem PagerCall.run_follows (h : names.Follows record c.writer.toPager c.world)
    {run : List PagerCall} {final : Client (σ × List Event)}
    (hrun : Run.run (PagerCall.step env.traced calls) c run = some final) :
    names.Follows record final.writer.toPager final.world := by
  induction run generalizing c with
  | nil =>
      cases hrun
      exact h
  | cons call rest ih =>
      obtain ⟨next, hstep, hrest⟩ := Run.run_cons_eq_some.mp hrun
      refine ih (perform_follows hcalls env h call next ?_) hrest
      simp only [PagerCall.step] at hstep
      split at hstep
      · rename_i c' hperform
        cases hstep
        exact hperform
      · cases hstep

end Runs

/-! ## Opening a database -/

/-- A world whose record is still empty. -/
def World.unrecorded (w : World σ) : World (σ × List Event) :=
  ⟨(w.os, []), w.errno, w.lastErrno, w.logged, w.stale⟩

/-- The pager that `sqlite3PagerOpen` leaves has the names it has derived. -/
theorem Pager.opened_held (fd : VerixFile) (zFilename : CString) :
    (PagerNames.derived zFilename).Held (.opened fd zFilename) :=
  ⟨⟨rfl, rfl, rfl⟩, rfl, rfl, rfl⟩

/-- A pager that has just been opened. -/
def Writer.onDb : Writer :=
  { Writer.sectorPage with
    toPager := .opened (.on 0 (ascii "db")) (ascii "db")
    refs := [] }

/-- The flash with an empty database, before it is opened and after. -/
def World.ofDb : World Flash :=
  .on (.ofFiles [(ascii "db", [])] (List.forall_mem_singleton.mpr (Nat.two_pow_pos 31)))

def World.onDb : World (Flash × List Event) :=
  ⟨((World.opened (ascii "db") [] (Nat.two_pow_pos 31)).os, [.passed .xOpen (ascii "db")]),
    0, 0, 3, true⟩

/-- A transaction stores a page and names a master journal in its own, which is then rolled
back. -/
def PagerCall.change : List PagerCall :=
  [.sharedLock, .page (.begin false), .page (.get 1), .page (.write 1),
    .page (.store 1 (List.replicate 4096 1)), .commitPhaseOne (some (ascii "mj")) false, .rollback]

theorem change_runs : ∃ final, Run.run (PagerCall.step pageFlash.traced .none)
      ⟨.onDb, .onDb, .ok, false, [], fun _ => none⟩ PagerCall.change = some final ∧
    .passed .xAccess (ascii "mj") ∈ final.world.record ∧
    .passed .xDelete (ascii "db-journal") ∈ final.world.record := by
  have hpasses : (Run.run (PagerCall.step pageFlash.traced .none)
      ⟨.onDb, .onDb, .ok, false, [], fun _ => none⟩ PagerCall.change).any fun final =>
        .passed .xAccess (ascii "mj") ∈ final.world.record ∧
          .passed .xDelete (ascii "db-journal") ∈ final.world.record := by
    decide +kernel
  obtain ⟨final, hfinal, hboth⟩ := (Option.any_eq_true _ _).mp hpasses
  exact ⟨final, hfinal, of_decide_eq_true hboth⟩

end VxSqlite
