import VxSqlite.Pager.Journal

/-!
# Beginning to read

`sqlite3PagerSharedLock` and what it calls: waiting for the shared lock, the search for a hot
journal, its rollback, the check whether the database has changed, and the switch to a write-ahead
log. The write-ahead log itself and the busy handler are parameters.
-/

namespace VxSqlite

variable {σ : Type}

/-- What the pager calls outside of its own code and the port: the busy handler, given how often
it was called before, and the functions of the write-ahead log. -/
structure PagerCallbacks (σ : Type) where
  xBusyHandler : Nat → World σ → Bool × World σ
  busyFuel : Nat
  walOpen : Pager → World σ → ResultCode × World σ
  walEndReadTransaction : World σ → World σ
  walBeginReadTransaction : World σ → ResultCode × Bool × World σ
  walDbsize : World σ → Nat

variable (env : Env σ) (calls : PagerCallbacks σ)

/-- The loop of `pager_wait_on_lock`; `nBusy` counts the calls of the busy handler. -/
def waitOnLockLoop (pPager : Pager) (locktype : LockLevel) :
    Nat → Nat → World σ → Except Fault (PagerRet σ)
  | 0, _, _ => .error .unfinished
  | fuel + 1, nBusy, w =>
      let locked := pagerLockDb env pPager locktype w
      if locked.1 = .busy then
        let again := calls.xBusyHandler nBusy locked.2.2
        if again.1 then waitOnLockLoop locked.2.1 locktype fuel (nBusy + 1) again.2
        else .ok ⟨.busy, locked.2.1, again.2⟩
      else .ok ⟨locked.1, locked.2.1, locked.2.2⟩

/-- Wait until the lock is given, or the busy handler gives up. -/
def pagerWaitOnLock (pPager : Pager) (locktype : LockLevel) (w : World σ) :
    Except Fault (PagerRet σ) :=
  waitOnLockLoop env calls pPager locktype calls.busyFuel 0 w

/-- Sync a journal before it is rolled back, and note its size. -/
def pagerSyncHotJournal (pPager : Pager) (w : World σ) : PagerRet σ :=
  let synced := if ¬ pPager.noSync then verixSync pPager.jfd w else (.ok, w)
  if synced.1 = .ok then
    let size := verixFileSize env pPager.jfd pPager.journalHdr synced.2
    ⟨size.1, { pPager with journalHdr := size.2.1 }, size.2.2⟩
  else ⟨synced.1, pPager, synced.2⟩

/-- Unlock the database and go back to the state `OPEN`. -/
def pagerUnlock (pPager : Pager) (w : World σ) : Pager × World σ :=
  let released := releaseAllSavepoints env pPager w
  let pPager := released.1
  let unlocked :=
    if PagerUseWal pPager then
      ({ pPager with eState := .open }, calls.walEndReadTransaction released.2)
    else if ¬ pPager.exclusiveMode then
      let iDc := if IsOpen pPager.fd then verixDeviceCharacteristics env pPager.fd released.2
        else (0, released.2)
      let closed :=
        if iDc.1.toNat &&& iocapUndeletableWhenOpen = 0 ∨ pPager.journalMode.code &&& 5 ≠ 1 then
          sqlite3OsClose env pPager.jfd iDc.2
        else (pPager.jfd, iDc.2)
      let unlocked := pagerUnlockDb env { pPager with jfd := closed.1 } .noLock closed.2
      let pPager := if unlocked.1 ≠ .ok ∧ pPager.eState = .error
        then { unlocked.2.1 with eLock := .unknown } else unlocked.2.1
      ({ pPager with changeCountDone := false, eState := .open }, unlocked.2.2)
    else (pPager, released.2)
  let pPager := unlocked.1
  let pPager := if pPager.errCode ≠ .ok
    then { pagerReset pPager with
      changeCountDone := pPager.tempFile, eState := .open, errCode := .ok }
    else pPager
  ({ pPager with journalOff := 0, journalHdr := 0, setMaster := false }, unlocked.2)

/-- Note an error that makes the page cache untrustworthy. -/
def pagerError (pPager : Pager) (rc : ResultCode) : Pager :=
  if rc.code % 256 = ResultCode.full.code ∨ rc.IsIoerr then
    { pPager with errCode := rc, eState := .error }
  else pPager

/-- What `pagerPagecount` returns. -/
structure Pagecount (σ : Type) where
  rc : ResultCode
  nPage : Nat
  pPager : Pager
  world : World σ

/-- The number of pages of the database. -/
def pagerPagecount (pPager : Pager) (w : World σ) : Pagecount σ :=
  let walPages := if PagerUseWal pPager then calls.walDbsize w else 0
  let size : ResultCode × Int × World σ :=
    if walPages = 0 ∧ IsOpen pPager.fd then verixFileSize env pPager.fd 0 w else (.ok, 0, w)
  if size.1 ≠ .ok then ⟨size.1, 0, pPager, size.2.2⟩
  else
    let nPage := if walPages = 0
      then ((size.2.1 + pPager.pageSize - 1).tdiv pPager.pageSize).toNat else walPages
    ⟨.ok, nPage, { pPager with mxPgno := max pPager.mxPgno nPage }, size.2.2⟩

/-- What `hasHotJournal` returns. -/
structure HotJournal (σ : Type) where
  rc : ResultCode
  pExists : Bool
  pPager : Pager
  world : World σ

/-- The end of `hasHotJournal`: open the journal and look at its first byte. -/
def journalNotEmpty (pPager : Pager) (jrnlOpen : Bool) (w : World σ) :
    Except Fault (HotJournal σ) := do
  let opened : Opened σ ← (if jrnlOpen then .ok ⟨.ok, pPager.jfd, none, w⟩
    else sqlite3OsOpen env pPager.zJournal pPager.jfd (openReadonly ||| openMainJournal) w)
  if opened.rc = .ok then
    let read := sqlite3OsRead env opened.file 1 0 opened.world
    let rc := if read.1 = .ioerrShortRead then .ok else read.1
    let closed := if jrnlOpen then (opened.file, read.2.2)
      else sqlite3OsClose env opened.file read.2.2
    return ⟨rc, read.2.1 ≠ [0], { pPager with jfd := closed.1 }, closed.2⟩
  else if opened.rc = .cantopen then
    return ⟨.ok, true, { pPager with jfd := opened.file }, opened.world⟩
  else return ⟨opened.rc, false, { pPager with jfd := opened.file }, opened.world⟩

/-- The start of `hasHotJournal`: a journal that is not open may exist as a file. -/
def journalExists (pPager : Pager) (w : World σ) : ResultCode × Bool × World σ :=
  if IsOpen pPager.jfd then (.ok, true, w) else verixAccess env pPager.zJournal .exists w

/-- Whether there is a journal that must be rolled back. -/
def hasHotJournal (pPager : Pager) (w : World σ) : Except Fault (HotJournal σ) :=
  let jrnlOpen : Bool := IsOpen pPager.jfd
  let journal := journalExists env pPager w
  if journal.1 = .ok ∧ journal.2.1 then
    let locked := verixCheckReservedLock env pPager.fd journal.2.2
    if locked.1 = .ok ∧ locked.2.1 = 0 then
      let count := pagerPagecount env calls pPager locked.2.2
      let pPager := count.pPager
      if count.rc ≠ .ok then .ok ⟨count.rc, false, pPager, count.world⟩
      else if count.nPage = 0 ∧ jrnlOpen = false then
        -- an empty database needs no journal
        let reserved := pagerLockDb env pPager .reserved count.world
        if reserved.1 = .ok then
          let deleted := verixDelete env pPager.zJournal reserved.2.2
          if ¬ pPager.exclusiveMode then
            let unlocked := pagerUnlockDb env reserved.2.1 .shared deleted.2
            .ok ⟨.ok, false, unlocked.2.1, unlocked.2.2⟩
          else .ok ⟨.ok, false, reserved.2.1, deleted.2⟩
        else .ok ⟨.ok, false, reserved.2.1, reserved.2.2⟩
      else journalNotEmpty env pPager jrnlOpen count.world
    else .ok ⟨locked.1, false, pPager, locked.2.2⟩
  else .ok ⟨journal.1, false, pPager, journal.2.2⟩

/-! ## The write-ahead log -/

/-- Take an exclusive lock, or keep the shared one. -/
def pagerExclusiveLock (pPager : Pager) (w : World σ) : PagerRet σ :=
  let locked := pagerLockDb env pPager .exclusive w
  if locked.1 ≠ .ok then
    let unlocked := pagerUnlockDb env locked.2.1 .shared locked.2.2
    ⟨locked.1, unlocked.2.1, unlocked.2.2⟩
  else ⟨.ok, locked.2.1, locked.2.2⟩

/-- Open the write-ahead log. -/
def pagerOpenWal (pPager : Pager) (w : World σ) : PagerRet σ :=
  let locked := if pPager.exclusiveMode then pagerExclusiveLock env pPager w
    else ⟨.ok, pPager, w⟩
  if locked.rc = .ok then
    let opened := calls.walOpen locked.pPager locked.world
    ⟨opened.1, { locked.pPager with pWal := decide (opened.1 = .ok) }, opened.2⟩
  else locked

/-- `sqlite3PagerOpenWal(pPager, 0)`. The port's methods are of version 1 and have no shared
memory, so the log is supported in exclusive mode only. -/
def sqlite3PagerOpenWal (pPager : Pager) (w : World σ) : PagerRet σ :=
  if ¬ pPager.exclusiveMode then ⟨.cantopen, pPager, w⟩
  else
    let closed := sqlite3OsClose env pPager.jfd w
    let opened := pagerOpenWal env calls { pPager with jfd := closed.1 } closed.2
    if opened.rc = .ok then
      { opened with pPager := { opened.pPager with journalMode := .wal, eState := .open } }
    else opened

/-- Open the write-ahead log if its file is there. -/
def pagerOpenWalIfPresent (pPager : Pager) (w : World σ) : PagerRet σ :=
  if ¬ pPager.tempFile then
    let count := pagerPagecount env calls pPager w
    let pPager := count.pPager
    if count.rc ≠ .ok then ⟨count.rc, pPager, count.world⟩
    else
      let isWal : ResultCode × Bool × World σ :=
        if count.nPage = 0 then
          let deleted := verixDelete env pPager.zWal count.world
          (if deleted.1 = .ioerrDeleteNoent then .ok else deleted.1, false, deleted.2)
        else verixAccess env pPager.zWal .exists count.world
      if isWal.1 = .ok then
        if isWal.2.1 then sqlite3PagerOpenWal env calls pPager isWal.2.2
        else if pPager.journalMode = .wal then
          ⟨.ok, { pPager with journalMode := .delete }, isWal.2.2⟩
        else ⟨.ok, pPager, isWal.2.2⟩
      else ⟨isWal.1, pPager, isWal.2.2⟩
  else ⟨.ok, pPager, w⟩

/-- Begin to read from the write-ahead log. -/
def pagerBeginReadTransaction (pPager : Pager) (w : World σ) : PagerRet σ :=
  let begun := calls.walBeginReadTransaction (calls.walEndReadTransaction w)
  ⟨begun.1, if begun.1 ≠ .ok ∨ begun.2.1 then pagerReset pPager else pPager, begun.2.2⟩

/-! ## The shared lock -/

/-- Open the journal for the rollback, if it is there and not open already. -/
def openHotJournal (pPager : Pager) (w : World σ) : Except Fault (PagerRet σ) :=
  if ¬ IsOpen pPager.jfd then
    let access := verixAccess env pPager.zJournal .exists w
    if access.1 = .ok ∧ access.2.1 then do
      let opened ← sqlite3OsOpen env pPager.zJournal pPager.jfd (openReadwrite ||| openMainJournal)
        access.2.2
      if opened.rc = .ok ∧ HasFlag (opened.outFlags.getD 0) openReadonly then
        let closed := sqlite3OsClose env opened.file opened.world
        return ⟨.cantopen, { pPager with jfd := closed.1 }, closed.2⟩
      else return ⟨opened.rc, { pPager with jfd := opened.file }, opened.world⟩
    else .ok ⟨access.1, pPager, access.2.2⟩
  else .ok ⟨.ok, pPager, w⟩

/-- The branch of `sqlite3PagerSharedLock` that rolls a hot journal back, under an exclusive
lock. -/
def rollbackHotJournal (pPager : Pager) (w : World σ) : Except Fault (PagerRet σ) :=
  if pPager.readOnly then .ok ⟨.readonlyRollback, pPager, w⟩
  else
    let locked := pagerLockDb env pPager .exclusive w
    if locked.1 ≠ .ok then .ok ⟨locked.1, locked.2.1, locked.2.2⟩
    else do
      let opened ← openHotJournal env locked.2.1 locked.2.2
      let played : PagerRet σ ← (if IsOpen opened.pPager.jfd then
          let synced := pagerSyncHotJournal env opened.pPager opened.world
          if synced.rc = .ok then do
            let played ← pagerPlayback env synced.pPager true synced.world
            return { played.toPagerRet with pPager := { played.pPager with eState := .open } }
          else .ok synced
        else if ¬ opened.pPager.exclusiveMode then
          let unlocked := pagerUnlockDb env opened.pPager .shared opened.world
          .ok ⟨opened.rc, unlocked.2.1, unlocked.2.2⟩
        else .ok opened)
      if played.rc ≠ .ok then return { played with pPager := pagerError played.pPager played.rc }
      else return played

/-- Discard the page cache if the database has changed since it was last used. -/
def checkDbFileVers (pPager : Pager) (w : World σ) : PagerRet σ :=
  if ¬ pPager.tempFile ∧ pPager.hasBeenUsed then
    let count := pagerPagecount env calls pPager w
    let pPager := count.pPager
    if count.rc ≠ .ok then ⟨count.rc, pPager, count.world⟩
    else
      let read : ResultCode × List UInt8 × World σ :=
        if count.nPage > 0 then sqlite3OsRead env pPager.fd 16 24 count.world
        else (.ok, List.replicate 16 0, count.world)
      if read.1 ≠ .ok ∧ read.1 ≠ .ioerrShortRead then ⟨read.1, pPager, read.2.2⟩
      else if pPager.dbFileVers ≠ read.2.1 then ⟨.ok, pagerReset pPager, read.2.2⟩
      else ⟨.ok, pPager, read.2.2⟩
  else ⟨.ok, pPager, w⟩

/-- What `sqlite3PagerSharedLock` returns, and whether it entered the branch that rolls a hot
journal back. -/
structure SharedLockRet (σ : Type) extends PagerRet σ where
  rollback : Bool

/-- The part of `sqlite3PagerSharedLock` for a pager in the state `OPEN`. A result other than
`SQLITE_OK` goes to `failed`. -/
def sharedLockOpen (pPager : Pager) (w : World σ) : Except Fault (SharedLockRet σ) := do
  let waited ← pagerWaitOnLock env calls pPager .shared w
  if waited.rc ≠ .ok then return ⟨waited, false⟩
  else
    let hot ← (if waited.pPager.eLock ≤ .shared then
        hasHotJournal env calls waited.pPager waited.world
      else .ok ⟨.ok, true, waited.pPager, waited.world⟩)
    if hot.rc ≠ .ok then return ⟨⟨hot.rc, hot.pPager, hot.world⟩, false⟩
    else
      let rolled ← (if hot.pExists then rollbackHotJournal env hot.pPager hot.world
        else .ok ⟨.ok, hot.pPager, hot.world⟩)
      if rolled.rc ≠ .ok then return ⟨rolled, hot.pExists⟩
      else
        let checked := checkDbFileVers env calls rolled.pPager rolled.world
        if checked.rc ≠ .ok then return ⟨checked, hot.pExists⟩
        else return ⟨pagerOpenWalIfPresent env calls checked.pPager checked.world, hot.pExists⟩

/-- The end of `sqlite3PagerSharedLock`. -/
def sharedLockEnd (opened : PagerRet σ) : PagerRet σ :=
  let begun := if opened.rc = .ok ∧ PagerUseWal opened.pPager
    then pagerBeginReadTransaction calls opened.pPager opened.world else opened
  let counted : PagerRet σ :=
    if begun.pPager.eState = .open ∧ begun.rc = .ok then
      let count := pagerPagecount env calls begun.pPager begun.world
      if count.rc = .ok then ⟨.ok, { count.pPager with dbSize := count.nPage }, count.world⟩
      else ⟨count.rc, count.pPager, count.world⟩
    else begun
  if counted.rc ≠ .ok then
    let unlocked := pagerUnlock env calls counted.pPager counted.world
    ⟨counted.rc, unlocked.1, unlocked.2⟩
  else { counted with pPager := { counted.pPager with eState := .reader } }

/-- Take a shared lock on the database, so that its pages can be read. -/
def sqlite3PagerSharedLock (pPager : Pager) (w : World σ) : Except Fault (SharedLockRet σ) := do
  let opened ← (if ¬ PagerUseWal pPager ∧ pPager.eState = .open then
      sharedLockOpen env calls pPager w
    else .ok ⟨⟨.ok, pPager, w⟩, false⟩)
  return ⟨sharedLockEnd env calls opened.toPagerRet, opened.rollback⟩

end VxSqlite
