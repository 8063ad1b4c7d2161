import VxSqlite.Lib.Overlay
import VxSqlite.Pager.Basic

/-!
# The rollback journal

Reading a journal and playing it back into the database: the functions of the pager from
`read32bits` to `pager_playback`, for the main journal in a file. Sub-journals and savepoint
rollbacks, in-memory journals, codecs, backups and failing allocations are left out. A playback
also returns which records it read and how its loop ended; nothing in the code reads these.
-/

namespace VxSqlite

/-- `SQLITE_OPEN_MAIN_JOURNAL`. -/
def openMainJournal : Nat := 0x800

/-- `SQLITE_OPEN_MASTER_JOURNAL`. -/
def openMasterJournal : Nat := 0x4000

/-- `SQLITE_MAX_PAGE_SIZE`. -/
def maxPageSize : UInt32 := 65536

/-- `MAX_SECTOR_SIZE`. -/
def maxSectorSize : UInt32 := 0x10000

/-- `SQLITE_IOCAP_UNDELETABLE_WHEN_OPEN`. -/
def iocapUndeletableWhenOpen : Nat := 0x800

/-- `SQLITE_IOCAP_POWERSAFE_OVERWRITE`. -/
def iocapPowersafeOverwrite : Nat := 0x1000

/-- `SQLITE_FCNTL_SYNC`. -/
def fcntlSync : Int := 21

/-- `SQLITE_FCNTL_COMMIT_PHASETWO`. -/
def fcntlCommitPhasetwo : Int := 22

/-- `aJournalMagic`. -/
def aJournalMagic : List UInt8 := [0xd9, 0xd5, 0x05, 0xf9, 0x20, 0xa1, 0x63, 0xd7]

/-- `JOURNAL_PG_SZ`. -/
def Pager.journalPgSz (pPager : Pager) : Int := pPager.pageSize + 8

/-- `JOURNAL_HDR_SZ`. -/
def Pager.journalHdrSz (pPager : Pager) : Int := pPager.sectorSize

/-- `PAGER_MJ_PGNO`. -/
def Pager.mjPgno (pPager : Pager) : Nat := 0x40000000 / pPager.pageSize + 1

/-- `sqlite3Get4byte`. -/
def sqlite3Get4byte (p : List UInt8) : UInt32 :=
  (p.take 4).foldl (fun value byte => value * 256 + byte.toUInt32) 0

variable {σ : Type}

/-- Read a big-endian integer. -/
def read32bits (env : Env σ) (fd : VerixFile) (offset : Int) (w : World σ) :
    ResultCode × UInt32 × World σ :=
  let read := sqlite3OsRead env fd 4 offset w
  (read.1, sqlite3Get4byte read.2.1, read.2.2)

/-- The sum of the characters of a master journal's name, each a signed 8-bit integer. -/
def masterCksum (zMaster : List UInt8) : UInt32 :=
  zMaster.foldl (fun cksum byte => cksum + UInt32.ofInt byte.toInt8.toInt) 0

/-- Read the name of the master journal at the end of a journal; it is empty if there is none. -/
def readMasterJournal (env : Env σ) (pJrnl : VerixFile) (nMaster : Nat) (w : World σ) :
    ResultCode × CString × World σ :=
  let size := verixFileSize env pJrnl 0 w
  let szJ := size.2.1
  if size.1 ≠ .ok ∨ szJ < 16 then (size.1, [], size.2.2)
  else
    let len := read32bits env pJrnl (szJ - 16) size.2.2
    let n := len.2.1.toNat
    if len.1 ≠ .ok ∨ n ≥ nMaster ∨ n = 0 then (len.1, [], len.2.2)
    else
      let cksum := read32bits env pJrnl (szJ - 12) len.2.2
      if cksum.1 ≠ .ok then (cksum.1, [], cksum.2.2)
      else
        let magic := sqlite3OsRead env pJrnl 8 (szJ - 8) cksum.2.2
        if magic.1 ≠ .ok ∨ magic.2.1 ≠ aJournalMagic then (magic.1, [], magic.2.2)
        else
          let name := sqlite3OsRead env pJrnl n (szJ - 16 - n) magic.2.2
          if name.1 ≠ .ok then (name.1, [], name.2.2)
          else if cksum.2.1 ≠ masterCksum name.2.1 then (.ok, [], name.2.2)
          else (.ok, name.2.1.takeWhile (· ≠ 0), name.2.2)

/-- The sector boundary at or behind `journalOff`. -/
def journalHdrOffset (pPager : Pager) : Int :=
  if pPager.journalOff ≠ 0 then
    ((pPager.journalOff - 1).tdiv pPager.journalHdrSz + 1) * pPager.journalHdrSz
  else 0

/-- Zero the first journal header, or truncate the journal. -/
def zeroJournalHdr (env : Env σ) (pPager : Pager) (doTruncate : Bool) (w : World σ) :
    Except Fault (ResultCode × World σ) :=
  if pPager.journalOff ≠ 0 then do
    let iLimit := pPager.journalSizeLimit
    let done ← (if doTruncate ∨ iLimit = 0 then .ok (verixTruncate env pPager.jfd 0 w)
      else verixWrite env pPager.jfd (List.replicate 28 0) 0 w)
    let synced := if done.1 = .ok ∧ ¬ pPager.noSync then verixSync pPager.jfd done.2 else done
    if synced.1 = .ok ∧ iLimit > 0 then
      let size := verixFileSize env pPager.jfd 0 synced.2
      if size.1 = .ok ∧ size.2.1 > iLimit then
        return verixTruncate env pPager.jfd iLimit size.2.2
      else return (size.1, size.2.2)
    else return synced
  else return (.ok, w)

/-- Discard the content of the page cache. -/
def pagerReset (pPager : Pager) : Pager := { pPager with pPCache := pPager.pPCache.clear }

/-- Change the page size of the pager: the size it has afterwards is `pPager.pageSize`. -/
def sqlite3PagerSetPagesize (env : Env σ) (pPager : Pager) (pageSize : Nat) (nReserve : Int)
    (w : World σ) : PagerRet σ :=
  let resized : PagerRet σ :=
    if pPager.pPCache.nRefSum = 0 ∧ pageSize ≠ 0 ∧ pageSize ≠ pPager.pageSize then
      let size : ResultCode × Int × World σ :=
        if PagerState.open.rank < pPager.eState.rank ∧ IsOpen pPager.fd then
          verixFileSize env pPager.fd 0 w
        else (.ok, 0, w)
      if size.1 = .ok then
        let pPager := pagerReset pPager
        ⟨.ok, { pPager with
          pPCache := { pPager.pPCache with page1Ref := false }
          dbSize := ((size.2.1 + pageSize - 1).tdiv pageSize).toNat
          pageSize := pageSize }, size.2.2⟩
      else ⟨size.1, pPager, size.2.2⟩
    else ⟨.ok, pPager, w⟩
  if resized.rc = .ok ∧ 0 ≤ nReserve then
    { resized with pPager := { resized.pPager with nReserve := nReserve.toNat } }
  else resized

/-- What `readJournalHdr` returns: the two values are meaningful if the code is `SQLITE_OK`. -/
structure JournalHdr (σ : Type) where
  rc : ResultCode
  nRec : UInt32
  dbSize : UInt32
  pPager : Pager
  world : World σ

/-- The page size and sector size that the first header of a journal may state. -/
def JournalSizesValid (iPageSize iSectorSize : UInt32) : Prop :=
  512 ≤ iPageSize ∧ 32 ≤ iSectorSize ∧ iPageSize ≤ maxPageSize ∧ iSectorSize ≤ maxSectorSize ∧
    (iPageSize - 1) &&& iPageSize = 0 ∧ (iSectorSize - 1) &&& iSectorSize = 0

instance (iPageSize iSectorSize : UInt32) : Decidable (JournalSizesValid iPageSize iSectorSize) :=
  inferInstanceAs (Decidable (_ ∧ _))

/-- The end of `readJournalHdr`: the first header of the journal also settles the page size and
the sector size. -/
def readJournalSizes (env : Env σ) (pPager : Pager) (iHdrOff : Int) (nRec dbSize : UInt32)
    (w : World σ) : JournalHdr σ :=
  if pPager.journalOff = 0 then
    let sector := read32bits env pPager.jfd (iHdrOff + 20) w
    if sector.1 ≠ .ok then ⟨sector.1, nRec, dbSize, pPager, sector.2.2⟩
    else
      let page := read32bits env pPager.jfd (iHdrOff + 24) sector.2.2
      if page.1 ≠ .ok then ⟨page.1, nRec, dbSize, pPager, page.2.2⟩
      else
        let iPageSize := if page.2.1 = 0 then UInt32.ofNat pPager.pageSize else page.2.1
        if ¬ JournalSizesValid iPageSize sector.2.1 then ⟨.done, nRec, dbSize, pPager, page.2.2⟩
        else
          let sized := sqlite3PagerSetPagesize env pPager iPageSize.toNat (-1) page.2.2
          let pPager := { sized.pPager with sectorSize := sector.2.1.toNat }
          ⟨sized.rc, nRec, dbSize,
            { pPager with journalOff := pPager.journalOff + pPager.journalHdrSz }, sized.world⟩
  else
    ⟨.ok, nRec, dbSize, { pPager with journalOff := pPager.journalOff + pPager.journalHdrSz }, w⟩

/-- The middle of `readJournalHdr`: the first three fields behind the magic string. -/
def readJournalFields (env : Env σ) (pPager : Pager) (iHdrOff : Int) (w : World σ) :
    JournalHdr σ :=
  let nRec := read32bits env pPager.jfd (iHdrOff + 8) w
  if nRec.1 ≠ .ok then ⟨nRec.1, 0, 0, pPager, nRec.2.2⟩
  else
    let cksumInit := read32bits env pPager.jfd (iHdrOff + 12) nRec.2.2
    if cksumInit.1 ≠ .ok then ⟨cksumInit.1, nRec.2.1, 0, pPager, cksumInit.2.2⟩
    else
      let pPager := { pPager with cksumInit := cksumInit.2.1 }
      let dbSize := read32bits env pPager.jfd (iHdrOff + 16) cksumInit.2.2
      if dbSize.1 ≠ .ok then ⟨dbSize.1, nRec.2.1, 0, pPager, dbSize.2.2⟩
      else readJournalSizes env pPager iHdrOff nRec.2.1 dbSize.2.1 dbSize.2.2

/-- Read the journal header at the next sector boundary. `SQLITE_DONE` means that there is none,
or that it is not one. -/
def readJournalHdr (env : Env σ) (pPager : Pager) (isHot : Bool) (journalSize : Int)
    (w : World σ) : JournalHdr σ :=
  let pPager := { pPager with journalOff := journalHdrOffset pPager }
  if pPager.journalOff + pPager.journalHdrSz > journalSize then ⟨.done, 0, 0, pPager, w⟩
  else
    let iHdrOff := pPager.journalOff
    if isHot ∨ iHdrOff ≠ pPager.journalHdr then
      let magic := sqlite3OsRead env pPager.jfd 8 iHdrOff w
      if magic.1 ≠ .ok then ⟨magic.1, 0, 0, pPager, magic.2.2⟩
      else if magic.2.1 ≠ aJournalMagic then ⟨.done, 0, 0, pPager, magic.2.2⟩
      else readJournalFields env pPager iHdrOff magic.2.2
    else readJournalFields env pPager iHdrOff w

/-- Every 200th byte of the page from index `i` downwards, added to `cksum`. -/
def pagerCksumFrom (aData : List UInt8) (cksum : UInt32) (i : Nat) : UInt32 :=
  if 0 < i then pagerCksumFrom aData (cksum + (aData[i]?.getD 0).toUInt32) (i - 200) else cksum
termination_by i

/-- The checksum of a page. -/
def pagerCksum (pPager : Pager) (aData : List UInt8) : UInt32 :=
  pagerCksumFrom aData pPager.cksumInit (pPager.pageSize - 200)

/-- The part of `pager_playback_one_page` that writes an accepted page to the database file, in
the states in which the file may be written. -/
def playbackWrite (env : Env σ) (pPager : Pager) (pgno : Nat) (aData : List UInt8) (w : World σ) :
    Except Fault (PagerRet σ) :=
  let isSynced := pPager.noSync = true ∨ pPager.journalOff ≤ pPager.journalHdr
  if IsOpen pPager.fd ∧
      (PagerState.writerDbmod.rank ≤ pPager.eState.rank ∨ pPager.eState = .open) ∧ isSynced then do
    let ofst := ((pgno : Int) - 1) * pPager.pageSize
    let write ← verixWrite env pPager.fd aData ofst w
    return ⟨write.1, { pPager with dbFileSize := max pPager.dbFileSize pgno }, write.2⟩
  else .ok ⟨.ok, pPager, w⟩

/-- The part of `pager_playback_one_page` that updates a page found in the page cache. -/
def playbackCache (pPager : Pager) (pPg : Option (List UInt8)) (pgno : Nat) (aData : List UInt8) :
    Pager :=
  if pPg.isSome then
    let cache := pPager.pPCache
    let page := fun i => if i = pgno then some aData else cache.page i
    let pPager := { pPager with pPCache := { cache with page := page } }
    if pgno = 1 then { pPager with dbFileVers := window aData 24 16 } else pPager
  else pPager

/-- The end of `pager_playback_one_page`, once the record is accepted. -/
def playbackPage (env : Env σ) (pPager : Pager) (pgno : Nat) (aData : List UInt8) (w : World σ) :
    Except Fault (PagerRet σ) := do
  let reserve := (aData[20]?.getD 0).toNat
  let pPager := if pgno = 1 ∧ pPager.nReserve ≠ reserve then { pPager with nReserve := reserve }
    else pPager
  let pPg := if PagerUseWal pPager then none else pPager.pPCache.page pgno
  let written ← playbackWrite env pPager pgno aData w
  return { written with pPager := playbackCache written.pPager pPg pgno aData }

/-- `pager_playback_one_page` for the main journal: read the record at `journalOff` and play the
page back. `SQLITE_DONE` means that the record is not valid. -/
def pagerPlaybackOnePage (env : Env σ) (pPager : Pager) (w : World σ) :
    Except Fault (PagerRet σ) :=
  let jfd := pPager.jfd
  let number := read32bits env jfd pPager.journalOff w
  if number.1 ≠ .ok then .ok ⟨number.1, pPager, number.2.2⟩
  else
    let page := sqlite3OsRead env jfd pPager.pageSize (pPager.journalOff + 4) number.2.2
    if page.1 ≠ .ok then .ok ⟨page.1, pPager, page.2.2⟩
    else
      let pPager := { pPager with journalOff := pPager.journalOff + pPager.pageSize + 4 + 4 }
      let pgno := number.2.1.toNat
      let aData := page.2.1
      if pgno = 0 ∨ pgno = pPager.mjPgno then .ok ⟨.done, pPager, page.2.2⟩
      else if pgno > pPager.dbSize then .ok ⟨.ok, pPager, page.2.2⟩
      else
        let cksum := read32bits env jfd (pPager.journalOff - 4) page.2.2
        if cksum.1 ≠ .ok then .ok ⟨cksum.1, pPager, cksum.2.2⟩
        else if pagerCksum pPager aData ≠ cksum.2.1 then .ok ⟨.done, pPager, cksum.2.2⟩
        else playbackPage env pPager pgno aData cksum.2.2

/-- Change the size of the database file to `nPage` pages. -/
def pagerTruncate (env : Env σ) (pPager : Pager) (nPage : Nat) (w : World σ) :
    Except Fault (PagerRet σ) :=
  if IsOpen pPager.fd ∧
      (PagerState.writerDbmod.rank ≤ pPager.eState.rank ∨ pPager.eState = .open) then
    let size := verixFileSize env pPager.fd 0 w
    let currentSize := size.2.1
    let szPage : Int := pPager.pageSize
    let newSize := szPage * nPage
    if size.1 = .ok ∧ currentSize ≠ newSize then do
      let changed ← (if currentSize > newSize then
          .ok (verixTruncate env pPager.fd newSize size.2.2)
        else if currentSize + szPage ≤ newSize then
          verixWrite env pPager.fd (List.replicate pPager.pageSize 0) (newSize - szPage) size.2.2
        else .ok (.ok, size.2.2))
      if changed.1 = .ok then return ⟨.ok, { pPager with dbFileSize := nPage }, changed.2⟩
      else return ⟨changed.1, pPager, changed.2⟩
    else return ⟨size.1, pPager, size.2.2⟩
  else return ⟨.ok, pPager, w⟩

/-- Close the sub-journal, unless the pager is in exclusive mode. -/
def releaseAllSavepoints (env : Env σ) (pPager : Pager) (w : World σ) : Pager × World σ :=
  if ¬ pPager.exclusiveMode then
    let closed := sqlite3OsClose env pPager.sjfd w
    ({ pPager with sjfd := closed.1 }, closed.2)
  else (pPager, w)

/-- Finalize an open journal, as the journal mode has it. -/
def finalizeJournal (env : Env σ) (pPager : Pager) (hasMaster : Bool) (w : World σ) :
    Except Fault (PagerRet σ) :=
  if pPager.journalMode = .truncate then
    let done : ResultCode × World σ :=
      if pPager.journalOff = 0 then (.ok, w)
      else
        let truncated := verixTruncate env pPager.jfd 0 w
        if truncated.1 = .ok ∧ pPager.fullSync then verixSync pPager.jfd truncated.2 else truncated
    .ok ⟨done.1, { pPager with journalOff := 0 }, done.2⟩
  else if pPager.journalMode = .persist ∨
      (pPager.exclusiveMode = true ∧ pPager.journalMode ≠ .wal) then do
    let zeroed ← zeroJournalHdr env pPager hasMaster w
    return ⟨zeroed.1, { pPager with journalOff := 0 }, zeroed.2⟩
  else
    let bDelete := !pPager.tempFile
    let closed := sqlite3OsClose env pPager.jfd w
    let pPager := { pPager with jfd := closed.1 }
    if bDelete then
      let deleted := verixDelete env pPager.zJournal closed.2
      .ok ⟨deleted.1, pPager, deleted.2⟩
    else .ok ⟨.ok, pPager, closed.2⟩

/-- A file control that the file system need not know. -/
def fileControlIfKnown (env : Env σ) (fd : VerixFile) (op : Int) (w : World σ) :
    ResultCode × World σ :=
  let control := verixFileControl env fd op () w
  (if control.1 = .notfound then .ok else control.1, control.2.2)

/-- End a transaction without a write-ahead log: finalize the journal and keep no more than a
shared lock. -/
def pagerEndTransaction (env : Env σ) (pPager : Pager) (hasMaster bCommit : Bool) (w : World σ) :
    Except Fault (PagerRet σ) :=
  if pPager.eState.rank < PagerState.writerLocked.rank ∧ pPager.eLock < .reserved then
    .ok ⟨.ok, pPager, w⟩
  else do
    let released := releaseAllSavepoints env pPager w
    let finalized ← (if IsOpen released.1.jfd then
        finalizeJournal env released.1 hasMaster released.2
      else .ok ⟨.ok, released.1, released.2⟩)
    let pPager : Pager := { finalized.pPager with
      nRec := 0
      pPCache := finalized.pPager.pPCache.truncate finalized.pPager.dbSize }
    let truncated ← (if finalized.rc = .ok ∧ bCommit = true ∧ pPager.dbFileSize > pPager.dbSize then
        pagerTruncate env pPager pPager.dbSize finalized.world
      else .ok ⟨finalized.rc, pPager, finalized.world⟩)
    let pPager := truncated.pPager
    let committed :=
      if truncated.rc = .ok ∧ bCommit = true ∧ IsOpen pPager.fd then
        fileControlIfKnown env pPager.fd fcntlCommitPhasetwo truncated.world
      else (truncated.rc, truncated.world)
    let unlocked : PagerRet σ :=
      if ¬ pPager.exclusiveMode then
        let unlocked := pagerUnlockDb env pPager .shared committed.2
        ⟨unlocked.1, { unlocked.2.1 with changeCountDone := false }, unlocked.2.2⟩
      else ⟨.ok, pPager, committed.2⟩
    return ⟨if committed.1 = .ok then unlocked.rc else committed.1,
      { unlocked.pPager with eState := .reader, setMaster := false }, unlocked.world⟩

/-- Sync the database file. -/
def sqlite3PagerSync (env : Env σ) (pPager : Pager) (w : World σ) : ResultCode × World σ :=
  let control := if IsOpen pPager.fd then fileControlIfKnown env pPager.fd fcntlSync w else (.ok, w)
  if control.1 = .ok ∧ ¬ pPager.noSync then verixSync pPager.fd control.2 else control

/-- The names in a master journal, each closed by a NUL; the last one may lack it. -/
def childJournals (zMasterJournal : List UInt8) : List CString :=
  let names := zMasterJournal.splitOn 0
  if names.getLast? = some [] then names.dropLast else names

/-- The loop of `pager_delmaster`: no child journal may still point at the master journal. The
flag says that the loop ran through. -/
def delmasterLoop (env : Env σ) (zMaster : CString) :
    List CString → World σ → Except Fault (ResultCode × Bool × World σ)
  | [], w => .ok (.ok, true, w)
  | zJournal :: rest, w =>
      let access := verixAccess env zJournal .exists w
      if access.1 ≠ .ok then .ok (access.1, false, access.2.2)
      else if access.2.1 then do
        let opened ← sqlite3OsOpen env zJournal .zeroed (openReadonly ||| openMainJournal)
          access.2.2
        if opened.rc ≠ .ok then return (opened.rc, false, opened.world)
        else
          let master := readMasterJournal env opened.file (mxPathname + 1) opened.world
          let closed := sqlite3OsClose env opened.file master.2.2
          if master.1 ≠ .ok then return (master.1, false, closed.2)
          else if master.2.1 ≠ [] ∧ master.2.1 = zMaster then return (.ok, false, closed.2)
          else delmasterLoop env zMaster rest closed.2
      else delmasterLoop env zMaster rest access.2.2

/-- Delete the master journal unless one of its child journals still points at it. -/
def pagerDelmaster (env : Env σ) (zMaster : CString) (w : World σ) :
    Except Fault (ResultCode × World σ) := do
  let opened ← sqlite3OsOpen env zMaster .zeroed (openReadonly ||| openMasterJournal) w
  if opened.rc ≠ .ok then return (opened.rc, (sqlite3OsClose env opened.file opened.world).2)
  else
    let pMaster := opened.file
    let size := verixFileSize env pMaster 0 opened.world
    if size.1 ≠ .ok then return (size.1, (sqlite3OsClose env pMaster size.2.2).2)
    else
      let read := sqlite3OsRead env pMaster (toInt size.2.1).toNat 0 size.2.2
      if read.1 ≠ .ok then return (read.1, (sqlite3OsClose env pMaster read.2.2).2)
      else
        let checked ← delmasterLoop env zMaster (childJournals read.2.1) read.2.2
        let closed := sqlite3OsClose env pMaster checked.2.2
        if checked.2.1 then return verixDelete env zMaster closed.2
        else return (checked.1, closed.2)

/-- `sqlite3SectorSize`. -/
def sqlite3SectorSize (env : Env σ) (pFile : VerixFile) (w : World σ) : Nat × World σ :=
  let size := verixSectorSize env pFile w
  (if size.1 < 32 then 512 else if size.1 > maxSectorSize.toNat then maxSectorSize.toNat
    else size.1.toNat, size.2)

/-- `setSectorSize`. -/
def setSectorSize (env : Env σ) (pPager : Pager) (w : World σ) : Pager × World σ :=
  if pPager.tempFile then ({ pPager with sectorSize := 512 }, w)
  else
    let characteristics := verixDeviceCharacteristics env pPager.fd w
    if characteristics.1.toNat &&& iocapPowersafeOverwrite ≠ 0 then
      ({ pPager with sectorSize := 512 }, characteristics.2)
    else
      let size := sqlite3SectorSize env pPager.fd characteristics.2
      ({ pPager with sectorSize := size.1 }, size.2)

/-! ## Playback -/

/-- How `pager_playback` gets to `end_playback`: the master journal is gone, there is no further
header, a record is cut off (which counts as the end of the journal), or an error is returned.
`more` is the end of a loop over records after which the next header is read. -/
inductive PlaybackExit where
  | more
  | notHot
  | endOfJournal
  | abandoned
  | failed (rc : ResultCode)
  deriving DecidableEq

/-- A loop of `pager_playback`: its end and what it leaves, and the pager and world in which it
read each record. -/
structure PlaybackRun (σ : Type) where
  exit : PlaybackExit
  pPager : Pager
  world : World σ
  needPagerReset : Bool
  records : List (Pager × World σ)

/-- The `for` loop over the records behind a header. -/
def playbackRecords (env : Env σ) (szJ : Int) :
    Nat → Bool → Pager → World σ → Except Fault (PlaybackRun σ)
  | 0, needPagerReset, pPager, w => .ok ⟨.more, pPager, w, needPagerReset, []⟩
  | nRec + 1, needPagerReset, pPager, w => do
      let pPager := if needPagerReset then pagerReset pPager else pPager
      let played ← pagerPlaybackOnePage env pPager w
      if played.rc = .ok then
        let rest ← playbackRecords env szJ nRec false played.pPager played.world
        return { rest with records := (pPager, w) :: rest.records }
      else if played.rc = .done then
        return ⟨.more, { played.pPager with journalOff := szJ }, played.world, false,
          [(pPager, w)]⟩
      else if played.rc = .ioerrShortRead then
        return ⟨.abandoned, played.pPager, played.world, false, [(pPager, w)]⟩
      else
        return ⟨.failed played.rc, played.pPager, played.world, false, [(pPager, w)]⟩

/-- The number of records behind the header just read. -/
def playbackCount (pPager : Pager) (isHot : Bool) (szJ : Int) (nRec : UInt32) : UInt32 :=
  let nRec := if nRec = 0xffffffff
    then UInt32.ofInt (toInt ((szJ - pPager.journalHdrSz).tdiv pPager.journalPgSz)) else nRec
  if nRec = 0 ∧ isHot = false ∧ pPager.journalHdr + pPager.journalHdrSz = pPager.journalOff
  then UInt32.ofInt (toInt ((szJ - pPager.journalOff).tdiv pPager.journalPgSz)) else nRec

/-- At the first header of the journal, truncate the database to its original size. -/
def playbackTruncate (env : Env σ) (hdr : JournalHdr σ) : Except Fault (PagerRet σ) :=
  if hdr.pPager.journalOff = hdr.pPager.journalHdrSz then do
    let mxPg := hdr.dbSize.toNat
    let truncated ← pagerTruncate env hdr.pPager mxPg hdr.world
    if truncated.rc = .ok then
      return { truncated with pPager := { truncated.pPager with dbSize := mxPg } }
    else return truncated
  else .ok ⟨.ok, hdr.pPager, hdr.world⟩

/-- The `while` loop over the headers of the journal. -/
def playbackHeaders (env : Env σ) (isHot : Bool) (szJ : Int) :
    Nat → Bool → Pager → World σ → Except Fault (PlaybackRun σ)
  | 0, _, _, _ => .error .unfinished
  | fuel + 1, needPagerReset, pPager, w => do
      let hdr := readJournalHdr env pPager isHot szJ w
      if hdr.rc = .done then
        return ⟨.endOfJournal, hdr.pPager, hdr.world, needPagerReset, []⟩
      else if hdr.rc ≠ .ok then
        return ⟨.failed hdr.rc, hdr.pPager, hdr.world, needPagerReset, []⟩
      else
        let nRec := playbackCount hdr.pPager isHot szJ hdr.nRec
        let truncated ← playbackTruncate env hdr
        if truncated.rc ≠ .ok then
          return ⟨.failed truncated.rc, truncated.pPager, truncated.world, needPagerReset, []⟩
        else
          let run ← playbackRecords env szJ nRec.toNat needPagerReset truncated.pPager
            truncated.world
          if run.exit = .more then
            let rest ← playbackHeaders env isHot szJ fuel run.needPagerReset run.pPager run.world
            return { rest with records := run.records ++ rest.records }
          else return run

/-- The code that a loop of `pager_playback` hands to `end_playback`. -/
def PlaybackExit.rc : PlaybackExit → ResultCode
  | .failed rc => rc
  | _ => .ok

/-- `pager_playback` from `end_playback` on: finalize the journal if all went well. -/
def endPlayback (env : Env σ) (pPager : Pager) (rc : ResultCode) (res : Bool) (w : World σ) :
    Except Fault (PagerRet σ) := do
  let pPager := { pPager with changeCountDone := pPager.tempFile }
  let master := if rc = .ok then readMasterJournal env pPager.jfd (mxPathname + 1) w
    else (rc, [], w)
  let zMaster := master.2.1
  let synced := if master.1 = .ok ∧
      (PagerState.writerDbmod.rank ≤ pPager.eState.rank ∨ pPager.eState = .open)
    then sqlite3PagerSync env pPager master.2.2 else (master.1, master.2.2)
  let ended ← (if synced.1 = .ok then pagerEndTransaction env pPager (zMaster ≠ []) false synced.2
    else .ok ⟨synced.1, pPager, synced.2⟩)
  let deleted ← (if ended.rc = .ok ∧ zMaster ≠ [] ∧ res then
      pagerDelmaster env zMaster ended.world
    else .ok (ended.rc, ended.world))
  let sized := setSectorSize env ended.pPager deleted.2
  return ⟨deleted.1, sized.1, sized.2⟩

/-- What `pager_playback` returns, and how it got there. -/
structure PlaybackRet (σ : Type) extends PagerRet σ where
  exit : PlaybackExit
  records : List (Pager × World σ)

/-- The start of `pager_playback`: if the journal names a master journal, whether that file is
still there. -/
def playbackMaster (env : Env σ) (pPager : Pager) (w : World σ) : ResultCode × Bool × World σ :=
  let master := readMasterJournal env pPager.jfd (mxPathname + 1) w
  if master.1 = .ok ∧ master.2.1 ≠ [] then verixAccess env master.2.1 .exists master.2.2
  else (master.1, true, master.2.2)

/-- `pager_playback`: restore the database from the journal. -/
def pagerPlayback (env : Env σ) (pPager : Pager) (isHot : Bool) (w : World σ) :
    Except Fault (PlaybackRet σ) := do
  let size := verixFileSize env pPager.jfd 0 w
  if size.1 ≠ .ok then
    let ended ← endPlayback env pPager size.1 true size.2.2
    return ⟨ended, .failed size.1, []⟩
  else
    let szJ := size.2.1
    let access := playbackMaster env pPager size.2.2
    if access.1 ≠ .ok then
      let ended ← endPlayback env pPager access.1 access.2.1 access.2.2
      return ⟨ended, .failed access.1, []⟩
    else if access.2.1 = false then
      let ended ← endPlayback env pPager .ok false access.2.2
      return ⟨ended, .notHot, []⟩
    else
      -- every turn of the loop moves `journalOff` past a header within the journal
      let run ← playbackHeaders env isHot szJ (szJ.toNat + 2) isHot { pPager with journalOff := 0 }
        access.2.2
      let ended ← endPlayback env run.pPager run.exit.rc true run.world
      return ⟨ended, run.exit, run.records⟩

end VxSqlite
