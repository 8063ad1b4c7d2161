import VxSqlite.Pager.Bitvec
import VxSqlite.Pager.DirtyList
import VxSqlite.Pager.JournalWrite
import VxSqlite.Pager.ReadError
import VxSqlite.Pager.SharedLock

/-!
# Writing to the database

The write side of the pager, from `sqlite3PagerBegin` to `sqlite3PagerCommitPhaseTwo` and
`sqlite3PagerRollback`, for a database in a file with a rollback journal in a file. Write-ahead
logs, savepoints, codecs, backups, mapped pages and failing allocations are left out, and so is
that a pager rolls back and unlocks by itself when its last page is given back. A page of the cache
is looked up by its number; which dirty page the cache gives up when it is full is left to
`victim`, and which clean pages leave it to `recycled`.
-/

namespace VxSqlite

/-- `SPILLFLAG_OFF | SPILLFLAG_ROLLBACK`. -/
def spillflagNever : Nat := 0x01 ||| 0x02

/-- `SPILLFLAG_NOSYNC`. -/
def spillflagNosync : Nat := 0x04

/-- `SQLITE_IOCAP_SEQUENTIAL`. -/
def iocapSequential : Nat := 0x400

/-- `SQLITE_FCNTL_SIZE_HINT`. -/
def fcntlSizeHint : Int := 5

/-- `SQLITE_FCNTL_HAS_MOVED`. -/
def fcntlHasMoved : Int := 20

/-- `SQLITE_VERSION_NUMBER`. -/
def sqliteVersionNumber : UInt32 := 3008011

/-- `PAGER_MAX_PGNO`. -/
def pagerMaxPgno : Nat := 2147483647

/-- A pager with the fields that only its write side uses. Of a cached page's header the flags
`PGHDR_NEED_SYNC` and `PGHDR_DONT_WRITE` are kept by number; `PGHDR_DIRTY` is the membership in
`pDirty`, the list of dirty pages from its head on. `refs` are the pages that are in use, each as
often as it is referenced. -/
structure Writer extends Pager where
  pInJournal : Bitvec
  dbOrigSize : Nat
  dbHintSize : Nat
  doNotSpill : Nat
  needSync : Nat → Bool
  dontWrite : Nat → Bool
  pDirty : List Nat
  refs : List Nat

/-- What a function that changes the writing pager leaves. -/
structure WriterRet (σ : Type) where
  rc : ResultCode
  writer : Writer
  world : World σ

/-- What the write side of the pager calls outside of its own code: the bytes that
`sqlite3_randomness` delivers, the dirty page that a full cache gives up, and the pages whose memory
it takes for another page. -/
structure WriterCallbacks (σ : Type) extends PagerCallbacks σ where
  randomness : Writer → UInt32
  victim : Writer → Option Nat
  recycled : Writer → List Nat

namespace Writer

/-- The pager's own fields, as a function of the pager has left them. -/
def put (p : Writer) (pPager : Pager) : Writer := { p with toPager := pPager }

/-- Set or clear `PGHDR_NEED_SYNC` on a page. -/
def setNeedSync (p : Writer) (pgno : Nat) (flag : Bool) : Writer :=
  { p with needSync := Function.update p.needSync pgno flag }

/-- Set or clear `PGHDR_DONT_WRITE` on a page. -/
def setDontWrite (p : Writer) (pgno : Nat) (flag : Bool) : Writer :=
  { p with dontWrite := Function.update p.dontWrite pgno flag }

/-- Store the data of a page in the cache. -/
def setData (p : Writer) (pgno : Nat) (pData : List UInt8) : Writer :=
  { p with pPCache := { p.pPCache with
      page := Function.update p.pPCache.page pgno (some pData) } }

/-- The data of a page of the cache. -/
def pData (p : Writer) (pgno : Nat) : List UInt8 := (p.pPCache.page pgno).getD []

end Writer

/-! ## The page cache -/

/-- `sqlite3PcacheMakeDirty`. -/
def sqlite3PcacheMakeDirty (p : Writer) (pgno : Nat) : Writer :=
  let p := p.setDontWrite pgno false
  if pgno ∈ p.pDirty then p else { p with pDirty := pgno :: p.pDirty }

/-- `pcacheUnpin`, for a page that has become clean: the cache keeps no page 1 that is not in
use. -/
def pcacheUnpin (p : Writer) (pgno : Nat) : Writer :=
  if pgno = 1 ∧ 1 ∉ p.refs then { p with pPCache := { p.pPCache with page1Ref := false } } else p

/-- `sqlite3PcacheMakeClean`. -/
def sqlite3PcacheMakeClean (p : Writer) (pgno : Nat) : Writer :=
  if pgno ∈ p.pDirty then
    pcacheUnpin { p.setNeedSync pgno false with pDirty := p.pDirty.erase pgno } pgno
  else p

/-- `sqlite3PcacheCleanAll`. -/
def sqlite3PcacheCleanAll (p : Writer) : Writer :=
  p.pDirty.foldl sqlite3PcacheMakeClean p

/-- `sqlite3PcacheClearSyncFlags`. -/
def sqlite3PcacheClearSyncFlags (p : Writer) : Writer :=
  { p with needSync := fun pgno => p.needSync pgno && pgno ∉ p.pDirty }

/-- `sqlite3PcacheDirtyList`. -/
def sqlite3PcacheDirtyList (p : Writer) : List Nat := pcacheSortDirtyList id p.pDirty

/-- Take a reference to a page of the cache. -/
def sqlite3PcacheRef (p : Writer) (pgno : Nat) : Writer :=
  { p with
    refs := pgno :: p.refs
    pPCache := { p.pPCache with
      nRefSum := if pgno ∈ p.refs then p.pPCache.nRefSum else p.pPCache.nRefSum + 1
      page1Ref := p.pPCache.page1Ref || pgno = 1 } }

/-- `pcacheFetchFinishWithInit`: take a reference to a page that is new to the cache. -/
def pcacheFetchFinishWithInit (p : Writer) (pgno : Nat) : Writer :=
  sqlite3PcacheRef ((p.setNeedSync pgno false).setDontWrite pgno false) pgno

/-- `sqlite3PcacheRelease`: a dirty page that is no longer in use moves to the head of the list. -/
def sqlite3PcacheRelease (p : Writer) (pgno : Nat) : Writer :=
  let p := { p with refs := p.refs.erase pgno }
  if pgno ∈ p.refs then p
  else
    let p := { p with pPCache := { p.pPCache with nRefSum := p.pPCache.nRefSum - 1 } }
    if pgno ∈ p.pDirty then { p with pDirty := pgno :: p.pDirty.erase pgno }
    else pcacheUnpin p pgno

/-- Pages leave the cache, which uses their memory for others: only pages that are clean and not in
use, which a later reader takes from the database file again. -/
def pcacheRecycle (p : Writer) (pages : List Nat) : Writer :=
  { p with pPCache := { p.pPCache with page := fun pgno =>
      if pgno ∈ pages ∧ pgno ∉ p.pDirty ∧ pgno ∉ p.refs then none else p.pPCache.page pgno } }

/-- `sqlite3PcacheDrop`. -/
def sqlite3PcacheDrop (p : Writer) (pgno : Nat) : Writer :=
  { p with
    refs := p.refs.erase pgno
    pDirty := p.pDirty.erase pgno
    needSync := Function.update p.needSync pgno false
    dontWrite := Function.update p.dontWrite pgno false
    pPCache := { p.pPCache with
      page := Function.update p.pPCache.page pgno none
      nRefSum := p.pPCache.nRefSum - 1
      page1Ref := p.pPCache.page1Ref && pgno ≠ 1 } }

/-! ## Making the journal safe -/

variable {σ : Type} (env : Env σ) (calls : WriterCallbacks σ)

/-- `pageInJournal`. -/
def pageInJournal (p : Writer) (pgno : Nat) : Except Fault Bool :=
  sqlite3BitvecTest p.pInJournal pgno

/-- `pager_error`. -/
def writerError (ret : WriterRet σ) : WriterRet σ :=
  { ret with writer := ret.writer.put (pagerError ret.writer.toPager ret.rc) }

/-- `sqlite3PagerExclusiveLock`. -/
def sqlite3PagerExclusiveLock (p : Writer) (w : World σ) : Except Fault (WriterRet σ) :=
  if PagerUseWal p.toPager then .ok ⟨.ok, p, w⟩
  else do
    let waited ← pagerWaitOnLock env calls.toPagerCallbacks p.toPager .exclusive w
    return ⟨waited.rc, p.put waited.pPager, waited.world⟩

/-- The start of the update of the journal's header in `syncJournal`: a header that an older
transaction has left right behind the journal is destroyed. -/
def hideNextHeader (p : Writer) (w : World σ) : Except Fault (ResultCode × World σ) :=
  let iNextHdrOffset := journalHdrOffset p.toPager
  let magic := sqlite3OsRead env p.jfd 8 iNextHdrOffset w
  if magic.1 = .ok ∧ magic.2.1 = aJournalMagic then
    verixWrite env p.jfd [0] iNextHdrOffset magic.2.2
  else .ok (magic.1, magic.2.2)

/-- The update of the journal's header in `syncJournal`, on a device that does not keep appended
data from being torn. -/
def markJournalHdr (iDc : Nat) (p : Writer) (w : World σ) :
    Except Fault (ResultCode × World σ) := do
  let hidden ← hideNextHeader env p w
  if hidden.1 ≠ .ok ∧ hidden.1 ≠ .ioerrShortRead then return hidden
  else
    let synced := if p.fullSync = true ∧ iDc &&& iocapSequential = 0 then
      verixSync p.jfd hidden.2 else (.ok, hidden.2)
    if synced.1 ≠ .ok then return synced
    else
      verixWrite env p.jfd (aJournalMagic ++ sqlite3Put4byte (UInt32.ofNat p.nRec)) p.journalHdr
        synced.2

/-- The part of `syncJournal` for a journal in a file: what was appended is made part of it, and a
new header is begun if the transaction goes on. -/
def syncJournalFile (p : Writer) (newHdr : Bool) (w : World σ) : Except Fault (WriterRet σ) := do
  let characteristics := verixDeviceCharacteristics env p.fd w
  let iDc := characteristics.1.toNat
  let marked ← (if iDc &&& iocapSafeAppend = 0 then markJournalHdr env iDc p characteristics.2
    else .ok (.ok, characteristics.2))
  if marked.1 ≠ .ok then return ⟨marked.1, p, marked.2⟩
  else
    let synced := if iDc &&& iocapSequential = 0 then verixSync p.jfd marked.2
      else (.ok, marked.2)
    if synced.1 ≠ .ok then return ⟨synced.1, p, synced.2⟩
    else
      let p := p.put { p.toPager with journalHdr := p.journalOff }
      if newHdr = true ∧ iDc &&& iocapSafeAppend = 0 then
        let p := p.put { p.toPager with nRec := 0 }
        let written ← writeJournalHdr env p.toPager p.dbOrigSize (calls.randomness p) synced.2
        return ⟨written.rc, p.put written.pPager, written.world⟩
      else return ⟨.ok, p, synced.2⟩

/-- Make the journal safe before the database file is written. -/
def syncJournal (p : Writer) (newHdr : Bool) (w : World σ) : Except Fault (WriterRet σ) := do
  let locked ← sqlite3PagerExclusiveLock env calls p w
  if locked.rc ≠ .ok then return locked
  else
    let p := locked.writer
    let synced ← (if p.noSync = false then
        if IsOpen p.jfd ∧ p.journalMode ≠ .memory then
          syncJournalFile env calls p newHdr locked.world
        else .ok ⟨.ok, p.put { p.toPager with journalHdr := p.journalOff }, locked.world⟩
      else .ok ⟨.ok, p, locked.world⟩)
    if synced.rc ≠ .ok then return synced
    else
      let p := sqlite3PcacheClearSyncFlags synced.writer
      return ⟨.ok, p.put { p.toPager with eState := .writerDbmod }, synced.world⟩

/-! ## Writing pages to the database file -/

/-- The data of page 1 with the change counter and the version number stored in it. -/
def changecounterData (pPager : Pager) (pData : List UInt8) : List UInt8 :=
  let changeCounter := sqlite3Put4byte (sqlite3Get4byte pPager.dbFileVers + 1)
  overlay (overlay (overlay pData 24 changeCounter) 92 changeCounter) 96
    (sqlite3Put4byte sqliteVersionNumber)

/-- `pager_write_changecounter`. -/
def pagerWriteChangecounter (p : Writer) : Writer :=
  p.setData 1 (changecounterData p.toPager (p.pData 1))

/-- The loop of `pager_write_pagelist`. -/
def writePages : List Nat → Writer → World σ → Except Fault (WriterRet σ)
  | [], p, w => .ok ⟨.ok, p, w⟩
  | pgno :: pList, p, w =>
      if pgno ≤ p.dbSize ∧ p.dontWrite pgno = false then do
        let offset := ((pgno : Int) - 1) * p.pageSize
        let p := if pgno = 1 then pagerWriteChangecounter p else p
        let pData := p.pData pgno
        let write ← verixWrite env p.fd pData offset w
        let p := if pgno = 1 then p.put { p.toPager with dbFileVers := window pData 24 16 } else p
        let p := p.put { p.toPager with dbFileSize := max p.dbFileSize pgno }
        if write.1 = .ok then writePages pList p write.2
        else return ⟨write.1, p, write.2⟩
      else writePages pList p w

/-- Write a list of dirty pages to the database file. -/
def pagerWritePagelist (p : Writer) (pList : List Nat) (w : World σ) :
    Except Fault (WriterRet σ) :=
  let hinted :=
    if p.dbHintSize < p.dbSize ∧
        (1 < pList.length ∨ pList.any (· > p.dbHintSize)) then
      ({ p with dbHintSize := p.dbSize }, (verixFileControl env p.fd fcntlSizeHint () w).2.2)
    else (p, w)
  writePages env pList hinted.1 hinted.2

/-- The end of `pagerStress`, behind the journal. -/
def stressWrite (pgno : Nat) (synced : WriterRet σ) : Except Fault (WriterRet σ) := do
  let written ← (if synced.rc = .ok then
      pagerWritePagelist env synced.writer [pgno] synced.world
    else .ok synced)
  let p := if written.rc = .ok then sqlite3PcacheMakeClean written.writer pgno
    else written.writer
  return writerError ⟨written.rc, p, written.world⟩

/-- Make a dirty page clean by writing it to the database file. -/
def pagerStress (p : Writer) (pgno : Nat) (w : World σ) : Except Fault (WriterRet σ) :=
  if p.errCode ≠ .ok then .ok ⟨.ok, p, w⟩
  else if p.doNotSpill ≠ 0 ∧
      (p.doNotSpill &&& spillflagNever ≠ 0 ∨ p.needSync pgno = true) then .ok ⟨.ok, p, w⟩
  else do
    let synced ← (if p.needSync pgno = true ∨ p.eState = .writerCachemod then
        syncJournal env calls p true w
      else .ok ⟨.ok, p, w⟩)
    stressWrite env pgno synced

/-! ## Taking pages into use -/

/-- The part of `sqlite3PcacheFetchStress` that gives up a dirty page: one that is not in use. -/
def pcacheSpill (p : Writer) (w : World σ) : Except Fault (WriterRet σ) :=
  match calls.victim p with
  | none => .ok ⟨.ok, p, w⟩
  | some victim =>
      if victim ∈ p.pDirty ∧ victim ∉ p.refs then do
        let stressed ← pagerStress env calls p victim w
        return if stressed.rc = .busy then { stressed with rc := .ok } else stressed
      else .ok ⟨.ok, p, w⟩

/-- `sqlite3PcacheFetch` and `sqlite3PcacheFetchStress`: a cache that is full makes a dirty page
clean, and `pcache1FetchStage2` takes the memory of pages that are clean and not in use. -/
def pcacheFetch (p : Writer) (w : World σ) : Except Fault (WriterRet σ) := do
  let spilled ← pcacheSpill env calls p w
  if spilled.rc ≠ .ok then return spilled
  else
    return { spilled with
      writer := pcacheRecycle spilled.writer (calls.recycled spilled.writer) }

/-- The part of `sqlite3PagerAcquire` that fills a page new to the cache. -/
def acquireNew (p : Writer) (pgno : Nat) (w : World σ) : ResultCode × Writer × World σ :=
  if pgno > pagerMaxPgno ∨ pgno = p.mjPgno then (.corrupt, p, w)
  else if p.dbSize < pgno ∨ ¬ IsOpen p.fd then
    if pgno > p.mxPgno then (.full, p, w)
    else (.ok, p.setData pgno (List.replicate p.pageSize 0), w)
  else
    let read := readDbPage env (fun _ w => (.ok, [], w)) p.toPager pgno 0 w
    (read.1, (p.put read.2.2.1).setData pgno read.2.1, read.2.2.2)

/-- `sqlite3PagerGet`: take a page into use, from the cache or from the database file. -/
def sqlite3PagerGet (p : Writer) (pgno : Nat) (w : World σ) : Except Fault (WriterRet σ) :=
  if pgno = 0 then .ok ⟨.corrupt, p, w⟩
  else
    let p := p.put { p.toPager with hasBeenUsed := true }
    if p.errCode ≠ .ok then .ok ⟨p.errCode, p, w⟩
    else if (p.pPCache.page pgno).isSome then .ok ⟨.ok, sqlite3PcacheRef p pgno, w⟩
    else do
      let fetched ← pcacheFetch env calls p w
      if fetched.rc ≠ .ok then return fetched
      else
        let acquired := acquireNew env (pcacheFetchFinishWithInit fetched.writer pgno) pgno
          fetched.world
        if acquired.1 ≠ .ok then
          return ⟨acquired.1, sqlite3PcacheDrop acquired.2.1 pgno, acquired.2.2⟩
        else return ⟨.ok, acquired.2.1, acquired.2.2⟩

/-! ## Journalling pages -/

/-- `databaseIsUnmoved`. The port's `verixFileControl` leaves `bHasMoved` as it is. -/
def databaseIsUnmoved (pPager : Pager) (w : World σ) : ResultCode × World σ :=
  if pPager.tempFile ∨ pPager.dbSize = 0 then (.ok, w)
  else
    let control := verixFileControl env pPager.fd fcntlHasMoved false w
    (if control.1 = .notfound then .ok else control.1, control.2.2)

/-- `SQLITE_OPEN_TEMP_JOURNAL`. -/
def openTempJournal : Nat := 0x1000

/-- The flags with which `pager_open_journal` opens the journal. -/
def journalOpenFlags (pPager : Pager) : Nat :=
  openReadwrite ||| openCreate |||
    (if pPager.tempFile then openDeleteonclose ||| openTempJournal else openMainJournal)

/-- The part of `pager_open_journal` that opens the file. -/
def openJournalFile (pPager : Pager) (w : World σ) : Except Fault (PagerRet σ) :=
  if ¬ IsOpen pPager.jfd then
    let unmoved := databaseIsUnmoved env pPager w
    if unmoved.1 = .ok then do
      let opened ← sqlite3OsOpen env pPager.zJournal pPager.jfd (journalOpenFlags pPager) unmoved.2
      return ⟨opened.rc, { pPager with jfd := opened.file }, opened.world⟩
    else .ok ⟨unmoved.1, pPager, unmoved.2⟩
  else .ok ⟨.ok, pPager, w⟩

/-- Open the journal and write its first header. -/
def pagerOpenJournal (p : Writer) (w : World σ) : Except Fault (WriterRet σ) :=
  if p.errCode ≠ .ok then .ok ⟨p.errCode, p, w⟩
  else do
    let opened : WriterRet σ ← (if ¬ PagerUseWal p.toPager ∧ p.journalMode ≠ .off then do
        let created := { p with pInJournal := sqlite3BitvecCreate p.dbSize }
        let opened ← openJournalFile env p.toPager w
        if opened.rc = .ok then do
          let pPager := { opened.pPager with
            nRec := 0, journalOff := 0, setMaster := false, journalHdr := 0 }
          let written ← writeJournalHdr env pPager p.dbOrigSize (calls.randomness p) opened.world
          return ⟨written.rc, created.put written.pPager, written.world⟩
        else return ⟨opened.rc, created.put opened.pPager, opened.world⟩
      else .ok ⟨.ok, p, w⟩)
    if opened.rc ≠ .ok then
      return { opened with writer := { opened.writer with pInJournal := .null } }
    else
      return { opened with
        writer := opened.writer.put { opened.writer.toPager with eState := .writerCachemod } }

/-- The part of `pager_write` for a page that is not journalled: it is appended to the journal, if
the database had it when the transaction began. -/
def journalPage (p : Writer) (pgno : Nat) (w : World σ) : Except Fault (WriterRet σ) :=
  if pgno ≤ p.dbOrigSize ∧ IsOpen p.jfd then do
    let p := p.setNeedSync pgno true
    let written ← writeJournalRecord env p.toPager pgno (p.pData pgno) w
    if written.rc ≠ .ok then return ⟨written.rc, p.put written.pPager, written.world⟩
    else
      let pInJournal ← sqlite3BitvecSet p.pInJournal pgno
      return ⟨.ok, { p.put written.pPager with pInJournal := pInJournal }, written.world⟩
  else if p.eState ≠ .writerDbmod then .ok ⟨.ok, p.setNeedSync pgno true, w⟩
  else .ok ⟨.ok, p, w⟩

/-- The end of `pager_write`, with the journal open. -/
def writeJournalled (p : Writer) (pgno : Nat) (w : World σ) : Except Fault (WriterRet σ) := do
  let p := sqlite3PcacheMakeDirty p pgno
  let inJournal ← pageInJournal p pgno
  let journalled ← (if inJournal = false ∧ ¬ PagerUseWal p.toPager then journalPage env p pgno w
    else .ok ⟨.ok, p, w⟩)
  if journalled.rc ≠ .ok then return journalled
  else
    let p := journalled.writer
    return { journalled with writer := p.put { p.toPager with dbSize := max p.dbSize pgno } }

/-- `pager_write`: make a page in use writable. -/
def pagerWrite (p : Writer) (pgno : Nat) (w : World σ) : Except Fault (WriterRet σ) := do
  let opened ← (if p.eState = .writerLocked then pagerOpenJournal env calls p w
    else .ok ⟨.ok, p, w⟩)
  if opened.rc ≠ .ok then return opened
  else writeJournalled env opened.writer pgno opened.world

/-- The first loop of `pagerWriteLargeSector`, over the pages of a sector; the flag says whether
one of them needs the journal synced. -/
def writeSectorPages (pgno : Nat) :
    List Nat → Bool → Writer → World σ → Except Fault (WriterRet σ × Bool)
  | [], needSync, p, w => .ok (⟨.ok, p, w⟩, needSync)
  | pg :: pages, needSync, p, w => do
      let inJournal ← pageInJournal p pg
      if pg = pgno ∨ inJournal = false then
        if pg ≠ p.mjPgno then
          let acquired ← sqlite3PagerGet env calls p pg w
          if acquired.rc ≠ .ok then return (acquired, needSync)
          else
            let written ← pagerWrite env calls acquired.writer pg acquired.world
            let needSync := needSync || written.writer.needSync pg
            let released := { written with writer := sqlite3PcacheRelease written.writer pg }
            if released.rc ≠ .ok then return (released, needSync)
            else writeSectorPages pgno pages needSync released.writer released.world
        else writeSectorPages pgno pages needSync p w
      else if (p.pPCache.page pg).isSome then
        -- looked up in the cache and released again
        writeSectorPages pgno pages (needSync || p.needSync pg)
          (sqlite3PcacheRelease (sqlite3PcacheRef p pg) pg) w
      else writeSectorPages pgno pages needSync p w

/-- A turn of the second loop of `pagerWriteLargeSector`. -/
def markSectorPage (p : Writer) (pg : Nat) : Writer :=
  if (p.pPCache.page pg).isSome then
    sqlite3PcacheRelease ((sqlite3PcacheRef p pg).setNeedSync pg true) pg
  else p

/-- The pages of the sector of page `pgno` that `pagerWriteLargeSector` journals. -/
def sectorPages (p : Writer) (pgno : Nat) : List Nat :=
  let nPagePerSector := p.sectorSize / p.pageSize
  let pg1 := (pgno - 1) / nPagePerSector * nPagePerSector + 1
  let nPage :=
    if pgno > p.dbSize then pgno - pg1 + 1
    else if pg1 + nPagePerSector - 1 > p.dbSize then p.dbSize + 1 - pg1
    else nPagePerSector
  (List.range nPage).map (pg1 + ·)

/-- `pagerWriteLargeSector`: make a page writable where a sector holds several pages. -/
def pagerWriteLargeSector (p : Writer) (pgno : Nat) (w : World σ) : Except Fault (WriterRet σ) := do
  let pages := sectorPages p pgno
  let p := { p with doNotSpill := p.doNotSpill ||| spillflagNosync }
  let (written, needSync) ← writeSectorPages env calls pgno pages false p w
  let p := if written.rc = .ok ∧ needSync = true then pages.foldl markSectorPage written.writer
    else written.writer
  return { written with writer :=
    { p with doNotSpill := p.doNotSpill - (p.doNotSpill &&& spillflagNosync) } }

/-- `sqlite3PagerWrite`. -/
def sqlite3PagerWrite (p : Writer) (pgno : Nat) (w : World σ) : Except Fault (WriterRet σ) :=
  if p.sectorSize > p.pageSize then pagerWriteLargeSector env calls p pgno w
  else pagerWrite env calls p pgno w

/-- `sqlite3PagerDontWrite`. -/
def sqlite3PagerDontWrite (p : Writer) (pgno : Nat) : Writer :=
  if pgno ∈ p.pDirty then p.setDontWrite pgno true else p

/-! ## Transactions -/

/-- Begin a write transaction, with an exclusive lock if `exFlag` is set. -/
def sqlite3PagerBegin (p : Writer) (exFlag : Bool) (w : World σ) : Except Fault (WriterRet σ) :=
  if p.errCode ≠ .ok then .ok ⟨p.errCode, p, w⟩
  else if p.eState = .reader then
    let reserved := pagerLockDb env p.toPager .reserved w
    if reserved.1 ≠ .ok then .ok ⟨reserved.1, p.put reserved.2.1, reserved.2.2⟩
    else do
      let locked ← (if exFlag then
          pagerWaitOnLock env calls.toPagerCallbacks reserved.2.1 .exclusive reserved.2.2
        else .ok ⟨.ok, reserved.2.1, reserved.2.2⟩)
      if locked.rc ≠ .ok then return ⟨locked.rc, p.put locked.pPager, locked.world⟩
      else
        let pPager := { locked.pPager with
          eState := .writerLocked
          dbFileSize := locked.pPager.dbSize
          journalOff := 0 }
        return ⟨.ok, { p.put pPager with
          dbHintSize := pPager.dbSize, dbOrigSize := pPager.dbSize }, locked.world⟩
  else .ok ⟨.ok, p, w⟩

/-- Count the change of the database on page 1, once in a transaction. -/
def pagerIncrChangecounter (p : Writer) (w : World σ) : Except Fault (WriterRet σ) :=
  if p.changeCountDone = false ∧ 0 < p.dbSize then do
    let acquired ← sqlite3PagerGet env calls p 1 w
    if acquired.rc ≠ .ok then return acquired
    else
      let written ← sqlite3PagerWrite env calls acquired.writer 1 acquired.world
      let p :=
        if written.rc = .ok then
          let p := pagerWriteChangecounter written.writer
          p.put { p.toPager with changeCountDone := true }
        else written.writer
      return { written with writer := sqlite3PcacheRelease p 1 }
  else .ok ⟨.ok, p, w⟩

/-- The part of `sqlite3PagerCommitPhaseOne` behind the journal: write the dirty pages, and make
the file as large as the database. -/
def commitPages (p : Writer) (w : World σ) : Except Fault (WriterRet σ) := do
  let written ← pagerWritePagelist env p (sqlite3PcacheDirtyList p) w
  if written.rc ≠ .ok then return written
  else
    let p := sqlite3PcacheCleanAll written.writer
    if p.dbSize > p.dbFileSize then
      let nNew := p.dbSize - (if p.dbSize = p.mjPgno then 1 else 0)
      let grown ← pagerTruncate env p.toPager nNew written.world
      return ⟨grown.rc, p.put grown.pPager, grown.world⟩
    else return ⟨.ok, p, written.world⟩

/-- Write the transaction to the database file, up to where only the journal stands in the way of
its being committed. -/
def sqlite3PagerCommitPhaseOne (p : Writer) (zMaster : Option CString) (noSync : Bool)
    (w : World σ) : Except Fault (WriterRet σ) :=
  if p.errCode ≠ .ok then .ok ⟨p.errCode, p, w⟩
  else if p.eState.rank < PagerState.writerCachemod.rank then .ok ⟨.ok, p, w⟩
  else do
    let counted ← pagerIncrChangecounter env calls p w
    if counted.rc ≠ .ok then return counted
    else
      let master ← writeMasterJournal env counted.writer.toPager zMaster counted.world
      let p := counted.writer.put master.pPager
      if master.rc ≠ .ok then return ⟨master.rc, p, master.world⟩
      else
        let synced ← syncJournal env calls p false master.world
        if synced.rc ≠ .ok then return synced
        else
          let paged ← commitPages env synced.writer synced.world
          if paged.rc ≠ .ok then return paged
          else
            let finished := if noSync then (.ok, paged.world)
              else sqlite3PagerSync env paged.writer.toPager paged.world
            if finished.1 ≠ .ok then return ⟨finished.1, paged.writer, finished.2⟩
            else
              return ⟨.ok, paged.writer.put { paged.writer.toPager with eState := .writerFinished },
                finished.2⟩

/-- What the end of a transaction leaves of the write side. -/
def Writer.ended (p : Writer) (pPager : Pager) : Writer :=
  { (sqlite3PcacheCleanAll p).put pPager with pInJournal := .null }

/-- `pager_end_transaction`. The pages are made clean before the cache is truncated, and nothing
in between looks at the cache. -/
def writerEndTransaction (p : Writer) (hasMaster bCommit : Bool) (w : World σ) :
    Except Fault (WriterRet σ) :=
  if p.eState.rank < PagerState.writerLocked.rank ∧ p.eLock < .reserved then .ok ⟨.ok, p, w⟩
  else do
    let ended ← pagerEndTransaction env (sqlite3PcacheCleanAll p).toPager hasMaster bCommit w
    return ⟨ended.rc, p.ended ended.pPager, ended.world⟩

/-- Finalize the journal, which commits the transaction. -/
def sqlite3PagerCommitPhaseTwo (p : Writer) (w : World σ) : Except Fault (WriterRet σ) :=
  if p.errCode ≠ .ok then .ok ⟨p.errCode, p, w⟩
  else if p.eState = .writerLocked ∧ p.exclusiveMode = true ∧ p.journalMode = .persist then
    .ok ⟨.ok, p.put { p.toPager with eState := .reader }, w⟩
  else do
    let ended ← writerEndTransaction env p p.setMaster true w
    return writerError ended

/-- Undo the transaction. -/
def sqlite3PagerRollback (p : Writer) (w : World σ) : Except Fault (WriterRet σ) :=
  if p.eState = .error then .ok ⟨p.errCode, p, w⟩
  else if p.eState.rank ≤ PagerState.reader.rank then .ok ⟨.ok, p, w⟩
  else if p.eState = .writerLocked then do
    let ended ← writerEndTransaction env p false false w
    return writerError ended
  else do
    let played ← pagerPlayback env (sqlite3PcacheCleanAll p).toPager false w
    -- the state `READER` tells that the end of the transaction was reached
    let p := if played.pPager.eState = .reader then p.ended played.pPager
      else p.put played.pPager
    return writerError ⟨played.rc, p, played.world⟩

end VxSqlite
