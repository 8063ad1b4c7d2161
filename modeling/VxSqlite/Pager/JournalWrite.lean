import VxSqlite.Pager.Journal

/-!
# Writing a journal

The functions of the pager that write the three parts of a rollback journal: its headers, its
records and the name of a master journal. They are the counterparts of `readJournalHdr`,
`pagerPlaybackOnePage` and `readMasterJournal`. Savepoints, codecs and in-memory journals are left
out. The size of the database before the transaction and the four bytes that `sqlite3_randomness`
delivers are arguments here.
-/

namespace VxSqlite

/-- `SQLITE_IOCAP_SAFE_APPEND`. -/
def iocapSafeAppend : Nat := 0x200

/-- `sqlite3Put4byte`. -/
def sqlite3Put4byte (v : UInt32) : List UInt8 :=
  [(v >>> 24).toUInt8, (v >>> 16).toUInt8, (v >>> 8).toUInt8, v.toUInt8]

variable {σ : Type}

/-- Write a big-endian integer. -/
def write32bits (env : Env σ) (fd : VerixFile) (offset : Int) (val : UInt32) (w : World σ) :
    Except Fault (ResultCode × World σ) :=
  verixWrite env fd (sqlite3Put4byte val) offset w

/-- The first twelve bytes of a header: the magic string and the count of records. Where a torn
journal could be taken for a whole one they are zero, and filled in by `syncJournal`. -/
def journalHdrStart (env : Env σ) (pPager : Pager) (w : World σ) : List UInt8 × World σ :=
  let marked := aJournalMagic ++ sqlite3Put4byte 0xffffffff
  if pPager.noSync = true ∨ pPager.journalMode = .memory then (marked, w)
  else
    let characteristics := verixDeviceCharacteristics env pPager.fd w
    (if characteristics.1.toNat &&& iocapSafeAppend ≠ 0 then marked else List.replicate 12 0,
      characteristics.2)

/-- The buffer `zHeader` that `writeJournalHdr` builds, of `nHeader` bytes. -/
def journalHdrBuffer (pPager : Pager) (start : List UInt8) (dbOrigSize nHeader : Nat) :
    List UInt8 :=
  start ++ sqlite3Put4byte pPager.cksumInit ++ sqlite3Put4byte (UInt32.ofNat dbOrigSize) ++
    sqlite3Put4byte (UInt32.ofNat pPager.sectorSize) ++
    sqlite3Put4byte (UInt32.ofNat pPager.pageSize) ++ List.replicate (nHeader - 28) 0

/-- The loop of `writeJournalHdr`, which fills the header's sector; `nWrite` bytes are written. -/
def journalHdrLoop (env : Env σ) (zHeader : List UInt8) :
    Nat → Nat → Pager → World σ → Except Fault (PagerRet σ)
  | 0, _, _, _ => .error .unfinished
  | fuel + 1, nWrite, pPager, w =>
      if (nWrite : Int) < pPager.journalHdrSz then do
        let write ← verixWrite env pPager.jfd zHeader pPager.journalOff w
        let pPager := { pPager with journalOff := pPager.journalOff + zHeader.length }
        if write.1 = .ok then
          journalHdrLoop env zHeader fuel (nWrite + zHeader.length) pPager write.2
        else return ⟨write.1, pPager, write.2⟩
      else .ok ⟨.ok, pPager, w⟩

/-- Write a header at the next sector boundary of the journal. -/
def writeJournalHdr (env : Env σ) (pPager : Pager) (dbOrigSize : Nat) (randomness : UInt32)
    (w : World σ) : Except Fault (PagerRet σ) :=
  let nHeader := min pPager.pageSize pPager.sectorSize
  let iHdrOff := journalHdrOffset pPager
  let start := journalHdrStart env pPager w
  let pPager :=
    { pPager with journalHdr := iHdrOff, journalOff := iHdrOff, cksumInit := randomness }
  journalHdrLoop env (journalHdrBuffer pPager start.1 dbOrigSize nHeader) (pPager.sectorSize + 1) 0
    pPager start.2

/-- The part of `pager_write` that appends a page to the journal. -/
def writeJournalRecord (env : Env σ) (pPager : Pager) (pgno : Nat) (pData : List UInt8)
    (w : World σ) : Except Fault (PagerRet σ) := do
  let iOff := pPager.journalOff
  let number ← write32bits env pPager.jfd iOff (UInt32.ofNat pgno) w
  if number.1 ≠ .ok then return ⟨number.1, pPager, number.2⟩
  else
    let page ← verixWrite env pPager.jfd pData (iOff + 4) number.2
    if page.1 ≠ .ok then return ⟨page.1, pPager, page.2⟩
    else
      let cksum ← write32bits env pPager.jfd (iOff + pPager.pageSize + 4)
        (pagerCksum pPager pData) page.2
      if cksum.1 ≠ .ok then return ⟨cksum.1, pPager, cksum.2⟩
      else
        return ⟨.ok, { pPager with
          journalOff := pPager.journalOff + (8 + pPager.pageSize)
          nRec := pPager.nRec + 1 }, cksum.2⟩

/-- The writes of `writeMasterJournal`, one after the other. -/
def writeMasterRecord (env : Env σ) (pPager : Pager) (zMaster : CString) (iHdrOff : Int)
    (w : World σ) : Except Fault (ResultCode × World σ) := do
  let nMaster := zMaster.length
  let number ← write32bits env pPager.jfd iHdrOff (UInt32.ofNat pPager.mjPgno) w
  if number.1 ≠ .ok then return number
  else
    let name ← verixWrite env pPager.jfd zMaster (iHdrOff + 4) number.2
    if name.1 ≠ .ok then return name
    else
      let len ← write32bits env pPager.jfd (iHdrOff + 4 + nMaster) (UInt32.ofNat nMaster) name.2
      if len.1 ≠ .ok then return len
      else
        let cksum ← write32bits env pPager.jfd (iHdrOff + 4 + nMaster + 4) (masterCksum zMaster)
          len.2
        if cksum.1 ≠ .ok then return cksum
        else verixWrite env pPager.jfd aJournalMagic (iHdrOff + 4 + nMaster + 8) cksum.2

/-- Write the name of the master journal, if there is one, as the last thing in the journal. -/
def writeMasterJournal (env : Env σ) (pPager : Pager) (zMaster : Option CString) (w : World σ) :
    Except Fault (PagerRet σ) :=
  match zMaster with
  | none => .ok ⟨.ok, pPager, w⟩
  | some zMaster =>
      if pPager.journalMode = .memory ∨ ¬ IsOpen pPager.jfd then .ok ⟨.ok, pPager, w⟩
      else do
        let pPager := { pPager with setMaster := true }
        let pPager := if pPager.fullSync then
          { pPager with journalOff := journalHdrOffset pPager } else pPager
        let written ← writeMasterRecord env pPager zMaster pPager.journalOff w
        if written.1 ≠ .ok then return ⟨written.1, pPager, written.2⟩
        else
          let pPager := { pPager with
            journalOff := pPager.journalOff + (zMaster.length + 20) }
          -- what a persistent journal holds behind the name would hide it
          let size := verixFileSize env pPager.jfd 0 written.2
          if size.1 = .ok ∧ size.2.1 > pPager.journalOff then
            let truncated := verixTruncate env pPager.jfd pPager.journalOff size.2.2
            return ⟨truncated.1, pPager, truncated.2⟩
          else return ⟨size.1, pPager, size.2.2⟩

end VxSqlite
