import VxSqlite.Verix.Vfs

/-!
# The pager's record and its lock

The fields of SQLite's `Pager` that the modelled functions use, and the two functions through
which the pager changes the lock on the database file. A function that changes the pager
returns the changed record. The record keeps its own account of the lock in `eLock`; the
system's lock is only reached through `verixLock` and `verixUnlock`.
-/

namespace VxSqlite

/-- The lock levels of `Pager.eLock`. -/
inductive LockLevel where
  | noLock
  | shared
  | reserved
  | pending
  | exclusive
  | unknown
  deriving DecidableEq, Repr

/-- The number behind a lock level, by which the pager compares levels. -/
def LockLevel.rank : LockLevel → Nat
  | .noLock => 0
  | .shared => 1
  | .reserved => 2
  | .pending => 3
  | .exclusive => 4
  | .unknown => 5

instance : LE LockLevel := ⟨fun a b => a.rank ≤ b.rank⟩

instance : LT LockLevel := ⟨fun a b => a.rank < b.rank⟩

instance (a b : LockLevel) : Decidable (a ≤ b) := inferInstanceAs (Decidable (a.rank ≤ b.rank))

instance (a b : LockLevel) : Decidable (a < b) := inferInstanceAs (Decidable (a.rank < b.rank))

theorem LockLevel.not_le {a b : LockLevel} : ¬ a ≤ b ↔ b < a := Nat.not_le

theorem LockLevel.not_lt {a b : LockLevel} : ¬ a < b ↔ b ≤ a := Nat.not_lt

/-- Every level but `NO_LOCK` is at least `SHARED_LOCK`. -/
theorem LockLevel.shared_le_iff {level : LockLevel} : .shared ≤ level ↔ level ≠ .noLock := by
  cases level <;> decide

theorem LockLevel.shared_le_of_reserved_le {level : LockLevel} (h : .reserved ≤ level) :
    .shared ≤ level :=
  (Nat.le_succ 1).trans h

/-- The states of `Pager.eState`. -/
inductive PagerState where
  | open
  | reader
  | writerLocked
  | writerCachemod
  | writerDbmod
  | writerFinished
  | error
  deriving DecidableEq, Repr

/-- The number behind a pager state. -/
def PagerState.rank : PagerState → Nat
  | .open => 0
  | .reader => 1
  | .writerLocked => 2
  | .writerCachemod => 3
  | .writerDbmod => 4
  | .writerFinished => 5
  | .error => 6

/-- The values of `Pager.journalMode`. -/
inductive JournalMode where
  | delete
  | persist
  | off
  | truncate
  | memory
  | wal
  deriving DecidableEq, Repr

/-- The number behind a journal mode. -/
def JournalMode.code : JournalMode → Nat
  | .delete => 0
  | .persist => 1
  | .off => 2
  | .truncate => 3
  | .memory => 4
  | .wal => 5

/-- The page cache: the pages it holds, how many references to them are out, and whether one of
them is to page 1. -/
structure PCache where
  page : Nat → Option (List UInt8)
  nRefSum : Nat
  page1Ref : Bool

/-- `sqlite3PcacheTruncate`: drop the pages behind `pgno`; a referenced page 1 is zeroed and
kept. -/
def PCache.truncate (cache : PCache) (pgno : Nat) : PCache :=
  if pgno = 0 ∧ cache.page1Ref = true then
    { cache with page := fun i =>
        if i = 1 then (cache.page 1).map fun data => List.replicate data.length 0 else none }
  else { cache with page := fun i => if i ≤ pgno then cache.page i else none }

/-- `sqlite3PcacheClear`. -/
def PCache.clear (cache : PCache) : PCache := cache.truncate 0

/-- A pager on a database that is not in memory. `pWal` says whether a write-ahead log is
open. -/
structure Pager where
  exclusiveMode : Bool
  journalMode : JournalMode
  noSync : Bool
  fullSync : Bool
  tempFile : Bool
  noLock : Bool
  readOnly : Bool
  eState : PagerState
  eLock : LockLevel
  changeCountDone : Bool
  setMaster : Bool
  hasBeenUsed : Bool
  dbSize : Nat
  dbFileSize : Nat
  errCode : ResultCode
  nRec : Nat
  cksumInit : UInt32
  fd : VerixFile
  jfd : VerixFile
  sjfd : VerixFile
  journalOff : Int
  journalHdr : Int
  dbFileVers : List UInt8
  nReserve : Nat
  sectorSize : Nat
  pageSize : Nat
  mxPgno : Nat
  journalSizeLimit : Int
  zFilename : CString
  zJournal : CString
  zWal : CString
  pPCache : PCache
  pWal : Bool

/-- The pager that `sqlite3PagerOpen` leaves on a database file with no special options; the page
size is the sector size of the port. -/
def Pager.opened (fd : VerixFile) (zFilename : CString) : Pager where
  exclusiveMode := false
  journalMode := .delete
  noSync := false
  fullSync := true
  tempFile := false
  noLock := false
  readOnly := false
  eState := .open
  eLock := .noLock
  changeCountDone := false
  setMaster := false
  hasBeenUsed := false
  dbSize := 0
  dbFileSize := 0
  errCode := .ok
  nRec := 0
  cksumInit := 0
  fd := fd
  jfd := .zeroed
  sjfd := .zeroed
  journalOff := 0
  journalHdr := 0
  dbFileVers := List.replicate 16 0
  nReserve := 0
  sectorSize := 4096
  pageSize := 4096
  mxPgno := 1073741823
  journalSizeLimit := -1
  zFilename := zFilename
  zJournal := zFilename ++ ascii "-journal"
  zWal := zFilename ++ ascii "-wal"
  pPCache := ⟨fun _ => none, 0, false⟩
  pWal := false

/-- `isOpen(pFd)`. -/
def IsOpen (pFd : VerixFile) : Prop := pFd.pMethod = true

instance (pFd : VerixFile) : Decidable (IsOpen pFd) := inferInstanceAs (Decidable (_ = _))

/-- `pagerUseWal(pPager)`. -/
def PagerUseWal (pPager : Pager) : Prop := pPager.pWal = true

instance (pPager : Pager) : Decidable (PagerUseWal pPager) := inferInstanceAs (Decidable (_ = _))

variable {σ : Type}

/-- Unlock the database file to `eLock`, which is `NO_LOCK` or `SHARED_LOCK`. Whether or not
the system succeeds, `Pager.eLock` is set, unless it is `UNKNOWN_LOCK`. -/
def pagerUnlockDb (env : Env σ) (pPager : Pager) (eLock : LockLevel) (w : World σ) :
    ResultCode × Pager × World σ :=
  if IsOpen pPager.fd then
    let unlocked := if pPager.noLock then (.ok, w) else verixUnlock env pPager.fd w
    if pPager.eLock ≠ .unknown then
      (unlocked.1, { pPager with eLock := eLock }, unlocked.2)
    else (unlocked.1, pPager, unlocked.2)
  else (.ok, pPager, w)

/-- Lock the database file to `eLock`, which is `SHARED_LOCK`, `RESERVED_LOCK` or
`EXCLUSIVE_LOCK`. On success `Pager.eLock` is set, unless it is `UNKNOWN_LOCK` and the lock
asked for is not exclusive. -/
def pagerLockDb (env : Env σ) (pPager : Pager) (eLock : LockLevel) (w : World σ) :
    ResultCode × Pager × World σ :=
  if pPager.eLock < eLock ∨ pPager.eLock = .unknown then
    let locked := if pPager.noLock then (.ok, w) else verixLock env pPager.fd w
    if locked.1 = .ok ∧ (pPager.eLock ≠ .unknown ∨ eLock = .exclusive) then
      (locked.1, { pPager with eLock := eLock }, locked.2)
    else (locked.1, pPager, locked.2)
  else (.ok, pPager, w)

/-! ## The pager's calls of the file system -/

/-- `sqlite3OsRead`: the result code and the `amt` bytes it leaves in the caller's buffer. Every
return of `verixRead` has stored all of them. -/
def sqlite3OsRead (env : Env σ) (id : VerixFile) (amt : Nat) (offset : Int) (w : World σ) :
    ResultCode × List UInt8 × World σ :=
  let read := verixRead env id (.untouched fun _ => 0) amt offset w
  (read.1, read.2.1.contents amt, read.2.2)

/-- `sqlite3OsClose`, whose result the pager does not look at. -/
def sqlite3OsClose (env : Env σ) (pId : VerixFile) (w : World σ) : VerixFile × World σ :=
  if IsOpen pId then ({ pId with pMethod := false }, (verixClose env pId w).2) else (pId, w)

/-- `sqlite3OsOpen`: only some of the flags are passed down. -/
def sqlite3OsOpen (env : Env σ) (zPath : CString) (pFile : VerixFile) (flags : Nat)
    (w : World σ) : Except Fault (Opened σ) :=
  verixOpen env (some zPath) pFile (flags &&& 0x87f7f) w

/-- What a function that changes the pager leaves. -/
structure PagerRet (σ : Type) where
  rc : ResultCode
  pPager : Pager
  world : World σ

end VxSqlite
