import VxSqlite.Lib.Buffer
import VxSqlite.Os
import VxSqlite.ResultCode

/-!
# The I/O methods of the port

The functions of `verix.c` behind `verixIoMethod`, each after its C text: the system calls, the
places of `LOG_PRINTF` and of `last_errno = errno`, and the results in the order in which the
source has them. A `verixFile` is a value here; the caller keeps it. Offsets and sizes are
64-bit values that the port narrows to `int`.
-/

namespace VxSqlite

/-- The port's `verixFile`. `pMethod` says whether the method pointer is set, that is, whether
SQLite takes the file for open; `temporary` is the flag `temporary==1`. -/
structure VerixFile where
  pMethod : Bool
  h : Int
  temporary : Bool
  filename : CString
  deriving DecidableEq

/-- A file object whose memory has been zeroed. -/
def VerixFile.zeroed : VerixFile := ⟨false, 0, false, []⟩

/-- `(int)x` on the terminal. -/
abbrev toInt (x : Int) : Int := narrow 32 x

variable {σ : Type}

/-- Close a file, and remove it if it was opened to be deleted on close. -/
def verixClose (env : Env σ) (pFile : VerixFile) (w : World σ) : ResultCode × World σ :=
  let closed := env.sys (.close pFile.h) w
  if closed.value ≠ 0 then
    (.ioerr, closed.world.saveErrno)
  else
    let removed := if pFile.temporary then env.sys (.remove pFile.filename) closed.world else closed
    let w := env.logPrintf removed.world
    if removed.value = 0 then (.ok, w) else (.ioerr, w.saveErrno)

/-- The count that `read()` returns. -/
def readCount : Option (List UInt8) → Int
  | none => -1
  | some bytes => bytes.length

/-- Read `amt` bytes at `offset` into the buffer. -/
def verixRead (env : Env σ) (pFile : VerixFile) (pBuf : Buffer UInt8) (amt offset : Int)
    (w : World σ) : ResultCode × Buffer UInt8 × World σ :=
  let ls := env.sys (.lseek pFile.h (toInt offset)) w
  if ls.value = -1 then
    (.ioerrShortRead, pBuf.memset 0 0 amt, env.logPrintf ls.world.saveErrno)
  else
    let reply := env.sys (.read pFile.h amt) ls.world
    -- what the system copied is in the buffer, whatever count it returned
    let pBuf := pBuf.memcpy 0 (reply.value.getD [])
    let rd := readCount reply.value
    if rd = amt then
      (.ok, pBuf, env.logPrintf reply.world)
    else
      (.ioerrShortRead, pBuf.memset rd 0 (amt - rd), (env.logPrintf reply.world).saveErrno)

/-- The loop of `verixWrite`: hand the rest of the buffer to `write()` until none is left. -/
def verixWriteLoop (env : Env σ) (h : Int) :
    Nat → List UInt8 → World σ → Except Fault (ResultCode × World σ)
  | _, [], w => .ok (.ok, env.logPrintf w)
  | 0, _ :: _, _ => .error .unfinished
  | fuel + 1, byte :: rest, w =>
      let written := env.sys (.write h (byte :: rest)) w
      match written.value with
      | none => .ok (.ioerrWrite, env.logPrintf written.world.saveErrno)
      | some count => verixWriteLoop env h fuel ((byte :: rest).drop count) written.world

/-- Write the buffer's bytes at `offset`. -/
def verixWrite (env : Env σ) (pFile : VerixFile) (pBuf : List UInt8) (offset : Int) (w : World σ) :
    Except Fault (ResultCode × World σ) :=
  let ls := env.sys (.lseek pFile.h (toInt offset)) w
  if ls.value = -1 then
    .ok (.ioerrWrite, (env.logPrintf ls.world).saveErrno)
  else
    verixWriteLoop env pFile.h env.writeFuel pBuf ls.world

/-- Truncate the file to `nByte` bytes, by deleting what lies behind them. -/
def verixTruncate (env : Env σ) (pFile : VerixFile) (nByte : Int) (w : World σ) :
    ResultCode × World σ :=
  let size := env.sys (.getFileSize pFile.h) w
  if size.value.1 ≠ 0 then
    (.ioerrTruncate, (env.logPrintf size.world).saveErrno)
  else
    let ls := env.sys (.lseek pFile.h (toInt nByte)) size.world
    if ls.value = -1 then
      (.ioerrTruncate, (env.logPrintf ls.world).saveErrno)
    else
      let deleted := env.sys (.delete_ pFile.h (size.value.2 - toInt nByte)) ls.world
      if deleted.value ≠ 0 then
        (.ioerrTruncate, (env.logPrintf deleted.world).saveErrno)
      else
        (.ok, env.logPrintf deleted.world)

/-- There is nothing to sync. -/
def verixSync (_pFile : VerixFile) (w : World σ) : ResultCode × World σ := (.ok, w)

/-- The size of the file, asked for by the name the file object remembers. `pSize` is what the
caller's variable holds before the call. -/
def verixFileSize (env : Env σ) (pFile : VerixFile) (pSize : Int) (w : World σ) :
    ResultCode × Int × World σ :=
  let size := env.sys (.dirGetFileSz pFile.filename) w
  if size.value = -1 then
    (.ioerrFstat, pSize, env.logPrintf size.world.saveErrno)
  else
    (.ok, size.value, env.logPrintf size.world)

/-- Take the system's lock on the file; the lock type SQLite asks for is not looked at. -/
def verixLock (env : Env σ) (pFile : VerixFile) (w : World σ) : ResultCode × World σ :=
  let ret := env.sys (.lock pFile.h) w
  let w := env.logPrintf ret.world
  if ret.value = 0 then (.ok, w) else (.busy, w.saveErrno)

/-- Probe for a lock: the result, the value stored in `*pResOut` and the world. -/
def verixCheckReservedLock (env : Env σ) (pFile : VerixFile) (w : World σ) :
    ResultCode × Int × World σ :=
  let locked := env.sys (.lock pFile.h) w
  let w := if locked.value = 0 then (env.sys (.unlock pFile.h) locked.world).world
    else locked.world
  -- the `rc = 0` of the branch above is overwritten by the `rc = 1` that follows it
  let rc : Int := 1
  (.ok, rc, env.logPrintf w)

/-- Release the system's lock; the lock type SQLite wants to keep is not looked at. -/
def verixUnlock (env : Env σ) (pFile : VerixFile) (w : World σ) : ResultCode × World σ :=
  let ret := env.sys (.unlock pFile.h) w
  let w := env.logPrintf ret.world
  if ret.value = 0 then (.ok, w) else (.ioerrUnlock, w.saveErrno)

/-- Any opcode, with any argument: nothing is done and the result is `SQLITE_OK`. The argument
is returned as the callee leaves it. -/
def verixFileControl {arg : Type} (env : Env σ) (_pFile : VerixFile) (_op : Int) (pArg : arg)
    (w : World σ) : ResultCode × arg × World σ :=
  (.ok, pArg, env.logPrintf w)

/-- `SQLITE_DEFAULT_SECTOR_SIZE`. -/
def verixSectorSize (env : Env σ) (_pFile : VerixFile) (w : World σ) : Int × World σ :=
  (4096, env.logPrintf w)

/-- No device characteristic is claimed. -/
def verixDeviceCharacteristics (env : Env σ) (_pFile : VerixFile) (w : World σ) :
    Int × World σ :=
  (0, env.logPrintf w)

end VxSqlite
