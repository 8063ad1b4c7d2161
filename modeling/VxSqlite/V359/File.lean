import VxSqlite.Verix.Vfs

/-!
# The port of SQLite 3.5.9

The functions of `os_verix.c` of SQLite 3.5.9 that differ from the later `verix.c`: a read
leaves what it did not fill as it was, names are taken as they stand, and temporary names are
asked for by the pager. This port never reads `errno` outside its log lines and keeps no last
error, so the log lines are left out.
-/

namespace VxSqlite.V359

variable {σ : Type}

/-- The `mxPathname` of this port. -/
def mxPathname : Nat := 20

/-- Close a file, and remove it if it was opened to be deleted on close. -/
def verixClose (env : Env σ) (pFile : VerixFile) (w : World σ) : ResultCode × World σ :=
  let closed := env.sys (.close pFile.h) w
  if closed.value ≠ 0 then
    (.ioerr, closed.world)
  else
    let removed := if pFile.temporary then env.sys (.remove pFile.filename) closed.world else closed
    (if removed.value = 0 then .ok else .ioerr, removed.world)

/-- Read `amt` bytes at `offset` into the buffer. What `read()` did not fill stays. -/
def verixRead (env : Env σ) (pFile : VerixFile) (pBuf : Buffer UInt8) (amt offset : Int)
    (w : World σ) : ResultCode × Buffer UInt8 × World σ :=
  let ls := env.sys (.lseek pFile.h (toInt offset)) w
  if ls.value = -1 then
    (.ioerrRead, pBuf, ls.world)
  else
    let reply := env.sys (.read pFile.h amt) ls.world
    let pBuf := pBuf.memcpy 0 (reply.value.getD [])
    if readCount reply.value = amt then (.ok, pBuf, reply.world)
    else (.ioerrShortRead, pBuf, reply.world)

/-- The loop of `verixWrite`: hand the rest of the buffer to `write()` until none is left. -/
def verixWriteLoop (env : Env σ) (h : Int) :
    Nat → List UInt8 → World σ → Except Fault (ResultCode × World σ)
  | _, [], w => .ok (.ok, w)
  | 0, _ :: _, _ => .error .unfinished
  | fuel + 1, byte :: rest, w =>
      let written := env.sys (.write h (byte :: rest)) w
      match written.value with
      | none => .ok (.ioerrWrite, written.world)
      | some count => verixWriteLoop env h fuel ((byte :: rest).drop count) written.world

/-- Write the buffer's bytes at `offset`. -/
def verixWrite (env : Env σ) (pFile : VerixFile) (pBuf : List UInt8) (offset : Int) (w : World σ) :
    Except Fault (ResultCode × World σ) :=
  let ls := env.sys (.lseek pFile.h (toInt offset)) w
  if ls.value = -1 then
    .ok (.ioerrWrite, ls.world)
  else
    verixWriteLoop env pFile.h env.writeFuel pBuf ls.world

/-- The size of the file, asked for by the name the file object remembers. -/
def verixFileSize (env : Env σ) (pFile : VerixFile) (pSize : Int) (w : World σ) :
    ResultCode × Int × World σ :=
  let size := env.sys (.dirGetFileSz pFile.filename) w
  if size.value = -1 then (.ioerrFstat, pSize, size.world)
  else (.ok, size.value, size.world)

/-- Open a file under its name as it stands. -/
def verixOpen (env : Env σ) (zName : CString) (id : VerixFile) (flags : Nat) (w : World σ) :
    Except Fault (Opened σ) :=
  let isTemp : Bool := HasFlag flags openDeleteonclose
  let opened := env.sys (.openFile zName (verixOpenFlags flags)) w
  if opened.value = -1 then
    .ok ⟨.cantopen, id, none, opened.world⟩
  else do
    let outFlags := if HasFlag flags openReadwrite then openReadwrite else openReadonly
    let stored ← storeString maxVerixFileName zName
    return ⟨.ok, ⟨true, opened.value, isTemp, stored⟩, some outFlags, opened.world⟩

/-- The text of a temporary name, which holds nothing but the tick counter. -/
def tempname (ticks : Int) : CString := ascii "tmp" ++ formatInt (toInt ticks)

/-- Create a temporary name in a buffer of `mxPathname + 1` bytes. -/
def verixGetTempname (env : Env σ) (w : World σ) : Except Fault (CString × World σ) := do
  let ticks := env.sys .readTicks w
  let zBuf ← storeString (mxPathname + 1) (tempname ticks.value)
  return (zBuf, ticks.world)

/-- `sqlite3_snprintf(pVfs->mxPathname, zFull, "%s", zRelative)`. -/
def verixFullPathname (zRelative : CString) : ResultCode × CString :=
  (.ok, zRelative.take (mxPathname - 1))

end VxSqlite.V359
