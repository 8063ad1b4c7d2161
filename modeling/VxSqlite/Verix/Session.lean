import VxSqlite.Verix.Vfs

/-!
# Sequences of VFS calls

A `Session` is a process that uses the port: the world, and the file objects it keeps in
numbered slots. `VfsCall` has one constructor for every method that the port registers, and
`perform` makes the call, with everything that the caller gets back in a `VfsResult`.
-/

namespace VxSqlite

/-- The world and the caller's file objects. -/
structure Session (σ : Type) where
  world : World σ
  files : Nat → VerixFile

/-- A method of the VFS or of an open file, with its arguments. -/
inductive VfsCall where
  | xClose (slot : Nat)
  | xRead (slot : Nat) (pBuf : Buffer UInt8) (amt offset : Int)
  | xWrite (slot : Nat) (pBuf : List UInt8) (offset : Int)
  | xTruncate (slot : Nat) (nByte : Int)
  | xSync (slot : Nat)
  | xFileSize (slot : Nat) (pSize : Int)
  | xLock (slot : Nat)
  | xUnlock (slot : Nat)
  | xCheckReservedLock (slot : Nat)
  | xFileControl (slot : Nat) (op pArg : Int)
  | xSectorSize (slot : Nat)
  | xDeviceCharacteristics (slot : Nat)
  | xOpen (zName : Option CString) (slot flags : Nat)
  | xDelete (zName : CString)
  | xAccess (zName : CString) (flags : AccessFlag)
  | xFullPathname (zName : CString)
  | xRandomness (nByte : Nat)
  | xSleep (microseconds : Int)
  | xCurrentTime
  | xGetLastError (nBuf : Nat) (zBuf : Buffer UInt8)

/-- What a call returns, and what it stores through its pointer arguments. -/
inductive VfsResult where
  | code (rc : ResultCode)
  | read (rc : ResultCode) (pBuf : Buffer UInt8)
  | value (rc : ResultCode) (out : Int)
  | number (out : Int)
  | opened (rc : ResultCode) (outFlags : Option Nat)
  | access (rc : ResultCode) (pResOut : Bool)
  | path (rc : ResultCode) (zOut : CString)
  | random (count : Nat) (zOut : List UInt8)
  | lastError (ret : Int) (zBuf : Buffer UInt8)

variable {σ : Type}

/-- The state at the start of a process. -/
def Session.start (os : σ) (errno lastErrno : Int) (files : Nat → VerixFile) : Session σ :=
  ⟨⟨os, errno, lastErrno, 0, false⟩, files⟩

/-- What `sqlite3OsClose` leaves of a file object: its method pointer is cleared. -/
def VerixFile.closed (pFile : VerixFile) : VerixFile := { pFile with pMethod := false }

/-- Make a call, as the `sqlite3Os` wrapper of the method makes it. -/
def VfsCall.perform (env : Env σ) (s : Session σ) :
    VfsCall → Except Fault (VfsResult × Session σ)
  | .xClose slot =>
      let r := verixClose env (s.files slot) s.world
      .ok (.code r.1, ⟨r.2, Function.update s.files slot (s.files slot).closed⟩)
  | .xRead slot pBuf amt offset =>
      let r := verixRead env (s.files slot) pBuf amt offset s.world
      .ok (.read r.1 r.2.1, ⟨r.2.2, s.files⟩)
  | .xWrite slot pBuf offset => do
      let r ← verixWrite env (s.files slot) pBuf offset s.world
      return (.code r.1, ⟨r.2, s.files⟩)
  | .xTruncate slot nByte =>
      let r := verixTruncate env (s.files slot) nByte s.world
      .ok (.code r.1, ⟨r.2, s.files⟩)
  | .xSync slot =>
      let r := verixSync (s.files slot) s.world
      .ok (.code r.1, ⟨r.2, s.files⟩)
  | .xFileSize slot pSize =>
      let r := verixFileSize env (s.files slot) pSize s.world
      .ok (.value r.1 r.2.1, ⟨r.2.2, s.files⟩)
  | .xLock slot =>
      let r := verixLock env (s.files slot) s.world
      .ok (.code r.1, ⟨r.2, s.files⟩)
  | .xUnlock slot =>
      let r := verixUnlock env (s.files slot) s.world
      .ok (.code r.1, ⟨r.2, s.files⟩)
  | .xCheckReservedLock slot =>
      let r := verixCheckReservedLock env (s.files slot) s.world
      .ok (.value r.1 r.2.1, ⟨r.2.2, s.files⟩)
  | .xFileControl slot op pArg =>
      let r := verixFileControl env (s.files slot) op pArg s.world
      .ok (.value r.1 r.2.1, ⟨r.2.2, s.files⟩)
  | .xSectorSize slot =>
      let r := verixSectorSize env (s.files slot) s.world
      .ok (.number r.1, ⟨r.2, s.files⟩)
  | .xDeviceCharacteristics slot =>
      let r := verixDeviceCharacteristics env (s.files slot) s.world
      .ok (.number r.1, ⟨r.2, s.files⟩)
  | .xOpen zName slot flags => do
      let r ← verixOpen env zName (s.files slot) flags s.world
      return (.opened r.rc r.outFlags, ⟨r.world, Function.update s.files slot r.file⟩)
  | .xDelete zName =>
      let r := verixDelete env zName s.world
      .ok (.code r.1, ⟨r.2, s.files⟩)
  | .xAccess zName flags =>
      let r := verixAccess env zName flags s.world
      .ok (.access r.1 r.2.1, ⟨r.2.2, s.files⟩)
  | .xFullPathname zName =>
      let r := verixFullPathname env zName s.world
      .ok (.path r.1 r.2.1, ⟨r.2.2, s.files⟩)
  | .xRandomness nByte =>
      let r := verixRandomness env nByte s.world
      .ok (.random r.1 r.2.1, ⟨r.2.2, s.files⟩)
  | .xSleep microseconds =>
      let r := verixSleep env microseconds s.world
      .ok (.number r.1, ⟨r.2, s.files⟩)
  | .xCurrentTime =>
      let r := verixCurrentTime env s.world
      .ok (.number r.1, ⟨r.2, s.files⟩)
  | .xGetLastError nBuf zBuf => do
      let r ← verixGetLastError nBuf zBuf s.world
      return (.lastError r.1 r.2, s)

/-- The state after a call, where the call has one. -/
def VfsCall.step (env : Env σ) (s : Session σ) (call : VfsCall) : Option (Session σ) :=
  match call.perform env s with
  | .ok (_, next) => some next
  | .error _ => none

end VxSqlite
