import VxSqlite.Verix.Vfs

/-!
# The methods of the two builds in lockstep

The quiet build and the logging build make the same calls of the system in the same order, so
they stay in lockstep: the states of the system agree, and `errno` agrees until a log line is
passed. What can differ is a value taken from `errno` behind a log line. For each method that
reads `errno`, an exposed path is one on which it does so behind a log line, told from the
answers of the system.
-/

namespace VxSqlite

variable {σ α : Type}

/-- The same surroundings with the quiet build. -/
def Env.quiet (env : Env σ) : Env σ := { env with build := .quiet }

/-- The same surroundings with the logging build. -/
def Env.logging (env : Env σ) (errnoAfter : Nat → Int) : Env σ :=
  { env with build := .logging errnoAfter }

@[simp] theorem Env.quiet_sys (env : Env σ) (c : Syscall α) (w : World σ) :
    env.quiet.sys c w = env.sys c w := rfl

@[simp] theorem Env.logging_sys (env : Env σ) (errnoAfter : Nat → Int) (c : Syscall α)
    (w : World σ) : (env.logging errnoAfter).sys c w = env.sys c w := rfl

/-! ## Lockstep -/

/-- The world of the logging build, against that of the quiet build at the same place: only
`errno` and `last_errno` may differ, and `errno` only if a log line has been passed since it
was set. -/
structure InLockstep (errnoAfter : Nat → Int) (w w' : World σ) : Prop where
  os : w'.os = w.os
  stale : w'.stale = w.stale
  fresh : w.stale = false → w'.errno = w.errno
  logged : w.stale = true → ∃ n, w'.errno = errnoAfter n

/-- Lockstep, with `last_errno` the same unless the path was exposed, and then left by a log
line. -/
structure Follows (errnoAfter : Nat → Int) (exposed : Prop) (w w' : World σ) : Prop where
  lockstep : InLockstep errnoAfter w w'
  same : ¬ exposed → w'.lastErrno = w.lastErrno
  differs : exposed → ∃ n, w'.lastErrno = errnoAfter n

variable {env : Env σ} {errnoAfter : Nat → Int} {w w' : World σ}

/-- A call of the system gets the same answer in both builds. -/
theorem InLockstep.sys_value (h : InLockstep errnoAfter w w') (env : Env σ) (c : Syscall α) :
    (env.sys c w').value = (env.sys c w).value := by
  rw [Env.sys_value, Env.sys_value, h.os]

/-- A call of the system keeps the lockstep: either it sets `errno` or it leaves it as it was. -/
theorem InLockstep.sys (h : InLockstep errnoAfter w w') (env : Env σ) (c : Syscall α) :
    InLockstep errnoAfter (env.sys c w).world (env.sys c w').world := by
  have hos := h.os
  constructor
  · simp [hos]
  · simp [Env.sys, hos, h.stale]
  · intro hfresh
    simp only [Env.sys, hos, Bool.and_eq_false_iff, Option.isNone_eq_false_iff] at hfresh ⊢
    cases herrno : (env.os.call c w.os).errno with
    | some e => rfl
    | none =>
        rw [herrno] at hfresh
        simpa using h.fresh (by simpa using hfresh)
  · intro hstale
    simp only [Env.sys, hos, Bool.and_eq_true, Option.isNone_iff_eq_none] at hstale ⊢
    rw [hstale.2]
    exact h.logged hstale.1

/-- A log line keeps the lockstep, and leaves `errno` to the log. -/
theorem InLockstep.logPrintf (h : InLockstep errnoAfter w w') (env : Env σ) :
    InLockstep errnoAfter (env.quiet.logPrintf w) ((env.logging errnoAfter).logPrintf w') where
  os := h.os
  stale := rfl
  fresh hfresh := by simp at hfresh
  logged _ := ⟨w'.logged, rfl⟩

/-- Two worlds in lockstep whose `last_errno` agrees: the relation at the start of every call,
and inside a call up to the place where it saves `errno`. -/
structure Level (errnoAfter : Nat → Int) (w w' : World σ) : Prop where
  lockstep : InLockstep errnoAfter w w'
  lastErrno : w'.lastErrno = w.lastErrno

theorem Level.value (h : Level errnoAfter w w') (env : Env σ) (c : Syscall α) :
    (env.sys c w').value = (env.sys c w).value := h.lockstep.sys_value env c

theorem Level.sys (h : Level errnoAfter w w') (env : Env σ) (c : Syscall α) :
    Level errnoAfter (env.sys c w).world (env.sys c w').world :=
  ⟨h.lockstep.sys env c, h.lastErrno⟩

theorem Level.logPrintf (h : Level errnoAfter w w') (env : Env σ) :
    Level errnoAfter (env.quiet.logPrintf w) ((env.logging errnoAfter).logPrintf w') :=
  ⟨h.lockstep.logPrintf env, h.lastErrno⟩

/-- A path that does not save `errno` is not exposed. -/
theorem Level.follows (h : Level errnoAfter w w') : Follows errnoAfter False w w' :=
  ⟨h.lockstep, fun _ => h.lastErrno, False.elim⟩

/-- Saving `errno` is exposed exactly if a log line was passed since it was set. -/
theorem Level.saveErrno (h : Level errnoAfter w w') :
    Follows errnoAfter (w.stale = true) w.saveErrno w'.saveErrno where
  lockstep := ⟨h.lockstep.os, h.lockstep.stale, h.lockstep.fresh, h.lockstep.logged⟩
  same hfresh := h.lockstep.fresh (by simpa using hfresh)
  differs hstale := h.lockstep.logged hstale

/-- Saving `errno` right behind a log line is exposed. -/
theorem Level.logPrintf_saveErrno (h : Level errnoAfter w w') (env : Env σ) :
    Follows errnoAfter True (env.quiet.logPrintf w).saveErrno
      ((env.logging errnoAfter).logPrintf w').saveErrno := by
  simpa using (h.logPrintf env).saveErrno

theorem Follows.logPrintf {exposed : Prop} (h : Follows errnoAfter exposed w w') (env : Env σ) :
    Follows errnoAfter exposed (env.quiet.logPrintf w) ((env.logging errnoAfter).logPrintf w') :=
  ⟨h.lockstep.logPrintf env, h.same, h.differs⟩

/-! ## The exposed paths of the methods -/

/-- `verixClose` saves `errno` behind its log line where the removal failed. -/
def closeExposed (env : Env σ) (pFile : VerixFile) (w : World σ) : Prop :=
  let closed := env.sys (.close pFile.h) w
  if closed.value ≠ 0 then closed.world.stale = true
  else pFile.temporary = true ∧ (env.sys (.remove pFile.filename) closed.world).value ≠ 0

theorem verixClose_follows (env : Env σ) (h : Level errnoAfter w w') (pFile : VerixFile) :
    (verixClose (env.logging errnoAfter) pFile w').1 = (verixClose env.quiet pFile w).1 ∧
      Follows errnoAfter (closeExposed env pFile w) (verixClose env.quiet pFile w).2
        (verixClose (env.logging errnoAfter) pFile w').2 := by
  have hclosed := h.sys env (.close pFile.h)
  have hremoved := hclosed.sys env (.remove pFile.filename)
  have hremove := hclosed.value env (.remove pFile.filename)
  simp only [verixClose, closeExposed, Env.quiet_sys, Env.logging_sys,
    h.value env (.close pFile.h)]
  by_cases hvalue : (env.sys (.close pFile.h) w).value = 0
  · by_cases htemp : pFile.temporary = true
    · simp only [hvalue, htemp, hremove, ne_eq, not_true_eq_false, if_false, if_true, true_and]
      by_cases hgone : (env.sys (.remove pFile.filename)
          (env.sys (.close pFile.h) w).world).value = 0
      · simp only [hgone, not_true_eq_false, if_true, true_and]
        exact (hremoved.logPrintf env).follows
      · simp only [hgone, not_false_eq_true, if_false, true_and]
        exact hremoved.logPrintf_saveErrno env
    · simp only [hvalue, htemp, h.value env (.close pFile.h), ne_eq, not_true_eq_false, if_false,
        if_true, false_and, true_and, Bool.false_eq_true]
      exact (hclosed.logPrintf env).follows
  · simp only [hvalue, ne_eq, not_false_eq_true, if_true, true_and]
    exact hclosed.saveErrno

/-- `verixRead` saves `errno` behind its log line where `read()` did not deliver every byte. -/
def readExposed (env : Env σ) (pFile : VerixFile) (amt offset : Int) (w : World σ) : Prop :=
  let ls := env.sys (.lseek pFile.h (toInt offset)) w
  if ls.value = -1 then ls.world.stale = true
  else readCount (env.sys (.read pFile.h amt) ls.world).value ≠ amt

theorem verixRead_follows (env : Env σ) (h : Level errnoAfter w w') (pFile : VerixFile)
    (pBuf : Buffer UInt8) (amt offset : Int) :
    (verixRead (env.logging errnoAfter) pFile pBuf amt offset w').1 =
        (verixRead env.quiet pFile pBuf amt offset w).1 ∧
      (verixRead (env.logging errnoAfter) pFile pBuf amt offset w').2.1 =
        (verixRead env.quiet pFile pBuf amt offset w).2.1 ∧
      Follows errnoAfter (readExposed env pFile amt offset w)
        (verixRead env.quiet pFile pBuf amt offset w).2.2
        (verixRead (env.logging errnoAfter) pFile pBuf amt offset w').2.2 := by
  have hsought := h.sys env (.lseek pFile.h (toInt offset))
  have hgot := hsought.sys env (.read pFile.h amt)
  have hread := hsought.value env (.read pFile.h amt)
  simp only [verixRead, readExposed, Env.quiet_sys, Env.logging_sys,
    h.value env (.lseek pFile.h (toInt offset))]
  by_cases hseek : (env.sys (.lseek pFile.h (toInt offset)) w).value = -1
  · -- here `errno` is saved before the log line
    simp only [hseek, if_true, true_and]
    exact hsought.saveErrno.logPrintf env
  · simp only [hseek, if_false, hread]
    by_cases hall : readCount (env.sys (.read pFile.h amt)
        (env.sys (.lseek pFile.h (toInt offset)) w).world).value = amt
    · simp only [hall, ne_eq, not_true_eq_false, if_true, true_and]
      exact (hgot.logPrintf env).follows
    · simp only [hall, ne_eq, not_false_eq_true, if_false, true_and]
      exact hgot.logPrintf_saveErrno env

/-- The loop of `verixWrite` saves `errno` where a `write()` failed. -/
def writeLoopExposed (env : Env σ) (h : Int) : Nat → List UInt8 → World σ → Prop
  | _, [], _ => False
  | 0, _ :: _, _ => False
  | fuel + 1, byte :: rest, w =>
      let written := env.sys (.write h (byte :: rest)) w
      match written.value with
      | none => written.world.stale = true
      | some count => writeLoopExposed env h fuel ((byte :: rest).drop count) written.world

/-- `verixWrite` saves `errno` behind its log line where the seek failed. -/
def writeExposed (env : Env σ) (pFile : VerixFile) (pBuf : List UInt8) (offset : Int)
    (w : World σ) : Prop :=
  let ls := env.sys (.lseek pFile.h (toInt offset)) w
  if ls.value = -1 then True else writeLoopExposed env pFile.h env.writeFuel pBuf ls.world

/-- Two outcomes of a function that may fault: the same fault, or results and worlds of which
`related` holds. -/
def SameFault {β : Type} (related : β → β → Prop) : Except Fault β → Except Fault β → Prop
  | .ok r, .ok r' => related r r'
  | .error fault, .error fault' => fault' = fault
  | _, _ => False

theorem SameFault.cases {β : Type} {related : β → β → Prop} {x y : Except Fault β}
    (h : SameFault related x y) :
    (∃ r r', x = .ok r ∧ y = .ok r' ∧ related r r') ∨
      ∃ fault, x = .error fault ∧ y = .error fault := by
  cases x with
  | ok r =>
      cases y with
      | ok r' => exact Or.inl ⟨r, r', rfl, rfl, h⟩
      | error fault => exact h.elim
  | error fault =>
      cases y with
      | ok r' => exact h.elim
      | error fault' => exact Or.inr ⟨fault, rfl, by rw [show fault' = fault from h]⟩

/-- The induction follows the loop: the worlds stay level until a `write()` fails. -/
theorem verixWriteLoop_follows (env : Env σ) (handle : Int) (fuel : Nat) (pBuf : List UInt8)
    (h : Level errnoAfter w w') :
    SameFault (fun r r' => r'.1 = r.1 ∧
        Follows errnoAfter (writeLoopExposed env handle fuel pBuf w) r.2 r'.2)
      (verixWriteLoop env.quiet handle fuel pBuf w)
      (verixWriteLoop (env.logging errnoAfter) handle fuel pBuf w') := by
  induction fuel generalizing pBuf w w' with
  | zero =>
      cases pBuf with
      | nil => exact ⟨rfl, (h.logPrintf env).follows⟩
      | cons byte rest => exact rfl
  | succ fuel ih =>
      cases pBuf with
      | nil => exact ⟨rfl, (h.logPrintf env).follows⟩
      | cons byte rest =>
          have hwritten := h.sys env (.write handle (byte :: rest))
          simp only [verixWriteLoop, writeLoopExposed, Env.quiet_sys, Env.logging_sys,
            h.value env (.write handle (byte :: rest))]
          cases (env.sys (.write handle (byte :: rest)) w).value with
          | none => exact ⟨rfl, hwritten.saveErrno.logPrintf env⟩
          | some count => exact ih ((byte :: rest).drop count) hwritten

theorem verixWrite_follows (env : Env σ) (h : Level errnoAfter w w') (pFile : VerixFile)
    (pBuf : List UInt8) (offset : Int) :
    SameFault (fun r r' => r'.1 = r.1 ∧
        Follows errnoAfter (writeExposed env pFile pBuf offset w) r.2 r'.2)
      (verixWrite env.quiet pFile pBuf offset w)
      (verixWrite (env.logging errnoAfter) pFile pBuf offset w') := by
  have hsought := h.sys env (.lseek pFile.h (toInt offset))
  simp only [verixWrite, writeExposed, Env.quiet_sys, Env.logging_sys,
    h.value env (.lseek pFile.h (toInt offset))]
  by_cases hseek : (env.sys (.lseek pFile.h (toInt offset)) w).value = -1
  · simp only [hseek, if_true]
    exact ⟨rfl, hsought.logPrintf_saveErrno env⟩
  · simp only [hseek, if_false]
    exact verixWriteLoop_follows env pFile.h env.writeFuel pBuf hsought

/-- `verixTruncate` saves `errno` behind its log line wherever a call failed. -/
def truncateExposed (env : Env σ) (pFile : VerixFile) (nByte : Int) (w : World σ) : Prop :=
  let size := env.sys (.getFileSize pFile.h) w
  let ls := env.sys (.lseek pFile.h (toInt nByte)) size.world
  let deleted := env.sys (.delete_ pFile.h (size.value.2 - toInt nByte)) ls.world
  size.value.1 ≠ 0 ∨ ls.value = -1 ∨ deleted.value ≠ 0

theorem verixTruncate_follows (env : Env σ) (h : Level errnoAfter w w') (pFile : VerixFile)
    (nByte : Int) :
    (verixTruncate (env.logging errnoAfter) pFile nByte w').1 =
        (verixTruncate env.quiet pFile nByte w).1 ∧
      Follows errnoAfter (truncateExposed env pFile nByte w)
        (verixTruncate env.quiet pFile nByte w).2
        (verixTruncate (env.logging errnoAfter) pFile nByte w').2 := by
  have hsized := h.sys env (.getFileSize pFile.h)
  have hsought := hsized.sys env (.lseek pFile.h (toInt nByte))
  have hseek := hsized.value env (.lseek pFile.h (toInt nByte))
  have hdeleted := fun count => hsought.sys env (.delete_ pFile.h count)
  have hdelete := fun count => hsought.value env (.delete_ pFile.h count)
  simp only [verixTruncate, truncateExposed, Env.quiet_sys, Env.logging_sys,
    h.value env (.getFileSize pFile.h), hseek, hdelete]
  by_cases hsize : (env.sys (.getFileSize pFile.h) w).value.1 = 0
  · by_cases hls : (env.sys (.lseek pFile.h (toInt nByte))
        (env.sys (.getFileSize pFile.h) w).world).value = -1
    · simp only [hsize, hls, ne_eq, not_true_eq_false, if_false, if_true, true_and, false_or,
        true_or]
      exact hsought.logPrintf_saveErrno env
    · simp only [hsize, hls, ne_eq, not_true_eq_false, if_false, false_or]
      by_cases hgone : (env.sys (.delete_ pFile.h ((env.sys (.getFileSize pFile.h) w).value.2 -
          toInt nByte)) (env.sys (.lseek pFile.h (toInt nByte))
            (env.sys (.getFileSize pFile.h) w).world).world).value = 0
      · simp only [hgone, not_true_eq_false, if_false, true_and]
        exact ((hdeleted _).logPrintf env).follows
      · simp only [hgone, not_false_eq_true, if_true, true_and]
        exact (hdeleted _).logPrintf_saveErrno env
  · simp only [hsize, ne_eq, not_false_eq_true, if_true, true_and, true_or]
    exact hsized.logPrintf_saveErrno env

/-- `verixFileSize` saves `errno` before its log line, where the size query failed. -/
def fileSizeExposed (env : Env σ) (pFile : VerixFile) (w : World σ) : Prop :=
  let size := env.sys (.dirGetFileSz pFile.filename) w
  size.value = -1 ∧ size.world.stale = true

theorem verixFileSize_follows (env : Env σ) (h : Level errnoAfter w w') (pFile : VerixFile)
    (pSize : Int) :
    (verixFileSize (env.logging errnoAfter) pFile pSize w').1 =
        (verixFileSize env.quiet pFile pSize w).1 ∧
      (verixFileSize (env.logging errnoAfter) pFile pSize w').2.1 =
        (verixFileSize env.quiet pFile pSize w).2.1 ∧
      Follows errnoAfter (fileSizeExposed env pFile w)
        (verixFileSize env.quiet pFile pSize w).2.2
        (verixFileSize (env.logging errnoAfter) pFile pSize w').2.2 := by
  have hsized := h.sys env (.dirGetFileSz pFile.filename)
  simp only [verixFileSize, fileSizeExposed, Env.quiet_sys, Env.logging_sys,
    h.value env (.dirGetFileSz pFile.filename)]
  by_cases hsize : (env.sys (.dirGetFileSz pFile.filename) w).value = -1
  · simp only [hsize, if_true, true_and]
    exact hsized.saveErrno.logPrintf env
  · simp only [hsize, if_false, true_and, false_and]
    exact (hsized.logPrintf env).follows

/-- `verixLock` and `verixUnlock` save `errno` behind their log lines where the call failed. -/
theorem verixLock_follows (env : Env σ) (h : Level errnoAfter w w') (pFile : VerixFile) :
    (verixLock (env.logging errnoAfter) pFile w').1 = (verixLock env.quiet pFile w).1 ∧
      Follows errnoAfter ((env.sys (.lock pFile.h) w).value ≠ 0) (verixLock env.quiet pFile w).2
        (verixLock (env.logging errnoAfter) pFile w').2 := by
  have hlocked := h.sys env (.lock pFile.h)
  simp only [verixLock, Env.quiet_sys, Env.logging_sys, h.value env (.lock pFile.h)]
  by_cases hret : (env.sys (.lock pFile.h) w).value = 0
  · simp only [hret, ne_eq, not_true_eq_false, if_true, true_and]
    exact (hlocked.logPrintf env).follows
  · simp only [hret, ne_eq, not_false_eq_true, if_false, true_and]
    exact hlocked.logPrintf_saveErrno env

theorem verixUnlock_follows (env : Env σ) (h : Level errnoAfter w w') (pFile : VerixFile) :
    (verixUnlock (env.logging errnoAfter) pFile w').1 = (verixUnlock env.quiet pFile w).1 ∧
      Follows errnoAfter ((env.sys (.unlock pFile.h) w).value ≠ 0)
        (verixUnlock env.quiet pFile w).2 (verixUnlock (env.logging errnoAfter) pFile w').2 := by
  have hunlocked := h.sys env (.unlock pFile.h)
  simp only [verixUnlock, Env.quiet_sys, Env.logging_sys, h.value env (.unlock pFile.h)]
  by_cases hret : (env.sys (.unlock pFile.h) w).value = 0
  · simp only [hret, ne_eq, not_true_eq_false, if_true, true_and]
    exact (hunlocked.logPrintf env).follows
  · simp only [hret, ne_eq, not_false_eq_true, if_false, true_and]
    exact hunlocked.logPrintf_saveErrno env

/-- The probe never looks at `errno`. -/
theorem verixCheckReservedLock_follows (env : Env σ) (h : Level errnoAfter w w')
    (pFile : VerixFile) :
    Follows errnoAfter False (verixCheckReservedLock env.quiet pFile w).2.2
      (verixCheckReservedLock (env.logging errnoAfter) pFile w').2.2 := by
  have hlocked := h.sys env (.lock pFile.h)
  have hunlocked := hlocked.sys env (.unlock pFile.h)
  simp only [verixCheckReservedLock, Env.quiet_sys, Env.logging_sys,
    h.value env (.lock pFile.h)]
  by_cases hret : (env.sys (.lock pFile.h) w).value = 0
  · simp only [hret, if_true]
    exact (hunlocked.logPrintf env).follows
  · simp only [hret, if_false]
    exact (hlocked.logPrintf env).follows

/-- `verixOpen` saves `errno` behind its log lines where `open()` failed. -/
def openExposed (env : Env σ) (zName : Option CString) (flags : Nat) (w : World σ) : Prop :=
  match verixOpenFilename env zName w with
  | .error _ => False
  | .ok (filename, w) =>
      (env.sys (.openFile filename (verixOpenFlags flags)) w).value = -1

theorem verixOpenFilename_follows (env : Env σ) (h : Level errnoAfter w w')
    (zName : Option CString) :
    SameFault (fun r r' => r'.1 = r.1 ∧ Level errnoAfter r.2 r'.2)
      (verixOpenFilename env.quiet zName w)
      (verixOpenFilename (env.logging errnoAfter) zName w') := by
  cases zName with
  | none =>
      simp only [verixOpenFilename, Env.quiet_sys, Env.logging_sys, h.value env .readTicks]
      cases storeString maxVerixFileName
          (ascii "tmp" ++ formatInt (toInt (env.sys .readTicks w).value)) with
      | error fault => exact rfl
      | ok filename => exact ⟨rfl, h.sys env .readTicks⟩
  | some name =>
      simp only [verixOpenFilename]
      cases sprintfNoArgs name with
      | error fault => exact rfl
      | ok text =>
          simp only [ok_bind]
          cases storeString maxVerixFileName text with
          | error fault => exact rfl
          | ok filename => exact ⟨rfl, h⟩

theorem verixOpenFile_follows (env : Env σ) (h : Level errnoAfter w w') (zName : Option CString)
    (id : VerixFile) (flags : Nat) (filename : CString) :
    SameFault (fun r r' => r'.rc = r.rc ∧ r'.outFlags = r.outFlags ∧ r'.file = r.file ∧
        Follows errnoAfter ((env.sys (.openFile filename (verixOpenFlags flags)) w).value = -1)
          r.world r'.world)
      (verixOpenFile env.quiet zName id flags filename w)
      (verixOpenFile (env.logging errnoAfter) zName id flags filename w') := by
  have hlogged := h.logPrintf env
  have hopened := hlogged.sys env (.openFile filename (verixOpenFlags flags))
  have hbefore : (env.sys (.openFile filename (verixOpenFlags flags))
      (env.quiet.logPrintf w)).value =
        (env.sys (.openFile filename (verixOpenFlags flags)) w).value := rfl
  have hcopy : verixOpenStrcpy (env.logging errnoAfter) zName = verixOpenStrcpy env.quiet zName :=
    rfl
  simp only [verixOpenFile, Env.quiet_sys, Env.logging_sys,
    hlogged.value env (.openFile filename (verixOpenFlags flags)), hbefore, hcopy]
  by_cases hfail : (env.sys (.openFile filename (verixOpenFlags flags)) w).value = -1
  · simp only [hfail, if_true]
    exact ⟨rfl, rfl, rfl, hopened.logPrintf_saveErrno env⟩
  · simp only [hfail, if_false]
    cases verixOpenStrcpy env.quiet zName with
    | error fault => exact rfl
    | ok stored => exact ⟨rfl, rfl, rfl, (hopened.logPrintf env).follows⟩

theorem verixOpen_follows (env : Env σ) (h : Level errnoAfter w w') (zName : Option CString)
    (id : VerixFile) (flags : Nat) :
    SameFault (fun r r' => r'.rc = r.rc ∧ r'.outFlags = r.outFlags ∧ r'.file = r.file ∧
        Follows errnoAfter (openExposed env zName flags w) r.world r'.world)
      (verixOpen env.quiet zName id flags w)
      (verixOpen (env.logging errnoAfter) zName id flags w') := by
  have hname : SameFault (fun r r' => r'.1 = r.1 ∧ Level errnoAfter r.2 r'.2)
      (verixOpenFilename env zName w) (verixOpenFilename (env.logging errnoAfter) zName w') :=
    verixOpenFilename_follows env h zName
  simp only [verixOpen, openExposed]
  rcases hname.cases with ⟨⟨filename, v⟩, ⟨filename', v'⟩, hquiet, hlogging, rfl, hlevel⟩ |
    ⟨fault, hquiet, hlogging⟩
  · rw [show verixOpenFilename env.quiet zName w = _ from hquiet, hquiet, hlogging]
    exact verixOpenFile_follows env hlevel zName id flags filename'
  · rw [show verixOpenFilename env.quiet zName w = _ from hquiet, hlogging]
    exact rfl

/-- The error that `verixDelete` takes from `errno`. -/
def deleteError (errno : Int) : ResultCode :=
  if errno = ENOENT then .ioerrDeleteNoent else .ioerrDelete

/-- `verixDelete` looks at `errno` behind its log line where the removal failed. -/
def deleteExposed (env : Env σ) (zFilename : CString) (w : World σ) : Prop :=
  (env.sys (.remove zFilename) w).value ≠ 0

theorem verixDelete_follows (env : Env σ) (h : Level errnoAfter w w') (zFilename : CString) :
    Follows errnoAfter False (verixDelete env.quiet zFilename w).2
        (verixDelete (env.logging errnoAfter) zFilename w').2 ∧
      (¬ deleteExposed env zFilename w → (verixDelete (env.logging errnoAfter) zFilename w').1 =
        (verixDelete env.quiet zFilename w).1) ∧
      (deleteExposed env zFilename w → ∃ e n,
        (verixDelete env.quiet zFilename w).1 = deleteError e ∧
        (verixDelete (env.logging errnoAfter) zFilename w').1 = deleteError (errnoAfter n)) := by
  have hlogged := (h.sys env (.remove zFilename)).logPrintf env
  obtain ⟨n, hn⟩ := hlogged.lockstep.logged rfl
  simp only [verixDelete, Env.quiet_sys, Env.logging_sys, h.value env (.remove zFilename)]
  by_cases hgone : (env.sys (.remove zFilename) w).value = 0
  · simp only [hgone, if_true]
    exact ⟨hlogged.follows, fun _ => trivial, fun hfail => absurd hgone hfail⟩
  · simp only [hgone, if_false]
    exact ⟨hlogged.follows, fun hsafe => absurd hgone hsafe,
      fun _ => ⟨_, n, rfl, by rw [← hn]; rfl⟩⟩

theorem verixAccess_follows (env : Env σ) (h : Level errnoAfter w w') (zFilename : CString)
    (flags : AccessFlag) :
    (verixAccess (env.logging errnoAfter) zFilename flags w').2.1 =
        (verixAccess env.quiet zFilename flags w).2.1 ∧
      Follows errnoAfter False (verixAccess env.quiet zFilename flags w).2.2
        (verixAccess (env.logging errnoAfter) zFilename flags w').2.2 := by
  simp only [verixAccess, Env.quiet_sys, Env.logging_sys, h.value env (.dirGetAttributes zFilename)]
  exact ⟨rfl, ((h.sys env (.dirGetAttributes zFilename)).logPrintf env).follows⟩

theorem verixRandomnessLoop_follows (env : Env σ) (nBuf : Nat) (h : Level errnoAfter w w') :
    (verixRandomnessLoop (env.logging errnoAfter) nBuf w').1 =
        (verixRandomnessLoop env.quiet nBuf w).1 ∧
      Level errnoAfter (verixRandomnessLoop env.quiet nBuf w).2
        (verixRandomnessLoop (env.logging errnoAfter) nBuf w').2 := by
  induction nBuf generalizing w w' with
  | zero => exact ⟨rfl, h⟩
  | succ n ih =>
      obtain ⟨hbytes, hlevel⟩ := ih (h.sys env .rand)
      simp only [verixRandomnessLoop, Env.quiet_sys, Env.logging_sys, h.value env .rand]
      exact ⟨by rw [hbytes], hlevel⟩

end VxSqlite
