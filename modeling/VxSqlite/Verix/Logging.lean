import VxSqlite.Flash
import VxSqlite.Lib.Run
import VxSqlite.Verix.Lockstep
import VxSqlite.Verix.Session

/-!
# The two builds side by side

`Exposed` says of a call, from the answers of the system, that it takes a path on which `errno` is
read behind a log line. The two builds agree after every call of a sequence exactly if no call of
it is exposed.
-/

namespace VxSqlite

variable {σ : Type} {env : Env σ} {errnoAfter : Nat → Int} {w w' : World σ}

/-! ## One call -/

/-- The call takes a path on which `errno` is read behind a log line. -/
def VfsCall.Exposed (env : Env σ) (s : Session σ) : VfsCall → Prop
  | .xClose slot => closeExposed env (s.files slot) s.world
  | .xRead slot _ amt offset => readExposed env (s.files slot) amt offset s.world
  | .xWrite slot pBuf offset => writeExposed env (s.files slot) pBuf offset s.world
  | .xTruncate slot nByte => truncateExposed env (s.files slot) nByte s.world
  | .xFileSize slot _ => fileSizeExposed env (s.files slot) s.world
  | .xLock slot => (env.sys (.lock (s.files slot).h) s.world).value ≠ 0
  | .xUnlock slot => (env.sys (.unlock (s.files slot).h) s.world).value ≠ 0
  | .xOpen zName _ flags => openExposed env zName flags s.world
  | .xDelete zName => deleteExposed env zName s.world
  | _ => False

/-- What the caller and the system can see: not `errno`, which only the port looks at. -/
structure SameState (s s' : Session σ) : Prop where
  os : s'.world.os = s.world.os
  lastErrno : s'.world.lastErrno = s.world.lastErrno
  files : s'.files = s.files

/-- The call is `xDelete`, which turns `errno` into its result. Every other method saves it. -/
def VfsCall.isDelete : VfsCall → Bool
  | .xDelete _ => true
  | _ => false

/-- The outcomes of one call in the two builds. -/
structure CallFollows (errnoAfter : Nat → Int) (exposed : Prop) (isDelete : Bool)
    (r r' : VfsResult × Session σ) : Prop where
  lockstep : InLockstep errnoAfter r.2.world r'.2.world
  files : r'.2.files = r.2.files
  same : ¬ exposed → r'.1 = r.1 ∧ r'.2.world.lastErrno = r.2.world.lastErrno
  saves : exposed → isDelete = false → ∃ n, r'.2.world.lastErrno = errnoAfter n
  deletes : exposed → isDelete = true →
    ∃ e n, r.1 = .code (deleteError e) ∧ r'.1 = .code (deleteError (errnoAfter n))

variable {s s' : Session σ}

/-- A call that follows in its world and returns the same result. -/
theorem Follows.call {exposed : Prop} {result result' : VfsResult} {files : Nat → VerixFile}
    (h : Follows errnoAfter exposed w w') (hresult : result' = result) :
    CallFollows errnoAfter exposed false (result, ⟨w, files⟩) (result', ⟨w', files⟩) :=
  ⟨h.lockstep, rfl, fun hsafe => ⟨hresult, h.same hsafe⟩, fun hexposed _ => h.differs hexposed,
    fun _ hdelete => nomatch hdelete⟩

/-- Sessions in lockstep stay in lockstep over a call. They agree on what it returns and on
`last_errno` unless it is exposed, and then a value left by a log line decides the one or the
other. -/
theorem VfsCall.perform_follows (env : Env σ) (call : VfsCall)
    (h : Level errnoAfter s.world s'.world) (hfiles : s'.files = s.files) :
    SameFault (CallFollows errnoAfter (call.Exposed env s) call.isDelete)
      (call.perform env.quiet s) (call.perform (env.logging errnoAfter) s') := by
  obtain ⟨w, files⟩ := s
  obtain ⟨w', files'⟩ := s'
  obtain rfl : files' = files := hfiles
  have hlogged := h.logPrintf env
  cases call with
  | xClose slot =>
      obtain ⟨hrc, hfollows⟩ := verixClose_follows env h (files' slot)
      exact hfollows.call (congrArg VfsResult.code hrc)
  | xRead slot pBuf amt offset =>
      obtain ⟨hrc, hbuf, hfollows⟩ := verixRead_follows env h (files' slot) pBuf amt offset
      exact hfollows.call (congrArg₂ VfsResult.read hrc hbuf)
  | xWrite slot pBuf offset =>
      simp only [perform, Exposed]
      rcases (verixWrite_follows env h (files' slot) pBuf offset).cases with
        ⟨r, r', hquiet, hlogging, hrc, hfollows⟩ | ⟨fault, hquiet, hlogging⟩
      · rw [hquiet, hlogging]
        exact hfollows.call (congrArg VfsResult.code hrc)
      · rw [hquiet, hlogging]
        exact rfl
  | xTruncate slot nByte =>
      obtain ⟨hrc, hfollows⟩ := verixTruncate_follows env h (files' slot) nByte
      exact hfollows.call (congrArg VfsResult.code hrc)
  | xSync slot => exact h.follows.call rfl
  | xFileSize slot pSize =>
      obtain ⟨hrc, hsize, hfollows⟩ := verixFileSize_follows env h (files' slot) pSize
      exact hfollows.call (congrArg₂ VfsResult.value hrc hsize)
  | xLock slot =>
      obtain ⟨hrc, hfollows⟩ := verixLock_follows env h (files' slot)
      exact hfollows.call (congrArg VfsResult.code hrc)
  | xUnlock slot =>
      obtain ⟨hrc, hfollows⟩ := verixUnlock_follows env h (files' slot)
      exact hfollows.call (congrArg VfsResult.code hrc)
  | xCheckReservedLock slot =>
      exact (verixCheckReservedLock_follows env h (files' slot)).call rfl
  | xFileControl slot op pArg => exact hlogged.follows.call rfl
  | xSectorSize slot => exact hlogged.follows.call rfl
  | xDeviceCharacteristics slot => exact hlogged.follows.call rfl
  | xOpen zName slot flags =>
      simp only [perform, Exposed]
      rcases (verixOpen_follows env h zName (files' slot) flags).cases with
        ⟨r, r', hquiet, hlogging, hrc, hout, hfile, hfollows⟩ | ⟨fault, hquiet, hlogging⟩
      · rw [hquiet, hlogging, ok_bind, ok_bind, hfile]
        exact hfollows.call (congrArg₂ VfsResult.opened hrc hout)
      · rw [hquiet, hlogging]
        exact rfl
  | xDelete zName =>
      obtain ⟨hfollows, hsafe, hexposed⟩ := verixDelete_follows env h zName
      refine ⟨hfollows.lockstep, rfl, fun hnot => ⟨congrArg VfsResult.code (hsafe hnot),
        hfollows.same id⟩, fun _ hother => (nomatch hother), fun hyes _ => ?_⟩
      obtain ⟨errno, n, hquiet, hlogging⟩ := hexposed hyes
      exact ⟨errno, n, congrArg VfsResult.code hquiet, congrArg VfsResult.code hlogging⟩
  | xAccess zName flags =>
      obtain ⟨hout, hfollows⟩ := verixAccess_follows env h zName flags
      exact hfollows.call (congrArg (VfsResult.access .ok) hout)
  | xFullPathname zName => exact hlogged.follows.call rfl
  | xRandomness nByte =>
      obtain ⟨hbytes, hlevel⟩ := verixRandomnessLoop_follows env nByte hlogged
      exact hlevel.follows.call (congrArg (VfsResult.random nByte) hbytes)
  | xSleep microseconds => exact (hlogged.sys env _).follows.call rfl
  | xCurrentTime =>
      exact (hlogged.sys env .readClock).follows.call
        (congrArg (fun clock => VfsResult.number (verixClockValue clock))
          (hlogged.value env .readClock))
  | xGetLastError nBuf zBuf =>
      have htext : verixGetLastError nBuf zBuf w' = verixGetLastError nBuf zBuf w := by
        rw [verixGetLastError, verixGetLastError, verixErrorText, verixErrorText, h.lastErrno]
      simp only [perform, htext]
      cases verixGetLastError nBuf zBuf w with
      | error fault => exact rfl
      | ok r => exact h.follows.call rfl

theorem writeLoopExposed.performs {handle : Int} {fuel : Nat} {pBuf : List UInt8}
    (h : writeLoopExposed env handle fuel pBuf w) :
    ∃ r, verixWriteLoop env.quiet handle fuel pBuf w = .ok r := by
  induction fuel generalizing pBuf w with
  | zero =>
      cases pBuf with
      | nil => exact h.elim
      | cons byte rest => exact h.elim
  | succ fuel ih =>
      cases pBuf with
      | nil => exact h.elim
      | cons byte rest =>
          simp only [writeLoopExposed, verixWriteLoop, Env.quiet_sys] at h ⊢
          cases hvalue : (env.sys (.write handle (byte :: rest)) w).value with
          | none => exact ⟨_, rfl⟩
          | some count =>
              rw [hvalue] at h
              exact ih h

/-- An exposed call does not fault. -/
theorem VfsCall.Exposed.performs {call : VfsCall} (h : call.Exposed env s) :
    ∃ r, call.perform env.quiet s = .ok r := by
  cases call with
  | xWrite slot pBuf offset =>
      have hwrite : ∃ r, verixWrite env.quiet (s.files slot) pBuf offset s.world = .ok r := by
        simp only [Exposed, writeExposed, verixWrite, Env.quiet_sys] at h ⊢
        by_cases hseek : (env.sys (.lseek (s.files slot).h (toInt offset)) s.world).value = -1
        · simp only [hseek, if_true]
          exact ⟨_, rfl⟩
        · simp only [hseek, if_false] at h ⊢
          exact h.performs
      obtain ⟨r, hr⟩ := hwrite
      exact ⟨_, by rw [perform, hr]; rfl⟩
  | xOpen zName slot flags =>
      have hopen : ∃ r, verixOpen env.quiet zName (s.files slot) flags s.world = .ok r := by
        simp only [Exposed, openExposed] at h
        unfold verixOpen
        cases hname : verixOpenFilename env zName s.world with
        | error fault =>
            rw [hname] at h
            exact h.elim
        | ok named =>
            rw [hname] at h
            rw [show verixOpenFilename env.quiet zName s.world = _ from hname, ok_bind]
            have hfail : (env.quiet.sys (.openFile named.1 (verixOpenFlags flags))
              (env.quiet.logPrintf named.2)).value = -1 := h
            simp only [verixOpenFile, hfail, if_true]
            exact ⟨_, rfl⟩
      obtain ⟨r, hr⟩ := hopen
      exact ⟨_, by rw [perform, hr]; rfl⟩
  | xGetLastError nBuf zBuf => exact h.elim
  | _ => exact ⟨_, rfl⟩

/-- Some value that a log line may leave in `errno` makes an exposed call differ. -/
theorem CallFollows.differs {exposed : Prop} (isDelete : Bool) (r : VfsResult × Session σ)
    (hexposed : exposed) :
    ∃ e, ∀ r', CallFollows (fun _ => e) exposed isDelete r r' →
      ¬ (r'.1 = r.1 ∧ r'.2.world.lastErrno = r.2.world.lastErrno) := by
  cases isDelete with
  | false =>
      refine ⟨r.2.world.lastErrno + 1, ?_⟩
      intro r' hfollows hsame
      obtain ⟨n, hn⟩ := hfollows.saves hexposed rfl
      omega
  | true =>
      by_cases hnoent : r.1 = .code .ioerrDeleteNoent
      · refine ⟨0, ?_⟩
        intro r' hfollows hsame
        obtain ⟨e, n, hquiet, hlogging⟩ := hfollows.deletes hexposed rfl
        rw [hsame.1, hnoent] at hlogging
        simp [deleteError, ENOENT] at hlogging
      · refine ⟨ENOENT, ?_⟩
        intro r' hfollows hsame
        obtain ⟨e, n, hquiet, hlogging⟩ := hfollows.deletes hexposed rfl
        rw [hsame.1] at hlogging
        exact hnoent (by simpa [deleteError] using hlogging)

/-! ## Sequences of calls -/

/-- The two builds, from the given states, agree before the first call of the sequence and after
each: on the results and on the state. -/
def BuildsAgree (env : Env σ) (errnoAfter : Nat → Int) :
    List VfsCall → Session σ → Session σ → Prop
  | [], s, s' => SameState s s'
  | call :: rest, s, s' => SameState s s' ∧
      SameFault (fun r r' => r'.1 = r.1 ∧ BuildsAgree env errnoAfter rest r.2 r'.2)
        (call.perform env.quiet s) (call.perform (env.logging errnoAfter) s')

theorem BuildsAgree.head {calls : List VfsCall} (h : BuildsAgree env errnoAfter calls s s') :
    SameState s s' := by
  cases calls with
  | nil => exact h
  | cons call rest => exact h.1

/-- Without an exposed call the builds agree, whatever the log lines leave in `errno`. -/
theorem buildsAgree_of_eachStep {calls : List VfsCall} (h : Level errnoAfter s.world s'.world)
    (hfiles : s'.files = s.files)
    (hcalls : Run.EachStep (VfsCall.step env.quiet) (fun s call => ¬ call.Exposed env s) s calls) :
    BuildsAgree env errnoAfter calls s s' := by
  induction calls generalizing s s' with
  | nil => exact ⟨h.lockstep.os, h.lastErrno, hfiles⟩
  | cons call rest ih =>
      obtain ⟨hsafe, hrest⟩ := hcalls
      refine ⟨⟨h.lockstep.os, h.lastErrno, hfiles⟩, ?_⟩
      rcases (call.perform_follows env h hfiles).cases with ⟨r, r', hquiet, hlogging, hfollows⟩ |
        ⟨fault, hquiet, hlogging⟩
      · rw [hquiet, hlogging]
        obtain ⟨hresult, hlast⟩ := hfollows.same hsafe
        have hstep : call.step env.quiet s = some r.2 := by rw [VfsCall.step, hquiet]
        exact ⟨hresult, ih ⟨hfollows.lockstep, hlast⟩ hfollows.files (hrest r.2 hstep)⟩
      · rw [hquiet, hlogging]
        exact rfl

/-- With an exposed call, the builds disagree after it for some value that the log lines leave
in `errno`. The induction finds the first exposed call. -/
theorem exists_not_buildsAgree {calls : List VfsCall}
    (hcalls :
      ¬ Run.EachStep (VfsCall.step env.quiet) (fun s call => ¬ call.Exposed env s) s calls) :
    ∃ e, ∀ s', InLockstep (fun _ => e) s.world s'.world →
      ¬ BuildsAgree env (fun _ => e) calls s s' := by
  induction calls generalizing s with
  | nil => exact absurd trivial hcalls
  | cons call rest ih =>
      by_cases hexposed : call.Exposed env s
      · -- the builds differ in this call; if they differed before it, they do not agree either
        obtain ⟨r, hquiet⟩ := hexposed.performs
        obtain ⟨e, he⟩ := CallFollows.differs call.isDelete r hexposed
        refine ⟨e, ?_⟩
        intro s' hlock hagree
        have hlevel : Level (fun _ => e) s.world s'.world := ⟨hlock, hagree.1.lastErrno⟩
        rcases (call.perform_follows env hlevel hagree.1.files).cases with
          ⟨r₁, r', hquiet₁, hlogging, hfollows⟩ | ⟨fault, hfault, -⟩
        · cases hquiet.symm.trans hquiet₁
          have hsame := hagree.2
          rw [hquiet, hlogging] at hsame
          exact he r' hfollows ⟨hsame.1, hsame.2.head.lastErrno⟩
        · rw [hquiet] at hfault
          cases hfault
      · -- the first exposed call comes later
        have hrest : ∃ next, call.step env.quiet s = some next ∧ ¬ Run.EachStep
            (VfsCall.step env.quiet) (fun s call => ¬ call.Exposed env s) next rest := by
          by_contra hnone
          refine hcalls ⟨hexposed, ?_⟩
          intro next hnext
          by_contra hbad
          exact hnone ⟨next, hnext, hbad⟩
        obtain ⟨next, hnext, hbad⟩ := hrest
        obtain ⟨e, he⟩ := ih hbad
        refine ⟨e, ?_⟩
        intro s' hlock hagree
        have hlevel : Level (fun _ => e) s.world s'.world := ⟨hlock, hagree.1.lastErrno⟩
        rcases (call.perform_follows env hlevel hagree.1.files).cases with
          ⟨r, r', hquiet, hlogging, hfollows⟩ | ⟨fault, hfault, -⟩
        · rw [VfsCall.step, hquiet] at hnext
          cases hnext
          have hsame := hagree.2
          rw [hquiet, hlogging] at hsame
          exact he r'.2 hfollows.lockstep hsame.2
        · rw [VfsCall.step, hfault] at hnext
          cases hnext

/-- From the start of a process, a sequence of calls has the same results and leaves the same
state in both builds, whatever the log lines leave in `errno`, exactly if no call of it takes a
path on which `errno` is read behind a log line. -/
theorem buildsAgree_iff (env : Env σ) (os : σ) (errno lastErrno : Int) (files : Nat → VerixFile)
    (calls : List VfsCall) :
    (∀ errnoAfter, BuildsAgree env errnoAfter calls (.start os errno lastErrno files)
        (.start os errno lastErrno files)) ↔
      Run.EachStep (VfsCall.step env.quiet) (fun s call => ¬ call.Exposed env s)
        (.start os errno lastErrno files) calls := by
  have hstart : ∀ errnoAfter, InLockstep errnoAfter
      (Session.start os errno lastErrno files).world
      (Session.start os errno lastErrno files).world :=
    fun _ => ⟨rfl, rfl, fun _ => rfl, fun hstale => by cases hstale⟩
  constructor
  · intro hagree
    by_contra hbad
    obtain ⟨e, he⟩ := exists_not_buildsAgree hbad
    exact he _ (hstart _) (hagree _)
  · intro hcalls errnoAfter
    exact buildsAgree_of_eachStep ⟨hstart _, rfl⟩ rfl hcalls

/-- Deleting the write-ahead log of a database that has none: the quiet build reports that there
is no such file, the logging build an error. -/
theorem verixDelete_logging_differs :
    ¬ ∀ (env : Env Flash) (os : Flash) (errno lastErrno : Int) (files : Nat → VerixFile)
      (calls : List VfsCall) (errnoAfter : Nat → Int),
      BuildsAgree env errnoAfter calls (.start os errno lastErrno files)
        (.start os errno lastErrno files) := by
  intro h
  have hagree := h quietFlash (Flash.ofFiles [] (by decide)) 0 0 (fun _ => .zeroed)
    [.xDelete (ascii "db-wal")] (fun _ => 0)
  have hcode : VfsResult.code .ioerrDelete = VfsResult.code .ioerrDeleteNoent := hagree.2.1
  cases hcode

end VxSqlite
