import VxSqlite.Lib.Run
import VxSqlite.Verix.ReadBuffer
import VxSqlite.Verix.Session

/-!
# The error that is reported last

The port keeps the `errno` of the last failure in `last_errno`, by hand, on every exit of its
functions. To say what it should hold, a `FailureHistory` is a list that grows by the `errno` of
each system call that fails. Two exits depart from it: a failed removal is not noted, and a read
that comes back short notes an `errno` that nothing has set. The text that is then made of
`last_errno` has its own limits.
-/

namespace VxSqlite

/-- The system call failed, going by what it returned. That a name has no attributes is an
answer. -/
def Syscall.Failed : {α : Type} → Syscall α → α → Prop
  | _, .openFile _ _, value => value = -1
  | _, .close _, value => value ≠ 0
  | _, .remove _, value => value ≠ 0
  | _, .lseek _ _, value => value = -1
  | _, .read _ _, value => value = none
  | _, .write _ _, value => value = none
  | _, .getFileSize _, value => value.1 ≠ 0
  | _, .dirGetFileSz _, value => value = -1
  | _, .delete_ _ _, value => value ≠ 0
  | _, .lock _, value => value ≠ 0
  | _, .unlock _, value => value ≠ 0
  | _, .dirGetAttributes _, _ => False
  | _, .readTicks, _ => False
  | _, .readClock, _ => False
  | _, .rand, _ => False
  | _, .svcWait _, _ => False

instance {α : Type} (c : Syscall α) (value : α) : Decidable (c.Failed value) := by
  cases c <;> unfold Syscall.Failed <;> infer_instance

variable {σ : Type}

/-- `history` lists the `errno` values that the failed calls have set, the last one first. -/
structure FailureHistory (os : Os σ) (history : σ → List Int) : Prop where
  failed : ∀ {α : Type} (c : Syscall α) s, c.Failed (os.call c s).value →
    ∃ e, (os.call c s).errno = some e ∧ history (os.call c s).os = e :: history s
  passed : ∀ {α : Type} (c : Syscall α) s, ¬ c.Failed (os.call c s).value →
    history (os.call c s).os = history s

/-- The system together with a record of the `errno` values of its failed calls. -/
def Os.recording (os : Os σ) : Os (σ × List Int) where
  call c s :=
    let reply := os.call c s.1
    let record := if c.Failed reply.value then reply.errno.getD 0 :: s.2 else s.2
    ⟨reply.value, (reply.os, record), reply.errno⟩

/-- Where a failed call always sets `errno`, the record is the history of the failures. -/
theorem Os.recording_history {os : Os σ}
    (hset : ∀ {α : Type} (c : Syscall α) s, (os.call c s).errno = none →
      ¬ c.Failed (os.call c s).value) : FailureHistory os.recording Prod.snd where
  failed c s hfailed := by
    have hreply : c.Failed (os.call c s.1).value := hfailed
    obtain ⟨e, he⟩ := Option.ne_none_iff_exists'.mp fun hnone => hset c s.1 hnone hreply
    refine ⟨e, he, ?_⟩
    show (if c.Failed (os.call c s.1).value then _ else _) = _
    rw [if_pos hreply, he]
    rfl
  passed c s hpassed := if_neg hpassed

variable {env : Env σ} {history : σ → List Int}

/-- After a failed call `errno` is on top of the history. -/
theorem FailureHistory.sys_failed (laws : FailureHistory env.os history) {α : Type}
    {c : Syscall α} {w : World σ} (h : c.Failed (env.sys c w).value) :
    history (env.sys c w).world.os = (env.sys c w).world.errno :: history w.os := by
  obtain ⟨e, herrno, hhistory⟩ := laws.failed c w.os h
  have heq : (env.sys c w).world.errno = e := by simp [Env.sys, herrno]
  rw [heq]
  exact hhistory

theorem FailureHistory.sys_passed (laws : FailureHistory env.os history) {α : Type}
    {c : Syscall α} {w : World σ} (h : ¬ c.Failed (env.sys c w).value) :
    history (env.sys c w).world.os = history w.os :=
  laws.passed c w.os h

/-- In the build without logging a log line leaves `errno` alone. -/
theorem logPrintf_errno_quiet (hquiet : env.build = .quiet) (w : World σ) :
    (env.logPrintf w).errno = w.errno := by
  simp [Env.logPrintf, hquiet, Build.errnoAfterLog]

/-! ## What one operation notes -/

/-- Either no call of the operation failed and `last_errno` is the old one, or the operation
returned an error and `last_errno` is the `errno` of the one call that failed. -/
def Notes (history : σ → List Int) (w : World σ) (rc : ResultCode) (w' : World σ) : Prop :=
  (history w'.os = history w.os ∧ w'.lastErrno = w.lastErrno) ∨
    (rc ≠ .ok ∧ history w'.os = w'.lastErrno :: history w.os)

section Operations

variable (laws : FailureHistory env.os history) (hquiet : env.build = .quiet)
include laws hquiet

/-- A call that failed after others that did not is noted behind its log line. -/
theorem Notes.of_failed {α : Type} {c : Syscall α} {v w : World σ} {rc : ResultCode}
    (hrc : rc ≠ .ok) (hsame : history v.os = history w.os)
    (hfailed : c.Failed (env.sys c v).value) :
    Notes history w rc (env.logPrintf (env.sys c v).world).saveErrno := by
  have herrno : (env.logPrintf (env.sys c v).world).errno = (env.sys c v).world.errno :=
    logPrintf_errno_quiet hquiet _
  refine Or.inr ⟨hrc, ?_⟩
  rw [World.saveErrno_lastErrno, herrno, ← hsame]
  exact laws.sys_failed hfailed

theorem verixClose_notes (pFile : VerixFile) (w : World σ) :
    Notes history w (verixClose env pFile w).1 (verixClose env pFile w).2 := by
  unfold verixClose
  by_cases hclose : (env.sys (.close pFile.h) w).value = 0
  · have hclosed : history (env.sys (.close pFile.h) w).world.os = history w.os :=
      laws.sys_passed (by simpa [Syscall.Failed] using hclose)
    by_cases htemp : pFile.temporary = true
    · simp only [hclose, htemp, ne_eq, not_true_eq_false, if_false, if_true]
      by_cases hremove : (env.sys (.remove pFile.filename)
          (env.sys (.close pFile.h) w).world).value = 0
      · have hremoved := laws.sys_passed (c := .remove pFile.filename)
          (w := (env.sys (.close pFile.h) w).world) (by simpa [Syscall.Failed] using hremove)
        rw [if_pos hremove]
        exact Or.inl ⟨hremoved.trans hclosed, rfl⟩
      · rw [if_neg hremove]
        exact Notes.of_failed laws hquiet (by simp) hclosed hremove
    · simp only [hclose, htemp, ne_eq, not_true_eq_false, if_false, if_true, Bool.false_eq_true]
      exact Or.inl ⟨hclosed, rfl⟩
  · rw [if_pos hclose]
    exact Or.inr ⟨by simp, laws.sys_failed hclose⟩

omit hquiet in
theorem verixWriteLoop_notes (h : Int) {fuel : Nat} {pBuf : List UInt8} {w : World σ}
    {r : ResultCode × World σ} (hloop : verixWriteLoop env h fuel pBuf w = .ok r) :
    Notes history w r.1 r.2 := by
  induction fuel generalizing pBuf w with
  | zero =>
      cases pBuf with
      | nil =>
          cases hloop
          exact Or.inl ⟨rfl, rfl⟩
      | cons byte rest => cases hloop
  | succ fuel ih =>
      cases pBuf with
      | nil =>
          cases hloop
          exact Or.inl ⟨rfl, rfl⟩
      | cons byte rest =>
          simp only [verixWriteLoop] at hloop
          rcases hvalue : (env.sys (.write h (byte :: rest)) w).value with _ | count
          · have hfailed := laws.sys_failed (c := .write h (byte :: rest)) (w := w) hvalue
            rw [hvalue] at hloop
            cases hloop
            exact Or.inr ⟨by simp, hfailed⟩
          · have hpassed := laws.sys_passed (c := .write h (byte :: rest)) (w := w)
              (by simp only [Syscall.Failed, hvalue]; simp)
            rw [hvalue] at hloop
            rcases ih hloop with ⟨hhistory, hlast⟩ | ⟨hrc, hhistory⟩
            · exact Or.inl ⟨hhistory.trans hpassed, hlast⟩
            · exact Or.inr ⟨hrc, by rw [hhistory, hpassed]⟩

theorem verixWrite_notes (pFile : VerixFile) {pBuf : List UInt8} {offset : Int} {w : World σ}
    {r : ResultCode × World σ} (hwrite : verixWrite env pFile pBuf offset w = .ok r) :
    Notes history w r.1 r.2 := by
  simp only [verixWrite] at hwrite
  by_cases hseek : (env.sys (.lseek pFile.h (toInt offset)) w).value = -1
  · rw [if_pos hseek] at hwrite
    cases hwrite
    exact Notes.of_failed laws hquiet (by simp) rfl hseek
  · rw [if_neg hseek] at hwrite
    have hsought := laws.sys_passed (c := .lseek pFile.h (toInt offset)) (w := w) hseek
    rcases verixWriteLoop_notes laws pFile.h hwrite with ⟨hhistory, hlast⟩ | ⟨hrc, hhistory⟩
    · exact Or.inl ⟨hhistory.trans hsought, hlast⟩
    · exact Or.inr ⟨hrc, by rw [hhistory, hsought]⟩

theorem verixTruncate_notes (pFile : VerixFile) (nByte : Int) (w : World σ) :
    Notes history w (verixTruncate env pFile nByte w).1 (verixTruncate env pFile nByte w).2 := by
  let size := env.sys (.getFileSize pFile.h) w
  let ls := env.sys (.lseek pFile.h (toInt nByte)) size.world
  let deleted := env.sys (.delete_ pFile.h (size.value.2 - toInt nByte)) ls.world
  have htruncate : verixTruncate env pFile nByte w =
      if size.value.1 ≠ 0 then (.ioerrTruncate, (env.logPrintf size.world).saveErrno)
      else if ls.value = -1 then (.ioerrTruncate, (env.logPrintf ls.world).saveErrno)
      else if deleted.value ≠ 0 then (.ioerrTruncate, (env.logPrintf deleted.world).saveErrno)
      else (.ok, env.logPrintf deleted.world) := rfl
  rw [htruncate]
  by_cases hquery : size.value.1 ≠ 0
  · rw [if_pos hquery]
    exact Notes.of_failed laws hquiet (by simp) rfl hquery
  have hsize : history size.world.os = history w.os := laws.sys_passed hquery
  rw [if_neg hquery]
  by_cases hseek : ls.value = -1
  · rw [if_pos hseek]
    exact Notes.of_failed laws hquiet (by simp) hsize hseek
  have hstep : history ls.world.os = history size.world.os := laws.sys_passed hseek
  have hsought := hstep.trans hsize
  rw [if_neg hseek]
  by_cases hdelete : deleted.value ≠ 0
  · rw [if_pos hdelete]
    exact Notes.of_failed laws hquiet (by simp) hsought hdelete
  · have hlast : history deleted.world.os = history ls.world.os := laws.sys_passed hdelete
    rw [if_neg hdelete]
    exact Or.inl ⟨hlast.trans hsought, rfl⟩

omit hquiet in
theorem verixFileSize_notes (pFile : VerixFile) (pSize : Int) (w : World σ) :
    Notes history w (verixFileSize env pFile pSize w).1
      (verixFileSize env pFile pSize w).2.2 := by
  unfold verixFileSize
  by_cases hsize : (env.sys (.dirGetFileSz pFile.filename) w).value = -1
  · rw [if_pos hsize]
    exact Or.inr ⟨by simp, laws.sys_failed hsize⟩
  · rw [if_neg hsize]
    exact Or.inl ⟨laws.sys_passed hsize, rfl⟩

theorem verixLock_notes (pFile : VerixFile) (w : World σ) :
    Notes history w (verixLock env pFile w).1 (verixLock env pFile w).2 := by
  unfold verixLock
  by_cases hlock : (env.sys (.lock pFile.h) w).value = 0
  · rw [if_pos hlock]
    exact Or.inl ⟨laws.sys_passed (by simpa [Syscall.Failed] using hlock), rfl⟩
  · rw [if_neg hlock]
    exact Notes.of_failed laws hquiet (by simp) rfl hlock

theorem verixUnlock_notes (pFile : VerixFile) (w : World σ) :
    Notes history w (verixUnlock env pFile w).1 (verixUnlock env pFile w).2 := by
  unfold verixUnlock
  by_cases hunlock : (env.sys (.unlock pFile.h) w).value = 0
  · rw [if_pos hunlock]
    exact Or.inl ⟨laws.sys_passed (by simpa [Syscall.Failed] using hunlock), rfl⟩
  · rw [if_neg hunlock]
    exact Notes.of_failed laws hquiet (by simp) rfl hunlock

theorem verixOpen_notes {zName : Option CString} {id : VerixFile} {flags : Nat} {w : World σ}
    {opened : Opened σ} (hopen : verixOpen env zName id flags w = .ok opened) :
    Notes history w opened.rc opened.world := by
  obtain ⟨⟨filename, v⟩, hnamed, hfile⟩ := bind_eq_ok_iff.mp hopen
  -- building the name asks at most for the tick counter
  have hbuilt : history v.os = history w.os ∧ v.lastErrno = w.lastErrno := by
    cases zName with
    | none =>
        obtain ⟨text, -, heq⟩ := bind_eq_ok_iff.mp hnamed
        cases heq
        exact ⟨laws.sys_passed (c := .readTicks) fun hfailed => hfailed, rfl⟩
    | some name =>
        obtain ⟨text, -, hrest⟩ := bind_eq_ok_iff.mp hnamed
        obtain ⟨stored, -, heq⟩ := bind_eq_ok_iff.mp hrest
        cases heq
        exact ⟨rfl, rfl⟩
  simp only [verixOpenFile] at hfile
  by_cases hfail : (env.sys (.openFile filename (verixOpenFlags flags))
      (env.logPrintf v)).value = -1
  · rw [if_pos hfail] at hfile
    cases hfile
    exact Notes.of_failed laws hquiet (by simp) hbuilt.1 hfail
  · have hpassed := laws.sys_passed (w := env.logPrintf v)
      (c := .openFile filename (verixOpenFlags flags)) hfail
    rw [if_neg hfail] at hfile
    cases hstored : verixOpenStrcpy env zName with
    | error fault =>
        rw [hstored] at hfile
        cases hfile
    | ok stored =>
        rw [hstored] at hfile
        cases hfile
        exact Or.inl ⟨hpassed.trans hbuilt.1, hbuilt.2⟩

end Operations

/-! ## The two exits that depart -/

/-- `read()` copied some bytes, but not all that were asked for. -/
def ReadsShort (env : Env σ) (pFile : VerixFile) (amt offset : Int) (w : World σ) : Prop :=
  ∃ bytes, readOutcome env pFile amt offset w = .delivered bytes ∧ (bytes.length : Int) ≠ amt

/-- `errno` after the two system calls of a read. -/
def errnoAfterRead (env : Env σ) (pFile : VerixFile) (amt offset : Int) (w : World σ) : Int :=
  (env.sys (.read pFile.h amt) (env.sys (.lseek pFile.h (toInt offset)) w).world).world.errno

/-- A read that comes back short notes an `errno` though no call failed; every other read that
returns an error notes the call that failed. -/
theorem verixRead_notes (laws : FailureHistory env.os history) (hquiet : env.build = .quiet)
    (pFile : VerixFile) (pBuf : Buffer UInt8) (amt offset : Int) (w : World σ) :
    (ReadsShort env pFile amt offset w ∧
      history (verixRead env pFile pBuf amt offset w).2.2.os = history w.os ∧
      (verixRead env pFile pBuf amt offset w).2.2.lastErrno =
        errnoAfterRead env pFile amt offset w) ∨
    (¬ ReadsShort env pFile amt offset w ∧
      ((verixRead env pFile pBuf amt offset w).1 = .ok ∧
          (verixRead env pFile pBuf amt offset w).2.2.lastErrno = w.lastErrno ∨
        Notes history w (verixRead env pFile pBuf amt offset w).1
          (verixRead env pFile pBuf amt offset w).2.2)) := by
  unfold verixRead
  by_cases hseek : (env.sys (.lseek pFile.h (toInt offset)) w).value = -1
  · right
    rw [if_pos hseek]
    refine ⟨?_, Or.inr (Or.inr ⟨by simp, laws.sys_failed hseek⟩)⟩
    intro hshort
    obtain ⟨bytes, houtcome, -⟩ := hshort
    rw [readOutcome, if_pos hseek] at houtcome
    cases houtcome
  · have hsought := laws.sys_passed (c := .lseek pFile.h (toInt offset)) (w := w) hseek
    rw [if_neg hseek]
    let reply := env.sys (.read pFile.h amt) (env.sys (.lseek pFile.h (toInt offset)) w).world
    have houtcome : readOutcome env pFile amt offset w = .ofRead reply.value := if_neg hseek
    by_cases hcount : readCount reply.value = amt
    · rw [if_pos hcount]
      refine Or.inr ⟨?_, Or.inl ⟨rfl, rfl⟩⟩
      intro hshort
      obtain ⟨bytes, hbytes, hne⟩ := hshort
      rw [houtcome] at hbytes
      rcases hvalue : reply.value with _ | got
      · rw [hvalue] at hbytes
        cases hbytes
      · rw [hvalue] at hbytes hcount
        cases hbytes
        exact hne hcount
    · rw [if_neg hcount]
      rcases hvalue : reply.value with _ | got
      · refine Or.inr ⟨?_, Or.inr (Notes.of_failed laws hquiet (by simp) hsought hvalue)⟩
        intro hshort
        obtain ⟨bytes, hbytes, -⟩ := hshort
        rw [houtcome, hvalue] at hbytes
        cases hbytes
      · have hpassed : history reply.world.os =
            history (env.sys (.lseek pFile.h (toInt offset)) w).world.os :=
          laws.sys_passed (by
            show reply.value ≠ none
            rw [hvalue]
            exact Option.some_ne_none got)
        refine Or.inl ⟨⟨got, by rw [houtcome, hvalue]; rfl, ?_⟩, hpassed.trans hsought, ?_⟩
        · rwa [hvalue] at hcount
        · exact logPrintf_errno_quiet hquiet reply.world

/-- A removal never notes anything. -/
theorem verixDelete_lastErrno (zFilename : CString) (w : World σ) :
    (verixDelete env zFilename w).2.lastErrno = w.lastErrno := by
  unfold verixDelete
  dsimp only
  split <;> rfl

theorem verixDelete_failed {zFilename : CString} {w : World σ}
    (h : (env.sys (.remove zFilename) w).value ≠ 0) :
    (verixDelete env zFilename w).1 ≠ .ok ∧
      (verixDelete env zFilename w).2 = env.logPrintf (env.sys (.remove zFilename) w).world := by
  unfold verixDelete
  rw [if_neg h]
  refine ⟨?_, rfl⟩
  show (if _ then ResultCode.ioerrDeleteNoent else .ioerrDelete) ≠ .ok
  split <;> simp

/-! ## Sequences of calls -/

/-- The call returned an error code. -/
def VfsResult.IsError : VfsResult → Prop
  | .code rc => rc ≠ .ok
  | .read rc _ => rc ≠ .ok
  | .value rc _ => rc ≠ .ok
  | .opened rc _ => rc ≠ .ok
  | _ => False

/-- If the call returns an error and a system call of it failed, `last_errno` is the `errno` of
that failure; if no system call of it failed, `last_errno` is the old one. -/
def VfsCall.ReportsLast (env : Env σ) (history : σ → List Int) (s : Session σ)
    (call : VfsCall) : Prop :=
  ∀ result next, call.perform env s = .ok (result, next) →
    (result.IsError → history next.world.os ≠ history s.world.os →
      (history next.world.os).head? = some next.world.lastErrno) ∧
    (history next.world.os = history s.world.os → next.world.lastErrno = s.world.lastErrno)

/-- The call takes neither of the two exits, or finds `last_errno` to be right already: a read
does not come back short, unless `errno` is then what `last_errno` holds, and a removal does not
fail, unless with the `errno` that `last_errno` holds. -/
def VfsCall.AvoidsExits (env : Env σ) (s : Session σ) : VfsCall → Prop
  | .xRead slot _ amt offset => ReadsShort env (s.files slot) amt offset s.world →
      errnoAfterRead env (s.files slot) amt offset s.world = s.world.lastErrno
  | .xDelete zName => (env.sys (.remove zName) s.world).value ≠ 0 →
      (env.sys (.remove zName) s.world).world.errno = s.world.lastErrno
  | _ => True

/-- An operation that notes its failures reports the last one. -/
theorem Notes.reports {w w' : World σ} {rc : ResultCode} (h : Notes history w rc w') :
    (history w'.os ≠ history w.os → (history w'.os).head? = some w'.lastErrno) ∧
      (history w'.os = history w.os → w'.lastErrno = w.lastErrno) := by
  rcases h with ⟨hsame, hlast⟩ | ⟨-, hgrown⟩
  · exact ⟨fun hne => absurd hsame hne, fun _ => hlast⟩
  · constructor
    · intro _
      rw [hgrown, List.head?_cons]
    · intro hsame
      rw [hgrown] at hsame
      exact absurd hsame (List.cons_ne_self _ _)

/-- A call whose every result comes with noted failures reports the last one. -/
theorem VfsCall.reportsLast_of_notes {s : Session σ} {call : VfsCall}
    (h : ∀ result next, call.perform env s = .ok (result, next) →
      ∃ rc, Notes history s.world rc next.world) : call.ReportsLast env history s := by
  intro result next hperform
  obtain ⟨rc, hnotes⟩ := h result next hperform
  exact ⟨fun _ => hnotes.reports.1, hnotes.reports.2⟩

/-- A call that returns no error code and leaves `last_errno` alone reports the last failure. -/
theorem VfsCall.reportsLast_of_unchanged {s : Session σ} {call : VfsCall}
    (h : ∀ result next, call.perform env s = .ok (result, next) →
      ¬ result.IsError ∧ next.world.lastErrno = s.world.lastErrno) :
    call.ReportsLast env history s := by
  intro result next hperform
  obtain ⟨hok, hlast⟩ := h result next hperform
  exact ⟨fun herror => absurd herror hok, fun _ => hlast⟩

theorem verixRandomnessLoop_lastErrno (n : Nat) (w : World σ) :
    (verixRandomnessLoop env n w).2.lastErrno = w.lastErrno := by
  induction n generalizing w with
  | zero => rfl
  | succ n ih => exact ih _

/-- A read reports the last failure exactly if it does not come back short, or `errno` is then
what `last_errno` holds. -/
theorem xRead_reportsLast_iff (laws : FailureHistory env.os history) (hquiet : env.build = .quiet)
    (s : Session σ) (slot : Nat) (pBuf : Buffer UInt8) (amt offset : Int) :
    (VfsCall.xRead slot pBuf amt offset).ReportsLast env history s ↔
      (VfsCall.xRead slot pBuf amt offset).AvoidsExits env s := by
  have hread := verixRead_notes laws hquiet (s.files slot) pBuf amt offset s.world
  rcases hread with ⟨hshort, hsame, hlast⟩ | ⟨hnot, hrest⟩
  · constructor
    · intro h _
      rw [← hlast]
      exact (h _ _ rfl).2 hsame
    · intro h result next hperform
      cases hperform
      exact ⟨fun _ hne => absurd hsame hne, fun _ => hlast.trans (h hshort)⟩
  · refine ⟨fun _ hshort => absurd hshort hnot, ?_⟩
    intro _ result next hperform
    cases hperform
    rcases hrest with ⟨hok, hlast⟩ | hnotes
    · exact ⟨fun herror => absurd hok herror, fun _ => hlast⟩
    · exact ⟨fun _ => hnotes.reports.1, hnotes.reports.2⟩

/-- A removal reports the last failure exactly if it does not fail, or fails with the `errno` that
`last_errno` holds. -/
theorem xDelete_reportsLast_iff (laws : FailureHistory env.os history) (s : Session σ)
    (zName : CString) :
    (VfsCall.xDelete zName).ReportsLast env history s ↔
      (VfsCall.xDelete zName).AvoidsExits env s := by
  have hlast : (verixDelete env zName s.world).2.lastErrno = s.world.lastErrno :=
    verixDelete_lastErrno zName s.world
  by_cases hremove : (env.sys (.remove zName) s.world).value = 0
  · have hok : verixDelete env zName s.world =
        (.ok, env.logPrintf (env.sys (.remove zName) s.world).world) := if_pos hremove
    refine ⟨fun _ hfailed => absurd hremove hfailed, fun _ => ?_⟩
    apply VfsCall.reportsLast_of_unchanged
    intro result next hperform
    cases hperform
    exact ⟨fun herror => herror (by rw [hok]), hlast⟩
  · obtain ⟨herror, hworld⟩ := verixDelete_failed hremove
    have hhistory : history (verixDelete env zName s.world).2.os =
        (env.sys (.remove zName) s.world).world.errno :: history s.world.os := by
      rw [hworld]
      exact laws.sys_failed (c := .remove zName) hremove
    have hgrown : history (verixDelete env zName s.world).2.os ≠ history s.world.os := by
      rw [hhistory]
      exact List.cons_ne_self _ _
    constructor
    · intro h _
      have hhead := (h _ _ rfl).1 herror hgrown
      rw [hhistory, List.head?_cons, hlast] at hhead
      exact Option.some.inj hhead
    · intro h result next hperform
      cases hperform
      refine ⟨fun _ _ => ?_, fun hsame => absurd hsame hgrown⟩
      rw [hhistory, List.head?_cons, hlast, h hremove]

/-- A call reports the last failure exactly if it avoids the two exits. -/
theorem VfsCall.reportsLast_iff (laws : FailureHistory env.os history)
    (hquiet : env.build = .quiet) (s : Session σ) (call : VfsCall) :
    call.ReportsLast env history s ↔ call.AvoidsExits env s := by
  cases call with
  | xRead slot pBuf amt offset => exact xRead_reportsLast_iff laws hquiet s slot pBuf amt offset
  | xDelete zName => exact xDelete_reportsLast_iff laws s zName
  | xClose slot =>
      refine iff_of_true (VfsCall.reportsLast_of_notes fun result next hperform => ?_) trivial
      cases hperform
      exact ⟨_, verixClose_notes laws hquiet (s.files slot) s.world⟩
  | xWrite slot pBuf offset =>
      refine iff_of_true (VfsCall.reportsLast_of_notes fun result next hperform => ?_) trivial
      obtain ⟨written, hwrite, heq⟩ := bind_eq_ok_iff.mp hperform
      cases heq
      exact ⟨_, verixWrite_notes laws hquiet (s.files slot) hwrite⟩
  | xTruncate slot nByte =>
      refine iff_of_true (VfsCall.reportsLast_of_notes fun result next hperform => ?_) trivial
      cases hperform
      exact ⟨_, verixTruncate_notes laws hquiet (s.files slot) nByte s.world⟩
  | xFileSize slot pSize =>
      refine iff_of_true (VfsCall.reportsLast_of_notes fun result next hperform => ?_) trivial
      cases hperform
      exact ⟨_, verixFileSize_notes laws (s.files slot) pSize s.world⟩
  | xLock slot =>
      refine iff_of_true (VfsCall.reportsLast_of_notes fun result next hperform => ?_) trivial
      cases hperform
      exact ⟨_, verixLock_notes laws hquiet (s.files slot) s.world⟩
  | xUnlock slot =>
      refine iff_of_true (VfsCall.reportsLast_of_notes fun result next hperform => ?_) trivial
      cases hperform
      exact ⟨_, verixUnlock_notes laws hquiet (s.files slot) s.world⟩
  | xOpen zName slot flags =>
      refine iff_of_true (VfsCall.reportsLast_of_notes fun result next hperform => ?_) trivial
      obtain ⟨opened, hopen, heq⟩ := bind_eq_ok_iff.mp hperform
      cases heq
      exact ⟨_, verixOpen_notes laws hquiet hopen⟩
  | xCheckReservedLock slot =>
      refine iff_of_true (VfsCall.reportsLast_of_unchanged fun result next hperform => ?_) trivial
      cases hperform
      refine ⟨by simp [VfsResult.IsError, verixCheckReservedLock], ?_⟩
      simp only [verixCheckReservedLock]
      split <;> rfl
  | xRandomness nByte =>
      refine iff_of_true (VfsCall.reportsLast_of_unchanged fun result next hperform => ?_) trivial
      cases hperform
      exact ⟨id, verixRandomnessLoop_lastErrno nByte _⟩
  | xGetLastError nBuf zBuf =>
      refine iff_of_true (VfsCall.reportsLast_of_unchanged fun result next hperform => ?_) trivial
      obtain ⟨text, -, heq⟩ := bind_eq_ok_iff.mp hperform
      cases heq
      exact ⟨id, rfl⟩
  | _ =>
      refine iff_of_true (VfsCall.reportsLast_of_unchanged fun result next hperform => ?_) trivial
      cases hperform
      exact ⟨by simp [VfsResult.IsError, verixSync, verixFileControl], rfl⟩

/-! ## The text of the error -/

/-- The text that `verixGetLastError` prints. -/
def lastErrorText (lastErrno : Int) : CString := ascii "verix errno: " ++ formatInt lastErrno

theorem digits_length_le_iff {n k : Nat} (hk : 0 < k) : (digits n).length ≤ k ↔ n < 10 ^ k := by
  rw [digits, List.length_map]
  exact Nat.length_toDigits_le_iff (by decide) hk

/-- An `int` prints within six characters exactly if it has at most six digits, one fewer for a
negative one. -/
theorem formatInt_length_le_six_iff (x : Int) :
    (formatInt x).length ≤ 6 ↔ -99999 ≤ x ∧ x ≤ 999999 := by
  unfold formatInt
  split
  · have hsign : (ascii "-").length = 1 := rfl
    have hdigits : (digits x.natAbs).length ≤ 5 ↔ x.natAbs < 10 ^ 5 :=
      digits_length_le_iff (by omega)
    rw [List.length_append, hsign]
    omega
  · have hdigits : (digits x.natAbs).length ≤ 6 ↔ x.natAbs < 10 ^ 6 :=
      digits_length_le_iff (by omega)
    omega

/-- No character of a printed number is NUL. -/
theorem zero_notMem_digits (n : Nat) : 0 ∉ digits n := by
  intro hmem
  exact absurd (digit_of_mem_digits hmem).1 (by decide)

theorem zero_notMem_lastErrorText (lastErrno : Int) : 0 ∉ lastErrorText lastErrno := by
  have hlabel : (0 : UInt8) ∉ ascii "verix errno: " := by decide
  have hsign : (0 : UInt8) ∉ ascii "-" := by decide
  have hdigits := zero_notMem_digits lastErrno.natAbs
  rw [lastErrorText, formatInt, List.mem_append, not_or]
  refine ⟨hlabel, ?_⟩
  split
  · rw [List.mem_append, not_or]
    exact ⟨hsign, hdigits⟩
  · exact hdigits

/-- `msg[20]` holds the text exactly if the number prints within six characters. -/
theorem verixErrorText_eq_ok_iff (w : World σ) (msg : CString) :
    verixErrorText w = .ok msg ↔
      msg = lastErrorText w.lastErrno ∧ -99999 ≤ w.lastErrno ∧ w.lastErrno ≤ 999999 := by
  have hlabel : (ascii "verix errno: ").length = 13 := by decide
  rw [verixErrorText, storeString_eq_ok_iff, List.length_append, hlabel,
    ← formatInt_length_le_six_iff, lastErrorText, eq_comm (a := msg)]
  apply and_congr_right
  intro _
  omega

/-- `verixGetLastError` builds its text within `msg[20]`, stores nothing outside the caller's
`nBuf` bytes, and leaves in them a front of the text with a NUL behind it. -/
def GivesText (w : World σ) (nBuf : Nat) (cells : Int → UInt8) : Prop :=
  ∃ ret buffer, verixGetLastError nBuf (.untouched cells) w = .ok (ret, buffer) ∧
    (∀ i, buffer.stored i = true → 0 ≤ i ∧ i < nBuf) ∧
    ∃ count : Nat, count < nBuf ∧ buffer.cell count = 0 ∧
      buffer.contents count = (lastErrorText w.lastErrno).take count

/-- The caller gets a text exactly if the number prints within six characters, the text is shorter
than the buffer, and the byte behind the text was NUL before the call. -/
theorem givesText_iff (w : World σ) (nBuf : Nat) (cells : Int → UInt8) :
    GivesText w nBuf cells ↔
      (-99999 ≤ w.lastErrno ∧ w.lastErrno ≤ 999999) ∧
        (lastErrorText w.lastErrno).length < nBuf ∧
          cells (lastErrorText w.lastErrno).length = 0 := by
  obtain ⟨text, htext⟩ : ∃ text, text = lastErrorText w.lastErrno := ⟨_, rfl⟩
  have hnul : 0 ∉ text := htext ▸ zero_notMem_lastErrorText w.lastErrno
  rw [GivesText, ← htext]
  constructor
  · intro hgives
    obtain ⟨ret, buffer, hcall, -, count, hcount, hzero, hfront⟩ := hgives
    obtain ⟨msg, hmsg, hcopy⟩ := bind_eq_ok_iff.mp hcall
    obtain ⟨heq, hrange⟩ := (verixErrorText_eq_ok_iff w msg).mp hmsg
    have hsame : msg = text := heq.trans htext.symm
    subst hsame
    -- the text before the NUL is no longer than the whole text
    have hle : count ≤ msg.length := by
      have hlength := congrArg List.length hfront
      rw [Buffer.length_contents, List.length_take] at hlength
      omega
    have hcell : ∀ i : Nat, i < msg.length → i < nBuf → buffer.cell i ≠ 0 := by
      intro i hi hbuf heq
      apply hnul
      rw [← heq]
      split at hcopy
      · cases hcopy
        simp [Buffer.memcpy, hbuf, hi]
      · cases hcopy
        simp [Buffer.memcpy, hi]
    have hend : count = msg.length := by
      by_contra hne
      exact hcell count (by omega) hcount hzero
    refine ⟨hrange, by omega, ?_⟩
    rw [if_neg (by omega)] at hcopy
    cases hcopy
    rw [hend] at hzero
    simpa [Buffer.memcpy, Buffer.untouched] using hzero
  · intro hfits
    obtain ⟨hrange, hlt, hzero⟩ := hfits
    have hcall : verixGetLastError nBuf (.untouched cells) w =
        .ok (0, (Buffer.untouched cells).memcpy 0 text) := by
      have hmsg := (verixErrorText_eq_ok_iff w text).mpr ⟨htext, hrange⟩
      refine bind_eq_ok_iff.mpr ⟨text, hmsg, ?_⟩
      exact if_neg (by omega)
    refine ⟨_, _, hcall, ?_, text.length, hlt, ?_, ?_⟩
    · intro i hi
      rw [Buffer.memcpy_stored] at hi
      rcases hi with hbefore | hcopied
      · cases hbefore
      · omega
    · simpa [Buffer.memcpy, Buffer.untouched] using hzero
    · rw [Buffer.contents_memcpy]
      exact List.take_length.symm

/-! ## The last error -/

/-- Over every sequence of calls, `last_errno` follows the failures exactly if no read comes back
short and no removal fails, each unless `errno` is then what `last_errno` holds already. For every
`last_errno` and every buffer, the caller gets the text exactly if the number prints within six
characters, the text is shorter than the buffer, and the byte behind it was NUL before. -/
theorem last_error_iff (laws : FailureHistory env.os history) (hquiet : env.build = .quiet) :
    (∀ (s : Session σ) (calls : List VfsCall),
      Run.EachStep (VfsCall.step env) (fun s call => call.ReportsLast env history s) s calls ↔
        Run.EachStep (VfsCall.step env) (fun s call => call.AvoidsExits env s) s calls) ∧
    ∀ (w : World σ) (nBuf : Nat) (cells : Int → UInt8), 0 < nBuf →
      (GivesText w nBuf cells ↔
        (-99999 ≤ w.lastErrno ∧ w.lastErrno ≤ 999999) ∧
          (lastErrorText w.lastErrno).length < nBuf ∧
            cells (lastErrorText w.lastErrno).length = 0) := by
  refine ⟨?_, fun w nBuf cells _ => givesText_iff w nBuf cells⟩
  intro s calls
  have hcall := VfsCall.reportsLast_iff laws hquiet
  exact ⟨fun h => h.mono fun s call => (hcall s call).mp,
    fun h => h.mono fun s call => (hcall s call).mpr⟩

/-- `flash` sets `errno` with every failure. -/
theorem flash_passed_of_errno {α : Type} (c : Syscall α) (s : Flash)
    (hnone : (flash.call c s).errno = none) : ¬ c.Failed (flash.call c s).value := by
  have hpos := s.nextHandle_pos
  revert hnone
  cases c with
  | openFile name flags =>
      simp only [flash, Syscall.Failed]
      split
      · intro _
        show ¬ s.nextHandle = -1
        omega
      · split
        · intro _
          show ¬ s.nextHandle = -1
          omega
        · simp
  | lseek h offset =>
      simp only [flash, Syscall.Failed]
      split
      · simp
      · split
        · intro _
          dsimp only
          omega
        · simp
  | _ =>
      simp only [flash, Syscall.Failed]
      repeat' split
      all_goals simp

/-- `flash` with the record of its failures, in the build without logging. -/
def recordingFlash : Env (Flash × List Int) := ⟨flash.recording, .quiet, none, 64⟩

/-- A session on an empty disk in which nothing has failed yet. -/
def emptySession : Session (Flash × List Int) :=
  ⟨.on (.empty, []), fun _ => .on 0 (ascii "db")⟩

theorem recordingFlash_history : FailureHistory recordingFlash.os Prod.snd :=
  Os.recording_history flash_passed_of_errno

/-- `last_error_iff` where a file that does not exist is removed, and for the text of its
`errno`. -/
theorem last_error_iff_recording :
    (Run.EachStep (VfsCall.step recordingFlash)
        (fun s call => call.ReportsLast recordingFlash Prod.snd s) emptySession
        [.xDelete (ascii "gone")] ↔
      Run.EachStep (VfsCall.step recordingFlash)
        (fun s call => call.AvoidsExits recordingFlash s) emptySession
        [.xDelete (ascii "gone")]) ∧
    (GivesText emptySession.world.saveErrno 20 (fun _ => 0) ↔
      (-99999 ≤ emptySession.world.errno ∧ emptySession.world.errno ≤ 999999) ∧
        (lastErrorText emptySession.world.errno).length < 20 ∧ (0 : UInt8) = 0) :=
  have h := last_error_iff recordingFlash_history rfl
  ⟨h.1 emptySession _, h.2 emptySession.world.saveErrno 20 (fun _ => 0) (by decide)⟩

/-- The removal of a file that does not exist fails with `ENOENT` and leaves `last_errno` at 0.
For an `errno` of seven digits the text does not fit into `msg[20]`, and in a buffer of ones the
text of any `errno` has no end. -/
theorem failed_removal_unreported :
    ¬ Run.EachStep (VfsCall.step recordingFlash)
      (fun s call => call.ReportsLast recordingFlash Prod.snd s) emptySession
      [.xDelete (ascii "gone")] ∧
    ¬ GivesText { emptySession.world with lastErrno := 1000000 } 64 (fun _ => 0) ∧
    ¬ GivesText emptySession.world 64 (fun _ => 1) := by
  refine ⟨?_, ?_, ?_⟩
  · intro hreports
    have havoids := (xDelete_reportsLast_iff recordingFlash_history emptySession _).mp hreports.1
    have hfailed : (recordingFlash.sys (.remove (ascii "gone")) emptySession.world).value ≠ 0 := by
      decide
    have herrno : ENOENT = 0 := havoids hfailed
    cases herrno
  · rw [givesText_iff]
    intro hfits
    exact absurd hfits.1.2 (by decide)
  · rw [givesText_iff]
    intro hfits
    exact absurd hfits.2.2 (by decide)

end VxSqlite
