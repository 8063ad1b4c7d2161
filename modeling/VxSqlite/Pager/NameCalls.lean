import VxSqlite.Pager.FullName
import VxSqlite.Pager.ReadError
import VxSqlite.Pager.SharedLock

/-!
# A record of the names that are passed

`Env.traced` is the port on a system that keeps a record of the names its calls are made on and
of the bytes its reads deliver. `PagerNames.Account` says that each name in such a record is one
that the pager derived when it was opened, in a method that may be given it, or that it was a
string in bytes that had been read before: so the pager comes by the names of a master journal and
of the journals listed there. The port's methods and the pager's functions for locks, journals and
their playback keep the account, whatever the system does.
-/

namespace VxSqlite

/-- The methods of the VFS that take a name. -/
inductive NameMethod where
  | xOpen
  | xAccess
  | xDelete
  deriving DecidableEq

/-- What is noted of the system's calls: a name that a method was given, and the bytes that a read
delivered. -/
inductive Event where
  | passed (method : NameMethod) (zName : CString)
  | delivered (bytes : List UInt8)
  deriving DecidableEq

/-- The name of which `verixOpen` prints a text: each of its percent signs is printed of two. -/
def unprinted (text : CString) : CString :=
  text.flatMap fun c => if c = percent then [percent, percent] else [c]

/-- What `verixOpen` prints tells the name that it was given. -/
theorem unprinted_of_sprintfNoArgs {zName text : CString} (h : sprintfNoArgs zName = .ok text) :
    unprinted text = zName := by
  fun_induction sprintfNoArgs zName generalizing text with
  | case1 =>
      cases h
      rfl
  | case2 => cases h
  | case3 c hc =>
      cases h
      simp [unprinted, hc]
  | case4 rest ih =>
      obtain ⟨tail, htail, heq⟩ := bind_eq_ok_iff.mp h
      cases heq
      simpa [unprinted] using ih htail
  | case5 => cases h
  | case6 c d rest hc ih =>
      obtain ⟨tail, htail, heq⟩ := bind_eq_ok_iff.mp h
      cases heq
      simpa [unprinted, hc] using ih htail

variable {σ α : Type}

/-- The method that makes a call, and the name it was given. -/
def Syscall.named : {α : Type} → Syscall α → Option (NameMethod × CString)
  | _, .openFile name _ => some (.xOpen, unprinted name)
  | _, .dirGetAttributes name => some (.xAccess, name)
  | _, .remove name => some (.xDelete, name)
  | _, _ => none

/-- The bytes that a call delivers with its answer. -/
def Syscall.delivers : {α : Type} → Syscall α → α → Option (List UInt8)
  | _, .read _ _, reply => reply
  | _, _, _ => none

/-- What is noted of a call and its answer. -/
def Syscall.events (c : Syscall α) (value : α) : List Event :=
  (c.named.map fun call => .passed call.1 call.2).toList ++
    ((c.delivers value).map .delivered).toList

/-- A system that keeps a record of its calls, the latest first. -/
def Os.traced (os : Os σ) : Os (σ × List Event) where
  call c s :=
    let reply := os.call c s.1
    ⟨reply.value, (reply.os, c.events reply.value ++ s.2), reply.errno⟩

/-- The port on such a system. -/
def Env.traced (env : Env σ) : Env (σ × List Event) :=
  ⟨env.os.traced, env.build, env.nullString, env.writeFuel⟩

/-- The record that has been kept. -/
abbrev World.record (w : World (σ × List Event)) : List Event := w.os.2

/-- The names of a pager, each with a method that may be given it. -/
def PagerNames.passed (names : PagerNames) : List (NameMethod × CString) :=
  [(.xOpen, names.zFilename),
    (.xAccess, names.zJournal), (.xOpen, names.zJournal), (.xDelete, names.zJournal),
    (.xAccess, names.zWal), (.xOpen, names.zWal), (.xDelete, names.zWal)]

/-- A name is one of the strings, closed or parted by NULs, in bytes that have been read. -/
def ReadBefore (record : List Event) (zName : CString) : Prop :=
  ∃ bytes, .delivered bytes ∈ record ∧ zName ∈ bytes.splitOn 0

/-- Every name in a record is one that its method may be given, or had been read before. -/
def PagerNames.Account (names : PagerNames) : List Event → Prop
  | [] => True
  | .passed method zName :: record =>
      ((method, zName) ∈ names.passed ∨ ReadBefore record zName) ∧ names.Account record
  | .delivered _ :: record => names.Account record

/-- A record has grown, and its account has been kept. -/
def PagerNames.Keeps (names : PagerNames) (record record' : List Event) : Prop :=
  record <:+ record' ∧ (names.Account record → names.Account record')

/-- The pager has these names, and none of its files is removed when it is closed. -/
def PagerNames.Held (names : PagerNames) (pPager : Pager) : Prop :=
  (pPager.zFilename = names.zFilename ∧ pPager.zJournal = names.zJournal ∧
    pPager.zWal = names.zWal) ∧
  pPager.tempFile = false ∧ pPager.jfd.temporary = false ∧ pPager.sjfd.temporary = false

/-- The pager holds its names in a world whose record has grown from `record` on. -/
def PagerNames.Follows (names : PagerNames) (record : List Event) (pPager : Pager)
    (w : World (σ × List Event)) : Prop :=
  names.Held pPager ∧ names.Keeps record w.record

theorem ReadBefore.mono {record record' : List Event} {zName : CString}
    (h : ReadBefore record zName) (hgrows : record <:+ record') : ReadBefore record' zName := by
  obtain ⟨bytes, hbytes, hin⟩ := h
  exact ⟨bytes, hgrows.mem hbytes, hin⟩

variable {names : PagerNames} {record : List Event} {w : World (σ × List Event)}
  {pPager : Pager}

namespace PagerNames.Keeps

theorem refl (names : PagerNames) (record : List Event) : names.Keeps record record :=
  ⟨List.suffix_refl _, id⟩

theorem trans {record' record'' : List Event} (h : names.Keeps record record')
    (h' : names.Keeps record' record'') : names.Keeps record record'' :=
  ⟨h.1.trans h'.1, h'.2 ∘ h.2⟩

end PagerNames.Keeps

/-! ## The methods of the port -/

/-- A call is noted; it keeps the account if it is made on no name, or on one that its method may
be given. -/
theorem PagerNames.Keeps.sys (h : names.Keeps record w.record) (env : Env σ) (c : Syscall α)
    (hc : ∀ call, c.named = some call →
      (call.1, call.2) ∈ names.passed ∨ ReadBefore w.record call.2) :
    names.Keeps record (env.traced.sys c w).world.record := by
  refine h.trans ⟨List.suffix_append _ _, fun haccount => ?_⟩
  have hdelivers : ∀ delivered : Option (List UInt8),
      names.Account ((delivered.map .delivered).toList ++ w.record) := by
    intro delivered
    cases delivered with
    | none => exact haccount
    | some bytes => exact haccount
  show names.Account (c.events _ ++ w.record)
  rw [Syscall.events, List.append_assoc]
  cases hnamed : c.named with
  | none => exact hdelivers _
  | some call =>
      refine ⟨(hc call hnamed).imp_right fun hread => hread.mono ?_, hdelivers _⟩
      exact List.suffix_append _ _

/-- A call that is made on no name keeps the account. -/
theorem PagerNames.Keeps.sysUnnamed (h : names.Keeps record w.record) (env : Env σ)
    (c : Syscall α) (hnone : c.named = none) :
    names.Keeps record (env.traced.sys c w).world.record := by
  refine h.sys env c fun call hcall => ?_
  rw [hnone] at hcall
  cases hcall

theorem verixRead_recorded (h : names.Keeps record w.record) (env : Env σ) (pFile : VerixFile)
    (pBuf : Buffer UInt8) (amt offset : Int) :
    names.Keeps record (verixRead env.traced pFile pBuf amt offset w).2.2.record := by
  have hseek := h.sysUnnamed env (.lseek pFile.h (toInt offset)) rfl
  have hread := hseek.sysUnnamed env (.read pFile.h amt) rfl
  simp only [verixRead]
  split_ifs
  · exact hseek
  · exact hread
  · exact hread

theorem verixWriteLoop_recorded (h : names.Keeps record w.record) (env : Env σ) (handle : Int)
    (fuel : Nat) (pBuf : List UInt8) :
    Ensures (verixWriteLoop env.traced handle fuel pBuf w) fun written =>
      names.Keeps record written.2.record := by
  fun_induction verixWriteLoop env.traced handle fuel pBuf w with
  | case1 => exact .ok h
  | case2 => exact .error _
  | case3 => exact .ok (h.sysUnnamed env _ rfl)
  | case4 _ _ _ _ _ _ _ ih => exact ih (h.sysUnnamed env _ rfl)

theorem verixWrite_recorded (h : names.Keeps record w.record) (env : Env σ) (pFile : VerixFile)
    (pBuf : List UInt8) (offset : Int) :
    Ensures (verixWrite env.traced pFile pBuf offset w) fun written =>
      names.Keeps record written.2.record := by
  have hseek := h.sysUnnamed env (.lseek pFile.h (toInt offset)) rfl
  exact .ite (fun _ => .ok hseek) fun _ => verixWriteLoop_recorded hseek env _ _ _

theorem verixTruncate_recorded (h : names.Keeps record w.record) (env : Env σ) (pFile : VerixFile)
    (nByte : Int) :
    names.Keeps record (verixTruncate env.traced pFile nByte w).2.record := by
  have hsize := h.sysUnnamed env (.getFileSize pFile.h) rfl
  have hseek := hsize.sysUnnamed env (.lseek pFile.h (toInt nByte)) rfl
  simp only [verixTruncate]
  split_ifs
  · exact hsize
  · exact hseek
  · exact hseek.sysUnnamed env _ rfl
  · exact hseek.sysUnnamed env _ rfl

theorem verixFileSize_recorded (h : names.Keeps record w.record) (env : Env σ) (pFile : VerixFile)
    (pSize : Int) :
    names.Keeps record (verixFileSize env.traced pFile pSize w).2.2.record := by
  simp only [verixFileSize]
  split_ifs <;> exact h.sysUnnamed env _ rfl

theorem verixLock_recorded (h : names.Keeps record w.record) (env : Env σ) (pFile : VerixFile) :
    names.Keeps record (verixLock env.traced pFile w).2.record := by
  simp only [verixLock]
  split_ifs <;> exact h.sysUnnamed env _ rfl

theorem verixUnlock_recorded (h : names.Keeps record w.record) (env : Env σ) (pFile : VerixFile) :
    names.Keeps record (verixUnlock env.traced pFile w).2.record := by
  simp only [verixUnlock]
  split_ifs <;> exact h.sysUnnamed env _ rfl

theorem verixCheckReservedLock_recorded (h : names.Keeps record w.record) (env : Env σ)
    (pFile : VerixFile) :
    names.Keeps record (verixCheckReservedLock env.traced pFile w).2.2.record := by
  have hlock := h.sysUnnamed env (.lock pFile.h) rfl
  simp only [verixCheckReservedLock]
  split_ifs
  · exact hlock.sysUnnamed env _ rfl
  · exact hlock

theorem verixAccess_recorded (h : names.Keeps record w.record) (env : Env σ) {zName : CString}
    (hname : (.xAccess, zName) ∈ names.passed ∨ ReadBefore w.record zName) (flags : AccessFlag) :
    names.Keeps record (verixAccess env.traced zName flags w).2.2.record := by
  refine h.sys env _ fun call hcall => ?_
  cases hcall
  exact hname

theorem verixDelete_recorded (h : names.Keeps record w.record) (env : Env σ) {zName : CString}
    (hname : (.xDelete, zName) ∈ names.passed ∨ ReadBefore w.record zName) :
    names.Keeps record (verixDelete env.traced zName w).2.record := by
  have hremove := h.sys env (.remove zName) fun call hcall => by
    cases hcall
    exact hname
  simp only [verixDelete]
  split_ifs <;> exact hremove

/-- A file that is not to be deleted is closed without a name. -/
theorem sqlite3OsClose_recorded (h : names.Keeps record w.record) (env : Env σ) {pId : VerixFile}
    (hkept : pId.temporary = false) :
    names.Keeps record (sqlite3OsClose env.traced pId w).2.record := by
  have hclose := h.sysUnnamed env (.close pId.h) rfl
  simp only [sqlite3OsClose, verixClose, hkept, Bool.false_eq_true, if_false]
  split_ifs
  · exact hclose
  · exact hclose
  · exact hclose
  · exact h

/-- Opening a file passes its name. The file is deleted on close only if the flags say so. -/
theorem sqlite3OsOpen_passes (h : names.Keeps record w.record) (env : Env σ) {zPath : CString}
    (hname : (.xOpen, zPath) ∈ names.passed ∨ ReadBefore w.record zPath) (pFile : VerixFile)
    (flags : Nat) : Ensures (sqlite3OsOpen env.traced zPath pFile flags w) fun opened =>
      (opened.file = pFile ∨
        opened.file.temporary = decide (HasFlag (flags &&& 0x87f7f) openDeleteonclose)) ∧
      names.Keeps record opened.world.record := by
  refine .bind (fun named => sprintfNoArgs zPath = .ok named.1 ∧ named.2 = w) ?_ ?_
  · intro named hnamed
    obtain ⟨text, htext, hnamed⟩ := bind_eq_ok_iff.mp hnamed
    obtain ⟨filename, hstored, heq⟩ := bind_eq_ok_iff.mp hnamed
    obtain ⟨rfl, -⟩ := storeString_eq_ok_iff.mp hstored
    cases heq
    exact ⟨htext, rfl⟩
  · rintro ⟨filename, w'⟩ ⟨htext, rfl⟩
    have hopen := h.sys env (.openFile filename (verixOpenFlags (flags &&& 0x87f7f)))
      fun call hcall => by
        cases hcall
        rw [unprinted_of_sprintfNoArgs htext]
        exact hname
    intro opened hopened
    simp only [verixOpenFile] at hopened
    split at hopened
    · cases hopened
      exact ⟨Or.inl rfl, hopen⟩
    · cases hstored : verixOpenStrcpy env.traced (some zPath) with
      | error fault =>
          rw [hstored] at hopened
          cases hopened
      | ok stored =>
          rw [hstored] at hopened
          cases hopened
          exact ⟨Or.inr rfl, hopen⟩

/-- The journals that the pager opens are not deleted on close. -/
theorem sqlite3OsOpen_recorded (h : names.Keeps record w.record) (env : Env σ) {zPath : CString}
    (hname : (.xOpen, zPath) ∈ names.passed ∨ ReadBefore w.record zPath) {pFile : VerixFile}
    (hkept : pFile.temporary = false) {flags : Nat}
    (hflags : ¬ HasFlag (flags &&& 0x87f7f) openDeleteonclose) :
    Ensures (sqlite3OsOpen env.traced zPath pFile flags w) fun opened =>
      opened.file.temporary = false ∧ names.Keeps record opened.world.record := by
  refine (sqlite3OsOpen_passes h env hname pFile flags).mono fun opened hopened => ?_
  obtain ⟨hfile, hkeeps⟩ := hopened
  rcases hfile with hfile | hfile
  · exact ⟨by rw [hfile, hkept], hkeeps⟩
  · exact ⟨hfile.trans (decide_eq_false hflags), hkeeps⟩

/-! ## Locks and reads -/

theorem pagerUnlockDb_follows (h : names.Follows record pPager w) (env : Env σ)
    (eLock : LockLevel) :
    names.Follows record (pagerUnlockDb env.traced pPager eLock w).2.1
      (pagerUnlockDb env.traced pPager eLock w).2.2 := by
  have hunlock := verixUnlock_recorded h.2 env pPager.fd
  simp only [pagerUnlockDb]
  split_ifs <;> first | exact h | exact ⟨h.1, hunlock⟩

theorem pagerLockDb_follows (h : names.Follows record pPager w) (env : Env σ)
    (eLock : LockLevel) :
    names.Follows record (pagerLockDb env.traced pPager eLock w).2.1
      (pagerLockDb env.traced pPager eLock w).2.2 := by
  have hlock := verixLock_recorded h.2 env pPager.fd
  simp only [pagerLockDb]
  split_ifs <;> first | exact h | exact ⟨h.1, hlock⟩

theorem sqlite3OsRead_recorded (h : names.Keeps record w.record) (env : Env σ) (id : VerixFile)
    (amt : Nat) (offset : Int) :
    names.Keeps record (sqlite3OsRead env.traced id amt offset w).2.2.record :=
  verixRead_recorded h env id _ _ _

/-- What a successful read leaves in the buffer is noted. -/
theorem sqlite3OsRead_delivered (env : Env σ) (id : VerixFile) (amt : Nat) (offset : Int)
    (w : World (σ × List Event))
    (hok : (sqlite3OsRead env.traced id amt offset w).1 = .ok) :
    .delivered (sqlite3OsRead env.traced id amt offset w).2.1 ∈
      (sqlite3OsRead env.traced id amt offset w).2.2.record := by
  have hnoted : ∀ {ls : World (σ × List Event)} {bytes : List UInt8},
      (env.traced.sys (.read id.h amt) ls).value = some bytes →
      .delivered bytes ∈ (env.traced.sys (.read id.h amt) ls).world.record := by
    intro ls bytes hvalue
    refine List.mem_append_left _ ?_
    show _ ∈ (((env.traced.sys (.read id.h amt) ls).value).map Event.delivered).toList
    rw [hvalue]
    exact List.mem_singleton_self _
  simp only [sqlite3OsRead, verixRead] at hok ⊢
  split at hok
  · cases hok
  rename_i hseek
  rw [if_neg hseek]
  split at hok
  swap
  · cases hok
  rename_i hcount
  rw [if_pos hcount]
  cases hvalue : (env.traced.sys (.read id.h amt)
      (env.traced.sys (.lseek id.h (toInt offset)) w).world).value with
  | none =>
      rw [hvalue] at hcount
      simp only [readCount] at hcount
      omega
  | some bytes =>
      rw [hvalue] at hcount
      simp only [Option.getD_some]
      rw [Buffer.contents_memcpy_of_length _ (Int.ofNat.inj hcount)]
      exact hnoted hvalue

theorem read32bits_recorded (h : names.Keeps record w.record) (env : Env σ) (fd : VerixFile)
    (offset : Int) : names.Keeps record (read32bits env.traced fd offset w).2.2.record :=
  sqlite3OsRead_recorded h env fd 4 offset

/-! ## The journal -/

theorem readMasterJournal_recorded (h : names.Keeps record w.record) (env : Env σ)
    (pJrnl : VerixFile) (nMaster : Nat) :
    names.Keeps record (readMasterJournal env.traced pJrnl nMaster w).2.2.record := by
  have hsize := verixFileSize_recorded h env pJrnl 0
  have hlen := read32bits_recorded hsize env pJrnl
    ((verixFileSize env.traced pJrnl 0 w).2.1 - 16)
  simp only [readMasterJournal]
  split
  · exact hsize
  split
  · exact hlen
  split
  · exact read32bits_recorded hlen env ..
  split
  · exact sqlite3OsRead_recorded (read32bits_recorded hlen env ..) env ..
  split_ifs <;>
    exact sqlite3OsRead_recorded (sqlite3OsRead_recorded (read32bits_recorded hlen env ..) env ..)
      env ..

/-- The string at the front of some bytes is the first of their strings. -/
theorem head?_splitOn (bytes : List UInt8) :
    (bytes.splitOn 0).head? = some (bytes.takeWhile (· ≠ 0)) := by
  induction bytes with
  | nil => rfl
  | cons byte rest ih =>
      rw [List.splitOn_cons_eq_if_modifyHead]
      by_cases hbyte : byte = 0
      · simp [hbyte]
      · cases hsplit : rest.splitOn 0 with
        | nil => exact absurd hsplit (List.splitOn_ne_nil 0 rest)
        | cons front pieces =>
            rw [hsplit] at ih
            simpa [hbyte] using Option.some.inj ih

/-- The name of a master journal has been read. -/
theorem readMasterJournal_readBefore (env : Env σ) (pJrnl : VerixFile) (nMaster : Nat)
    (w : World (σ × List Event))
    (hmaster : (readMasterJournal env.traced pJrnl nMaster w).2.1 ≠ []) :
    ReadBefore (readMasterJournal env.traced pJrnl nMaster w).2.2.record
      (readMasterJournal env.traced pJrnl nMaster w).2.1 := by
  simp only [readMasterJournal] at hmaster ⊢
  split at hmaster
  · exact absurd rfl hmaster
  rename_i hsize
  rw [if_neg hsize]
  split at hmaster
  · exact absurd rfl hmaster
  rename_i hlen
  rw [if_neg hlen]
  split at hmaster
  · exact absurd rfl hmaster
  rename_i hcksum
  rw [if_neg hcksum]
  split at hmaster
  · exact absurd rfl hmaster
  rename_i hmagic
  rw [if_neg hmagic]
  split at hmaster
  · exact absurd rfl hmaster
  rename_i hname
  rw [if_neg hname]
  split at hmaster
  · exact absurd rfl hmaster
  rename_i hsum
  rw [if_neg hsum]
  exact ⟨_, sqlite3OsRead_delivered env _ _ _ _ (not_not.mp hname),
    List.mem_of_head? (head?_splitOn _)⟩

theorem zeroJournalHdr_recorded (h : names.Keeps record w.record) (env : Env σ) (pPager : Pager)
    (doTruncate : Bool) : Ensures (zeroJournalHdr env.traced pPager doTruncate w) fun zeroed =>
      names.Keeps record zeroed.2.record := by
  refine .ite (fun _ => ?_) fun _ => .ok h
  refine .bind (fun done => names.Keeps record done.2.record) ?_ fun done hdone => ?_
  · exact .ite (fun _ => .ok (verixTruncate_recorded h env ..)) fun _ =>
      verixWrite_recorded h env _ _ _
  · extract_lets synced size
    have hsynced : names.Keeps record synced.2.record := by
      simp only [synced]
      split <;> exact hdone
    have hsize : names.Keeps record size.2.2.record := verixFileSize_recorded hsynced env ..
    refine .ite (fun _ => ?_) fun _ => .ok hsynced
    exact .ite (fun _ => .ok (verixTruncate_recorded hsize env ..)) fun _ => .ok hsize

theorem sqlite3PagerSetPagesize_follows (h : names.Follows record pPager w) (env : Env σ)
    (pageSize : Nat) (nReserve : Int) :
    names.Follows record (sqlite3PagerSetPagesize env.traced pPager pageSize nReserve w).pPager
      (sqlite3PagerSetPagesize env.traced pPager pageSize nReserve w).world := by
  have hsize := verixFileSize_recorded h.2 env pPager.fd 0
  simp only [sqlite3PagerSetPagesize]
  split_ifs <;> first | exact h | exact ⟨h.1, hsize⟩

theorem readJournalSizes_follows (h : names.Follows record pPager w) (env : Env σ)
    (iHdrOff : Int) (nRec dbSize : UInt32) :
    names.Follows record (readJournalSizes env.traced pPager iHdrOff nRec dbSize w).pPager
      (readJournalSizes env.traced pPager iHdrOff nRec dbSize w).world := by
  have hsector := read32bits_recorded h.2 env pPager.jfd (iHdrOff + 20)
  have hpage := read32bits_recorded hsector env pPager.jfd (iHdrOff + 24)
  simp only [readJournalSizes]
  split
  · split
    · exact ⟨h.1, hsector⟩
    split
    · exact ⟨h.1, hpage⟩
    generalize (if _ = (0 : UInt32) then _ else _) = iPageSize
    split
    · exact ⟨h.1, hpage⟩
    · exact sqlite3PagerSetPagesize_follows ⟨h.1, hpage⟩ env iPageSize.toNat (-1)
  · exact h

theorem readJournalFields_follows (h : names.Follows record pPager w) (env : Env σ)
    (iHdrOff : Int) :
    names.Follows record (readJournalFields env.traced pPager iHdrOff w).pPager
      (readJournalFields env.traced pPager iHdrOff w).world := by
  have hnRec := read32bits_recorded h.2 env pPager.jfd (iHdrOff + 8)
  have hcksum := read32bits_recorded hnRec env pPager.jfd (iHdrOff + 12)
  have hdbSize := read32bits_recorded hcksum env pPager.jfd (iHdrOff + 16)
  simp only [readJournalFields]
  split
  · exact ⟨h.1, hnRec⟩
  split
  · exact ⟨h.1, hcksum⟩
  split
  · exact ⟨h.1, hdbSize⟩
  · refine readJournalSizes_follows ?_ env _ _ _
    exact ⟨h.1, hdbSize⟩

theorem readJournalHdr_follows (h : names.Follows record pPager w) (env : Env σ) (isHot : Bool)
    (journalSize : Int) :
    names.Follows record (readJournalHdr env.traced pPager isHot journalSize w).pPager
      (readJournalHdr env.traced pPager isHot journalSize w).world := by
  have hat : names.Follows record { pPager with journalOff := journalHdrOffset pPager } w := h
  have hmagic := sqlite3OsRead_recorded h.2 env pPager.jfd 8 (journalHdrOffset pPager)
  simp only [readJournalHdr]
  split
  · exact hat
  split
  · split
    · exact ⟨h.1, hmagic⟩
    split
    · exact ⟨h.1, hmagic⟩
    · exact readJournalFields_follows ⟨hat.1, hmagic⟩ env _
  · exact readJournalFields_follows hat env _

/-! ## Playback -/

theorem playbackWrite_follows (h : names.Follows record pPager w) (env : Env σ) (pgno : Nat)
    (aData : List UInt8) : Ensures (playbackWrite env.traced pPager pgno aData w) fun ret =>
      names.Follows record ret.pPager ret.world := by
  refine .ite (fun _ => ?_) fun _ => .ok h
  exact .bind _ (verixWrite_recorded h.2 env _ _ _) fun write hwrite => .ok ⟨h.1, hwrite⟩

theorem playbackCache_held (h : names.Held pPager) (pPg : Option (List UInt8)) (pgno : Nat)
    (aData : List UInt8) : names.Held (playbackCache pPager pPg pgno aData) := by
  unfold playbackCache
  split
  · simp only
    split <;> exact h
  · exact h

theorem playbackPage_follows (h : names.Follows record pPager w) (env : Env σ) (pgno : Nat)
    (aData : List UInt8) : Ensures (playbackPage env.traced pPager pgno aData w) fun ret =>
      names.Follows record ret.pPager ret.world := by
  unfold playbackPage
  extract_lets reserve pPager' pPg
  have h' : names.Follows record pPager' w := by
    simp only [pPager']
    split <;> exact h
  exact .bind _ (playbackWrite_follows h' env _ _) fun written hwritten =>
    .ok ⟨playbackCache_held hwritten.1 _ _ _, hwritten.2⟩

theorem pagerPlaybackOnePage_follows (h : names.Follows record pPager w) (env : Env σ) :
    Ensures (pagerPlaybackOnePage env.traced pPager w) fun ret =>
      names.Follows record ret.pPager ret.world := by
  have hnumber := read32bits_recorded h.2 env pPager.jfd pPager.journalOff
  have hpage := sqlite3OsRead_recorded hnumber env pPager.jfd pPager.pageSize
    (pPager.journalOff + 4)
  refine .ite (fun _ => .ok ⟨h.1, hnumber⟩) fun _ => ?_
  refine .ite (fun _ => .ok ⟨h.1, hpage⟩) fun _ => ?_
  refine .ite (fun _ => .ok ⟨h.1, hpage⟩) fun _ => ?_
  refine .ite (fun _ => .ok ⟨h.1, hpage⟩) fun _ => ?_
  have hcksum := read32bits_recorded hpage env pPager.jfd
    (pPager.journalOff + pPager.pageSize + 4 + 4 - 4)
  refine .ite (fun _ => .ok ⟨h.1, hcksum⟩) fun _ => ?_
  refine .ite (fun _ => .ok ⟨h.1, hcksum⟩) fun _ => playbackPage_follows ?_ env _ _
  exact ⟨h.1, hcksum⟩

theorem pagerTruncate_follows (h : names.Follows record pPager w) (env : Env σ) (nPage : Nat) :
    Ensures (pagerTruncate env.traced pPager nPage w) fun ret =>
      names.Follows record ret.pPager ret.world := by
  have hsize := verixFileSize_recorded h.2 env pPager.fd 0
  refine .ite (fun _ => ?_) fun _ => .ok h
  refine .ite (fun _ => ?_) fun _ => .ok ⟨h.1, hsize⟩
  refine .bind (fun changed => names.Keeps record changed.2.record) ?_ fun changed hchanged => ?_
  · refine .ite (fun _ => .ok (verixTruncate_recorded hsize env _ _)) fun _ => ?_
    exact .ite (fun _ => verixWrite_recorded hsize env _ _ _) fun _ => .ok hsize
  · exact .ite (fun _ => .ok ⟨h.1, hchanged⟩) fun _ => .ok ⟨h.1, hchanged⟩

theorem sqlite3OsClose_temporary (env : Env σ) (pId : VerixFile) (w : World σ) :
    (sqlite3OsClose env pId w).1.temporary = pId.temporary := by
  unfold sqlite3OsClose
  split <;> rfl

theorem releaseAllSavepoints_follows (h : names.Follows record pPager w) (env : Env σ) :
    names.Follows record (releaseAllSavepoints env.traced pPager w).1
      (releaseAllSavepoints env.traced pPager w).2 := by
  obtain ⟨⟨hnames, htemp, hjfd, hsjfd⟩, hkeeps⟩ := h
  unfold releaseAllSavepoints
  split
  · exact ⟨⟨hnames, htemp, hjfd, (sqlite3OsClose_temporary ..).trans hsjfd⟩,
      sqlite3OsClose_recorded hkeeps env hsjfd⟩
  · exact ⟨⟨hnames, htemp, hjfd, hsjfd⟩, hkeeps⟩

/-- The journal's name may be given to every method. -/
theorem PagerNames.Held.passes_zJournal (h : names.Held pPager) (method : NameMethod) :
    (method, pPager.zJournal) ∈ names.passed := by
  rw [h.1.2.1]
  cases method <;> simp [PagerNames.passed]

/-- The name of the write-ahead log may be given to every method. -/
theorem PagerNames.Held.passes_zWal (h : names.Held pPager) (method : NameMethod) :
    (method, pPager.zWal) ∈ names.passed := by
  rw [h.1.2.2]
  cases method <;> simp [PagerNames.passed]

/-- Closing the journal leaves the pager its names. -/
theorem closeJournal_follows (h : names.Follows record pPager w) (env : Env σ) :
    names.Follows record
      { pPager with jfd := (sqlite3OsClose env.traced pPager.jfd w).1 }
      (sqlite3OsClose env.traced pPager.jfd w).2 := by
  obtain ⟨⟨hnames, htemp, hjfd, hsjfd⟩, hkeeps⟩ := h
  exact ⟨⟨hnames, htemp, (sqlite3OsClose_temporary ..).trans hjfd, hsjfd⟩,
    sqlite3OsClose_recorded hkeeps env hjfd⟩

theorem finalizeJournal_follows (h : names.Follows record pPager w) (env : Env σ)
    (hasMaster : Bool) : Ensures (finalizeJournal env.traced pPager hasMaster w) fun ret =>
      names.Follows record ret.pPager ret.world := by
  have hclosed := closeJournal_follows h env
  refine .ite (fun _ => ?_) fun _ => .ite (fun _ => ?_) fun _ => ?_
  · have htruncated := verixTruncate_recorded h.2 env pPager.jfd 0
    refine .ok ⟨h.1, ?_⟩
    simp only
    split
    · exact h.2
    split
    · exact htruncated
    · exact htruncated
  · exact .bind _ (zeroJournalHdr_recorded h.2 env _ _) fun zeroed hzeroed =>
      .ok ⟨h.1, hzeroed⟩
  · refine .ite (fun _ => .ok ?_) fun _ => .ok hclosed
    exact ⟨hclosed.1, verixDelete_recorded hclosed.2 env (Or.inl (h.1.passes_zJournal _))⟩

theorem pagerEndTransaction_follows (h : names.Follows record pPager w) (env : Env σ)
    (hasMaster bCommit : Bool) :
    Ensures (pagerEndTransaction env.traced pPager hasMaster bCommit w) fun ret =>
      names.Follows record ret.pPager ret.world := by
  have hreleased := releaseAllSavepoints_follows h env
  refine .ite (fun _ => .ok h) fun _ => ?_
  refine .bind (fun ret => names.Follows record ret.pPager ret.world) ?_ fun finalized hfinal => ?_
  · exact .ite (fun _ => finalizeJournal_follows hreleased env _) fun _ => .ok hreleased
  refine .bind (fun ret => names.Follows record ret.pPager ret.world) ?_ fun truncated htrunc => ?_
  · refine .ite (fun _ => pagerTruncate_follows ?_ env _) fun _ => .ok hfinal
    exact hfinal
  extract_lets pPager' committed unlockedDb _ unlocked
  have hcommitted : names.Follows record pPager' committed.2 := by
    simp only [committed]
    split <;> exact htrunc
  refine .ok ?_
  have hunlocked : names.Follows record unlocked.pPager unlocked.world := by
    simp only [unlocked]
    split
    · exact pagerUnlockDb_follows hcommitted env .shared
    · exact hcommitted
  exact hunlocked

theorem sqlite3PagerSync_recorded (h : names.Keeps record w.record) (env : Env σ)
    (pPager : Pager) :
    names.Keeps record (sqlite3PagerSync env.traced pPager w).2.record := by
  simp only [sqlite3PagerSync, fileControlIfKnown, verixFileControl, verixSync]
  split_ifs <;> exact h

/-- The names in a master journal are strings of what was read of it. -/
theorem readBefore_of_mem_childJournals {zMasterJournal : List UInt8} {zJournal : CString}
    (hread : .delivered zMasterJournal ∈ record) (h : zJournal ∈ childJournals zMasterJournal) :
    ReadBefore record zJournal := by
  refine ⟨_, hread, ?_⟩
  simp only [childJournals] at h
  split at h
  · exact List.mem_of_mem_dropLast h
  · exact h

/-- A journal whose name was read is opened, asked for its master's name and closed. -/
theorem delmasterLoop_recorded (env : Env σ) (zMaster : CString) {journals : List CString}
    {w : World (σ × List Event)} (h : names.Keeps record w.record)
    (hread : ∀ zJournal ∈ journals, ReadBefore w.record zJournal) :
    Ensures (delmasterLoop env.traced zMaster journals w) fun checked =>
      names.Keeps record checked.2.2.record := by
  induction journals generalizing w with
  | nil => exact .ok h
  | cons zJournal rest ih =>
      -- what was read before a call was read after it
      have hrest : ∀ {w' : World (σ × List Event)}, names.Keeps w.record w'.record →
          Ensures (delmasterLoop env.traced zMaster rest w') fun checked =>
            names.Keeps record checked.2.2.record := fun hkeeps =>
        ih (h.trans hkeeps) fun zName hname =>
          (hread zName (List.mem_cons_of_mem _ hname)).mono hkeeps.1
      have hjournal := hread zJournal List.mem_cons_self
      have haccess := verixAccess_recorded (.refl names w.record) env (Or.inr hjournal) .exists
      -- `verixAccess` returns no error
      refine .ite (fun _ => ?_) fun _ => hrest haccess
      refine .bind _ (sqlite3OsOpen_recorded haccess env (Or.inr (hjournal.mono haccess.1)) rfl
        (by decide)) fun opened hopened => ?_
      obtain ⟨hkept, hopened⟩ := hopened
      refine .ite (fun _ => .ok (h.trans hopened)) fun _ => ?_
      have hclosed := sqlite3OsClose_recorded
        (readMasterJournal_recorded hopened env opened.file (mxPathname + 1)) env hkept
      refine .ite (fun _ => .ok (h.trans hclosed)) fun _ => ?_
      exact .ite (fun _ => .ok (h.trans hclosed)) fun _ => hrest hclosed

theorem pagerDelmaster_recorded (h : names.Keeps record w.record) (env : Env σ)
    {zMaster : CString} (hread : ReadBefore w.record zMaster) :
    Ensures (pagerDelmaster env.traced zMaster w) fun deleted =>
      names.Keeps record deleted.2.record := by
  have hstart := PagerNames.Keeps.refl names w.record
  refine .bind _ (sqlite3OsOpen_recorded hstart env (Or.inr hread) rfl (by decide))
    fun opened hopened => ?_
  obtain ⟨hkept, hopened⟩ := hopened
  have hsize := verixFileSize_recorded hopened env opened.file 0
  refine .ite (fun _ => .ok (h.trans (sqlite3OsClose_recorded hopened env hkept))) fun _ => ?_
  refine .ite (fun _ => .ok (h.trans (sqlite3OsClose_recorded hsize env hkept))) fun _ => ?_
  have hcontent := sqlite3OsRead_recorded hsize env opened.file
    (toInt (verixFileSize env.traced opened.file 0 opened.world).2.1).toNat 0
  refine .ite (fun _ => .ok (h.trans (sqlite3OsClose_recorded hcontent env hkept))) fun hok => ?_
  refine .bind (fun checked => names.Keeps w.record checked.2.2.record) ?_
    fun checked hchecked => ?_
  · refine delmasterLoop_recorded env zMaster hcontent fun zJournal hchild => ?_
    exact readBefore_of_mem_childJournals (sqlite3OsRead_delivered env _ _ _ _ (not_not.mp hok))
      hchild
  · have hclosed := sqlite3OsClose_recorded hchecked env hkept
    refine .ite (fun _ => .ok ?_) fun _ => .ok (h.trans hclosed)
    exact h.trans (verixDelete_recorded hclosed env (Or.inr (hread.mono hclosed.1)))

theorem setSectorSize_follows (h : names.Follows record pPager w) (env : Env σ) :
    names.Follows record (setSectorSize env.traced pPager w).1
      (setSectorSize env.traced pPager w).2 := by
  simp only [setSectorSize]
  split
  · exact h
  split
  · exact h
  · exact h

theorem playbackRecords_follows (h : names.Follows record pPager w) (env : Env σ) (szJ : Int)
    (nRec : Nat) (needPagerReset : Bool) :
    Ensures (playbackRecords env.traced szJ nRec needPagerReset pPager w) fun run =>
      names.Follows record run.pPager run.world := by
  induction nRec generalizing needPagerReset pPager w with
  | zero => exact .ok h
  | succ nRec ih =>
      rw [playbackRecords]
      have h' : names.Follows record (if needPagerReset then pagerReset pPager else pPager) w := by
        split <;> exact h
      refine .bind _ (pagerPlaybackOnePage_follows h' env) fun played hplayed => ?_
      refine .ite (fun _ => .bind _ (ih hplayed false) fun rest hrest => .ok hrest) fun _ => ?_
      refine .ite (fun _ => .ok hplayed) fun _ => ?_
      exact .ite (fun _ => .ok hplayed) fun _ => .ok hplayed

theorem playbackTruncate_follows (env : Env σ) {hdr : JournalHdr (σ × List Event)}
    (h : names.Follows record hdr.pPager hdr.world) :
    Ensures (playbackTruncate env.traced hdr) fun ret =>
      names.Follows record ret.pPager ret.world := by
  refine .ite (fun _ => ?_) fun _ => .ok h
  refine .bind _ (pagerTruncate_follows h env _) fun truncated htruncated => ?_
  exact .ite (fun _ => .ok htruncated) fun _ => .ok htruncated

theorem playbackHeaders_follows (h : names.Follows record pPager w) (env : Env σ) (isHot : Bool)
    (szJ : Int) (fuel : Nat) (needPagerReset : Bool) :
    Ensures (playbackHeaders env.traced isHot szJ fuel needPagerReset pPager w) fun run =>
      names.Follows record run.pPager run.world := by
  induction fuel generalizing needPagerReset pPager w with
  | zero => exact .error _
  | succ fuel ih =>
      have hhdr := readJournalHdr_follows h env isHot szJ
      rw [playbackHeaders]
      refine .ite (fun _ => .ok hhdr) fun _ => .ite (fun _ => .ok hhdr) fun _ => ?_
      refine .bind _ (playbackTruncate_follows env hhdr) fun truncated htruncated => ?_
      refine .ite (fun _ => .ok htruncated) fun _ => ?_
      refine .bind _ (playbackRecords_follows htruncated env szJ _ needPagerReset)
        fun run hrun => ?_
      exact .ite (fun _ => .bind _ (ih hrun run.needPagerReset) fun rest hrest => .ok hrest)
        fun _ => .ok hrun

theorem endPlayback_follows (h : names.Follows record pPager w) (env : Env σ) (rc : ResultCode)
    (res : Bool) : Ensures (endPlayback env.traced pPager rc res w) fun ret =>
      names.Follows record ret.pPager ret.world := by
  unfold endPlayback
  extract_lets pPager' master zMaster synced
  have hmaster : names.Keeps record master.2.2.record := by
    simp only [master]
    split
    · exact readMasterJournal_recorded h.2 env _ _
    · exact h.2
  have hread : zMaster ≠ [] → ReadBefore master.2.2.record zMaster := by
    simp only [zMaster, master]
    split
    · exact readMasterJournal_readBefore env _ _ _
    · exact fun hne => absurd rfl hne
  have hsynced : names.Keeps master.2.2.record synced.2.record := by
    simp only [synced]
    split
    · exact sqlite3PagerSync_recorded (.refl _ _) env _
    · exact .refl _ _
  have hstart : names.Follows master.2.2.record pPager' synced.2 := ⟨h.1, hsynced⟩
  refine .bind (fun ret => names.Follows master.2.2.record ret.pPager ret.world) ?_
    fun ended hended => ?_
  · exact .ite (fun _ => pagerEndTransaction_follows hstart env _ _) fun _ => .ok hstart
  refine .bind (fun deleted => names.Keeps master.2.2.record deleted.2.record) ?_
    fun deleted hdeleted => ?_
  · refine .ite (fun hnamed => ?_) fun _ => .ok hended.2
    exact pagerDelmaster_recorded hended.2 env ((hread hnamed.2.1).mono hended.2.1)
  · have hsized := setSectorSize_follows ⟨hended.1, hdeleted⟩ env
    exact .ok ⟨hsized.1, hmaster.trans hsized.2⟩

theorem playbackMaster_recorded (h : names.Keeps record w.record) (env : Env σ)
    (pPager : Pager) :
    names.Keeps record (playbackMaster env.traced pPager w).2.2.record := by
  have hmaster := readMasterJournal_recorded h env pPager.jfd (mxPathname + 1)
  simp only [playbackMaster]
  split
  · rename_i hnamed
    exact verixAccess_recorded hmaster env
      (Or.inr (readMasterJournal_readBefore env _ _ _ hnamed.2)) .exists
  · exact hmaster

theorem pagerPlayback_follows (h : names.Follows record pPager w) (env : Env σ) (isHot : Bool) :
    Ensures (pagerPlayback env.traced pPager isHot w) fun ret =>
      names.Follows record ret.pPager ret.world := by
  have hsize := verixFileSize_recorded h.2 env pPager.jfd 0
  have hmaster := playbackMaster_recorded hsize env pPager
  have hsized : names.Follows record pPager _ := ⟨h.1, hsize⟩
  have hasked : names.Follows record pPager _ := ⟨h.1, hmaster⟩
  have hrewound : names.Follows record { pPager with journalOff := 0 } _ := hasked
  refine .ite (fun _ => ?_) fun _ => .ite (fun _ => ?_) fun _ => .ite (fun _ => ?_) fun _ => ?_
  · exact .bind _ (endPlayback_follows hsized env _ _) fun ended hended => .ok hended
  · exact .bind _ (endPlayback_follows hasked env _ _) fun ended hended => .ok hended
  · exact .bind _ (endPlayback_follows hasked env _ _) fun ended hended => .ok hended
  · refine .bind _ (playbackHeaders_follows hrewound env _ _ _ _) fun run hrun => ?_
    exact .bind _ (endPlayback_follows hrun env _ _) fun ended hended => .ok hended

end VxSqlite
