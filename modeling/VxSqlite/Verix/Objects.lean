import VxSqlite.Verix.Content
import VxSqlite.Verix.Session

/-!
# What a call does to names and handles

Under `NamingLaws`, only three calls touch the directory or the table of handles: `xOpen`,
`xClose` and `xDelete`. One lemma for each says everything it can do there, and
`VfsCall.perform_keeps` says that every other call leaves the names, the numbers of the files and
the files behind the handles as they are, whatever fails in it.
-/

namespace VxSqlite

variable {σ : Type} {env : Env σ} {view : σ → Disk}

/-- The names are the same, no file was created, and open handles are open on the same files. -/
structure Keeps (d d' : Disk) : Prop where
  dir : d'.dir = d.dir
  created : d'.created = d.created
  openOn : ∀ pFile f, OpenOn d pFile f → OpenOn d' pFile f

theorem Keeps.refl (d : Disk) : Keeps d d := ⟨rfl, rfl, fun _ _ h => h⟩

theorem Keeps.trans {d d' d'' : Disk} (h : Keeps d d') (h' : Keeps d' d'') : Keeps d d'' :=
  ⟨h'.dir.trans h.dir, h'.created.trans h.created,
    fun pFile f hopen => h'.openOn pFile f (h.openOn pFile f hopen)⟩

theorem SameBut.keeps {f : Nat} {d d' : Disk} (h : SameBut f d d') : Keeps d d' :=
  ⟨h.dir, h.created, h.openOn⟩

theorem Keeps.of_eq {d d' : Disk} (h : d' = d) : Keeps d d' := h ▸ Keeps.refl d

theorem Keeps.setLock (d : Disk) (f : Nat) (owner : Option Int) : Keeps d (d.setLock f owner) :=
  ⟨rfl, rfl, fun _ _ h => h⟩

/-! ## The laws of names and handles -/

/-- What a system does to names and handles. `open()`, `close()` and `_remove` act on them as
`DirLaws` says; no other call touches a name or takes a handle off its file, whether it fails or
not. A seek fails or ends within the file, and a size that is reported is right. -/
structure NamingLaws (os : Os σ) (view : σ → Disk) : Prop where
  dir : DirLaws os view
  lseek : ∀ s h f p (offset : Int), (hh : (view s).handles h = some (f, p)) →
    ((os.call (.lseek h offset) s).value = -1 ∧ view (os.call (.lseek h offset) s).os = view s) ∨
      (0 ≤ offset ∧ offset ≤ ((view s).data f).length ∧
        view (os.call (.lseek h offset) s).os =
          (view s).seek h f offset.toNat ((view s).handles_lt h f p hh))
  read : ∀ s h f p (amt : Int), (view s).handles h = some (f, p) → 0 ≤ amt →
    Keeps (view s) (view (os.call (.read h amt) s).os)
  write : WritesInPlace os view
  getFileSize : ∀ s h f p, (view s).handles h = some (f, p) →
    view (os.call (.getFileSize h) s).os = view s ∧
      ((os.call (.getFileSize h) s).value.1 = 0 →
        (os.call (.getFileSize h) s).value.2 = ((view s).data f).length)
  delete_ : ∀ s h f p (count : Int), (view s).handles h = some (f, p) → 0 ≤ count →
    p + count ≤ ((view s).data f).length →
    Keeps (view s) (view (os.call (.delete_ h count) s).os)
  lock : ∀ s h f p, (view s).handles h = some (f, p) →
    Keeps (view s) (view (os.call (.lock h) s).os)
  unlock : ∀ s h f p, (view s).handles h = some (f, p) →
    Keeps (view s) (view (os.call (.unlock h) s).os)
  query : ∀ {α : Type} (c : Syscall α) s, c.IsQuery → view (os.call c s).os = view s

/-- Locking and unlocking only move the lock. -/
theorem LockLaws.lock_keeps {os : Os σ} (laws : LockLaws os view) {s : σ} {h : Int} {f p : Nat}
    (hh : (view s).handles h = some (f, p)) : Keeps (view s) (view (os.call (.lock h) s).os) := by
  by_cases hfree : (view s).locks f = none ∨ (view s).locks f = some h
  · rw [(laws.lock_free s h f p hh hfree).2]
    exact Keeps.setLock _ _ _
  · obtain ⟨other, hother⟩ := Option.ne_none_iff_exists'.mp (fun hnone => hfree (Or.inl hnone))
    refine Keeps.of_eq (laws.lock_held s h f p other hh hother ?_).2
    rintro rfl
    exact hfree (Or.inr hother)

theorem LockLaws.unlock_keeps {os : Os σ} (laws : LockLaws os view) {s : σ} {h : Int} {f p : Nat}
    (hh : (view s).handles h = some (f, p)) :
    Keeps (view s) (view (os.call (.unlock h) s).os) := by
  by_cases hown : (view s).locks f = some h
  · rw [(laws.unlock_own s h f p hh hown).2]
    exact Keeps.setLock _ _ _
  · exact Keeps.of_eq (laws.unlock_other s h f p hh hown)

/-- A system that obeys all the laws treats names and handles so. -/
theorem Lawful.naming {os : Os σ} (laws : Lawful os view) : NamingLaws os view where
  dir := laws.dir
  lseek := by
    intro s h f p offset hh
    by_cases hout : offset < 0 ∨ ((view s).data f).length < offset
    · exact Or.inl (laws.file.lseek_outside s h f p offset hh hout)
    · have hlo : 0 ≤ offset := by omega
      have hhi : offset ≤ ((view s).data f).length := by omega
      exact Or.inr ⟨hlo, hhi, (laws.file.lseek_inside s h f p offset hh hlo hhi).2⟩
  read := by
    intro s h f p amt hh hamt
    rw [(laws.file.read s h f p amt hh hamt).2]
    exact (SameBut.seek hh _).keeps
  write := laws.file.write
  getFileSize := by
    intro s h f p hh
    obtain ⟨hvalue, hview⟩ := laws.file.getFileSize s h f p hh
    exact ⟨hview, fun _ => by rw [hvalue]⟩
  delete_ := by
    intro s h f p count hh hcount hle
    rcases laws.file.delete_ s h f p count hh hcount hle with ⟨-, hview⟩ | ⟨hlt, -, hview⟩
    · exact Keeps.of_eq hview
    · rw [hview]
      exact (SameBut.put hlt).keeps
  lock := fun _ _ _ _ hh => laws.lock.lock_keeps hh
  unlock := fun _ _ _ _ hh => laws.lock.unlock_keeps hh
  query := laws.query

/-! ## The calls on an open file -/

/-- A seek keeps names and handles, and one that does not fail ends at a position in the file. -/
theorem sys_lseek_keeps (laws : NamingLaws env.os view) {h : Int} {f p : Nat} {w : World σ}
    (hh : (view w.os).handles h = some (f, p)) (offset : Int) :
    Keeps (view w.os) (view (env.sys (.lseek h offset) w).world.os) ∧
      (¬ (env.sys (.lseek h offset) w).value = -1 →
        0 ≤ offset ∧ offset ≤ ((view w.os).data f).length ∧
          (view (env.sys (.lseek h offset) w).world.os).data = (view w.os).data ∧
          (view (env.sys (.lseek h offset) w).world.os).handles h = some (f, offset.toNat)) := by
  rw [Env.sys_os, Env.sys_value]
  rcases laws.lseek w.os h f p offset hh with ⟨hfailed, hview⟩ | ⟨hlo, hhi, hview⟩
  · exact ⟨Keeps.of_eq hview, fun hsought => absurd hfailed hsought⟩
  · rw [hview]
    exact ⟨(SameBut.seek hh _).keeps, fun _ => ⟨hlo, hhi, rfl, by simp⟩⟩

theorem verixRead_keeps (laws : NamingLaws env.os view) {pFile : VerixFile} {f : Nat}
    {w : World σ} (hopen : OpenOn (view w.os) pFile f) (pBuf : Buffer UInt8) {amt : Int}
    (hamt : 0 ≤ amt) (offset : Int) :
    Keeps (view w.os) (view (verixRead env pFile pBuf amt offset w).2.2.os) := by
  obtain ⟨p, hp⟩ := hopen
  obtain ⟨hseek, hsought⟩ := sys_lseek_keeps laws hp (toInt offset)
  simp only [verixRead]
  split
  · simpa using hseek
  · rename_i hdone
    obtain ⟨-, -, -, hpos⟩ := hsought hdone
    have hread := hseek.trans (laws.read _ pFile.h f _ amt hpos hamt)
    split
    · simpa using hread
    · simpa using hread

/-- The write loop keeps names and handles, also where it is not followed to its end. -/
theorem verixWriteLoop_keeps (writes : WritesInPlace env.os view) {h : Int} {f : Nat} {fuel : Nat}
    {pBuf : List UInt8} {w : World σ} {p : Nat} (hp : (view w.os).handles h = some (f, p))
    (hle : p ≤ ((view w.os).data f).length) {r : ResultCode × World σ}
    (hloop : verixWriteLoop env h fuel pBuf w = .ok r) : Keeps (view w.os) (view r.2.os) := by
  induction fuel generalizing pBuf w p with
  | zero =>
      cases pBuf with
      | nil =>
          cases hloop
          exact Keeps.refl _
      | cons byte rest => cases hloop
  | succ fuel ih =>
      cases pBuf with
      | nil =>
          cases hloop
          exact Keeps.refl _
      | cons byte rest =>
          simp only [verixWriteLoop] at hloop
          rcases writes w.os h f p (byte :: rest) hp (by simp) hle with
            ⟨hvalue, hview⟩ | ⟨count, hlt, hone, hcount, hvalue, hview⟩
          · rw [Env.sys_value, hvalue] at hloop
            cases hloop
            exact Keeps.of_eq hview
          · rw [Env.sys_value, hvalue] at hloop
            have htaken : ((byte :: rest).take count).length = count := by
              rw [List.length_take]
              omega
            have hstep : SameBut f (view w.os)
                (view (env.sys (.write h (byte :: rest)) w).world.os) := by
              rw [Env.sys_os, hview]
              exact SameBut.putAt hp hlt _
            refine hstep.keeps.trans (ih (p := p + count) ?_ ?_ hloop)
            · rw [Env.sys_os, hview]
              simp
            · rw [Env.sys_os, hview, Disk.putAt_data, Function.update_self, length_overlay _ hle,
                htaken]
              omega

theorem verixWrite_keeps (laws : NamingLaws env.os view) {pFile : VerixFile} {f : Nat}
    {w : World σ} (hopen : OpenOn (view w.os) pFile f) {pBuf : List UInt8} {offset : Int}
    {r : ResultCode × World σ} (hwrite : verixWrite env pFile pBuf offset w = .ok r) :
    Keeps (view w.os) (view r.2.os) := by
  obtain ⟨q, hq⟩ := hopen
  obtain ⟨hseek, hsought⟩ := sys_lseek_keeps laws hq (toInt offset)
  simp only [verixWrite] at hwrite
  split at hwrite
  · cases hwrite
    exact hseek
  · rename_i hdone
    obtain ⟨hlo, hhi, hdata, hpos⟩ := hsought hdone
    refine hseek.trans (verixWriteLoop_keeps laws.write hpos ?_ hwrite)
    rw [hdata]
    omega

theorem verixTruncate_keeps (laws : NamingLaws env.os view) {pFile : VerixFile} {f : Nat}
    {w : World σ} (hopen : OpenOn (view w.os) pFile f) (nByte : Int) :
    Keeps (view w.os) (view (verixTruncate env pFile nByte w).2.os) := by
  obtain ⟨q, hq⟩ := hopen
  obtain ⟨hview, hlength⟩ := laws.getFileSize w.os pFile.h f q hq
  have hsame : view (env.sys (.getFileSize pFile.h) w).world.os = view w.os := hview
  simp only [verixTruncate]
  split
  · exact Keeps.of_eq hsame
  · rename_i hknown
    have hsize : (env.sys (.getFileSize pFile.h) w).value.2 = ((view w.os).data f).length :=
      hlength (not_not.mp hknown)
    obtain ⟨hseek, hsought⟩ := sys_lseek_keeps laws (by rw [hsame]; exact hq) (toInt nByte)
    rw [hsame] at hseek hsought
    split
    · simpa using hseek
    · rename_i hdone
      obtain ⟨hlo, hhi, hdata, hpos⟩ := hsought hdone
      have hdelete := hseek.trans (laws.delete_ _ pFile.h f _
        ((env.sys (.getFileSize pFile.h) w).value.2 - toInt nByte) hpos (by omega)
        (by rw [hdata]; omega))
      split
      · simpa using hdelete
      · simpa using hdelete

theorem verixRandomnessLoop_keeps (laws : NamingLaws env.os view) (nBuf : Nat) (w : World σ) :
    Keeps (view w.os) (view (verixRandomnessLoop env nBuf w).2.os) := by
  induction nBuf generalizing w with
  | zero => exact Keeps.refl _
  | succ n ih =>
      exact (Keeps.of_eq (laws.query .rand w.os trivial)).trans (ih (env.sys .rand w).world)

/-! ## The calls of a session -/

/-- The slot whose file object the call works on. -/
def VfsCall.slot? : VfsCall → Option Nat
  | .xClose slot | .xRead slot _ _ _ | .xWrite slot _ _ | .xTruncate slot _ | .xSync slot
  | .xFileSize slot _ | .xLock slot | .xUnlock slot | .xCheckReservedLock slot
  | .xFileControl slot _ _ | .xSectorSize slot | .xDeviceCharacteristics slot => some slot
  | _ => none

/-- SQLite calls a method only on an object that is open, opens an object only when it is
closed, and never reads a negative amount. -/
structure VfsCall.Proper (s : Session σ) (call : VfsCall) : Prop where
  method : ∀ slot, call.slot? = some slot → (s.files slot).pMethod = true
  fresh : ∀ zName slot flags, call = .xOpen zName slot flags → (s.files slot).pMethod = false
  amount : ∀ slot pBuf amt offset, call = .xRead slot pBuf amt offset → 0 ≤ amt

/-- The call is one of the three that work on names or hand out and take back handles. -/
def VfsCall.ChangesNames : VfsCall → Prop
  | .xOpen _ _ _ | .xClose _ | .xDelete _ => True
  | _ => False

/-- The handles of the open objects are open, and no two objects share one. -/
structure Session.HandlesOpen (view : σ → Disk) (s : Session σ) : Prop where
  openOn : ∀ slot, (s.files slot).pMethod = true → ∃ f, OpenOn (view s.world.os) (s.files slot) f
  distinct : ∀ slot slot', (s.files slot).pMethod = true → (s.files slot').pMethod = true →
    slot ≠ slot' → (s.files slot).h ≠ (s.files slot').h

/-- At the start of a process no object is open. -/
theorem Session.HandlesOpen.start (os : σ) (errno lastErrno : Int) :
    (Session.start os errno lastErrno fun _ => .zeroed).HandlesOpen view := by
  constructor
  · intro slot hslot
    cases hslot
  · intro slot slot' hslot
    cases hslot

/-- Every call but the three leaves the file objects, the names and the handles as they are. -/
theorem VfsCall.perform_keeps (laws : NamingLaws env.os view) {s : Session σ} {call : VfsCall}
    {r : VfsResult × Session σ} (hopen : s.HandlesOpen view) (hproper : call.Proper s)
    (hcall : ¬ call.ChangesNames) (hperform : call.perform env s = .ok r) :
    r.2.files = s.files ∧ Keeps (view s.world.os) (view r.2.world.os) := by
  cases call with
  | xClose slot => exact absurd trivial hcall
  | xOpen zName slot flags => exact absurd trivial hcall
  | xDelete zName => exact absurd trivial hcall
  | xRead slot pBuf amt offset =>
      obtain ⟨f, hf⟩ := hopen.openOn slot (hproper.method slot rfl)
      cases hperform
      exact ⟨rfl, verixRead_keeps laws hf pBuf (hproper.amount _ _ _ _ rfl) offset⟩
  | xWrite slot pBuf offset =>
      obtain ⟨f, hf⟩ := hopen.openOn slot (hproper.method slot rfl)
      obtain ⟨written, hwrite, hr⟩ := bind_eq_ok_iff.mp hperform
      cases hr
      exact ⟨rfl, verixWrite_keeps laws hf hwrite⟩
  | xTruncate slot nByte =>
      obtain ⟨f, hf⟩ := hopen.openOn slot (hproper.method slot rfl)
      cases hperform
      exact ⟨rfl, verixTruncate_keeps laws hf nByte⟩
  | xFileSize slot pSize =>
      cases hperform
      refine ⟨rfl, Keeps.of_eq ?_⟩
      have hquery := laws.query (.dirGetFileSz (s.files slot).filename) s.world.os trivial
      simp only [verixFileSize]
      split
      · simpa using hquery
      · simpa using hquery
  | xLock slot =>
      obtain ⟨f, p, hp⟩ := hopen.openOn slot (hproper.method slot rfl)
      cases hperform
      refine ⟨rfl, ?_⟩
      have hlocked := laws.lock s.world.os (s.files slot).h f p hp
      simp only [verixLock]
      split
      · simpa using hlocked
      · simpa using hlocked
  | xUnlock slot =>
      obtain ⟨f, p, hp⟩ := hopen.openOn slot (hproper.method slot rfl)
      cases hperform
      refine ⟨rfl, ?_⟩
      have hunlocked := laws.unlock s.world.os (s.files slot).h f p hp
      simp only [verixUnlock]
      split
      · simpa using hunlocked
      · simpa using hunlocked
  | xCheckReservedLock slot =>
      obtain ⟨f, p, hp⟩ := hopen.openOn slot (hproper.method slot rfl)
      cases hperform
      have hlocked : Keeps (view s.world.os)
          (view (env.sys (.lock (s.files slot).h) s.world).world.os) :=
        laws.lock s.world.os (s.files slot).h f p hp
      refine ⟨rfl, ?_⟩
      simp only [verixCheckReservedLock]
      split
      · obtain ⟨q, hq⟩ := hlocked.openOn (s.files slot) f ⟨p, hp⟩
        exact hlocked.trans (laws.unlock _ (s.files slot).h f q hq)
      · exact hlocked
  | xAccess zName flags =>
      cases hperform
      exact ⟨rfl, Keeps.of_eq (laws.query (.dirGetAttributes zName) s.world.os trivial)⟩
  | xRandomness nByte =>
      cases hperform
      exact ⟨rfl, verixRandomnessLoop_keeps laws nByte (env.logPrintf s.world)⟩
  | xSleep microseconds =>
      cases hperform
      exact ⟨rfl, Keeps.of_eq (laws.query (.svcWait _) s.world.os trivial)⟩
  | xCurrentTime =>
      cases hperform
      exact ⟨rfl, Keeps.of_eq (laws.query .readClock s.world.os trivial)⟩
  | xGetLastError nBuf zBuf =>
      obtain ⟨text, -, hr⟩ := bind_eq_ok_iff.mp hperform
      cases hr
      exact ⟨rfl, Keeps.refl _⟩
  | _ =>
      cases hperform
      exact ⟨rfl, Keeps.refl _⟩

/-! ## The three calls that change names and handles -/

/-- Building the name asks at most for the tick counter. -/
theorem verixOpenFilename_view (laws : NamingLaws env.os view) {zName : Option CString}
    {w : World σ} {named : CString × World σ} (h : verixOpenFilename env zName w = .ok named) :
    view named.2.os = view w.os := by
  cases zName with
  | none =>
      obtain ⟨filename, -, heq⟩ := bind_eq_ok_iff.mp h
      cases heq
      exact laws.query .readTicks w.os trivial
  | some name =>
      obtain ⟨text, -, hrest⟩ := bind_eq_ok_iff.mp h
      obtain ⟨filename, -, heq⟩ := bind_eq_ok_iff.mp hrest
      cases heq
      rfl

/-- What an open that returned `SQLITE_OK` has done: the handle is new, the object is filled in,
and the handle is open on the file the built name had, or on one created for it. -/
structure OpenedAs (env : Env σ) (zName : Option CString) (flags : Nat) (filename : CString)
    (d d' : Disk) (file : VerixFile) : Prop where
  method : file.pMethod = true
  temporary : file.temporary = decide (HasFlag flags openDeleteonclose)
  stored : verixOpenStrcpy env zName = .ok file.filename
  fresh : d.handles file.h = none
  disk : (∃ f hf, d.dir filename = some f ∧ d' = d.seek file.h f 0 hf) ∨
    (d.dir filename = none ∧ HasFlag flags openCreate ∧
      ∃ hf, d' = (d.create filename).seek file.h d.created 0 hf)

/-- Opening under a built name fails without effect, or returns `SQLITE_OK` having done all of
`OpenedAs`. -/
theorem verixOpenFile_cases (laws : DirLaws env.os view) {zName : Option CString} {id : VerixFile}
    {flags : Nat} {filename : CString} {w : World σ} {opened : Opened σ}
    (h : verixOpenFile env zName id flags filename w = .ok opened) :
    (opened.rc = .cantopen ∧ opened.file = id ∧ view opened.world.os = view w.os) ∨
      (opened.rc = .ok ∧ OpenedAs env zName flags filename (view w.os) (view opened.world.os)
        opened.file) := by
  simp only [verixOpenFile] at h
  by_cases hfail : (env.sys (.openFile filename (verixOpenFlags flags))
      (env.logPrintf w)).value = -1
  · rw [if_pos hfail] at h
    cases h
    exact Or.inl ⟨rfl, rfl, laws.open_failed w.os filename (verixOpenFlags flags) hfail⟩
  · rw [if_neg hfail] at h
    cases hstored : verixOpenStrcpy env zName with
    | error fault =>
        rw [hstored] at h
        cases h
    | ok stored =>
        rw [hstored] at h
        cases h
        refine Or.inr ⟨rfl, rfl, rfl, hstored, ?_, ?_⟩
        · cases hdir : (view w.os).dir filename with
          | none => exact (laws.open_missing w.os filename _ hdir hfail).2.1
          | some f => exact (laws.open_existing w.os filename _ f hdir hfail).1
        · cases hdir : (view w.os).dir filename with
          | none =>
              obtain ⟨hcreat, -, hdisk⟩ := laws.open_missing w.os filename _ hdir hfail
              exact Or.inr ⟨rfl, by simpa [verixOpenFlags] using hcreat, _, hdisk⟩
          | some f =>
              exact Or.inl ⟨f, _, rfl, (laws.open_existing w.os filename _ f hdir hfail).2⟩

/-- An open fails without effect, or returns `SQLITE_OK` having done all of `OpenedAs`. -/
theorem verixOpen_cases (laws : NamingLaws env.os view) {zName : Option CString}
    {id : VerixFile} {flags : Nat} {w : World σ} {opened : Opened σ}
    (h : verixOpen env zName id flags w = .ok opened) :
    ∃ named, verixOpenFilename env zName w = .ok named ∧
      ((opened.rc = .cantopen ∧ opened.file = id ∧ view opened.world.os = view w.os) ∨
        (opened.rc = .ok ∧ OpenedAs env zName flags named.1 (view w.os) (view opened.world.os)
          opened.file)) := by
  obtain ⟨named, hnamed, hfile⟩ := bind_eq_ok_iff.mp h
  refine ⟨named, hnamed, ?_⟩
  rw [← verixOpenFilename_view laws hnamed]
  exact verixOpenFile_cases laws.dir hfile

/-- Closing an open object frees its handle. A temporary object's name is removed as well, or
the call fails. -/
theorem verixClose_cases (laws : DirLaws env.os view) {pFile : VerixFile} {f : Nat} {w : World σ}
    (hopen : OpenOn (view w.os) pFile f) :
    ∃ locks, let closed : Disk := { (view w.os).closeHandle pFile.h with locks := locks }
      ((pFile.temporary = false ∨ (verixClose env pFile w).1 ≠ .ok) ∧
          view (verixClose env pFile w).2.os = closed) ∨
        (pFile.temporary = true ∧ (verixClose env pFile w).1 = .ok ∧
          (view w.os).dir pFile.filename ≠ none ∧
          view (verixClose env pFile w).2.os = closed.unlink pFile.filename) := by
  -- closing an open handle succeeds and may release locks
  obtain ⟨p, hp⟩ := hopen
  obtain ⟨hclose, locks, hclosed⟩ := laws.close w.os pFile.h f p hp
  refine ⟨locks, ?_⟩
  simp only [verixClose, Env.sys_value, hclose, ne_eq, not_true_eq_false, if_false]
  by_cases htemp : pFile.temporary = true
  · simp only [htemp, if_true]
    rcases laws.remove (env.os.call (.close pFile.h) w.os).os pFile.filename with
      ⟨hvalue, hdir, hview⟩ | ⟨hvalue, hview⟩
    · right
      rw [hclosed] at hdir hview
      have hgone : (env.sys (.remove pFile.filename)
          (env.sys (.close pFile.h) w).world).value = 0 :=
        hvalue
      rw [if_pos hgone]
      exact ⟨trivial, rfl, hdir, hview⟩
    · left
      rw [hclosed] at hview
      have hleft : (env.sys (.remove pFile.filename)
          (env.sys (.close pFile.h) w).world).value ≠ 0 :=
        hvalue
      rw [if_neg hleft]
      exact ⟨Or.inr (by simp), hview⟩
  · left
    have hzero : (env.sys (.close pFile.h) w).value = 0 := hclose
    simp only [htemp, Bool.false_eq_true, if_false, hzero, if_true]
    exact ⟨Or.inl (by simp), hclosed⟩

/-- A removal takes away the name it is given, or fails without effect. -/
theorem verixDelete_cases (laws : DirLaws env.os view) (zFilename : CString) (w : World σ) :
    ((verixDelete env zFilename w).1 = .ok ∧ (view w.os).dir zFilename ≠ none ∧
        view (verixDelete env zFilename w).2.os = (view w.os).unlink zFilename) ∨
      ((verixDelete env zFilename w).1 ≠ .ok ∧
        view (verixDelete env zFilename w).2.os = view w.os) := by
  rcases laws.remove w.os zFilename with ⟨hvalue, hdir, hview⟩ | ⟨hvalue, hview⟩
  · left
    simp only [verixDelete, Env.sys_value, hvalue, if_true]
    exact ⟨trivial, hdir, hview⟩
  · right
    simp only [verixDelete, Env.sys_value, hvalue, if_false]
    refine ⟨?_, hview⟩
    split <;> simp

/-! ## Handles through a call -/

/-- A handle on another object than the newly opened one stays on its file. -/
theorem OpenedAs.openOn_other {zName : Option CString} {flags : Nat} {filename : CString}
    {d d' : Disk} {file pFile : VerixFile} (h : OpenedAs env zName flags filename d d' file)
    {g : Nat} (hopen : OpenOn d pFile g) : pFile.h ≠ file.h ∧ OpenOn d' pFile g := by
  obtain ⟨q, hq⟩ := hopen
  have hne : pFile.h ≠ file.h := by
    intro heq
    rw [heq, h.fresh] at hq
    cases hq
  refine ⟨hne, q, ?_⟩
  rcases h.disk with ⟨f, hf, -, hdisk⟩ | ⟨-, -, hf, hdisk⟩
  · simpa [hdisk, Function.update_of_ne hne] using hq
  · simpa [hdisk, Disk.create, Function.update_of_ne hne] using hq

/-- The newly opened object is open on the file its built name leads to afterwards. -/
theorem OpenedAs.openOn_new {zName : Option CString} {flags : Nat} {filename : CString}
    {d d' : Disk} {file : VerixFile} (h : OpenedAs env zName flags filename d d' file) :
    ∃ f, OpenOn d' file f ∧ d'.dir filename = some f := by
  rcases h.disk with ⟨f, hf, hdir, hdisk⟩ | ⟨-, -, hf, hdisk⟩
  · exact ⟨f, ⟨0, by simp [hdisk]⟩, by simp [hdisk, hdir]⟩
  · exact ⟨d.created, ⟨0, by simp [hdisk]⟩, by simp [hdisk, Disk.create]⟩

/-- An open adds the new handle to the table of handles. -/
theorem OpenedAs.handles_iff {zName : Option CString} {flags : Nat} {filename : CString}
    {d d' : Disk} {file : VerixFile} (h : OpenedAs env zName flags filename d d' file)
    (handle : Int) : d'.handles handle ≠ none ↔ handle = file.h ∨ d.handles handle ≠ none := by
  have hhandles : ∃ position, d'.handles = Function.update d.handles file.h (some position) := by
    rcases h.disk with ⟨f, hf, -, hdisk⟩ | ⟨-, -, hf, hdisk⟩
    · exact ⟨_, by rw [hdisk, Disk.seek_handles]⟩
    · exact ⟨_, by rw [hdisk, Disk.seek_handles]; rfl⟩
  obtain ⟨position, hhandles⟩ := hhandles
  by_cases heq : handle = file.h
  · simp [hhandles, heq]
  · simp [hhandles, heq]

/-- An open binds no name but the built one. -/
theorem OpenedAs.dir_other {zName : Option CString} {flags : Nat} {filename name : CString}
    {d d' : Disk} {file : VerixFile} (h : OpenedAs env zName flags filename d d' file)
    (hname : name ≠ filename) : d'.dir name = d.dir name := by
  rcases h.disk with ⟨f, hf, -, hdisk⟩ | ⟨-, -, hf, hdisk⟩
  · simp [hdisk]
  · simp [hdisk, Disk.create, Function.update_of_ne hname]

/-- Closing an object takes its handle out of the table of handles. -/
theorem verixClose_handles (laws : DirLaws env.os view) {pFile : VerixFile} {f : Nat} {w : World σ}
    (hopen : OpenOn (view w.os) pFile f) :
    (view (verixClose env pFile w).2.os).handles =
      Function.update (view w.os).handles pFile.h none := by
  obtain ⟨locks, ⟨-, hview⟩ | ⟨-, -, -, hview⟩⟩ := verixClose_cases laws hopen
  · rw [hview]
    rfl
  · rw [hview]
    rfl

/-- Closing one object leaves the handles of the others. -/
theorem verixClose_openOn_other (laws : DirLaws env.os view) {pFile other : VerixFile} {f g : Nat}
    {w : World σ} (hopen : OpenOn (view w.os) pFile f) (hother : OpenOn (view w.os) other g)
    (hne : other.h ≠ pFile.h) : OpenOn (view (verixClose env pFile w).2.os) other g := by
  obtain ⟨p, hp⟩ := hother
  refine ⟨p, ?_⟩
  obtain ⟨locks, ⟨-, hview⟩ | ⟨-, -, -, hview⟩⟩ := verixClose_cases laws hopen
  · simpa [hview, Disk.closeHandle, Function.update_of_ne hne] using hp
  · simpa [hview, Disk.closeHandle, Disk.unlink, Function.update_of_ne hne] using hp

/-- Closing an object removes its name or none. -/
theorem verixClose_dir (laws : DirLaws env.os view) {pFile : VerixFile} {f : Nat} {w : World σ}
    (hopen : OpenOn (view w.os) pFile f) (name : CString) :
    (view (verixClose env pFile w).2.os).dir name = (view w.os).dir name ∨
      (pFile.temporary = true ∧ name = pFile.filename ∧
        (view (verixClose env pFile w).2.os).dir name = none) := by
  obtain ⟨locks, ⟨-, hview⟩ | ⟨htemp, -, -, hview⟩⟩ := verixClose_cases laws hopen
  · exact Or.inl (by rw [hview]; rfl)
  · by_cases hname : name = pFile.filename
    · exact Or.inr ⟨htemp, hname, by simp [hview, Disk.unlink, hname]⟩
    · exact Or.inl (by simp [hview, Disk.unlink, Disk.closeHandle, Function.update_of_ne hname])

theorem verixDelete_keeps_openOn (laws : DirLaws env.os view) (zFilename : CString) {w : World σ}
    {pFile : VerixFile} {f : Nat} (hopen : OpenOn (view w.os) pFile f) :
    OpenOn (view (verixDelete env zFilename w).2.os) pFile f := by
  rcases verixDelete_cases laws zFilename w with ⟨-, -, hview⟩ | ⟨-, hview⟩
  · rw [hview]
    exact hopen
  · rw [hview]
    exact hopen

/-- A removal takes away the given name or none. -/
theorem verixDelete_dir (laws : DirLaws env.os view) (zFilename name : CString) (w : World σ) :
    (view (verixDelete env zFilename w).2.os).dir name = (view w.os).dir name ∨
      (name = zFilename ∧ (view (verixDelete env zFilename w).2.os).dir name = none) := by
  rcases verixDelete_cases laws zFilename w with ⟨-, -, hview⟩ | ⟨-, hview⟩
  · by_cases hname : name = zFilename
    · exact Or.inr ⟨hname, by simp [hview, Disk.unlink, hname]⟩
    · exact Or.inl (by simp [hview, Disk.unlink, Function.update_of_ne hname])
  · exact Or.inl (by rw [hview])

theorem Session.HandlesOpen.keeps {s s' : Session σ} (h : s.HandlesOpen view)
    (hfiles : s'.files = s.files)
    (hopen : ∀ pFile f, OpenOn (view s.world.os) pFile f → OpenOn (view s'.world.os) pFile f) :
    s'.HandlesOpen view := by
  constructor
  · intro slot hslot
    rw [hfiles] at hslot ⊢
    exact (h.openOn slot hslot).imp fun f hf => hopen _ f hf
  · rw [hfiles]
    exact h.distinct

/-- Filling a slot with a newly opened object keeps the handles open and apart. -/
theorem Session.HandlesOpen.opened {s : Session σ} (h : s.HandlesOpen view)
    {zName : Option CString} {filename : CString} {slot flags : Nat} {world : World σ}
    {file : VerixFile}
    (hopened : OpenedAs env zName flags filename (view s.world.os) (view world.os) file) :
    Session.HandlesOpen view ⟨world, Function.update s.files slot file⟩ := by
  have hother : ∀ a, (s.files a).pMethod = true →
      (s.files a).h ≠ file.h ∧ ∃ f, OpenOn (view world.os) (s.files a) f := by
    intro a ha
    obtain ⟨f, hf⟩ := h.openOn a ha
    exact ⟨(hopened.openOn_other hf).1, f, (hopened.openOn_other hf).2⟩
  constructor
  · intro a ha
    by_cases hac : a = slot
    · subst hac
      simp only [Function.update_self]
      exact hopened.openOn_new.imp fun _ hf => hf.1
    · simp only [Function.update_of_ne hac] at ha ⊢
      exact (hother a ha).2
  · intro a b ha hb hne
    by_cases hac : a = slot
    · subst hac
      simp only [Function.update_self, Function.update_of_ne hne.symm] at ha hb ⊢
      exact (hother b hb).1.symm
    · simp only [Function.update_of_ne hac] at ha ⊢
      by_cases hbc : b = slot
      · subst hbc
        simp only [Function.update_self] at hb ⊢
        exact (hother a ha).1
      · simp only [Function.update_of_ne hbc] at hb ⊢
        exact h.distinct a b ha hb hne

/-- An object that is open after a close is another one, and was open before. -/
theorem open_of_closed {s : Session σ} {slot a : Nat}
    (ha : (Function.update s.files slot (s.files slot).closed a).pMethod = true) :
    a ≠ slot ∧ (s.files a).pMethod = true := by
  by_cases hac : a = slot
  · subst hac
    rw [Function.update_self] at ha
    cases ha
  · exact ⟨hac, by rwa [Function.update_of_ne hac] at ha⟩

theorem Session.HandlesOpen.closed (laws : DirLaws env.os view) {s : Session σ}
    (h : s.HandlesOpen view) {slot : Nat} (hslot : (s.files slot).pMethod = true) :
    Session.HandlesOpen view ⟨(verixClose env (s.files slot) s.world).2,
      Function.update s.files slot (s.files slot).closed⟩ := by
  obtain ⟨f, hf⟩ := h.openOn slot hslot
  constructor
  · intro a ha
    obtain ⟨hac, ha⟩ := open_of_closed ha
    obtain ⟨g, hg⟩ := h.openOn a ha
    simp only [Function.update_of_ne hac]
    exact ⟨g, verixClose_openOn_other laws hf hg (h.distinct a slot ha hslot hac)⟩
  · intro a b ha hb hne
    obtain ⟨hac, ha⟩ := open_of_closed ha
    obtain ⟨hbc, hb⟩ := open_of_closed hb
    simp only [Function.update_of_ne hac, Function.update_of_ne hbc]
    exact h.distinct a b ha hb hne

/-- A step of a session is a call that returned. -/
theorem VfsCall.step_eq_some_iff {s s' : Session σ} {call : VfsCall} :
    call.step env s = some s' ↔ ∃ result, call.perform env s = .ok (result, s') := by
  unfold step
  cases hperform : call.perform env s with
  | error fault => simp
  | ok r =>
      obtain ⟨result, next⟩ := r
      simp

/-- Every proper call keeps the handles open and apart. -/
theorem VfsCall.perform_handlesOpen (laws : NamingLaws env.os view) {s : Session σ} {call : VfsCall}
    {r : VfsResult × Session σ} (h : s.HandlesOpen view) (hproper : call.Proper s)
    (hperform : call.perform env s = .ok r) : r.2.HandlesOpen view := by
  by_cases hcall : call.ChangesNames
  · cases call with
    | xOpen zName slot flags =>
        obtain ⟨opened, hopen, heq⟩ := bind_eq_ok_iff.mp hperform
        cases heq
        obtain ⟨named, -, ⟨-, hfile, hview⟩ | ⟨-, hopened⟩⟩ := verixOpen_cases laws hopen
        · exact h.keeps (by simp [hfile]) (Keeps.of_eq hview).openOn
        · exact h.opened hopened
    | xClose slot =>
        cases hperform
        exact h.closed laws.dir (hproper.method slot rfl)
    | xDelete zName =>
        cases hperform
        exact h.keeps rfl fun _ _ => verixDelete_keeps_openOn laws.dir zName
    | _ => exact hcall.elim
  · obtain ⟨hfiles, hdisk⟩ := VfsCall.perform_keeps laws h hproper hcall hperform
    exact h.keeps hfiles hdisk.openOn

end VxSqlite
