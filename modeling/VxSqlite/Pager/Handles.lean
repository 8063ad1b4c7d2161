import VxSqlite.Flash
import VxSqlite.Lib.Run
import VxSqlite.Pager.Basic
import VxSqlite.Verix.Name

/-!
# The account of handles and of files to delete

`sqlite3OsOpen` and `sqlite3OsClose` keep three things in step: the system's table of handles,
the method pointers of the file objects and the directory. A `Ledger` is a session with a note,
for each slot, of the name and the flags that its object was last opened with; the invariant
`Accounted` ties the table, the objects and the notes together through any run.
-/

namespace VxSqlite

variable {σ : Type} {env : Env σ} {view : σ → Disk}

/-- The result of `sqlite3OsClose`. -/
def sqlite3OsCloseResult (env : Env σ) (pId : VerixFile) (w : World σ) : ResultCode :=
  if IsOpen pId then (verixClose env pId w).1 else .ok

/-- A session, and for every slot the name and the flags its object was opened with. -/
structure Ledger (σ : Type) where
  session : Session σ
  opens : Nat → Option (CString × Nat)

/-- The two wrappers, called on the object in a slot. -/
inductive OsCall where
  | osOpen (slot : Nat) (zPath : CString) (flags : Nat)
  | osClose (slot : Nat)

/-- Make a call, and note an open that succeeded. -/
def OsCall.perform (env : Env σ) (s : Ledger σ) : OsCall → Except Fault (ResultCode × Ledger σ)
  | .osOpen slot zPath flags => do
      let r ← sqlite3OsOpen env zPath (s.session.files slot) flags s.session.world
      let opens :=
        if r.rc = .ok then Function.update s.opens slot (some (zPath, flags)) else s.opens
      return (r.rc, ⟨⟨r.world, Function.update s.session.files slot r.file⟩, opens⟩)
  | .osClose slot =>
      let r := sqlite3OsClose env (s.session.files slot) s.session.world
      .ok (sqlite3OsCloseResult env (s.session.files slot) s.session.world,
        ⟨⟨r.2, Function.update s.session.files slot r.1⟩, Function.update s.opens slot none⟩)

/-- The state after a call, where the call has one. -/
def OsCall.step (env : Env σ) (s : Ledger σ) (call : OsCall) : Option (Ledger σ) :=
  (call.perform env s).toOption.map Prod.snd

/-- An object is opened only while it is closed, under a name that fits and has no percent sign,
and that no other open object uses. -/
def OsCall.Proper (s : Ledger σ) : OsCall → Prop
  | .osOpen slot zPath _ =>
      (s.session.files slot).pMethod = false ∧ zPath.length < maxVerixFileName ∧
        percent ∉ zPath ∧ ∀ a name flags, a ≠ slot → s.opens a = some (name, flags) → name ≠ zPath
  | .osClose _ => True

/-- The open handles are exactly those of the objects whose method pointer is set. -/
def Ledger.HandlesMatch (view : σ → Disk) (s : Ledger σ) : Prop :=
  ∀ h, (view s.session.world.os).handles h ≠ none ↔
    ∃ slot, (s.session.files slot).pMethod = true ∧ (s.session.files slot).h = h

/-- The note says that the object in a slot was opened under a name, to be deleted on close. -/
def Ledger.DeletesOnClose (s : Ledger σ) (slot : Nat) (name : CString) : Prop :=
  ∃ flags, s.opens slot = some (name, flags) ∧ HasFlag flags openDeleteonclose

/-- What a call must do: an open that fails leaves the method pointer unset and an open removes
no file; a close gives back a handle that is open, removes the file it is to delete if it returns
`SQLITE_OK`, and removes no other. -/
def OsCall.Accounts (env : Env σ) (view : σ → Disk) (s : Ledger σ) (call : OsCall) : Prop :=
  ∃ rc next, call.perform env s = .ok (rc, next) ∧
    match call with
    | .osOpen slot _ _ =>
        (rc ≠ .ok → (next.session.files slot).pMethod = false) ∧
          ∀ name, (view s.session.world.os).dir name ≠ none →
            (view next.session.world.os).dir name ≠ none
    | .osClose slot =>
        ((s.session.files slot).pMethod = true →
          (view s.session.world.os).handles (s.session.files slot).h ≠ none ∧
            (view next.session.world.os).handles (s.session.files slot).h = none) ∧
          (next.session.files slot).pMethod = false ∧
          (∀ name, s.DeletesOnClose slot name → rc = .ok →
            (view next.session.world.os).dir name = none) ∧
          ∀ name, (view next.session.world.os).dir name = (view s.session.world.os).dir name ∨
            s.DeletesOnClose slot name

/-- The invariant: the handles of the open objects are open and apart, no other handle is open,
and the notes agree with the objects. -/
structure Ledger.Accounted (view : σ → Disk) (s : Ledger σ) : Prop where
  handlesOpen : s.session.HandlesOpen view
  stored : ∀ h, (view s.session.world.os).handles h ≠ none →
    ∃ slot, (s.session.files slot).pMethod = true ∧ (s.session.files slot).h = h
  noted : ∀ slot, (s.session.files slot).pMethod = true →
    ∃ flags, s.opens slot = some ((s.session.files slot).filename, flags) ∧
      (s.session.files slot).temporary = decide (HasFlag flags openDeleteonclose)
  unnoted : ∀ slot, (s.session.files slot).pMethod = false → s.opens slot = none

theorem Ledger.Accounted.handlesMatch {s : Ledger σ} (h : s.Accounted view) :
    s.HandlesMatch view := by
  intro handle
  refine ⟨h.stored handle, ?_⟩
  intro hstored
  obtain ⟨slot, hslot, heq⟩ := hstored
  obtain ⟨f, p, hp⟩ := h.handlesOpen.openOn slot hslot
  rw [← heq, hp]
  exact Option.some_ne_none (f, p)

/-- The mask keeps the bit that asks for deletion on close. -/
theorem hasFlag_masked (flags : Nat) :
    HasFlag (flags &&& 0x87f7f) openDeleteonclose ↔ HasFlag flags openDeleteonclose := by
  have hmask : 0x87f7f &&& openDeleteonclose = openDeleteonclose := by decide
  rw [HasFlag, HasFlag, Nat.and_assoc, hmask]

/-! ## Opening -/

/-- An open under a plain name that fits returns: it fails without effect, or it has done all of
`OpenedAs`. -/
theorem sqlite3OsOpen_cases (laws : DirLaws env.os view) {zPath : CString}
    (hlen : zPath.length < maxVerixFileName) (hplain : percent ∉ zPath) (pFile : VerixFile)
    (flags : Nat) (w : World σ) :
    ∃ opened, sqlite3OsOpen env zPath pFile flags w = .ok opened ∧
      ((opened.rc = .cantopen ∧ opened.file = pFile ∧ view opened.world.os = view w.os) ∨
        (opened.rc = .ok ∧ OpenedAs env (some zPath) (flags &&& 0x87f7f) zPath (view w.os)
          (view opened.world.os) opened.file)) := by
  obtain ⟨opened, hopened, -⟩ := verixOpenFile_stored (verixOpenStrcpy_fits env hlen) pFile
    (flags &&& 0x87f7f) zPath w
  refine ⟨opened, ?_, verixOpenFile_cases laws hopened⟩
  rw [sqlite3OsOpen, verixOpen, verixOpenFilename_plain env hplain hlen]
  exact hopened

/-- What an open that returned `SQLITE_OK` leaves in the object. -/
theorem OpenedAs.object {zPath : CString} (hlen : zPath.length < maxVerixFileName) {flags : Nat}
    {d d' : Disk} {file : VerixFile}
    (h : OpenedAs env (some zPath) (flags &&& 0x87f7f) zPath d d' file) :
    file.filename = zPath ∧ file.temporary = decide (HasFlag flags openDeleteonclose) := by
  have hstored : Except.ok zPath = Except.ok file.filename :=
    (verixOpenStrcpy_fits env hlen).symm.trans h.stored
  refine ⟨(Except.ok.inj hstored).symm, ?_⟩
  rw [h.temporary]
  exact decide_eq_decide.mpr (hasFlag_masked flags)

/-- Filling a closed slot with a newly opened object, and noting it, keeps the account. -/
theorem Ledger.Accounted.opened {s : Ledger σ} (h : s.Accounted view) {slot flags : Nat}
    {zPath : CString} (hlen : zPath.length < maxVerixFileName)
    (hclosed : (s.session.files slot).pMethod = false) {world : World σ} {file : VerixFile}
    (hopened : OpenedAs env (some zPath) (flags &&& 0x87f7f) zPath
      (view s.session.world.os) (view world.os) file) :
    Ledger.Accounted view ⟨⟨world, Function.update s.session.files slot file⟩,
      Function.update s.opens slot (some (zPath, flags))⟩ := by
  refine ⟨h.handlesOpen.opened hopened, ?_, ?_, ?_⟩
  · intro handle hhandle
    rcases (hopened.handles_iff handle).mp hhandle with heq | hold
    · exact ⟨slot, by simpa using hopened.method, by simp [heq]⟩
    · obtain ⟨a, ha, hstored⟩ := h.stored handle hold
      have hne : a ≠ slot := by
        intro heq
        rw [heq, hclosed] at ha
        cases ha
      exact ⟨a, by simpa [Function.update_of_ne hne] using ha,
        by simpa [Function.update_of_ne hne] using hstored⟩
  · intro a ha
    by_cases hac : a = slot
    · subst hac
      simp only [Function.update_self]
      obtain ⟨hname, htemp⟩ := hopened.object hlen
      exact ⟨flags, by rw [hname], htemp⟩
    · simp only [Function.update_of_ne hac] at ha ⊢
      exact h.noted a ha
  · intro a ha
    by_cases hac : a = slot
    · subst hac
      simp only [Function.update_self] at ha
      rw [hopened.method] at ha
      cases ha
    · simp only [Function.update_of_ne hac] at ha ⊢
      exact h.unnoted a ha

/-- An open in a closed slot does what it must, and keeps the account. -/
theorem osOpen_accounts (laws : DirLaws env.os view) {s : Ledger σ} (h : s.Accounted view)
    {slot flags : Nat} {zPath : CString} (hproper : (OsCall.osOpen slot zPath flags).Proper s) :
    ((OsCall.osOpen slot zPath flags).Accounts env view s) ∧
      ∀ rc next, (OsCall.osOpen slot zPath flags).perform env s = .ok (rc, next) →
        next.Accounted view := by
  obtain ⟨hclosed, hlen, hplain, -⟩ := hproper
  obtain ⟨opened, hrun, hcases⟩ :=
    sqlite3OsOpen_cases laws hlen hplain (s.session.files slot) flags s.session.world
  have hperform : (OsCall.osOpen slot zPath flags).perform env s = .ok (opened.rc,
      ⟨⟨opened.world, Function.update s.session.files slot opened.file⟩,
        if opened.rc = .ok then Function.update s.opens slot (some (zPath, flags))
        else s.opens⟩) := by
    simp only [OsCall.perform, hrun, ok_bind]
    rfl
  rcases hcases with ⟨hrc, hfile, hview⟩ | ⟨hrc, hopened⟩
  · rw [hrc, if_neg (by simp), hfile, Function.update_eq_self] at hperform
    constructor
    · exact ⟨_, _, hperform, fun _ => hclosed, fun name hname => by rwa [hview]⟩
    · intro rc next hnext
      cases hperform.symm.trans hnext
      refine ⟨h.handlesOpen.keeps rfl (Keeps.of_eq hview).openOn, ?_, h.noted, h.unnoted⟩
      simp only [hview]
      exact h.stored
  · rw [hrc, if_pos rfl] at hperform
    constructor
    · refine ⟨_, _, hperform, fun hne => absurd rfl hne, ?_⟩
      intro name hname
      by_cases heq : name = zPath
      · obtain ⟨f, -, hdir⟩ := hopened.openOn_new
        rw [heq, hdir]
        exact Option.some_ne_none f
      · rwa [hopened.dir_other heq]
    · intro rc next hnext
      cases hperform.symm.trans hnext
      exact h.opened hlen hclosed hopened

/-! ## Closing -/

/-- An open object is deleted on close exactly if it is temporary, under its own name. -/
theorem Ledger.Accounted.deletesOnClose_iff {s : Ledger σ} (h : s.Accounted view) {slot : Nat}
    (hslot : (s.session.files slot).pMethod = true) (name : CString) :
    s.DeletesOnClose slot name ↔
      name = (s.session.files slot).filename ∧ (s.session.files slot).temporary = true := by
  obtain ⟨flags, hnote, htemp⟩ := h.noted slot hslot
  constructor
  · intro hdeletes
    obtain ⟨flags', hnote', hflag⟩ := hdeletes
    cases hnote.symm.trans hnote'
    exact ⟨rfl, by simpa [htemp] using hflag⟩
  · intro htemporary
    obtain ⟨hname, htrue⟩ := htemporary
    rw [hname]
    exact ⟨flags, hnote, by simpa [htemp] using htrue⟩

/-- Closing an open object, and dropping its note, keeps the account. -/
theorem Ledger.Accounted.closed (laws : DirLaws env.os view) {s : Ledger σ}
    (h : s.Accounted view) {slot : Nat} (hslot : (s.session.files slot).pMethod = true) :
    Ledger.Accounted view
      ⟨⟨(verixClose env (s.session.files slot) s.session.world).2,
        Function.update s.session.files slot (s.session.files slot).closed⟩,
        Function.update s.opens slot none⟩ := by
  obtain ⟨f, hf⟩ := h.handlesOpen.openOn slot hslot
  refine ⟨h.handlesOpen.closed laws hslot, ?_, ?_, ?_⟩
  · intro handle hhandle
    rw [verixClose_handles laws hf] at hhandle
    have hne : handle ≠ (s.session.files slot).h := by
      intro heq
      rw [heq] at hhandle
      exact hhandle (Function.update_self _ _ _)
    rw [Function.update_of_ne hne] at hhandle
    obtain ⟨a, ha, hstored⟩ := h.stored handle hhandle
    have hac : a ≠ slot := by
      intro heq
      rw [heq] at hstored
      exact hne hstored.symm
    exact ⟨a, by simpa [Function.update_of_ne hac] using ha,
      by simpa [Function.update_of_ne hac] using hstored⟩
  · intro a ha
    obtain ⟨hac, ha⟩ := open_of_closed ha
    simp only [Function.update_of_ne hac]
    exact h.noted a ha
  · intro a ha
    by_cases hac : a = slot
    · simp [hac]
    · simp only [Function.update_of_ne hac] at ha ⊢
      exact h.unnoted a ha

/-- A close does what it must, and keeps the account. -/
theorem osClose_accounts (laws : DirLaws env.os view) {s : Ledger σ} (h : s.Accounted view)
    (slot : Nat) :
    ((OsCall.osClose slot).Accounts env view s) ∧
      ∀ rc next, (OsCall.osClose slot).perform env s = .ok (rc, next) →
        next.Accounted view := by
  by_cases hslot : (s.session.files slot).pMethod = true
  · -- the object is open, so its handle is given back
    obtain ⟨f, hf⟩ := h.handlesOpen.openOn slot hslot
    have hclosed : sqlite3OsClose env (s.session.files slot) s.session.world =
        ((s.session.files slot).closed,
          (verixClose env (s.session.files slot) s.session.world).2) := if_pos hslot
    have hresult : sqlite3OsCloseResult env (s.session.files slot) s.session.world =
        (verixClose env (s.session.files slot) s.session.world).1 := if_pos hslot
    have hdeletes := h.deletesOnClose_iff hslot
    constructor
    · refine ⟨_, _, rfl, fun _ => ⟨?_, ?_⟩, ?_, ?_, ?_⟩
      · obtain ⟨p, hp⟩ := hf
        simp [hp]
      · simp only [hclosed, verixClose_handles laws hf, Function.update_self]
      · simp [hclosed, VerixFile.closed]
      · intro name hdelete hok
        obtain ⟨hname, htrue⟩ := (hdeletes name).mp hdelete
        rw [hresult] at hok
        simp only [hclosed]
        obtain ⟨locks, ⟨hnot | hnot, -⟩ | ⟨-, -, -, hview⟩⟩ := verixClose_cases laws hf
        · rw [htrue] at hnot
          cases hnot
        · exact absurd hok hnot
        · simp [hview, hname, Disk.unlink]
      · intro name
        simp only [hclosed]
        rcases verixClose_dir laws hf name with hdir | ⟨htrue, hname, -⟩
        · exact Or.inl hdir
        · exact Or.inr ((hdeletes name).mpr ⟨hname, htrue⟩)
    · intro rc next hnext
      cases hnext
      simp only [hclosed]
      exact h.closed laws hslot
  · -- the method pointer is not set, and nothing happens
    have hfalse : (s.session.files slot).pMethod = false := by simpa using hslot
    have hnone := h.unnoted slot hfalse
    have hclosed : sqlite3OsClose env (s.session.files slot) s.session.world =
        (s.session.files slot, s.session.world) := if_neg hslot
    have hresult : sqlite3OsCloseResult env (s.session.files slot) s.session.world = .ok :=
      if_neg hslot
    have hperform : (OsCall.osClose slot).perform env s = .ok (.ok, s) := by
      have hopens : Function.update s.opens slot none = s.opens := by
        rw [← hnone, Function.update_eq_self]
      simp only [OsCall.perform, hclosed, hresult, Function.update_eq_self, hopens]
    constructor
    · refine ⟨_, _, hperform, fun htrue => absurd htrue hslot, hfalse, ?_, fun _ => Or.inl rfl⟩
      intro name hdeletes
      obtain ⟨flags, hnote, -⟩ := hdeletes
      rw [hnone] at hnote
      cases hnote
    · intro rc next hnext
      cases hperform.symm.trans hnext
      exact h

/-! ## Runs -/

/-- A process that has opened nothing yet. -/
def Ledger.start (os : σ) (errno lastErrno : Int) : Ledger σ :=
  ⟨.start os errno lastErrno fun _ => .zeroed, fun _ => none⟩

/-- Every proper call does what it must, and keeps the account. -/
theorem OsCall.accounts (laws : DirLaws env.os view) {s : Ledger σ} (h : s.Accounted view)
    {call : OsCall} (hproper : call.Proper s) :
    call.Accounts env view s ∧
      ∀ rc next, call.perform env s = .ok (rc, next) → next.Accounted view := by
  cases call with
  | osOpen slot zPath flags => exact osOpen_accounts laws h hproper
  | osClose slot => exact osClose_accounts laws h slot

theorem OsCall.step_accounted (laws : DirLaws env.os view) {s s' : Ledger σ}
    (h : s.Accounted view) {call : OsCall} (hproper : call.Proper s)
    (hstep : call.step env s = some s') : s'.Accounted view := by
  obtain ⟨rc, next, hperform, -⟩ := (OsCall.accounts laws h hproper).1
  rw [OsCall.step, hperform] at hstep
  cases hstep
  exact (OsCall.accounts laws h hproper).2 rc next hperform

theorem Ledger.start_accounted {os : σ} (hempty : ∀ h, (view os).handles h = none)
    (errno lastErrno : Int) : (Ledger.start os errno lastErrno).Accounted view := by
  refine ⟨.start os errno lastErrno, ?_, ?_, fun _ _ => rfl⟩
  · intro h hh
    exact absurd (hempty h) hh
  · intro slot hslot
    cases hslot

/-- In every run of proper opens and closes from a process without open handles, the open handles
are those of the open objects in every state, and every call does what it must. -/
theorem handles_accounted {σ : Type} (env : Env σ) (view : σ → Disk)
    (laws : DirLaws env.os view) (os : σ) (errno lastErrno : Int) (calls : List OsCall)
    (hempty : ∀ h, (view os).handles h = none)
    (hproper : Run.EachStep (OsCall.step env) (fun s call => call.Proper s)
      (.start os errno lastErrno) calls) :
    Run.Always (OsCall.step env) (fun s => s.HandlesMatch view)
        (.start os errno lastErrno) calls ∧
      Run.EachStep (OsCall.step env) (fun s call => call.Accounts env view s)
        (.start os errno lastErrno) calls := by
  have hstart := Ledger.start_accounted hempty errno lastErrno
  constructor
  · have halways := Run.always_of_eachStep (fun s call s' hs hgood hstep =>
      OsCall.step_accounted laws hs hgood hstep) hstart hproper
    exact halways.mono fun s hs => hs.handlesMatch
  · exact Run.EachStep.of_invariant (fun s call s' hs hgood hstep =>
      OsCall.step_accounted laws hs hgood hstep)
      (fun s call hs hgood => (OsCall.accounts laws hs hgood).1) hstart hproper

/-- A database and a temporary file are opened, a third open fails, and both are closed. -/
def sampleOpens : List OsCall :=
  [.osOpen 0 (ascii "db") 0x106, .osOpen 1 (ascii "etilqs") 0x1001e, .osOpen 2 (ascii "gone") 1,
    .osClose 1, .osClose 0]

/-- The sample on an empty `flash`. -/
theorem handles_accounted_flash :
    Run.Always (OsCall.step quietFlash) (fun s => s.HandlesMatch Flash.toDisk)
        (.start (Flash.ofFiles [] (by decide)) 0 0) sampleOpens ∧
      Run.EachStep (OsCall.step quietFlash)
        (fun s call => call.Accounts quietFlash Flash.toDisk s)
        (.start (Flash.ofFiles [] (by decide)) 0 0) sampleOpens := by
  refine handles_accounted quietFlash Flash.toDisk flash_dirLaws (Flash.ofFiles [] (by decide)) 0 0
    sampleOpens (fun _ => rfl) ?_
  refine ⟨⟨rfl, by decide, by decide, ?_⟩, fun _ hfirst => ?_⟩
  · intro a name flags _ hnote
    cases hnote
  cases hfirst
  refine ⟨⟨rfl, by decide, by decide, ?_⟩, fun _ hsecond => ?_⟩
  · intro a name flags _ hnote
    by_cases ha : a = 0
    · subst ha
      cases hnote
      decide
    · cases (Function.update_of_ne ha _ fun _ => none).symm.trans hnote
  cases hsecond
  refine ⟨⟨rfl, by decide, by decide, ?_⟩, fun _ hthird => ?_⟩
  · intro a name flags _ hnote
    by_cases ha : a = 1
    · subst ha
      cases hnote
      decide
    by_cases ha' : a = 0
    · subst ha'
      cases hnote
      decide
    · have hnote' := (Function.update_of_ne ha _ _).symm.trans hnote
      cases (Function.update_of_ne ha' _ fun _ => none).symm.trans hnote'
  cases hthird
  exact ⟨trivial, fun _ _ => ⟨trivial, fun _ _ => trivial⟩⟩

end VxSqlite
