import VxSqlite.Pager.Lock
import VxSqlite.Pager.SharedLock

/-!
# The probe for a reserved lock and the hot journal

`verixCheckReservedLock` always answers that a reserved lock is held. Read `probeRight_iff`
first: the answer is right exactly while another handle holds the system's lock, or while the
prober itself has more than a shared lock. A pager that begins to read therefore never finds a
hot journal, and after a crash it goes on to read the half-written database.
-/

namespace VxSqlite

open Run

variable {σ : Type} {env : Env σ} {view : σ → Disk} {ι : Type}

/-! ## The probe -/

/-- The answer to a probe by pager `i` is right: no lock is reported if no other handle holds the
system's lock and the prober has at most a shared lock, and one is reported if some pager has a
reserved or higher lock. -/
structure ProbeRight (env : Env σ) (view : σ → Disk) (f : Nat) (s : Connections ι σ) (i : ι) :
    Prop where
  unlocked : (∀ owner, (view s.world.os).locks f = some owner → owner = (s.pagers i).fd.h) →
    (s.pagers i).eLock ≤ .shared → (verixCheckReservedLock env (s.pagers i).fd s.world).2.1 = 0
  locked : (∃ j, LockLevel.reserved ≤ (s.pagers j).eLock) →
    (verixCheckReservedLock env (s.pagers i).fd s.world).2.1 = 1

/-- Another handle holds the system's lock, or the prober has more than a shared lock. -/
def LockedForProbe (view : σ → Disk) (f : Nat) (s : Connections ι σ) (i : ι) : Prop :=
  (∃ owner, (view s.world.os).locks f = some owner ∧ owner ≠ (s.pagers i).fd.h) ∨
    LockLevel.shared < (s.pagers i).eLock

/-- Whatever the system does, the probe reports a lock. -/
theorem verixCheckReservedLock_result (env : Env σ) (pFile : VerixFile) (w : World σ) :
    (verixCheckReservedLock env pFile w).1 = .ok ∧
      (verixCheckReservedLock env pFile w).2.1 = 1 :=
  ⟨rfl, rfl⟩

theorem probeRight_iff {f : Nat} {s : Connections ι σ} {i : ι} :
    ProbeRight env view f s i ↔ LockedForProbe view f s i := by
  obtain ⟨-, hresult⟩ := verixCheckReservedLock_result env (s.pagers i).fd s.world
  constructor
  · intro h
    by_contra hfree
    simp only [LockedForProbe, not_or, not_exists, not_and, not_not] at hfree
    have hzero := h.unlocked hfree.1 (LockLevel.not_lt.mp hfree.2)
    rw [hresult] at hzero
    cases hzero
  · intro h
    refine ⟨?_, fun _ => hresult⟩
    intro hfree hle
    rcases h with ⟨owner, hlock, hne⟩ | hlt
    · exact absurd (hfree owner hlock) hne
    · exact absurd hle (LockLevel.not_le.mpr hlt)

/-! ## The hot journal -/

variable {calls : PagerCallbacks σ}

/-- No journal is ever found to be hot. -/
theorem hasHotJournal_pExists {pPager : Pager} {w : World σ} {hot : HotJournal σ}
    (h : hasHotJournal env calls pPager w = .ok hot) : hot.pExists = false := by
  have hprobe : ∀ w' : World σ, ¬ ((verixCheckReservedLock env pPager.fd w').1 = .ok ∧
      (verixCheckReservedLock env pPager.fd w').2.1 = 0) := by
    intro w' hzero
    rw [(verixCheckReservedLock_result env pPager.fd w').2] at hzero
    cases hzero.2
  simp only [hasHotJournal] at h
  split at h
  · rw [if_neg (hprobe _)] at h
    cases h
    rfl
  · cases h
    rfl

theorem pagerLockDb_eLock (pPager : Pager) (eLock : LockLevel) (w : World σ) :
    (pagerLockDb env pPager eLock w).2.1.eLock = pPager.eLock ∨
      (pagerLockDb env pPager eLock w).2.1.eLock = eLock := by
  simp only [pagerLockDb]
  split_ifs <;> simp

/-- Waiting for the shared lock leaves no more than a shared lock. The induction is on the number
of attempts left. -/
theorem waitOnLockLoop_le_shared {fuel nBusy : Nat} {pPager : Pager} {w : World σ}
    {waited : PagerRet σ} (hle : pPager.eLock ≤ .shared)
    (h : waitOnLockLoop env calls pPager .shared fuel nBusy w = .ok waited) :
    waited.pPager.eLock ≤ .shared := by
  induction fuel generalizing nBusy pPager w with
  | zero => cases h
  | succ fuel ih =>
      have hlocked : (pagerLockDb env pPager .shared w).2.1.eLock ≤ .shared := by
        rcases pagerLockDb_eLock pPager .shared w with heq | heq
        · rwa [heq]
        · rw [heq]
          exact le_refl 1
      simp only [waitOnLockLoop] at h
      split at h
      · split at h
        · exact ih hlocked h
        · cases h
          exact hlocked
      · cases h
        exact hlocked

/-- A pager that has at most a shared lock never enters the branch that rolls a hot journal
back. -/
theorem sharedLock_no_rollback {pPager : Pager} {w : World σ} {ret : SharedLockRet σ}
    (hle : pPager.eLock ≤ .shared)
    (h : sqlite3PagerSharedLock env calls pPager w = .ok ret) : ret.rollback = false := by
  obtain ⟨opened, hopened, hret⟩ := bind_eq_ok_iff.mp h
  cases hret
  show opened.rollback = false
  split at hopened
  · obtain ⟨waited, hwaited, hrest⟩ := bind_eq_ok_iff.mp hopened
    have hshared : waited.pPager.eLock ≤ .shared := waitOnLockLoop_le_shared hle hwaited
    split at hrest
    · cases hrest
      rfl
    · -- `eLock` is `SHARED_LOCK` here, so the hot journal is looked for
      obtain ⟨hot, hhot, hrest⟩ := bind_eq_ok_iff.mp hrest
      have hcold := hasHotJournal_pExists hhot
      split at hrest
      · cases hrest
        rfl
      · obtain ⟨rolled, -, hrest⟩ := bind_eq_ok_iff.mp hrest
        simp only at hrest
        split at hrest
        · cases hrest
          exact hcold
        · split at hrest
          · cases hrest
            exact hcold
          · cases hrest
            exact hcold
  · cases hopened
    rfl

/-- The state a crashed writer leaves to the next pager: nobody holds the lock of the database,
which has at least one page, and the first byte of the journal is not zero. -/
structure Crashed (view : σ → Disk) (pPager : Pager) (f j : Nat) (w : World σ) : Prop where
  eState : pPager.eState = .open
  eLock : pPager.eLock = .noLock
  noWal : ¬ PagerUseWal pPager
  locking : pPager.noLock = false
  isOpen : IsOpen pPager.fd
  openOn : OpenOn (view w.os) pPager.fd f
  unlocked : (view w.os).locks f = none
  pages : 0 < ((view w.os).data f).length
  journal : (view w.os).dir pPager.zJournal = some j
  hot : ∃ first rest, (view w.os).data j = first :: rest ∧ first ≠ 0

/-- The next pager finds the journal hot and enters the branch that rolls it back. -/
def Recovers (env : Env σ) (calls : PagerCallbacks σ) (pPager : Pager) (w : World σ) : Prop :=
  ∃ ret, sqlite3PagerSharedLock env calls pPager w = .ok ret ∧ ret.rollback = true

variable [DecidableEq ι]

/-- In a run of locking steps every probe is answered right exactly if each is made while another
handle holds the system's lock, or by a pager with more than a shared lock; and no pager recovers
a crashed database. -/
theorem probes_right_iff_and_no_recovery {pPager : Pager} {f j : Nat} {w : World σ}
    (hcrashed : Crashed view pPager f j w) :
    (∀ (start : Connections ι σ) (steps : List (LockStep ι)),
      EachStep (lockStep env)
          (fun s c => ∀ i, c = .checkReservedLock i → ProbeRight env view f s i) start steps ↔
        EachStep (lockStep env)
          (fun s c => ∀ i, c = .checkReservedLock i → LockedForProbe view f s i) start steps) ∧
      ¬ Recovers env calls pPager w := by
  refine ⟨fun start steps => ⟨?_, ?_⟩, ?_⟩
  · exact EachStep.mono fun s c h i hc => probeRight_iff.mp (h i hc)
  · exact EachStep.mono fun s c h i hc => probeRight_iff.mpr (h i hc)
  · rintro ⟨ret, hret, hrollback⟩
    have hle : pPager.eLock ≤ .shared := by
      rw [hcrashed.eLock]
      exact Nat.zero_le 1
    rw [sharedLock_no_rollback hle hret] at hrollback
    cases hrollback

/-- No busy handler and no write-ahead log. -/
def PagerCallbacks.none : PagerCallbacks Flash where
  xBusyHandler _ w := (false, w)
  busyFuel := 1
  walOpen _ w := (.cantopen, w)
  walEndReadTransaction w := w
  walBeginReadTransaction w := (.ok, false, w)
  walDbsize _ := 0

/-- A database of one byte and the journal that a crashed writer left. -/
def World.crashed : World Flash :=
  let files := Flash.ofFiles [(ascii "db", [1]), (ascii "db-journal", aJournalMagic)]
    (by simp [aJournalMagic])
  .on (files.give files.toDisk 0 (by simp [files, Flash.ofFiles]) rfl)

theorem World.crashed_crashed :
    Crashed Flash.toDisk (.opened (.on 0 (ascii "db")) (ascii "db")) 0 1 World.crashed where
  eState := rfl
  eLock := rfl
  noWal := by simp [PagerUseWal, Pager.opened]
  locking := rfl
  isOpen := rfl
  openOn := ⟨0, rfl⟩
  unlocked := rfl
  pages := Nat.zero_lt_one
  journal := rfl
  hot := ⟨_, _, rfl, by decide⟩

/-- The crash, and a run in which each of two pagers probes. -/
theorem probes_right_iff_and_no_recovery_crashed :
    (EachStep (lockStep quietFlash)
        (fun s c => ∀ i, c = .checkReservedLock i → ProbeRight quietFlash Flash.toDisk 0 s i)
        twoConnections [.lockDb false .exclusive, .checkReservedLock true] ↔
      EachStep (lockStep quietFlash)
        (fun s c => ∀ i, c = .checkReservedLock i → LockedForProbe Flash.toDisk 0 s i)
        twoConnections [.lockDb false .exclusive, .checkReservedLock true]) ∧
    ¬ Recovers quietFlash .none (.opened (.on 0 (ascii "db")) (ascii "db")) World.crashed :=
  have h := probes_right_iff_and_no_recovery (ι := Bool) World.crashed_crashed
  ⟨h.1 twoConnections _, h.2⟩

/-- After the crash the next pager takes its shared lock with success, and can read the database,
without a rollback. -/
theorem crashed_read_without_rollback :
    (∃ ret, sqlite3PagerSharedLock quietFlash .none (.opened (.on 0 (ascii "db")) (ascii "db"))
        World.crashed = .ok ret ∧
      ret.rc = .ok ∧ ret.pPager.eState = .reader ∧ ret.rollback = false) ∧
    ¬ ∀ pPager f j w, Crashed Flash.toDisk pPager f j w →
      Recovers quietFlash .none pPager w := by
  have hread : ∃ ret, sqlite3PagerSharedLock quietFlash .none
      (.opened (.on 0 (ascii "db")) (ascii "db")) World.crashed = .ok ret ∧
        ret.rc = .ok ∧ ret.pPager.eState = .reader ∧ ret.rollback = false :=
    ⟨_, rfl, rfl, rfl, rfl⟩
  refine ⟨hread, ?_⟩
  intro h
  obtain ⟨ret, hret, -, -, hno⟩ := hread
  obtain ⟨ret', hret', hrollback⟩ := h _ 0 1 _ World.crashed_crashed
  cases hret.symm.trans hret'
  rw [hno] at hrollback
  cases hrollback

end VxSqlite
