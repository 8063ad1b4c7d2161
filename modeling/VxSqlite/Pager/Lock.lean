import VxSqlite.Lib.Run
import VxSqlite.Flash
import VxSqlite.Pager.Basic
import VxSqlite.Verix.Content

/-!
# Connections and the lock on their database

Any number of pagers are open on one database file and take their locking steps in any order.
The port has one system lock per file for SQLite's five levels, and each pager keeps its own
record of the level it believes to hold. `Agree` says that the records and the system's lock
agree. It is kept by every step but three: a downgrade to `SHARED_LOCK` releases the system's lock,
the probe for a reserved lock releases it when the prober itself holds it, and a pager opened
without locking records a lock it never takes. `locking_exclusive_iff` makes this exact: the
locks exclude each other all along exactly the runs without such steps.
-/

namespace VxSqlite

open Run

variable {σ : Type} {env : Env σ} {view : σ → Disk}

/-! ## The lock calls of the port on the system's lock -/

section Calls

variable {pFile : VerixFile} {f : Nat} {w : World σ}

/-- Locking succeeds if the lock is free or already the caller's. -/
theorem verixLock_free (laws : LockLaws env.os view) (hopen : OpenOn (view w.os) pFile f)
    (hfree : (view w.os).locks f = none ∨ (view w.os).locks f = some pFile.h) :
    (verixLock env pFile w).1 = .ok ∧
      view (verixLock env pFile w).2.os = (view w.os).setLock f (some pFile.h) := by
  obtain ⟨p, hp⟩ := hopen
  obtain ⟨hvalue, hview⟩ := laws.lock_free w.os pFile.h f p hp hfree
  simp [verixLock, hvalue, hview]

/-- Locking fails, and changes nothing, if another handle holds the lock. -/
theorem verixLock_held (laws : LockLaws env.os view) (hopen : OpenOn (view w.os) pFile f)
    {other : Int} (hlock : (view w.os).locks f = some other) (hne : other ≠ pFile.h) :
    (verixLock env pFile w).1 = .busy ∧ view (verixLock env pFile w).2.os = view w.os := by
  obtain ⟨p, hp⟩ := hopen
  obtain ⟨hvalue, hview⟩ := laws.lock_held w.os pFile.h f p other hp hlock hne
  simp [verixLock, hvalue, hview]

/-- Unlocking releases the lock if it is the caller's, whatever level the caller wants to keep. -/
theorem verixUnlock_own (laws : LockLaws env.os view) (hopen : OpenOn (view w.os) pFile f)
    (hlock : (view w.os).locks f = some pFile.h) :
    (verixUnlock env pFile w).1 = .ok ∧
      view (verixUnlock env pFile w).2.os = (view w.os).setLock f none := by
  obtain ⟨p, hp⟩ := hopen
  obtain ⟨hvalue, hview⟩ := laws.unlock_own w.os pFile.h f p hp hlock
  simp [verixUnlock, hvalue, hview]

/-- Unlocking changes nothing if the lock is not the caller's. -/
theorem verixUnlock_other (laws : LockLaws env.os view) (hopen : OpenOn (view w.os) pFile f)
    (hlock : (view w.os).locks f ≠ some pFile.h) :
    view (verixUnlock env pFile w).2.os = view w.os := by
  obtain ⟨p, hp⟩ := hopen
  have hview := laws.unlock_other w.os pFile.h f p hp hlock
  simp only [verixUnlock]
  split_ifs <;> simp [hview]

/-- The probe releases the lock if the prober holds it. -/
theorem verixCheckReservedLock_own (laws : LockLaws env.os view)
    (hopen : OpenOn (view w.os) pFile f) (hlock : (view w.os).locks f = some pFile.h) :
    view (verixCheckReservedLock env pFile w).2.2.os = (view w.os).setLock f none := by
  obtain ⟨p, hp⟩ := hopen
  obtain ⟨hvalue, hview⟩ := laws.lock_free w.os pFile.h f p hp (Or.inr hlock)
  obtain ⟨-, hview'⟩ := laws.unlock_own (env.os.call (.lock pFile.h) w.os).os pFile.h f p
    (by rw [hview]; exact hp) (by rw [hview]; simp)
  simp only [verixCheckReservedLock, Env.sys_value, hvalue, if_true, Env.logPrintf_os, Env.sys_os,
    hview', hview]
  simp [Disk.setLock]

/-- The probe changes nothing if the prober does not hold the lock. -/
theorem verixCheckReservedLock_other (laws : LockLaws env.os view)
    (hopen : OpenOn (view w.os) pFile f) (hlock : (view w.os).locks f ≠ some pFile.h) :
    view (verixCheckReservedLock env pFile w).2.2.os = view w.os := by
  obtain ⟨p, hp⟩ := hopen
  cases hother : (view w.os).locks f with
  | none =>
      obtain ⟨hvalue, hview⟩ := laws.lock_free w.os pFile.h f p hp (Or.inl hother)
      obtain ⟨-, hview'⟩ := laws.unlock_own (env.os.call (.lock pFile.h) w.os).os pFile.h f p
        (by rw [hview]; exact hp) (by rw [hview]; simp)
      simp only [verixCheckReservedLock, Env.sys_value, hvalue, if_true, Env.logPrintf_os,
        Env.sys_os, hview', hview]
      have hsame : Function.update (view w.os).locks f none = (view w.os).locks := by
        rw [← hother, Function.update_eq_self]
      simp [Disk.setLock, hsame]
  | some other =>
      have hne : other ≠ pFile.h := fun heq => hlock (by rw [hother, heq])
      obtain ⟨hvalue, hview⟩ := laws.lock_held w.os pFile.h f p other hp hother hne
      simp [verixCheckReservedLock, hvalue, hview]

end Calls

/-! ## The machine -/

/-- The pagers on one database file and the world they share. -/
structure Connections (ι σ : Type) where
  pagers : ι → Pager
  world : World σ

/-- A locking step of the pager `i`. -/
inductive LockStep (ι : Type) where
  | lockDb (i : ι) (eLock : LockLevel)
  | unlockDb (i : ι) (eLock : LockLevel)
  | checkReservedLock (i : ι)

variable {ι : Type}

/-! ## Agreement and exclusion -/

/-- The pagers are open on file `f` with handles of their own, and a pager records a lock exactly
if its handle holds the lock of the file. -/
structure Agree (view : σ → Disk) (f : Nat) (s : Connections ι σ) : Prop where
  isOpen : ∀ i, IsOpen (s.pagers i).fd
  openOn : ∀ i, OpenOn (view s.world.os) (s.pagers i).fd f
  distinct : ∀ i j, (s.pagers i).fd.h = (s.pagers j).fd.h → i = j
  known : ∀ i, (s.pagers i).eLock ≠ .unknown
  unlocking : ∀ i, (s.pagers i).noLock = true → (s.pagers i).eLock = .noLock
  holds : ∀ i, LockLevel.shared ≤ (s.pagers i).eLock ↔
    (view s.world.os).locks f = some (s.pagers i).fd.h

/-- Pagers open on file `f` with handles of their own, none of which holds or records a lock. -/
structure Unlocked (view : σ → Disk) (f : Nat) (s : Connections ι σ) : Prop where
  isOpen : ∀ i, IsOpen (s.pagers i).fd
  openOn : ∀ i, OpenOn (view s.world.os) (s.pagers i).fd f
  distinct : ∀ i j, (s.pagers i).fd.h = (s.pagers j).fd.h → i = j
  noLock : ∀ i, (s.pagers i).eLock = .noLock
  free : ∀ i, (view s.world.os).locks f ≠ some (s.pagers i).fd.h

/-- A recorded lock is really held, an exclusive lock excludes every other lock, and at most one
pager has a reserved or higher lock. -/
structure MutualExclusion (view : σ → Disk) (f : Nat) (s : Connections ι σ) : Prop where
  held : ∀ i, LockLevel.shared ≤ (s.pagers i).eLock →
    (view s.world.os).locks f = some (s.pagers i).fd.h
  exclusive : ∀ i j, (s.pagers i).eLock = .exclusive → j ≠ i → (s.pagers j).eLock = .noLock
  reserved : ∀ i j, LockLevel.reserved ≤ (s.pagers i).eLock →
    LockLevel.reserved ≤ (s.pagers j).eLock → i = j

/-- A downgrade to `SHARED_LOCK` and a probe leave the file's lock as they found it. -/
def KeepsLock (view : σ → Disk) (f : Nat) (s s' : Connections ι σ) : LockStep ι → Prop
  | .unlockDb _ eLock =>
      eLock = .shared → (view s'.world.os).locks f = (view s.world.os).locks f
  | .checkReservedLock _ => (view s'.world.os).locks f = (view s.world.os).locks f
  | .lockDb _ _ => True

/-- The steps after which the records still agree with the system's lock: a pager that uses
locks takes one, a pager gives up its lock altogether, or a pager without a lock probes. -/
def LockStep.Harmless (s : Connections ι σ) : LockStep ι → Prop
  | .lockDb i _ => (s.pagers i).noLock = false
  | .unlockDb _ eLock => eLock = .noLock
  | .checkReservedLock i => (s.pagers i).eLock = .noLock

theorem Unlocked.agree {f : Nat} {s : Connections ι σ} (h : Unlocked view f s) :
    Agree view f s where
  isOpen := h.isOpen
  openOn := h.openOn
  distinct := h.distinct
  known i := by simp [h.noLock i]
  unlocking i _ := h.noLock i
  holds i := by
    have hfree := h.free i
    rw [LockLevel.shared_le_iff]
    exact ⟨fun hne => absurd (h.noLock i) hne, fun hlock => absurd hlock hfree⟩

/-- Agreeing records exclude each other, because the system's lock has one holder. -/
theorem Agree.mutualExclusion {f : Nat} {s : Connections ι σ} (h : Agree view f s) :
    MutualExclusion view f s := by
  have hsame : ∀ i j, LockLevel.shared ≤ (s.pagers i).eLock →
      LockLevel.shared ≤ (s.pagers j).eLock → i = j := by
    intro i j hi hj
    have hlock := ((h.holds i).mp hi).symm.trans ((h.holds j).mp hj)
    exact h.distinct i j (Option.some.inj hlock)
  refine ⟨fun i => (h.holds i).mp, ?_, ?_⟩
  · intro i j hi hne
    show (s.pagers j).eLock = .noLock
    by_contra hlock
    refine hne (hsame j i (LockLevel.shared_le_iff.mpr hlock) ?_)
    rw [hi, LockLevel.shared_le_iff]
    intro hnone
    cases hnone
  · intro i j hi hj
    exact hsame i j (LockLevel.shared_le_of_reserved_le hi) (LockLevel.shared_le_of_reserved_le hj)

/-- No other pager holds the lock that pager `i` holds. -/
theorem Agree.only_holder {f : Nat} {s : Connections ι σ} (h : Agree view f s) {i j : ι}
    (hne : j ≠ i) (hlock : (view s.world.os).locks f = some (s.pagers i).fd.h) :
    (view s.world.os).locks f ≠ some (s.pagers j).fd.h := fun hj =>
  hne (h.distinct j i (Option.some.inj (hj.symm.trans hlock)))

/-- A pager that records no lock holds none. -/
theorem Agree.not_holder {f : Nat} {s : Connections ι σ} (h : Agree view f s) {i : ι}
    (hnone : (s.pagers i).eLock = .noLock) :
    (view s.world.os).locks f ≠ some (s.pagers i).fd.h := by
  intro hlock
  exact LockLevel.shared_le_iff.mp ((h.holds i).mpr hlock) hnone

/-- A pager that records a lock uses locks. -/
theorem Agree.locking {f : Nat} {s : Connections ι σ} (h : Agree view f s) {i : ι}
    (hle : LockLevel.shared ≤ (s.pagers i).eLock) : (s.pagers i).noLock = false := by
  by_contra hnoLock
  have hnone := h.unlocking i (by simpa using hnoLock)
  exact LockLevel.shared_le_iff.mp hle hnone

/-! ## The steps -/

variable [DecidableEq ι]

namespace Connections

/-- Replace the pager `i` and the world. -/
def set (s : Connections ι σ) (i : ι) (pPager : Pager) (w : World σ) : Connections ι σ :=
  ⟨Function.update s.pagers i pPager, w⟩

@[simp] theorem set_world (s : Connections ι σ) (i : ι) (pPager : Pager) (w : World σ) :
    (s.set i pPager w).world = w := rfl

@[simp] theorem set_pagers_self (s : Connections ι σ) (i : ι) (pPager : Pager) (w : World σ) :
    (s.set i pPager w).pagers i = pPager := by
  simp [set]

@[simp] theorem set_pagers_of_ne (s : Connections ι σ) {i j : ι} (h : j ≠ i) (pPager : Pager)
    (w : World σ) : (s.set i pPager w).pagers j = s.pagers j := by
  simp [set, h]

/-- What holds of the pager that is put in place, and of the others, holds of all. -/
theorem forall_set (s : Connections ι σ) {P : ι → Pager → Prop} {i : ι} {pPager : Pager}
    {w : World σ} (hself : P i pPager) (hothers : ∀ j, j ≠ i → P j (s.pagers j)) (j : ι) :
    P j ((s.set i pPager w).pagers j) := by
  by_cases hj : j = i
  · subst hj
    rwa [s.set_pagers_self]
  · rw [s.set_pagers_of_ne hj]
    exact hothers j hj

end Connections

/-- The steps that the pager's code allows: the levels and orders that `pagerLockDb` and
`pagerUnlockDb` assert, and a probe only below `RESERVED_LOCK`, where `sqlite3PagerSharedLock` makes
it. -/
def LockStep.Allowed (s : Connections ι σ) : LockStep ι → Prop
  | .lockDb _ eLock => eLock = .shared ∨ eLock = .reserved ∨ eLock = .exclusive
  | .unlockDb i eLock =>
      (eLock = .noLock ∨ eLock = .shared) ∧ eLock ≤ (s.pagers i).eLock ∧
        ((s.pagers i).exclusiveMode = true → (s.pagers i).eLock = eLock) ∧
        (eLock = .noLock → ¬ PagerUseWal (s.pagers i))
  | .checkReservedLock i => (s.pagers i).eLock ≤ .shared

instance (s : Connections ι σ) : (c : LockStep ι) → Decidable (c.Allowed s)
  | .lockDb _ _ => inferInstanceAs (Decidable (_ ∨ _))
  | .unlockDb _ _ => inferInstanceAs (Decidable (_ ∧ _))
  | .checkReservedLock _ => inferInstanceAs (Decidable (_ ≤ _))

/-- Perform a step. -/
def LockStep.perform (env : Env σ) (s : Connections ι σ) : LockStep ι → Connections ι σ
  | .lockDb i eLock =>
      let locked := pagerLockDb env (s.pagers i) eLock s.world
      s.set i locked.2.1 locked.2.2
  | .unlockDb i eLock =>
      let unlocked := pagerUnlockDb env (s.pagers i) eLock s.world
      s.set i unlocked.2.1 unlocked.2.2
  | .checkReservedLock i =>
      s.set i (s.pagers i) (verixCheckReservedLock env (s.pagers i).fd s.world).2.2

/-- Perform a step that the pager allows. -/
def lockStep (env : Env σ) (s : Connections ι σ) (c : LockStep ι) : Option (Connections ι σ) :=
  if c.Allowed s then some (c.perform env s) else none

theorem lockStep_eq_some_iff {s s' : Connections ι σ} {c : LockStep ι} :
    lockStep env s c = some s' ↔ c.Allowed s ∧ s' = c.perform env s := by
  unfold lockStep
  split_ifs with h
  · simp [h, eq_comm]
  · simp [h]

/-! ## What a step does -/

/-- A pager that uses locks either gets the level it asks for, and the system's lock with it, or
nothing changes. -/
theorem pagerLockDb_spec (laws : LockLaws env.os view) {pPager : Pager} {f : Nat} {w : World σ}
    (hopen : OpenOn (view w.os) pPager.fd f) (hknown : pPager.eLock ≠ .unknown)
    (hlocking : pPager.noLock = false) (eLock : LockLevel) :
    ((pagerLockDb env pPager eLock w).2.1 = pPager ∧
        view (pagerLockDb env pPager eLock w).2.2.os = view w.os) ∨
      (((view w.os).locks f = none ∨ (view w.os).locks f = some pPager.fd.h) ∧
        (pagerLockDb env pPager eLock w).2.1 = { pPager with eLock := eLock } ∧
        view (pagerLockDb env pPager eLock w).2.2.os =
          (view w.os).setLock f (some pPager.fd.h)) := by
  by_cases hlt : pPager.eLock < eLock
  · by_cases hfree : (view w.os).locks f = none ∨ (view w.os).locks f = some pPager.fd.h
    · obtain ⟨hrc, hview⟩ := verixLock_free laws hopen hfree
      refine Or.inr ⟨hfree, ?_⟩
      simp [pagerLockDb, hlt, hlocking, hrc, hknown, hview]
    · obtain ⟨other, hother⟩ := Option.ne_none_iff_exists'.mp fun h => hfree (Or.inl h)
      have hne : other ≠ pPager.fd.h := fun heq => hfree (Or.inr (heq ▸ hother))
      obtain ⟨hrc, hview⟩ := verixLock_held laws hopen hother hne
      refine Or.inl ?_
      simp [pagerLockDb, hlt, hlocking, hrc, hview]
  · refine Or.inl ?_
    simp [pagerLockDb, hlt, hknown]

/-- A pager opened without locking records the level it asks for and leaves the system alone. -/
theorem pagerLockDb_noLock (env : Env σ) {pPager : Pager} {eLock : LockLevel} (w : World σ)
    (hlt : pPager.eLock < eLock) (hknown : pPager.eLock ≠ .unknown)
    (hnoLock : pPager.noLock = true) :
    pagerLockDb env pPager eLock w = (.ok, { pPager with eLock := eLock }, w) := by
  simp [pagerLockDb, hlt, hknown, hnoLock]

/-- Unlocking records the level asked for, and releases the system's lock if the pager uses locks
and holds it. -/
theorem pagerUnlockDb_spec (laws : LockLaws env.os view) {pPager : Pager} {f : Nat} {w : World σ}
    (hisOpen : IsOpen pPager.fd) (hopen : OpenOn (view w.os) pPager.fd f)
    (hknown : pPager.eLock ≠ .unknown) (eLock : LockLevel) :
    (pagerUnlockDb env pPager eLock w).2.1 = { pPager with eLock := eLock } ∧
      view (pagerUnlockDb env pPager eLock w).2.2.os =
        (if pPager.noLock = false ∧ (view w.os).locks f = some pPager.fd.h
          then (view w.os).setLock f none else view w.os) := by
  cases hnoLock : pPager.noLock with
  | true => simp [pagerUnlockDb, hisOpen, hknown, hnoLock]
  | false =>
      refine ⟨by simp [pagerUnlockDb, hisOpen, hknown, hnoLock], ?_⟩
      have hworld : (pagerUnlockDb env pPager eLock w).2.2 = (verixUnlock env pPager.fd w).2 := by
        simp [pagerUnlockDb, hisOpen, hknown, hnoLock]
      rw [hworld]
      by_cases hlock : (view w.os).locks f = some pPager.fd.h
      · simp [hlock, (verixUnlock_own laws hopen hlock).2]
      · simp [hlock, verixUnlock_other laws hopen hlock]

/-- A step of pager `i` keeps the agreement if it keeps the handles, makes the record of `i` agree
with the lock and changes the lock for no other pager. -/
theorem Agree.set {f : Nat} {s : Connections ι σ} (h : Agree view f s) {i : ι} {pPager : Pager}
    {w : World σ} (hfd : pPager.fd = (s.pagers i).fd)
    (hhandles : (view w.os).handles = (view s.world.os).handles)
    (hknown : pPager.eLock ≠ .unknown)
    (hunlocking : pPager.noLock = true → pPager.eLock = .noLock)
    (hself : LockLevel.shared ≤ pPager.eLock ↔
      (view w.os).locks f = some (s.pagers i).fd.h)
    (hothers : ∀ j, j ≠ i → ((view w.os).locks f = some (s.pagers j).fd.h ↔
      (view s.world.os).locks f = some (s.pagers j).fd.h)) :
    Agree view f (s.set i pPager w) := by
  have hfds : ∀ j, ((s.set i pPager w).pagers j).fd = (s.pagers j).fd :=
    s.forall_set (P := fun j p => p.fd = (s.pagers j).fd) hfd fun j _ => rfl
  constructor
  · intro j
    rw [hfds j]
    exact h.isOpen j
  · intro j
    rw [hfds j]
    obtain ⟨p, hp⟩ := h.openOn j
    exact ⟨p, by rw [Connections.set_world, hhandles, hp]⟩
  · intro j k
    rw [hfds j, hfds k]
    exact h.distinct j k
  · exact s.forall_set (P := fun _ p => p.eLock ≠ .unknown) hknown fun j _ => h.known j
  · exact s.forall_set (P := fun _ p => p.noLock = true → p.eLock = .noLock) hunlocking
      fun j _ => h.unlocking j
  · intro j
    rw [hfds j, Connections.set_world]
    exact s.forall_set
      (P := fun j p => LockLevel.shared ≤ p.eLock ↔
        (view w.os).locks f = some (s.pagers j).fd.h)
      hself (fun j hj => (h.holds j).trans (hothers j hj).symm) j

/-- Taking a lock keeps the agreement. -/
theorem Agree.lockDb (laws : LockLaws env.os view) {f : Nat} {s : Connections ι σ}
    (h : Agree view f s) {i : ι} {eLock : LockLevel}
    (hallowed : (LockStep.lockDb i eLock).Allowed s) (hlocking : (s.pagers i).noLock = false) :
    Agree view f ((LockStep.lockDb i eLock).perform env s) := by
  have hlevel : LockLevel.shared ≤ eLock ∧ eLock ≠ .unknown := by
    rcases hallowed with rfl | rfl | rfl <;> decide
  unfold LockStep.perform
  rcases pagerLockDb_spec laws (h.openOn i) (h.known i) hlocking eLock with
    ⟨hpager, hview⟩ | ⟨hfree, hpager, hview⟩
  · -- the lock is another pager's, or the level was reached before
    refine h.set ?_ ?_ ?_ ?_ ?_ ?_
    · rw [hpager]
    · rw [hview]
    · rw [hpager]
      exact h.known i
    · rw [hpager]
      exact h.unlocking i
    · rw [hpager, hview]
      exact h.holds i
    · intro j _
      rw [hview]
  · refine h.set ?_ ?_ ?_ ?_ ?_ ?_
    · rw [hpager]
    · rw [hview, Disk.setLock_handles]
    · rw [hpager]
      exact hlevel.2
    · rw [hpager]
      intro hnoLock
      cases hlocking.symm.trans hnoLock
    · rw [hpager, hview]
      simpa using hlevel.1
    · -- the lock was free or the pager's own, so no other pager held it
      intro j hj
      rw [hview, Disk.setLock_locks, Function.update_self]
      refine iff_of_false ?_ ?_
      · intro heq
        exact hj (h.distinct j i (Option.some.inj heq).symm)
      · rcases hfree with hnone | hown
        · simp [hnone]
        · exact h.only_holder hj hown

/-- Giving up the lock altogether keeps the agreement. -/
theorem Agree.unlockDb (laws : LockLaws env.os view) {f : Nat} {s : Connections ι σ}
    (h : Agree view f s) (i : ι) :
    Agree view f ((LockStep.unlockDb i .noLock).perform env s) := by
  obtain ⟨hpager, hview⟩ :=
    pagerUnlockDb_spec laws (h.isOpen i) (h.openOn i) (h.known i) .noLock
  have hnot : ¬ LockLevel.shared ≤ LockLevel.noLock := fun hle => LockLevel.shared_le_iff.mp hle rfl
  unfold LockStep.perform
  refine h.set ?_ ?_ ?_ ?_ ?_ ?_
  · rw [hpager]
  · rw [hview]
    split_ifs <;> rfl
  · rw [hpager]
    show LockLevel.noLock ≠ .unknown
    intro hunknown
    cases hunknown
  · rw [hpager]
    intro _
    rfl
  · rw [hpager, hview]
    refine iff_of_false hnot ?_
    -- a pager that holds the lock uses locks, so the system is asked to release it
    by_cases hlock : (view s.world.os).locks f = some (s.pagers i).fd.h
    · rw [if_pos ⟨h.locking ((h.holds i).mpr hlock), hlock⟩]
      simp
    · rwa [if_neg fun hboth => hlock hboth.2]
  · intro j hj
    rw [hview]
    split_ifs with hown
    · simpa using h.only_holder hj hown.2
    · exact Iff.rfl

/-- A probe by a pager without a lock changes nothing. -/
theorem Agree.probe_view (laws : LockLaws env.os view) {f : Nat} {s : Connections ι σ}
    (h : Agree view f s) {i : ι} (hnone : (s.pagers i).eLock = .noLock) :
    view ((LockStep.checkReservedLock i).perform env s).world.os = view s.world.os :=
  verixCheckReservedLock_other laws (h.openOn i) (h.not_holder hnone)

/-- A harmless step keeps the agreement. -/
theorem Agree.step (laws : LockLaws env.os view) {f : Nat} {s s' : Connections ι σ}
    {c : LockStep ι} (h : Agree view f s) (hgood : c.Harmless s)
    (hstep : lockStep env s c = some s') : Agree view f s' := by
  obtain ⟨hallowed, rfl⟩ := lockStep_eq_some_iff.mp hstep
  cases c with
  | lockDb i eLock => exact h.lockDb laws hallowed hgood
  | unlockDb i eLock =>
      cases hgood
      exact h.unlockDb laws i
  | checkReservedLock i =>
      have hview := h.probe_view laws hgood
      refine h.set rfl ?_ (h.known i) (h.unlocking i) ?_ ?_
      · exact congrArg Disk.handles hview
      · exact hview ▸ h.holds i
      · intro j _
        exact hview ▸ Iff.rfl

/-- A harmless step restores what a downgrade or a probe could have changed. -/
theorem Agree.keepsLock (laws : LockLaws env.os view) {f : Nat} {s s' : Connections ι σ}
    {c : LockStep ι} (h : Agree view f s) (hgood : c.Harmless s)
    (hstep : lockStep env s c = some s') : KeepsLock view f s s' c := by
  obtain ⟨-, rfl⟩ := lockStep_eq_some_iff.mp hstep
  cases c with
  | lockDb i eLock => trivial
  | unlockDb i eLock =>
      intro hshared
      cases hgood.symm.trans hshared
  | checkReservedLock i => exact congrArg (fun d => d.locks f) (h.probe_view laws hgood)

/-- A step that is not harmless leaves a pager that records a lock without the system's lock. -/
theorem Agree.harmless_of_held (laws : LockLaws env.os view) {f : Nat} {s s' : Connections ι σ}
    {c : LockStep ι} (h : Agree view f s) (hstep : lockStep env s c = some s')
    (hheld : ∀ i, LockLevel.shared ≤ (s'.pagers i).eLock →
      (view s'.world.os).locks f = some (s'.pagers i).fd.h) : c.Harmless s := by
  obtain ⟨hallowed, rfl⟩ := lockStep_eq_some_iff.mp hstep
  cases c with
  | lockDb i eLock =>
      by_contra hgood
      have hnoLock : (s.pagers i).noLock = true := by simpa [LockStep.Harmless] using hgood
      have hnone := h.unlocking i hnoLock
      have hlevel : LockLevel.noLock < eLock ∧ LockLevel.shared ≤ eLock := by
        rcases hallowed with rfl | rfl | rfl <;> decide
      -- the record is raised without a call to the system
      have hlocked := pagerLockDb_noLock env s.world (hnone ▸ hlevel.1) (h.known i) hnoLock
      have hlock := hheld i
      simp only [LockStep.perform, hlocked, Connections.set_pagers_self,
        Connections.set_world] at hlock
      exact h.not_holder hnone (hlock hlevel.2)
  | unlockDb i eLock =>
      by_contra hgood
      obtain ⟨hlevel, hle, -, -⟩ := hallowed
      have hshared : eLock = .shared := hlevel.resolve_left hgood
      subst hshared
      have hown := (h.holds i).mp hle
      obtain ⟨hpager, hview⟩ :=
        pagerUnlockDb_spec laws (h.isOpen i) (h.openOn i) (h.known i) .shared
      rw [if_pos ⟨h.locking hle, hown⟩] at hview
      -- the record says `SHARED_LOCK` and the system's lock is free
      have hlock := hheld i
      simp only [LockStep.perform, Connections.set_pagers_self, Connections.set_world, hpager,
        hview, Disk.setLock_locks, Function.update_self] at hlock
      cases hlock (le_refl 1)
  | checkReservedLock i =>
      by_contra hgood
      have hle : LockLevel.shared ≤ (s.pagers i).eLock := LockLevel.shared_le_iff.mpr hgood
      have hview := verixCheckReservedLock_own laws (h.openOn i) ((h.holds i).mp hle)
      have hlock := hheld i
      simp only [LockStep.perform, Connections.set_pagers_self, Connections.set_world, hview,
        Disk.setLock_locks, Function.update_self] at hlock
      cases hlock hle

/-- Start any number of pagers on one file without locks, and let them take any steps the pager
allows. The locks exclude each other in every state, and every downgrade and probe leaves the
system's lock as it was, exactly if every step is harmless. -/
theorem locking_exclusive_iff (laws : LockLaws env.os view) {f : Nat}
    {start final : Connections ι σ} {steps : List (LockStep ι)} (hstart : Unlocked view f start)
    (hrun : run (lockStep env) start steps = some final) :
    (Always (lockStep env) (MutualExclusion view f) start steps ∧
        EachStep (lockStep env)
          (fun s c => ∀ s', lockStep env s c = some s' → KeepsLock view f s s' c) start steps) ↔
      EachStep (lockStep env) (fun s c => c.Harmless s) start steps := by
  have hexcl : Always (lockStep env) (MutualExclusion view f) start steps ↔
      EachStep (lockStep env) (fun s c => c.Harmless s) start steps :=
    always_iff_eachStep_of_implies (fun _ h => h.mutualExclusion)
      (fun _ _ _ h hgood hstep => h.step laws hgood hstep)
      (fun _ _ _ h hstep hexcl => h.harmless_of_held laws hstep hexcl.held) hstart.agree hrun
  refine ⟨fun h => hexcl.mp h.1, fun h => ⟨hexcl.mpr h, ?_⟩⟩
  refine EachStep.of_invariant (fun _ _ _ hs hgood hstep => hs.step laws hgood hstep) ?_
    hstart.agree h
  intro s c hs hgood s' hstep
  exact hs.keepsLock laws hgood hstep

/-- Two pagers on a database file of one byte, on handles 0 and 1. -/
def twoConnections : Connections Bool Flash :=
  let files := Flash.ofFiles [(ascii "db", [1])] (by simp)
  let once := files.give files.toDisk 0 (by simp [files, Flash.ofFiles]) rfl
  let twice := once.give once.toDisk 0 (by simp [once, files, Flash.ofFiles, Flash.give]) rfl
  ⟨fun i => .opened (.on (if i then 1 else 0) (ascii "db")) (ascii "db"), .on twice⟩

theorem twoConnections_unlocked : Unlocked Flash.toDisk 0 twoConnections where
  isOpen i := by cases i <;> rfl
  openOn i := by cases i <;> exact ⟨0, rfl⟩
  distinct i j h := by cases i <;> cases j <;> first | rfl | cases h
  noLock i := rfl
  free i := by cases i <;> nofun

/-- One pager writes and unlocks, then the other reads: all steps are harmless. -/
theorem locking_exclusive_iff_taking_turns :
    (Always (lockStep quietFlash) (MutualExclusion Flash.toDisk 0) twoConnections
        [.lockDb false .shared, .lockDb false .exclusive, .unlockDb false .noLock,
          .lockDb true .shared] ∧
      EachStep (lockStep quietFlash)
        (fun s c => ∀ s', lockStep quietFlash s c = some s' → KeepsLock Flash.toDisk 0 s s' c)
        twoConnections [.lockDb false .shared, .lockDb false .exclusive, .unlockDb false .noLock,
          .lockDb true .shared]) ↔
      EachStep (lockStep quietFlash) (fun s c => c.Harmless s) twoConnections
        [.lockDb false .shared, .lockDb false .exclusive, .unlockDb false .noLock,
          .lockDb true .shared] :=
  locking_exclusive_iff flash_lockLaws twoConnections_unlocked rfl

/-- A writer that keeps a shared lock when it is done, and a reader that has probed for a reserved
lock, both find another pager with the exclusive lock beside them. -/
theorem shared_beside_exclusive :
    (∃ s, run (lockStep quietFlash) twoConnections
        [.lockDb false .shared, .lockDb false .reserved, .lockDb false .exclusive,
          .unlockDb false .shared, .lockDb true .shared, .lockDb true .reserved,
          .lockDb true .exclusive] = some s ∧
      (s.pagers false).eLock = .shared ∧ (s.pagers true).eLock = .exclusive) ∧
    (∃ s, run (lockStep quietFlash) twoConnections
        [.lockDb false .shared, .checkReservedLock false, .lockDb true .shared,
          .lockDb true .exclusive] = some s ∧
      (s.pagers false).eLock = .shared ∧ (s.pagers true).eLock = .exclusive) ∧
    ¬ ∀ steps final, run (lockStep quietFlash) twoConnections steps = some final →
      Always (lockStep quietFlash) (MutualExclusion Flash.toDisk 0) twoConnections steps := by
  refine ⟨⟨_, rfl, rfl, rfl⟩, ⟨_, rfl, rfl, rfl⟩, ?_⟩
  intro h
  have hlast := (h [.lockDb false .shared, .checkReservedLock false, .lockDb true .shared,
    .lockDb true .exclusive] _ rfl).last rfl
  cases hlast.exclusive true false rfl (by decide)

end VxSqlite
