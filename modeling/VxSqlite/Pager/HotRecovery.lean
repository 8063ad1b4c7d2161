import VxSqlite.Flash
import VxSqlite.Lib.Run
import VxSqlite.Pager.EndPlayback
import VxSqlite.Pager.Handles
import VxSqlite.Pager.SharedLock

/-!
# Recovery from a hot journal

`Recoverable` is what the disk must hold after a crash: the database is the original and there is
no journal, or the journal undoes what was done to the database. The branch of
`sqlite3PagerSharedLock` that rolls a hot journal back keeps this wherever an open, a write, a
truncation or a removal fails in it, as long as the system answers its reads and its questions, and
if it returns `SQLITE_OK` the database is the original. So it may be broken off and begun again by
another pager any number of times.

The result is about that branch. On this port `hasHotJournal` finds no journal hot, so that
`sqlite3PagerSharedLock` comes to the branch only with a pager that kept more than a shared lock;
one with at most a shared lock reads the database as the crash left it.
-/

namespace VxSqlite

variable {σ : Type} {env : Env σ} {view : σ → Disk} {o : Original}

/-! ## What the disk holds -/

/-- Playing the journal back turns the database into the original. -/
structure Undoes (o : Original) (journal content : List UInt8) (segments : List (List Nat))
    (last : Nat) : Prop where
  played : Segments o journal 0 segments last
  stops : StopsAt o journal none last
  noMaster : ¬ EndsLikeMaster journal
  db : RestoredBut o.pageSize o.content o.nPage (fun k => k ∈ segments.flatten) content
  whole : segments = [] → content = o.content

/-- The database is the original and there is no journal, or the journal undoes what was done to
the database. -/
inductive Recoverable (o : Original) (zFilename zJournal : CString) (f : Nat) (d : Disk) :
    Prop where
  | original : d.dir zFilename = some f → d.dir zJournal = none → d.data f = o.content →
      Recoverable o zFilename zJournal f d
  | hot (j : Nat) (segments : List (List Nat)) (last : Nat) : d.dir zFilename = some f →
      d.dir zJournal = some j → f ≠ j → Undoes o (d.data j) (d.data f) segments last →
      Recoverable o zFilename zJournal f d

section Recoverable

variable {zFilename zJournal : CString} {f : Nat} {d d' : Disk}

theorem Recoverable.named (h : Recoverable o zFilename zJournal f d) :
    d.dir zFilename = some f := by
  cases h with
  | original hname => exact hname
  | hot _ _ _ hname => exact hname

/-- It depends on two names and two files only. -/
theorem Recoverable.congr (h : Recoverable o zFilename zJournal f d)
    (hdb : d'.dir zFilename = d.dir zFilename) (hjrnl : d'.dir zJournal = d.dir zJournal)
    (hdata : d'.data f = d.data f)
    (hjournal : ∀ j, d.dir zJournal = some j → d'.data j = d.data j) :
    Recoverable o zFilename zJournal f d' := by
  cases h with
  | original hname hnone hcontent =>
      exact .original (hdb.trans hname) (hjrnl.trans hnone) (hdata.trans hcontent)
  | hot j segments last hname hj hne hundoes =>
      refine .hot j segments last (hdb.trans hname) (hjrnl.trans hj) hne ?_
      rw [hdata, hjournal j hj]
      exact hundoes

theorem Recoverable.undisturbed (h : Recoverable o zFilename zJournal f d)
    (hsame : Undisturbed d d') : Recoverable o zFilename zJournal f d' :=
  h.congr (by rw [hsame.dir]) (by rw [hsame.dir]) (by rw [hsame.data])
    fun _ _ => by rw [hsame.data]

/-- A database that is the original again needs no journal, and bears any that undoes it. -/
theorem Undoes.original {journal content : List UInt8} {segments : List (List Nat)} {last : Nat}
    (h : Undoes o journal content segments last) : Undoes o journal o.content segments last :=
  ⟨h.played, h.stops, h.noMaster, .start o.length_eq _, fun _ => rfl⟩

end Recoverable

/-- A pager that has opened the database, not yet the journal, and will remove the journal at the
end of a transaction. -/
structure FreshPager (view : σ → Disk) (o : Original) (zFilename zJournal : CString) (f : Nat)
    (pPager : Pager) (w : World σ) : Prop where
  openOn : OpenOn (view w.os) pPager.fd f
  filename : pPager.fd.filename = zFilename
  isOpen : IsOpen pPager.fd
  jfd : ¬ IsOpen pPager.jfd
  sjfd : ¬ IsOpen pPager.sjfd
  zJournal : pPager.zJournal = zJournal
  eState : pPager.eState = .open
  sectorSize : pPager.sectorSize = o.sectorSize
  canResize : CanResize pPager o.pageSize
  noWal : ¬ PagerUseWal pPager
  deletes : DeletesJournal pPager

/-- The system tells which names there are. -/
def ReportsFiles (os : Os σ) (view : σ → Disk) : Prop :=
  ∀ s name, (os.call (.dirGetAttributes name) s).value.isSome = true ↔ (view s).dir name ≠ none

/-! ## The steps -/

/-- Asking for the lock moves nothing but the lock, and if it is given the pager has it. -/
theorem pagerLockDb_undisturbed (laws : LockLaws env.os view) {pPager : Pager} {f : Nat}
    {w : World σ} (hopen : OpenOn (view w.os) pPager.fd f) (eLock : LockLevel) :
    Undisturbed (view w.os) (view (pagerLockDb env pPager eLock w).2.2.os) ∧
      (pagerLockDb env pPager eLock w).2.1 =
        { pPager with eLock := (pagerLockDb env pPager eLock w).2.1.eLock } ∧
      ((pagerLockDb env pPager eLock w).1 = .ok → eLock = .exclusive →
        eLock ≤ (pagerLockDb env pPager eLock w).2.1.eLock) := by
  have hlocked := (verixLock_undisturbed laws hopen).2
  unfold pagerLockDb
  by_cases hask : pPager.eLock < eLock ∨ pPager.eLock = .unknown
  · rw [if_pos hask]
    have hcall : Undisturbed (view w.os)
        (view (if pPager.noLock then (.ok, w) else verixLock env pPager.fd w).2.os) := by
      split_ifs
      · exact .refl _
      · exact hlocked
    dsimp only
    by_cases hgiven : (if pPager.noLock then (.ok, w) else verixLock env pPager.fd w).1 = .ok ∧
        (pPager.eLock ≠ .unknown ∨ eLock = .exclusive)
    · rw [if_pos hgiven]
      exact ⟨hcall, rfl, fun _ _ => le_refl eLock.rank⟩
    · rw [if_neg hgiven]
      exact ⟨hcall, rfl, fun hok hexclusive => absurd ⟨hok, Or.inr hexclusive⟩ hgiven⟩
  · rw [if_neg hask]
    refine ⟨.refl _, rfl, fun _ _ => ?_⟩
    exact LockLevel.not_lt.mp fun hlt => hask (Or.inl hlt)

/-- An open for writing is never reported to be read-only. -/
theorem sqlite3OsOpen_outFlags {zPath : CString} {pFile : VerixFile} {flags : Nat} {w : World σ}
    {opened : Opened σ} (h : sqlite3OsOpen env zPath pFile flags w = .ok opened)
    (hwrite : HasFlag (flags &&& 0x87f7f) openReadwrite) :
    ¬ HasFlag (opened.outFlags.getD 0) openReadonly := by
  obtain ⟨named, -, hfile⟩ := bind_eq_ok_iff.mp h
  simp only [verixOpenFile] at hfile
  split at hfile
  · cases hfile
    show ¬ HasFlag 0 openReadonly
    decide
  · split at hfile
    · cases hfile
    · cases hfile
      show ¬ HasFlag openReadwrite openReadonly
      decide

/-- Opening the journal for the rollback: it is not opened, with an error if it is there, or it
is open under its name. -/
theorem openHotJournal_cases (laws : Lawful env.os view) (hreports : ReportsFiles env.os view)
    {pPager : Pager} {w : World σ} (hclosed : ¬ IsOpen pPager.jfd)
    (hlen : pPager.zJournal.length < maxVerixFileName) (hplain : percent ∉ pPager.zJournal) :
    ∃ ret, openHotJournal env pPager w = .ok ret ∧
      Undisturbed (view w.os) (view ret.world.os) ∧
      ret.pPager = { pPager with jfd := ret.pPager.jfd } ∧
      (¬ IsOpen ret.pPager.jfd ∧ (ret.rc = .ok → (view w.os).dir pPager.zJournal = none) ∨
        ∃ j, (view w.os).dir pPager.zJournal = some j ∧ IsOpen ret.pPager.jfd ∧
          JournalOpen view ret.pPager j ret.world) := by
  let asked := (verixAccess env pPager.zJournal .exists w).2.2
  have hasked : view asked.os = view w.os :=
    laws.query (.dirGetAttributes pPager.zJournal) w.os trivial
  have hvalue : (verixAccess env pPager.zJournal .exists w).2.1 = true ↔
      (view w.os).dir pPager.zJournal ≠ none := hreports w.os pPager.zJournal
  unfold openHotJournal
  rw [if_pos hclosed]
  by_cases hthere : (verixAccess env pPager.zJournal .exists w).2.1 = true
  · have hcond : (verixAccess env pPager.zJournal .exists w).1 = .ok ∧
        (verixAccess env pPager.zJournal .exists w).2.1 = true := ⟨rfl, hthere⟩
    obtain ⟨opened, hopened, hcases⟩ := sqlite3OsOpen_cases laws.dir hlen hplain pPager.jfd
      (openReadwrite ||| openMainJournal) asked
    have hflags := sqlite3OsOpen_outFlags hopened (by decide)
    have hread : ¬ (opened.rc = .ok ∧ HasFlag (opened.outFlags.getD 0) openReadonly) :=
      fun h => hflags h.2
    refine ⟨⟨opened.rc, { pPager with jfd := opened.file }, opened.world⟩, ?_, ?_⟩
    · show (if _ then _ else _) = _
      rw [if_pos hcond, hopened]
      simp only [ok_bind, if_neg hread]
      rfl
    · rcases hcases with ⟨hrc, hfile, hview⟩ | ⟨hrc, has⟩
      · rw [hasked] at hview
        refine ⟨.of_eq hview, rfl, Or.inl ⟨?_, fun hok => ?_⟩⟩
        · show ¬ IsOpen opened.file
          rw [hfile]
          exact hclosed
        · cases hrc.symm.trans hok
      · obtain ⟨j, hj⟩ := Option.ne_none_iff_exists'.mp (hvalue.mp hthere)
        rw [hasked] at has
        have hdisk : ∃ hf, view opened.world.os = (view w.os).seek opened.file.h j 0 hf := by
          rcases has.disk with ⟨g, hf, hg, hdisk⟩ | ⟨hnone, -⟩
          · cases hj.symm.trans hg
            exact ⟨hf, hdisk⟩
          · cases hj.symm.trans hnone
        obtain ⟨hf, hdisk⟩ := hdisk
        obtain ⟨hfilename, -⟩ := has.object hlen
        refine ⟨⟨?_, ?_, fun pFile g hopen => (has.openOn_other hopen).2⟩, rfl,
          Or.inr ⟨j, hj, has.method, ⟨⟨0, ?_⟩, ?_⟩, hfilename⟩⟩
        · rw [hdisk, Disk.seek_dir]
        · rw [hdisk, Disk.seek_data]
        · show (view opened.world.os).handles opened.file.h = _
          rw [hdisk, Disk.seek_handles, Function.update_self]
        · show (view opened.world.os).dir opened.file.filename = _
          rw [hfilename, hdisk, Disk.seek_dir]
          exact hj
  · have hcond : ¬ ((verixAccess env pPager.zJournal .exists w).1 = .ok ∧
        (verixAccess env pPager.zJournal .exists w).2.1 = true) := fun h => hthere h.2
    refine ⟨_, if_neg hcond, .of_eq hasked, rfl, Or.inl ⟨hclosed, fun _ => ?_⟩⟩
    by_contra hsome
    exact hthere (hvalue.mpr hsome)

/-- A pager may roll the journal back now: the journal is open, and so are the locks. -/
theorem rollback_playback (laws : Lawful env.os view) (hfuel : o.pageSize ≤ env.writeFuel)
    {zFilename zJournal : CString} (hne : zFilename ≠ zJournal) {f j last : Nat}
    {segments : List (List Nat)} (pPager : Pager) {w : World σ}
    (hat : PlaybackAt view o f j ((view w.os).data j) pPager w)
    (hname : pPager.jfd.filename = pPager.zJournal) (hopen : IsOpen pPager.jfd)
    (hsub : ¬ IsOpen pPager.sjfd) (hlock : .exclusive ≤ pPager.eLock)
    (heState : pPager.eState = .open) (hresize : CanResize pPager o.pageSize)
    (hdeletes : DeletesJournal pPager) (hfilename : pPager.fd.filename = zFilename)
    (hzJournal : pPager.zJournal = zJournal) (hlast : (last : Int) ≤ pPager.journalHdr)
    (hundoes : Undoes o ((view w.os).data j) ((view w.os).data f) segments last) :
    ∃ ret, pagerPlayback env pPager true w = .ok ret ∧
      Recoverable o zFilename zJournal f (view ret.world.os) ∧
      (ret.rc = .ok → (view ret.world.os).data f = o.content ∧
        (view ret.world.os).dir zJournal = none) := by
  subst hfilename
  subst hzJournal
  have hactive : ¬ (pPager.eState.rank < PagerState.writerLocked.rank ∧
      pPager.eLock < .reserved) := by
    intro h
    exact LockLevel.not_le.mpr h.2 (le_trans (show (2 : Nat) ≤ 4 from by decide) hlock)
  have htail : JournalTail o ((view w.os).data j) true pPager.journalHdr last [] :=
    .stop hundoes.stops
  -- the cache is emptied before a hot journal is played back
  have hcache : CacheRestoredBut o (fun _ => True) pPager.pPCache :=
    fun _ _ _ hnot => absurd trivial hnot
  obtain ⟨ret, hret, hdone⟩ := pagerPlayback_restores laws hfuel hundoes.played htail hlast
    hundoes.noMaster hat hname hopen hsub hactive hresize hundoes.db (fun _ hk => hk)
    (Or.inl rfl) (Or.inl (Or.inr heState)) (fun hempty _ => hundoes.whole hempty) hcache
    (fun _ _ => trivial)
  refine ⟨ret, hret, ?_⟩
  cases hdone with
  | restored played w' hexit hreplays hat' hdata hcache hsize hends hended hremoved =>
      have hgone := (hremoved hdeletes).2
      have hdb : (view ret.world.os).data f = o.content :=
        (hends.data f hat'.apart).trans hdata
      have hdir : (view ret.world.os).dir pPager.fd.filename = some f := by
        rw [hends.dir_eq hne, ← hreplays.fd]
        exact hat'.db.named
      refine ⟨?_, fun hok => ⟨hdb, hgone.gone hok⟩⟩
      rcases hends.dir pPager.zJournal with hsame | ⟨-, hnone⟩
      · refine .hot j segments last hdir ?_ hat'.apart ?_
        · rw [hsame, ← hname, ← hreplays.jfd]
          exact hat'.jrnl.named
        · rw [hgone.data, hat'.journal_eq, hdb]
          exact hundoes.original
      · exact .original hdir hnone hdb
  | failed rc played hexit hrc hioerr hread _ hreplays hat' htorn hpager =>
      refine ⟨.hot j segments last ?_ ?_ hat'.apart ?_, fun hok => ?_⟩
      · rw [← hreplays.fd]
        exact hat'.db.named
      · rw [← hname, ← hreplays.jfd]
        exact hat'.jrnl.named
      · rw [hat'.journal_eq]
        refine ⟨hundoes.played, hundoes.stops, hundoes.noMaster, htorn.mono ?_, ?_⟩
        · exact fun k hk => hk.elim id id
        · intro hempty
          refine absurd ⟨hempty, ?_⟩ hread
          exact hundoes.stops
      · rw [← hrc, hok] at hioerr
        cases hioerr

/-- Noting an error in the pager changes neither the result nor the world. -/
theorem noteError_ok {run : Except Fault (PagerRet σ)} {P : ResultCode → World σ → Prop}
    (h : ∃ played, run = .ok played ∧ P played.rc played.world) :
    ∃ ret, (run >>= fun played =>
        if played.rc ≠ .ok then
          pure { played with pPager := pagerError played.pPager played.rc }
        else pure played) = .ok ret ∧ P ret.rc ret.world := by
  obtain ⟨played, rfl, hplayed⟩ := h
  by_cases hok : played.rc ≠ .ok
  · exact ⟨_, if_pos hok, hplayed⟩
  · exact ⟨_, if_neg hok, hplayed⟩

/-- Syncing the journal before the rollback only notes its size. -/
theorem pagerSyncHotJournal_ok (laws : FileLaws env.os view) {pPager : Pager} {j : Nat}
    {w : World σ} (hjrnl : NamedFile (view w.os) pPager.jfd j) :
    ∃ w', pagerSyncHotJournal env pPager w =
        ⟨.ok, { pPager with journalHdr := (((view w.os).data j).length : Int) }, w'⟩ ∧
      Undisturbed (view w.os) (view w'.os) := by
  obtain ⟨w₁, hsynced, hsame⟩ : ∃ w₁, (if ¬ pPager.noSync then verixSync pPager.jfd w
      else (.ok, w)) = (.ok, w₁) ∧ view w₁.os = view w.os := by
    split_ifs
    · exact ⟨_, rfl, rfl⟩
    · exact ⟨_, rfl, rfl⟩
  obtain ⟨w₂, hsize, hsame₂⟩ := verixFileSize_at laws (w := w₁) (by rw [hsame]; exact hjrnl)
    pPager.journalHdr
  rw [hsame] at hsize hsame₂
  refine ⟨w₂, ?_, hsame₂⟩
  simp only [pagerSyncHotJournal, hsynced, if_true, hsize]

/-- One attempt to recover keeps the disk recoverable, and restores the database if it
succeeds. -/
theorem rollbackHotJournal_step (laws : Lawful env.os view) (hreports : ReportsFiles env.os view)
    (hfuel : o.pageSize ≤ env.writeFuel) {zFilename zJournal : CString}
    (hne : zFilename ≠ zJournal) (hlen : zJournal.length < maxVerixFileName)
    (hplain : percent ∉ zJournal) {f : Nat} {pPager : Pager} {w : World σ}
    (hfresh : FreshPager view o zFilename zJournal f pPager w)
    (hrec : Recoverable o zFilename zJournal f (view w.os)) :
    ∃ ret, rollbackHotJournal env pPager w = .ok ret ∧
      Recoverable o zFilename zJournal f (view ret.world.os) ∧
      (ret.rc = .ok → (view ret.world.os).data f = o.content ∧
        (view ret.world.os).dir zJournal = none) := by
  unfold rollbackHotJournal
  by_cases hreadOnly : pPager.readOnly = true
  · exact ⟨_, if_pos hreadOnly, hrec, by simp⟩
  rw [if_neg hreadOnly]
  obtain ⟨hsame₁, hpager₁, hgiven⟩ := pagerLockDb_undisturbed laws.lock hfresh.openOn .exclusive
  by_cases hbusy : (pagerLockDb env pPager .exclusive w).1 ≠ .ok
  · exact ⟨_, if_pos hbusy, hrec.undisturbed hsame₁, fun hok => absurd hok hbusy⟩
  rw [if_neg hbusy]
  have hexclusive := hgiven (not_not.mp hbusy) rfl
  generalize pagerLockDb env pPager .exclusive w = locked at hsame₁ hpager₁ hbusy hexclusive ⊢
  obtain ⟨rc, locked, w₁⟩ := locked
  dsimp only at hsame₁ hpager₁ hexclusive ⊢
  have hjfd : ¬ IsOpen locked.jfd := by rw [hpager₁]; exact hfresh.jfd
  have hzJournal : locked.zJournal = zJournal := by rw [hpager₁]; exact hfresh.zJournal
  obtain ⟨opened, hopened, hsame₂, hpager₂, hcases⟩ := openHotJournal_cases laws hreports
    (w := w₁) hjfd (by rw [hzJournal]; exact hlen) (by rw [hzJournal]; exact hplain)
  have hsame := hsame₁.trans hsame₂
  rw [hopened, ok_bind]
  refine noteError_ok (P := fun rc w => Recoverable o zFilename zJournal f (view w.os) ∧
    (rc = .ok → (view w.os).data f = o.content ∧ (view w.os).dir zJournal = none)) ?_
  obtain ⟨rc', opened, w₂⟩ := opened
  obtain ⟨file, hrolled⟩ : ∃ file, opened = { pPager with eLock := locked.eLock, jfd := file } :=
    ⟨opened.jfd, hpager₂.trans (by rw [hpager₁])⟩
  subst hrolled
  dsimp only at hsame hcases ⊢
  have hopenOn : OpenOn (view w₂.os) pPager.fd f := hsame.openOn _ _ hfresh.openOn
  rcases hcases with ⟨hclosed, hnone⟩ | ⟨j, hj, hisOpen, hjrnl⟩
  · rw [if_neg hclosed]
    rw [hzJournal, hsame₁.dir] at hnone
    -- without a journal the database is the original
    have hleft : ∀ w' : World σ, Undisturbed (view w₂.os) (view w'.os) →
        Recoverable o zFilename zJournal f (view w'.os) ∧
          (rc' = .ok → (view w'.os).data f = o.content ∧ (view w'.os).dir zJournal = none) := by
      intro w' hsame'
      have hsame' := hsame.trans hsame'
      refine ⟨hrec.undisturbed hsame', fun hok => ?_⟩
      rw [hsame'.data, hsame'.dir]
      cases hrec with
      | original _ hdir hdata => exact ⟨hdata, hdir⟩
      | hot j _ _ _ hdir => cases (hnone hok).symm.trans hdir
    split_ifs
    · exact ⟨_, rfl, hleft _ (.refl _)⟩
    · refine ⟨_, rfl, hleft _ ?_⟩
      exact (pagerUnlockDb_undisturbed laws.lock (fun _ => by exact hopenOn) .shared).1
  · rw [if_pos hisOpen]
    rw [hzJournal, hsame₁.dir] at hj
    obtain ⟨segments, last, hnamed, hapart, hundoes⟩ : ∃ segments last,
        (view w.os).dir zFilename = some f ∧ f ≠ j ∧
          Undoes o ((view w.os).data j) ((view w.os).data f) segments last := by
      cases hrec with
      | original _ hnone => cases hj.symm.trans hnone
      | hot j' segments last hname hj' hapart hundoes =>
          cases hj.symm.trans hj'
          exact ⟨segments, last, hname, hapart, hundoes⟩
    obtain ⟨w₃, hhot, hsame₃⟩ := pagerSyncHotJournal_ok laws.file hjrnl.named
    have hsame₀₃ := hsame.trans hsame₃
    rw [hhot, if_pos rfl]
    have hlast : (last : Int) ≤ ((view w₂.os).data j).length := by
      rw [hsame.data]
      exact Int.ofNat_le.mpr (hundoes.played.last_le (Nat.zero_le _))
    obtain ⟨ret, hret, hrecovered⟩ := rollback_playback laws hfuel hne { pPager with
        eLock := locked.eLock, jfd := file, journalHdr := (((view w₂.os).data j).length : Int) }
      { db := ⟨hsame₃.openOn _ _ hopenOn, by rw [hsame₀₃.dir, hfresh.filename]; exact hnamed⟩
        jrnl := hsame₃.namedFile hjrnl.named
        apart := hapart
        isOpen := hfresh.isOpen
        journal_eq := rfl
        sectorSize := hfresh.sectorSize
        noWal := hfresh.noWal }
      hjrnl.filename hisOpen hfresh.sjfd hexclusive hfresh.eState hfresh.canResize hfresh.deletes
      hfresh.filename hfresh.zJournal hlast
      (by rw [hsame₀₃.data]; exact hundoes)
    refine ⟨{ ret.toPagerRet with pPager := { ret.pPager with eState := .open } }, ?_, hrecovered⟩
    rw [hret]
    rfl

/-! ## Runs -/

open Run

/-- What may happen to a disk after a crash: a pager tries to roll the journal back, or the system
goes on to another world, as it does when it is started again. -/
inductive RecoveryStep (σ : Type) where
  | attempt (pPager : Pager)
  | elsewhere (w : World σ)

/-- A step; the attempt leaves the world of the system in which it ended. -/
def recoveryStep (env : Env σ) (w : World σ) : RecoveryStep σ → Option (World σ)
  | .attempt pPager =>
      match rollbackHotJournal env pPager w with
      | .ok ret => some ret.world
      | .error _ => none
  | .elsewhere w' => some w'

/-- The pagers have just opened the database, and what happens elsewhere touches neither the
database nor its journal. -/
def RecoveryStep.Allowed (view : σ → Disk) (o : Original) (zFilename zJournal : CString) (f : Nat)
    (w : World σ) : RecoveryStep σ → Prop
  | .attempt pPager => FreshPager view o zFilename zJournal f pPager w
  | .elsewhere w' =>
      (view w'.os).dir zFilename = (view w.os).dir zFilename ∧
        (view w'.os).dir zJournal = (view w.os).dir zJournal ∧
        (view w'.os).data f = (view w.os).data f ∧
        ∀ j, (view w.os).dir zJournal = some j → (view w'.os).data j = (view w.os).data j

/-- An attempt returns, and if it returns `SQLITE_OK` the database is the original and the journal
is gone. -/
def RecoveryStep.Restores (env : Env σ) (view : σ → Disk) (o : Original) (zJournal : CString)
    (f : Nat) (w : World σ) (step : RecoveryStep σ) : Prop :=
  ∀ pPager, step = .attempt pPager → ∃ ret, rollbackHotJournal env pPager w = .ok ret ∧
    (ret.rc = .ok → (view ret.world.os).data f = o.content ∧
      (view ret.world.os).dir zJournal = none)

/-- Recovery can be broken off by any failure that the laws allow and begun again any number of
times: in all states of the run the disk is recoverable, and every attempt that succeeds has
restored the database. -/
theorem hot_recovery_restores (laws : Lawful env.os view) (hreports : ReportsFiles env.os view)
    (hfuel : o.pageSize ≤ env.writeFuel) {zFilename zJournal : CString}
    (hne : zFilename ≠ zJournal) (hlen : zJournal.length < maxVerixFileName)
    (hplain : percent ∉ zJournal) {f : Nat} {w : World σ}
    (hrec : Recoverable o zFilename zJournal f (view w.os)) {steps : List (RecoveryStep σ)}
    (hallowed : EachStep (recoveryStep env)
      (RecoveryStep.Allowed view o zFilename zJournal f) w steps) :
    Always (recoveryStep env) (fun w => Recoverable o zFilename zJournal f (view w.os)) w steps ∧
      EachStep (recoveryStep env) (RecoveryStep.Restores env view o zJournal f) w steps := by
  have hstep : ∀ w step w', Recoverable o zFilename zJournal f (view w.os) →
      RecoveryStep.Allowed view o zFilename zJournal f w step →
      recoveryStep env w step = some w' → Recoverable o zFilename zJournal f (view w'.os) := by
    intro w step w' hrec hallowed hnext
    cases step with
    | attempt pPager =>
        obtain ⟨ret, hret, hrec', -⟩ :=
          rollbackHotJournal_step laws hreports hfuel hne hlen hplain hallowed hrec
        simp only [recoveryStep, hret, Option.some.injEq] at hnext
        rw [← hnext]
        exact hrec'
    | elsewhere other =>
        obtain ⟨hdb, hjrnl, hdata, hjournal⟩ := hallowed
        cases hnext
        exact hrec.congr hdb hjrnl hdata hjournal
  refine ⟨always_of_eachStep hstep hrec hallowed,
    EachStep.of_invariant hstep ?_ hrec hallowed⟩
  intro w step hrec hallowed pPager hattempt
  subst hattempt
  obtain ⟨ret, hret, -, hrestored⟩ :=
    rollbackHotJournal_step laws hreports hfuel hne hlen hplain hallowed hrec
  exact ⟨ret, hret, hrestored⟩

/-- A database of one page of zeros. -/
def Original.onePage : Original where
  pageSize := 512
  sectorSize := 4096
  nPage := 1
  content := List.replicate 512 0
  length_eq := List.length_replicate
  length_lt := lt_of_eq_of_lt List.length_replicate (by decide)
  pageSize_le := by decide
  sectorSize_le := by decide
  sizes_valid := by decide

/-- The header's sector of the journal of a transaction that has changed that page. -/
def Original.onePageHeader : List UInt8 :=
  countedStart 1 ++ Original.onePage.hdrFields 0 ++ List.replicate 4068 0

/-- The journal of a transaction that has changed that page. -/
def Original.onePageJournal : List UInt8 := onePageHeader ++ Original.onePage.record 0 1

theorem length_onePageHeader : Original.onePageHeader.length = 4096 := by
  rw [Original.onePageHeader, List.length_append, List.length_append, List.length_replicate,
    length_countedStart, Original.length_hdrFields]

theorem length_onePageRecord : (Original.onePage.record 0 1).length = 520 :=
  Original.length_record _ _ (by decide)

theorem length_onePageJournal : Original.onePageJournal.length = 4616 := by
  rw [Original.onePageJournal, List.length_append, length_onePageHeader, length_onePageRecord]

/-- The journal undoes what was done to the page. -/
theorem onePageJournal_undoes :
    Undoes .onePage Original.onePageJournal (List.replicate 512 1) [[1]] 4616 where
  played := by
    have hheader : HeaderAt .onePage Original.onePageJournal 0 (countedStart 1) 0 := by
      refine ⟨rfl, ?_, ?_⟩
      · have hleft : (countedStart 1 ++ Original.onePage.hdrFields 0).length = 28 := rfl
        rw [Original.onePageJournal, Original.onePageHeader, List.append_assoc]
        exact (window_append_left _ (le_of_eq hleft.symm)).trans (window_self _)
      · rw [length_onePageJournal]
        decide
    have hrecord : window Original.onePageJournal 4096 520 = Original.onePage.record 0 1 := by
      have hright := window_append_right Original.onePageHeader (Original.onePage.record 0 1) 0 520
      rw [length_onePageHeader] at hright
      exact hright.trans (List.take_of_length_le (le_of_eq length_onePageRecord))
    have hrecords : Records .onePage 0 Original.onePageJournal 4096 [1] 4616 :=
      .cons (by decide) hrecord (.nil _)
    exact .cons hheader hrecords (le_of_eq length_onePageJournal.symm) (.nil _)
  stops := by
    intro hle
    rw [length_onePageJournal] at hle
    exact absurd hle (by decide)
  noMaster := by
    intro hmaster
    have hmagic := hmaster.2.2.2
    have hright := window_append_right Original.onePageHeader (Original.onePage.record 0 1) 512 8
    rw [length_onePageHeader] at hright
    rw [length_onePageJournal] at hmagic
    exact absurd (hright.symm.trans hmagic) (by decide +kernel)
  db := by
    refine ⟨le_of_eq List.length_replicate.symm, ?_⟩
    intro k hk hle hnot
    have hone : k = 1 := le_antisymm hle hk
    exact absurd (by simp [hone]) hnot
  whole := fun h => by cases h

/-- The page has been overwritten with ones when the writer crashed; a pager has opened the
database again, on handle 0. -/
def World.overwritten : World Flash :=
  let files := Flash.ofFiles [(ascii "db", List.replicate 512 1),
    (ascii "db-journal", Original.onePageJournal)] (by
      simp only [List.mem_cons, List.not_mem_nil, or_false, forall_eq_or_imp, forall_eq,
        List.length_replicate, length_onePageJournal]
      decide)
  .on (files.give files.toDisk 0 Nat.zero_lt_two rfl)

/-- The system of that world; a write takes up to a page at once. -/
def pageFlash : Env Flash := ⟨flash, .quiet, none, 512⟩

theorem flash_reportsFiles : ReportsFiles flash Flash.toDisk := by
  intro s name
  show ((s.dir name).map fun _ => false).isSome = true ↔ s.dir name ≠ none
  rw [Option.isSome_map, Option.isSome_iff_ne_none]

/-- A pager that takes the branch rolls the journal back. -/
theorem hot_recovery_restores_overwritten :
    Always (recoveryStep pageFlash)
        (fun w => Recoverable .onePage (ascii "db") (ascii "db-journal") 0 (Flash.toDisk w.os))
        .overwritten [.attempt (.opened (.on 0 (ascii "db")) (ascii "db"))] ∧
      EachStep (recoveryStep pageFlash)
        (RecoveryStep.Restores pageFlash Flash.toDisk .onePage (ascii "db-journal") 0)
        .overwritten [.attempt (.opened (.on 0 (ascii "db")) (ascii "db"))] :=
  hot_recovery_restores flash_lawful flash_reportsFiles (le_refl 512) (by decide) (by decide)
    (by decide) (.hot 1 [[1]] 4616 rfl rfl (by decide) onePageJournal_undoes)
    ⟨{ openOn := ⟨0, rfl⟩
       filename := rfl
       isOpen := rfl
       jfd := by decide
       sjfd := by decide
       zJournal := rfl
       eState := rfl
       sectorSize := rfl
       canResize := Or.inr ⟨rfl, rfl⟩
       noWal := by decide
       deletes := ⟨rfl, rfl, rfl⟩ }, fun _ _ => trivial⟩

end VxSqlite
