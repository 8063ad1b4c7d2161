import VxSqlite.Pager.EndTransaction
import VxSqlite.Pager.Restore

/-!
# Playing a journal back, from its opening to its end

What the loops of `pager_playback` do to the database and what the end of the transaction does to
the journal make up the result about the whole function: if it succeeds, the database is the
original again, and if it fails, only pages that the journal holds need not be the original's.
-/

namespace VxSqlite

variable {σ : Type} {env : Env σ} {view : σ → Disk} {o : Original} {journal : List UInt8}

/-! ## The name of a master journal -/

/-- The last sixteen bytes of the journal could be the end of a master journal's name. -/
def EndsLikeMaster (journal : List UInt8) : Prop :=
  16 ≤ journal.length ∧ word journal (journal.length - 16) ≠ 0 ∧
    (word journal (journal.length - 16)).toNat ≤ mxPathname ∧
    window journal (journal.length - 8) 8 = aJournalMagic

/-- In a journal that does not end so, no name is found. -/
theorem readMasterJournal_none (laws : FileLaws env.os view) {pJrnl : VerixFile} {j : Nat}
    {w : World σ} (hjrnl : NamedFile (view w.os) pJrnl j) (hj : (view w.os).data j = journal)
    (hnone : ¬ EndsLikeMaster journal) :
    ∃ w', readMasterJournal env pJrnl (mxPathname + 1) w = (.ok, [], w') ∧
      Undisturbed (view w.os) (view w'.os) := by
  obtain ⟨w₀, hsize, hsame₀⟩ := verixFileSize_at laws hjrnl 0
  rw [hj] at hsize
  by_cases hshort : journal.length < 16
  · have hcond : (.ok : ResultCode) ≠ .ok ∨ (journal.length : Int) < 16 := Or.inr (by omega)
    refine ⟨w₀, ?_, hsame₀⟩
    simp only [readMasterJournal, hsize, if_pos hcond]
  · have hcond : ¬ ((journal.length : Int) < 16) := by omega
    obtain ⟨w₁, hread₁, hsame₁⟩ := read32bits_within laws (hsame₀.openOn _ _ hjrnl.openOn)
      (show (journal.length : Int) - 16 = ((journal.length - 16 : Nat) : Int) from by omega)
      (by rw [hsame₀.data, hj]; omega)
    have hsame₀₁ := hsame₀.trans hsame₁
    rw [hsame₀.data, hj] at hread₁
    by_cases hlen : (word journal (journal.length - 16)).toNat ≥ mxPathname + 1 ∨
        (word journal (journal.length - 16)).toNat = 0
    · refine ⟨w₁, ?_, hsame₀₁⟩
      simp only [readMasterJournal, hsize, ne_eq, not_true_eq_false, false_or, if_neg hcond, hread₁,
        if_pos hlen]
    · obtain ⟨w₂, hread₂, hsame₂⟩ := read32bits_within laws (hsame₀₁.openOn _ _ hjrnl.openOn)
        (show (journal.length : Int) - 12 = ((journal.length - 12 : Nat) : Int) from by omega)
        (by rw [hsame₀₁.data, hj]; omega)
      have hsame₀₂ := hsame₀₁.trans hsame₂
      obtain ⟨w₃, hread₃, hsame₃⟩ := sqlite3OsRead_within laws
        (hsame₀₂.openOn _ _ hjrnl.openOn) (Nat.succ_pos 7)
        (show (journal.length : Int) - 8 = ((journal.length - 8 : Nat) : Int) from by omega)
        (by rw [hsame₀₂.data, hj]; omega)
      rw [hsame₀₂.data, hj] at hread₃
      have hmagic : window journal (journal.length - 8) 8 ≠ aJournalMagic := by
        intro heq
        refine hnone ⟨by omega, fun hzero => hlen (Or.inr ?_), by omega, heq⟩
        rw [hzero]
        rfl
      refine ⟨w₃, ?_, hsame₀₂.trans hsame₃⟩
      simp only [readMasterJournal, hsize, ne_eq, not_true_eq_false, false_or, if_neg hcond, hread₁,
        if_neg hlen, hread₂, if_false, hread₃, hmagic, not_false_eq_true, if_true]

/-- With no master journal, the playback goes on. -/
theorem playbackMaster_none (laws : FileLaws env.os view) {pPager : Pager} {j : Nat}
    {w : World σ} (hjrnl : NamedFile (view w.os) pPager.jfd j)
    (hj : (view w.os).data j = journal) (hnone : ¬ EndsLikeMaster journal) :
    ∃ w', playbackMaster env pPager w = (.ok, true, w') ∧
      Undisturbed (view w.os) (view w'.os) := by
  obtain ⟨w', hmaster, hsame⟩ := readMasterJournal_none laws hjrnl hj hnone
  refine ⟨w', ?_, hsame⟩
  simp only [playbackMaster, hmaster, ne_eq, not_true_eq_false, and_false, if_false]

/-! ## The end of the playback -/

theorem sqlite3PagerSync_undisturbed (env : Env σ) (view : σ → Disk) (pPager : Pager)
    (w : World σ) :
    (sqlite3PagerSync env pPager w).1 = .ok ∧
      view (sqlite3PagerSync env pPager w).2.os = view w.os := by
  simp only [sqlite3PagerSync, fileControlIfKnown, verixFileControl, verixSync]
  split_ifs <;> simp_all

theorem setSectorSize_undisturbed (env : Env σ) (view : σ → Disk) (pPager : Pager) (w : World σ) :
    view (setSectorSize env pPager w).2.os = view w.os := by
  have hcap : Int.toNat 0 &&& iocapPowersafeOverwrite = 0 := by decide
  simp only [setSectorSize, verixDeviceCharacteristics, sqlite3SectorSize, verixSectorSize, hcap]
  split_ifs <;> rfl

theorem setSectorSize_pager (env : Env σ) (pPager : Pager) (w : World σ) :
    (setSectorSize env pPager w).1 =
      { pPager with sectorSize := (setSectorSize env pPager w).1.sectorSize } := by
  simp only [setSectorSize]
  split_ifs <;> rfl

/-- The port claims the same sector size for all files. -/
theorem setSectorSize_sectorSize (env : Env σ) {pPager : Pager} (htemp : pPager.tempFile = false)
    (w : World σ) : (setSectorSize env pPager w).1.sectorSize = 4096 := by
  have hmax : ¬ (4096 : Int) > maxSectorSize.toNat := by decide
  simp [setSectorSize, htemp, verixDeviceCharacteristics, sqlite3SectorSize, verixSectorSize, hmax]

/-- The second pager is the first after its playback has come to an end. -/
structure PlaybackEnded (pPager pPager' : Pager) : Prop where
  ended : Ended { pPager with sectorSize := pPager'.sectorSize } pPager'
  sectorSize : pPager.tempFile = false → pPager'.sectorSize = 4096

/-- The end of a playback that went well touches no file but the journal. -/
theorem endPlayback_ok (laws : Lawful env.os view) {pPager : Pager} {f j : Nat} {w : World σ}
    (hdb : OpenOn (view w.os) pPager.fd f) (hjrnl : JournalOpen view pPager j w)
    (hj : (view w.os).data j = journal) (hne : f ≠ j) (hnone : ¬ EndsLikeMaster journal)
    (hfuel : 28 ≤ env.writeFuel) (hsub : ¬ IsOpen pPager.sjfd)
    (hactive : ¬ (pPager.eState.rank < PagerState.writerLocked.rank ∧ pPager.eLock < .reserved))
    (res : Bool) :
    ∃ ret, endPlayback env pPager .ok res w = .ok ret ∧
      EndsJournal pPager.zJournal j (view w.os) (view ret.world.os) ∧
      PlaybackEnded pPager ret.pPager ∧
      (DeletesJournal pPager → Closed ret.rc ret.pPager.jfd ∧ (IsOpen pPager.jfd →
        Removed pPager.zJournal j ret.rc (view w.os) (view ret.world.os))) := by
  obtain ⟨w₁, hmaster, hsame₁⟩ := readMasterJournal_none laws.file hjrnl.named hj hnone
  let counted : Pager := { pPager with changeCountDone := pPager.tempFile }
  have hsynced : ∃ w₂, (if PagerState.writerDbmod.rank ≤ pPager.eState.rank ∨
      pPager.eState = .open then sqlite3PagerSync env { pPager with
        changeCountDone := pPager.tempFile } w₁ else (.ok, w₁)) = (.ok, w₂) ∧
      view w₂.os = view w₁.os := by
    obtain ⟨hrc, hview⟩ := sqlite3PagerSync_undisturbed env view counted w₁
    split_ifs
    · exact ⟨_, Prod.ext hrc rfl, hview⟩
    · exact ⟨_, rfl, rfl⟩
  obtain ⟨w₂, hsync, hview₂⟩ := hsynced
  have hsame₂ : Undisturbed (view w.os) (view w₂.os) := hsame₁.trans (.of_eq hview₂)
  have hjrnl₂ : JournalOpen view counted j w₂ := ⟨hsame₂.namedFile hjrnl.named, hjrnl.filename⟩
  have hdb₂ : OpenOn (view w₂.os) counted.fd f := hsame₂.openOn _ _ hdb
  obtain ⟨ended, hend, hends, hended, hremoved⟩ := pagerEndTransaction_journal laws hdb₂
    (fun _ => hjrnl₂) hne hfuel hsub hactive false false (by simp)
  have heq : endPlayback env pPager .ok res w = .ok ⟨ended.rc,
      (setSectorSize env ended.pPager ended.world).1,
      (setSectorSize env ended.pPager ended.world).2⟩ := by
    simp only [endPlayback, if_true, hmaster, ne_eq, not_true_eq_false, decide_false, true_and]
    rw [hsync]
    have hend' : pagerEndTransaction env { pPager with changeCountDone := pPager.tempFile } false
        false w₂ = .ok ended := hend
    simp only [if_true, hend', ok_bind, false_and, and_false, if_false]
    rfl
  have hlast := setSectorSize_undisturbed env view ended.pPager ended.world
  refine ⟨_, heq, ?_, ?_, ?_⟩
  · show EndsJournal pPager.zJournal j _ (view (setSectorSize env ended.pPager ended.world).2.os)
    rw [hlast]
    exact (EndsJournal.of_undisturbed hsame₂).trans hends
  · refine ⟨?_, fun htemp => ?_⟩
    · unfold Ended
      show (setSectorSize env ended.pPager ended.world).1 = _
      rw [setSectorSize_pager, hended]
    · refine setSectorSize_sectorSize env ?_ ended.world
      rw [hended]
      exact htemp
  · intro hdelete
    obtain ⟨hclosed, hgone⟩ := hremoved hdelete
    refine ⟨⟨hclosed.rc_eq, ?_⟩, fun hopen => ?_⟩
    · show ¬ IsOpen (setSectorSize env ended.pPager ended.world).1.jfd
      rw [setSectorSize_pager]
      exact hclosed.closed
    have hgone := hgone hopen
    refine ⟨?_, ?_⟩
    · show (view (setSectorSize env ended.pPager ended.world).2.os).data j = _
      rw [hlast, hgone.data, hsame₂.data]
    · intro hok
      show (view (setSectorSize env ended.pPager ended.world).2.os).dir _ = none
      rw [hlast]
      exact hgone.gone hok

/-- The end of a playback that failed leaves the files as they are, and the pager in its
transaction. -/
theorem endPlayback_failed (env : Env σ) (view : σ → Disk) (pPager : Pager) (w : World σ)
    {rc : ResultCode} (hrc : rc ≠ .ok) (res : Bool) :
    ∃ ret, endPlayback env pPager rc res w = .ok ret ∧ ret.rc = rc ∧
      view ret.world.os = view w.os ∧
      ret.pPager = { pPager with
        changeCountDone := pPager.tempFile, sectorSize := ret.pPager.sectorSize } := by
  let counted : Pager := { pPager with changeCountDone := pPager.tempFile }
  have heq : endPlayback env pPager rc res w = .ok ⟨rc, (setSectorSize env counted w).1,
      (setSectorSize env counted w).2⟩ := by
    simp only [endPlayback, hrc, false_and, if_false, ok_bind]
    rfl
  exact ⟨_, heq, rfl, setSectorSize_undisturbed env view counted w,
    setSectorSize_pager env counted w⟩

/-! ## The whole playback -/

/-- Every segment takes up some bytes of the journal. -/
theorem Segments.length_le {off last : Nat} {segments : List (List Nat)}
    (h : Segments o journal off segments last) : off + segments.length ≤ last := by
  induction h with
  | nil off => exact le_refl off
  | @cons off _ _ _ _ _ _ hrecords _ _ ih =>
      have hstart := o.le_hdrOffset off
      have hbehind := hrecords.off_le
      have hsector := o.le_sectorSize
      rw [List.length_cons]
      omega

/-- What the playback of a journal comes to: the database is the original when the transaction
ends, or a write has failed, the journal still is what it was, and only pages that it holds need
not be the original's. -/
inductive PlaybackDone (view : σ → Disk) (o : Original) (f j : Nat) (journal : List UInt8)
    (todo cacheTodo : Nat → Prop) (counted ks : List Nat) (unread : Prop) (pPager : Pager)
    (ret : PlaybackRet σ) : Prop where
  | restored (played : Pager) (w : World σ) : ret.exit = .endOfJournal →
      Replays o.pageSize pPager played → PlaybackAt view o f j journal played w →
      (view w.os).data f = o.content →
      CacheRestoredBut o (fun k => cacheTodo k ∧ k ∉ ks) played.pPCache →
      played.dbSize = o.nPage ∨ unread →
      EndsJournal pPager.zJournal j (view w.os) (view ret.world.os) →
      PlaybackEnded played ret.pPager →
      (DeletesJournal pPager → Closed ret.rc ret.pPager.jfd ∧
        Removed pPager.zJournal j ret.rc (view w.os) (view ret.world.os)) →
      PlaybackDone view o f j journal todo cacheTodo counted ks unread pPager ret
  | failed (rc : ResultCode) (played : Pager) : ret.exit = .failed rc → ret.rc = rc → rc.IsIoerr →
      ¬ unread → PlaybackWrites played → Replays o.pageSize pPager played →
      PlaybackAt view o f j journal played ret.world →
      RestoredBut o.pageSize o.content o.nPage (fun k => todo k ∨ k ∈ counted)
        ((view ret.world.os).data f) →
      ret.pPager = { played with
        changeCountDone := played.tempFile, sectorSize := ret.pPager.sectorSize } →
      PlaybackDone view o f j journal todo cacheTodo counted ks unread pPager ret

/-- Playing a journal back restores the database, or fails at a write. -/
theorem pagerPlayback_restores (laws : Lawful env.os view) {f j last : Nat}
    {segments : List (List Nat)} {ks : List Nat} {pPager : Pager} {w : World σ}
    {todo cacheTodo : Nat → Prop} {isHot : Bool} (hfuel : o.pageSize ≤ env.writeFuel)
    (hsegments : Segments o journal 0 segments last)
    (htail : JournalTail o journal isHot pPager.journalHdr last ks)
    (hlast : (last : Int) ≤ pPager.journalHdr) (hnone : ¬ EndsLikeMaster journal)
    (hat : PlaybackAt view o f j journal pPager w) (hname : pPager.jfd.filename = pPager.zJournal)
    (hopen : IsOpen pPager.jfd) (hsub : ¬ IsOpen pPager.sjfd)
    (hactive : ¬ (pPager.eState.rank < PagerState.writerLocked.rank ∧ pPager.eLock < .reserved))
    (hresize : CanResize pPager o.pageSize)
    (hdb : RestoredBut o.pageSize o.content o.nPage todo ((view w.os).data f))
    (htodo : ∀ k, todo k → k ∈ segments.flatten)
    (hnoSync : isHot = true ∨ pPager.noSync = false)
    (hwrites : PlaybackWrites pPager ∨ (∀ k, ¬ todo k) ∧
      ((view w.os).data f).length = o.content.length)
    (hwhole : segments = [] →
      StopsAt o journal (if isHot then none else some pPager.journalHdr) last →
      (view w.os).data f = o.content)
    (hcache : CacheRestoredBut o cacheTodo pPager.pPCache)
    (hreset : isHot = true ∨ pPager.pageSize ≠ o.pageSize → ∀ k, cacheTodo k) :
    ∃ ret, pagerPlayback env pPager isHot w = .ok ret ∧
      PlaybackDone view o f j journal todo cacheTodo segments.flatten (segments.flatten ++ ks)
        (segments = [] ∧
          StopsAt o journal (if isHot then none else some pPager.journalHdr) last) pPager ret := by
  have hlt : journal.length < 2 ^ 31 := by
    rw [← hat.journal_eq]
    exact (view w.os).size_lt j
  have hturns := hsegments.length_le.trans (hsegments.last_le (Nat.zero_le _))
  obtain ⟨w₁, hsize, hsame₁⟩ := verixFileSize_at laws.file hat.jrnl 0
  rw [hat.journal_eq] at hsize
  obtain ⟨w₂, hmaster, hsame₂⟩ := playbackMaster_none laws.file (hsame₁.namedFile hat.jrnl)
    (by rw [hsame₁.data]; exact hat.journal_eq) hnone
  have hsame := hsame₁.trans hsame₂
  let start : Pager := { pPager with journalOff := 0 }
  have hstart : Replays o.pageSize pPager start := ⟨rfl, id, .refl _⟩
  have hstartTail : JournalTail o journal isHot start.journalHdr last ks := htail
  have hbetween : PlaybackBetween view o f j journal todo cacheTodo 0 isHot start w₂ :=
    { playbackAt := (hat.undisturbed hsame).replays hstart
      journalOff := rfl
      canResize := hresize
      later := fun hzero => absurd rfl hzero
      db := by rw [hsame.data]; exact hdb
      writes := by rw [hsame.data]; exact hwrites.imp id And.right
      cache := hcache
      reset := hreset }
  obtain ⟨run, hrun, hreplays, hrunAt, hends⟩ := playbackHeaders_restores laws.file hfuel hlt
    hsegments hstartTail hbetween (Or.inr hlast)
    (hwrites.imp (fun hwrites => ⟨hwrites, Or.inr hlast⟩) And.left) htodo hnoSync
    (fun hempty hstop => by rw [hsame.data]; exact hwhole hempty hstop)
    (journal.length - segments.length)
  have hreplays : Replays o.pageSize pPager run.pPager := hstart.trans hreplays
  have hmax : ((journal.length : Int).toNat + 2) =
      journal.length - segments.length + 2 + segments.length := by omega
  have hplayback : ∀ ended, endPlayback env run.pPager run.exit.rc true run.world = .ok ended →
      pagerPlayback env pPager isHot w = .ok ⟨ended, run.exit, run.records⟩ := by
    intro ended hended
    simp only [pagerPlayback, hsize, ne_eq, not_true_eq_false, if_false, hmaster,
      Bool.true_eq_false]
    rw [hmax, hrun, ok_bind, hended]
    rfl
  cases hends with
  | restored hexit hdata hcache' hdbSize =>
      have hactive' : ¬ (run.pPager.eState.rank < PagerState.writerLocked.rank ∧
          run.pPager.eLock < .reserved) := by
        rw [hreplays.eState, hreplays.eLock]
        exact hactive
      have hsub' : ¬ IsOpen run.pPager.sjfd := by
        rw [hreplays.sjfd]
        exact hsub
      have hjrnl : JournalOpen view run.pPager j run.world :=
        ⟨hrunAt.jrnl, by rw [hreplays.jfd, hreplays.zJournal]; exact hname⟩
      have hpage := o.le_pageSize
      obtain ⟨ended, hended, hendsJournal, hpager, hremoved⟩ := endPlayback_ok laws
        hrunAt.db.openOn hjrnl hrunAt.journal_eq hrunAt.apart hnone (by omega) hsub' hactive' true
      rw [hreplays.zJournal] at hendsJournal hremoved
      refine ⟨_, hplayback ended ?_, .restored run.pPager run.world hexit hreplays hrunAt hdata
        hcache' hdbSize hendsJournal hpager ?_⟩
      · rw [hexit]
        exact hended
      · intro hdelete
        have hdelete' : DeletesJournal run.pPager := by
          unfold DeletesJournal
          rw [hreplays.journalMode, hreplays.exclusiveMode, hreplays.tempFile]
          exact hdelete
        obtain ⟨hclosed, hgone⟩ := hremoved hdelete'
        refine ⟨hclosed, hgone ?_⟩
        rw [hreplays.jfd]
        exact hopen
  | failed rc hexit hrc hread hdo htorn =>
      have hnot : rc ≠ .ok := by
        intro hok
        rw [hok] at hrc
        cases hrc
      obtain ⟨ended, hended, hendedRc, hview, hpager⟩ :=
        endPlayback_failed env view run.pPager run.world hnot true
      refine ⟨_, hplayback ended ?_, .failed rc run.pPager hexit hendedRc hrc hread hdo hreplays
        ?_ ?_ hpager⟩
      · rw [hexit]
        exact hended
      · exact hrunAt.undisturbed (.of_eq hview)
      · show RestoredBut _ _ _ _ ((view ended.world.os).data f)
        rw [hview]
        exact htorn

end VxSqlite
