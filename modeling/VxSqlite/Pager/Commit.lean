import VxSqlite.Pager.DirtyList
import VxSqlite.Pager.Rollback

/-!
# Committing a write transaction

The first phase of a commit counts the change, syncs the journal and writes the dirty pages to the
database file; the second removes the journal. As long as the journal is there, the disk can be
recovered to what it was before the transaction, and once it is gone, the database file has what
the client stored.
-/

namespace VxSqlite

variable {σ : Type} {env : Env σ} {view : σ → Disk} {o : Original} {zFilename zJournal : CString}
  {f : Nat} {calls : WriterCallbacks σ} {content : Nat → Option (List UInt8)}

/-! ## The database file -/

/-- A file of `n` pages that has what the client stored, but for the stamps on page 1. -/
structure HoldsContent (o : Original) (content : Nat → Option (List UInt8)) (n : Nat)
    (file : List UInt8) : Prop where
  length_eq : file.length = n * o.pageSize
  page : ∀ k pData, 1 ≤ k → content k = some pData →
    unstamped k (paddedBlock 0 o.pageSize file k) = unstamped k pData

/-- A file without pending pages has what a reader sees through the cache. -/
theorem Transparent.page {p : Writer} {file : List UInt8} {pending : Nat → Prop}
    (h : Transparent o.pageSize file content pending p) (hdone : ∀ k, ¬ pending k) {k : Nat}
    {pData : List UInt8} (hk : 1 ≤ k) (hcontent : content k = some pData) :
    unstamped k (paddedBlock 0 o.pageSize file k) = unstamped k pData := by
  have himage := h.image k pData hk hcontent
  cases hcached : p.pPCache.page k with
  | none =>
      rw [Writer.image, hcached, Option.getD_none] at himage
      exact himage
  | some data =>
      rw [Writer.image_of_cached hcached] at himage
      have hsome : content k ≠ none := by
        rw [hcontent]
        exact Option.some_ne_none pData
      rw [← h.clean k data hcached (hdone k) hsome]
      exact himage

/-- A page of zeros behind the end of a file adds nothing to its pages. -/
theorem HoldsContent.grown {m n : Nat} {file : List UInt8} (h : HoldsContent o content m file)
    (hlt : m < n) (hstart : (n - 1) * o.pageSize ≤ file.length) :
    HoldsContent o content n
      (overlay file ((n - 1) * o.pageSize) (List.replicate o.pageSize 0)) := by
  have hzeros : (List.replicate o.pageSize (0 : UInt8)).length = o.pageSize :=
    List.length_replicate
  have hend : (n - 1) * o.pageSize + o.pageSize = n * o.pageSize := by
    rw [← Nat.succ_mul, Nat.succ_eq_add_one, Nat.sub_add_cancel (by omega)]
  refine ⟨?_, fun k pData hk hcontent => ?_⟩
  · have hle := Nat.mul_le_mul_right o.pageSize (le_of_lt hlt)
    rw [length_overlay _ hstart, hzeros, hend, h.length_eq]
    exact max_eq_right hle
  · rw [← h.page k pData hk hcontent]
    congr 1
    by_cases hkn : k = n
    · subst hkn
      rw [paddedBlock_overlay_self 0 hzeros hstart, paddedBlock_of_lt 0 hlt h.length_eq]
    · exact paddedBlock_overlay_ne 0 (le_of_eq hzeros) (by omega) hk hkn hstart

/-- Truncating a file to a greater length writes a page of zeros at its new end. -/
theorem pagerTruncate_grows (laws : FileLaws env.os view) {pPager : Pager} {w : World σ}
    (hopen : IsOpen pPager.fd) (hdb : NamedFile (view w.os) pPager.fd f)
    (hdo : PlaybackWrites pPager) (hsize : pPager.pageSize = o.pageSize) {m n : Nat}
    (hlength : ((view w.os).data f).length = m * o.pageSize) (hlt : m < n)
    (hmax : n * o.pageSize ≤ 2 ^ 32) (hfuel : o.pageSize ≤ env.writeFuel) :
    ∃ rc w', pagerTruncate env pPager n w =
        .ok ⟨rc, if rc = .ok then { pPager with dbFileSize := n } else pPager, w'⟩ ∧
      Touches f (view w.os) (view w'.os) ∧
      WriteEnds ((view w.os).data f) ((n - 1) * o.pageSize) (List.replicate o.pageSize 0) rc
        ((view w'.os).data f) := by
  have hpage := o.le_pageSize
  obtain ⟨w₁, hfilesize, hsame⟩ := verixFileSize_at laws hdb 0
  have hcond : IsOpen pPager.fd ∧
      (PagerState.writerDbmod.rank ≤ pPager.eState.rank ∨ pPager.eState = .open) := ⟨hopen, hdo⟩
  have hend : (n - 1) * o.pageSize + o.pageSize = n * o.pageSize := by
    rw [← Nat.succ_mul, Nat.succ_eq_add_one, Nat.sub_add_cancel (by omega)]
  have hle := Nat.mul_le_mul_right o.pageSize (show m ≤ n - 1 by omega)
  have hnew : (pPager.pageSize : Int) * n = ((n * o.pageSize : Nat) : Int) := by
    rw [hsize]
    push_cast
    ring
  obtain ⟨rc, w₂, hwrite, hends, htouch⟩ := verixWrite_at laws (hsame.openOn _ _ hdb.openOn)
    (show List.replicate o.pageSize (0 : UInt8) ≠ [] from List.length_pos_iff.mp (by
      rw [List.length_replicate]
      omega))
    (show ((n * o.pageSize : Nat) : Int) - pPager.pageSize = (((n - 1) * o.pageSize : Nat) : Int)
      by rw [hsize]; omega) (by omega) (by rw [List.length_replicate]; exact hfuel)
  rw [hsame.data] at hends
  refine ⟨rc, w₂, ?_, (hsame.touches f).trans htouch, hends⟩
  have hdiffers : ¬ ((((view w.os).data f).length : Int) = ((n * o.pageSize : Nat) : Int)) := by
    rw [hlength]
    omega
  have hnot : ¬ ((((view w.os).data f).length : Int) > ((n * o.pageSize : Nat) : Int)) := by
    rw [hlength]
    omega
  have hroom : (((view w.os).data f).length : Int) + pPager.pageSize ≤
      ((n * o.pageSize : Nat) : Int) := by
    rw [hlength, hsize]
    omega
  rw [← hsize] at hwrite
  simp only [pagerTruncate, if_pos hcond, hfilesize, hnew, ne_eq, hdiffers, not_false_eq_true,
    and_self, if_true, if_neg hnot, if_pos hroom]
  rw [← hsize, hwrite, ok_bind]
  by_cases hok : rc = .ok
  · rw [if_pos hok, if_pos hok, hok]
    rfl
  · rw [if_neg hok, if_neg hok]
    rfl

/-! ## The first phase -/

theorem mem_sqlite3PcacheDirtyList (p : Writer) (k : Nat) :
    k ∈ sqlite3PcacheDirtyList p ↔ k ∈ p.pDirty :=
  (pcacheSortDirtyList_perm p.pDirty).mem_iff

/-- A transaction that the first phase has brought to its end: all that the journal holds is
counted, and the database file has what the client stored. -/
structure Prepared (o : Original) (zFilename zJournal : CString) (f : Nat)
    (content : Nat → Option (List UInt8)) (synced : List (List Nat)) (p : Writer) (d : Disk) :
    Prop where
  underway : Underway o zFilename zJournal f content false synced [] p d
  closed : ∃ j last, JournalClosed o f j last synced p.toPager d
  grown : p.dbFileSize ≤ p.dbSize
  content : HoldsContent o content p.dbSize (d.data f)

section PhaseOne

variable {synced : List (List Nat)} {current : List Nat} {p : Writer} {w : World σ} {d : Disk}

/-- With all pages clean, the transaction can be undone as before. -/
theorem Underway.cleanAll (h : Underway o zFilename zJournal f content false synced current p d) :
    Underway o zFilename zJournal f content false synced current (sqlite3PcacheCleanAll p) d := by
  obtain ⟨needSync, page1Ref, hclean⟩ := sqlite3PcacheCleanAll_eq p
  rw [hclean]
  exact h.alike rfl (.refl d) (fun _ => rfl) ⟨h.cache.page, h.cache.original, h.cache.behind,
    fun hready => (by cases hready), fun hready => (by cases hready), h.cache.inUse⟩
    fun hready => by cases hready

/-- Behind the syncing of the journal the database file may be written. -/
theorem Underway.playbackWrites
    (h : Underway o zFilename zJournal f content false synced current p d) (hne : synced ≠ []) :
    PlaybackWrites p.toPager := by
  cases h.stage with
  | opening => exact absurd rfl hne
  | torn _ _ _ _ _ hwrites =>
      rcases hwrites with ⟨-, hnil⟩ | ⟨heState, -⟩
      · exact absurd hnil hne
      · refine Or.inl ?_
        rw [heState]
  | closed _ _ _ hstate => exact Or.inl (PagerState.rank_of_closed hstate).1

/-- The file is made as large as the database. -/
theorem Underway.grown (s : Surroundings env view calls o)
    (h : Underway o zFilename zJournal f content false synced [] p (view w.os)) {j last : Nat}
    (hclosed : JournalClosed o f j last synced p.toPager (view w.os))
    (hcontent : HoldsContent o content p.dbFileSize ((view w.os).data f))
    (hgrows : p.dbFileSize < p.dbSize) :
    ∃ grown, pagerTruncate env p.toPager p.dbSize w = .ok grown ∧
      Underway o zFilename zJournal f content false synced [] (p.put grown.pPager)
        (view grown.world.os) ∧
      (grown.rc = .ok → Prepared o zFilename zJournal f content synced (p.put grown.pPager)
        (view grown.world.os)) := by
  have hne := hclosed.ne_nil
  have hpage := o.le_pageSize
  obtain ⟨rc, w', hrun, htouch, hends⟩ := pagerTruncate_grows s.laws.file h.settled.isOpen h.db
    (h.playbackWrites hne) h.settled.pageSize hcontent.length_eq hgrows h.size_le s.fuel
  -- the file holds the original's pages already, so that the new page lies behind them
  have hbehind : p.dbSize ≤ o.nPage → p.dbSize ∈ synced.flatten := by
    intro hle
    have hlength := h.restored.length_le
    rw [hcontent.length_eq] at hlength
    have hmul := Nat.le_of_mul_le_mul_right hlength (by omega)
    omega
  have hzeros : (List.replicate o.pageSize (0 : UInt8)).length = o.pageSize :=
    List.length_replicate
  refine ⟨_, hrun, ?_⟩
  rcases hends with ⟨rfl, hstart, hdata⟩ | ⟨rfl, taken, htaken, hstart, hdata⟩
  · have hrestored := h.restored.damage (le_of_eq hzeros) (by omega) hstart hbehind
    rw [← hdata] at hrestored
    have hunder : Underway o zFilename zJournal f content false synced []
        { p with dbFileSize := p.dbSize } (view w'.os) :=
      h.damaged hne htouch ⟨rfl, fun _ => rfl⟩ ⟨hrestored, le_refl _,
        h.cache.congr rfl (fun _ => Iff.rfl) rfl (fun _ _ _ hflag => hflag) h.cache.inUse⟩
    refine ⟨hunder, fun _ => ⟨hunder, ⟨j, last, hclosed.touches htouch rfl rfl rfl⟩, le_refl _, ?_⟩⟩
    show HoldsContent o content p.dbSize ((view w'.os).data f)
    rw [hdata]
    exact hcontent.grown hgrows hstart
  · refine ⟨?_, fun hok => by cases hok⟩
    have hrestored : RestoredBut o.pageSize o.content o.nPage (fun k => k ∈ synced.flatten)
        ((view w'.os).data f) := by
      rw [hdata]
      rcases hstart with hstart | rfl
      · exact h.restored.damage (by rw [List.length_take]; omega) (by omega) hstart hbehind
      · rw [List.take_zero, overlay_nil]
        exact h.restored
    exact h.damaged hne htouch (.refl p) ⟨hrestored, le_of_lt hgrows, h.cache⟩

/-- The dirty pages are written, and the file is made as large as the database. -/
theorem commitPages_ends (s : Surroundings env view calls o)
    (h : Underway o zFilename zJournal f content false synced [] p (view w.os)) {j last : Nat}
    (hclosed : JournalClosed o f j last synced p.toPager (view w.os))
    (hwrites : WritesPages o f content synced.flatten [] (· ∈ p.pDirty) p (view w.os)) :
    ∃ ret, commitPages env p w = .ok ret ∧
      Underway o zFilename zJournal f content false synced [] ret.writer (view ret.world.os) ∧
      (ret.rc = .ok → Prepared o zFilename zJournal f content synced ret.writer
        (view ret.world.os)) := by
  have hne := hclosed.ne_nil
  obtain ⟨ret, hret, htouch, hflushes, hends⟩ := pagerWritePagelist_ends s hwrites
    fun k hk => ⟨(mem_sqlite3PcacheDirtyList p k).mp hk, List.not_mem_nil⟩
  obtain ⟨rc, q, w'⟩ := ret
  dsimp only at htouch hflushes hends
  rw [commitPages, hret, ok_bind]
  rcases hends with ⟨rfl, hdone⟩ | ⟨rfl, hfailed⟩
  swap
  · exact ⟨_, if_pos (show ResultCode.ioerrWrite ≠ .ok from by decide),
      h.damaged hne htouch hflushes hfailed, fun hok => by cases hok⟩
  rw [if_neg (not_not.mpr rfl)]
  -- no page is pending any more, and the journal still undoes all that was written
  have hunder := (h.damaged hne htouch hflushes
    ⟨hdone.restored, hdone.grown, hdone.cache.undoable⟩).cleanAll
  have hclosed' : JournalClosed o f j last synced q.toPager (view w'.os) := by
    obtain ⟨_, _, _, _, rfl⟩ := hflushes.exists
    exact hclosed.touches htouch rfl rfl rfl
  have hcontent : HoldsContent o content q.dbFileSize ((view w'.os).data f) :=
    ⟨hdone.length_eq, fun k pData hk => hdone.transparent.page
      (fun l hl => hl.2 ((mem_sqlite3PcacheDirtyList p l).mpr hl.1)) hk⟩
  have hfields : (sqlite3PcacheCleanAll q).dbSize = q.dbSize ∧
      (sqlite3PcacheCleanAll q).dbFileSize = q.dbFileSize ∧
      (sqlite3PcacheCleanAll q).jfd = q.jfd ∧ (sqlite3PcacheCleanAll q).zJournal = q.zJournal ∧
      (sqlite3PcacheCleanAll q).journalHdr = q.journalHdr := by
    obtain ⟨needSync, page1Ref, hclean⟩ := sqlite3PcacheCleanAll_eq q
    rw [hclean]
    exact ⟨rfl, rfl, rfl, rfl, rfl⟩
  dsimp only
  generalize sqlite3PcacheCleanAll q = cleaned at hunder hfields ⊢
  obtain ⟨hdbSize, hdbFileSize, hjfd, hzJournal, hjournalHdr⟩ := hfields
  have hclosed'' := hclosed'.touches ((Undisturbed.refl _).touches f) hjfd hzJournal hjournalHdr
  have hgrown := hdone.grown
  rw [← hdbFileSize] at hcontent hgrown
  rw [← hdbSize] at hgrown
  by_cases hgrows : cleaned.dbFileSize < cleaned.dbSize
  · have hmj : cleaned.dbSize ≠ cleaned.mjPgno := by
      rw [Pager.mjPgno, hunder.settled.pageSize]
      exact hunder.size_ne
    obtain ⟨grown, htruncate, hunder', hprepared⟩ := hunder.grown s hclosed'' hcontent hgrows
    refine ⟨⟨grown.rc, cleaned.put grown.pPager, grown.world⟩, ?_, hunder', hprepared⟩
    rw [if_pos hgrows, if_neg hmj, Nat.sub_zero, htruncate]
    rfl
  · have heq : cleaned.dbFileSize = cleaned.dbSize := le_antisymm hgrown (not_lt.mp hgrows)
    refine ⟨_, if_neg hgrows, hunder, fun _ => ⟨hunder, ⟨j, last, hclosed''⟩, hgrown, ?_⟩⟩
    rw [heq] at hcontent
    exact hcontent

/-- Counting the change makes page 1 writable, or fails as any other call does. -/
theorem pagerIncrChangecounter_counted (s : Surroundings env view calls o)
    (h : Underway o zFilename zJournal f content true synced current p (view w.os))
    (hbegun : p.eState ≠ .reader) (hjfd : IsOpen p.jfd) :
    ∃ ret, pagerIncrChangecounter env calls p w = .ok ret ∧
      Course o zFilename zJournal f content ret.rc ret.writer (view ret.world.os) ∧
      (ret.rc = .ok → IsOpen ret.writer.jfd) := by
  have hok := ok_not_ioerr
  by_cases hcount : p.changeCountDone = false ∧ 0 < p.dbSize
  swap
  · exact ⟨⟨.ok, p, w⟩, if_neg hcount, .goesOn _ _ hok h, fun _ => hjfd⟩
  rw [pagerIncrChangecounter, if_pos hcount]
  obtain ⟨got, hgot, hends⟩ := sqlite3PagerGet_got s h (k := 1) (by
    have hle := o.pageSize_le
    omega)
  rw [hgot, ok_bind]
  by_cases hrefused : got.rc ≠ .ok
  · exact ⟨got, if_pos hrefused, hends.course, fun hrc => absurd hrc hrefused⟩
  rw [if_neg hrefused]
  have hrc := not_not.mp hrefused
  have huse := hends.taken hrc
  obtain ⟨synced₁, current₁, hunder⟩ := hends.course.underway (by rw [hrc]; exact hok)
  obtain ⟨written, hwritten, hwrites⟩ := sqlite3PagerWrite_written s hunder (huse.begun hbegun)
    (show 1 ∈ got.writer.refs by rw [huse.refs]; exact List.mem_cons_self)
  rw [hwritten, ok_bind]
  by_cases hfailed : written.rc ≠ .ok
  · refine ⟨{ written with writer := sqlite3PcacheRelease written.writer 1 }, ?_,
      hwrites.course.released 1, fun hrc => absurd hrc hfailed⟩
    rw [if_neg hfailed]
    rfl
  have hrc' := not_not.mp hfailed
  obtain ⟨synced₂, current₂, hunder₂⟩ := hwrites.course.underway (by rw [hrc']; exact hok)
  have hwritable := hwrites.writable hrc'
  obtain ⟨hcache, htransparent⟩ := pagerWriteChangecounter_holds hunder₂.cache
    (hunder₂.transparent rfl) hwritable.1 hwritable.1
  let counted : Writer := { pagerWriteChangecounter written.writer with changeCountDone := true }
  have hunder₃ : Underway o zFilename zJournal f content true synced₂ current₂ counted
      (view written.world.os) :=
    hunder₂.alike rfl (.refl _) (fun hnil => hnil)
      (hcache.congr rfl (fun _ => Iff.rfl) rfl (fun _ _ _ hflag => hflag) hcache.inUse)
      fun _ => ⟨htransparent.image, htransparent.clean, htransparent.given⟩
  refine ⟨{ written with writer := sqlite3PcacheRelease counted 1 }, ?_,
    .goesOn synced₂ current₂ (by rw [hrc']; exact hok) (hunder₃.released 1), fun _ => ?_⟩
  · rw [if_pos hrc']
    rfl
  · obtain ⟨_, _, _, hrelease, -⟩ := sqlite3PcacheRelease_eq counted 1
    show IsOpen (sqlite3PcacheRelease counted 1).jfd
    rw [hrelease]
    exact hunder₂.journal_isOpen hwritable.1

theorem Prepared.finished (h : Prepared o zFilename zJournal f content synced p d) :
    Prepared o zFilename zJournal f content synced { p with eState := .writerFinished } d := by
  obtain ⟨j, last, hclosed⟩ := h.closed
  have hclosed' := hclosed.touches ((Undisturbed.refl d).touches f)
    (show ({ p.toPager with eState := .writerFinished } : Pager).jfd = _ from rfl) rfl rfl
  refine ⟨?_, ⟨j, last, hclosed'⟩, h.grown, h.content⟩
  exact h.underway.restage rfl h.underway.db rfl rfl rfl
    (.closed j last hclosed' (Or.inr rfl) h.grown) (fun _ hk => hk) (fun hnil => hnil)
    (h.underway.cache.congr rfl (fun _ => Iff.rfl) rfl (fun _ _ _ hflag => hflag)
      h.underway.cache.inUse) fun hready => by cases hready

/-- How the first phase ends: whatever has happened, the original can be recovered, and if it went
well, there was nothing to write or all is written. -/
structure PhaseOneEnds (view : σ → Disk) (o : Original) (zFilename zJournal : CString) (f : Nat)
    (content : Nat → Option (List UInt8)) (ret : WriterRet σ) : Prop where
  survives : Survives o zFilename zJournal f (view ret.world.os)
  prepared : ret.rc = .ok →
    ret.writer.eState = .writerLocked ∧ (∃ synced current,
        Underway o zFilename zJournal f content true synced current ret.writer
          (view ret.world.os)) ∨
      ret.writer.eState = .writerFinished ∧ ∃ synced,
        Prepared o zFilename zJournal f content synced ret.writer (view ret.world.os)

theorem sqlite3PagerCommitPhaseOne_ends (s : Surroundings env view calls o)
    (h : Underway o zFilename zJournal f content true synced current p (view w.os))
    (hbegun : p.eState ≠ .reader) (noSync : Bool) :
    ∃ ret, sqlite3PagerCommitPhaseOne env calls p none noSync w = .ok ret ∧
      PhaseOneEnds view o zFilename zJournal f content ret := by
  rw [sqlite3PagerCommitPhaseOne, if_neg (by rw [h.errCode]; exact fun hnot => hnot rfl)]
  have hstage : p.eState = .writerLocked ∨
      ¬ p.eState.rank < PagerState.writerCachemod.rank ∧ IsOpen p.jfd := by
    cases h.stage with
    | idle hstate =>
        rcases hstate with hreader | ⟨hlocked, -⟩
        · exact absurd hreader hbegun
        · exact Or.inl hlocked
    | writing _ _ _ hfile _ hwrites =>
        exact Or.inr ⟨Nat.not_lt.mpr hwrites.active.1, hfile.isOpen⟩
  rcases hstage with hlocked | ⟨hearly, hjfd⟩
  · refine ⟨_, if_pos (by rw [hlocked]; decide), h.survives, fun _ => Or.inl ⟨hlocked, _, _, h⟩⟩
  rw [if_neg hearly]
  obtain ⟨counted, hcounted, hcourse, hopen⟩ := pagerIncrChangecounter_counted s h hbegun hjfd
  rw [hcounted, ok_bind]
  by_cases hrefused : counted.rc ≠ .ok
  · exact ⟨counted, if_pos hrefused, hcourse.survives, fun hrc => absurd hrc hrefused⟩
  have hrc := not_not.mp hrefused
  obtain ⟨synced₁, current₁, hunder⟩ := hcourse.underway (by rw [hrc]; exact ok_not_ioerr)
  obtain ⟨ret, hret, hends⟩ := syncJournal_ends s hunder (hopen hrc) false
  have hmaster : writeMasterJournal env counted.writer.toPager none counted.world =
      .ok ⟨.ok, counted.writer.toPager, counted.world⟩ := rfl
  rw [if_neg hrefused, hmaster, ok_bind, if_neg (not_not.mpr rfl)]
  show ∃ ret, (syncJournal env calls counted.writer false counted.world >>= _) = _ ∧ _
  rw [hret, ok_bind]
  by_cases hfailed : ret.rc ≠ .ok
  · refine ⟨ret, if_pos hfailed, ?_, fun hrc => absurd hrc hfailed⟩
    cases hends with
    | unchanged _ _ hunder => exact hunder.survives
    | lost _ hnew => cases hnew
    | closed _ _ hrc => exact absurd hrc hfailed
    | begun _ hnew => cases hnew
  rw [if_neg hfailed]
  cases hends with
  | unchanged hrc =>
      have hok := not_not.mp hfailed
      rcases hrc with hbusy | hioerr
      · cases hok.symm.trans hbusy
      · cases hok.symm.trans hioerr
  | lost _ hnew => cases hnew
  | begun _ hnew => cases hnew
  | closed j last _ _ _ hunder hclosed hgrown hcache htransparent hlength =>
      obtain ⟨paged, hpaged, hunder', hprepared⟩ := commitPages_ends s hunder hclosed
        (hunder.writesPages hcache htransparent hlength hgrown)
      rw [hpaged, ok_bind]
      by_cases hbroken : paged.rc ≠ .ok
      · exact ⟨paged, if_pos hbroken, hunder'.survives, fun hrc => absurd hrc hbroken⟩
      rw [if_neg hbroken]
      have hfinished := (hprepared (not_not.mp hbroken)).finished
      obtain ⟨w', hsync, hview⟩ : ∃ w', (if noSync then (.ok, paged.world)
          else sqlite3PagerSync env paged.writer.toPager paged.world) = (ResultCode.ok, w') ∧
            view w'.os = view paged.world.os := by
        by_cases hno : noSync = true
        · exact ⟨paged.world, if_pos hno, rfl⟩
        · obtain ⟨hok, hview⟩ :=
            sqlite3PagerSync_undisturbed env view paged.writer.toPager paged.world
          exact ⟨_, (if_neg hno).trans (Prod.ext hok rfl), hview⟩
      rw [← hview] at hunder' hfinished
      rw [hsync]
      exact ⟨_, if_neg (not_not.mpr rfl), hunder'.survives, fun _ => Or.inr ⟨rfl, _, hfinished⟩⟩

end PhaseOne

/-! ## The second phase -/

/-- The database is what the client stored, and nothing is left to be undone. -/
structure Committed (o : Original) (zJournal : CString) (f : Nat)
    (content : Nat → Option (List UInt8)) (n : Nat) (d : Disk) : Prop where
  content : HoldsContent o content n (d.data f)
  gone : d.dir zJournal = none

/-- How the second phase ends: the transaction is committed, or, if an error is returned, it may
still be undone. -/
structure PhaseTwoEnds (view : σ → Disk) (o : Original) (zFilename zJournal : CString) (f : Nat)
    (content : Nat → Option (List UInt8)) (n : Nat) (ret : WriterRet σ) : Prop where
  committed : ret.rc = .ok → Committed o zJournal f content n (view ret.world.os)
  atomic : Committed o zJournal f content n (view ret.world.os) ∨
    Survives o zFilename zJournal f (view ret.world.os)

section PhaseTwo

variable {synced : List (List Nat)} {current : List Nat} {p : Writer} {w : World σ}

theorem sqlite3PagerCommitPhaseTwo_eq (hsettled : Settled o zFilename zJournal p.toPager)
    (herrCode : p.errCode = .ok) {ret : WriterRet σ}
    (hret : writerEndTransaction env p p.setMaster true w = .ok ret) :
    sqlite3PagerCommitPhaseTwo env p w = .ok (writerError ret) := by
  have hmode : ¬ (p.eState = .writerLocked ∧ p.exclusiveMode = true ∧
      p.journalMode = .persist) := by
    rw [show p.journalMode = .delete from hsettled.deletes.1]
    exact fun hpersist => by cases hpersist.2.2
  rw [sqlite3PagerCommitPhaseTwo, if_neg (not_not.mpr herrCode), if_neg hmode, hret]
  rfl

/-- A transaction that has written nothing is only ended. -/
theorem Underway.committed (s : Surroundings env view calls o)
    (h : Underway o zFilename zJournal f content true synced current p (view w.os))
    (hlocked : p.eState = .writerLocked) :
    ∃ ret, sqlite3PagerCommitPhaseTwo env p w = .ok ret ∧
      PhaseTwoEnds view o zFilename zJournal f content p.dbSize ret := by
  obtain ⟨hjfd, hnone, hdbSize, hdirty, hdbFileSize, rfl⟩ : ¬ IsOpen p.jfd ∧
      (view w.os).dir p.zJournal = none ∧ p.dbSize = o.nPage ∧ p.pDirty = [] ∧
      p.dbFileSize = o.nPage ∧ synced = [] := by
    cases h.stage with
    | idle hstate hjfd hnone hdbSize hdirty =>
        rcases hstate with hreader | ⟨-, -, hdbFileSize⟩
        · cases hlocked.symm.trans hreader
        · exact ⟨hjfd, hnone, hdbSize, hdirty, hdbFileSize, rfl⟩
    | writing _ _ _ _ _ hwrites =>
        have hactive := hwrites.active.1
        rw [hlocked] at hactive
        exact absurd hactive (lt_irrefl _)
  -- there is no journal, so that any other file stands for it
  obtain ⟨ret, hret, hends, -⟩ := writerEndTransaction_ends (j := f + 1) s h.settled h.db
    (fun hopen => absurd hopen hjfd) (by omega) (by rw [hlocked]) p.setMaster true
    (fun _ => by rw [hdbFileSize, hdbSize])
  refine ⟨_, sqlite3PagerCommitPhaseTwo_eq h.settled h.errCode hret, ?_⟩
  have hdata : (view ret.world.os).data f = o.content :=
    (hends.data f (by omega)).trans (h.whole rfl)
  have hcommitted : Committed o zJournal f content p.dbSize (view ret.world.os) := by
    refine ⟨⟨?_, fun k pData hk hcontent => ?_⟩, ?_⟩
    · rw [hdata, hdbSize, o.length_eq]
    · have htransparent := h.transparent rfl
      rw [h.whole rfl] at htransparent
      rw [hdata]
      exact htransparent.page (fun l hl => by rw [hdirty] at hl; cases hl) hk hcontent
    · rw [← h.settled.zJournal]
      rcases hends.dir p.zJournal with hsame | ⟨-, hgone⟩
      · exact hsame.trans hnone
      · exact hgone
  exact ⟨fun _ => hcommitted, Or.inl hcommitted⟩

/-- The removal of the journal commits the transaction. -/
theorem Prepared.committed (s : Surroundings env view calls o)
    (h : Prepared o zFilename zJournal f content synced p (view w.os))
    (hfinished : p.eState = .writerFinished) :
    ∃ ret, sqlite3PagerCommitPhaseTwo env p w = .ok ret ∧
      PhaseTwoEnds view o zFilename zJournal f content p.dbSize ret := by
  have hunder := h.underway
  have hsettled := hunder.settled
  obtain ⟨j, last, hclosed⟩ := h.closed
  have hfile := hclosed.file
  obtain ⟨ret, hret, hends, -, -, -, -, -, hremoved⟩ := writerEndTransaction_ends s hsettled
    hunder.db (fun _ => hfile) hfile.apart (by rw [hfinished]; decide) p.setMaster true
    fun _ => h.grown
  have hremoved := hremoved hfile.isOpen
  rw [hsettled.zJournal] at hends hremoved
  refine ⟨_, sqlite3PagerCommitPhaseTwo_eq hsettled hunder.errCode hret, ?_⟩
  have hdata : (view ret.world.os).data f = (view w.os).data f := hends.data f hfile.apart
  have hcontent : HoldsContent o content p.dbSize ((view ret.world.os).data f) := by
    rw [hdata]
    exact h.content
  refine ⟨fun hok => ⟨hcontent, hremoved.gone hok⟩, ?_⟩
  -- a journal that could not be removed undoes the transaction
  rcases hends.dir zJournal with hsame | ⟨-, hgone⟩
  swap
  · exact Or.inl ⟨hcontent, hgone⟩
  · have hj : (view ret.world.os).dir zJournal = some j := by
      rw [← hsettled.zJournal, ← hfile.filename] at hsame ⊢
      exact hsame.trans hfile.named.named
    have hdb : (view ret.world.os).dir zFilename = some f := by
      rw [hends.dir_eq hsettled.apart, ← hsettled.filename]
      exact hunder.db.named
    have hsegments := hclosed.segments
    have hlength := hclosed.length_eq
    have hrestored := hunder.restored
    have hsector := o.le_sectorSize
    rw [← hremoved.data] at hsegments hlength
    rw [← hdata] at hrestored
    have hstops : StopsAt o ((view ret.world.os).data j) none last :=
      .of_length_lt none (by omega)
    exact Or.inr (.of_segments hdb hj hfile.apart hsegments hstops hrestored
      fun hnil => absurd hnil hclosed.ne_nil)

end PhaseTwo

/-! ## Both phases -/

/-- Committing is atomic: an error leaves the original to be recovered, or the second phase has
removed the journal, and then the database is what the client stored. -/
def Client.Commits (env : Env σ) (view : σ → Disk) (calls : WriterCallbacks σ) (o : Original)
    (zFilename zJournal : CString) (f : Nat) (noSync : Bool) (c : Client σ) : Prop :=
  ∃ one, sqlite3PagerCommitPhaseOne env calls c.writer none noSync c.world = .ok one ∧
    Survives o zFilename zJournal f (view one.world.os) ∧
    (one.rc = .ok → ∃ two, sqlite3PagerCommitPhaseTwo env one.writer one.world = .ok two ∧
      PhaseTwoEnds view o zFilename zJournal f c.content one.writer.dbSize two)

/-- In every state of a run of allowed calls of a client whose transaction has begun, it can be
committed. -/
theorem commit_atomic (s : Surroundings env view calls o) {p : Writer} {w : World σ}
    (hstart : ReadsDatabase o zFilename zJournal f p (view w.os)) {run : List PageCall}
    (hallowed : Run.EachStep (PageCall.step env calls)
      (fun c call => call.Allowed o.pageSize c) ⟨p, w, .ok, false, [], o.pages⟩ run)
    (noSync : Bool) :
    Run.Always (PageCall.step env calls)
      (fun c => ¬ c.rc.IsIoerr → c.begun = true →
        c.Commits env view calls o zFilename zJournal f noSync)
      ⟨p, w, .ok, false, [], o.pages⟩ run := by
  refine (pageCalls_hold s hstart hallowed).mono fun c hc hrc hbegun => ?_
  obtain ⟨synced, current, hunder⟩ := hc.course.underway hrc
  obtain ⟨one, hone, hends⟩ :=
    sqlite3PagerCommitPhaseOne_ends s hunder (hc.begun hrc hbegun) noSync
  refine ⟨one, hone, hends.survives, fun hok => ?_⟩
  rcases hends.prepared hok with ⟨hlocked, _, _, hunder⟩ | ⟨hfinished, _, hprepared⟩
  · exact hunder.committed s hlocked
  · exact hprepared.committed s hfinished

theorem commit_atomic_change :
    Run.Always (PageCall.step crowdedFlash .crowded)
      (fun c => ¬ c.rc.IsIoerr → c.begun = true →
        c.Commits crowdedFlash Flash.toDisk .crowded .sectorPage (ascii "db") (ascii "db-journal")
          0 false)
      .sectorPage PageCall.change :=
  commit_atomic sectorPage_surroundings sectorPage_readsDatabase change_allowed.1 false

end VxSqlite
