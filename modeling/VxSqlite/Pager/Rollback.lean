import VxSqlite.Pager.PageCalls

/-!
# Undoing a write transaction

`sqlite3PagerRollback` plays the journal back that the pager itself is still writing. Wherever a
client calls it, it restores the database, and the pages and the sizes that the pager keeps, or it
fails, and the disk can still be recovered.
-/

namespace VxSqlite

variable {σ : Type} {env : Env σ} {view : σ → Disk} {o : Original} {zFilename zJournal : CString}
  {f : Nat} {calls : WriterCallbacks σ}

/-! ## The pages -/

/-- Making all pages clean. -/
theorem sqlite3PcacheCleanAll_eq (p : Writer) : ∃ needSync page1Ref,
    sqlite3PcacheCleanAll p = { p with
      needSync := needSync
      pDirty := []
      pPCache := { p.pPCache with page1Ref := page1Ref } } := by
  have hall : ∀ (pDirty : List Nat) (p : Writer), p.pDirty = pDirty →
      ∃ needSync page1Ref, pDirty.foldl sqlite3PcacheMakeClean p = { p with
        needSync := needSync
        pDirty := []
        pPCache := { p.pPCache with page1Ref := page1Ref } } := by
    intro pDirty
    induction pDirty with
    | nil =>
        intro p hdirty
        refine ⟨p.needSync, p.pPCache.page1Ref, ?_⟩
        rw [List.foldl_nil, ← hdirty]
    | cons k pDirty ih =>
        intro p hdirty
        have hk : k ∈ p.pDirty := by
          rw [hdirty]
          exact List.mem_cons_self
        obtain ⟨page1Ref, hclean⟩ := sqlite3PcacheMakeClean_eq hk
        obtain ⟨needSync', page1Ref', hrest⟩ := ih (sqlite3PcacheMakeClean p k) (by
          rw [hclean]
          show p.pDirty.erase k = pDirty
          rw [hdirty, List.erase_cons_head])
        refine ⟨needSync', page1Ref', ?_⟩
        rw [List.foldl_cons, hrest, hclean]
  exact hall p.pDirty p rfl

theorem sqlite3PcacheCleanAll_toPager (p : Writer) : ∃ page1Ref,
    (sqlite3PcacheCleanAll p).toPager = { p.toPager with
      pPCache := { p.pPCache with page1Ref := page1Ref } } := by
  obtain ⟨needSync, page1Ref, hclean⟩ := sqlite3PcacheCleanAll_eq p
  exact ⟨page1Ref, by rw [hclean]⟩

theorem Writer.ended_pDirty (p : Writer) (pPager : Pager) : (p.ended pPager).pDirty = [] := by
  obtain ⟨needSync, page1Ref, hclean⟩ := sqlite3PcacheCleanAll_eq p
  show (sqlite3PcacheCleanAll p).pDirty = []
  rw [hclean]

/-! ## The journal -/

/-- The journal is not taken for one that names a master journal, nor what is left behind its last
whole record for a header. -/
def ReadsPlainly (o : Original) (p : Writer) (d : Disk) : Prop :=
  ∀ j, d.dir p.zJournal = some j →
    ¬ EndsLikeMaster (d.data j) ∧ StopsAt o (d.data j) (some p.journalHdr) p.journalOff.toNat

/-- A journal that the pager is writing, as a playback finds it. -/
structure LiveJournal (o : Original) (f j last : Nat) (synced : List (List Nat))
    (current : List Nat) (p : Writer) (d : Disk) : Prop where
  file : JournalFile f j p.toPager d
  segments : Segments o (d.data j) 0 synced last
  tail : JournalTail o (d.data j) false p.journalHdr last current
  last_le : (last : Int) ≤ p.journalHdr
  stops : StopsAt o (d.data j) none last
  read : ¬ (synced = [] ∧ StopsAt o (d.data j) (some p.journalHdr) last)
  writes : PlaybackWrites p.toPager ↔ synced ≠ []
  noMaster : ¬ EndsLikeMaster (d.data j)
  active : PagerState.writerLocked.rank < p.eState.rank
  not_error : p.eState ≠ .error

section Live

variable {content : Nat → Option (List UInt8)} {ready : Bool} {synced : List (List Nat)}
  {current : List Nat} {p : Writer} {d : Disk}

theorem WritesJournal.active (h : WritesJournal p synced) :
    PagerState.writerLocked.rank < p.eState.rank ∧ p.eState ≠ .error := by
  rcases h with ⟨heState, -⟩ | ⟨heState, -⟩
  · rw [heState]
    decide
  · rw [heState]
    decide

theorem PagerState.rank_of_closed {eState : PagerState}
    (h : eState = .writerDbmod ∨ eState = .writerFinished) :
    PagerState.writerDbmod.rank ≤ eState.rank ∧ eState ≠ .error := by
  rcases h with rfl | rfl
  · decide
  · decide

/-- The journal as the pager has written it, with less than another record behind it. -/
theorem JournalHolds.live {j last next : Nat} (hfile : JournalFile f j p.toPager d)
    (h : JournalHolds o (d.data j) synced last current next p.toPager)
    (hwrites : WritesJournal p synced) (hlength : (d.data j).length < next + (o.pageSize + 8))
    (hstop : StopsAt o (d.data j) (some p.journalHdr) next)
    (hnone : ¬ EndsLikeMaster (d.data j)) :
    LiveJournal o f j last synced current p d := by
  have hhdr : p.journalHdr = (o.hdrOffset last : Nat) := h.journalHdr
  refine {
    file := hfile
    segments := h.segments
    tail := .current rfl hhdr h.header h.records h.next_le hlength hstop
    last_le := ?_
    stops := h.stops
    read := ?_
    writes := ?_
    noMaster := hnone
    active := hwrites.active.1
    not_error := hwrites.active.2 }
  · have hle := o.le_hdrOffset last
    rw [hhdr]
    omega
  · intro hread
    have hle := h.records.off_le.trans h.next_le
    exact (hread.2 hle).1 (congrArg some hhdr)
  · unfold PlaybackWrites
    rcases hwrites with ⟨heState, hnil⟩ | ⟨heState, hne⟩
    · rw [heState]
      exact ⟨fun hdo => absurd hdo (by decide), fun hne => absurd hnil hne⟩
    · rw [heState]
      exact ⟨fun _ => hne, fun _ => Or.inl (le_refl _)⟩

/-- As long as nothing is changed, there is no journal or one without a header. -/
theorem JournalStage.unchanged (h : JournalStage o f p d ready synced current)
    (hle : p.eState.rank ≤ PagerState.writerLocked.rank) :
    synced = [] ∧ current = [] ∧ p.dbSize = o.nPage ∧ p.pDirty = [] ∧
      (d.dir p.zJournal = none ∧ ¬ IsOpen p.jfd ∨ p.eState = .writerLocked ∧
        ∃ j, JournalFile f j p.toPager d ∧ (d.data j).length < o.sectorSize) := by
  cases h with
  | idle _ hclosed hnone hdbSize hdirty =>
      exact ⟨rfl, rfl, hdbSize, hdirty, Or.inl ⟨hnone, hclosed⟩⟩
  | opening j hstate hfile hlength hdbSize hdirty =>
      exact ⟨rfl, rfl, hdbSize, hdirty, Or.inr ⟨hstate, j, hfile, hlength⟩⟩
  | writing _ _ _ _ _ hwrites => exact absurd hle (Nat.not_le.mpr hwrites.active.1)
  | torn _ _ _ _ _ hwrites => exact absurd hle (Nat.not_le.mpr hwrites.active.1)
  | closed _ _ _ hstate =>
      exact absurd ((PagerState.rank_of_closed hstate).1.trans hle) (by decide)

/-- Behind the opening of the journal there is one to play back. -/
theorem Underway.liveJournal
    (h : Underway o zFilename zJournal f content ready synced current p d)
    (hplain : ReadsPlainly o p d) (hbegun : p.eState ≠ .reader)
    (hlocked : p.eState ≠ .writerLocked) :
    ∃ j last, LiveJournal o f j last synced current p d := by
  have hreads : ∀ {j}, JournalFile f j p.toPager d → ¬ EndsLikeMaster (d.data j) ∧
      StopsAt o (d.data j) (some p.journalHdr) p.journalOff.toNat := by
    intro j hfile
    refine hplain j ?_
    rw [← hfile.filename]
    exact hfile.named.named
  cases h.stage with
  | idle hstate =>
      rcases hstate with hreader | ⟨hstate, -⟩
      · exact absurd hreader hbegun
      · exact absurd hstate hlocked
  | opening j hstate => exact absurd hstate hlocked
  | writing j last next hfile hholds hwrites hlength =>
      have hsector := o.le_sectorSize
      exact ⟨j, last, hholds.live hfile hwrites (by omega) (.of_length_lt _ (by omega))
        (hreads hfile).1⟩
  | torn j last next hfile hholds hwrites hlength =>
      obtain ⟨hnone, hstop⟩ := hreads hfile
      have hoff : p.journalOff.toNat = next := by
        rw [show p.journalOff = _ from hholds.journalOff]
        exact Int.toNat_natCast next
      rw [hoff] at hstop
      exact ⟨j, last, hholds.live hfile hwrites hlength hstop hnone⟩
  | closed j last hclosed hstate =>
      have hsector := o.le_sectorSize
      have hlength := hclosed.length_eq
      have hhdr : p.journalHdr = (last : Nat) := hclosed.journalHdr
      obtain ⟨hdbmod, herror⟩ := PagerState.rank_of_closed hstate
      refine ⟨j, last, hclosed.file, hclosed.segments, .stop (.of_length_lt _ (by omega)), ?_,
        .of_length_lt _ (by omega), fun hread => hclosed.ne_nil hread.1,
        ⟨fun _ => hclosed.ne_nil, fun _ => Or.inl hdbmod⟩, (hreads hclosed.file).1,
        lt_of_lt_of_le (by decide) hdbmod, herror⟩
      rw [hhdr]

end Live

/-! ## The rollback -/

/-- The database and the pager are as they were before the transaction, and every page that is left
in the cache is as a reader finds it in the original. -/
structure RolledBack (o : Original) (zJournal : CString) (f : Nat) (p : Writer) (d : Disk) :
    Prop where
  data : d.data f = o.content
  gone : d.dir zJournal = none
  eState : p.eState = .reader
  dbSize : p.dbSize = o.nPage
  pDirty : p.pDirty = []
  page : ∀ k pData, p.pPCache.page k = some pData → o.pages k = some pData

/-- How `sqlite3PagerRollback` ends: with an error the database is left to be recovered. -/
structure RollbackEnds (view : σ → Disk) (o : Original) (zFilename zJournal : CString) (f : Nat)
    (p : Writer) (ret : WriterRet σ) : Prop where
  survives : Survives o zFilename zJournal f (view ret.world.os)
  rc_eq : ret.rc = .ok ∨ ret.rc.IsIoerr ∨ p.eState = .error
  rolledBack : ret.rc = .ok → RolledBack o zJournal f ret.writer (view ret.world.os)

theorem RollbackEnds.writerError {p : Writer} {ret : WriterRet σ}
    (h : RollbackEnds view o zFilename zJournal f p ret) :
    RollbackEnds view o zFilename zJournal f p (writerError ret) := by
  refine ⟨h.survives, h.rc_eq, fun hok => ?_⟩
  have hrc : ret.rc = .ok := hok
  rw [writerError_eq (by rw [hrc]; decide) (by rw [hrc]; decide)]
  exact h.rolledBack hrc

/-- A reader finds the original's pages, and blank ones behind them. -/
theorem Original.pages_of_le (o : Original) {k : Nat} (hk : 1 ≤ k) (hle : k ≤ o.nPage) :
    o.pages k = some (o.page k) :=
  congrArg some (paddedBlock_of_le 0 hk hle (le_of_eq o.length_eq.symm))

theorem Original.pages_of_lt (o : Original) {k : Nat} (hlt : o.nPage < k) :
    o.pages k = some (List.replicate o.pageSize 0) := by
  have hbehind : o.content.length ≤ (k - 1) * o.pageSize := by
    rw [o.length_eq]
    exact Nat.mul_le_mul_right o.pageSize (Nat.le_sub_one_of_lt hlt)
  rw [Original.pages, paddedBlock, ByteStore.padded_of_length_le hbehind]

/-- The truncation of a cache to the size of the original leaves the original's pages, if the pages
in front are the original's. Only a page 1 in use is kept behind the end, and that one is blank. -/
theorem PCache.page_of_truncate {cache : PCache} {k : Nat} {pData : List UInt8}
    (h : (cache.truncate o.nPage).page k = some pData)
    (hslots : ∀ l data, cache.page l = some data → data.length = o.pageSize ∧ 1 ≤ l)
    (hpage : ∀ l data, 1 ≤ l → l ≤ o.nPage → cache.page l = some data → data = o.page l) :
    o.pages k = some pData := by
  unfold PCache.truncate at h
  split_ifs at h with hzero
  · have hkept : (if k = 1 then (cache.page 1).map fun data => List.replicate data.length 0
        else none) = some pData := h
    split_ifs at hkept with hk
    obtain ⟨data, hcached, rfl⟩ := Option.map_eq_some_iff.mp hkept
    rw [hk, o.pages_of_lt (by omega), (hslots 1 data hcached).1]
  · have hkept : (if k ≤ o.nPage then cache.page k else none) = some pData := h
    split_ifs at hkept with hle
    have hk := (hslots k pData hkept).2
    rw [o.pages_of_le hk hle, hpage k pData hk hle hkept]

/-- The end of a transaction, with all pages made clean. -/
theorem writerEndTransaction_ends (s : Surroundings env view calls o) {p : Writer} {w : World σ}
    {j : Nat} (hsettled : Settled o zFilename zJournal p.toPager)
    (hdb : NamedFile (view w.os) p.fd f)
    (hjrnl : IsOpen p.jfd → JournalFile f j p.toPager (view w.os)) (hne : f ≠ j)
    (hactive : PagerState.writerLocked.rank ≤ p.eState.rank) (hasMaster bCommit : Bool)
    (hgrown : bCommit = true → p.dbFileSize ≤ p.dbSize) :
    ∃ ret, writerEndTransaction env p hasMaster bCommit w = .ok ret ∧
      EndsJournal p.zJournal j (view w.os) (view ret.world.os) ∧ ret.writer.eState = .reader ∧
      ret.writer.dbSize = p.dbSize ∧ ret.writer.pDirty = [] ∧
      (∃ page1Ref, ret.writer.pPCache =
        PCache.truncate { p.pPCache with page1Ref := page1Ref } p.dbSize) ∧
      Closed ret.rc ret.writer.jfd ∧
      (IsOpen p.jfd → Removed p.zJournal j ret.rc (view w.os) (view ret.world.os)) := by
  obtain ⟨needSync, page1Ref, hclean⟩ := sqlite3PcacheCleanAll_eq p
  let cleaned : Pager := { p.toPager with pPCache := { p.pPCache with page1Ref := page1Ref } }
  have hpage := o.le_pageSize
  have hfuel := s.fuel
  have hnot : ¬ (p.eState.rank < PagerState.writerLocked.rank ∧ p.eLock < .reserved) :=
    fun hidle => absurd hidle.1 (Nat.not_lt.mpr hactive)
  have hopen : IsOpen cleaned.jfd → JournalOpen view cleaned j w :=
    fun hisOpen => ⟨(hjrnl hisOpen).named, (hjrnl hisOpen).filename⟩
  obtain ⟨ended, hend, hends, hended, hremoved⟩ := pagerEndTransaction_journal s.laws
    (show OpenOn (view w.os) cleaned.fd f from hdb.openOn) hopen hne (by omega) hsettled.sjfd hnot
    hasMaster bCommit hgrown
  obtain ⟨hclosed, hgone⟩ := hremoved hsettled.deletes
  have hrun : writerEndTransaction env p hasMaster bCommit w =
      .ok ⟨ended.rc, p.ended ended.pPager, ended.world⟩ := by
    rw [writerEndTransaction, if_neg hnot, hclean]
    show (pagerEndTransaction env cleaned hasMaster bCommit w >>= _) = _
    rw [hend]
    rfl
  refine ⟨_, hrun, hends, ?_, ?_, ?_, ?_, hclosed, hgone⟩
  · show ended.pPager.eState = .reader
    rw [hended]
  · show ended.pPager.dbSize = p.dbSize
    rw [hended]
  · exact p.ended_pDirty ended.pPager
  · refine ⟨page1Ref, ?_⟩
    show ended.pPager.pPCache = cleaned.pPCache.truncate cleaned.dbSize
    rw [hended]

/-- A database that is restored survives, whether or not its journal is gone. -/
theorem Survives.of_restored {j last : Nat} {synced : List (List Nat)} {d d' : Disk}
    (hsegments : Segments o (d.data j) 0 synced last) (hends : EndsJournal zJournal j d d')
    (hdb : d'.dir zFilename = some f) (hdata : d'.data f = o.content)
    (hjrnl : d.dir zJournal = none ∨ d.dir zJournal = some j ∧ f ≠ j ∧ d'.data j = d.data j ∧
      StopsAt o (d.data j) none last) :
    Survives o zFilename zJournal f d' := by
  rcases hends.dir zJournal with hsame | ⟨-, hnone⟩
  swap
  · exact fun _ => .original hdb hnone hdata
  rcases hjrnl with hnone | ⟨hj, hne, hjournal, hstops⟩
  · exact fun _ => .original hdb (hsame.trans hnone) hdata
  · rw [← hjournal] at hsegments hstops
    exact .of_segments hdb (hsame.trans hj) hne hsegments hstops
      (by rw [hdata]; exact .start o.length_eq _) fun _ => hdata

section Rollback

variable {content : Nat → Option (List UInt8)} {ready : Bool} {synced : List (List Nat)}
  {current : List Nat} {p : Writer} {w : World σ}

/-- A transaction that has changed nothing is only ended. -/
theorem writerEndTransaction_locked (s : Surroundings env view calls o)
    (h : Underway o zFilename zJournal f content ready synced current p (view w.os))
    (hlocked : p.eState = .writerLocked) :
    ∃ ret, writerEndTransaction env p false false w = .ok ret ∧
      RollbackEnds view o zFilename zJournal f p ret := by
  obtain ⟨rfl, rfl, hdbSize, -, hstage⟩ := h.stage.unchanged (by rw [hlocked])
  -- where there is no journal, any other file stands for it
  obtain ⟨j, hne, hjrnl, hold⟩ : ∃ j, f ≠ j ∧
      (IsOpen p.jfd → JournalFile f j p.toPager (view w.os)) ∧
      ((view w.os).dir p.zJournal = none ∧ ¬ IsOpen p.jfd ∨
        JournalFile f j p.toPager (view w.os) ∧ ((view w.os).data j).length < o.sectorSize) := by
    rcases hstage with ⟨hnone, hclosed⟩ | ⟨-, j, hfile, hlength⟩
    · exact ⟨f + 1, by omega, fun hopen => absurd hopen hclosed, Or.inl ⟨hnone, hclosed⟩⟩
    · exact ⟨j, hfile.apart, fun _ => hfile, Or.inr ⟨hfile, hlength⟩⟩
  obtain ⟨ret, hret, hends, heState, hsize, hdirty, ⟨page1Ref, hpages⟩, hclosed, hremoved⟩ :=
    writerEndTransaction_ends s h.settled h.db hjrnl hne (by rw [hlocked]) false false (by simp)
  have hzJournal := h.settled.zJournal
  rw [hzJournal] at hends hremoved hold
  have hdata : (view ret.world.os).data f = o.content := (hends.data f hne).trans (h.whole rfl)
  have hdir : (view ret.world.os).dir zFilename = some f := by
    rw [hends.dir_eq h.settled.apart, ← h.settled.filename]
    exact h.db.named
  have hsurvives : Survives o zFilename zJournal f (view ret.world.os) := by
    rcases hold with ⟨hnone, -⟩ | ⟨hfile, hlength⟩
    · exact .of_restored (.nil 0) hends hdir hdata (Or.inl hnone)
    · have hj : (view w.os).dir zJournal = some j := by
        rw [← hzJournal, ← hfile.filename]
        exact hfile.named.named
      exact .of_restored (.nil 0) hends hdir hdata
        (Or.inr ⟨hj, hne, (hremoved hfile.isOpen).data, .of_length_lt none (by omega)⟩)
  refine ⟨ret, hret, hsurvives, hclosed.rc_eq.imp_right Or.inl, fun hok =>
    ⟨hdata, ?_, heState, hsize.trans hdbSize, hdirty, ?_⟩⟩
  · rcases hold with ⟨hnone, -⟩ | ⟨hfile, -⟩
    · rcases hends.dir zJournal with hsame | ⟨-, hgone⟩
      · exact hsame.trans hnone
      · exact hgone
    · exact (hremoved hfile.isOpen).gone hok
  · intro k pData hcached
    rw [hpages, hdbSize] at hcached
    refine PCache.page_of_truncate hcached (fun l data hl => ?_) fun l data _ hle hl =>
      h.cache.original l data hl hle List.not_mem_nil
    obtain ⟨hlength, hl, -⟩ := h.cache.page l data hl
    exact ⟨hlength, hl⟩

/-- A live journal is played back. -/
theorem pagerPlayback_live (s : Surroundings env view calls o)
    (h : Underway o zFilename zJournal f content ready synced current p (view w.os))
    {j last : Nat} (hlive : LiveJournal o f j last synced current p (view w.os)) {page1Ref : Bool}
    {cleaned : Pager}
    (hclean : cleaned = { p.toPager with
      pPCache := { p.pPCache with page1Ref := page1Ref } }) :
    ∃ ret, pagerPlayback env cleaned false w = .ok ret ∧
      PlaybackDone view o f j ((view w.os).data j) (· ∈ synced.flatten)
        (· ∈ synced.flatten ++ current) synced.flatten (synced.flatten ++ current)
        (synced = [] ∧ StopsAt o ((view w.os).data j) (some p.journalHdr) last) cleaned ret := by
  subst hclean
  have hsettled := h.settled
  refine pagerPlayback_restores s.laws s.fuel hlive.segments hlive.tail hlive.last_le
    hlive.noMaster ⟨h.db, hlive.file.named, hlive.file.apart, hsettled.isOpen, rfl,
      hsettled.sectorSize, hsettled.noWal⟩ hlive.file.filename hlive.file.isOpen hsettled.sjfd
    (fun hidle => ?_) (Or.inl hsettled.pageSize) h.restored (fun _ hk => hk)
    (Or.inr hsettled.noSync) ?_ (fun hnil _ => h.whole hnil) ?_ ?_
  · have hactive := hlive.active
    exact absurd hidle.1 (Nat.not_lt.mpr (le_of_lt hactive))
  · by_cases hnil : synced = []
    · refine Or.inr ⟨fun k hk => ?_, by rw [h.whole hnil]⟩
      rw [hnil] at hk
      cases hk
    · exact Or.inl (hlive.writes.mpr hnil)
  · exact fun k _ hle hnot pData hcached => h.cache.original k pData hcached hle hnot
  · intro hreset
    rcases hreset with hhot | hsize
    · cases hhot
    · exact absurd hsettled.pageSize hsize

/-- A playback leaves the files under their names. -/
theorem LiveJournal.named {j last : Nat} (h : LiveJournal o f j last synced current p (view w.os))
    (hsettled : Settled o zFilename zJournal p.toPager) {cleaned before : Pager}
    (hfd : cleaned.fd = p.fd) (hjfd : cleaned.jfd = p.jfd)
    (hreplays : Replays o.pageSize cleaned before) {journal : List UInt8} {w' : World σ}
    (hat : PlaybackAt view o f j journal before w') :
    (view w'.os).dir zFilename = some f ∧ (view w'.os).dir zJournal = some j := by
  have hdb := hat.db.named
  have hjrnl := hat.jrnl.named
  rw [hreplays.fd, hfd, hsettled.filename] at hdb
  rw [hreplays.jfd, hjfd, h.file.filename, hsettled.zJournal] at hjrnl
  exact ⟨hdb, hjrnl⟩

/-- A transaction that has opened its journal is undone, or a write or the removal of the journal
fails. -/
theorem sqlite3PagerRollback_live (s : Surroundings env view calls o)
    (h : Underway o zFilename zJournal f content ready synced current p (view w.os))
    {j last : Nat} (hlive : LiveJournal o f j last synced current p (view w.os)) :
    ∃ ret, sqlite3PagerRollback env p w = .ok ret ∧
      RollbackEnds view o zFilename zJournal f p ret := by
  obtain ⟨page1Ref, hclean⟩ := sqlite3PcacheCleanAll_toPager p
  obtain ⟨ret, hret, hdone⟩ := pagerPlayback_live s h hlive hclean
  have hzJournal : (sqlite3PcacheCleanAll p).toPager.zJournal = zJournal := by
    rw [hclean]
    exact h.settled.zJournal
  have hrank : ¬ p.eState.rank ≤ PagerState.reader.rank :=
    Nat.not_le.mpr (lt_trans (by decide) hlive.active)
  have hlocked : p.eState ≠ .writerLocked := by
    intro heState
    have hactive := hlive.active
    rw [heState] at hactive
    exact lt_irrefl _ hactive
  have hrun : sqlite3PagerRollback env p w = .ok (writerError ⟨ret.rc,
      if ret.pPager.eState = .reader then p.ended ret.pPager else p.put ret.pPager,
      ret.world⟩) := by
    rw [sqlite3PagerRollback, if_neg hlive.not_error, if_neg hrank, if_neg hlocked, hret]
    rfl
  refine ⟨_, hrun, RollbackEnds.writerError ?_⟩
  cases hdone with
  | restored before w' hexit hreplays hat hdata hcache hdbSize hends hended hremoved =>
      obtain ⟨hclosed, hremoved⟩ := hremoved (by rw [hclean]; exact h.settled.deletes)
      rw [hzJournal] at hends hremoved
      obtain ⟨hdb, hjrnl⟩ :=
        hlive.named h.settled (by rw [hclean]) (by rw [hclean]) hreplays hat
      have heState : ret.pPager.eState = .reader := by
        rw [hended.ended]
      have hdata' : (view ret.world.os).data f = o.content :=
        (hends.data f hlive.file.apart).trans hdata
      have hdir : (view ret.world.os).dir zFilename = some f :=
        (hends.dir_eq h.settled.apart).trans hdb
      have hsegments := hlive.segments
      have hstops := hlive.stops
      rw [← hat.journal_eq] at hsegments hstops
      rw [if_pos heState]
      -- should the journal still be there, it restores what is restored already
      refine ⟨.of_restored hsegments hends hdir hdata'
        (Or.inr ⟨hjrnl, hlive.file.apart, hremoved.data, hstops⟩), hclosed.rc_eq.imp_right Or.inl,
        fun hok => ⟨hdata', hremoved.gone hok, heState, ?_, p.ended_pDirty ret.pPager, ?_⟩⟩
      · show ret.pPager.dbSize = o.nPage
        rw [hended.ended]
        exact hdbSize.resolve_right hlive.read
      · intro k pData hcached
        have htruncated : (before.pPCache.truncate before.dbSize).page k = some pData := by
          rw [← hcached]
          show _ = ret.pPager.pPCache.page k
          rw [hended.ended]
        rw [hdbSize.resolve_right hlive.read] at htruncated
        refine PCache.page_of_truncate htruncated (fun l data hl => ?_) fun l data hl hle hdata =>
          hcache l hl hle (fun htodo => htodo.2 htodo.1) data hdata
        obtain ⟨old, hold, hlength⟩ := hreplays.slots l data hl
        rw [hclean] at hold
        obtain ⟨hlength', hl', -⟩ := h.cache.page l old hold
        exact ⟨hlength hlength', hl'⟩
  | failed rc before hexit hrc hioerr hread hdo hreplays hat hrestored hpager =>
      -- only a playback into the database file can fail, and then the journal had been synced
      have hne : synced ≠ [] := by
        refine hlive.writes.mp ?_
        unfold PlaybackWrites at hdo
        rw [hreplays.frame, hclean] at hdo
        exact hdo
      obtain ⟨hdb, hjrnl⟩ :=
        hlive.named h.settled (by rw [hclean]) (by rw [hclean]) hreplays hat
      have hsegments := hlive.segments
      have hstops := hlive.stops
      rw [← hat.journal_eq] at hsegments hstops
      have hioerr' : ret.rc.IsIoerr := by
        rw [hrc]
        exact hioerr
      refine ⟨.of_segments hdb hjrnl hlive.file.apart hsegments hstops
        (hrestored.mono fun k hk => hk.elim id id) (fun hnil => absurd hnil hne),
        Or.inr (Or.inl hioerr'), fun hok => ?_⟩
      have hok' : ret.rc = .ok := hok
      rw [hok'] at hioerr'
      exact absurd hioerr' (by decide)

/-- Where no transaction has begun, there is nothing to undo. -/
theorem Underway.rolledBack
    (h : Underway o zFilename zJournal f content ready synced current p (view w.os))
    (hidle : p.eState = .reader) : RolledBack o zJournal f p (view w.os) := by
  obtain ⟨rfl, rfl, hdbSize, hdirty, hstage⟩ := h.stage.unchanged (by rw [hidle]; decide)
  refine ⟨h.whole rfl, ?_, hidle, hdbSize, hdirty, fun k pData hcached => ?_⟩
  · rcases hstage with ⟨hnone, -⟩ | ⟨hlocked, -⟩
    · rw [← h.settled.zJournal]
      exact hnone
    · cases hidle.symm.trans hlocked
  · by_cases hle : k ≤ o.nPage
    · rw [o.pages_of_le (h.cache.page k pData hcached).2.1 hle,
        h.cache.original k pData hcached hle List.not_mem_nil]
    · have hlt := Nat.lt_of_not_le hle
      rw [o.pages_of_lt hlt, h.cache.behind k pData hcached (by rw [hdbSize]; exact hlt)]

/-- In whatever state a transaction is, it can be undone. -/
theorem Underway.rollback (s : Surroundings env view calls o)
    (h : Underway o zFilename zJournal f content ready synced current p (view w.os))
    (hplain : ReadsPlainly o p (view w.os)) :
    ∃ ret, sqlite3PagerRollback env p w = .ok ret ∧
      RollbackEnds view o zFilename zJournal f p ret := by
  by_cases hidle : p.eState = .reader
  · refine ⟨⟨.ok, p, w⟩, ?_, h.survives, Or.inl rfl, fun _ => h.rolledBack hidle⟩
    rw [sqlite3PagerRollback, if_neg (by rw [hidle]; decide), if_pos (by rw [hidle])]
  by_cases hlocked : p.eState = .writerLocked
  · obtain ⟨ret, hret, hends⟩ := writerEndTransaction_locked s h hlocked
    refine ⟨writerError ret, ?_, hends.writerError⟩
    rw [sqlite3PagerRollback, if_neg (by rw [hlocked]; decide), if_neg (by rw [hlocked]; decide),
      if_pos hlocked, hret]
    rfl
  obtain ⟨j, last, hlive⟩ := h.liveJournal hplain hidle hlocked
  exact sqlite3PagerRollback_live s h hlive

/-- A pager that has failed leaves its transaction to be recovered. -/
theorem Course.rollback (s : Surroundings env view calls o) {rc : ResultCode}
    (h : Course o zFilename zJournal f content rc p (view w.os))
    (hplain : ReadsPlainly o p (view w.os)) :
    ∃ ret, sqlite3PagerRollback env p w = .ok ret ∧
      RollbackEnds view o zFilename zJournal f p ret := by
  cases h with
  | goesOn _ _ _ hunder => exact hunder.rollback s hplain
  | undoable _ _ _ _ hunder => exact hunder.rollback s hplain
  | broken _ herror herrCode hsurvives =>
      refine ⟨⟨p.errCode, p, w⟩, ?_, hsurvives, Or.inr (Or.inr herror), fun hok => ?_⟩
      · rw [sqlite3PagerRollback, if_pos herror]
      · exact absurd hok herrCode

end Rollback

/-- In every state of a run of allowed calls of a client, the transaction can be undone: the
database is again as it was, or an error is returned and a crash still leaves a disk from which it
can be recovered. -/
theorem rollback_undoes (s : Surroundings env view calls o) {p : Writer} {w : World σ}
    (hstart : ReadsDatabase o zFilename zJournal f p (view w.os)) {run : List PageCall}
    (hallowed : Run.EachStep (PageCall.step env calls)
      (fun c call => call.Allowed o.pageSize c) ⟨p, w, .ok, false, [], o.pages⟩ run) :
    Run.Always (PageCall.step env calls)
      (fun c => ReadsPlainly o c.writer (view c.world.os) →
        ∃ ret, sqlite3PagerRollback env c.writer c.world = .ok ret ∧
          RollbackEnds view o zFilename zJournal f c.writer ret)
      ⟨p, w, .ok, false, [], o.pages⟩ run :=
  (pageCalls_hold s hstart hallowed).mono fun _ hc hplain => hc.course.rollback s hplain

theorem rollback_undoes_change :
    Run.Always (PageCall.step crowdedFlash .crowded)
      (fun c => ReadsPlainly .sectorPage c.writer (Flash.toDisk c.world.os) →
        ∃ ret, sqlite3PagerRollback crowdedFlash c.writer c.world = .ok ret ∧
          RollbackEnds Flash.toDisk .sectorPage (ascii "db") (ascii "db-journal") 0 c.writer ret)
      .sectorPage PageCall.change :=
  rollback_undoes sectorPage_surroundings sectorPage_readsDatabase change_allowed.1

end VxSqlite
