import VxSqlite.Pager.Transaction

/-!
# Syncing the journal and writing pages

Before pages of the original are overwritten in the database file, the header of the journal is
made to count their records. `syncJournal` does this or fails without effect, and then the pages
of a list may be written in any order: whatever write fails, only pages that the journal holds
differ from the original.
-/

namespace VxSqlite

variable {σ : Type} {env : Env σ} {view : σ → Disk} {calls : WriterCallbacks σ} {o : Original}
  {zFilename zJournal : CString} {f : Nat} {content : Nat → Option (List UInt8)}

/-! ## The exclusive lock -/

/-- A lock is given or refused. -/
theorem pagerLockDb_rc (laws : LockLaws env.os view) {pPager : Pager} {f : Nat} {w : World σ}
    (hopen : OpenOn (view w.os) pPager.fd f) (eLock : LockLevel) :
    (pagerLockDb env pPager eLock w).1 = .ok ∨ (pagerLockDb env pPager eLock w).1 = .busy := by
  have hlocked : (if pPager.noLock then (.ok, w) else verixLock env pPager.fd w).1 = .ok ∨
      (if pPager.noLock then (.ok, w) else verixLock env pPager.fd w).1 = .busy := by
    split_ifs
    · exact Or.inl rfl
    · exact (verixLock_undisturbed laws hopen).1
  unfold pagerLockDb
  generalize (if pPager.noLock then (ResultCode.ok, w) else verixLock env pPager.fd w) = locked
    at hlocked ⊢
  dsimp only
  split_ifs
  · exact hlocked
  · exact hlocked
  · exact Or.inl rfl

/-- Waiting for a lock ends, and moves nothing but the lock. The induction is on the calls of the
busy handler that are left. -/
theorem waitOnLockLoop_ends (s : Surroundings env view calls o) (eLock : LockLevel) {fuel : Nat}
    {nBusy limit : Nat} {pPager : Pager} {w : World σ} (hopen : OpenOn (view w.os) pPager.fd f)
    (hle : nBusy ≤ limit) (hlt : limit < nBusy + fuel)
    (hlimit : ∀ w, (calls.xBusyHandler limit w).1 = false) :
    ∃ ret, waitOnLockLoop env calls.toPagerCallbacks pPager eLock fuel nBusy w = .ok ret ∧
      (ret.rc = .ok ∨ ret.rc = .busy) ∧ Undisturbed (view w.os) (view ret.world.os) ∧
      ret.pPager = { pPager with eLock := ret.pPager.eLock } := by
  induction fuel generalizing nBusy pPager w with
  | zero => omega
  | succ fuel ih =>
      obtain ⟨hsame, hpager, -⟩ := pagerLockDb_undisturbed s.laws.lock hopen eLock
      have hrc := pagerLockDb_rc s.laws.lock hopen eLock
      rw [waitOnLockLoop]
      dsimp only
      generalize pagerLockDb env pPager eLock w = locked at hsame hpager hrc ⊢
      obtain ⟨rc, locked, w₁⟩ := locked
      dsimp only at hsame hpager hrc ⊢
      split_ifs with hbusy hagain
      · have hsame₂ := s.handler nBusy w₁
        have hfd : locked.fd = pPager.fd := (congrArg Pager.fd hpager).trans rfl
        have hne : nBusy ≠ limit := by
          intro heq
          rw [heq, hlimit] at hagain
          cases hagain
        have hopen' : OpenOn (view (calls.xBusyHandler nBusy w₁).2.os) locked.fd f := by
          rw [hfd]
          exact hsame₂.openOn _ _ (hsame.openOn _ _ hopen)
        obtain ⟨ret, hret, hends, hsame₃, hpager'⟩ := ih hopen'
          (show nBusy + 1 ≤ limit from by omega) (by omega)
        refine ⟨ret, hret, hends, (hsame.trans hsame₂).trans hsame₃, ?_⟩
        rw [hpager] at hpager'
        exact hpager'.trans rfl
      · exact ⟨_, rfl, Or.inr rfl, hsame.trans (s.handler nBusy w₁), hpager⟩
      · exact ⟨_, rfl, hrc, hsame, hpager⟩

/-- The exclusive lock is given, or the pager goes without it. -/
theorem sqlite3PagerExclusiveLock_ends (s : Surroundings env view calls o) {p : Writer}
    {w : World σ} (hopen : OpenOn (view w.os) p.fd f) (hnoWal : ¬ PagerUseWal p.toPager) :
    ∃ ret, sqlite3PagerExclusiveLock env calls p w = .ok ret ∧
      (ret.rc = .ok ∨ ret.rc = .busy) ∧ Undisturbed (view w.os) (view ret.world.os) ∧
      ret.writer = { p with eLock := ret.writer.eLock } := by
  obtain ⟨limit, hlt, hlimit⟩ := s.givesUp
  obtain ⟨ret, hret, hends, hsame, hpager⟩ := waitOnLockLoop_ends s .exclusive hopen
    (Nat.zero_le limit) (by rwa [Nat.zero_add]) hlimit
  refine ⟨⟨ret.rc, p.put ret.pPager, ret.world⟩, ?_, hends, hsame, ?_⟩
  · rw [sqlite3PagerExclusiveLock, if_neg hnoWal, pagerWaitOnLock, hret]
    rfl
  · show p.put ret.pPager = _
    rw [hpager]
    rfl

/-! ## Marking the journal -/

/-- Counting the records in the last header makes its segment part of the journal. -/
theorem JournalHolds.mark {journal : List UInt8} {synced : List (List Nat)} {last next : Nat}
    {current : List Nat} {pPager : Pager}
    (h : JournalHolds o journal synced last current next pPager) :
    Segments o (overlay journal (o.hdrOffset last) (countedStart current.length)) 0
      (synced ++ [current]) next := by
  have hle := h.header.bytes_le
  have hbehind := h.records.off_le
  have hsector := o.le_sectorSize
  have hstart := o.le_hdrOffset last
  have hcells : ∀ i, i < o.hdrOffset last ∨ o.hdrOffset last + 12 ≤ i →
      (overlay journal (o.hdrOffset last) (countedStart current.length))[i]? = journal[i]? :=
    fun i hi => getElem?_overlay_outside _ (by omega) (by rw [length_countedStart]; omega)
  have hlength : journal.length =
      (overlay journal (o.hdrOffset last) (countedStart current.length)).length :=
    (length_overlay_inside (by rw [length_countedStart]; omega)).symm
  refine (h.segments.congr ?_ (le_of_eq hlength)).snoc (h.header.restart rfl)
    (h.records.congr ?_) (by rw [← hlength]; exact h.next_le)
  · intro i _ hhi
    exact hcells i (by omega)
  · intro i hlo _
    exact hcells i (by omega)

/-- Behind the end of the journal there is no header to hide. -/
theorem hideNextHeader_none (laws : FileLaws env.os view) {p : Writer} {j next : Nat} {w : World σ}
    (hopen : OpenOn (view w.os) p.jfd j) (hoff : p.journalOff = (next : Nat))
    (hsector : p.sectorSize = o.sectorSize) (hlength : ((view w.os).data j).length = next) :
    ∃ w', hideNextHeader env p w = .ok (.ioerrShortRead, w') ∧
      Undisturbed (view w.os) (view w'.os) := by
  have hsize := (view w.os).size_lt j
  have hle := o.le_hdrOffset next
  have hlt := o.hdrOffset_lt next
  have hsector_le := o.sectorSize_le
  obtain ⟨w', hread, hsame⟩ := sqlite3OsRead_at laws hopen (Nat.succ_pos 7)
    (o.journalHdrOffset_eq hoff hsector) (by omega)
  rw [if_neg (by omega)] at hread
  refine ⟨w', ?_, hsame⟩
  have hnot : ¬ (ResultCode.ioerrShortRead = .ok ∧
      ByteStore.padded 0 ((view w.os).data j) (o.hdrOffset next) 8 = aJournalMagic) :=
    fun h => by cases h.1
  simp only [hideNextHeader, hread]
  rw [if_neg hnot]

/-- The header is marked, or the journal stays as it is. -/
theorem markJournalHdr_ends (s : Surroundings env view calls o) (iDc : Nat) {p : Writer}
    {j last next : Nat} {synced : List (List Nat)} {current : List Nat} {w : World σ}
    (hopen : OpenOn (view w.os) p.jfd j)
    (hholds : JournalHolds o ((view w.os).data j) synced last current next p.toPager)
    (hsector : p.sectorSize = o.sectorSize) (hlength : ((view w.os).data j).length = next) :
    ∃ rc w', markJournalHdr env iDc p w = .ok (rc, w') ∧
      (rc = .ok ∧ (view w'.os).data j =
          overlay ((view w.os).data j) (o.hdrOffset last) (countedStart current.length) ∨
        rc = .ioerrWrite ∧ (view w'.os).data j = (view w.os).data j) ∧
      Touches j (view w.os) (view w'.os) := by
  obtain ⟨w₁, hhidden, hsame₁⟩ := hideNextHeader_none s.laws.file hopen hholds.journalOff hsector
    hlength
  obtain ⟨w₂, hsynced, hview₂⟩ : ∃ w₂, (if p.fullSync = true ∧ iDc &&& iocapSequential = 0 then
      verixSync p.jfd w₁ else (.ok, w₁)) = (.ok, w₂) ∧ view w₂.os = view w₁.os := by
    split_ifs
    · exact ⟨_, rfl, rfl⟩
    · exact ⟨_, rfl, rfl⟩
  have hsame₂ : Undisturbed (view w.os) (view w₂.os) := hsame₁.trans (.of_eq hview₂)
  have hsize := (view w.os).size_lt j
  have hle := hholds.header.bytes_le
  have hpage := o.le_pageSize
  have hfuel := s.fuel
  obtain ⟨rc, w₃, hwrite, hends, htouch⟩ := verixWrite_short s.laws.file s.shortWrites
    (hsame₂.openOn _ _ hopen) (show countedStart current.length ≠ [] from List.cons_ne_nil _ _)
    (le_of_eq (length_countedStart _)) hholds.journalHdr (by omega)
    (by rw [length_countedStart]; omega)
  rw [hsame₂.data] at hends
  refine ⟨rc, w₃, ?_, ?_, (hsame₂.touches j).trans htouch⟩
  · simp only [markJournalHdr, hhidden, ok_bind, ne_eq, reduceCtorEq, not_false_eq_true,
      not_true_eq_false, and_false, if_false, hsynced]
    rw [hholds.nRec]
    exact hwrite
  · rcases hends with ⟨hrc, -, hdata⟩ | hfailed
    · exact Or.inl ⟨hrc, hdata⟩
    · exact Or.inr hfailed

/-! ## Syncing the journal -/

/-- What is appended behind the segments of a journal leaves them as they are. -/
theorem Segments.append {journal : List UInt8} {off last : Nat} {segments : List (List Nat)}
    (h : Segments o journal off segments last) (hle : last ≤ journal.length) (text : List UInt8) :
    Segments o (journal ++ text) off segments last := by
  refine h.congr (fun i _ hi => List.getElem?_append_left (by omega)) ?_
  rw [List.length_append]
  exact Nat.le_add_right _ _

/-- A header behind the segments of a journal begins the next one. -/
theorem JournalHolds.begun {journal : List UInt8} {synced : List (List Nat)} {pPager : Pager}
    {cksumInit : UInt32} (hsegments : Segments o journal 0 synced journal.length)
    (haligned : o.hdrOffset journal.length = journal.length)
    (hinit : pPager.cksumInit = cksumInit) (hhdr : pPager.journalHdr = (journal.length : Nat))
    (hoff : pPager.journalOff = (journal.length + o.sectorSize : Nat)) (hnRec : pPager.nRec = 0) :
    JournalHolds o (journal ++ o.hdrSector cksumInit) synced journal.length []
      (journal.length + o.sectorSize) pPager where
  segments := hsegments.append (le_refl _) _
  header := by
    rw [haligned, hinit]
    exact .append journal cksumInit
  records := by
    rw [haligned]
    exact .nil _
  journalHdr := by rw [haligned, hhdr]
  journalOff := hoff
  nRec := hnRec
  next_le := by rw [List.length_append, o.length_hdrSector]

/-- How the syncing of the journal ends: the header is not marked, or it is marked but the next one
cannot be written, or there is no next one, or it is written. -/
inductive JournalSynced (o : Original) (journal : List UInt8) (synced : List (List Nat))
    (current : List Nat) (next : Nat) (newHdr : Bool) (p : Writer) (ret : WriterRet σ)
    (journal' : List UInt8) : Prop where
  | unmarked : ret.rc = .ioerrWrite → journal' = journal → ret.writer = p →
      JournalSynced o journal synced current next newHdr p ret journal'
  | lost : ret.rc = .ioerrWrite → newHdr = true → Segments o journal' 0 (synced ++ [current]) next →
      StopsAt o journal' none next → ret.writer = { p with
        journalHdr := ret.writer.journalHdr
        journalOff := ret.writer.journalOff
        nRec := ret.writer.nRec
        cksumInit := ret.writer.cksumInit } →
      JournalSynced o journal synced current next newHdr p ret journal'
  | closed : ret.rc = .ok → newHdr = false → Segments o journal' 0 (synced ++ [current]) next →
      journal'.length = next → ret.writer = { p with journalHdr := (next : Nat) } →
      JournalSynced o journal synced current next newHdr p ret journal'
  | begun : ret.rc = .ok → newHdr = true →
      JournalHolds o journal' (synced ++ [current]) next [] (next + o.sectorSize)
        ret.writer.toPager →
      journal'.length = next + o.sectorSize → ret.writer = { p with
        journalHdr := ret.writer.journalHdr
        journalOff := ret.writer.journalOff
        nRec := ret.writer.nRec
        cksumInit := ret.writer.cksumInit } →
      JournalSynced o journal synced current next newHdr p ret journal'

theorem syncJournalFile_ends (s : Surroundings env view calls o) {p : Writer}
    {j last next : Nat} {synced : List (List Nat)} {current : List Nat} {w : World σ}
    (hsettled : Settled o zFilename zJournal p.toPager) (hopen : OpenOn (view w.os) p.jfd j)
    (hholds : JournalHolds o ((view w.os).data j) synced last current next p.toPager)
    (hlength : ((view w.os).data j).length = next) (horig : p.dbOrigSize = o.nPage)
    (newHdr : Bool) :
    ∃ ret, syncJournalFile env calls p newHdr w = .ok ret ∧
      JournalSynced o ((view w.os).data j) synced current next newHdr p ret
        ((view ret.world.os).data j) ∧
      Touches j (view w.os) (view ret.world.os) := by
  have happend : Int.toNat 0 &&& iocapSafeAppend = 0 := by decide
  have hsequential : Int.toNat 0 &&& iocapSequential = 0 := by decide
  obtain ⟨w₀, hdevice, hview₀⟩ : ∃ w₀, verixDeviceCharacteristics env p.fd w = (0, w₀) ∧
      view w₀.os = view w.os := ⟨_, rfl, rfl⟩
  rw [← hview₀] at hopen hholds hlength ⊢
  obtain ⟨rc, w₁, hmark, hends, htouch⟩ := markJournalHdr_ends s (Int.toNat 0) hopen hholds
    hsettled.sectorSize hlength
  rcases hends with ⟨rfl, hdata⟩ | ⟨rfl, hdata⟩
  · have hle := hholds.header.bytes_le
    have hsegments := hholds.mark
    have hlength' : ((view w₁.os).data j).length = next := by
      rw [hdata]
      exact (length_overlay_inside (by rw [length_countedStart]; omega)).trans hlength
    rw [← hdata] at hsegments
    let marked : Writer := { p with journalHdr := p.journalOff }
    by_cases hnew : newHdr = true
    · subst hnew
      let counted : Pager := { marked.toPager with nRec := 0 }
      have hopen' : OpenOn (view w₁.os) counted.jfd j := htouch.openOn _ _ hopen
      obtain ⟨ret, hret, hwritten, htouch'⟩ := writeJournalHdr_append s.laws.file hopen'
        (show counted.journalOff = _ from by rw [hlength']; exact hholds.journalOff)
        hsettled.pageSize hsettled.sectorSize hsettled.noSync
        (by rw [show counted.journalMode = p.journalMode from rfl, hsettled.deletes.1]; decide)
        s.fuel (calls.randomness (marked.put counted))
      have hrun : syncJournalFile env calls p true w =
          .ok ⟨ret.rc, p.put ret.pPager, ret.world⟩ := by
        simp only [syncJournalFile, hdevice, happend, hsequential, if_true, hmark, ok_bind, ne_eq,
          not_true_eq_false, if_false, verixSync, and_self]
        show (writeJournalHdr env counted p.dbOrigSize (calls.randomness (marked.put counted)) w₁
          >>= _) = _
        rw [horig, hret]
        rfl
      refine ⟨_, hrun, ?_, htouch.trans htouch'⟩
      obtain ⟨rc, pPager, w₂⟩ := ret
      dsimp only at hwritten ⊢
      have horigin := hlength'
      subst horigin
      cases hwritten with
      | written hrc haligned hjournal hpager =>
          dsimp only at hrc hpager
          subst hpager
          refine .begun hrc rfl ?_ ?_ rfl
          · rw [hjournal]
            exact .begun hsegments haligned rfl rfl rfl rfl
          · rw [hjournal, List.length_append, o.length_hdrSector]
      | failed m hrc hm hwhere hjournal hpager =>
          dsimp only at hrc hpager
          refine .lost hrc rfl ?_ ?_ ?_
          · rw [hjournal]
            exact hsegments.append (le_refl _) _
          · refine .of_length_lt none ?_
            rw [hjournal, List.length_append, List.length_take, o.length_hdrSector]
            omega
          · rw [hpager]
            rfl
    · have hnew := eq_false_of_ne_true hnew
      subst hnew
      refine ⟨⟨.ok, marked, w₁⟩, ?_, .closed rfl rfl hsegments hlength' ?_, htouch⟩
      · simp only [syncJournalFile, hdevice, happend, hsequential, if_true, hmark, ok_bind, ne_eq,
          not_true_eq_false, if_false, verixSync, Bool.false_eq_true, false_and]
        rfl
      · show marked = _
        rw [← hholds.journalOff]
  · refine ⟨⟨.ioerrWrite, p, w₁⟩, ?_, .unmarked rfl hdata rfl, htouch⟩
    simp only [syncJournalFile, hdevice, happend, if_true, hmark, ok_bind, ne_eq, reduceCtorEq,
      not_false_eq_true]
    rfl

/-- The pages that were behind the last header are part of the counted segments now. -/
theorem CacheHolds.synced {ready : Bool} {synced : List (List Nat)} {current : List Nat}
    {p : Writer} (h : CacheHolds o ready synced.flatten current p) :
    CacheHolds o ready (synced ++ [current]).flatten [] p := by
  have hall : (synced ++ [current]).flatten ++ [] = synced.flatten ++ current := by simp
  exact ⟨h.page, by rw [hall]; exact h.original, h.behind, by rw [hall]; exact h.dirty, by simp,
    h.inUse⟩

/-- The writers differ at most in the fields that the syncing of the journal moves. -/
def Syncs (p p' : Writer) : Prop :=
  p' = { p with
    eLock := p'.eLock
    journalHdr := p'.journalHdr
    journalOff := p'.journalOff
    nRec := p'.nRec
    cksumInit := p'.cksumInit
    needSync := p'.needSync
    eState := p'.eState }

/-- How `syncJournal` leaves a transaction: as it was, with an error; broken off behind the marked
header; or with all pages in counted segments, and another segment begun if one was asked for. -/
inductive SyncEnds (o : Original) (zFilename zJournal : CString) (f : Nat)
    (content : Nat → Option (List UInt8)) (synced : List (List Nat)) (current : List Nat)
    (newHdr : Bool) (p : Writer) (rc : ResultCode) (p' : Writer) (d : Disk) : Prop where
  | unchanged : rc = .busy ∨ rc = .ioerrWrite → p' = { p with eLock := p'.eLock } →
      Underway o zFilename zJournal f content true synced current p' d →
      SyncEnds o zFilename zJournal f content synced current newHdr p rc p' d
  | lost : rc = .ioerrWrite → newHdr = true → Survives o zFilename zJournal f d →
      SyncEnds o zFilename zJournal f content synced current newHdr p rc p' d
  | closed (j last : Nat) : rc = .ok → newHdr = false → Syncs p p' →
      Underway o zFilename zJournal f content false (synced ++ [current]) [] p' d →
      JournalClosed o f j last (synced ++ [current]) p'.toPager d → p'.dbFileSize ≤ p'.dbSize →
      CacheHolds o true (synced ++ [current]).flatten [] p' →
      Transparent o.pageSize (d.data f) content (· ∈ p'.pDirty) p' →
      (d.data f).length = p'.dbFileSize * o.pageSize →
      SyncEnds o zFilename zJournal f content synced current newHdr p rc p' d
  | begun : rc = .ok → newHdr = true → Syncs p p' →
      Underway o zFilename zJournal f content true (synced ++ [current]) [] p' d →
      SyncEnds o zFilename zJournal f content synced current newHdr p rc p' d

theorem syncJournal_ends (s : Surroundings env view calls o) {p : Writer}
    {synced : List (List Nat)} {current : List Nat} {w : World σ}
    (h : Underway o zFilename zJournal f content true synced current p (view w.os))
    (hjfd : IsOpen p.jfd) (newHdr : Bool) :
    ∃ ret, syncJournal env calls p newHdr w = .ok ret ∧
      SyncEnds o zFilename zJournal f content synced current newHdr p ret.rc ret.writer
        (view ret.world.os) := by
  obtain ⟨locked, hlocked, hrc, hsame, hwriter⟩ := sqlite3PagerExclusiveLock_ends s h.db.openOn
    h.settled.noWal
  obtain ⟨rc, p₁, w₁⟩ := locked
  dsimp only at hrc hsame hwriter
  obtain ⟨eLock, rfl⟩ : ∃ eLock, p₁ = { p with eLock := eLock } := ⟨_, hwriter⟩
  let q : Writer := { p with eLock := eLock }
  have hunder : Underway o zFilename zJournal f content true synced current q (view w₁.os) :=
    h.samePages rfl hsame rfl (fun _ => Iff.rfl) (fun _ _ hflag => hflag) (fun _ _ hflag => hflag)
      h.cache.inUse
  by_cases hok : rc = .ok
  swap
  · refine ⟨⟨rc, q, w₁⟩, ?_, .unchanged (Or.inl (hrc.resolve_left hok)) rfl hunder⟩
    rw [syncJournal, hlocked, ok_bind]
    exact if_pos hok
  subst hok
  have hmode : q.journalMode ≠ .memory := by
    rw [hunder.settled.deletes.1]
    decide
  have hcond : IsOpen q.jfd ∧ q.journalMode ≠ .memory := ⟨hjfd, hmode⟩
  have hsync : syncJournal env calls p newHdr w = syncJournalFile env calls q newHdr w₁ >>=
      fun synced => if synced.rc ≠ .ok then pure synced
        else pure ⟨.ok, { synced.writer with
          needSync := fun pgno => synced.writer.needSync pgno && pgno ∉ synced.writer.pDirty
          eState := .writerDbmod }, synced.world⟩ := by
    have hnoSync : q.noSync = false := hunder.settled.noSync
    simp only [syncJournal, hlocked, ok_bind, ne_eq, not_true_eq_false, if_false]
    show (if q.noSync = false then if IsOpen q.jfd ∧ q.journalMode ≠ .memory then _ else _
      else _) >>= _ = _
    rw [if_pos hnoSync, if_pos hcond]
    rfl
  rw [hsync]
  cases hunder.stage with
  | idle _ hclosed => exact absurd hjfd hclosed
  | writing j last next hfile hholds hwrites hlength hbits hiSize horig hfileLength hgrown =>
      obtain ⟨ret, hret, hsynced, htouch⟩ := syncJournalFile_ends s hunder.settled
        hfile.named.openOn hholds hlength horig newHdr
      obtain ⟨rc, p₂, w₂⟩ := ret
      dsimp only at hsynced htouch
      have hdata : (view w₂.os).data f = (view w₁.os).data f := htouch.data f hfile.apart
      have hmore : ∀ k ∈ synced.flatten, k ∈ (synced ++ [current]).flatten := by
        intro k hk
        rw [List.flatten_append]
        exact List.mem_append_left _ hk
      have hne : synced ++ [current] ≠ [] := by simp
      have hall : (synced ++ [current]).flatten ++ [] = synced.flatten ++ current := by simp
      have htransparent := hunder.transparent rfl
      have hcache' := hunder.cache.synced
      have hinUse := hunder.cache.inUse
      rw [hret, ok_bind]
      cases hsynced with
      | unmarked hrc hjournal hwriter =>
          dsimp only at hrc hwriter
          subst hrc hwriter
          refine ⟨⟨.ioerrWrite, q, w₂⟩, rfl, .unchanged (Or.inr rfl) rfl ?_⟩
          exact hunder.samePages rfl (htouch.undisturbed hjournal) rfl (fun _ => Iff.rfl)
            (fun _ _ hflag => hflag) (fun _ _ hflag => hflag) hunder.cache.inUse
      | lost hrc hnew hsegments hstops hwriter =>
          dsimp only at hrc
          subst hrc
          refine ⟨⟨.ioerrWrite, p₂, w₂⟩, rfl, .lost rfl hnew ?_⟩
          refine .of_segments ?_ ?_ hfile.apart hsegments hstops ?_ (fun hnil => absurd hnil hne)
          · rw [← hunder.settled.filename, htouch.dir]
            exact hunder.db.named
          · rw [← hunder.settled.zJournal, ← hfile.filename, htouch.dir]
            exact hfile.named.named
          · rw [hdata]
            exact hunder.restored.mono hmore
      | closed hrc hnew hsegments hlength' hwriter =>
          dsimp only at hrc hwriter
          subst hrc hwriter
          have hclosed : JournalClosed o f j next (synced ++ [current])
              { q.toPager with journalHdr := (next : Nat), eState := .writerDbmod } (view w₂.os) :=
            ⟨hfile.touches htouch rfl rfl, hsegments, hne, rfl, hlength'⟩
          refine ⟨_, rfl, .closed j next rfl hnew rfl ?_ hclosed hgrown
            (hcache'.congr rfl (fun _ => Iff.rfl) rfl (by simp) hinUse) ?_ ?_⟩
          · exact hunder.restage hdata (htouch.namedFile hunder.db) rfl rfl rfl
              (.closed j next hclosed (Or.inl rfl) hgrown) hmore
              (fun hnil => absurd hnil hne) ⟨hcache'.page, hcache'.original, hcache'.behind,
                fun hready => (by cases hready), fun hready => (by cases hready), hinUse⟩
              (fun hready => by cases hready)
          · rw [hdata]
            exact htransparent.congr rfl (fun _ => Iff.rfl) (fun _ _ hflag => hflag)
          · rw [hdata]
            exact hfileLength
      | begun hrc hnew hholds' hlength' hwriter =>
          dsimp only at hrc hwriter hholds'
          subst hrc
          obtain ⟨journalHdr, journalOff, nRec, cksumInit, rfl⟩ : ∃ journalHdr journalOff nRec
              cksumInit, p₂ = { q with
                journalHdr := journalHdr
                journalOff := journalOff
                nRec := nRec
                cksumInit := cksumInit } := ⟨_, _, _, _, hwriter⟩
          refine ⟨_, rfl, .begun rfl hnew rfl ?_⟩
          refine hunder.restage hdata (htouch.namedFile hunder.db) rfl rfl rfl
            (.writing j next (next + o.sectorSize) (hfile.touches htouch rfl rfl)
              (hholds'.pager rfl rfl rfl rfl) (Or.inr ⟨rfl, hne⟩) hlength' ?_ hiSize horig ?_
              hgrown)
            hmore (fun hnil => absurd hnil hne)
            (hcache'.congr rfl (fun _ => Iff.rfl) rfl (by simp) hinUse)
            (fun _ => htransparent.congr rfl (fun _ => Iff.rfl) (fun _ _ hflag => hflag))
          · rw [hall]
            exact hbits
          · rw [hdata]
            exact hfileLength

end VxSqlite
