import VxSqlite.Pager.JournalFormat
import VxSqlite.Pager.Progress

/-!
# Playing a journal back restores the database

A journal in the format of `Segments` holds the original of every page that its records name.
Playing it back restores these pages, whatever the database file holds in their place, and cuts
the file off at its original size; the pages of the cache follow. What `pager_playback` changes of
the pager on its way is gathered in `Replays`.
-/

namespace VxSqlite

variable {σ : Type} {env : Env σ} {view : σ → Disk}

/-- The second cache has no pages that the first has not, and none of another size than `n` in the
place of one of this size. -/
def KeepsSlots (n : Nat) (cache cache' : PCache) : Prop :=
  ∀ k pData', cache'.page k = some pData' →
    ∃ pData, cache.page k = some pData ∧ (pData.length = n → pData'.length = n)

namespace KeepsSlots

variable {n : Nat} {cache cache' cache'' : PCache}

theorem refl (cache : PCache) : KeepsSlots n cache cache := fun _ _ hpage => ⟨_, hpage, id⟩

theorem trans (h : KeepsSlots n cache cache') (h' : KeepsSlots n cache' cache'') :
    KeepsSlots n cache cache'' := by
  intro k pData'' hpage
  obtain ⟨pData', hpage', hlength'⟩ := h' k pData'' hpage
  obtain ⟨pData, hpage, hlength⟩ := h k pData' hpage'
  exact ⟨pData, hpage, fun hn => hlength' (hlength hn)⟩

theorem truncate (cache : PCache) (pgno : Nat) : KeepsSlots n cache (cache.truncate pgno) := by
  intro k pData' hpage
  unfold PCache.truncate at hpage
  split_ifs at hpage
  · dsimp only at hpage
    by_cases hk : k = 1
    · subst hk
      rw [if_pos rfl, Option.map_eq_some_iff] at hpage
      obtain ⟨pData, hpage, rfl⟩ := hpage
      exact ⟨pData, hpage, fun hn => by rw [List.length_replicate, hn]⟩
    · rw [if_neg hk] at hpage
      cases hpage
  · dsimp only at hpage
    split_ifs at hpage
    exact ⟨_, hpage, id⟩

end KeepsSlots

/-- The second pager differs from the first in the fields that a playback moves, and in no others.
A pager with pages of size `n` keeps that size. -/
structure Replays (n : Nat) (pPager pPager' : Pager) : Prop where
  frame : pPager' = { pPager with
    journalOff := pPager'.journalOff
    cksumInit := pPager'.cksumInit
    dbSize := pPager'.dbSize
    dbFileSize := pPager'.dbFileSize
    dbFileVers := pPager'.dbFileVers
    nReserve := pPager'.nReserve
    pageSize := pPager'.pageSize
    pPCache := pPager'.pPCache }
  pageSize : pPager.pageSize = n → pPager'.pageSize = n
  slots : KeepsSlots n pPager.pPCache pPager'.pPCache

theorem Replays.refl {n : Nat} (pPager : Pager) : Replays n pPager pPager := ⟨rfl, id, .refl _⟩

theorem Replays.trans {n : Nat} {first second third : Pager} (h : Replays n first second)
    (h' : Replays n second third) : Replays n first third := by
  refine ⟨?_, fun hsize => h'.pageSize (h.pageSize hsize), h.slots.trans h'.slots⟩
  have hframe := h'.frame
  rw [h.frame] at hframe
  exact hframe

section ReplayedFields

variable {n : Nat} {pPager pPager' : Pager} (h : Replays n pPager pPager')

include h

theorem Replays.fd : pPager'.fd = pPager.fd := (congrArg Pager.fd h.frame).trans rfl

theorem Replays.jfd : pPager'.jfd = pPager.jfd := (congrArg Pager.jfd h.frame).trans rfl

theorem Replays.eState : pPager'.eState = pPager.eState := (congrArg Pager.eState h.frame).trans rfl

theorem Replays.noSync : pPager'.noSync = pPager.noSync := (congrArg Pager.noSync h.frame).trans rfl

theorem Replays.journalHdr : pPager'.journalHdr = pPager.journalHdr :=
  (congrArg Pager.journalHdr h.frame).trans rfl

theorem Replays.sectorSize : pPager'.sectorSize = pPager.sectorSize :=
  (congrArg Pager.sectorSize h.frame).trans rfl

theorem Replays.pWal : pPager'.pWal = pPager.pWal := (congrArg Pager.pWal h.frame).trans rfl

theorem Replays.eLock : pPager'.eLock = pPager.eLock := (congrArg Pager.eLock h.frame).trans rfl

theorem Replays.sjfd : pPager'.sjfd = pPager.sjfd := (congrArg Pager.sjfd h.frame).trans rfl

theorem Replays.zJournal : pPager'.zJournal = pPager.zJournal :=
  (congrArg Pager.zJournal h.frame).trans rfl

theorem Replays.journalMode : pPager'.journalMode = pPager.journalMode :=
  (congrArg Pager.journalMode h.frame).trans rfl

theorem Replays.exclusiveMode : pPager'.exclusiveMode = pPager.exclusiveMode :=
  (congrArg Pager.exclusiveMode h.frame).trans rfl

theorem Replays.tempFile : pPager'.tempFile = pPager.tempFile :=
  (congrArg Pager.tempFile h.frame).trans rfl

end ReplayedFields

/-! ## Headers -/

/-- The pager after its page size was set: its cache is emptied if the size is a new one. -/
def Pager.resized (pPager : Pager) (pageSize : Nat) : Pager :=
  if pageSize = pPager.pageSize then pPager
  else { pagerReset pPager with
    pPCache := { (pagerReset pPager).pPCache with page1Ref := false }
    dbSize := 0
    pageSize := pageSize }

theorem Pager.resized_self {pPager : Pager} {pageSize : Nat} (h : pPager.pageSize = pageSize) :
    pPager.resized pageSize = pPager := if_pos h.symm

theorem Pager.resized_pageSize (pPager : Pager) (pageSize : Nat) :
    (pPager.resized pageSize).pageSize = pageSize := by
  unfold Pager.resized
  split_ifs with h
  · exact h.symm
  · rfl

theorem Pager.resized_replays (pPager : Pager) (pageSize : Nat) :
    Replays pageSize pPager (pPager.resized pageSize) := by
  unfold Pager.resized
  split_ifs
  · exact .refl _
  · exact ⟨rfl, fun _ => rfl, .truncate _ 0⟩

/-- The page size of the pager is the journal's, or can still be set to it. -/
def CanResize (pPager : Pager) (pageSize : Nat) : Prop :=
  pPager.pageSize = pageSize ∨ pPager.pPCache.nRefSum = 0 ∧ pPager.eState = .open

theorem sqlite3PagerSetPagesize_eq {pPager : Pager} {pageSize : Nat} (hpos : 0 < pageSize)
    (hsize : CanResize pPager pageSize) (w : World σ) :
    sqlite3PagerSetPagesize env pPager pageSize (-1) w = ⟨.ok, pPager.resized pageSize, w⟩ := by
  by_cases h : pageSize = pPager.pageSize
  · simp [sqlite3PagerSetPagesize, Pager.resized, h]
  · obtain ⟨hrefs, hopen⟩ := hsize.resolve_left (Ne.symm h)
    have hnone : ((pageSize : Int) - 1).tdiv pageSize = 0 :=
      Int.tdiv_eq_zero_of_lt (by omega) (by omega)
    simp [sqlite3PagerSetPagesize, Pager.resized, h, hrefs, hopen, hpos.ne', hnone]

variable {o : Original} {journal : List UInt8} {cksumInit : UInt32}

theorem readJournalSizes_header (laws : FileLaws env.os view) (pPager : Pager) {j hdr : Nat}
    {w : World σ} {start : List UInt8} (hopen : OpenOn (view w.os) pPager.jfd j)
    (hj : (view w.os).data j = journal) (hat : HeaderAt o journal hdr start cksumInit)
    (hoff : pPager.journalOff = hdr) (hsector : pPager.sectorSize = o.sectorSize)
    (hsize : CanResize pPager o.pageSize) (hlater : hdr ≠ 0 → pPager.pageSize = o.pageSize)
    (nRec dbSize : UInt32) :
    ∃ w', readJournalSizes env pPager hdr nRec dbSize w =
        ⟨.ok, nRec, dbSize,
          { pPager.resized o.pageSize with journalOff := hdr + o.sectorSize }, w'⟩ ∧
      Undisturbed (view w.os) (view w'.os) := by
  have hle := hat.bytes_le
  rw [← hj] at hle
  by_cases hzero : hdr = 0
  · obtain ⟨w₁, hread₁, hsame₁⟩ := read32bits_within laws hopen
      (show (hdr : Int) + 20 = ((hdr + 20 : Nat) : Int) from by omega) (by omega)
    obtain ⟨w₂, hread₂, hsame₂⟩ := read32bits_within laws (hsame₁.openOn _ _ hopen)
      (show (hdr : Int) + 24 = ((hdr + 24 : Nat) : Int) from by omega)
      (by rw [hsame₁.data]; omega)
    rw [hj, hat.word_sectorSize] at hread₁
    rw [hsame₁.data, hj, hat.word_pageSize] at hread₂
    have hpage := o.le_pageSize
    have hne : UInt32.ofNat o.pageSize ≠ 0 := by
      intro h
      have hnat := congrArg UInt32.toNat h
      rw [o.toNat_pageSize] at hnat
      have hzero : (0 : UInt32).toNat = 0 := rfl
      omega
    have hset : sqlite3PagerSetPagesize env pPager o.pageSize (-1) w₂ =
        ⟨.ok, pPager.resized o.pageSize, w₂⟩ := sqlite3PagerSetPagesize_eq (by omega) hsize w₂
    have hsectorSize : (pPager.resized o.pageSize).sectorSize = o.sectorSize :=
      (congrArg Pager.sectorSize (pPager.resized_replays o.pageSize).frame).trans hsector
    have hjournalOff : (pPager.resized o.pageSize).journalOff = hdr := by
      unfold Pager.resized
      split_ifs
      · exact hoff
      · exact hoff
    refine ⟨w₂, ?_, hsame₁.trans hsame₂⟩
    have hoff' : pPager.journalOff = 0 := by omega
    simp only [readJournalSizes, hoff', if_true, hread₁, hread₂, ne_eq, not_true_eq_false,
      if_false, if_neg hne, o.sizes_valid, o.toNat_pageSize, o.toNat_sectorSize, hset,
      Pager.journalHdrSz, hjournalOff]
    rw [← hsectorSize]
  · refine ⟨w, ?_, .refl _⟩
    have hoff' : pPager.journalOff ≠ 0 := by omega
    rw [readJournalSizes, if_neg hoff', Pager.resized_self (hlater hzero), Pager.journalHdrSz,
      hoff, ← hsector]

/-- Where the pager looks for the next header. -/
def Pager.atHeader (pPager : Pager) : Pager := { pPager with journalOff := journalHdrOffset pPager }

theorem Pager.atHeader_replays {n : Nat} (pPager : Pager) : Replays n pPager pPager.atHeader :=
  ⟨rfl, id, .refl _⟩

/-- The pager behind a header it has read. -/
def Pager.behindHeader (pPager : Pager) (o : Original) (hdr : Nat) (cksumInit : UInt32) : Pager :=
  { pPager.resized o.pageSize with journalOff := hdr + o.sectorSize, cksumInit := cksumInit }

theorem Pager.behindHeader_replays (pPager : Pager) (o : Original) (hdr : Nat)
    (cksumInit : UInt32) : Replays o.pageSize pPager (pPager.behindHeader o hdr cksumInit) :=
  (pPager.resized_replays o.pageSize).trans ⟨rfl, id, .refl _⟩

theorem readJournalFields_header (laws : FileLaws env.os view) (pPager : Pager) {j hdr : Nat}
    {w : World σ} {start : List UInt8} (hopen : OpenOn (view w.os) pPager.jfd j)
    (hj : (view w.os).data j = journal) (hat : HeaderAt o journal hdr start cksumInit)
    (hoff : pPager.journalOff = hdr) (hsector : pPager.sectorSize = o.sectorSize)
    (hsize : CanResize pPager o.pageSize) (hlater : hdr ≠ 0 → pPager.pageSize = o.pageSize) :
    ∃ w', readJournalFields env pPager hdr w =
        ⟨.ok, sqlite3Get4byte (start.drop 8), UInt32.ofNat o.nPage,
          pPager.behindHeader o hdr cksumInit, w'⟩ ∧
      Undisturbed (view w.os) (view w'.os) := by
  have hle := hat.bytes_le
  rw [← hj] at hle
  obtain ⟨w₁, hread₁, hsame₁⟩ := read32bits_within laws hopen
    (show (hdr : Int) + 8 = ((hdr + 8 : Nat) : Int) from by omega) (by omega)
  obtain ⟨w₂, hread₂, hsame₂⟩ := read32bits_within laws (hsame₁.openOn _ _ hopen)
    (show (hdr : Int) + 12 = ((hdr + 12 : Nat) : Int) from by omega) (by rw [hsame₁.data]; omega)
  have hsame₁₂ := hsame₁.trans hsame₂
  obtain ⟨w₃, hread₃, hsame₃⟩ := read32bits_within laws (hsame₁₂.openOn _ _ hopen)
    (show (hdr : Int) + 16 = ((hdr + 16 : Nat) : Int) from by omega) (by rw [hsame₁₂.data]; omega)
  have hsame := hsame₁₂.trans hsame₃
  rw [hj, hat.nRec] at hread₁
  rw [hsame₁.data, hj, hat.word_cksumInit] at hread₂
  rw [hsame₁₂.data, hj, hat.word_nPage] at hread₃
  obtain ⟨w₄, hsizes, hsame₄⟩ := readJournalSizes_header laws
    { pPager with cksumInit := cksumInit } (hsame.openOn _ _ hopen)
    (by rw [hsame.data, hj]) hat hoff hsector hsize hlater (sqlite3Get4byte (start.drop 8))
    (UInt32.ofNat o.nPage)
  refine ⟨w₄, ?_, hsame.trans hsame₄⟩
  simp only [readJournalFields, hread₁, hread₂, hread₃, ne_eq, not_true_eq_false, if_false, hsizes]
  unfold Pager.behindHeader Pager.resized
  split_ifs <;> rfl

/-- A header is read if it has the magic string, which the one that the pager is still writing
need not have. -/
theorem readJournalHdr_header (laws : FileLaws env.os view) {pPager : Pager} {j off : Nat}
    {w : World σ} {start : List UInt8} (hopen : OpenOn (view w.os) pPager.jfd j)
    (hj : (view w.os).data j = journal)
    (hat : HeaderAt o journal (o.hdrOffset off) start cksumInit) (hoff : pPager.journalOff = off)
    (hsector : pPager.sectorSize = o.sectorSize) (hsize : CanResize pPager o.pageSize)
    (hlater : off ≠ 0 → pPager.pageSize = o.pageSize) {isHot : Bool}
    (hmagic : isHot = true ∨ (o.hdrOffset off : Int) ≠ pPager.journalHdr →
      start.take 8 = aJournalMagic) :
    ∃ w', readJournalHdr env pPager isHot journal.length w =
        ⟨.ok, sqlite3Get4byte (start.drop 8), UInt32.ofNat o.nPage,
          pPager.behindHeader o (o.hdrOffset off) cksumInit, w'⟩ ∧
      Undisturbed (view w.os) (view w'.os) := by
  have hhdr := o.journalHdrOffset_eq hoff hsector
  have hle := hat.sector_le
  have hbytes := hat.bytes_le
  have hinside : ¬ ((o.hdrOffset off : Int) + pPager.sectorSize > journal.length) := by
    rw [hsector]
    omega
  have hlater' : o.hdrOffset off ≠ 0 → pPager.pageSize = o.pageSize := by
    intro hne
    refine hlater fun hzero => hne ?_
    rw [hzero]
    rfl
  have hbehind : ∀ w₁, Undisturbed (view w.os) (view w₁.os) →
      ∃ w', readJournalFields env pPager.atHeader (o.hdrOffset off) w₁ =
          ⟨.ok, sqlite3Get4byte (start.drop 8), UInt32.ofNat o.nPage,
            pPager.behindHeader o (o.hdrOffset off) cksumInit, w'⟩ ∧
        Undisturbed (view w.os) (view w'.os) := by
    intro w₁ hsame₁
    obtain ⟨w', hfields, hsame⟩ := readJournalFields_header laws pPager.atHeader
      (hsame₁.openOn _ _ hopen) (by rw [hsame₁.data, hj]) hat hhdr hsector hsize hlater'
    refine ⟨w', ?_, hsame₁.trans hsame⟩
    rw [hfields]
    unfold Pager.behindHeader Pager.resized Pager.atHeader
    split_ifs <;> rfl
  by_cases hasked : isHot = true ∨ (o.hdrOffset off : Int) ≠ pPager.journalHdr
  · obtain ⟨w₁, hread, hsame₁⟩ := sqlite3OsRead_within laws hopen (Nat.succ_pos 7)
      (show (o.hdrOffset off : Int) = (o.hdrOffset off : Nat) from rfl) (by rw [hj]; omega)
    rw [hj, hat.magic, hmagic hasked] at hread
    obtain ⟨w', hfields, hsame⟩ := hbehind w₁ hsame₁
    refine ⟨w', ?_, hsame⟩
    rw [← hfields]
    simp only [readJournalHdr, hhdr, Pager.journalHdrSz, if_neg hinside, if_pos hasked, hread,
      ne_eq, not_true_eq_false, if_false]
    rw [Pager.atHeader, hhdr]
  · obtain ⟨w', hfields, hsame⟩ := hbehind w (.refl _)
    refine ⟨w', ?_, hsame⟩
    rw [← hfields]
    simp only [readJournalHdr, hhdr, Pager.journalHdrSz, if_neg hinside, if_neg hasked]
    rw [Pager.atHeader, hhdr]

/-- Behind the last segment there is no header, or one without the magic string that the pager
is not writing itself. -/
def StopsAt (o : Original) (journal : List UInt8) (journalHdr : Option Int) (last : Nat) : Prop :=
  o.hdrOffset last + o.sectorSize ≤ journal.length →
    journalHdr ≠ some (o.hdrOffset last : Int) ∧ window journal (o.hdrOffset last) 8 ≠ aJournalMagic

theorem readJournalHdr_stop (laws : FileLaws env.os view) {pPager : Pager} {j off : Nat}
    {w : World σ} (hopen : OpenOn (view w.os) pPager.jfd j) (hj : (view w.os).data j = journal)
    (hoff : pPager.journalOff = off) (hsector : pPager.sectorSize = o.sectorSize) {isHot : Bool}
    (hstop : StopsAt o journal (if isHot then none else some pPager.journalHdr) off) :
    ∃ w', readJournalHdr env pPager isHot journal.length w =
        ⟨.done, 0, 0, pPager.atHeader, w'⟩ ∧ Undisturbed (view w.os) (view w'.os) := by
  have hhdr := o.journalHdrOffset_eq hoff hsector
  by_cases hout : (o.hdrOffset off : Int) + pPager.sectorSize > journal.length
  · refine ⟨w, ?_, .refl _⟩
    simp only [readJournalHdr, hhdr, Pager.journalHdrSz, if_pos hout, Pager.atHeader]
  · rw [hsector] at hout
    obtain ⟨hnot, hmagic⟩ := hstop (by omega)
    have hsize := o.le_sectorSize
    obtain ⟨w₁, hread, hsame⟩ := sqlite3OsRead_within laws hopen (Nat.succ_pos 7)
      (show (o.hdrOffset off : Int) = (o.hdrOffset off : Nat) from rfl) (by rw [hj]; omega)
    rw [hj] at hread
    have hasked : isHot = true ∨ (o.hdrOffset off : Int) ≠ pPager.journalHdr := by
      cases isHot with
      | true => exact Or.inl rfl
      | false => exact Or.inr fun heq => hnot (by rw [heq]; rfl)
    refine ⟨w₁, ?_, hsame⟩
    simp only [readJournalHdr, hhdr, Pager.journalHdrSz, hsector, if_neg hout, if_pos hasked, hread,
      ne_eq, not_true_eq_false, if_false, hmagic, not_false_eq_true, if_true, Pager.atHeader]

/-! ## Records -/

/-- The second pager differs from the first in the fields that the playback of records moves. -/
structure ReplaysRecords (n : Nat) (pPager pPager' : Pager) : Prop where
  frame : pPager' = { pPager with
    journalOff := pPager'.journalOff
    dbFileSize := pPager'.dbFileSize
    dbFileVers := pPager'.dbFileVers
    nReserve := pPager'.nReserve
    pPCache := pPager'.pPCache }
  slots : KeepsSlots n pPager.pPCache pPager'.pPCache

theorem ReplaysRecords.refl {n : Nat} (pPager : Pager) : ReplaysRecords n pPager pPager :=
  ⟨rfl, .refl _⟩

theorem ReplaysRecords.trans {n : Nat} {first second third : Pager}
    (h : ReplaysRecords n first second) (h' : ReplaysRecords n second third) :
    ReplaysRecords n first third := by
  refine ⟨?_, h.slots.trans h'.slots⟩
  have hframe := h'.frame
  rw [h.frame] at hframe
  exact hframe

theorem ReplaysRecords.replays {n : Nat} {pPager pPager' : Pager}
    (h : ReplaysRecords n pPager pPager') : Replays n pPager pPager' := by
  refine ⟨?_, fun hsize => ?_, h.slots⟩
  · rw [h.frame]
  · rw [h.frame]
    exact hsize

/-- Where a playback stands: the database `f` and the journal `j` are open, and the journal has
its content. -/
structure PlaybackAt (view : σ → Disk) (o : Original) (f j : Nat) (journal : List UInt8)
    (pPager : Pager) (w : World σ) : Prop where
  db : NamedFile (view w.os) pPager.fd f
  jrnl : NamedFile (view w.os) pPager.jfd j
  apart : f ≠ j
  isOpen : IsOpen pPager.fd
  journal_eq : (view w.os).data j = journal
  sectorSize : pPager.sectorSize = o.sectorSize
  noWal : ¬ PagerUseWal pPager

theorem PlaybackAt.undisturbed {f j : Nat} {pPager : Pager} {w w' : World σ}
    (h : PlaybackAt view o f j journal pPager w) (hsame : Undisturbed (view w.os) (view w'.os)) :
    PlaybackAt view o f j journal pPager w' :=
  ⟨hsame.namedFile h.db, hsame.namedFile h.jrnl, h.apart, h.isOpen,
    by rw [hsame.data]; exact h.journal_eq, h.sectorSize, h.noWal⟩

theorem PlaybackAt.touches {f j : Nat} {pPager : Pager} {w w' : World σ}
    (h : PlaybackAt view o f j journal pPager w) (htouch : Touches f (view w.os) (view w'.os)) :
    PlaybackAt view o f j journal pPager w' :=
  ⟨htouch.namedFile h.db, htouch.namedFile h.jrnl, h.apart, h.isOpen,
    (htouch.data j (Ne.symm h.apart)).trans h.journal_eq, h.sectorSize, h.noWal⟩

theorem PlaybackAt.replays {f j : Nat} {pPager pPager' : Pager} {w : World σ}
    (h : PlaybackAt view o f j journal pPager w) (hreplays : Replays o.pageSize pPager pPager') :
    PlaybackAt view o f j journal pPager' w := by
  refine ⟨by rw [hreplays.fd]; exact h.db, by rw [hreplays.jfd]; exact h.jrnl, h.apart,
    by rw [hreplays.fd]; exact h.isOpen, h.journal_eq, hreplays.sectorSize.trans h.sectorSize, ?_⟩
  unfold PagerUseWal
  rw [hreplays.pWal]
  exact h.noWal

/-- A record that is part of the journal passes all tests, and its page is played back. -/
theorem pagerPlaybackOnePage_record (laws : FileLaws env.os view) {pPager : Pager} {f j off k : Nat}
    {w : World σ} (hat : PlaybackAt view o f j journal pPager w) (hoff : pPager.journalOff = off)
    (hinit : pPager.cksumInit = cksumInit) (hsize : pPager.pageSize = o.pageSize)
    (hdb : pPager.dbSize = o.nPage) (hk : o.Journalled k)
    (hbytes : window journal off (o.pageSize + 8) = o.record cksumInit k) :
    ∃ w', pagerPlaybackOnePage env pPager w =
        playbackPage env { pPager with journalOff := (off + (o.pageSize + 8) : Nat) } k (o.page k)
          w' ∧
      Undisturbed (view w.os) (view w'.os) := by
  have hlen := o.length_page hk.1 hk.2.1
  have hfits : off + (o.pageSize + 8) ≤ journal.length := by
    have hwindow := congrArg List.length hbytes
    rw [length_window, o.length_record cksumInit hk] at hwindow
    omega
  have hsub : ∀ i n, i + n ≤ o.pageSize + 8 →
      window journal (off + i) n = window (o.record cksumInit k) i n := by
    intro i n hin
    rw [← hbytes]
    exact (window_window hin).symm
  have hj := hat.journal_eq
  -- the three reads
  obtain ⟨w₁, hread₁, hsame₁⟩ := read32bits_within laws hat.jrnl.openOn
    (show pPager.journalOff = ((off + 0 : Nat) : Int) from hoff) (by rw [hj]; omega)
  obtain ⟨w₂, hread₂, hsame₂⟩ := sqlite3OsRead_within laws
    (hsame₁.openOn _ _ hat.jrnl.openOn)
    (show 0 < pPager.pageSize from by have := o.le_pageSize; omega)
    (show pPager.journalOff + 4 = ((off + 4 : Nat) : Int) from by omega)
    (by rw [hsame₁.data, hj]; omega)
  have hsame₁₂ := hsame₁.trans hsame₂
  obtain ⟨w₃, hread₃, hsame₃⟩ := read32bits_within laws (hsame₁₂.openOn _ _ hat.jrnl.openOn)
    (show (off + (o.pageSize + 8) : Nat) - 4 = ((off + (o.pageSize + 4) : Nat) : Int) from by omega)
    (by rw [hsame₁₂.data, hj]; omega)
  have hnumber : word journal (off + 0) = UInt32.ofNat k := by
    rw [word, hsub 0 4 (by omega), Original.record, List.append_assoc]
    exact sqlite3Get4byte_append _ _
  have hpage : window journal (off + 4) pPager.pageSize = o.page k := by
    have hright := window_append_right (sqlite3Put4byte (UInt32.ofNat k))
      (o.page k ++ sqlite3Put4byte (o.pageCksum cksumInit k)) 0 o.pageSize
    rw [hsize, hsub 4 _ (by omega), Original.record, List.append_assoc]
    refine hright.trans ?_
    rw [← hlen, window_append_left _ (by omega), window_self]
  have hcksum : word journal (off + (o.pageSize + 4)) = o.pageCksum cksumInit k := by
    have hright := window_append_right (sqlite3Put4byte (UInt32.ofNat k) ++ o.page k)
      (sqlite3Put4byte (o.pageCksum cksumInit k)) 0 4
    rw [List.length_append, hlen, length_sqlite3Put4byte, Nat.add_comm 4, Nat.add_zero] at hright
    rw [word, hsub _ 4 (by omega), Original.record, hright]
    exact sqlite3Get4byte_put4byte _
  rw [hj, hnumber] at hread₁
  rw [hsame₁.data, hj, hpage] at hread₂
  rw [hsame₁₂.data, hj, hcksum] at hread₃
  refine ⟨w₃, ?_, hsame₁₂.trans hsame₃⟩
  have hpgno : (UInt32.ofNat k).toNat = k := o.toNat_pgno hk.2.1
  have hvalid : ¬ (k = 0 ∨ k = pPager.mjPgno) := by
    rw [Pager.mjPgno, hsize]
    have hone := hk.1
    exact fun hbad => hbad.elim (by omega) hk.2.2
  have hinside : ¬ k > pPager.dbSize := by
    rw [hdb]
    have := hk.2.1
    omega
  have hnext : pPager.journalOff + pPager.pageSize + 4 + 4 =
      ((off + (o.pageSize + 8) : Nat) : Int) := by omega
  have hsum : pagerCksum pPager (o.page k) = o.pageCksum cksumInit k := by
    rw [pagerCksum, hinit, hsize]
    rfl
  have hsum' : pagerCksum { pPager with journalOff := ((off + (o.pageSize + 8) : Nat) : Int) }
      (o.page k) = o.pageCksum cksumInit k := hsum
  have hvalid' : ¬ (k = 0 ∨ k = Pager.mjPgno
      { pPager with journalOff := ((off + (o.pageSize + 8) : Nat) : Int) }) := hvalid
  simp only [pagerPlaybackOnePage, hread₁, hread₂, ne_eq, not_true_eq_false, if_false, hpgno,
    hnext, if_neg hvalid', if_neg hinside, hread₃, hsum']

/-- The cache holds no other than the original of every page, but those to do. -/
def CacheRestoredBut (o : Original) (todo : Nat → Prop) (cache : PCache) : Prop :=
  ∀ k, 1 ≤ k → k ≤ o.nPage → ¬ todo k → ∀ data, cache.page k = some data → data = o.page k

/-- The database file is written during the playback. -/
def PlaybackWrites (pPager : Pager) : Prop :=
  PagerState.writerDbmod.rank ≤ pPager.eState.rank ∨ pPager.eState = .open

/-- The playback of the record that ends at `journalOff` writes its page to the database file. -/
def WritesRecord (pPager : Pager) : Prop :=
  PlaybackWrites pPager ∧ (pPager.noSync = true ∨ pPager.journalOff ≤ pPager.journalHdr)

/-- What the playback of a page or of several pages `ks` leaves: these are restored, or a write
has failed in the middle of one of them. -/
structure PlayedBack (view : σ → Disk) (o : Original) (f j : Nat) (journal : List UInt8)
    (todo cacheTodo : Nat → Prop) (ks : List Nat) (rc : ResultCode) (pPager : Pager)
    (w : World σ) : Prop where
  playbackAt : PlaybackAt view o f j journal pPager w
  rc_eq : rc = .ok ∨ rc = .ioerrWrite ∨ rc = .ioerrTruncate
  length_eq : rc = .ok → ((view w.os).data f).length = o.content.length
  restored : rc = .ok →
    RestoredBut o.pageSize o.content o.nPage (fun k => todo k ∧ k ∉ ks) ((view w.os).data f) ∧
      CacheRestoredBut o (fun k => cacheTodo k ∧ k ∉ ks) pPager.pPCache
  torn : RestoredBut o.pageSize o.content o.nPage (fun k => todo k ∨ k ∈ ks) ((view w.os).data f)

theorem playbackCache_replays (pPager : Pager) {pPg : Option (List UInt8)} {k : Nat}
    {aData : List UInt8} (hcached : pPg = pPager.pPCache.page k)
    (hlength : aData.length = o.pageSize) :
    ReplaysRecords o.pageSize pPager (playbackCache pPager pPg k aData) := by
  have hslots : ∀ l pData', (if l = k then some aData else pPager.pPCache.page l) = some pData' →
      pPg.isSome = true → ∃ pData, pPager.pPCache.page l = some pData ∧
        (pData.length = o.pageSize → pData'.length = o.pageSize) := by
    intro l pData' hpage hsome
    by_cases hl : l = k
    · rw [if_pos hl] at hpage
      cases hpage
      obtain ⟨pData, hpData⟩ := Option.isSome_iff_exists.mp hsome
      exact ⟨pData, by rw [hl, ← hcached, hpData], fun _ => hlength⟩
    · rw [if_neg hl] at hpage
      exact ⟨pData', hpage, id⟩
  unfold playbackCache
  split_ifs with hsome
  · exact ⟨rfl, fun l pData' hpage => hslots l pData' hpage hsome⟩
  · exact ⟨rfl, fun l pData' hpage => hslots l pData' hpage hsome⟩
  · exact .refl _

/-- The page is restored in the cache, if it is there. -/
theorem playbackCache_restored {todo : Nat → Prop} (pPager : Pager) (k : Nat)
    (h : CacheRestoredBut o todo pPager.pPCache) :
    CacheRestoredBut o (fun l => todo l ∧ l ∉ [k])
      (playbackCache pPager (pPager.pPCache.page k) k (o.page k)).pPCache := by
  intro l hl hle hnot data hdata
  unfold playbackCache at hdata
  split_ifs at hdata with hsome
  all_goals
    by_cases hlk : l = k
    · subst hlk
      simp_all
    · have hold : ¬ todo l := fun htodo => hnot ⟨htodo, by simpa using hlk⟩
      exact h l hl hle hold data (by simpa [hlk] using hdata)

/-- What the part of the playback that writes the database file leaves. -/
theorem playbackWrite_restores (laws : FileLaws env.os view) {pPager : Pager} {f j k : Nat}
    {w : World σ} {todo : Nat → Prop} (hat : PlaybackAt view o f j journal pPager w)
    (hsize : pPager.pageSize = o.pageSize) (hk : o.Journalled k)
    (hfuel : o.pageSize ≤ env.writeFuel)
    (hdb : RestoredBut o.pageSize o.content o.nPage todo ((view w.os).data f))
    (hwrites : WritesRecord pPager ∨ ¬ todo k) :
    ∃ ret, playbackWrite env pPager k (o.page k) w = .ok ret ∧
      ret.pPager = { pPager with dbFileSize := ret.pPager.dbFileSize } ∧
      Touches f (view w.os) (view ret.world.os) ∧
      ((view ret.world.os).data f).length = ((view w.os).data f).length ∧
      (ret.rc = .ok ∨ WritesRecord pPager ∧ ret.rc = .ioerrWrite) ∧
      (ret.rc = .ok → RestoredBut o.pageSize o.content o.nPage (fun l => todo l ∧ l ∉ [k])
        ((view ret.world.os).data f)) ∧
      RestoredBut o.pageSize o.content o.nPage (fun l => todo l ∨ l ∈ [k])
        ((view ret.world.os).data f) := by
  have hlen := o.length_page hk.1 hk.2.1
  have hend : (k - 1) * o.pageSize + o.pageSize ≤ o.nPage * o.pageSize :=
    block_end_le hk.1 hk.2.1
  have hdbLen := hdb.length_le
  have hmono : RestoredBut o.pageSize o.content o.nPage (fun l => todo l ∨ l ∈ [k])
      ((view w.os).data f) := hdb.mono fun _ htodo => Or.inl htodo
  by_cases hwrite : WritesRecord pPager
  · have hofst : ((k : Int) - 1) * pPager.pageSize = ((k - 1) * o.pageSize : Nat) := by
      rw [hsize]
      push_cast [Nat.cast_sub hk.1]
      ring
    have hpage := o.le_pageSize
    have hlt := o.length_lt
    rw [o.length_eq] at hlt
    obtain ⟨rc, w', hrun, hends, htouch⟩ := verixWrite_at laws hat.db.openOn
      (show o.page k ≠ [] from List.length_pos_iff.mp (by omega)) hofst (by omega)
      (by rw [hlen]; exact hfuel)
    have hrun' : playbackWrite env pPager k (o.page k) w =
        .ok ⟨rc, { pPager with dbFileSize := max pPager.dbFileSize k }, w'⟩ := by
      have hcond : IsOpen pPager.fd ∧
          (PagerState.writerDbmod.rank ≤ pPager.eState.rank ∨ pPager.eState = .open) ∧
          (pPager.noSync = true ∨ pPager.journalOff ≤ pPager.journalHdr) :=
        ⟨hat.isOpen, hwrite.1, hwrite.2⟩
      simp only [playbackWrite, if_pos hcond, hrun, ok_bind]
      rfl
    refine ⟨_, hrun', rfl, htouch, ?_⟩
    rcases hends with ⟨hrc, hle, hdata⟩ | ⟨hrc, taken, htaken, hle, hdata⟩
    · -- the whole page lies in the file
      have hrestored : RestoredBut o.pageSize o.content o.nPage (fun l => todo l ∧ l ∉ [k])
          ((view w'.os).data f) := by
        rw [hdata]
        refine (hdb.restore o.length_eq hk.1 hk.2.1).mono ?_
        intro l hl
        exact ⟨hl.1, by simpa using hl.2⟩
      refine ⟨?_, Or.inl hrc, fun _ => hrestored, hrestored.mono fun _ hl => Or.inl hl.1⟩
      show ((view w'.os).data f).length = _
      rw [hdata, length_overlay _ hle, hlen]
      omega
    · -- a part of it at most
      have hstart : (k - 1) * o.pageSize ≤ ((view w.os).data f).length := by omega
      refine ⟨?_, Or.inr ⟨hwrite, hrc⟩, fun hok => absurd (hrc.symm.trans hok) (by simp), ?_⟩
      · show ((view w'.os).data f).length = _
        rw [hdata, length_overlay _ hstart, List.length_take]
        omega
      · show RestoredBut _ _ _ _ ((view w'.os).data f)
        rw [hdata]
        refine hmono.damage ?_ hk.1 hstart fun _ => Or.inr (List.mem_singleton_self k)
        rw [List.length_take]
        omega
  · have hclean : ¬ todo k := hwrites.resolve_left hwrite
    have hrun : playbackWrite env pPager k (o.page k) w = .ok ⟨.ok, pPager, w⟩ := by
      have hcond : ¬ (IsOpen pPager.fd ∧
          (PagerState.writerDbmod.rank ≤ pPager.eState.rank ∨ pPager.eState = .open) ∧
          (pPager.noSync = true ∨ pPager.journalOff ≤ pPager.journalHdr)) :=
        fun h => hwrite ⟨h.2.1, h.2.2⟩
      simp only [playbackWrite, if_neg hcond]
    refine ⟨_, hrun, rfl, (Undisturbed.refl _).touches f, rfl, Or.inl rfl, fun _ => ?_, hmono⟩
    refine hdb.mono fun l htodo => ⟨htodo, ?_⟩
    rw [List.mem_singleton]
    rintro rfl
    exact hclean htodo

/-- Playing a page back restores it in the cache and, where the file is written, in the file; a
page that is not written must not need it. -/
theorem playbackPage_restores (laws : FileLaws env.os view) {pPager : Pager} {f j k : Nat}
    {w : World σ} {todo cacheTodo : Nat → Prop} (hat : PlaybackAt view o f j journal pPager w)
    (hsize : pPager.pageSize = o.pageSize) (hk : o.Journalled k)
    (hfuel : o.pageSize ≤ env.writeFuel)
    (hdb : RestoredBut o.pageSize o.content o.nPage todo ((view w.os).data f))
    (hlength : ((view w.os).data f).length = o.content.length)
    (hcache : CacheRestoredBut o cacheTodo pPager.pPCache)
    (hwrites : WritesRecord pPager ∨ ¬ todo k) :
    ∃ ret, playbackPage env pPager k (o.page k) w = .ok ret ∧
      ReplaysRecords o.pageSize pPager ret.pPager ∧
      ret.pPager.journalOff = pPager.journalOff ∧
      (ret.rc = .ok ∨ WritesRecord pPager ∧ ret.rc = .ioerrWrite) ∧
      PlayedBack view o f j journal todo cacheTodo [k] ret.rc ret.pPager ret.world := by
  let reserve := ((o.page k)[20]?.getD 0).toNat
  let reserved : Pager := if k = 1 ∧ pPager.nReserve ≠ reserve
    then { pPager with nReserve := reserve } else pPager
  have hreserved : ReplaysRecords o.pageSize pPager reserved ∧
      reserved.journalOff = pPager.journalOff ∧ reserved.pPCache = pPager.pPCache := by
    show ReplaysRecords o.pageSize pPager (if _ then _ else _) ∧
      Pager.journalOff (if _ then _ else _) = _ ∧ Pager.pPCache (if _ then _ else _) = _
    split_ifs <;> exact ⟨⟨rfl, .refl _⟩, rfl, rfl⟩
  obtain ⟨hreplays, hoff, hpcache⟩ := hreserved
  have hat' := hat.replays hreplays.replays
  have hpageSize : reserved.pageSize = pPager.pageSize :=
    (congrArg Pager.pageSize hreplays.frame).trans rfl
  have hsame : WritesRecord reserved ↔ WritesRecord pPager := by
    unfold WritesRecord PlaybackWrites
    rw [hoff, hreplays.replays.eState, hreplays.replays.noSync, hreplays.replays.journalHdr]
  obtain ⟨ret, hrun, hret, htouch, hlength', hrc, hok, htorn⟩ :=
    playbackWrite_restores laws hat' (hpageSize.trans hsize) hk hfuel hdb
      (hwrites.imp_left hsame.mpr)
  rw [hsame] at hrc
  have hretCache : ret.pPager.pPCache = pPager.pPCache :=
    ((congrArg Pager.pPCache hret).trans rfl).trans hpcache
  have hretReplays : ReplaysRecords o.pageSize pPager ret.pPager := by
    refine hreplays.trans ⟨?_, ?_⟩
    · rw [hret]
    · rw [hretCache, hpcache]
      exact .refl _
  have hcached := playbackCache_replays (o := o) (k := k) ret.pPager
    (congrArg (fun cache : PCache => cache.page k) hretCache.symm) (o.length_page hk.1 hk.2.1)
  have hjournalOff : (playbackCache ret.pPager (pPager.pPCache.page k) k (o.page k)).journalOff =
      pPager.journalOff := by
    have hsame : ret.pPager.journalOff = pPager.journalOff :=
      ((congrArg Pager.journalOff hret).trans rfl).trans hoff
    unfold playbackCache
    split_ifs <;> exact hsame
  refine ⟨⟨ret.rc, playbackCache ret.pPager (pPager.pPCache.page k) k (o.page k), ret.world⟩, ?_,
    hretReplays.trans hcached, hjournalOff, hrc, ?_, hrc.imp id fun h => Or.inl h.2,
    fun _ => hlength'.trans hlength, fun hrcok => ⟨hok hrcok, ?_⟩, htorn⟩
  · have hnoWal : ¬ PagerUseWal reserved := hat'.noWal
    have hstart : playbackPage env pPager k (o.page k) w =
        (playbackWrite env reserved k (o.page k) w >>= fun written =>
          pure ⟨written.rc, playbackCache written.pPager
            (if PagerUseWal reserved then none else reserved.pPCache.page k) k (o.page k),
            written.world⟩) := rfl
    rw [hstart, if_neg hnoWal, hpcache, hrun]
    rfl
  · exact (hat.touches htouch).replays (hretReplays.trans hcached).replays
  · have hcache' : CacheRestoredBut o cacheTodo ret.pPager.pPCache := by
      rw [hretCache]
      exact hcache
    have hrestored := playbackCache_restored ret.pPager k hcache'
    rwa [hretCache] at hrestored

theorem CacheRestoredBut.mono {todo more : Nat → Prop} {cache : PCache}
    (h : CacheRestoredBut o todo cache) (himp : ∀ k, todo k → more k) :
    CacheRestoredBut o more cache :=
  fun k hk hle hnot => h k hk hle fun htodo => hnot (himp k htodo)

/-- One playback after another. -/
theorem PlayedBack.append {f j : Nat} {todo cacheTodo : Nat → Prop} {ks ks' : List Nat}
    {w : World σ} {rc : ResultCode} {pPager : Pager}
    (h : PlayedBack view o f j journal (fun k => todo k ∧ k ∉ ks) (fun k => cacheTodo k ∧ k ∉ ks)
      ks' rc pPager w) :
    PlayedBack view o f j journal todo cacheTodo (ks ++ ks') rc pPager w := by
  have hboth : ∀ {more : Nat → Prop} k, (more k ∧ k ∉ ks) ∧ k ∉ ks' → more k ∧ k ∉ ks ++ ks' := by
    intro more k hk
    rw [List.mem_append]
    exact ⟨hk.1.1, fun hmem => hmem.elim hk.1.2 hk.2⟩
  refine ⟨h.playbackAt, h.rc_eq, h.length_eq, ?_, ?_⟩
  · intro hok
    obtain ⟨hdb, hcache⟩ := h.restored hok
    exact ⟨hdb.mono hboth, hcache.mono hboth⟩
  · refine h.torn.mono ?_
    intro k hk
    rw [List.mem_append]
    exact hk.elim (fun htodo => Or.inl htodo.1) fun hmem => Or.inr (Or.inr hmem)

/-- Playing back nothing. -/
theorem PlayedBack.nil {f j : Nat} {todo cacheTodo : Nat → Prop} {pPager : Pager} {w : World σ}
    (hat : PlaybackAt view o f j journal pPager w)
    (hdb : RestoredBut o.pageSize o.content o.nPage todo ((view w.os).data f))
    (hlength : ((view w.os).data f).length = o.content.length)
    (hcache : CacheRestoredBut o cacheTodo pPager.pPCache) :
    PlayedBack view o f j journal todo cacheTodo [] .ok pPager w :=
  ⟨hat, Or.inl rfl, fun _ => hlength,
    fun _ => ⟨hdb.mono fun _ hk => ⟨hk, by simp⟩, hcache.mono fun _ hk => ⟨hk, by simp⟩⟩,
    hdb.mono fun _ hk => Or.inl hk⟩

/-- The pages that `records` names are written to the database file as they are played back. -/
def WritesRecords (pPager : Pager) (last : Nat) : Prop :=
  PlaybackWrites pPager ∧ (pPager.noSync = true ∨ (last : Int) ≤ pPager.journalHdr)

theorem WritesRecords.replays {pPager pPager' : Pager} {last : Nat}
    (h : WritesRecords pPager last) (hreplays : Replays o.pageSize pPager pPager') :
    WritesRecords pPager' last := by
  unfold WritesRecords PlaybackWrites at *
  rw [hreplays.eState, hreplays.noSync, hreplays.journalHdr]
  exact h

theorem PlaybackWrites.replays {pPager pPager' : Pager} {n : Nat} (h : PlaybackWrites pPager)
    (hreplays : Replays n pPager pPager') : PlaybackWrites pPager' := by
  unfold PlaybackWrites at *
  rw [hreplays.eState]
  exact h

theorem WritesRecords.mono {pPager : Pager} {last last' : Nat} (h : WritesRecords pPager last)
    (hle : last' ≤ last) : WritesRecords pPager last' :=
  ⟨h.1, h.2.imp id fun hhdr => le_trans (by omega) hhdr⟩

/-- No record behind `off` is written to the database file, as the journal is not synced so far. -/
def Unsynced (pPager : Pager) (off : Nat) : Prop :=
  pPager.noSync = false ∧ pPager.journalHdr ≤ off

theorem Unsynced.not_writesRecord {pPager pPager' : Pager} {off : Nat} (h : Unsynced pPager off)
    (hreplays : Replays o.pageSize pPager pPager') (hoff : off < pPager'.journalOff) :
    ¬ WritesRecord pPager' := by
  intro hwrites
  rcases hwrites.2 with hnoSync | hle
  · rw [hreplays.noSync, h.1] at hnoSync
    cases hnoSync
  · rw [hreplays.journalHdr] at hle
    have hhdr := h.2
    omega

/-- The loop over the records of a segment plays all of its pages back, or a write fails. The
induction is on the records. -/
theorem playbackRecords_restores (laws : FileLaws env.os view) {f j : Nat}
    (hfuel : o.pageSize ≤ env.writeFuel) (szJ : Int) {off last : Nat} {ks : List Nat}
    (hrecords : Records o cksumInit journal off ks last) {pPager : Pager} {w : World σ}
    {todo cacheTodo : Nat → Prop} {needPagerReset : Bool}
    (hat : PlaybackAt view o f j journal pPager w) (hoff : pPager.journalOff = off)
    (hinit : pPager.cksumInit = cksumInit) (hsize : pPager.pageSize = o.pageSize)
    (hdbSize : pPager.dbSize = o.nPage)
    (hdb : RestoredBut o.pageSize o.content o.nPage todo ((view w.os).data f))
    (hlength : ((view w.os).data f).length = o.content.length)
    (hcache : CacheRestoredBut o cacheTodo pPager.pPCache)
    (hreset : needPagerReset = true → ∀ k, cacheTodo k)
    (hwrites : WritesRecords pPager last ∨ ∀ k ∈ ks, ¬ todo k) :
    ∃ run, playbackRecords env szJ ks.length needPagerReset pPager w = .ok run ∧
      ReplaysRecords o.pageSize pPager run.pPager ∧
      PlayedBack view o f j journal todo cacheTodo ks run.exit.rc run.pPager run.world ∧
      (run.exit = .more ∧ run.pPager.journalOff = last ∧
          (run.needPagerReset = true → ks = [] ∧ needPagerReset = true) ∨
        run.exit = .failed .ioerrWrite ∧ ¬ Unsynced pPager off ∧ PlaybackWrites run.pPager) := by
  induction hrecords generalizing pPager w todo cacheTodo needPagerReset with
  | nil off =>
      exact ⟨_, rfl, .refl _, .nil hat hdb hlength hcache,
        Or.inl ⟨rfl, hoff, fun h => ⟨rfl, h⟩⟩⟩
  | @cons off last k ks hk hbytes hrest ih =>
      let reset : Pager := if needPagerReset then pagerReset pPager else pPager
      have hresetReplays : ReplaysRecords o.pageSize pPager reset := by
        show ReplaysRecords o.pageSize pPager (if _ then _ else _)
        split_ifs
        · exact ⟨rfl, .truncate _ 0⟩
        · exact .refl _
      have hresetOff : reset.journalOff = off := by
        show Pager.journalOff (if _ then _ else _) = _
        split_ifs
        · exact hoff
        · exact hoff
      have hresetCache : CacheRestoredBut o cacheTodo reset.pPCache := by
        show CacheRestoredBut o cacheTodo (Pager.pPCache (if _ then _ else _))
        split_ifs with h
        · exact fun k _ _ hnot => absurd (hreset h k) hnot
        · exact hcache
      have hat' := hat.replays hresetReplays.replays
      obtain ⟨w₁, hone, hsame⟩ := pagerPlaybackOnePage_record laws hat' hresetOff
        (((congrArg Pager.cksumInit hresetReplays.frame).trans rfl).trans hinit)
        (((congrArg Pager.pageSize hresetReplays.frame).trans rfl).trans hsize)
        (((congrArg Pager.dbSize hresetReplays.frame).trans rfl).trans hdbSize) hk hbytes
      let behind : Pager := { reset with journalOff := (off + (o.pageSize + 8) : Nat) }
      have hbehind : ReplaysRecords o.pageSize pPager behind := hresetReplays.trans ⟨rfl, .refl _⟩
      have hle := hrest.off_le
      have hwritesOne : WritesRecord behind ∨ ¬ todo k := by
        rcases hwrites with hall | hclean
        · exact Or.inl ((hall.mono hle).replays hbehind.replays)
        · exact Or.inr (hclean k (List.mem_cons_self))
      obtain ⟨ret, hplay, hretReplays, hretOff, hretRc, hplayed⟩ :=
        playbackPage_restores laws ((hat.undisturbed hsame).replays hbehind.replays)
          (((congrArg Pager.pageSize hbehind.frame).trans rfl).trans hsize) hk hfuel
          (by rw [hsame.data]; exact hdb) (by rw [hsame.data]; exact hlength) hresetCache
          hwritesOne
      have hrun : pagerPlaybackOnePage env reset w = .ok ret := hone.trans hplay
      have hreplays := hbehind.trans hretReplays
      rcases hretRc with hok | ⟨hwritten, hfailed⟩
      · obtain ⟨hdb', hcache'⟩ := hplayed.restored hok
        obtain ⟨rest, hloop, hrestReplays, hrestPlayed, hend⟩ := ih
          hplayed.playbackAt hretOff
          (((congrArg Pager.cksumInit hreplays.frame).trans rfl).trans hinit)
          (((congrArg Pager.pageSize hreplays.frame).trans rfl).trans hsize)
          (((congrArg Pager.dbSize hreplays.frame).trans rfl).trans hdbSize) hdb'
          (hplayed.length_eq hok) hcache'
          (fun h : false = true => by cases h)
          (hwrites.imp (fun hall => hall.replays hreplays.replays) fun hclean l hl htodo =>
            hclean l (List.mem_cons_of_mem k hl) htodo.1)
        refine ⟨{ rest with records := (reset, w) :: rest.records }, ?_,
          hreplays.trans hrestReplays, hrestPlayed.append, ?_⟩
        · show playbackRecords env szJ (ks.length + 1) needPagerReset pPager w = _
          rw [playbackRecords]
          show (pagerPlaybackOnePage env reset w >>= _) = _
          rw [hrun, ok_bind, if_pos hok, hloop]
          rfl
        · rcases hend with ⟨hmore, hlast, hno⟩ | hfailed
          · refine Or.inl ⟨hmore, hlast, fun h => ?_⟩
            obtain ⟨-, hfalse⟩ := hno h
            cases hfalse
          · refine Or.inr ⟨hfailed.1, fun hunsynced => hfailed.2.1 ⟨?_, ?_⟩, hfailed.2.2⟩
            · rw [hreplays.replays.noSync]
              exact hunsynced.1
            · rw [hreplays.replays.journalHdr]
              have hhdr := hunsynced.2
              omega
      · refine ⟨⟨.failed ret.rc, ret.pPager, ret.world, false, [(reset, w)]⟩, ?_, hreplays, ?_,
          Or.inr ⟨by rw [hfailed], fun hunsynced => ?_, hwritten.1.replays hretReplays.replays⟩⟩
        · show playbackRecords env szJ (ks.length + 1) needPagerReset pPager w = _
          rw [playbackRecords]
          show (pagerPlaybackOnePage env reset w >>= _) = _
          rw [hrun, ok_bind, if_neg (by rw [hfailed]; simp), if_neg (by rw [hfailed]; simp),
            if_neg (by rw [hfailed]; simp)]
          rfl
        · show PlayedBack view o f j journal todo cacheTodo (k :: ks) ret.rc ret.pPager ret.world
          have hnot : ret.rc ≠ .ok := by
            rw [hfailed]
            simp
          refine ⟨hplayed.playbackAt, hplayed.rc_eq, fun hok => absurd hok hnot,
            fun hok => absurd hok hnot, ?_⟩
          · refine hplayed.torn.mono fun l hl => hl.imp id fun hmem => ?_
            rw [List.mem_singleton] at hmem
            rw [hmem]
            exact List.mem_cons_self
        · refine hunsynced.not_writesRecord hbehind.replays ?_ hwritten
          show (off : Int) < ((off + (o.pageSize + 8) : Nat) : Int)
          omega

/-! ## Segments -/

/-- Truncating a database that has all its pages cuts it off behind them, or fails. -/
theorem pagerTruncate_restores (laws : FileLaws env.os view) {pPager : Pager} {f j : Nat}
    {w : World σ} (hat : PlaybackAt view o f j journal pPager w)
    (hsize : pPager.pageSize = o.pageSize) (hle : o.content.length ≤ ((view w.os).data f).length)
    (hwrites : PlaybackWrites pPager ∨ ((view w.os).data f).length = o.content.length) :
    ∃ ret, pagerTruncate env pPager o.nPage w = .ok ret ∧
      ret.pPager = { pPager with dbFileSize := ret.pPager.dbFileSize } ∧
      Touches f (view w.os) (view ret.world.os) ∧
      (ret.rc = .ok ∧ (view ret.world.os).data f = ((view w.os).data f).take o.content.length ∨
        ret.rc = .ioerrTruncate ∧ (view ret.world.os).data f = (view w.os).data f ∧
          PlaybackWrites pPager) := by
  have htotal : (pPager.pageSize : Int) * o.nPage = (o.content.length : Nat) := by
    rw [hsize, o.length_eq]
    push_cast
    ring
  have hwhole : ∀ {content : List UInt8}, content.length = o.content.length →
      content = content.take o.content.length :=
    fun h => (List.take_of_length_le (le_of_eq h)).symm
  by_cases hdo : PlaybackWrites pPager
  · obtain ⟨w₁, hfilesize, hsame₁⟩ := verixFileSize_at laws hat.db 0
    have hcond : IsOpen pPager.fd ∧
        (PagerState.writerDbmod.rank ≤ pPager.eState.rank ∨ pPager.eState = .open) :=
      ⟨hat.isOpen, hdo⟩
    by_cases hequal : ((view w.os).data f).length = o.content.length
    · refine ⟨⟨.ok, pPager, w₁⟩, ?_, rfl, hsame₁.touches f, Or.inl ⟨rfl, ?_⟩⟩
      · simp only [pagerTruncate, if_pos hcond, hfilesize, htotal, hequal, ne_eq,
          not_true_eq_false, and_false, if_false]
        rfl
      · show (view w₁.os).data f = _
        rw [hsame₁.data]
        exact hwhole hequal
    · have hlt := o.length_lt
      have hshrinks : (((view w.os).data f).length : Int) > (o.content.length : Nat) := by omega
      have hdiffers : ¬ ((((view w.os).data f).length : Int) = (o.content.length : Nat)) := by
        omega
      obtain ⟨rc, w₂, htruncate, hends, htouch⟩ := verixTruncate_at laws
        (hsame₁.openOn _ _ hat.db.openOn)
        (show ((o.content.length : Nat) : Int) = (o.content.length : Nat) from rfl) (by omega)
      rw [hsame₁.data] at hends
      have hrun : ∀ ret : PagerRet σ, (if rc = .ok then
            pure (f := Except Fault) ⟨.ok, { pPager with dbFileSize := o.nPage }, w₂⟩
          else pure ⟨rc, pPager, w₂⟩) = .ok ret → pagerTruncate env pPager o.nPage w = .ok ret := by
        intro ret hret
        simp only [pagerTruncate, if_pos hcond, hfilesize, htotal, true_and, ne_eq, hdiffers,
          not_false_eq_true, if_true, if_pos hshrinks, htruncate, ok_bind]
        exact hret
      have htouch' := (hsame₁.touches f).trans htouch
      rcases hends with ⟨hrc, -, hdata⟩ | ⟨hrc, hdata⟩
      · exact ⟨_, hrun _ (if_pos hrc), rfl, htouch', Or.inl ⟨rfl, hdata⟩⟩
      · exact ⟨_, hrun _ (if_neg (by rw [hrc]; simp)), rfl, htouch', Or.inr ⟨hrc, hdata, hdo⟩⟩
  · have hequal := hwrites.resolve_left hdo
    have hcond : ¬ (IsOpen pPager.fd ∧
        (PagerState.writerDbmod.rank ≤ pPager.eState.rank ∨ pPager.eState = .open)) :=
      fun h => hdo h.2
    refine ⟨⟨.ok, pPager, w⟩, ?_, rfl, (Undisturbed.refl _).touches f,
      Or.inl ⟨rfl, hwhole hequal⟩⟩
    simp only [pagerTruncate, if_neg hcond]
    rfl

/-- The start of the playback of a segment: at the first header of the journal, the database is
cut off behind its last page. -/
theorem playbackTruncate_restores (laws : FileLaws env.os view) {pPager : Pager} {f j hdr : Nat}
    {w : World σ} {todo : Nat → Prop} (hat : PlaybackAt view o f j journal pPager w)
    (hdb : RestoredBut o.pageSize o.content o.nPage todo ((view w.os).data f))
    (hlater : hdr ≠ 0 →
      pPager.dbSize = o.nPage ∧ ((view w.os).data f).length = o.content.length)
    (hwrites : PlaybackWrites pPager ∨ ((view w.os).data f).length = o.content.length)
    (nRec : UInt32) {start : Pager} (hstart : Replays o.pageSize pPager start)
    (hoff : start.journalOff = (hdr + o.sectorSize : Nat)) (hsize : start.pageSize = o.pageSize)
    (hsame : hdr ≠ 0 → start.dbSize = pPager.dbSize) :
    ∃ ret, playbackTruncate env ⟨.ok, nRec, UInt32.ofNat o.nPage, start, w⟩ = .ok ret ∧
      ret.pPager =
        { start with dbFileSize := ret.pPager.dbFileSize, dbSize := ret.pPager.dbSize } ∧
      Touches f (view w.os) (view ret.world.os) ∧
      RestoredBut o.pageSize o.content o.nPage todo ((view ret.world.os).data f) ∧
      (ret.rc = .ok ∧ ret.pPager.dbSize = o.nPage ∧
          ((view ret.world.os).data f).length = o.content.length ∨
        ret.rc = .ioerrTruncate ∧ PlaybackWrites ret.pPager) := by
  have hle : o.content.length ≤ ((view w.os).data f).length := by
    rw [o.length_eq]
    exact hdb.length_le
  by_cases hzero : hdr = 0
  · have hfirst : start.journalOff = start.journalHdrSz := by
      rw [hoff, Pager.journalHdrSz, hstart.sectorSize, hat.sectorSize, hzero, Nat.zero_add]
    have hwrites' : PlaybackWrites start ∨ ((view w.os).data f).length = o.content.length := by
      unfold PlaybackWrites
      rw [hstart.eState]
      exact hwrites
    obtain ⟨ret, hrun, hret, htouch, hends⟩ :=
      pagerTruncate_restores laws (hat.replays hstart) hsize hle hwrites'
    have hn : (UInt32.ofNat o.nPage).toNat = o.nPage := o.toNat_pgno (le_refl _)
    rcases hends with ⟨hrc, hdata⟩ | ⟨hrc, hdata, hdo⟩
    · refine ⟨⟨ret.rc, { ret.pPager with dbSize := o.nPage }, ret.world⟩, ?_, ?_, htouch, ?_,
        Or.inl ⟨hrc, rfl, ?_⟩⟩
      · simp only [playbackTruncate, if_pos hfirst, hn, hrun, ok_bind, if_pos hrc]
        rfl
      · rw [hret]
      · show RestoredBut _ _ _ _ ((view ret.world.os).data f)
        rw [hdata, o.length_eq]
        exact hdb.take
      · show ((view ret.world.os).data f).length = _
        rw [hdata, List.length_take]
        omega
    · refine ⟨ret, ?_, ?_, htouch, by rw [hdata]; exact hdb,
        Or.inr ⟨hrc, by rw [hret]; exact hdo⟩⟩
      · have hnot : ret.rc ≠ .ok := by
          rw [hrc]
          simp
        simp only [playbackTruncate, if_pos hfirst, hn, hrun, ok_bind, if_neg hnot]
        rfl
      · rw [hret]
  · obtain ⟨hn, hlength⟩ := hlater hzero
    have hnot : start.journalOff ≠ start.journalHdrSz := by
      rw [hoff, Pager.journalHdrSz, hstart.sectorSize, hat.sectorSize]
      omega
    refine ⟨⟨.ok, start, w⟩, ?_, rfl, (Undisturbed.refl _).touches f, hdb,
      Or.inl ⟨rfl, (hsame hzero).trans hn, hlength⟩⟩
    rw [playbackTruncate, if_neg hnot]

/-- Where a playback stands between two segments: at `off`, with what is to do in the database
file and in the cache. Behind the first header the pager knows the sizes of the database. -/
structure PlaybackBetween (view : σ → Disk) (o : Original) (f j : Nat) (journal : List UInt8)
    (todo cacheTodo : Nat → Prop) (off : Nat) (needPagerReset : Bool) (pPager : Pager)
    (w : World σ) : Prop where
  playbackAt : PlaybackAt view o f j journal pPager w
  journalOff : pPager.journalOff = off
  canResize : CanResize pPager o.pageSize
  later : off ≠ 0 → pPager.pageSize = o.pageSize ∧ pPager.dbSize = o.nPage ∧
    ((view w.os).data f).length = o.content.length
  db : RestoredBut o.pageSize o.content o.nPage todo ((view w.os).data f)
  writes : PlaybackWrites pPager ∨ ((view w.os).data f).length = o.content.length
  cache : CacheRestoredBut o cacheTodo pPager.pPCache
  reset : needPagerReset = true ∨ pPager.pageSize ≠ o.pageSize → ∀ k, cacheTodo k

/-- A turn of the loop over the headers plays a segment back and goes on behind it, or fails. -/
theorem playbackHeaders_segment (laws : FileLaws env.os view) {f j : Nat}
    (hfuel : o.pageSize ≤ env.writeFuel) {off middle : Nat} {ks : List Nat} {start : List UInt8}
    (hheader : HeaderAt o journal (o.hdrOffset off) start cksumInit)
    (hrecords : Records o cksumInit journal (o.hdrOffset off + o.sectorSize) ks middle)
    {pPager : Pager} {w : World σ} {todo cacheTodo : Nat → Prop} {needPagerReset isHot : Bool}
    (hat : PlaybackBetween view o f j journal todo cacheTodo off needPagerReset pPager w)
    (hmagic : isHot = true ∨ (o.hdrOffset off : Int) ≠ pPager.journalHdr →
      start.take 8 = aJournalMagic)
    (hcount : (playbackCount (pPager.behindHeader o (o.hdrOffset off) cksumInit) isHot
      journal.length (sqlite3Get4byte (start.drop 8))).toNat = ks.length)
    (hwrites : WritesRecords pPager middle ∨ ∀ k ∈ ks, ¬ todo k) :
    ∃ run, PlayedBack view o f j journal todo cacheTodo ks run.exit.rc run.pPager run.world ∧
      Replays o.pageSize pPager run.pPager ∧
      (Unsynced pPager (o.hdrOffset off + o.sectorSize) →
        RestoredBut o.pageSize o.content o.nPage todo ((view run.world.os).data f)) ∧
      (run.exit = .more ∧
          PlaybackBetween view o f j journal (fun k => todo k ∧ k ∉ ks)
            (fun k => cacheTodo k ∧ k ∉ ks) middle run.needPagerReset run.pPager run.world ∧
          (∀ turns, playbackHeaders env isHot journal.length (turns + 1) needPagerReset pPager w =
            (playbackHeaders env isHot journal.length turns run.needPagerReset run.pPager
              run.world >>= fun rest =>
                pure { rest with records := run.records ++ rest.records })) ∨
        (∃ rc, run.exit = .failed rc ∧ rc.IsIoerr) ∧ PlaybackWrites run.pPager ∧
          ∀ turns, playbackHeaders env isHot journal.length (turns + 1) needPagerReset pPager w =
            .ok run) := by
  have hplaybackAt := hat.playbackAt
  obtain ⟨w₁, hhdr, hsame₁⟩ := readJournalHdr_header laws hplaybackAt.jrnl.openOn
    hplaybackAt.journal_eq hheader hat.journalOff hplaybackAt.sectorSize hat.canResize
    (fun hne => (hat.later hne).1) hmagic
  let behind := pPager.behindHeader o (o.hdrOffset off) cksumInit
  have hbehind : Replays o.pageSize pPager behind := pPager.behindHeader_replays o _ _
  have hbehindSize : behind.pageSize = o.pageSize := pPager.resized_pageSize o.pageSize
  have hoffOf : ∀ {off : Nat}, o.hdrOffset off ≠ 0 → off ≠ 0 := by
    intro off hne hzero
    rw [hzero] at hne
    exact hne rfl
  have hbehindDb : off ≠ 0 → behind.dbSize = pPager.dbSize := by
    intro hne
    show (pPager.resized o.pageSize).dbSize = _
    rw [Pager.resized_self (hat.later hne).1]
  have hbehindCache : CacheRestoredBut o cacheTodo behind.pPCache := by
    by_cases hsize : pPager.pageSize = o.pageSize
    · show CacheRestoredBut o cacheTodo (pPager.resized o.pageSize).pPCache
      rw [Pager.resized_self hsize]
      exact hat.cache
    · exact fun k _ _ hnot => absurd (hat.reset (Or.inr hsize) k) hnot
  obtain ⟨truncated, htruncate, hpager, htouch, hdb, hends⟩ := playbackTruncate_restores laws
    (hplaybackAt.undisturbed hsame₁) (by rw [hsame₁.data]; exact hat.db)
    (fun hne : o.hdrOffset off ≠ 0 => by rw [hsame₁.data]; exact (hat.later (hoffOf hne)).2)
    (by rw [hsame₁.data]; exact hat.writes) (sqlite3Get4byte (start.drop 8)) hbehind
    (by show (o.hdrOffset off : Int) + o.sectorSize = _; omega) hbehindSize
    (fun hne => hbehindDb (hoffOf hne))
  have htruncatedReplays : Replays o.pageSize pPager truncated.pPager := by
    refine hbehind.trans ⟨?_, ?_, ?_⟩
    · rw [hpager]
    · rw [hpager]
      exact id
    · rw [hpager]
      exact .refl _
  have htruncatedAt : PlaybackAt view o f j journal truncated.pPager truncated.world :=
    ((hplaybackAt.undisturbed hsame₁).touches htouch).replays htruncatedReplays
  have hturn : ∀ turns, playbackHeaders env isHot journal.length (turns + 1) needPagerReset pPager
      w = (if truncated.rc ≠ .ok then
          pure ⟨.failed truncated.rc, truncated.pPager, truncated.world, needPagerReset, []⟩
        else playbackRecords env journal.length ks.length needPagerReset truncated.pPager
          truncated.world >>= fun run =>
            if run.exit = .more then
              playbackHeaders env isHot journal.length turns run.needPagerReset run.pPager
                run.world >>= fun rest =>
                  pure { rest with records := run.records ++ rest.records }
            else pure run) := by
    intro turns
    have htruncate' : playbackTruncate env ⟨.ok, sqlite3Get4byte (start.drop 8),
        UInt32.ofNat o.nPage, pPager.behindHeader o (o.hdrOffset off) cksumInit, w₁⟩ =
          .ok truncated := htruncate
    rw [playbackHeaders]
    simp only [hhdr, hcount, htruncate', ok_bind, ne_eq, not_true_eq_false, if_false,
      if_neg (show ¬ ((.ok : ResultCode) = .done) by simp)]
  rcases hends with ⟨hrc, hdbSize, hlength⟩ | ⟨hrc, hdo⟩
  · have hfield : truncated.pPager.journalOff = behind.journalOff ∧
        truncated.pPager.cksumInit = cksumInit ∧
        truncated.pPager.pageSize = behind.pageSize ∧
        truncated.pPager.pPCache = behind.pPCache := by
      rw [hpager]
      exact ⟨rfl, rfl, rfl, rfl⟩
    obtain ⟨hoff', hinit', hsize', hcache'⟩ := hfield
    have hwrites' : WritesRecords truncated.pPager middle ∨ ∀ k ∈ ks, ¬ todo k :=
      hwrites.imp (fun h => h.replays htruncatedReplays) id
    obtain ⟨run, hrun, hrunReplays, hplayed, hend⟩ := playbackRecords_restores laws hfuel
      journal.length hrecords htruncatedAt
      (hoff'.trans (by show (o.hdrOffset off : Int) + o.sectorSize = _; omega)) hinit'
      (hsize'.trans hbehindSize) hdbSize hdb hlength (by rw [hcache']; exact hbehindCache)
      (fun h => hat.reset (Or.inl h)) hwrites'
    have hreplays := htruncatedReplays.trans hrunReplays.replays
    refine ⟨run, hplayed, hreplays, ?_⟩
    rcases hend with ⟨hmore, hlast, hno⟩ | ⟨hfailed, hsynced, hdo⟩
    · have hok : run.exit.rc = .ok := by
        rw [hmore]
        rfl
      refine ⟨fun _ => (hplayed.restored hok).1.mono fun _ hk => hk.1, ?_⟩
      have hrunSize : run.pPager.pageSize = o.pageSize :=
        ((congrArg Pager.pageSize hrunReplays.frame).trans rfl).trans (hsize'.trans hbehindSize)
      have hrunDb : run.pPager.dbSize = o.nPage :=
        ((congrArg Pager.dbSize hrunReplays.frame).trans rfl).trans hdbSize
      refine Or.inl ⟨hmore, ⟨hplayed.playbackAt, hlast, Or.inl hrunSize, fun _ => ⟨hrunSize, hrunDb,
        hplayed.length_eq hok⟩, (hplayed.restored hok).1, Or.inr (hplayed.length_eq hok),
        (hplayed.restored hok).2, ?_⟩, ?_⟩
      · intro h k
        rcases h with hreset | hsize
        · obtain ⟨hnil, hneeds⟩ := hno hreset
          exact ⟨hat.reset (Or.inl hneeds) k, by simp [hnil]⟩
        · exact absurd hrunSize hsize
      · intro turns
        rw [hturn turns, if_neg (not_not.mpr hrc), hrun, ok_bind, if_pos hmore]
    · have hsynced' : ¬ Unsynced pPager (o.hdrOffset off + o.sectorSize) := by
        unfold Unsynced at hsynced ⊢
        rw [htruncatedReplays.noSync, htruncatedReplays.journalHdr] at hsynced
        exact hsynced
      refine ⟨fun hunsynced => absurd hunsynced hsynced',
        Or.inr ⟨⟨_, hfailed, by decide⟩, hdo, ?_⟩⟩
      intro turns
      rw [hturn turns, if_neg (not_not.mpr hrc), hrun, ok_bind, if_neg (by rw [hfailed]; simp)]
      rfl
  · have hnot : truncated.rc ≠ .ok := by
      rw [hrc]
      simp
    refine ⟨⟨.failed truncated.rc, truncated.pPager, truncated.world, needPagerReset, []⟩, ?_,
      htruncatedReplays, fun _ => hdb, Or.inr ⟨⟨_, rfl, by rw [hrc]; decide⟩, hdo, ?_⟩⟩
    · exact ⟨htruncatedAt, Or.inr (Or.inr hrc), fun hok => absurd hok hnot,
        fun hok => absurd hok hnot, hdb.mono fun _ hk => Or.inl hk⟩
    · intro turns
      rw [hturn turns, if_pos hnot]
      rfl

/-- The number of records that a counting header states. -/
theorem playbackCount_counted (pPager : Pager) (isHot : Bool) (szJ : Int) {nRec : Nat}
    (hlt : nRec < 2 ^ 32 - 1)
    (hother : isHot = true ∨ pPager.journalHdr + pPager.journalHdrSz ≠ pPager.journalOff) :
    (playbackCount pPager isHot szJ (sqlite3Get4byte ((countedStart nRec).drop 8))).toNat =
      nRec := by
  have hget : sqlite3Get4byte ((countedStart nRec).drop 8) = UInt32.ofNat nRec :=
    sqlite3Get4byte_put4byte _
  have hnat : (UInt32.ofNat nRec).toNat = nRec := by
    rw [UInt32.toNat_ofNat', Nat.mod_eq_of_lt (by omega)]
  have hne : UInt32.ofNat nRec ≠ 0xffffffff := by
    intro h
    have := congrArg UInt32.toNat h
    rw [hnat] at this
    have hmax : (0xffffffff : UInt32).toNat = 2 ^ 32 - 1 := rfl
    omega
  have hnot : ¬ (UInt32.ofNat nRec = 0 ∧ isHot = false ∧
      pPager.journalHdr + pPager.journalHdrSz = pPager.journalOff) := by
    intro h
    rcases hother with hhot | hoff
    · rw [h.2.1] at hhot
      cases hhot
    · exact hoff h.2.2
  simp only [playbackCount, hget, if_neg hne, if_neg hnot, hnat]

/-- What is left where a playback has failed on pages among `ks`. -/
structure PlaybackFailed (view : σ → Disk) (o : Original) (f j : Nat) (journal : List UInt8)
    (todo : Nat → Prop) (ks : List Nat) (run : PlaybackRun σ) : Prop where
  playbackAt : PlaybackAt view o f j journal run.pPager run.world
  failed : ∃ rc, run.exit = .failed rc ∧ rc.IsIoerr
  writes : PlaybackWrites run.pPager
  torn : RestoredBut o.pageSize o.content o.nPage (fun k => todo k ∨ k ∈ ks)
    ((view run.world.os).data f)

/-- The loop over the headers plays all segments back and goes on behind them, or fails. The
induction is on the segments. -/
theorem playbackHeaders_segments (laws : FileLaws env.os view) {f j : Nat}
    (hfuel : o.pageSize ≤ env.writeFuel) (hlt : journal.length < 2 ^ 31) {off last : Nat}
    {segments : List (List Nat)} (hsegments : Segments o journal off segments last)
    {pPager : Pager} {w : World σ} {todo cacheTodo : Nat → Prop} {needPagerReset isHot : Bool}
    (hat : PlaybackBetween view o f j journal todo cacheTodo off needPagerReset pPager w)
    (hother : isHot = true ∨ (last : Int) ≤ pPager.journalHdr)
    (hwrites : WritesRecords pPager last ∨ ∀ k, ¬ todo k) :
    ∃ run, Replays o.pageSize pPager run.pPager ∧
      (PlaybackBetween view o f j journal (fun k => todo k ∧ k ∉ segments.flatten)
          (fun k => cacheTodo k ∧ k ∉ segments.flatten) last run.needPagerReset run.pPager
          run.world ∧
        (∀ turns, playbackHeaders env isHot journal.length (turns + segments.length)
            needPagerReset pPager w =
          (playbackHeaders env isHot journal.length turns run.needPagerReset run.pPager
            run.world >>= fun rest =>
              pure { rest with records := run.records ++ rest.records })) ∨
      PlaybackFailed view o f j journal todo segments.flatten run ∧
        ∀ turns, playbackHeaders env isHot journal.length (turns + segments.length)
          needPagerReset pPager w = .ok run) := by
  induction hsegments generalizing pPager w todo cacheTodo needPagerReset with
  | nil off =>
      refine ⟨⟨.more, pPager, w, needPagerReset, []⟩, .refl _, Or.inl ⟨?_, ?_⟩⟩
      · simpa using hat
      · intro turns
        show playbackHeaders env isHot journal.length turns needPagerReset pPager w = _
        cases playbackHeaders env isHot journal.length turns needPagerReset pPager w with
        | error fault => rfl
        | ok rest => rfl
  | @cons off middle last cksumInit ks rest hheader hrecords hmiddle hrest ih =>
      have hbehind := hrecords.off_le
      have hend := hrest.off_le
      have hsector := o.le_sectorSize
      have hbelow : isHot = true ∨ (o.hdrOffset off : Int) ≠ pPager.journalHdr :=
        hother.imp id fun hle => by omega
      have hlength : ks.length < 2 ^ 32 - 1 := by
        have heq := hrecords.last_eq
        have hmul : ks.length ≤ ks.length * (o.pageSize + 8) :=
          Nat.le_mul_of_pos_right _ (by omega)
        omega
      have hcount := playbackCount_counted
        (pPager.behindHeader o (o.hdrOffset off) cksumInit) isHot journal.length hlength
        (hbelow.imp id fun hne => by
          have hhdr := (pPager.behindHeader_replays o (o.hdrOffset off) cksumInit).journalHdr
          have hsize := (pPager.behindHeader_replays o (o.hdrOffset off) cksumInit).sectorSize
          rw [Pager.journalHdrSz, hhdr, hsize, hat.playbackAt.sectorSize]
          show _ ≠ (o.hdrOffset off : Int) + o.sectorSize
          omega)
      obtain ⟨run, hplayed, hreplays, -, hturn⟩ := playbackHeaders_segment laws hfuel hheader
        hrecords hat (fun _ => rfl) hcount
        (hwrites.imp (fun h => h.mono hend) fun hclean k _ => hclean k)
      rcases hturn with ⟨-, hbetween, hloop⟩ | ⟨hfailed, hdo, hloop⟩
      · obtain ⟨run', hreplays', hcases⟩ := ih hbetween
          (hother.imp id fun hle => by rw [hreplays.journalHdr]; exact hle)
          (hwrites.imp (fun h => h.replays hreplays) fun hclean k hk => hclean k hk.1)
        refine ⟨{ run' with records := run.records ++ run'.records }, hreplays.trans hreplays', ?_⟩
        have hboth : ∀ {more : Nat → Prop} k, (more k ∧ k ∉ ks) ∧ k ∉ rest.flatten →
            more k ∧ k ∉ (ks :: rest).flatten := by
          intro more k hk
          rw [List.flatten_cons, List.mem_append]
          exact ⟨hk.1.1, fun hmem => hmem.elim hk.1.2 hk.2⟩
        rcases hcases with ⟨hbetween', hloop'⟩ | ⟨hfailed', hloop'⟩
        · refine Or.inl ⟨⟨hbetween'.playbackAt, hbetween'.journalOff, hbetween'.canResize,
            hbetween'.later, hbetween'.db.mono hboth, hbetween'.writes,
            hbetween'.cache.mono hboth, ?_⟩, ?_⟩
          · exact fun h k => hboth k (hbetween'.reset h k)
          · intro turns
            show playbackHeaders env isHot journal.length (turns + rest.length + 1) needPagerReset
              pPager w = _
            rw [hloop, hloop']
            cases playbackHeaders env isHot journal.length turns run'.needPagerReset run'.pPager
              run'.world with
            | error fault => rfl
            | ok final =>
                simp only [ok_bind, List.append_assoc]
                rfl
        · refine Or.inr ⟨⟨hfailed'.playbackAt, hfailed'.failed, hfailed'.writes, ?_⟩, ?_⟩
          · refine hfailed'.torn.mono ?_
            intro k hk
            rw [List.flatten_cons, List.mem_append]
            exact hk.elim (fun htodo => Or.inl htodo.1) fun hmem => Or.inr (Or.inr hmem)
          · intro turns
            show playbackHeaders env isHot journal.length (turns + rest.length + 1) needPagerReset
              pPager w = _
            rw [hloop, hloop']
            rfl
      · refine ⟨run, hreplays, Or.inr ⟨⟨hplayed.playbackAt, hfailed, hdo, ?_⟩, ?_⟩⟩
        · refine hplayed.torn.mono ?_
          intro k hk
          rw [List.flatten_cons, List.mem_append]
          exact hk.imp id Or.inl
        · intro turns
          exact hloop (turns + rest.length)

/-! ## Journals -/

/-- What lies behind the counted segments of a journal: nothing that is read as a header or, while
the pager is still writing it, a segment without a count and less than another record. -/
inductive JournalTail (o : Original) (journal : List UInt8) (isHot : Bool) (journalHdr : Int)
    (last : Nat) : List Nat → Prop where
  | stop : StopsAt o journal (if isHot then none else some journalHdr) last →
      JournalTail o journal isHot journalHdr last []
  | current {cksumInit : UInt32} {ks : List Nat} {next : Nat} : isHot = false →
      journalHdr = o.hdrOffset last →
      HeaderAt o journal (o.hdrOffset last) (List.replicate 12 0) cksumInit →
      Records o cksumInit journal (o.hdrOffset last + o.sectorSize) ks next →
      next ≤ journal.length → journal.length < next + (o.pageSize + 8) →
      StopsAt o journal (some journalHdr) next → JournalTail o journal isHot journalHdr last ks

/-- A header without a count is taken to stand for all whole records behind it. -/
theorem playbackCount_current (pPager : Pager) {hdr last n len : Nat}
    (hsize : pPager.pageSize = o.pageSize)
    (hoff : pPager.journalHdr + pPager.journalHdrSz = pPager.journalOff)
    (hstart : pPager.journalOff = hdr) (hlast : last = hdr + n * (o.pageSize + 8))
    (hle : last ≤ len) (hlt : len < last + (o.pageSize + 8)) (hlen : len < 2 ^ 31) :
    (playbackCount pPager false len (sqlite3Get4byte ((List.replicate 12 0).drop 8))).toNat =
      n := by
  have hget : sqlite3Get4byte ((List.replicate 12 0).drop 8) = 0 := rfl
  have hzero : ¬ ((0 : UInt32) = 0xffffffff) := by decide
  have hcount : ((len : Int) - (hdr : Nat)).tdiv ((o.pageSize : Int) + 8) = n := by
    rw [show (len : Int) - (hdr : Nat) = ((len - hdr : Nat) : Int) from by omega,
      show (o.pageSize : Int) + 8 = ((o.pageSize + 8 : Nat) : Int) from by omega,
      Int.tdiv_eq_ediv_of_nonneg (by omega), ← Int.natCast_ediv]
    congr 1
    rw [Nat.div_eq_of_lt_le]
    · omega
    · rw [Nat.succ_mul]
      omega
  have hn : n ≤ n * (o.pageSize + 8) := Nat.le_mul_of_pos_right _ (by omega)
  have hcond : (0 : UInt32) = 0 ∧ false = false ∧
      pPager.journalHdr + pPager.journalHdrSz = pPager.journalOff := ⟨rfl, rfl, hoff⟩
  rw [playbackCount, hget, if_neg hzero, if_pos hcond, hstart, Pager.journalPgSz, hsize, hcount,
    toInt_natCast (show n < 2 ^ 31 by omega)]
  have hmod : ((n : Int) % 2 ^ 32).toNat = n := by omega
  rw [UInt32.ofInt, hmod, UInt32.toNat_ofNat', Nat.mod_eq_of_lt (by omega)]

/-- How the loop over the headers ends: the database is the original, or a write has failed and
only the pages `counted` need not be it. `unread` says that the journal may have had no header. -/
inductive PlaybackEnds (view : σ → Disk) (o : Original) (f : Nat) (todo cacheTodo : Nat → Prop)
    (counted ks : List Nat) (unread : Prop) (run : PlaybackRun σ) : Prop where
  | restored : run.exit = .endOfJournal → (view run.world.os).data f = o.content →
      CacheRestoredBut o (fun k => cacheTodo k ∧ k ∉ ks) run.pPager.pPCache →
      run.pPager.dbSize = o.nPage ∨ unread →
      PlaybackEnds view o f todo cacheTodo counted ks unread run
  | failed (rc : ResultCode) : run.exit = .failed rc → rc.IsIoerr → ¬ unread →
      PlaybackWrites run.pPager →
      RestoredBut o.pageSize o.content o.nPage (fun k => todo k ∨ k ∈ counted)
        ((view run.world.os).data f) → PlaybackEnds view o f todo cacheTodo counted ks unread run

theorem RestoredBut.eq_content {o : Original} {todo : Nat → Prop} {content : List UInt8}
    (h : RestoredBut o.pageSize o.content o.nPage todo content) (hdone : ∀ k, ¬ todo k)
    (hlength : content.length = o.content.length) : content = o.content :=
  h.eq_original hdone o.length_eq (hlength.trans o.length_eq)

/-- The last two turns of the loop over the headers. -/
theorem playbackHeaders_tail (laws : FileLaws env.os view) {f j : Nat}
    (hfuel : o.pageSize ≤ env.writeFuel) (hlt : journal.length < 2 ^ 31) {last : Nat}
    {ks : List Nat} {pPager : Pager} {w : World σ} {todo cacheTodo : Nat → Prop}
    {needPagerReset isHot : Bool}
    (htail : JournalTail o journal isHot pPager.journalHdr last ks)
    (hat : PlaybackBetween view o f j journal todo cacheTodo last needPagerReset pPager w)
    (hclean : ∀ k, ¬ todo k) (hnoSync : isHot = true ∨ pPager.noSync = false)
    (hwhole : last = 0 → StopsAt o journal (if isHot then none else some pPager.journalHdr) last →
      (view w.os).data f = o.content) (turns : Nat) :
    ∃ run, playbackHeaders env isHot journal.length (turns + 2) needPagerReset pPager w =
        .ok run ∧ Replays o.pageSize pPager run.pPager ∧
      PlaybackAt view o f j journal run.pPager run.world ∧
      PlaybackEnds view o f todo cacheTodo [] ks
        (last = 0 ∧ StopsAt o journal (if isHot then none else some pPager.journalHdr) last)
        run := by
  -- a turn that finds no header
  have hstopped : ∀ {off : Nat} {todo cacheTodo : Nat → Prop} {needPagerReset : Bool}
      {pPager : Pager} {w : World σ} (turns : Nat),
      PlaybackBetween view o f j journal todo cacheTodo off needPagerReset pPager w →
      (∀ k, ¬ todo k) →
      StopsAt o journal (if isHot then none else some pPager.journalHdr) off →
      (off = 0 → (view w.os).data f = o.content) →
      ∃ run, playbackHeaders env isHot journal.length (turns + 1) needPagerReset pPager w =
          .ok run ∧ run.pPager = pPager.atHeader ∧
        PlaybackAt view o f j journal run.pPager run.world ∧ run.exit = .endOfJournal ∧
        (view run.world.os).data f = o.content := by
    intro off todo cacheTodo needPagerReset pPager w turns hat hclean hstop hzero
    obtain ⟨w', hhdr, hsame⟩ := readJournalHdr_stop laws hat.playbackAt.jrnl.openOn
      hat.playbackAt.journal_eq hat.journalOff hat.playbackAt.sectorSize hstop
    refine ⟨⟨.endOfJournal, pPager.atHeader, w', needPagerReset, []⟩, ?_, rfl,
      (hat.playbackAt.undisturbed hsame).replays pPager.atHeader_replays, rfl, ?_⟩
    · simp only [playbackHeaders, hhdr, if_true]
      rfl
    · show (view w'.os).data f = o.content
      rw [hsame.data]
      by_cases hoff : off = 0
      · exact hzero hoff
      · exact hat.db.eq_content hclean (hat.later hoff).2.2
  cases htail with
  | stop hstop =>
      obtain ⟨run, hrun, hpager, hrunAt, hexit, hdata⟩ :=
        hstopped (turns + 1) hat hclean hstop fun hzero => hwhole hzero hstop
      refine ⟨run, hrun, by rw [hpager]; exact pPager.atHeader_replays, hrunAt,
        .restored hexit hdata ?_ ?_⟩
      · rw [hpager]
        exact hat.cache.mono fun _ hk => ⟨hk, by simp⟩
      · by_cases hzero : last = 0
        · exact Or.inr ⟨hzero, hstop⟩
        · rw [hpager]
          exact Or.inl (hat.later hzero).2.1
  | @current cksumInit _ next hcold hhdr hheader hrecords hle hshort hstop =>
      subst hcold
      have hbehind := hrecords.off_le
      have hsector := o.le_sectorSize
      let behind := pPager.behindHeader o (o.hdrOffset last) cksumInit
      have hreplays : Replays o.pageSize pPager behind := pPager.behindHeader_replays o _ _
      have hcount := playbackCount_current behind (n := ks.length)
        (pPager.resized_pageSize o.pageSize)
        (by
          rw [Pager.journalHdrSz, hreplays.journalHdr, hreplays.sectorSize,
            hat.playbackAt.sectorSize, hhdr]
          rfl)
        (show behind.journalOff = ((o.hdrOffset last + o.sectorSize : Nat) : Int) from by
          show (o.hdrOffset last : Int) + o.sectorSize = _
          omega) hrecords.last_eq hle hshort hlt
      obtain ⟨run, hplayed, hrunReplays, htorn, hturn⟩ := playbackHeaders_segment laws hfuel hheader
        hrecords hat (fun hasked => absurd hasked (by simp [hhdr])) hcount
        (Or.inr fun k _ => hclean k)
      rcases hturn with ⟨-, hbetween, hloop⟩ | ⟨⟨rc, hexit, hrc⟩, hdo, hloop⟩
      · obtain ⟨final, hfinal, hpager, hfinalAt, hexit, hdata⟩ := hstopped turns hbetween
          (fun k hk => hclean k hk.1)
          (show StopsAt o journal (some run.pPager.journalHdr) next by
            rw [hrunReplays.journalHdr]
            exact hstop)
          (by omega)
        refine ⟨{ final with records := run.records ++ final.records }, ?_, ?_, hfinalAt,
          .restored hexit hdata ?_ ?_⟩
        · rw [hloop, hfinal]
          rfl
        · show Replays o.pageSize pPager final.pPager
          rw [hpager]
          exact hrunReplays.trans run.pPager.atHeader_replays
        · show CacheRestoredBut o _ final.pPager.pPCache
          rw [hpager]
          exact hbetween.cache
        · left
          show final.pPager.dbSize = o.nPage
          rw [hpager]
          exact (hbetween.later (by omega)).2.1
      · have hread : ¬ StopsAt o journal (some pPager.journalHdr) last := fun hstops =>
          (hstops hheader.sector_le).1 (by rw [hhdr])
        have hunsynced : Unsynced pPager (o.hdrOffset last + o.sectorSize) := by
          refine ⟨hnoSync.resolve_left (by simp), ?_⟩
          rw [hhdr]
          omega
        exact ⟨run, hloop _, hrunReplays, hplayed.playbackAt,
          .failed rc hexit hrc (fun h => hread h.2) hdo
            ((htorn hunsynced).mono fun _ hk => Or.inl hk)⟩

/-- The loop over the headers plays the whole journal back, or fails. -/
theorem playbackHeaders_restores (laws : FileLaws env.os view) {f j : Nat}
    (hfuel : o.pageSize ≤ env.writeFuel) (hlt : journal.length < 2 ^ 31) {last : Nat}
    {segments : List (List Nat)} {ks : List Nat} (hsegments : Segments o journal 0 segments last)
    {pPager : Pager} {w : World σ} {todo cacheTodo : Nat → Prop} {needPagerReset isHot : Bool}
    (htail : JournalTail o journal isHot pPager.journalHdr last ks)
    (hat : PlaybackBetween view o f j journal todo cacheTodo 0 needPagerReset pPager w)
    (hother : isHot = true ∨ (last : Int) ≤ pPager.journalHdr)
    (hwrites : WritesRecords pPager last ∨ ∀ k, ¬ todo k)
    (htodo : ∀ k, todo k → k ∈ segments.flatten)
    (hnoSync : isHot = true ∨ pPager.noSync = false)
    (hwhole : segments = [] →
      StopsAt o journal (if isHot then none else some pPager.journalHdr) last →
      (view w.os).data f = o.content) (turns : Nat) :
    ∃ run, playbackHeaders env isHot journal.length (turns + 2 + segments.length) needPagerReset
        pPager w = .ok run ∧ Replays o.pageSize pPager run.pPager ∧
      PlaybackAt view o f j journal run.pPager run.world ∧
      PlaybackEnds view o f todo cacheTodo segments.flatten (segments.flatten ++ ks)
        (segments = [] ∧
          StopsAt o journal (if isHot then none else some pPager.journalHdr) last) run := by
  cases hsegments with
  | nil =>
      have hclean : ∀ k, ¬ todo k := fun k hk => by simpa using htodo k hk
      obtain ⟨run, hrun, hreplays, hrunAt, hends⟩ := playbackHeaders_tail laws hfuel hlt htail hat
        hclean hnoSync (fun _ => hwhole rfl) turns
      refine ⟨run, hrun, hreplays, hrunAt, ?_⟩
      cases hends with
      | restored hexit hdata hcache hsize =>
          exact .restored hexit hdata hcache (hsize.imp id fun h => ⟨rfl, h.2⟩)
      | failed rc hexit hrc hread hdo htorn =>
          exact .failed rc hexit hrc (fun h => hread ⟨rfl, h.2⟩) hdo htorn
  | @cons _ middle _ init first rest hheader hrecords hmiddle hrest =>
      have hsegments : Segments o journal 0 (first :: rest) last :=
        .cons hheader hrecords hmiddle hrest
      have hbehind := hrecords.off_le
      have hend := hrest.off_le
      have hsector := o.le_sectorSize
      obtain ⟨run, hreplays, ⟨hbetween, hloop⟩ | ⟨hfailed, hloop⟩⟩ :=
        playbackHeaders_segments laws hfuel hlt hsegments hat hother hwrites
      · have hhdr := hreplays.journalHdr
        obtain ⟨final, hfinal, hfinalReplays, hfinalAt, hends⟩ := playbackHeaders_tail laws hfuel
          hlt (by rw [hhdr]; exact htail) hbetween (fun k hk => hk.2 (htodo k hk.1))
          (by rw [hreplays.noSync]; exact hnoSync) (fun hzero => by omega) turns
        refine ⟨{ final with records := run.records ++ final.records }, ?_,
          hreplays.trans hfinalReplays, hfinalAt, ?_⟩
        · rw [hloop, hfinal]
          rfl
        · cases hends with
          | restored hexit hdata hcache hsize =>
              refine .restored hexit hdata (hcache.mono ?_) (hsize.imp id fun h => by omega)
              intro k hk
              rw [List.mem_append]
              exact ⟨hk.1.1, fun hmem => hmem.elim hk.1.2 hk.2⟩
          | failed rc hexit hrc hread hdo htorn =>
              refine .failed rc hexit hrc (fun h => by cases h.1) hdo (htorn.mono ?_)
              exact fun k hk => Or.inl (hk.resolve_right List.not_mem_nil).1
      · obtain ⟨rc, hexit, hrc⟩ := hfailed.failed
        refine ⟨run, hloop _, hreplays, hfailed.playbackAt,
          .failed rc hexit hrc (fun h => by cases h.1) hfailed.writes hfailed.torn⟩

end VxSqlite
