import VxSqlite.Pager.Journal

/-!
# The playback of a journal ends

Every turn of the loop over the headers of a journal moves `journalOff` past a header that lies
within the file, and nothing between two headers moves it back. `playbackHeaders_fuel_enough`
turns this into a bound: the loop of `pagerPlayback` is never cut off by the number of turns that
the model gives it.
-/

namespace VxSqlite

variable {σ : Type} {env : Env σ}

/-- The second pager reads the same journal, no earlier than the first. -/
structure Pager.Advances (pPager pPager' : Pager) : Prop where
  journalOff : pPager.journalOff ≤ pPager'.journalOff
  sectorSize : pPager'.sectorSize = pPager.sectorSize

theorem Pager.Advances.refl (pPager : Pager) : pPager.Advances pPager := ⟨le_refl _, rfl⟩

theorem Pager.Advances.trans {first second third : Pager} (h : first.Advances second)
    (h' : second.Advances third) : first.Advances third :=
  ⟨h.journalOff.trans h'.journalOff, h'.sectorSize.trans h.sectorSize⟩

theorem pagerReset_advances (pPager : Pager) : pPager.Advances (pagerReset pPager) :=
  ⟨le_refl _, rfl⟩

theorem sqlite3PagerSetPagesize_advances (env : Env σ) (pPager : Pager) (pageSize : Nat)
    (nReserve : Int) (w : World σ) :
    pPager.Advances (sqlite3PagerSetPagesize env pPager pageSize nReserve w).pPager := by
  unfold sqlite3PagerSetPagesize
  dsimp only
  split_ifs <;> exact ⟨le_refl _, rfl⟩

theorem pagerTruncate_advances {pPager : Pager} {nPage : Nat} {w : World σ} {ret : PagerRet σ}
    (h : pagerTruncate env pPager nPage w = .ok ret) : pPager.Advances ret.pPager := by
  simp only [pagerTruncate] at h
  split at h
  · split at h
    · obtain ⟨changed, -, hret⟩ := bind_eq_ok_iff.mp h
      split at hret
      · cases hret
        exact ⟨le_refl _, rfl⟩
      · cases hret
        exact .refl _
    · cases h
      exact .refl _
  · cases h
    exact .refl _

/-! ## Headers -/

/-- A header starts at or behind the place where the journal was read last. -/
theorem le_journalHdrOffset {pPager : Pager} (hsector : 0 < pPager.sectorSize)
    (hoff : 0 ≤ pPager.journalOff) : pPager.journalOff ≤ journalHdrOffset pPager := by
  unfold journalHdrOffset Pager.journalHdrSz
  split_ifs with hne
  · have hpos : (0 : Int) < pPager.sectorSize := by omega
    have hdiv : (pPager.journalOff - 1).tdiv pPager.sectorSize =
        (pPager.journalOff - 1) / pPager.sectorSize :=
      Int.tdiv_eq_ediv_of_nonneg (by omega)
    rw [hdiv]
    have hlt := Int.lt_ediv_add_one_mul_self (pPager.journalOff - 1) hpos
    omega
  · omega

/-- The first header settles a sector size of at least 32 bytes; every header is as long as a
sector. -/
theorem readJournalSizes_advances {pPager : Pager} {iHdrOff : Int} {nRec dbSize : UInt32}
    {w : World σ} {hdr : JournalHdr σ} (hsector : 0 < pPager.sectorSize)
    (hhdr : readJournalSizes env pPager iHdrOff nRec dbSize w = hdr) (hrc : hdr.rc = .ok) :
    pPager.journalOff < hdr.pPager.journalOff ∧ 0 < hdr.pPager.sectorSize := by
  simp only [readJournalSizes] at hhdr
  split at hhdr
  · generalize read32bits env pPager.jfd (iHdrOff + 20) w = sector at hhdr
    split at hhdr
    · rename_i hfailed
      subst hhdr
      exact absurd hrc hfailed
    · generalize read32bits env pPager.jfd (iHdrOff + 24) sector.2.2 = page at hhdr
      split at hhdr
      · rename_i hfailed
        subst hhdr
        exact absurd hrc hfailed
      · generalize (if page.2.1 = 0 then UInt32.ofNat pPager.pageSize else page.2.1) = iPageSize
          at hhdr
        split at hhdr
        · subst hhdr
          cases hrc
        · rename_i hvalid
          have hle : (32 : UInt32) ≤ sector.2.1 := (not_not.mp hvalid).2.1
          have hmin : 32 ≤ sector.2.1.toNat := UInt32.le_iff_toNat_le.mp hle
          have hoff :=
            (sqlite3PagerSetPagesize_advances env pPager iPageSize.toNat (-1) page.2.2).journalOff
          subst hhdr
          simp only [Pager.journalHdrSz]
          omega
  · subst hhdr
    simp only [Pager.journalHdrSz]
    omega

theorem readJournalFields_advances {pPager : Pager} {iHdrOff : Int} {w : World σ}
    {hdr : JournalHdr σ} (hsector : 0 < pPager.sectorSize)
    (hhdr : readJournalFields env pPager iHdrOff w = hdr) (hrc : hdr.rc = .ok) :
    pPager.journalOff < hdr.pPager.journalOff ∧ 0 < hdr.pPager.sectorSize := by
  simp only [readJournalFields] at hhdr
  split at hhdr
  · rename_i hfailed
    subst hhdr
    exact absurd hrc hfailed
  · split at hhdr
    · rename_i hfailed
      subst hhdr
      exact absurd hrc hfailed
    · split at hhdr
      · rename_i hfailed
        subst hhdr
        exact absurd hrc hfailed
      · have hsizes := readJournalSizes_advances (by exact hsector) hhdr hrc
        exact hsizes

/-- A header that is read lies within the journal, and its records lie further on. -/
theorem readJournalHdr_advances {pPager : Pager} {isHot : Bool} {szJ : Int} {w : World σ}
    {hdr : JournalHdr σ} (hsector : 0 < pPager.sectorSize) (hoff : 0 ≤ pPager.journalOff)
    (hhdr : readJournalHdr env pPager isHot szJ w = hdr) (hrc : hdr.rc = .ok) :
    pPager.journalOff < szJ ∧ pPager.journalOff < hdr.pPager.journalOff ∧
      0 < hdr.pPager.sectorSize := by
  have hstart := le_journalHdrOffset hsector hoff
  have hlater : ∀ {w : World σ}, readJournalFields env
      { pPager with journalOff := journalHdrOffset pPager } (journalHdrOffset pPager) w = hdr →
      pPager.journalOff < hdr.pPager.journalOff ∧ 0 < hdr.pPager.sectorSize := by
    intro w hfields
    obtain ⟨hlt, hpos⟩ := readJournalFields_advances (by exact hsector) hfields hrc
    exact ⟨lt_of_le_of_lt hstart hlt, hpos⟩
  simp only [readJournalHdr] at hhdr
  split at hhdr
  · subst hhdr
    cases hrc
  · rename_i hinside
    simp only [Pager.journalHdrSz] at hinside
    refine ⟨by omega, ?_⟩
    split at hhdr
    · split at hhdr
      · rename_i hfailed
        subst hhdr
        exact absurd hrc hfailed
      · split at hhdr
        · subst hhdr
          cases hrc
        · exact hlater hhdr
    · exact hlater hhdr

/-! ## Records -/

theorem playbackWrite_advances {pPager : Pager} {pgno : Nat} {aData : List UInt8} {w : World σ}
    {ret : PagerRet σ} (h : playbackWrite env pPager pgno aData w = .ok ret) :
    pPager.Advances ret.pPager := by
  simp only [playbackWrite] at h
  split at h
  · obtain ⟨write, -, hret⟩ := bind_eq_ok_iff.mp h
    cases hret
    exact ⟨le_refl _, rfl⟩
  · cases h
    exact .refl _

theorem playbackCache_advances (pPager : Pager) (pPg : Option (List UInt8)) (pgno : Nat)
    (aData : List UInt8) : pPager.Advances (playbackCache pPager pPg pgno aData) := by
  unfold playbackCache
  split_ifs <;> exact ⟨le_refl _, rfl⟩

theorem playbackPage_advances {pPager : Pager} {pgno : Nat} {aData : List UInt8} {w : World σ}
    {ret : PagerRet σ} (h : playbackPage env pPager pgno aData w = .ok ret) :
    pPager.Advances ret.pPager := by
  obtain ⟨written, hwritten, hret⟩ := bind_eq_ok_iff.mp h
  cases hret
  refine Pager.Advances.trans ?_ (playbackCache_advances _ _ _ _)
  have hwrite := playbackWrite_advances hwritten
  split at hwrite
  · exact ⟨hwrite.journalOff, hwrite.sectorSize⟩
  · exact hwrite

/-- Reading a record leaves `journalOff` where it is or moves it behind the record. -/
theorem pagerPlaybackOnePage_advances {pPager : Pager} {w : World σ} {ret : PagerRet σ}
    (h : pagerPlaybackOnePage env pPager w = .ok ret) : pPager.Advances ret.pPager := by
  have hbehind : pPager.Advances
      { pPager with journalOff := pPager.journalOff + pPager.pageSize + 4 + 4 } :=
    ⟨by show pPager.journalOff ≤ pPager.journalOff + pPager.pageSize + 4 + 4; omega, rfl⟩
  simp only [pagerPlaybackOnePage] at h
  split at h
  · cases h
    exact .refl _
  · split at h
    · cases h
      exact .refl _
    · split at h
      · cases h
        exact hbehind
      · split at h
        · cases h
          exact hbehind
        · split at h
          · cases h
            exact hbehind
          · split at h
            · cases h
              exact hbehind
            · exact hbehind.trans (playbackPage_advances h)

/-- The loop over the records goes on to the next header from the last record, or from the end of
the journal. -/
theorem playbackRecords_advances {szJ : Int} {nRec : Nat} {needPagerReset : Bool} {pPager : Pager}
    {w : World σ} {run : PlaybackRun σ}
    (hrun : playbackRecords env szJ nRec needPagerReset pPager w = .ok run)
    (hmore : run.exit = .more) :
    min szJ pPager.journalOff ≤ run.pPager.journalOff ∧
      run.pPager.sectorSize = pPager.sectorSize := by
  induction nRec generalizing needPagerReset pPager w run with
  | zero =>
      cases hrun
      exact ⟨min_le_right _ _, rfl⟩
  | succ nRec ih =>
      unfold playbackRecords at hrun
      have hreset : pPager.Advances (if needPagerReset then pagerReset pPager else pPager) := by
        split_ifs
        · exact pagerReset_advances pPager
        · exact .refl _
      generalize (if needPagerReset then pagerReset pPager else pPager) = reset at hreset hrun
      obtain ⟨played, hplayed, hrun⟩ := bind_eq_ok_iff.mp hrun
      have hadvances := hreset.trans (pagerPlaybackOnePage_advances hplayed)
      split at hrun
      · obtain ⟨rest, hrest, hrun⟩ := bind_eq_ok_iff.mp hrun
        cases hrun
        obtain ⟨hle, hsize⟩ := ih hrest hmore
        have hfirst := hadvances.journalOff
        refine ⟨?_, hsize.trans hadvances.sectorSize⟩
        show min szJ pPager.journalOff ≤ rest.pPager.journalOff
        omega
      · split at hrun
        · -- `SQLITE_DONE` sets `journalOff` to the end of the journal, which may be a step back
          cases hrun
          exact ⟨min_le_left _ _, hadvances.sectorSize⟩
        · split at hrun
          · -- the two exits that do not go on to another header
            cases hrun
            cases hmore
          · cases hrun
            cases hmore

theorem playbackTruncate_advances {hdr : JournalHdr σ} {ret : PagerRet σ}
    (h : playbackTruncate env hdr = .ok ret) : hdr.pPager.Advances ret.pPager := by
  unfold playbackTruncate at h
  split at h
  · obtain ⟨truncated, htruncated, hret⟩ := bind_eq_ok_iff.mp h
    have hadvances := pagerTruncate_advances htruncated
    split at hret
    · cases hret
      exact ⟨hadvances.journalOff, hadvances.sectorSize⟩
    · cases hret
      exact hadvances
  · cases h
    exact .refl _

/-! ## The loop over the headers -/

/-- Once there are more turns than bytes left in the journal, further turns change nothing. The
induction is on the turns. -/
theorem playbackHeaders_fuel_enough {isHot : Bool} {szJ : Int} {fuel : Nat} {needPagerReset : Bool}
    {pPager : Pager} {w : World σ} (hsector : 0 < pPager.sectorSize)
    (hoff : 0 ≤ pPager.journalOff) (hfuel : (szJ - pPager.journalOff).toNat < fuel) (extra : Nat) :
    playbackHeaders env isHot szJ (fuel + extra) needPagerReset pPager w =
      playbackHeaders env isHot szJ fuel needPagerReset pPager w := by
  induction fuel generalizing needPagerReset pPager w with
  | zero => cases hfuel
  | succ fuel ih =>
      rw [Nat.succ_add]
      simp only [playbackHeaders]
      generalize hhdr : readJournalHdr env pPager isHot szJ w = hdr
      split
      · rfl
      · split
        · rfl
        · rename_i hdone hok
          obtain ⟨hinside, hbehind, hpos⟩ :=
            readJournalHdr_advances hsector hoff hhdr (not_not.mp hok)
          cases htruncated : playbackTruncate env hdr with
          | error fault => rfl
          | ok truncated =>
              have hadvances := playbackTruncate_advances htruncated
              simp only [ok_bind]
              split
              · rfl
              · generalize hrecords : playbackRecords env szJ _ needPagerReset truncated.pPager
                  truncated.world = records
                cases records with
                | error fault => rfl
                | ok run =>
                    simp only [ok_bind]
                    split
                    · rename_i hmore
                      obtain ⟨hle, hsize⟩ := playbackRecords_advances hrecords hmore
                      have hlater := hadvances.journalOff
                      have hsame := hadvances.sectorSize
                      rw [ih (by omega) (by omega) (by omega)]
                    · rfl

/-- The turns that `pagerPlayback` gives to its loop are enough for every journal. -/
theorem pagerPlayback_turns_enough {pPager : Pager} (hsector : 0 < pPager.sectorSize)
    (isHot : Bool) (szJ : Int) (extra : Nat) (w : World σ) :
    playbackHeaders env isHot szJ (szJ.toNat + 2 + extra) isHot { pPager with journalOff := 0 } w =
      playbackHeaders env isHot szJ (szJ.toNat + 2) isHot { pPager with journalOff := 0 } w := by
  refine playbackHeaders_fuel_enough ?_ ?_ ?_ extra
  · exact hsector
  · exact le_refl 0
  · show (szJ - 0).toNat < szJ.toNat + 2
    omega

end VxSqlite
