import VxSqlite.Pager.JournalFormat

/-!
# Appending to the journal

What the pager writes behind the end of its journal is appended to it, or, if a write fails, a
proper prefix of it. So the functions that write a header and a record leave exactly the bytes of
the journal's format.
-/

namespace VxSqlite

variable {σ : Type} {env : Env σ} {view : σ → Disk} {o : Original}

/-! ## Appending -/

/-- The text lies behind the old content, or an error is returned and no more than a proper prefix
of it does. -/
def Appends (content text : List UInt8) (rc : ResultCode) (content' : List UInt8) : Prop :=
  rc = .ok ∧ content' = content ++ text ∨
    rc = .ioerrWrite ∧ ∃ m < text.length, content' = content ++ text.take m

namespace Appends

variable {content content' content'' first second : List UInt8} {rc : ResultCode}

theorem nil (content : List UInt8) : Appends content [] .ok content :=
  Or.inl ⟨rfl, (List.append_nil content).symm⟩

theorem content_eq (h : Appends content first .ok content') : content' = content ++ first := by
  rcases h with ⟨-, heq⟩ | ⟨hrc, -⟩
  · exact heq
  · cases hrc

theorem trans (h : Appends content first .ok content') (h' : Appends content' second rc content'') :
    Appends content (first ++ second) rc content'' := by
  have heq := h.content_eq
  rcases h' with ⟨hrc, hwhole⟩ | ⟨hrc, m, hm, hpart⟩
  · exact Or.inl ⟨hrc, by rw [hwhole, heq, List.append_assoc]⟩
  · refine Or.inr ⟨hrc, first.length + m, ?_, ?_⟩
    · rw [List.length_append]
      omega
    · rw [hpart, heq, List.append_assoc, List.take_length_add_append]

/-- What fails at a part of the text fails at the text. -/
theorem stop (h : Appends content first rc content') (hrc : rc ≠ .ok) (second : List UInt8) :
    Appends content (first ++ second) rc content' := by
  rcases h with ⟨hok, -⟩ | ⟨hrc', m, hm, hpart⟩
  · exact absurd hok hrc
  · refine Or.inr ⟨hrc', m, ?_, ?_⟩
    · rw [List.length_append]
      omega
    · rw [hpart, List.take_append_of_le_length (by omega)]

end Appends

/-- A write at the end of a file appends. -/
theorem verixWrite_append (laws : FileLaws env.os view) {pFile : VerixFile} {f : Nat} {w : World σ}
    (hopen : OpenOn (view w.os) pFile f) {pBuf : List UInt8} (hne : pBuf ≠ []) {pos : Int}
    (hpos : pos = ((view w.os).data f).length) (hfuel : pBuf.length ≤ env.writeFuel) :
    ∃ rc w', verixWrite env pFile pBuf pos w = .ok (rc, w') ∧
      Appends ((view w.os).data f) pBuf rc ((view w'.os).data f) ∧
      Touches f (view w.os) (view w'.os) := by
  have hlt := (view w.os).size_lt f
  obtain ⟨rc, w', hwrite, hends, htouch⟩ := verixWrite_at laws hopen hne hpos (by omega) hfuel
  refine ⟨rc, w', hwrite, ?_, htouch⟩
  rcases hends with ⟨hrc, -, hdata⟩ | ⟨hrc, m, hm, -, hdata⟩
  · exact Or.inl ⟨hrc, by rw [hdata, overlay_length]⟩
  · exact Or.inr ⟨hrc, m, hm, by rw [hdata, overlay_length]⟩

/-- A write past the end of a file fails and leaves the file as it is. -/
theorem verixWrite_gap (laws : FileLaws env.os view) {pFile : VerixFile} {f : Nat} {w : World σ}
    (hopen : OpenOn (view w.os) pFile f) {pBuf : List UInt8} (hne : pBuf ≠ []) {pos : Int}
    {offset : Nat} (hpos : pos = offset) (hlt : offset < 2 ^ 32)
    (hgap : ((view w.os).data f).length < offset) (hfuel : pBuf.length ≤ env.writeFuel) :
    ∃ w', verixWrite env pFile pBuf pos w = .ok (.ioerrWrite, w') ∧
      Undisturbed (view w.os) (view w'.os) := by
  obtain ⟨rc, w', hwrite, hends, htouch⟩ := verixWrite_at laws hopen hne hpos hlt hfuel
  rcases hends with ⟨-, hle, -⟩ | ⟨rfl, m, -, hle, hdata⟩
  · omega
  · refine ⟨w', hwrite, htouch.undisturbed ?_⟩
    rw [hdata, hle.resolve_left (by omega), List.take_zero, overlay_nil]

/-! ## Headers -/

namespace Original

variable (o : Original)

/-- The buffer that is written until a header fills its sector. -/
def hdrBuffer (cksumInit : UInt32) : List UInt8 :=
  List.replicate 12 0 ++ o.hdrFields cksumInit ++
    List.replicate (min o.pageSize o.sectorSize - 28) 0

/-- The sector of a header whose records are not counted yet. -/
def hdrSector (cksumInit : UInt32) : List UInt8 :=
  (List.replicate (o.sectorSize / min o.pageSize o.sectorSize) (o.hdrBuffer cksumInit)).flatten

theorem le_min : 32 ≤ min o.pageSize o.sectorSize := by
  have hpage := o.le_pageSize
  have hsector := o.le_sectorSize
  omega

theorem length_hdrBuffer (cksumInit : UInt32) :
    (o.hdrBuffer cksumInit).length = min o.pageSize o.sectorSize := by
  have hmin := o.le_min
  rw [hdrBuffer, List.length_append, List.length_append, List.length_replicate,
    List.length_replicate, o.length_hdrFields]
  omega

theorem length_hdrSector (cksumInit : UInt32) : (o.hdrSector cksumInit).length = o.sectorSize := by
  rw [hdrSector, List.length_flatten, List.map_replicate, List.sum_replicate_nat,
    o.length_hdrBuffer, Nat.div_mul_cancel o.min_dvd_sectorSize]

theorem hdrSector_eq (cksumInit : UInt32) :
    ∃ rest, o.hdrSector cksumInit = List.replicate 12 0 ++ o.hdrFields cksumInit ++ rest := by
  have hpos : 0 < o.sectorSize / min o.pageSize o.sectorSize := by
    have hmin := o.le_min
    exact Nat.div_pos (Nat.min_le_right _ _) (by omega)
  obtain ⟨m, hm⟩ := Nat.exists_eq_succ_of_ne_zero (Nat.pos_iff_ne_zero.mp hpos)
  refine ⟨List.replicate (min o.pageSize o.sectorSize - 28) 0 ++
    (List.replicate m (o.hdrBuffer cksumInit)).flatten, ?_⟩
  rw [hdrSector, hm, List.replicate_succ, List.flatten_cons, ← List.append_assoc]
  rfl

end Original

/-- A header sector behind the end of a journal is a header. -/
theorem HeaderAt.append (journal : List UInt8) (cksumInit : UInt32) :
    HeaderAt o (journal ++ o.hdrSector cksumInit) journal.length (List.replicate 12 0)
      cksumInit := by
  obtain ⟨rest, hsector⟩ := o.hdrSector_eq cksumInit
  refine ⟨List.length_replicate, ?_, ?_⟩
  · have hleft : (List.replicate 12 0 ++ o.hdrFields cksumInit).length = 28 := rfl
    have hright := window_append_right journal (o.hdrSector cksumInit) 0 28
    rw [Nat.add_zero] at hright
    rw [hright, hsector, window_append_left _ (le_of_eq hleft.symm)]
    exact window_self _
  · rw [List.length_append, o.length_hdrSector]

/-- The loop that fills a header's sector appends its buffer as often as it fits. The induction is
on the number of writes that are left. -/
theorem journalHdrLoop_append (laws : FileLaws env.os view) {j : Nat} {zHeader : List UInt8}
    (hne : zHeader ≠ []) (hfuel : zHeader.length ≤ env.writeFuel) (m : Nat) {fuel nWrite : Nat}
    {pPager : Pager} {w : World σ} (hopen : OpenOn (view w.os) pPager.jfd j)
    (hsize : (nWrite + m * zHeader.length : Nat) = pPager.journalHdrSz) (hm : m < fuel)
    (hoff : pPager.journalOff = ((view w.os).data j).length) :
    ∃ ret, journalHdrLoop env zHeader fuel nWrite pPager w = .ok ret ∧
      Appends ((view w.os).data j) (List.replicate m zHeader).flatten ret.rc
        ((view ret.world.os).data j) ∧
      Touches j (view w.os) (view ret.world.os) ∧
      ret.pPager = { pPager with journalOff := ret.pPager.journalOff } ∧
      (ret.rc = .ok →
        ret.pPager.journalOff = pPager.journalOff + ((m * zHeader.length : Nat) : Int)) := by
  induction m generalizing fuel nWrite pPager w with
  | zero =>
      obtain ⟨fuel, rfl⟩ := Nat.exists_eq_succ_of_ne_zero (Nat.pos_iff_ne_zero.mp hm)
      have hfull : ¬ ((nWrite : Int) < pPager.journalHdrSz) := by omega
      refine ⟨⟨.ok, pPager, w⟩, ?_, .nil _, (Undisturbed.refl _).touches j, rfl, fun _ => by simp⟩
      rw [journalHdrLoop, if_neg hfull]
  | succ m ih =>
      obtain ⟨fuel, rfl⟩ := Nat.exists_eq_succ_of_ne_zero (show fuel ≠ 0 from by omega)
      have hpos : 0 < zHeader.length := List.length_pos_iff.mpr hne
      rw [Nat.succ_mul] at hsize
      have hroom : (nWrite : Int) < pPager.journalHdrSz := by omega
      obtain ⟨rc, w₁, hwrite, happend, htouch⟩ := verixWrite_append laws hopen hne hoff hfuel
      let next : Pager := { pPager with journalOff := pPager.journalOff + zHeader.length }
      rw [journalHdrLoop, if_pos hroom, hwrite, ok_bind]
      by_cases hok : rc = .ok
      · subst hok
        have hlength : ((view w₁.os).data j).length =
            ((view w.os).data j).length + zHeader.length := by
          rw [happend.content_eq, List.length_append]
        have hnext : next.journalOff = ((view w₁.os).data j).length := by
          show pPager.journalOff + (zHeader.length : Int) = _
          omega
        have hsize' : ((nWrite + zHeader.length + m * zHeader.length : Nat) : Int) =
            next.journalHdrSz := by
          show _ = pPager.journalHdrSz
          omega
        have hopen' : OpenOn (view w₁.os) next.jfd j := htouch.openOn _ _ hopen
        obtain ⟨ret, hrun, happend', htouch', hpager, hend⟩ :=
          ih hopen' hsize' (Nat.lt_of_succ_lt_succ hm) hnext
        refine ⟨ret, by rw [if_pos rfl]; exact hrun, ?_, htouch.trans htouch', hpager.trans rfl, ?_⟩
        · rw [List.replicate_succ, List.flatten_cons]
          exact happend.trans happend'
        · intro hrc
          have hend := hend hrc
          have hnextOff : next.journalOff = pPager.journalOff + (zHeader.length : Int) := rfl
          rw [Nat.succ_mul]
          omega
      · refine ⟨⟨rc, next, w₁⟩, by rw [if_neg hok]; rfl, ?_, htouch, rfl,
          fun hrc => absurd hrc hok⟩
        rw [List.replicate_succ, List.flatten_cons]
        exact happend.stop hok _

/-- How the writing of a header ends: its sector lies behind the end of the journal, which was a
sector boundary, or an error is returned and no more than a proper prefix of it does. -/
inductive HeaderWritten (o : Original) (journal : List UInt8) (pPager : Pager) (cksumInit : UInt32)
    (ret : PagerRet σ) (journal' : List UInt8) : Prop where
  | written : ret.rc = .ok → o.hdrOffset journal.length = journal.length →
      journal' = journal ++ o.hdrSector cksumInit →
      ret.pPager = { pPager with
        journalHdr := (journal.length : Int)
        journalOff := ((journal.length + o.sectorSize : Nat) : Int)
        cksumInit := cksumInit } → HeaderWritten o journal pPager cksumInit ret journal'
  | failed (m : Nat) : ret.rc = .ioerrWrite → m < o.sectorSize →
      (o.hdrOffset journal.length = journal.length ∨ m = 0) →
      journal' = journal ++ (o.hdrSector cksumInit).take m →
      ret.pPager = { pPager with
        journalHdr := ret.pPager.journalHdr
        journalOff := ret.pPager.journalOff
        cksumInit := cksumInit } → HeaderWritten o journal pPager cksumInit ret journal'

/-- A header is appended to a journal that ends on a sector boundary. -/
theorem writeJournalHdr_append (laws : FileLaws env.os view) {pPager : Pager} {j : Nat}
    {w : World σ} (hopen : OpenOn (view w.os) pPager.jfd j)
    (hoff : pPager.journalOff = ((view w.os).data j).length)
    (hpage : pPager.pageSize = o.pageSize) (hsector : pPager.sectorSize = o.sectorSize)
    (hnoSync : pPager.noSync = false) (hmode : pPager.journalMode ≠ .memory)
    (hfuel : o.pageSize ≤ env.writeFuel) (randomness : UInt32) :
    ∃ ret, writeJournalHdr env pPager o.nPage randomness w = .ok ret ∧
      HeaderWritten o ((view w.os).data j) pPager randomness ret ((view ret.world.os).data j) ∧
      Touches j (view w.os) (view ret.world.os) := by
  have hmin := o.le_min
  let start : Pager := { pPager with
    journalHdr := (o.hdrOffset ((view w.os).data j).length : Int)
    journalOff := (o.hdrOffset ((view w.os).data j).length : Int)
    cksumInit := randomness }
  have hbuffer : journalHdrBuffer start (List.replicate 12 0) o.nPage
      (min pPager.pageSize pPager.sectorSize) = o.hdrBuffer randomness := by
    show List.replicate 12 0 ++ sqlite3Put4byte randomness ++
        sqlite3Put4byte (UInt32.ofNat o.nPage) ++
        sqlite3Put4byte (UInt32.ofNat pPager.sectorSize) ++
        sqlite3Put4byte (UInt32.ofNat pPager.pageSize) ++
        List.replicate (min pPager.pageSize pPager.sectorSize - 28) 0 = _
    rw [hpage, hsector]
    simp only [Original.hdrBuffer, Original.hdrFields, List.append_assoc]
  have hne : o.hdrBuffer randomness ≠ [] := by
    intro hnil
    have hlength := o.length_hdrBuffer randomness
    rw [hnil, List.length_nil] at hlength
    omega
  have hlength : (o.hdrBuffer randomness).length ≤ env.writeFuel := by
    rw [o.length_hdrBuffer]
    omega
  -- the device has no special characteristics, and the header starts with zeros
  obtain ⟨w₁, hstart, hview⟩ : ∃ w₁, journalHdrStart env pPager w = (List.replicate 12 0, w₁) ∧
      w₁.os = w.os := by
    have hmarked : ¬ (pPager.noSync = true ∨ pPager.journalMode = .memory) := by
      rw [hnoSync]
      simpa using hmode
    have hcap : Int.toNat 0 &&& iocapSafeAppend = 0 := by decide
    refine ⟨env.logPrintf w, ?_, Env.logPrintf_os env w⟩
    simp only [journalHdrStart, if_neg hmarked, verixDeviceCharacteristics, hcap, ne_eq,
      not_true_eq_false, if_false]
  have hloop : writeJournalHdr env pPager o.nPage randomness w =
      journalHdrLoop env (o.hdrBuffer randomness) (o.sectorSize + 1) 0 start w₁ := by
    rw [← hbuffer, ← hsector]
    simp only [writeJournalHdr, o.journalHdrOffset_eq hoff hsector, hstart]
    rfl
  rw [hloop]
  have hopen₁ : OpenOn (view w₁.os) start.jfd j := by rw [hview]; exact hopen
  by_cases haligned : o.hdrOffset ((view w.os).data j).length = ((view w.os).data j).length
  · have hsize : ((0 + o.sectorSize / min o.pageSize o.sectorSize *
        (o.hdrBuffer randomness).length : Nat) : Int) = start.journalHdrSz := by
      rw [o.length_hdrBuffer, Nat.div_mul_cancel o.min_dvd_sectorSize, Nat.zero_add,
        Pager.journalHdrSz]
      exact congrArg Nat.cast hsector.symm
    have hstartOff : start.journalOff = ((view w₁.os).data j).length := by
      show ((o.hdrOffset ((view w.os).data j).length : Nat) : Int) = _
      rw [haligned, hview]
    obtain ⟨ret, hrun, happend, htouch, hpager, hend⟩ := journalHdrLoop_append laws hne hlength
      (o.sectorSize / min o.pageSize o.sectorSize) hopen₁ hsize
      (Nat.lt_succ_of_le (Nat.div_le_self _ _)) hstartOff
    rw [hview] at happend htouch
    refine ⟨ret, hrun, ?_, htouch⟩
    rcases happend with ⟨hrc, hdata⟩ | ⟨hrc, m, hm, hdata⟩
    · refine .written hrc haligned hdata ?_
      have hoff' : ret.pPager.journalOff =
          ((((view w.os).data j).length + o.sectorSize : Nat) : Int) := by
        rw [hend hrc, o.length_hdrBuffer, Nat.div_mul_cancel o.min_dvd_sectorSize, hstartOff,
          hview]
        omega
      rw [hpager, hoff']
      show ({ pPager with
        journalHdr := ((o.hdrOffset ((view w.os).data j).length : Nat) : Int)
        journalOff := ((((view w.os).data j).length + o.sectorSize : Nat) : Int)
        cksumInit := randomness } : Pager) = _
      rw [haligned]
    · refine .failed m hrc ?_ (Or.inl haligned) hdata (hpager.trans ?_)
      · rwa [← o.length_hdrSector randomness]
      · rw [hpager]
  · -- behind the end of the file there is nothing to write to
    have hgap := lt_of_le_of_ne (o.le_hdrOffset ((view w.os).data j).length) (Ne.symm haligned)
    have hlt := (view w.os).size_lt j
    have hnear := o.hdrOffset_lt ((view w.os).data j).length
    obtain ⟨w₂, hwrite, hsame⟩ := verixWrite_gap laws hopen₁ hne
      (show start.journalOff = (o.hdrOffset ((view w.os).data j).length : Nat) from rfl)
      (by have := o.sectorSize_le; omega) (by rw [hview]; exact hgap) hlength
    rw [hview] at hsame
    have hsectorPos : ((0 : Nat) : Int) < start.journalHdrSz := by
      have hpos := o.le_sectorSize
      show ((0 : Nat) : Int) < (pPager.sectorSize : Int)
      omega
    let next : Pager :=
      { start with journalOff := start.journalOff + (o.hdrBuffer randomness).length }
    refine ⟨⟨.ioerrWrite, next, w₂⟩, ?_, ?_, hsame.touches j⟩
    · rw [journalHdrLoop, if_pos hsectorPos, hwrite]
      rfl
    · refine .failed 0 rfl (by have := o.le_sectorSize; omega) (Or.inr rfl) ?_ rfl
      show (view w₂.os).data j = _
      rw [hsame.data, List.take_zero, List.append_nil]

/-! ## Records -/

/-- The record of a page of the original is appended to the journal. -/
theorem writeJournalRecord_append (laws : FileLaws env.os view) {pPager : Pager} {j k : Nat}
    {w : World σ} (hopen : OpenOn (view w.os) pPager.jfd j)
    (hoff : pPager.journalOff = ((view w.os).data j).length)
    (hpage : pPager.pageSize = o.pageSize) (hk : o.Journalled k)
    (hfuel : o.pageSize ≤ env.writeFuel) :
    ∃ ret, writeJournalRecord env pPager k (o.page k) w = .ok ret ∧
      Appends ((view w.os).data j) (o.record pPager.cksumInit k) ret.rc
        ((view ret.world.os).data j) ∧
      Touches j (view w.os) (view ret.world.os) ∧
      (ret.rc = .ok → ret.pPager = { pPager with
        journalOff := ((((view w.os).data j).length + (o.pageSize + 8) : Nat) : Int)
        nRec := pPager.nRec + 1 }) ∧
      (ret.rc ≠ .ok → ret.pPager = pPager) := by
  have hsize := o.le_pageSize
  have hlength := o.length_page hk.1 hk.2.1
  have hshort : 4 ≤ env.writeFuel := by omega
  have hcksum : pagerCksum pPager (o.page k) = o.pageCksum pPager.cksumInit k := by
    rw [pagerCksum, hpage]
    rfl
  obtain ⟨rc₁, w₁, hwrite₁, happend₁, htouch₁⟩ := verixWrite_append laws hopen
    (show sqlite3Put4byte (UInt32.ofNat k) ≠ [] from List.cons_ne_nil _ _) hoff hshort
  by_cases hok₁ : rc₁ = .ok
  swap
  · refine ⟨⟨rc₁, pPager, w₁⟩, ?_, ?_, htouch₁, fun hok => absurd hok hok₁, fun _ => rfl⟩
    · simp only [writeJournalRecord, write32bits, hwrite₁, ok_bind, ne_eq, hok₁, not_false_eq_true,
        if_true]
      rfl
    · rw [Original.record, List.append_assoc]
      exact happend₁.stop hok₁ _
  subst hok₁
  have hlength₁ : ((view w₁.os).data j).length = ((view w.os).data j).length + 4 := by
    rw [happend₁.content_eq, List.length_append, length_sqlite3Put4byte]
  obtain ⟨rc₂, w₂, hwrite₂, happend₂, htouch₂⟩ := verixWrite_append laws
    (htouch₁.openOn _ _ hopen)
    (show o.page k ≠ [] from fun hnil => by rw [hnil, List.length_nil] at hlength; omega)
    (show pPager.journalOff + 4 = _ from by omega) (by omega)
  have htouch₁₂ := htouch₁.trans htouch₂
  have happend₁₂ := happend₁.trans happend₂
  by_cases hok₂ : rc₂ = .ok
  swap
  · refine ⟨⟨rc₂, pPager, w₂⟩, ?_, ?_, htouch₁₂, fun hok => absurd hok hok₂, fun _ => rfl⟩
    · simp only [writeJournalRecord, write32bits, hwrite₁, ok_bind, ne_eq, not_true_eq_false,
        if_false, hwrite₂, hok₂, not_false_eq_true, if_true]
      rfl
    · exact happend₁₂.stop hok₂ _
  subst hok₂
  have hlength₂ : ((view w₂.os).data j).length =
      ((view w.os).data j).length + 4 + o.pageSize := by
    rw [happend₂.content_eq, List.length_append, hlength, hlength₁]
  obtain ⟨rc₃, w₃, hwrite₃, happend₃, htouch₃⟩ := verixWrite_append laws
    (htouch₁₂.openOn _ _ hopen)
    (show sqlite3Put4byte (pagerCksum pPager (o.page k)) ≠ [] from List.cons_ne_nil _ _)
    (show pPager.journalOff + pPager.pageSize + 4 = _ from by omega) hshort
  rw [hcksum] at happend₃
  have happend := happend₁₂.trans happend₃
  by_cases hok₃ : rc₃ = .ok
  · subst hok₃
    refine ⟨⟨.ok, { pPager with
      journalOff := pPager.journalOff + (8 + pPager.pageSize)
      nRec := pPager.nRec + 1 }, w₃⟩, ?_, happend, htouch₁₂.trans htouch₃, ?_,
      fun hfailed => absurd rfl hfailed⟩
    · simp only [writeJournalRecord, write32bits, hwrite₁, ok_bind, ne_eq, not_true_eq_false,
        if_false, hwrite₂, hwrite₃]
      rfl
    · intro _
      rw [show ((((view w.os).data j).length + (o.pageSize + 8) : Nat) : Int) =
        pPager.journalOff + (8 + pPager.pageSize) from by omega]
  · refine ⟨⟨rc₃, pPager, w₃⟩, ?_, happend, htouch₁₂.trans htouch₃, fun hok => absurd hok hok₃,
      fun _ => rfl⟩
    simp only [writeJournalRecord, write32bits, hwrite₁, ok_bind, ne_eq, not_true_eq_false,
      if_false, hwrite₂, hwrite₃, hok₃, not_false_eq_true, if_true]
    rfl

end VxSqlite
