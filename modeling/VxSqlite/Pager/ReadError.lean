import VxSqlite.Flash
import VxSqlite.Lib.ByteStore
import VxSqlite.Pager.Journal

/-!
# Reads that fail

`verixRead` has one code for a read that ends at the end of the file and for a seek or a read
that fails. Its callers take that code for the end of the file: `readDbPage` returns the page
with zeros in it, and `pager_playback` stops as if the journal ended there. `Delivered` says that
the system handed over all that was asked for; each of the three is right exactly if what the
system did not deliver lies past the end of the file, or, for a page, is zero anyway.
-/

namespace VxSqlite

variable {σ : Type} {env : Env σ} {view : σ → Disk}

/-- The content of the file a handle is open on. -/
def Disk.contentOf (d : Disk) (h : Int) : List UInt8 :=
  match d.handles h with
  | some (f, _) => d.data f
  | none => []

/-- What the system copies for a read of `amt` bytes at `offset`: nothing if the seek or the
read fails. -/
def delivered (env : Env σ) (pFile : VerixFile) (amt : Nat) (offset : Int) (w : World σ) :
    List UInt8 :=
  let ls := env.sys (.lseek pFile.h (toInt offset)) w
  if ls.value = -1 then [] else ((env.sys (.read pFile.h amt) ls.world).value).getD []

/-- The seek succeeds and the read returns as many bytes as were asked for. -/
def Delivered (env : Env σ) (pFile : VerixFile) (amt : Nat) (offset : Int) (w : World σ) : Prop :=
  let ls := env.sys (.lseek pFile.h (toInt offset)) w
  ls.value ≠ -1 ∧ readCount (env.sys (.read pFile.h amt) ls.world).value = amt

instance (pFile : VerixFile) (amt : Nat) (offset : Int) (w : World σ) :
    Decidable (Delivered env pFile amt offset w) := inferInstanceAs (Decidable (_ ∧ _))

/-- `verixRead` has two results. -/
theorem verixRead_rc (env : Env σ) (pFile : VerixFile) (pBuf : Buffer UInt8) (amt : Nat)
    (offset : Int) (w : World σ) : (verixRead env pFile pBuf amt offset w).1 =
      if Delivered env pFile amt offset w then .ok else .ioerrShortRead := by
  by_cases hdelivered : Delivered env pFile amt offset w
  · obtain ⟨hseek, hcount⟩ := id hdelivered
    rw [if_pos hdelivered]
    simp only [verixRead, hseek, hcount, if_true, if_false]
  · rw [if_neg hdelivered]
    by_cases hseek : (env.sys (.lseek pFile.h (toInt offset)) w).value = -1
    · simp only [verixRead, hseek, if_true]
    · have hcount : ¬ readCount (env.sys (.read pFile.h amt)
          (env.sys (.lseek pFile.h (toInt offset)) w).world).value = amt :=
        fun hcount => hdelivered ⟨hseek, hcount⟩
      simp only [verixRead, hseek, hcount, if_false]

/-- A read says that the file ends only where it does, and otherwise returns another error code
if it did not deliver all bytes. -/
structure ReadHonest (env : Env σ) (view : σ → Disk) (pFile : VerixFile) (pBuf : Buffer UInt8)
    (amt : Nat) (offset : Int) (w : World σ) : Prop where
  short : (verixRead env pFile pBuf amt offset w).1 = .ioerrShortRead →
    (((view w.os).contentOf pFile.h).length : Int) < offset + amt
  failed : ¬ Delivered env pFile amt offset w →
    offset + amt ≤ ((view w.os).contentOf pFile.h).length →
    (verixRead env pFile pBuf amt offset w).1.IsIoerr ∧
      (verixRead env pFile pBuf amt offset w).1 ≠ .ioerrShortRead

/-- `verixRead` is honest exactly about reads that are delivered or reach past the end. -/
theorem verixRead_honest_iff {pFile : VerixFile} {pBuf : Buffer UInt8} {amt : Nat} {offset : Int}
    {w : World σ} : ReadHonest env view pFile pBuf amt offset w ↔
      Delivered env pFile amt offset w ∨
        (((view w.os).contentOf pFile.h).length : Int) < offset + amt := by
  have hrc := verixRead_rc env pFile pBuf amt offset w
  by_cases hdelivered : Delivered env pFile amt offset w
  · rw [if_pos hdelivered] at hrc
    refine iff_of_true ⟨?_, fun hnot => absurd hdelivered hnot⟩ (Or.inl hdelivered)
    intro hshort
    rw [hrc] at hshort
    cases hshort
  · rw [if_neg hdelivered] at hrc
    refine ⟨fun h => Or.inr (h.short hrc), ?_⟩
    intro h
    have hpast := h.resolve_left hdelivered
    exact ⟨fun _ => hpast, fun _ hinside => absurd hpast (Int.not_lt.mpr hinside)⟩

/-! ## Pages -/

/-- The seeks and reads of a system that may fail: a seek reaches its target or returns -1, and a
read copies the front part of what is there or returns -1. -/
structure FaultyReads (os : Os σ) (view : σ → Disk) : Prop where
  lseek : ∀ s h f p (offset : Int), (view s).handles h = some (f, p) → 0 ≤ offset →
    (os.call (.lseek h offset) s).value = -1 ∨
      (os.call (.lseek h offset) s).value = offset ∧
        (view (os.call (.lseek h offset) s).os).handles h = some (f, offset.toNat) ∧
        (view (os.call (.lseek h offset) s).os).data f = (view s).data f
  read : ∀ s h f p (amt : Nat), (view s).handles h = some (f, p) →
    (os.call (.read h amt) s).value = none ∨
      ∃ k ≤ amt, (os.call (.read h amt) s).value = some (window ((view s).data f) p k)

/-- A system without faults is one that may fail. -/
theorem FileLaws.faultyReads {os : Os σ} (laws : FileLaws os view) : FaultyReads os view where
  lseek s h f p offset hh hlo := by
    by_cases hhi : offset ≤ ((view s).data f).length
    · obtain ⟨hvalue, hview⟩ := laws.lseek_inside s h f p offset hh hlo hhi
      exact Or.inr ⟨hvalue, by simp [hview], by simp [hview]⟩
    · exact Or.inl (laws.lseek_outside s h f p offset hh (Or.inr (by omega))).1
  read s h f p amt hh := by
    obtain ⟨hvalue, -⟩ := laws.read s h f p amt hh (by omega)
    exact Or.inr ⟨amt, le_refl _, by simpa using hvalue⟩

/-- What is delivered is what the file holds at the offset, as far as it goes. -/
theorem delivered_eq_window (laws : FaultyReads env.os view) {pFile : VerixFile} {f p : Nat}
    {w : World σ} (hopen : (view w.os).handles pFile.h = some (f, p)) (amt : Nat) {offset : Nat}
    (hoffset : offset < 2 ^ 31) :
    ∃ k ≤ amt, delivered env pFile amt offset w = window ((view w.os).data f) offset k := by
  have hint : toInt offset = offset := narrow_of_inWord ⟨by omega, by omega⟩
  simp only [delivered, hint, Env.sys_value]
  rcases laws.lseek w.os pFile.h f p offset hopen (by omega) with hfail | ⟨hseek, hpos, hdata⟩
  · exact ⟨0, by omega, by simp [hfail, window]⟩
  · have hne : ((offset : Nat) : Int) ≠ -1 := by omega
    simp only [hseek, if_neg hne, Env.sys_os]
    rcases laws.read _ pFile.h f _ amt hpos with hfail | ⟨k, hk, hread⟩
    · exact ⟨0, by omega, by simp [hfail, window]⟩
    · exact ⟨k, hk, by simp [hread, hdata]⟩

/-- The buffer after a read: what was delivered, and zeros behind it. -/
theorem sqlite3OsRead_content (env : Env σ) (pFile : VerixFile) (amt : Nat) (offset : Int)
    (w : World σ) (hle : (delivered env pFile amt offset w).length ≤ amt) :
    (sqlite3OsRead env pFile amt offset w).2.1 = delivered env pFile amt offset w ++
      List.replicate (amt - (delivered env pFile amt offset w).length) 0 := by
  unfold delivered at hle ⊢
  simp only [sqlite3OsRead, verixRead]
  generalize env.sys (.lseek pFile.h (toInt offset)) w = ls at hle ⊢
  by_cases hseek : ls.value = -1
  · simp only [hseek, if_true, List.nil_append, List.length_nil, Nat.sub_zero]
    exact Buffer.contents_memset _ 0 (le_refl 0) (by omega)
  · simp only [hseek, if_false] at hle ⊢
    generalize env.sys (.read pFile.h amt) ls.world = reply at hle ⊢
    cases hvalue : reply.value with
    | none =>
        -- `memset` starts at the count, which is -1
        have hne : ¬ (-1 : Int) = amt := by omega
        simp only [readCount, hne, if_false, Option.getD_none, List.nil_append, List.length_nil,
          Nat.sub_zero]
        exact Buffer.contents_memset _ 0 (by omega) (by omega)
    | some bytes =>
        rw [hvalue, Option.getD_some] at hle
        simp only [readCount, Option.getD_some]
        by_cases hfull : (bytes.length : Int) = amt
        · have hlen : bytes.length = amt := by omega
          subst hlen
          simpa using Buffer.contents_memcpy _ bytes
        · simp only [hfull, if_false]
          exact Buffer.contents_memcpy_memset _ bytes 0 hle

/-- Read page `pgno` of the database. `walReadFrame` reads a frame of the write-ahead log. -/
def readDbPage (env : Env σ) (walReadFrame : Nat → World σ → ResultCode × List UInt8 × World σ)
    (pPager : Pager) (pgno iFrame : Nat) (w : World σ) :
    ResultCode × List UInt8 × Pager × World σ :=
  let read :=
    if iFrame ≠ 0 then walReadFrame iFrame w
    else
      let iOffset := ((pgno : Int) - 1) * pPager.pageSize
      let read := sqlite3OsRead env pPager.fd pPager.pageSize iOffset w
      (if read.1 = .ioerrShortRead then .ok else read.1, read.2)
  let pPager :=
    if pgno = 1 then
      if read.1 ≠ .ok then { pPager with dbFileVers := List.replicate 16 0xff }
      else { pPager with dbFileVers := window read.2.1 24 16 }
    else pPager
  (read.1, read.2.1, pPager, read.2.2)

/-- A page that is returned with success is the file's page, with zeros past the end of the
file. -/
def PageHonest (env : Env σ) (view : σ → Disk)
    (walReadFrame : Nat → World σ → ResultCode × List UInt8 × World σ) (pPager : Pager)
    (pgno : Nat) (w : World σ) : Prop :=
  (readDbPage env walReadFrame pPager pgno 0 w).1 = .ok →
    (readDbPage env walReadFrame pPager pgno 0 w).2.1 =
      ByteStore.padded 0 ((view w.os).contentOf pPager.fd.h) ((pgno - 1) * pPager.pageSize)
        pPager.pageSize

/-- Every byte of the page that the system did not deliver is zero, or past the end. -/
def MissingIsZero (env : Env σ) (view : σ → Disk) (pPager : Pager) (pgno : Nat) (w : World σ) :
    Prop :=
  ∀ i, (delivered env pPager.fd pPager.pageSize ((pgno - 1) * pPager.pageSize : Nat) w).length ≤ i →
    i < pPager.pageSize →
    (((view w.os).contentOf pPager.fd.h)[(pgno - 1) * pPager.pageSize + i]?).getD 0 = 0

/-- `readDbPage` is honest exactly if what the system did not deliver is zero anyway. -/
theorem readDbPage_honest_iff (laws : FaultyReads env.os view)
    {walReadFrame : Nat → World σ → ResultCode × List UInt8 × World σ} {pPager : Pager}
    {pgno f p : Nat} {w : World σ} (hopen : (view w.os).handles pPager.fd.h = some (f, p))
    (hpgno : 1 ≤ pgno) (hoffset : (pgno - 1) * pPager.pageSize < 2 ^ 31) :
    PageHonest env view walReadFrame pPager pgno w ↔ MissingIsZero env view pPager pgno w := by
  have hcontent : (view w.os).contentOf pPager.fd.h = (view w.os).data f := by
    simp [Disk.contentOf, hopen]
  have hiOffset : ((pgno : Int) - 1) * pPager.pageSize = ((pgno - 1) * pPager.pageSize : Nat) := by
    push_cast [Nat.cast_sub hpgno]
    ring
  obtain ⟨k, hk, hread⟩ := delivered_eq_window laws hopen pPager.pageSize hoffset
  have hpage := sqlite3OsRead_content env pPager.fd pPager.pageSize
    ((pgno - 1) * pPager.pageSize : Nat) w (by rw [hread, length_window]; omega)
  have hrc : (readDbPage env walReadFrame pPager pgno 0 w).1 = .ok := by
    have hcode := verixRead_rc env pPager.fd (.untouched fun _ => 0) pPager.pageSize
      (((pgno : Int) - 1) * pPager.pageSize) w
    simp only [readDbPage, sqlite3OsRead, ne_eq, not_true_eq_false, if_false, hcode]
    split_ifs <;> simp_all
  unfold PageHonest MissingIsZero
  simp only [hrc, true_implies]
  have hdata : (readDbPage env walReadFrame pPager pgno 0 w).2.1 =
      (sqlite3OsRead env pPager.fd pPager.pageSize ((pgno - 1) * pPager.pageSize : Nat) w).2.1 := by
    simp only [readDbPage, ne_eq, not_true_eq_false, if_false, hiOffset]
  rw [hdata, hpage, hread, hcontent]
  exact ByteStore.window_append_eq_padded_iff hk

/-! ## Journal records -/

/-- The system delivers all bytes of the record that `pager_playback_one_page` asks for: the page
number, the page, and the checksum of a page that is to be played back. -/
def RecordDelivered (env : Env σ) (pPager : Pager) (w : World σ) : Prop :=
  let number := read32bits env pPager.jfd pPager.journalOff w
  let page := sqlite3OsRead env pPager.jfd pPager.pageSize (pPager.journalOff + 4) number.2.2
  let pgno := number.2.1.toNat
  Delivered env pPager.jfd 4 pPager.journalOff w ∧
    Delivered env pPager.jfd pPager.pageSize (pPager.journalOff + 4) number.2.2 ∧
    (¬ (pgno = 0 ∨ pgno = pPager.mjPgno) → pgno ≤ pPager.dbSize →
      Delivered env pPager.jfd 4 (pPager.journalOff + pPager.pageSize + 4 + 4 - 4) page.2.2)

/-- The journal file ends before the record at `journalOff` does. -/
def RecordCutOff (view : σ → Disk) (pPager : Pager) (w : World σ) : Prop :=
  (((view w.os).contentOf pPager.jfd.h).length : Int) < pPager.journalOff + pPager.journalPgSz

theorem sqlite3OsRead_rc (env : Env σ) (pFile : VerixFile) (amt : Nat) (offset : Int)
    (w : World σ) : (sqlite3OsRead env pFile amt offset w).1 =
      if Delivered env pFile amt offset w then .ok else .ioerrShortRead :=
  verixRead_rc env pFile _ amt offset w

theorem read32bits_rc (env : Env σ) (pFile : VerixFile) (offset : Int) (w : World σ) :
    (read32bits env pFile offset w).1 =
      if Delivered env pFile 4 offset w then .ok else .ioerrShortRead :=
  sqlite3OsRead_rc env pFile 4 offset w

/-- A write has two results. -/
theorem verixWriteLoop_rc {h : Int} {fuel : Nat} {pBuf : List UInt8} {w : World σ}
    {result : ResultCode × World σ} (hwrite : verixWriteLoop env h fuel pBuf w = .ok result) :
    result.1 = .ok ∨ result.1 = .ioerrWrite := by
  induction fuel generalizing pBuf w with
  | zero =>
      cases pBuf with
      | nil =>
          cases hwrite
          exact Or.inl rfl
      | cons byte rest => cases hwrite
  | succ fuel ih =>
      cases pBuf with
      | nil =>
          cases hwrite
          exact Or.inl rfl
      | cons byte rest =>
          simp only [verixWriteLoop] at hwrite
          split at hwrite
          · cases hwrite
            exact Or.inr rfl
          · exact ih hwrite

theorem verixWrite_rc {pFile : VerixFile} {pBuf : List UInt8} {offset : Int} {w : World σ}
    {result : ResultCode × World σ} (hwrite : verixWrite env pFile pBuf offset w = .ok result) :
    result.1 = .ok ∨ result.1 = .ioerrWrite := by
  simp only [verixWrite] at hwrite
  split at hwrite
  · cases hwrite
    exact Or.inr rfl
  · exact verixWriteLoop_rc hwrite

/-- Writing a page back does not end with the code of a short read. -/
theorem playbackWrite_rc {pPager : Pager} {pgno : Nat} {aData : List UInt8} {w : World σ}
    {ret : PagerRet σ} (hplayed : playbackWrite env pPager pgno aData w = .ok ret) :
    ret.rc ≠ .ioerrShortRead := by
  simp only [playbackWrite] at hplayed
  split at hplayed
  · obtain ⟨write, hwrite, hpure⟩ := bind_eq_ok_iff.mp hplayed
    cases hpure
    rcases verixWrite_rc hwrite with hcode | hcode <;> simp [hcode]
  · cases hplayed
    simp

theorem playbackPage_rc {pPager : Pager} {pgno : Nat} {aData : List UInt8} {w : World σ}
    {ret : PagerRet σ} (hplayed : playbackPage env pPager pgno aData w = .ok ret) :
    ret.rc ≠ .ioerrShortRead := by
  obtain ⟨written, hwritten, hret⟩ := bind_eq_ok_iff.mp hplayed
  cases hret
  show written.rc ≠ .ioerrShortRead
  exact playbackWrite_rc hwritten

/-- A record is answered with the code of a short read exactly if some of it was not
delivered. -/
theorem pagerPlaybackOnePage_short_iff {pPager : Pager} {w : World σ} {ret : PagerRet σ}
    (hplayed : pagerPlaybackOnePage env pPager w = .ok ret) :
    ret.rc = .ioerrShortRead ↔ ¬ RecordDelivered env pPager w := by
  simp only [pagerPlaybackOnePage] at hplayed
  simp only [RecordDelivered]
  have hnumber := read32bits_rc env pPager.jfd pPager.journalOff w
  generalize read32bits env pPager.jfd pPager.journalOff w = number at hplayed hnumber ⊢
  have hpage := sqlite3OsRead_rc env pPager.jfd pPager.pageSize (pPager.journalOff + 4)
    number.2.2
  generalize sqlite3OsRead env pPager.jfd pPager.pageSize (pPager.journalOff + 4) number.2.2 = page
    at hplayed hpage ⊢
  have hcksum := read32bits_rc env pPager.jfd
    (pPager.journalOff + pPager.pageSize + 4 + 4 - 4) page.2.2
  -- the three reads in turn: a read that is not delivered decides the result
  by_cases hfirst : Delivered env pPager.jfd 4 pPager.journalOff w
  · rw [if_pos hfirst] at hnumber
    by_cases hsecond : Delivered env pPager.jfd pPager.pageSize (pPager.journalOff + 4) number.2.2
    · rw [if_pos hsecond] at hpage
      simp only [hnumber, hpage, ne_eq, not_true_eq_false, if_false] at hplayed
      simp only [hfirst, hsecond, true_and]
      split at hplayed
      · rename_i hskip
        cases hplayed
        have hskip : number.2.1.toNat = 0 ∨ number.2.1.toNat = pPager.mjPgno := hskip
        simp [hskip]
      · rename_i hplay
        have hplay : ¬ (number.2.1.toNat = 0 ∨ number.2.1.toNat = pPager.mjPgno) := hplay
        split at hplayed
        · rename_i hbehind
          cases hplayed
          simp [Nat.not_le.mpr hbehind]
        · rename_i hinside
          have hle : number.2.1.toNat ≤ pPager.dbSize := Nat.not_lt.mp hinside
          simp only [hplay, hle, not_false_eq_true, true_implies]
          by_cases hthird : Delivered env pPager.jfd 4
              (pPager.journalOff + pPager.pageSize + 4 + 4 - 4) page.2.2
          · rw [if_pos hthird] at hcksum
            simp only [hcksum, not_true_eq_false, if_false] at hplayed
            simp only [hthird, not_true_eq_false, iff_false]
            split at hplayed
            · cases hplayed
              simp
            · exact playbackPage_rc hplayed
          · rw [if_neg hthird] at hcksum
            simp only [hcksum] at hplayed
            cases hplayed
            exact iff_of_true rfl hthird
    · rw [if_neg hsecond] at hpage
      simp only [hnumber, hpage, ne_eq, not_true_eq_false, if_false] at hplayed
      cases hplayed
      simp [hsecond]
  · rw [if_neg hfirst] at hnumber
    simp only [hnumber] at hplayed
    cases hplayed
    simp [hfirst]

/-! ## Playback -/

/-- All records of a loop were delivered, except for the last one where the loop was
abandoned. -/
def Traced (env : Env σ) (exit : PlaybackExit) (records : List (Pager × World σ)) : Prop :=
  if exit = .abandoned then
    ∃ before record, records = before ++ [record] ∧
      (∀ earlier ∈ before, RecordDelivered env earlier.1 earlier.2) ∧
        ¬ RecordDelivered env record.1 record.2
  else ∀ record ∈ records, RecordDelivered env record.1 record.2

theorem Traced.append {exit : PlaybackExit} (front : List (Pager × World σ))
    {records : List (Pager × World σ)}
    (hfront : ∀ record ∈ front, RecordDelivered env record.1 record.2)
    (h : Traced env exit records) : Traced env exit (front ++ records) := by
  unfold Traced at h ⊢
  split_ifs at h ⊢ with hexit
  · obtain ⟨before, record, rfl, hbefore, hrecord⟩ := h
    refine ⟨front ++ before, record, by simp, ?_, hrecord⟩
    intro earlier hmem
    rcases List.mem_append.mp hmem with hmem | hmem
    · exact hfront earlier hmem
    · exact hbefore earlier hmem
  · intro record hmem
    rcases List.mem_append.mp hmem with hmem | hmem
    · exact hfront record hmem
    · exact h record hmem

/-- The loop over the records stops at the first one that is not delivered. The induction is on
the number of records left. -/
theorem playbackRecords_traced {szJ : Int} {nRec : Nat} {needPagerReset : Bool} {pPager : Pager}
    {w : World σ} {run : PlaybackRun σ}
    (hrun : playbackRecords env szJ nRec needPagerReset pPager w = .ok run) :
    Traced env run.exit run.records := by
  induction nRec generalizing needPagerReset pPager w run with
  | zero =>
      cases hrun
      simp [Traced]
  | succ nRec ih =>
      unfold playbackRecords at hrun
      generalize (if needPagerReset then pagerReset pPager else pPager) = pPager at hrun
      obtain ⟨played, hplayed, hrun⟩ := bind_eq_ok_iff.mp hrun
      have hshort := pagerPlaybackOnePage_short_iff hplayed
      by_cases hok : played.rc = .ok
      · have hdelivered : RecordDelivered env pPager w := by
          by_contra hnot
          cases hok.symm.trans (hshort.mpr hnot)
        simp only [hok, if_true] at hrun
        obtain ⟨rest, hrest, hrun⟩ := bind_eq_ok_iff.mp hrun
        cases hrun
        exact Traced.append [(pPager, w)] (by simpa using hdelivered) (ih hrest)
      · simp only [hok, if_false] at hrun
        by_cases hdone : played.rc = .done
        · simp only [hdone, if_true] at hrun
          cases hrun
          have hdelivered : RecordDelivered env pPager w := by
            by_contra hnot
            cases hdone.symm.trans (hshort.mpr hnot)
          simpa [Traced] using hdelivered
        · simp only [hdone, if_false] at hrun
          by_cases hcut : played.rc = .ioerrShortRead
          · -- the branch that takes the failed read for the end of the journal
            simp only [hcut, if_true] at hrun
            cases hrun
            exact ⟨[], (pPager, w), rfl, by simp, hshort.mp hcut⟩
          · simp only [hcut, if_false] at hrun
            cases hrun
            have hdelivered : RecordDelivered env pPager w := by
              by_contra hnot
              exact hcut (hshort.mpr hnot)
            simpa [Traced] using hdelivered

/-- So does the loop over the headers. The induction is on the fuel. -/
theorem playbackHeaders_traced {isHot : Bool} {szJ : Int} {fuel : Nat} {needPagerReset : Bool}
    {pPager : Pager} {w : World σ} {run : PlaybackRun σ}
    (hrun : playbackHeaders env isHot szJ fuel needPagerReset pPager w = .ok run) :
    Traced env run.exit run.records := by
  induction fuel generalizing needPagerReset pPager w run with
  | zero => cases hrun
  | succ fuel ih =>
      simp only [playbackHeaders] at hrun
      generalize readJournalHdr env pPager isHot szJ w = hdr at hrun
      split at hrun
      · cases hrun
        simp [Traced]
      · split at hrun
        · cases hrun
          simp [Traced]
        · obtain ⟨truncated, -, hrun⟩ := bind_eq_ok_iff.mp hrun
          split at hrun
          · cases hrun
            simp [Traced]
          · obtain ⟨inner, hinner, hrun⟩ := bind_eq_ok_iff.mp hrun
            have htraced := playbackRecords_traced hinner
            split at hrun
            · rename_i hmore
              obtain ⟨rest, hrest, hrun⟩ := bind_eq_ok_iff.mp hrun
              cases hrun
              rw [hmore] at htraced
              exact Traced.append inner.records (by simpa [Traced] using htraced) (ih hrest)
            · cases hrun
              exact htraced

theorem pagerPlayback_traced {pPager : Pager} {isHot : Bool} {w : World σ} {ret : PlaybackRet σ}
    (hplayed : pagerPlayback env pPager isHot w = .ok ret) : Traced env ret.exit ret.records := by
  simp only [pagerPlayback] at hplayed
  split at hplayed
  · obtain ⟨ended, -, hret⟩ := bind_eq_ok_iff.mp hplayed
    cases hret
    simp [Traced]
  · split at hplayed
    · obtain ⟨ended, -, hret⟩ := bind_eq_ok_iff.mp hplayed
      cases hret
      simp [Traced]
    · split at hplayed
      · obtain ⟨ended, -, hret⟩ := bind_eq_ok_iff.mp hplayed
        cases hret
        simp [Traced]
      · obtain ⟨run, hrun, hplayed⟩ := bind_eq_ok_iff.mp hplayed
        obtain ⟨ended, -, hret⟩ := bind_eq_ok_iff.mp hplayed
        cases hret
        exact playbackHeaders_traced hrun

/-- Where a playback is abandoned, the journal ends within the record it was about to read. -/
def AbandonsHonestly (view : σ → Disk) (ret : PlaybackRet σ) : Prop :=
  ret.exit = .abandoned → ∀ record, ret.records.getLast? = some record →
    RecordCutOff view record.1 record.2

/-- A playback abandons the journal honestly exactly if every record it reads is delivered or cut
off. -/
theorem pagerPlayback_honest_iff {pPager : Pager} {isHot : Bool} {w : World σ}
    {ret : PlaybackRet σ} (hplayed : pagerPlayback env pPager isHot w = .ok ret) :
    AbandonsHonestly view ret ↔ ∀ record ∈ ret.records,
      RecordDelivered env record.1 record.2 ∨ RecordCutOff view record.1 record.2 := by
  have htraced := pagerPlayback_traced hplayed
  unfold Traced at htraced
  by_cases hexit : ret.exit = .abandoned
  · rw [if_pos hexit] at htraced
    obtain ⟨before, last, hrecords, hbefore, hlast⟩ := htraced
    simp only [AbandonsHonestly, hexit, true_implies, hrecords, List.getLast?_append,
      List.getLast?_singleton, Option.some_or, Option.some.injEq, forall_eq', List.mem_append,
      List.mem_singleton]
    constructor
    · rintro hcut record (hmem | rfl)
      · exact Or.inl (hbefore record hmem)
      · exact Or.inr hcut
    · intro h
      exact (h last (Or.inr rfl)).resolve_left hlast
  · rw [if_neg hexit] at htraced
    exact iff_of_true (fun h => absurd h hexit) fun record hmem => Or.inl (htraced record hmem)

/-- On a system that may fail, a read, a page and a playback are each honest exactly if what the
system did not deliver lies past the end of the file, or is a part of a page that is zero
anyway. -/
theorem readErrors_honest_iff (laws : FaultyReads env.os view) :
    (∀ pFile pBuf (amt : Nat) offset w, ReadHonest env view pFile pBuf amt offset w ↔
      Delivered env pFile amt offset w ∨
        (((view w.os).contentOf pFile.h).length : Int) < offset + amt) ∧
    (∀ walReadFrame pPager pgno f p w, (view w.os).handles pPager.fd.h = some (f, p) → 1 ≤ pgno →
      (pgno - 1) * pPager.pageSize < 2 ^ 31 →
      (PageHonest env view walReadFrame pPager pgno w ↔ MissingIsZero env view pPager pgno w)) ∧
    (∀ pPager isHot w ret, pagerPlayback env pPager isHot w = .ok ret →
      (AbandonsHonestly view ret ↔ ∀ record ∈ ret.records,
        RecordDelivered env record.1 record.2 ∨ RecordCutOff view record.1 record.2)) :=
  ⟨fun _ _ _ _ _ => verixRead_honest_iff,
    fun _ _ _ _ _ _ hopen hpgno hoffset => readDbPage_honest_iff laws hopen hpgno hoffset,
    fun _ _ _ _ hplayed => pagerPlayback_honest_iff hplayed⟩

/-- A journal of two records for pages of 512 bytes behind the header of a sector of 4096, cut off
within the second record. -/
def cutJournal : List UInt8 :=
  aJournalMagic ++ [0, 0, 0, 2, 0, 0, 0, 0, 0, 0, 0, 2, 0, 0, 16, 0, 0, 0, 2, 0] ++
    List.replicate 4068 0 ++ ([0, 0, 0, 1] ++ List.replicate 512 0 ++ [0, 0, 0, 0]) ++
    [0, 0, 0, 2, 7]

theorem withJournal_fits : ∀ file ∈ [(ascii "db", List.replicate 1024 (1 : UInt8)),
    (ascii "db-journal", cutJournal)], file.2.length < 2 ^ 31 := by
  have hjournal : cutJournal.length = 4621 := by
    simp only [cutJournal, aJournalMagic, List.length_append, List.length_replicate]
    rfl
  simp only [List.mem_cons, List.not_mem_nil, or_false, forall_eq_or_imp, forall_eq,
    List.length_replicate, hjournal]
  decide

/-- A database of two pages and that journal, open on the handles 0 and 1. -/
def World.withJournal : World Flash :=
  let files := Flash.ofFiles _ withJournal_fits
  let once := files.give files.toDisk 0 Nat.zero_lt_two rfl
  .on (once.give once.toDisk 1 Nat.one_lt_two rfl)

/-- The pager on that database. -/
def Pager.withJournal : Pager :=
  { Pager.opened (.on 0 (ascii "db")) (ascii "db") with
    pageSize := 512
    jfd := .on 1 (ascii "db-journal") }

/-- The playback of the journal reads both records and is abandoned at the second. -/
theorem withJournal_abandoned : ∃ ret, pagerPlayback quietFlash .withJournal true .withJournal =
    .ok ret ∧ ret.exit = .abandoned ∧ ret.records.length = 2 := by
  have hplayed : ((pagerPlayback quietFlash .withJournal true .withJournal).toOption.any
      fun ret => ret.exit = .abandoned ∧ ret.records.length = 2) = true := by
    decide +kernel
  cases hret : pagerPlayback quietFlash .withJournal true .withJournal with
  | error fault =>
      rw [hret] at hplayed
      cases hplayed
  | ok ret =>
      rw [hret] at hplayed
      exact ⟨ret, rfl, of_decide_eq_true hplayed⟩

/-- The first page of the database, and the playback of its journal. -/
theorem readErrors_honest_iff_withJournal :
    (PageHonest quietFlash Flash.toDisk (fun _ w => (.ok, [], w)) .withJournal 1 .withJournal ↔
      MissingIsZero quietFlash Flash.toDisk .withJournal 1 .withJournal) ∧
    ∃ ret, pagerPlayback quietFlash .withJournal true .withJournal = .ok ret ∧
      ret.exit = .abandoned ∧ ret.records.length = 2 ∧
      (AbandonsHonestly Flash.toDisk ret ↔ ∀ record ∈ ret.records,
        RecordDelivered quietFlash record.1 record.2 ∨
          RecordCutOff Flash.toDisk record.1 record.2) := by
  have laws := flash_fileLaws.faultyReads
  obtain ⟨ret, hplayed, hexit, hrecords⟩ := withJournal_abandoned
  refine ⟨?_, ret, hplayed, hexit, hrecords, ?_⟩
  · exact (readErrors_honest_iff laws).2.1 _ .withJournal 1 0 0 _ rfl (by decide) (by decide)
  · exact (readErrors_honest_iff laws).2.2 _ _ _ _ hplayed

theorem deafFlash_faultyReads : FaultyReads deafFlash Flash.toDisk where
  lseek := flash_fileLaws.faultyReads.lseek
  read _ _ _ _ _ _ := Or.inl rfl

/-- A failed read of the front of a file is reported as its end, and the page that it was to fill
is returned as zeros. -/
theorem failed_read_short :
    (verixRead ⟨deafFlash, .quiet, none, 64⟩ (.on 0 (ascii "db")) (.untouched fun _ => 0) 4 0
        (World.opened (ascii "db") [1, 2, 3, 4] (by decide))).1 = .ioerrShortRead ∧
    ¬ PageHonest ⟨deafFlash, .quiet, none, 64⟩ Flash.toDisk (fun _ w => (.ok, [], w))
        (.opened (.on 0 (ascii "db")) (ascii "db")) 1
        (World.opened (ascii "db") [1, 2, 3, 4] (by decide)) ∧
    ¬ ∀ (os : Os Flash), FaultyReads os Flash.toDisk → ∀ pFile pBuf (amt : Nat) (offset : Int) w,
      0 < amt → 0 ≤ offset → offset < 2 ^ 31 →
      ReadHonest ⟨os, .quiet, none, 64⟩ Flash.toDisk pFile pBuf amt offset w := by
  refine ⟨rfl, ?_, ?_⟩
  · intro hpage
    have hopen : (World.opened (ascii "db") [1, 2, 3, 4] (by decide)).os.handles 0 = some (0, 0) :=
      World.opened_handles _ _ _
    have hzero := (readDbPage_honest_iff deafFlash_faultyReads hopen (le_refl 1)
      (by decide)).mp hpage 0 (by decide) (by decide)
    revert hzero
    decide
  · intro h
    have hhonest := h deafFlash deafFlash_faultyReads (.on 0 (ascii "db")) (.untouched fun _ => 0)
      4 0 (World.opened (ascii "db") [1, 2, 3, 4] (by decide)) (by decide) (by decide) (by decide)
    have hshort := hhonest.short rfl
    revert hshort
    decide

end VxSqlite
