import VxSqlite.Pager.HotRecovery
import VxSqlite.Pager.JournalAppend
import VxSqlite.Pager.Writer

/-!
# What holds during a write transaction

The invariant of a transaction that writes its changes through a rollback journal. The segments
`synced` of the journal are counted in their headers, the pages `current` are journalled behind
them, and only pages that are in `synced` may differ in the database file from `Original`. Through
the page cache a reader of the database sees what was last stored in its pages, which is `content`.
From any such state a crash leaves a disk that can be recovered.
-/

namespace VxSqlite

/-! ## Pages as they are read -/

/-- The data of a page but for the change counter and the version number, which the pager stores on
page 1 itself. -/
def unstamped (pgno : Nat) (pData : List UInt8) : List UInt8 :=
  if pgno = 1 then overlay (overlay pData 24 (List.replicate 4 0)) 92 (List.replicate 8 0)
  else pData

/-- The data of a page as the pager returns it: the cache's, or else the file's. -/
def Writer.image (p : Writer) (pageSize : Nat) (file : List UInt8) (pgno : Nat) : List UInt8 :=
  (p.pPCache.page pgno).getD (paddedBlock 0 pageSize file pgno)

/-- The pages of the database as a reader finds them when the transaction begins. -/
def Original.pages (o : Original) (pgno : Nat) : Option (List UInt8) :=
  some (paddedBlock 0 o.pageSize o.content pgno)

theorem length_changecounterData (pPager : Pager) {pData : List UInt8} (h : 100 ≤ pData.length) :
    (changecounterData pPager pData).length = pData.length := by
  have hstored : ∀ {content : List UInt8} {offset : Nat} (v : UInt32),
      content.length = pData.length → offset ≤ 96 →
      (overlay content offset (sqlite3Put4byte v)).length = pData.length := by
    intro content offset v hlength hoffset
    rw [length_overlay_inside (by rw [length_sqlite3Put4byte]; omega), hlength]
  exact hstored _ (hstored _ (hstored _ rfl (by omega)) (by omega)) (by omega)

/-- The bytes in which the change counter and the version number are stored. -/
def Stamped (i : Nat) : Prop := 24 ≤ i ∧ i < 28 ∨ 92 ≤ i ∧ i < 100

theorem getElem?_changecounterData (pPager : Pager) {pData : List UInt8} (h : 100 ≤ pData.length)
    {i : Nat} (hi : ¬ Stamped i) : (changecounterData pPager pData)[i]? = pData[i]? := by
  unfold Stamped at hi
  have hfirst : ∀ v, (overlay pData 24 (sqlite3Put4byte v)).length = pData.length := fun v =>
    length_overlay_inside (by rw [length_sqlite3Put4byte]; omega)
  have hsecond : ∀ v, (overlay (overlay pData 24 (sqlite3Put4byte v)) 92
      (sqlite3Put4byte v)).length = pData.length := fun v =>
    (length_overlay_inside (by rw [hfirst, length_sqlite3Put4byte]; omega)).trans (hfirst v)
  simp only [changecounterData]
  rw [getElem?_overlay_outside _ (by rw [hsecond]; omega) (by rw [length_sqlite3Put4byte]; omega),
    getElem?_overlay_outside _ (by rw [hfirst]; omega) (by rw [length_sqlite3Put4byte]; omega),
    getElem?_overlay_outside _ (by omega) (by rw [length_sqlite3Put4byte]; omega)]

/-- Pages that differ only in the stamped bytes are the same without them. -/
theorem unstamped_congr {first second : List UInt8} (hfirst : 100 ≤ first.length)
    (hsecond : 100 ≤ second.length) (h : ∀ i, ¬ Stamped i → first[i]? = second[i]?) :
    unstamped 1 first = unstamped 1 second := by
  have hcell : ∀ {content : List UInt8} (i : Nat), 100 ≤ content.length →
      (unstamped 1 content)[i]? =
        if 24 ≤ i ∧ i < 28 ∨ 92 ≤ i ∧ i < 100 then some 0 else content[i]? := by
    intro content i hlength
    have hinner : (overlay content 24 (List.replicate 4 0)).length = content.length :=
      length_overlay_inside (by rw [List.length_replicate]; omega)
    rw [unstamped, if_pos rfl]
    by_cases hsecond : 92 ≤ i ∧ i < 100
    · rw [if_pos (Or.inr hsecond), getElem?_overlay_inside _ (by omega) hsecond.1
        (by rw [List.length_replicate]; omega), List.getElem?_replicate_of_lt (by omega)]
    rw [getElem?_overlay_outside _ (by omega) (by rw [List.length_replicate]; omega)]
    by_cases hfirst : 24 ≤ i ∧ i < 28
    · rw [if_pos (Or.inl hfirst), getElem?_overlay_inside _ (by omega) hfirst.1
        (by rw [List.length_replicate]; omega), List.getElem?_replicate_of_lt (by omega)]
    · rw [if_neg (by omega), getElem?_overlay_outside _ (by omega)
        (by rw [List.length_replicate]; omega)]
  apply List.ext_getElem?
  intro i
  rw [hcell i hfirst, hcell i hsecond]
  split_ifs with hi
  · rfl
  · exact h i hi

/-- Storing the change counter is not seen but in its own bytes. -/
theorem unstamped_changecounterData (pPager : Pager) {pData : List UInt8}
    (h : 100 ≤ pData.length) :
    unstamped 1 (changecounterData pPager pData) = unstamped 1 pData :=
  unstamped_congr (by rw [length_changecounterData pPager h]; exact h) h
    fun _ hi => getElem?_changecounterData pPager h hi

/-! ## The invariant -/

variable {σ : Type} {env : Env σ} {view : σ → Disk} {o : Original}

/-- What a transaction relies on outside of the pager: a system that obeys its laws and takes a
short write whole or not at all, and a busy handler that leaves the files alone and gives up. -/
structure Surroundings (env : Env σ) (view : σ → Disk) (calls : WriterCallbacks σ)
    (o : Original) : Prop where
  laws : Lawful env.os view
  shortWrites : TakesShortWrites env.os view
  fuel : o.pageSize ≤ env.writeFuel
  handler : ∀ nBusy w, Undisturbed (view w.os) (view (calls.xBusyHandler nBusy w).2.os)
  givesUp : ∃ nBusy < calls.busyFuel, ∀ w, (calls.xBusyHandler nBusy w).1 = false

/-- What stays as it is as long as a pager has the database open: its journal is a file that can be
opened under its name and is removed at the end of a transaction. -/
structure Settled (o : Original) (zFilename zJournal : CString) (pPager : Pager) : Prop where
  apart : zFilename ≠ zJournal
  fits : zJournal.length < maxVerixFileName
  plain : percent ∉ zJournal
  isOpen : IsOpen pPager.fd
  filename : pPager.fd.filename = zFilename
  zJournal : pPager.zJournal = zJournal
  sjfd : ¬ IsOpen pPager.sjfd
  noWal : ¬ PagerUseWal pPager
  deletes : DeletesJournal pPager
  noSync : pPager.noSync = false
  pageSize : pPager.pageSize = o.pageSize
  sectorSize : pPager.sectorSize = o.sectorSize

/-- The fields that `Settled` is about. -/
def Pager.settings (pPager : Pager) : VerixFile × CString × VerixFile × Bool × JournalMode × Bool ×
    Bool × Bool × Nat × Nat :=
  (pPager.fd, pPager.zJournal, pPager.sjfd, pPager.pWal, pPager.journalMode, pPager.exclusiveMode,
    pPager.tempFile, pPager.noSync, pPager.pageSize, pPager.sectorSize)

theorem Settled.congr {zFilename zJournal : CString} {pPager pPager' : Pager}
    (h : Settled o zFilename zJournal pPager) (heq : pPager'.settings = pPager.settings) :
    Settled o zFilename zJournal pPager' := by
  simp only [Pager.settings, Prod.mk.injEq] at heq
  obtain ⟨hfd, hzJournal, hsjfd, hpWal, hmode, hexclusive, htemp, hnoSync, hpage, hsector⟩ := heq
  have hnoWal := h.noWal
  have hdeletes := h.deletes
  unfold PagerUseWal at hnoWal
  unfold DeletesJournal at hdeletes
  exact {
    apart := h.apart
    fits := h.fits
    plain := h.plain
    isOpen := by rw [hfd]; exact h.isOpen
    filename := by rw [hfd]; exact h.filename
    zJournal := hzJournal.trans h.zJournal
    sjfd := by rw [hsjfd]; exact h.sjfd
    noWal := by unfold PagerUseWal; rw [hpWal]; exact hnoWal
    deletes := by unfold DeletesJournal; rw [hmode, hexclusive, htemp]; exact hdeletes
    noSync := hnoSync.trans h.noSync
    pageSize := hpage.trans h.pageSize
    sectorSize := hsector.trans h.sectorSize }

/-- The journal is open, on a file of its own. -/
structure JournalFile (f j : Nat) (pPager : Pager) (d : Disk) : Prop where
  named : NamedFile d pPager.jfd j
  filename : pPager.jfd.filename = pPager.zJournal
  isOpen : IsOpen pPager.jfd
  apart : f ≠ j

/-- A journal as the pager has written it: segments that are counted, and behind them a header
without a count and the records of the pages `current`. -/
structure JournalHolds (o : Original) (journal : List UInt8) (synced : List (List Nat))
    (last : Nat) (current : List Nat) (next : Nat) (pPager : Pager) : Prop where
  segments : Segments o journal 0 synced last
  header : HeaderAt o journal (o.hdrOffset last) (List.replicate 12 0) pPager.cksumInit
  records : Records o pPager.cksumInit journal (o.hdrOffset last + o.sectorSize) current next
  journalHdr : pPager.journalHdr = (o.hdrOffset last : Nat)
  journalOff : pPager.journalOff = (next : Nat)
  nRec : pPager.nRec = current.length
  next_le : next ≤ journal.length

/-- All that the journal holds is counted, and nothing lies behind it. -/
structure JournalClosed (o : Original) (f j last : Nat) (synced : List (List Nat)) (pPager : Pager)
    (d : Disk) : Prop where
  file : JournalFile f j pPager d
  segments : Segments o (d.data j) 0 synced last
  ne_nil : synced ≠ []
  journalHdr : pPager.journalHdr = (last : Nat)
  length_eq : (d.data j).length = last

/-- The state of a pager that has opened its journal: the database file is not written before the
journal is synced. -/
def WritesJournal (p : Writer) (synced : List (List Nat)) : Prop :=
  p.eState = .writerCachemod ∧ synced = [] ∨ p.eState = .writerDbmod ∧ synced ≠ []

/-- How far the journal has come. The flag says that the transaction can go on. -/
inductive JournalStage (o : Original) (f : Nat) (p : Writer) (d : Disk) :
    Bool → List (List Nat) → List Nat → Prop where
  | idle : p.eState = .reader ∨
        p.eState = .writerLocked ∧ p.dbOrigSize = o.nPage ∧ p.dbFileSize = o.nPage →
      ¬ IsOpen p.jfd → d.dir p.zJournal = none → p.dbSize = o.nPage → p.pDirty = [] →
      p.pInJournal = .null → JournalStage o f p d true [] []
  | opening (j : Nat) : p.eState = .writerLocked → JournalFile f j p.toPager d →
      (d.data j).length < o.sectorSize → p.dbSize = o.nPage → p.pDirty = [] →
      JournalStage o f p d false [] []
  | writing (j last next : Nat) {synced : List (List Nat)} {current : List Nat} :
      JournalFile f j p.toPager d →
      JournalHolds o (d.data j) synced last current next p.toPager →
      WritesJournal p synced → (d.data j).length = next →
      p.pInJournal.Represents (synced.flatten ++ current).toFinset →
      p.pInJournal.iSize = o.nPage → p.dbOrigSize = o.nPage →
      (d.data f).length = p.dbFileSize * o.pageSize → p.dbFileSize ≤ p.dbSize →
      JournalStage o f p d true synced current
  | torn (j last next : Nat) {synced : List (List Nat)} {current : List Nat} :
      JournalFile f j p.toPager d →
      JournalHolds o (d.data j) synced last current next p.toPager →
      WritesJournal p synced → (d.data j).length < next + (o.pageSize + 8) →
      JournalStage o f p d false synced current
  | closed (j last : Nat) {synced : List (List Nat)} :
      JournalClosed o f j last synced p.toPager d →
      p.eState = .writerDbmod ∨ p.eState = .writerFinished → p.dbFileSize ≤ p.dbSize →
      JournalStage o f p d false synced []

/-- The page cache during a transaction: a page that is not journalled is still the original's, one
behind the end of the database is blank, and as long as the transaction is `ready` to go on, a dirty
page is journalled if it is one of the original's. -/
structure CacheHolds (o : Original) (ready : Bool) (synced current : List Nat) (p : Writer) :
    Prop where
  page : ∀ k pData, p.pPCache.page k = some pData →
    pData.length = o.pageSize ∧ 1 ≤ k ∧ k ≠ o.mjPgno ∧ k * o.pageSize ≤ 2 ^ 32
  original : ∀ k pData, p.pPCache.page k = some pData → k ≤ o.nPage → k ∉ synced ++ current →
    pData = o.page k
  behind : ∀ k pData, p.pPCache.page k = some pData → p.dbSize < k →
    pData = List.replicate o.pageSize 0
  dirty : ready = true → ∀ k ∈ p.pDirty, (p.pPCache.page k).isSome ∧ k ≤ p.dbSize ∧
    (k ≤ o.nPage → k ∈ synced ++ current)
  unsynced : ready = true → ∀ k ∈ current, k ∈ p.pDirty ∧ p.needSync k = true
  inUse : ∀ k ∈ p.refs, (p.pPCache.page k).isSome

/-- Through the cache a reader sees `content`, where it says something about a page, and so does
the file where no page is `pending`. -/
structure Transparent (pageSize : Nat) (file : List UInt8) (content : Nat → Option (List UInt8))
    (pending : Nat → Prop) (p : Writer) : Prop where
  image : ∀ k pData, 1 ≤ k → content k = some pData →
    unstamped k (p.image pageSize file k) = unstamped k pData
  clean : ∀ k pData, p.pPCache.page k = some pData → ¬ pending k → content k ≠ none →
    pData = paddedBlock 0 pageSize file k
  given : ∀ k ∈ p.pDirty, p.dontWrite k = true → content k = none

/-- The state of a pager and its disk during a transaction. -/
structure Underway (o : Original) (zFilename zJournal : CString) (f : Nat)
    (content : Nat → Option (List UInt8)) (ready : Bool) (synced : List (List Nat))
    (current : List Nat) (p : Writer) (d : Disk) : Prop where
  settled : Settled o zFilename zJournal p.toPager
  db : NamedFile d p.fd f
  errCode : p.errCode = .ok
  stage : JournalStage o f p d ready synced current
  restored : RestoredBut o.pageSize o.content o.nPage (fun k => k ∈ synced.flatten) (d.data f)
  whole : synced = [] → d.data f = o.content
  size_le : p.dbSize * o.pageSize ≤ 2 ^ 32
  size_ne : p.dbSize ≠ o.mjPgno
  cache : CacheHolds o ready synced.flatten current p
  transparent : ready = true → Transparent o.pageSize (d.data f) content (· ∈ p.pDirty) p

/-! ## What a crash leaves -/

/-- The disk can be recovered, unless the journal happens to end like one that names a master
journal. -/
def Survives (o : Original) (zFilename zJournal : CString) (f : Nat) (d : Disk) : Prop :=
  (∀ j, d.dir zJournal = some j → ¬ EndsLikeMaster (d.data j)) →
    Recoverable o zFilename zJournal f d

variable {zFilename zJournal : CString} {f : Nat} {d d' : Disk}

theorem Survives.undisturbed (h : Survives o zFilename zJournal f d) (hsame : Undisturbed d d') :
    Survives o zFilename zJournal f d' := by
  intro hnone
  refine (h ?_).undisturbed hsame
  intro j hj
  rw [← hsame.data]
  exact hnone j (by rw [hsame.dir]; exact hj)

/-- The counted segments undo what was done to the database, whatever lies behind them, as long as
it is not read as a header. -/
theorem Survives.of_segments {j last : Nat} {synced : List (List Nat)}
    (hdb : d.dir zFilename = some f) (hjrnl : d.dir zJournal = some j) (hne : f ≠ j)
    (hsegments : Segments o (d.data j) 0 synced last) (hstops : StopsAt o (d.data j) none last)
    (hrestored : RestoredBut o.pageSize o.content o.nPage (fun k => k ∈ synced.flatten) (d.data f))
    (hwhole : synced = [] → d.data f = o.content) : Survives o zFilename zJournal f d :=
  fun hnone => .hot j synced last hdb hjrnl hne
    ⟨hsegments, hstops, hnone j hjrnl, hrestored, hwhole⟩

/-- Where there is no room for another header, nothing is read as one. -/
theorem StopsAt.of_length_lt {journal : List UInt8} {last : Nat} (journalHdr : Option Int)
    (h : journal.length < last + o.sectorSize) : StopsAt o journal journalHdr last := by
  intro hle
  have hbehind := o.le_hdrOffset last
  omega

/-- A header without a count is not taken for one after a crash. -/
theorem JournalHolds.stops {journal : List UInt8} {synced : List (List Nat)} {last next : Nat}
    {current : List Nat} {pPager : Pager}
    (h : JournalHolds o journal synced last current next pPager) : StopsAt o journal none last := by
  intro _
  refine ⟨by simp, ?_⟩
  rw [h.header.magic]
  decide

/-- In every state of a transaction a crash leaves a disk that can be recovered. -/
theorem Underway.survives {content : Nat → Option (List UInt8)} {ready : Bool}
    {synced : List (List Nat)} {current : List Nat} {p : Writer}
    (h : Underway o zFilename zJournal f content ready synced current p d) :
    Survives o zFilename zJournal f d := by
  have hdb : d.dir zFilename = some f := by
    rw [← h.settled.filename]
    exact h.db.named
  have hjrnl : ∀ {j}, JournalFile f j p.toPager d → d.dir zJournal = some j := by
    intro j hfile
    rw [← h.settled.zJournal, ← hfile.filename]
    exact hfile.named.named
  have hrestored := h.restored
  have hwhole := h.whole
  cases h.stage with
  | idle _ _ hnone =>
      intro _
      exact .original hdb (by rw [← h.settled.zJournal]; exact hnone) (hwhole rfl)
  | opening j _ hfile hlength =>
      exact .of_segments hdb (hjrnl hfile) hfile.apart (.nil 0)
        (.of_length_lt none (by omega)) hrestored hwhole
  | writing j last next hfile hholds =>
      exact .of_segments hdb (hjrnl hfile) hfile.apart hholds.segments hholds.stops hrestored hwhole
  | torn j last next hfile hholds =>
      exact .of_segments hdb (hjrnl hfile) hfile.apart hholds.segments hholds.stops hrestored hwhole
  | closed j last hclosed =>
      have hsector := o.le_sectorSize
      have hlength := hclosed.length_eq
      exact .of_segments hdb (hjrnl hclosed.file) hclosed.file.apart hclosed.segments
        (.of_length_lt none (by omega)) hrestored hwhole

/-! ## Frames -/

/-- The writers differ at most in the page cache and in fields that the invariant is not about. -/
def Alike (p p' : Writer) : Prop :=
  p' = { p with
    pPCache := p'.pPCache
    pDirty := p'.pDirty
    refs := p'.refs
    needSync := p'.needSync
    dontWrite := p'.dontWrite
    doNotSpill := p'.doNotSpill
    dbHintSize := p'.dbHintSize
    eLock := p'.eLock
    hasBeenUsed := p'.hasBeenUsed
    changeCountDone := p'.changeCountDone
    dbFileVers := p'.dbFileVers }

theorem Alike.refl (p : Writer) : Alike p p := rfl

/-- The second writer, written out. -/
theorem Alike.exists {p p' : Writer} (h : Alike p p') :
    ∃ pPCache pDirty refs needSync dontWrite doNotSpill dbHintSize eLock hasBeenUsed
      changeCountDone dbFileVers, p' = { p with
        pPCache := pPCache
        pDirty := pDirty
        refs := refs
        needSync := needSync
        dontWrite := dontWrite
        doNotSpill := doNotSpill
        dbHintSize := dbHintSize
        eLock := eLock
        hasBeenUsed := hasBeenUsed
        changeCountDone := changeCountDone
        dbFileVers := dbFileVers } :=
  ⟨_, _, _, _, _, _, _, _, _, _, _, h⟩

theorem Alike.trans {p p' p'' : Writer} (h : Alike p p') (h' : Alike p' p'') : Alike p p'' := by
  unfold Alike at h h' ⊢
  rw [h] at h'
  exact h'

theorem JournalFile.touches {j g : Nat} {pPager pPager' : Pager} (h : JournalFile f j pPager d)
    (htouch : Touches g d d') (hjfd : pPager'.jfd = pPager.jfd)
    (hname : pPager'.zJournal = pPager.zJournal) : JournalFile f j pPager' d' :=
  ⟨by rw [hjfd]; exact htouch.namedFile h.named, by rw [hjfd, hname]; exact h.filename,
    by rw [hjfd]; exact h.isOpen, h.apart⟩

theorem JournalClosed.touches {j last : Nat} {synced : List (List Nat)} {pPager pPager' : Pager}
    (h : JournalClosed o f j last synced pPager d) (htouch : Touches f d d')
    (hjfd : pPager'.jfd = pPager.jfd) (hname : pPager'.zJournal = pPager.zJournal)
    (hhdr : pPager'.journalHdr = pPager.journalHdr) :
    JournalClosed o f j last synced pPager' d' := by
  have hdata := htouch.data j (Ne.symm h.file.apart)
  exact ⟨h.file.touches htouch hjfd hname, by rw [hdata]; exact h.segments, h.ne_nil,
    hhdr.trans h.journalHdr, by rw [hdata]; exact h.length_eq⟩

theorem JournalHolds.pager {journal : List UInt8} {synced : List (List Nat)} {last next : Nat}
    {current : List Nat} {pPager pPager' : Pager}
    (h : JournalHolds o journal synced last current next pPager)
    (hinit : pPager'.cksumInit = pPager.cksumInit) (hhdr : pPager'.journalHdr = pPager.journalHdr)
    (hoff : pPager'.journalOff = pPager.journalOff) (hnRec : pPager'.nRec = pPager.nRec) :
    JournalHolds o journal synced last current next pPager' :=
  ⟨h.segments, by rw [hinit]; exact h.header, by rw [hinit]; exact h.records,
    hhdr.trans h.journalHdr, hoff.trans h.journalOff, hnRec.trans h.nRec, h.next_le⟩

/-- The same pages and flags. -/
theorem CacheHolds.congr {ready : Bool} {synced current : List Nat} {p p' : Writer}
    (h : CacheHolds o ready synced current p) (hpage : p'.pPCache.page = p.pPCache.page)
    (hdirty : ∀ k, k ∈ p'.pDirty ↔ k ∈ p.pDirty) (hdbSize : p'.dbSize = p.dbSize)
    (hneedSync : ready = true → ∀ k ∈ current, p.needSync k = true → p'.needSync k = true)
    (hinUse : ∀ k ∈ p'.refs, (p.pPCache.page k).isSome) : CacheHolds o ready synced current p' := by
  refine ⟨by rw [hpage]; exact h.page, by rw [hpage]; exact h.original,
    by rw [hpage, hdbSize]; exact h.behind, ?_, ?_, by rw [hpage]; exact hinUse⟩
  · intro hready k hk
    rw [hpage, hdbSize]
    exact h.dirty hready k ((hdirty k).mp hk)
  · intro hready k hk
    obtain ⟨hmem, hflag⟩ := h.unsynced hready k hk
    exact ⟨(hdirty k).mpr hmem, hneedSync hready k hk hflag⟩

/-- What is known about the dirty pages is not needed to undo the transaction. -/
theorem CacheHolds.undoable {ready : Bool} {synced current : List Nat} {p : Writer}
    (h : CacheHolds o ready synced current p) : CacheHolds o false synced current p :=
  ⟨h.page, h.original, h.behind, fun hready => (by cases hready), fun hready => (by cases hready),
    h.inUse⟩

theorem Transparent.congr {pageSize : Nat} {file : List UInt8}
    {content : Nat → Option (List UInt8)} {p p' : Writer}
    (h : Transparent pageSize file content (· ∈ p.pDirty) p)
    (hpage : p'.pPCache.page = p.pPCache.page) (hdirty : ∀ k, k ∈ p'.pDirty ↔ k ∈ p.pDirty)
    (hdontWrite : ∀ k ∈ p.pDirty, p'.dontWrite k = true → p.dontWrite k = true) :
    Transparent pageSize file content (· ∈ p'.pDirty) p' := by
  refine ⟨?_, ?_, fun k hk hflag => ?_⟩
  · unfold Writer.image
    rw [hpage]
    exact h.image
  · intro k pData hcached hpending
    rw [hpage] at hcached
    exact h.clean k pData hcached fun hmem => hpending ((hdirty k).mpr hmem)
  · have hmem := (hdirty k).mp hk
    exact h.given k hmem (hdontWrite k hmem hflag)

section Alike

variable {ready : Bool} {synced : List (List Nat)} {current : List Nat} {p p' : Writer}

/-- What a change of the page cache does to the journal. -/
theorem JournalStage.alike (h : JournalStage o f p d ready synced current) (halike : Alike p p')
    (hsame : Undisturbed d d') (hclean : p.pDirty = [] → p'.pDirty = []) :
    JournalStage o f p' d' ready synced current := by
  obtain ⟨_, _, _, _, _, _, _, _, _, _, _, rfl⟩ := halike.exists
  have hdata := hsame.data
  have htouch := hsame.touches f
  cases h with
  | idle heState hclosed hnone hdbSize hdirty hbits =>
      exact .idle heState hclosed (by rw [hsame.dir]; exact hnone) hdbSize (hclean hdirty) hbits
  | opening j heState hfile hlength hdbSize hdirty =>
      exact .opening j heState (hfile.touches htouch rfl rfl) (by rw [hdata]; exact hlength)
        hdbSize (hclean hdirty)
  | writing j last next hfile hholds hwrites hlength hbits hiSize horig hfileLength hgrown =>
      rw [← hdata] at hholds hlength hfileLength
      exact .writing j last next (hfile.touches htouch rfl rfl)
        (hholds.pager rfl rfl rfl rfl) hwrites hlength hbits hiSize horig hfileLength hgrown
  | torn j last next hfile hholds hwrites hlength =>
      rw [← hdata] at hholds hlength
      exact .torn j last next (hfile.touches htouch rfl rfl) (hholds.pager rfl rfl rfl rfl)
        hwrites hlength
  | closed j last hclosed heState hgrown =>
      exact .closed j last (hclosed.touches htouch rfl rfl rfl) heState hgrown

/-- A step that changes nothing but the page cache keeps the invariant if the cache holds it. -/
theorem Underway.alike {content content' : Nat → Option (List UInt8)}
    (h : Underway o zFilename zJournal f content ready synced current p d) (halike : Alike p p')
    (hsame : Undisturbed d d') (hclean : p.pDirty = [] → p'.pDirty = [])
    (hcache : CacheHolds o ready synced.flatten current p')
    (htransparent : ready = true →
      Transparent o.pageSize (d.data f) content' (· ∈ p'.pDirty) p') :
    Underway o zFilename zJournal f content' ready synced current p' d' := by
  have hstage := h.stage.alike halike hsame hclean
  obtain ⟨_, _, _, _, _, _, _, _, _, _, _, rfl⟩ := halike.exists
  rw [← hsame.data] at htransparent
  exact {
    settled := h.settled.congr rfl
    db := hsame.namedFile h.db
    errCode := h.errCode
    stage := hstage
    restored := by rw [hsame.data]; exact h.restored
    whole := by rw [hsame.data]; exact h.whole
    size_le := h.size_le
    size_ne := h.size_ne
    cache := hcache
    transparent := htransparent }

/-- A step that writes to the journal only leaves what is known about the database. -/
theorem Underway.restage {content : Nat → Option (List UInt8)} {ready' : Bool}
    {synced' : List (List Nat)} {current' : List Nat}
    (h : Underway o zFilename zJournal f content ready synced current p d)
    (hdata : d'.data f = d.data f) (hdb : NamedFile d' p.fd f)
    (hsettings : p'.toPager.settings = p.toPager.settings) (herrCode : p'.errCode = p.errCode)
    (hdbSize : p'.dbSize = p.dbSize) (hstage : JournalStage o f p' d' ready' synced' current')
    (hmore : ∀ k ∈ synced.flatten, k ∈ synced'.flatten) (hwhole : synced' = [] → synced = [])
    (hcache : CacheHolds o ready' synced'.flatten current' p')
    (htransparent : ready' = true →
      Transparent o.pageSize (d.data f) content (· ∈ p'.pDirty) p') :
    Underway o zFilename zJournal f content ready' synced' current' p' d' := by
  have hfd : p'.fd = p.fd := congrArg Prod.fst hsettings
  exact {
    settled := h.settled.congr hsettings
    db := by rw [hfd]; exact hdb
    errCode := herrCode.trans h.errCode
    stage := hstage
    restored := by rw [hdata]; exact h.restored.mono hmore
    whole := fun hnil => by rw [hdata]; exact h.whole (hwhole hnil)
    size_le := by rw [hdbSize]; exact h.size_le
    size_ne := by rw [hdbSize]; exact h.size_ne
    cache := hcache
    transparent := by rw [hdata]; exact htransparent }

/-- A step that changes no page, and no flag of a dirty page but to `PGHDR_NEED_SYNC`, keeps the
invariant. -/
theorem Underway.samePages {content : Nat → Option (List UInt8)}
    (h : Underway o zFilename zJournal f content ready synced current p d) (halike : Alike p p')
    (hsame : Undisturbed d d') (hpage : p'.pPCache.page = p.pPCache.page)
    (hdirty : ∀ k, k ∈ p'.pDirty ↔ k ∈ p.pDirty)
    (hneedSync : ∀ k ∈ p.pDirty, p.needSync k = true → p'.needSync k = true)
    (hdontWrite : ∀ k ∈ p.pDirty, p'.dontWrite k = true → p.dontWrite k = true)
    (hinUse : ∀ k ∈ p'.refs, (p.pPCache.page k).isSome) :
    Underway o zFilename zJournal f content ready synced current p' d' := by
  have hcache := h.cache
  have hdbSize : p'.dbSize = p.dbSize := (congrArg (fun q : Writer => q.dbSize) halike).trans rfl
  refine h.alike halike hsame ?_ ?_ fun hready => ?_
  · intro hnil
    refine List.eq_nil_iff_forall_not_mem.mpr fun k hk => ?_
    rw [hdirty, hnil] at hk
    cases hk
  · exact hcache.congr hpage hdirty hdbSize
      (fun hready k hk => hneedSync k (hcache.unsynced hready k hk).1) hinUse
  · exact (h.transparent hready).congr hpage hdirty hdontWrite

end Alike

/-! ## How a call ends -/

theorem ok_not_ioerr : ¬ ResultCode.ok.IsIoerr := by decide

theorem busy_not_ioerr : ¬ ResultCode.busy.IsIoerr := by decide

theorem ioerrWrite_ioerr : ResultCode.ioerrWrite.IsIoerr := by decide

/-- How a call leaves a transaction: it can go on, or an I/O error was returned and it can only be
undone, or the pager has noted the error and the next one has to recover. -/
inductive Course (o : Original) (zFilename zJournal : CString) (f : Nat)
    (content : Nat → Option (List UInt8)) (rc : ResultCode) (p : Writer) (d : Disk) : Prop where
  | goesOn (synced : List (List Nat)) (current : List Nat) : ¬ rc.IsIoerr →
      Underway o zFilename zJournal f content true synced current p d →
      Course o zFilename zJournal f content rc p d
  | undoable (ready : Bool) (synced : List (List Nat)) (current : List Nat) : rc.IsIoerr →
      Underway o zFilename zJournal f content ready synced current p d →
      Course o zFilename zJournal f content rc p d
  | broken : rc.IsIoerr → p.eState = .error → p.errCode ≠ .ok →
      Survives o zFilename zJournal f d → Course o zFilename zJournal f content rc p d

theorem Course.survives {content : Nat → Option (List UInt8)} {rc : ResultCode} {p : Writer}
    (h : Course o zFilename zJournal f content rc p d) : Survives o zFilename zJournal f d := by
  cases h with
  | goesOn _ _ _ hunderway => exact hunderway.survives
  | undoable _ _ _ _ hunderway => exact hunderway.survives
  | broken _ _ _ hsurvives => exact hsurvives

/-- A call that returns no I/O error can be followed by others. -/
theorem Course.underway {content : Nat → Option (List UInt8)} {rc : ResultCode} {p : Writer}
    (h : Course o zFilename zJournal f content rc p d) (hrc : ¬ rc.IsIoerr) :
    ∃ synced current, Underway o zFilename zJournal f content true synced current p d := by
  cases h with
  | goesOn synced current _ hunderway => exact ⟨synced, current, hunderway⟩
  | undoable _ _ _ hioerr => exact absurd hioerr hrc
  | broken hioerr => exact absurd hioerr hrc

end VxSqlite
