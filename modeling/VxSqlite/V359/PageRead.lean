import VxSqlite.Flash
import VxSqlite.V359.File
import VxSqlite.Verix.Content

/-!
# Fetching a page in SQLite 3.5.9

A page that is not in the cache is read by `pagerAcquire` into memory that holds whatever was
there before. Pages beyond the page count are zeroed; the others are read, and a short read is
taken for a success. The read of this port leaves what `read()` did not fill as it was, so the
page is determined by the file exactly if no page within the count ends behind the file.
-/

namespace VxSqlite.V359

/-! ## The pager -/

/-- The fields of the pager that fetching a page reads or sets. `locked` says that the state is not
`PAGER_UNLOCK`, and a negative `dbSize` that the page count is not known. -/
structure Pager where
  fd : VerixFile
  locked : Bool
  alwaysRollback : Bool
  memDb : Bool
  errCode : ResultCode
  dbSize : Int
  pageSize : Nat
  mxPgno : Nat
  dbFileVers : List UInt8
  pageSize_pos : 0 < pageSize

/-- The page number, the content and the `needRead` flag of a page in memory. -/
structure PgHdr where
  pgno : Nat
  pData : Buffer UInt8
  needRead : Bool

/-- `PENDING_BYTE`. -/
def pendingByte : Nat := 0x40000000

/-- `PAGER_MAX_PGNO`. -/
def pagerMaxPgno : Nat := 2147483647

/-- `PAGER_MJ_PGNO`. -/
def Pager.mjPgno (pPager : Pager) : Nat := pendingByte / pPager.pageSize + 1

/-- The pages of a file of `n` bytes: a first page that is only partly there counts. -/
def Pager.pagesOf (pPager : Pager) (n : Int) : Int :=
  if 0 < n ∧ n < pPager.pageSize then 1 else n.tdiv pPager.pageSize

/-- The page with the pending byte counts if it comes right after the end. -/
def Pager.withPendingPage (pPager : Pager) (n : Int) : Int :=
  if n = (pendingByte / pPager.pageSize : Nat) then n + 1 else n

/-- Remember an error of one of the three persistent kinds. -/
def pagerError (pPager : Pager) (rc : ResultCode) : Pager :=
  let rc2 := rc.code % 256
  if rc2 = ResultCode.full.code ∨ rc2 = ResultCode.ioerr.code ∨ rc2 = ResultCode.corrupt.code then
    { pPager with errCode := rc }
  else pPager

variable {σ : Type}

/-- A page count with the pager and the world after. -/
structure Pagecount (σ : Type) where
  n : Int
  pager : Pager
  world : World σ

/-- The end of `sqlite3PagerPagecount`, for `n` pages. -/
def Pager.countPages (pPager : Pager) (n : Int) (w : World σ) : Pagecount σ :=
  let n := pPager.withPendingPage n
  ⟨toInt n, { pPager with mxPgno := if n > pPager.mxPgno then n.toNat else pPager.mxPgno }, w⟩

/-- The number of pages in the database file, `-1` for an error. -/
def sqlite3PagerPagecount (env : Env σ) (pPager : Pager) (w : World σ) : Pagecount σ :=
  if pPager.errCode ≠ .ok then ⟨-1, pPager, w⟩
  else if pPager.dbSize ≥ 0 then pPager.countPages pPager.dbSize w
  else
    let size := if pPager.fd.pMethod then verixFileSize env pPager.fd 0 w else (.ok, 0, w)
    if size.1 ≠ .ok then ⟨-1, pagerError pPager size.1, size.2.2⟩
    else
      let n := pPager.pagesOf size.2.1
      let pPager := if pPager.locked then { pPager with dbSize := toInt n } else pPager
      pPager.countPages n size.2.2

/-- The offset of a page in the database file. -/
def Pager.offset (pPager : Pager) (pgno : Nat) : Nat := (pgno - 1) * pPager.pageSize

/-- Read the content of a page out of the database file. -/
def readDbPage (env : Env σ) (pPager : Pager) (pPg : PgHdr) (pgno : Nat) (w : World σ) :
    ResultCode × PgHdr × Pager × World σ :=
  if pPager.fd.pMethod = false then (.ioerrShortRead, pPg, pPager, w)
  else
    let read := verixRead env pPager.fd pPg.pData pPager.pageSize (pPager.offset pgno) w
    let pPager :=
      if pgno = 1 then
        { pPager with dbFileVers := (List.range 16).map fun i : Nat => read.2.1.cell (24 + i) }
      else pPager
    (read.1, { pPg with pData := read.2.1 }, pPager, read.2.2)

/-- What `pagerAcquire` returns: the code, the page if there is one, the pager and the world. -/
structure Acquired (σ : Type) where
  rc : ResultCode
  page : Option PgHdr
  pager : Pager
  world : World σ

/-- Acquire a page that is not in the cache, on a pager that holds its lock already. `pData` is the
memory that `pagerAllocatePage` provides, fresh or from another page. -/
def pagerAcquire (env : Env σ) (pPager : Pager) (pgno : Nat) (noContent : Bool)
    (pData : Buffer UInt8) (w : World σ) : Acquired σ :=
  if pgno > pagerMaxPgno ∨ pgno = 0 ∨ pgno = pPager.mjPgno then ⟨.corrupt, none, pPager, w⟩
  else
    let count := sqlite3PagerPagecount env pPager w
    let pPager := count.pager
    let noRead := noContent && !pPager.alwaysRollback
    if pPager.errCode ≠ .ok then ⟨pPager.errCode, none, pPager, count.world⟩
    else if count.n < pgno ∨ pPager.memDb ∨ noRead then
      if pgno > pPager.mxPgno then ⟨.full, none, pPager, count.world⟩
      else ⟨.ok, some ⟨pgno, pData.memset 0 0 pPager.pageSize, noRead⟩, pPager, count.world⟩
    else
      let read := readDbPage env pPager ⟨pgno, pData, false⟩ pgno count.world
      if read.1 ≠ .ok ∧ read.1 ≠ .ioerrShortRead then ⟨read.1, none, read.2.2.1, read.2.2.2⟩
      else ⟨.ok, some read.2.1, read.2.2.1, read.2.2.2⟩

/-! ## What the page should hold -/

/-- The file behind a file object and its content; there is none behind one that is not open. -/
def StoredFile (d : Disk) (fd : VerixFile) (content : List UInt8) : Prop :=
  if fd.pMethod then ∃ f, NamedFile d fd f ∧ d.data f = content else content = []

/-- Whatever two pieces of memory the page is read into, the results are the same, and the page
holds the stored bytes followed by zeros. -/
def DependsOnFile (env : Env σ) (pPager : Pager) (pgno : Nat) (w : World σ)
    (content : List UInt8) : Prop :=
  ∀ pData pData' : Buffer UInt8,
    let r := pagerAcquire env pPager pgno false pData w
    let r' := pagerAcquire env pPager pgno false pData' w
    r'.rc = r.rc ∧ ∀ page ∈ r.page, ∃ page' ∈ r'.page,
      page.pData.contents pPager.pageSize =
          ByteStore.padded 0 content (pPager.offset pgno) pPager.pageSize ∧
        page'.pData.contents pPager.pageSize = page.pData.contents pPager.pageSize

/-- `pagerAcquire` refuses the page at once. -/
def Pager.Refuses (pPager : Pager) (pgno : Nat) : Prop :=
  pgno > pagerMaxPgno ∨ pgno = 0 ∨ pgno = pPager.mjPgno ∨ pPager.errCode ≠ .ok

/-- The page count for a file of `size` bytes. -/
def Pager.countFor (pPager : Pager) (size : Int) : Int :=
  pPager.withPendingPage (if pPager.dbSize ≥ 0 then pPager.dbSize else pPager.pagesOf size)

/-- The page is beyond the page count, or the database is in memory. -/
def Pager.Beyond (pPager : Pager) (pgno : Nat) (size : Int) : Prop :=
  toInt (pPager.countFor size) < pgno ∨ pPager.memDb = true

instance (pPager : Pager) (pgno : Nat) (size : Int) : Decidable (pPager.Beyond pgno size) :=
  inferInstanceAs (Decidable (_ ∨ _))

/-- A page that `pagerAcquire` does not refuse is determined by the file where it is beyond the
count, and then beyond the limit of pages or without a byte other than zero in the file, or where
it is within the count, and the seek to it fails or all of it is in the file. -/
def Pager.Determined (pPager : Pager) (pgno : Nat) (content : List UInt8) : Prop :=
  pPager.Refuses pgno ∨
  (pPager.Beyond pgno content.length ∧
    ((pPager.mxPgno < pgno ∧ pPager.countFor content.length < pgno) ∨
      ∀ c ∈ window content (pPager.offset pgno) pPager.pageSize, c = 0)) ∨
  (¬ pPager.Beyond pgno content.length ∧ pPager.fd.pMethod = true ∧
    let start := toInt (pPager.offset pgno)
    (start < 0 ∨ content.length < start) ∨
      (start + pPager.pageSize ≤ content.length ∧
        window content start.toNat pPager.pageSize =
          ByteStore.padded 0 content (pPager.offset pgno) pPager.pageSize))

/-! ## The page count -/

variable {env : Env σ} {view : σ → Disk} {pPager : Pager} {pgno : Nat} {w : World σ}
  {content : List UInt8}

/-- `verixFileSize` reports the size of the file that the remembered name leads to. -/
theorem verixFileSize_named (sizes : ReportsSizes env.os view) {pFile : VerixFile} {f : Nat}
    (hnamed : (view w.os).dir pFile.filename = some f) (pSize : Int) :
    ∃ w', verixFileSize env pFile pSize w = (.ok, (((view w.os).data f).length : Int), w') ∧
      view w'.os = view w.os := by
  obtain ⟨hsize, hne, hview⟩ := sys_dirGetFileSz_named sizes hnamed
  exact ⟨_, by rw [verixFileSize, if_neg hne, hsize], hview⟩

/-- The pager after its pages have been counted. -/
def Pager.counted (pPager : Pager) (dbSize count : Int) : Pager :=
  { pPager with
    dbSize := dbSize
    mxPgno := if count > pPager.mxPgno then count.toNat else pPager.mxPgno }

/-- The page count is the one for the size of the file. -/
theorem sqlite3PagerPagecount_eq (laws : FileLaws env.os view)
    (hfile : StoredFile (view w.os) pPager.fd content) (hok : pPager.errCode = .ok) :
    ∃ dbSize w', sqlite3PagerPagecount env pPager w =
        ⟨toInt (pPager.countFor content.length),
          pPager.counted dbSize (pPager.countFor content.length), w'⟩ ∧
      view w'.os = view w.os := by
  have hcount : ∀ (dbSize n : Int) (v : World σ),
      ({ pPager with dbSize := dbSize } : Pager).countPages n v =
        ⟨toInt (pPager.withPendingPage n), pPager.counted dbSize (pPager.withPendingPage n), v⟩ :=
    fun _ _ _ => rfl
  unfold sqlite3PagerPagecount Pager.countFor
  rw [if_neg (not_not_intro hok)]
  by_cases hknown : pPager.dbSize ≥ 0
  · rw [if_pos hknown, if_pos hknown]
    exact ⟨pPager.dbSize, w, hcount pPager.dbSize pPager.dbSize w, rfl⟩
  · rw [if_neg hknown, if_neg hknown]
    obtain ⟨w', hsize, hview⟩ : ∃ w', (if pPager.fd.pMethod then verixFileSize env pPager.fd 0 w
        else (.ok, 0, w)) = (.ok, (content.length : Int), w') ∧ view w'.os = view w.os := by
      unfold StoredFile at hfile
      by_cases hopen : pPager.fd.pMethod = true
      · rw [if_pos hopen] at hfile ⊢
        obtain ⟨f, hnamed, hdata⟩ := hfile
        obtain ⟨w', hsize, hview⟩ := verixFileSize_named laws.dirGetFileSz hnamed.named 0
        rw [hdata] at hsize
        exact ⟨w', hsize, hview⟩
      · rw [if_neg hopen] at hfile ⊢
        exact ⟨w, by rw [hfile]; rfl, rfl⟩
    simp only [hsize, ne_eq, not_true_eq_false, if_false]
    by_cases hlocked : pPager.locked = true
    · rw [if_pos hlocked]
      exact ⟨_, w', hcount _ _ w', hview⟩
    · rw [if_neg hlocked]
      exact ⟨_, w', hcount pPager.dbSize _ w', hview⟩

/-! ## The read -/

/-- Where the seek succeeds, `verixRead` copies what is there, and returns `SQLITE_OK` exactly if
that is all that was asked for. -/
theorem verixRead_inside (laws : FileLaws env.os view) {pFile : VerixFile} {f : Nat}
    (hopen : OpenOn (view w.os) pFile f) (hdata : (view w.os).data f = content)
    (pBuf : Buffer UInt8) (count : Nat) {offset : Int} {p : Nat} (hp : toInt offset = p)
    (hle : p ≤ content.length) :
    ∃ w', verixRead env pFile pBuf count offset w =
      (if p + count ≤ content.length then .ok else .ioerrShortRead,
        pBuf.memcpy 0 (window content p count), w') := by
  obtain ⟨hseek, hread, -, -⟩ := seek_read_inside laws hopen hdata count hp hle
  have hlen := length_window content p count
  refine ⟨(env.sys (.read pFile.h count)
    (env.sys (.lseek pFile.h (toInt offset)) w).world).world, ?_⟩
  simp only [verixRead, hseek, hread, readCount, Option.getD_some, if_false]
  by_cases hfull : p + count ≤ content.length
  · rw [if_pos (by omega), if_pos hfull]
  · rw [if_neg (by omega), if_neg hfull]

/-- Where the seek fails, `verixRead` returns `SQLITE_IOERR_READ`. -/
theorem verixRead_outside (laws : FileLaws env.os view) {pFile : VerixFile} {f : Nat}
    (hopen : OpenOn (view w.os) pFile f) (hdata : (view w.os).data f = content)
    (pBuf : Buffer UInt8) (count : Nat) {offset : Int}
    (hout : toInt offset < 0 ∨ content.length < toInt offset) :
    ∃ w', verixRead env pFile pBuf count offset w = (.ioerrRead, pBuf, w') := by
  obtain ⟨p, hp⟩ := hopen
  obtain ⟨hseek, -⟩ := laws.lseek_outside w.os pFile.h f p (toInt offset) hp
    (by rwa [hdata])
  refine ⟨(env.sys (.lseek pFile.h (toInt offset)) w).world, ?_⟩
  unfold verixRead
  simp only [Env.sys_value, hseek, if_true]

/-! ## The page -/

theorem padded_eq_zeros_iff {start count : Nat} :
    ByteStore.padded 0 content start count = List.replicate count 0 ↔
      ∀ c ∈ window content start count, c = 0 := by
  rw [List.eq_replicate_iff, ByteStore.length_padded]
  unfold ByteStore.padded
  constructor
  · intro hpadded c hc
    exact hpadded.2 c (List.mem_append_left _ hc)
  · intro hall
    refine ⟨rfl, ?_⟩
    intro c hc
    rcases List.mem_append.mp hc with hwindow | hpad
    · exact hall c hwindow
    · exact List.eq_of_mem_replicate hpad

theorem Pager.refuses_iff : pPager.Refuses pgno ↔
    (pgno > pagerMaxPgno ∨ pgno = 0 ∨ pgno = pPager.mjPgno) ∨ pPager.errCode ≠ .ok := by
  simp only [Pager.Refuses, or_assoc]

/-- A page that is refused is refused whatever the memory holds. -/
theorem pagerAcquire_refused (env : Env σ) (w : World σ) (hrefuses : pPager.Refuses pgno) :
    ∃ r, r.page = none ∧ ∀ pData, pagerAcquire env pPager pgno false pData w = r := by
  unfold pagerAcquire
  by_cases hcorrupt : pgno > pagerMaxPgno ∨ pgno = 0 ∨ pgno = pPager.mjPgno
  · exact ⟨⟨.corrupt, none, pPager, w⟩, rfl, fun _ => if_pos hcorrupt⟩
  · have herror : pPager.errCode ≠ .ok := (Pager.refuses_iff.mp hrefuses).resolve_left hcorrupt
    have hcount : sqlite3PagerPagecount env pPager w = ⟨-1, pPager, w⟩ := if_pos herror
    refine ⟨⟨pPager.errCode, none, pPager, w⟩, rfl, fun _ => ?_⟩
    rw [if_neg hcorrupt, hcount]
    exact if_pos herror

/-- What `pagerAcquire` does with a page that it does not refuse: the pager after the count and
the world after it do not depend on the memory. -/
theorem pagerAcquire_counted (laws : FileLaws env.os view)
    (hfile : StoredFile (view w.os) pPager.fd content) (haccepts : ¬ pPager.Refuses pgno) :
    ∃ dbSize w', view w'.os = view w.os ∧
      let pager := pPager.counted dbSize (pPager.countFor content.length)
      ∀ pData, pagerAcquire env pPager pgno false pData w =
        if pPager.Beyond pgno content.length then
          if pgno > pager.mxPgno then ⟨.full, none, pager, w'⟩
          else ⟨.ok, some ⟨pgno, pData.memset 0 0 pPager.pageSize, false⟩, pager, w'⟩
        else
          let read := readDbPage env pager ⟨pgno, pData, false⟩ pgno w'
          if read.1 ≠ .ok ∧ read.1 ≠ .ioerrShortRead then ⟨read.1, none, read.2.2.1, read.2.2.2⟩
          else ⟨.ok, some read.2.1, read.2.2.1, read.2.2.2⟩ := by
  rw [Pager.refuses_iff, not_or] at haccepts
  obtain ⟨hcorrupt, hnoError⟩ := haccepts
  have hok : pPager.errCode = .ok := not_not.mp hnoError
  obtain ⟨dbSize, w', hcount, hview⟩ := sqlite3PagerPagecount_eq laws hfile hok
  refine ⟨dbSize, w', hview, fun pData => ?_⟩
  unfold pagerAcquire
  rw [if_neg hcorrupt, hcount]
  refine (if_neg (not_not_intro hok)).trans ?_
  by_cases hbeyond : pPager.Beyond pgno content.length
  · rw [if_pos hbeyond]
    refine if_pos ?_
    rcases hbeyond with hlt | hmem
    · exact Or.inl hlt
    · exact Or.inr (Or.inl hmem)
  · rw [if_neg hbeyond]
    refine if_neg ?_
    intro hzeroed
    rcases hzeroed with hlt | hmem | hread
    · exact hbeyond (Or.inl hlt)
    · exact hbeyond (Or.inr hmem)
    · cases hread

/-- The limit of pages after the count. -/
theorem Pager.lt_mxPgno_iff (pPager : Pager) (dbSize count : Int) (pgno : Nat) :
    pgno > (pPager.counted dbSize count).mxPgno ↔ pPager.mxPgno < pgno ∧ count < pgno := by
  show pgno > (if count > pPager.mxPgno then count.toNat else pPager.mxPgno) ↔ _
  split <;> omega

/-- The page read, where it is within the count. -/
theorem readDbPage_cases (laws : FileLaws env.os view)
    (hfile : StoredFile (view w.os) pPager.fd content) (hopen : pPager.fd.pMethod = true)
    (pPg : PgHdr) (pgno : Nat) :
    let start := toInt (pPager.offset pgno)
    (start < 0 ∨ content.length < start) ∧
        (readDbPage env pPager pPg pgno w).1 = .ioerrRead ∨
      (¬ (start < 0 ∨ content.length < start) ∧
        (readDbPage env pPager pPg pgno w).1 =
          (if start + pPager.pageSize ≤ content.length then .ok else .ioerrShortRead) ∧
        (readDbPage env pPager pPg pgno w).2.1.pData =
          pPg.pData.memcpy 0 (window content start.toNat pPager.pageSize)) := by
  unfold StoredFile at hfile
  rw [if_pos hopen] at hfile
  obtain ⟨f, hnamed, hdata⟩ := hfile
  intro start
  unfold readDbPage
  rw [if_neg (by rw [hopen]; decide)]
  by_cases hout : start < 0 ∨ content.length < start
  · obtain ⟨w', hread⟩ := verixRead_outside laws hnamed.openOn hdata pPg.pData pPager.pageSize hout
    refine Or.inl ⟨hout, ?_⟩
    show (verixRead env pPager.fd pPg.pData pPager.pageSize (pPager.offset pgno) w).1 = _
    rw [hread]
  · obtain ⟨p, hp⟩ : ∃ p : Nat, start = p := ⟨start.toNat, by omega⟩
    obtain ⟨w', hread⟩ := verixRead_inside laws hnamed.openOn hdata pPg.pData pPager.pageSize hp
      (by omega)
    refine Or.inr ⟨hout, ?_, ?_⟩
    · show (verixRead env pPager.fd pPg.pData pPager.pageSize (pPager.offset pgno) w).1 = _
      rw [hread, hp]
      by_cases hfull : p + pPager.pageSize ≤ content.length
      · rw [if_pos hfull, if_pos (by omega)]
      · rw [if_neg hfull, if_neg (by omega)]
    · show (verixRead env pPager.fd pPg.pData pPager.pageSize (pPager.offset pgno) w).2.1 = _
      rw [hread, hp, Int.toNat_natCast]

/-- A page beyond the count is zeroed, which is what the file holds exactly if it holds no other
byte there. -/
theorem dependsOnFile_beyond_iff (laws : FileLaws env.os view)
    (hfile : StoredFile (view w.os) pPager.fd content) (haccepts : ¬ pPager.Refuses pgno)
    (hbeyond : pPager.Beyond pgno content.length) :
    DependsOnFile env pPager pgno w content ↔
      (pPager.mxPgno < pgno ∧ pPager.countFor content.length < pgno) ∨
        ∀ c ∈ window content (pPager.offset pgno) pPager.pageSize, c = 0 := by
  obtain ⟨dbSize, w', -, hacquire⟩ := pagerAcquire_counted laws hfile haccepts
  have hlimit := pPager.lt_mxPgno_iff dbSize (pPager.countFor content.length) pgno
  simp only [if_pos hbeyond] at hacquire
  by_cases hfull : pgno > (pPager.counted dbSize (pPager.countFor content.length)).mxPgno
  · simp only [if_pos hfull] at hacquire
    refine iff_of_true ?_ (Or.inl (hlimit.mp hfull))
    intro pData pData'
    simp only [hacquire]
    exact ⟨trivial, fun page hpage => by cases hpage⟩
  · simp only [if_neg hfull] at hacquire
    have hzeros : ∀ pData : Buffer UInt8,
        (pData.memset 0 0 pPager.pageSize).contents pPager.pageSize =
          List.replicate pPager.pageSize 0 :=
      fun pData => pData.contents_memset 0 (le_refl 0) (by omega)
    rw [← padded_eq_zeros_iff]
    constructor
    · intro h
      obtain ⟨-, hpage⟩ := h (.untouched fun _ => 0) (.untouched fun _ => 0)
      simp only [hacquire] at hpage
      obtain ⟨page', -, hcontents, -⟩ := hpage _ rfl
      exact Or.inr (hcontents.symm.trans (hzeros _))
    · intro h pData pData'
      have hpadded := h.resolve_left fun hlt => hfull (hlimit.mpr hlt)
      simp only [hacquire]
      refine ⟨trivial, ?_⟩
      intro page hpage
      cases hpage
      exact ⟨_, rfl, (hzeros pData).trans hpadded.symm, (hzeros pData').trans (hzeros pData).symm⟩

/-- What becomes of a page within the count, as the read ends: the seek fails, or the page is
returned with what is stored laid over the leftovers. -/
theorem pagerAcquire_within (laws : FileLaws env.os view)
    (hfile : StoredFile (view w.os) pPager.fd content) (haccepts : ¬ pPager.Refuses pgno)
    (hwithin : ¬ pPager.Beyond pgno content.length) (hopen : pPager.fd.pMethod = true)
    (pData : Buffer UInt8) :
    let start := toInt (pPager.offset pgno)
    let r := pagerAcquire env pPager pgno false pData w
    (start < 0 ∨ content.length < start) ∧ r.rc = .ioerrRead ∧ r.page = none ∨
      ¬ (start < 0 ∨ content.length < start) ∧ r.rc = .ok ∧ ∃ page, r.page = some page ∧
        page.pData = pData.memcpy 0 (window content start.toNat pPager.pageSize) := by
  obtain ⟨dbSize, w', hview, hacquire⟩ := pagerAcquire_counted laws hfile haccepts
  rw [← hview] at hfile
  let pager := pPager.counted dbSize (pPager.countFor content.length)
  have hfd : StoredFile (view w'.os) pager.fd content := hfile
  let read := readDbPage env pager ⟨pgno, pData, false⟩ pgno w'
  intro start r
  have hr : r =
      if read.1 ≠ .ok ∧ read.1 ≠ .ioerrShortRead then ⟨read.1, none, read.2.2.1, read.2.2.2⟩
      else ⟨.ok, some read.2.1, read.2.2.1, read.2.2.2⟩ := by
    show pagerAcquire env pPager pgno false pData w = _
    rw [hacquire, if_neg hwithin]
  rcases readDbPage_cases laws hfd hopen ⟨pgno, pData, false⟩ pgno with
    ⟨hout, hrc⟩ | ⟨hin, hrc, hdata⟩
  · have hfailed : read.1 ≠ .ok ∧ read.1 ≠ .ioerrShortRead := by
      show (readDbPage env pager ⟨pgno, pData, false⟩ pgno w').1 ≠ _ ∧ _
      rw [hrc]
      decide
    rw [if_pos hfailed] at hr
    rw [hr]
    exact Or.inl ⟨hout, hrc, rfl⟩
  · have hshort : ¬ (read.1 ≠ .ok ∧ read.1 ≠ .ioerrShortRead) := by
      show ¬ ((readDbPage env pager ⟨pgno, pData, false⟩ pgno w').1 ≠ _ ∧ _)
      rw [hrc]
      split <;> simp
    rw [if_neg hshort] at hr
    rw [hr]
    exact Or.inr ⟨hin, rfl, _, rfl, hdata⟩

/-- Without a file every page within the count is what was left in the memory. -/
theorem pagerAcquire_unopened (laws : FileLaws env.os view)
    (hfile : StoredFile (view w.os) pPager.fd content) (haccepts : ¬ pPager.Refuses pgno)
    (hwithin : ¬ pPager.Beyond pgno content.length) (hclosed : ¬ pPager.fd.pMethod = true)
    (pData : Buffer UInt8) :
    (pagerAcquire env pPager pgno false pData w).page = some ⟨pgno, pData, false⟩ := by
  obtain ⟨dbSize, w', -, hacquire⟩ := pagerAcquire_counted laws hfile haccepts
  have hread : readDbPage env (pPager.counted dbSize (pPager.countFor content.length))
      ⟨pgno, pData, false⟩ pgno w' = (.ioerrShortRead, ⟨pgno, pData, false⟩,
        pPager.counted dbSize (pPager.countFor content.length), w') :=
    if_pos (Bool.eq_false_of_not_eq_true hclosed)
  rw [hacquire, if_neg hwithin, hread]
  rfl

/-- A page within the count is read, and what the read does not reach keeps the leftovers. -/
theorem dependsOnFile_within_iff (laws : FileLaws env.os view)
    (hfile : StoredFile (view w.os) pPager.fd content) (haccepts : ¬ pPager.Refuses pgno)
    (hwithin : ¬ pPager.Beyond pgno content.length) :
    DependsOnFile env pPager pgno w content ↔ pPager.fd.pMethod = true ∧
      let start := toInt (pPager.offset pgno)
      (start < 0 ∨ content.length < start) ∨
        (start + pPager.pageSize ≤ content.length ∧
          window content start.toNat pPager.pageSize =
            ByteStore.padded 0 content (pPager.offset pgno) pPager.pageSize) := by
  have hsize := pPager.pageSize_pos
  by_cases hopen : pPager.fd.pMethod = true
  · have hacquire := pagerAcquire_within laws hfile haccepts hwithin hopen
    have hlen := length_window content (toInt (pPager.offset pgno)).toNat pPager.pageSize
    by_cases hout : toInt (pPager.offset pgno) < 0 ∨ content.length < toInt (pPager.offset pgno)
    · have hfails := fun pData => (hacquire pData).resolve_right fun hreads => hreads.1 hout
      refine iff_of_true ?_ ⟨hopen, Or.inl hout⟩
      intro pData pData'
      refine ⟨(hfails pData').2.1.trans (hfails pData).2.1.symm, ?_⟩
      intro page hpage
      cases (hfails pData).2.2.symm.trans hpage
    · have hreads := fun pData => ((hacquire pData).resolve_left fun hfails => hout hfails.1).2
      constructor
      · intro h
        obtain ⟨-, page, hpage, hdata⟩ := hreads (.untouched fun _ => 0)
        obtain ⟨-, page', hpage', hdata'⟩ := hreads (.untouched fun _ => 1)
        obtain ⟨-, hpages⟩ := h (.untouched fun _ => 0) (.untouched fun _ => 1)
        obtain ⟨other, hother, hpadded, hsame⟩ := hpages page hpage
        cases hpage'.symm.trans hother
        rw [hdata] at hpadded hsame
        rw [hdata'] at hsame
        refine ⟨hopen, Or.inr ?_⟩
        by_cases hfull : toInt (pPager.offset pgno) + pPager.pageSize ≤ content.length
        · refine ⟨hfull, ?_⟩
          rw [← hpadded]
          exact (Buffer.contents_memcpy_of_length _ (by omega)).symm
        · -- the first cell that is not read tells the two pieces of memory apart
          have hshort : (window content (toInt (pPager.offset pgno)).toNat
              pPager.pageSize).length < pPager.pageSize := by omega
          refine absurd hsame (Buffer.contents_ne hshort ?_)
          rw [Buffer.memcpy_cell_length, Buffer.memcpy_cell_length]
          show (1 : UInt8) ≠ 0
          decide
      · intro hgood pData pData'
        obtain ⟨hfull, hcontent⟩ := hgood.2.resolve_left hout
        have hwhole : (window content (toInt (pPager.offset pgno)).toNat
            pPager.pageSize).length = pPager.pageSize := by omega
        obtain ⟨hrc, page, hpage, hdata⟩ := hreads pData
        obtain ⟨hrc', page', hpage', hdata'⟩ := hreads pData'
        refine ⟨hrc'.trans hrc.symm, ?_⟩
        intro page'' hmem
        cases hpage.symm.trans hmem
        refine ⟨page', hpage', ?_, ?_⟩
        · rw [hdata, Buffer.contents_memcpy_of_length _ hwhole, hcontent]
        · rw [hdata, hdata', Buffer.contents_memcpy_of_length _ hwhole,
            Buffer.contents_memcpy_of_length _ hwhole]
  · refine iff_of_false ?_ fun h => hopen h.1
    intro h
    have hacquire := pagerAcquire_unopened laws hfile haccepts hwithin hopen
    obtain ⟨-, hpages⟩ := h (.untouched fun _ => 0) (.untouched fun _ => 1)
    rw [hacquire, hacquire] at hpages
    obtain ⟨page', hpage', -, hsame⟩ := hpages _ rfl
    cases hpage'
    refine Buffer.contents_ne (i := 0) hsize ?_ hsame
    show (1 : UInt8) ≠ 0
    decide

/-- In 3.5.9 a page depends on the file alone exactly if it is refused, or is beyond the page count
and past the limit of pages or without a stored byte other than zero, or is within the count and
the seek to it fails or all of it is stored where it belongs. -/
theorem page_read_iff (laws : FileLaws env.os view)
    (hfile : StoredFile (view w.os) pPager.fd content) :
    DependsOnFile env pPager pgno w content ↔ pPager.Determined pgno content := by
  unfold Pager.Determined
  by_cases hrefuses : pPager.Refuses pgno
  · obtain ⟨r, hnone, hsame⟩ := pagerAcquire_refused env w hrefuses
    refine iff_of_true ?_ (Or.inl hrefuses)
    intro pData pData'
    simp only [hsame, hnone]
    exact ⟨trivial, fun page hpage => by cases hpage⟩
  · by_cases hbeyond : pPager.Beyond pgno content.length
    · rw [dependsOnFile_beyond_iff laws hfile hrefuses hbeyond]
      simp [hrefuses, hbeyond]
    · rw [dependsOnFile_within_iff laws hfile hrefuses hbeyond]
      simp [hrefuses, hbeyond]

/-- A page that is within the count of the file's size, and is not the page of the pending byte, is
one of the pages of the file. -/
theorem Pager.le_pagesOf (hunknown : pPager.dbSize < 0) (hsize : content.length < 2 ^ 31)
    (haccepts : ¬ pPager.Refuses pgno) (hwithin : ¬ pPager.Beyond pgno content.length) :
    (pgno : Int) ≤ pPager.pagesOf content.length := by
  have hpos := pPager.pageSize_pos
  have hmj : pgno ≠ pPager.mjPgno := fun h => haccepts (Or.inr (Or.inr (Or.inl h)))
  have hcount : (pgno : Int) ≤ toInt (pPager.countFor content.length) :=
    not_lt.mp fun hlt => hwithin (Or.inl hlt)
  have hpages : 0 ≤ pPager.pagesOf content.length ∧
      pPager.pagesOf content.length ≤ content.length := by
    unfold Pager.pagesOf
    split
    · omega
    · rw [Int.tdiv_eq_ediv_of_nonneg (by omega)]
      exact ⟨Int.ediv_nonneg (by omega) (by omega), Int.ediv_le_self _ (by omega)⟩
  have hpending : pendingByte / pPager.pageSize ≤ pendingByte := Nat.div_le_self _ _
  have hbyte : pendingByte = 2 ^ 30 := rfl
  rw [Pager.countFor, if_neg (not_le.mpr hunknown), Pager.withPendingPage] at hcount
  unfold Pager.mjPgno at hmj
  split at hcount
  · rename_i heq
    have hword : toInt (pPager.pagesOf content.length + 1) = pPager.pagesOf content.length + 1 :=
      narrow_of_inWord ⟨by omega, by omega⟩
    omega
  · have hword : toInt (pPager.pagesOf content.length) = pPager.pagesOf content.length :=
      narrow_of_inWord ⟨by omega, by omega⟩
    omega

/-- Where the pages are counted from the size of the file, a page within the count is determined by
the file unless the file ends within its first page. -/
theorem determined_iff_of_uncounted (hunknown : pPager.dbSize < 0)
    (hopen : pPager.fd.pMethod = true) (hsize : content.length < 2 ^ 31)
    (haccepts : ¬ pPager.Refuses pgno) (hwithin : ¬ pPager.Beyond pgno content.length) :
    pPager.Determined pgno content ↔ pPager.pageSize ≤ content.length := by
  have hpos := pPager.pageSize_pos
  have hpgno : 0 < pgno := Nat.pos_of_ne_zero fun h => haccepts (Or.inr (Or.inl h))
  have hcounted := Pager.le_pagesOf hunknown hsize haccepts hwithin
  unfold Pager.pagesOf at hcounted
  unfold Pager.Determined
  constructor
  · intro h
    by_contra hlt
    -- the only page that counts is the first, and it is cut off
    rcases Nat.eq_zero_or_pos content.length with hzero | hlen
    · rw [if_neg (by omega), hzero] at hcounted
      simp at hcounted
      omega
    · rw [if_pos (by omega)] at hcounted
      have hfirst : pgno = 1 := by omega
      subst hfirst
      have hoffset : toInt (pPager.offset 1) = 0 := by
        simp [Pager.offset, toInt, narrow]
      rcases h with hrefuses | ⟨hbeyond, -⟩ | ⟨-, -, hwhole⟩
      · exact haccepts hrefuses
      · exact hwithin hbeyond
      · simp only [hoffset] at hwhole
        rcases hwhole with hout | ⟨hfull, -⟩ <;> omega
  · intro hle
    rw [if_neg (by omega), Int.tdiv_eq_ediv_of_nonneg (by omega)] at hcounted
    have hcountedNat : pgno ≤ content.length / pPager.pageSize := by exact_mod_cast hcounted
    have hbytes : pgno * pPager.pageSize ≤ content.length :=
      (Nat.le_div_iff_mul_le hpos).mp hcountedNat
    have hend : pPager.offset pgno + pPager.pageSize = pgno * pPager.pageSize := by
      obtain ⟨n, rfl⟩ : ∃ n, pgno = n + 1 := ⟨pgno - 1, by omega⟩
      rw [Pager.offset, Nat.add_sub_cancel, Nat.succ_mul]
    have hoffset : toInt (pPager.offset pgno) = pPager.offset pgno :=
      toInt_natCast (by omega)
    refine Or.inr (Or.inr ⟨hwithin, hopen, ?_⟩)
    simp only [hoffset, Int.toNat_natCast]
    exact Or.inr ⟨by omega, (ByteStore.padded_of_le (by omega)).symm⟩

/-- A database whose file ends within its first page. -/
def tornWorld : World Flash := .opened (ascii "db") [1, 2, 3] (by decide)

/-- A pager on it that has not counted its pages yet. -/
def tornPager : Pager where
  fd := .on 0 (ascii "db")
  locked := true
  alwaysRollback := false
  memDb := false
  errCode := .ok
  dbSize := -1
  pageSize := 512
  mxPgno := 1073741823
  dbFileVers := List.replicate 16 0
  pageSize_pos := by decide

theorem tornPager_storedFile : StoredFile tornWorld.os.toDisk tornPager.fd [1, 2, 3] :=
  ⟨0, ⟨⟨0, World.opened_handles _ _ _⟩, rfl⟩, World.opened_data _ _ _⟩

/-- `page_read_iff` for the first page of the torn database. -/
theorem page_read_iff_torn :
    DependsOnFile quietFlash tornPager 1 tornWorld [1, 2, 3] ↔
      tornPager.Determined 1 [1, 2, 3] :=
  page_read_iff flash_fileLaws tornPager_storedFile

/-- The first page of the torn database is returned with `SQLITE_OK`, and from its fourth byte on
it holds what the memory held before. -/
theorem torn_page_leftovers :
    ¬ DependsOnFile quietFlash tornPager 1 tornWorld [1, 2, 3] ∧
    (pagerAcquire quietFlash tornPager 1 false (.untouched fun _ => 0) tornWorld).rc = .ok ∧
    (pagerAcquire quietFlash tornPager 1 false (.untouched fun _ => 0) tornWorld).page.map
      (fun page => page.pData.cell 3) = some 0 ∧
    (pagerAcquire quietFlash tornPager 1 false (.untouched fun _ => 1) tornWorld).page.map
      (fun page => page.pData.cell 3) = some 1 := by
  refine ⟨?_, rfl, rfl, rfl⟩
  rw [dependsOnFile_within_iff flash_fileLaws tornPager_storedFile]
  · intro hwithin
    rcases hwithin.2 with hout | hwhole
    · exact absurd hout (by decide)
    · exact absurd hwhole.1 (by decide)
  · intro hrefuses
    rcases Pager.refuses_iff.mp hrefuses with hcorrupt | herror
    · exact absurd hcorrupt (by decide)
    · exact herror rfl
  · decide

end VxSqlite.V359
