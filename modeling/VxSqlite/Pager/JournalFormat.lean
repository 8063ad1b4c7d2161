import VxSqlite.Lib.Paged
import VxSqlite.Pager.FileCalls

/-!
# The format of a rollback journal

What the bytes of a journal say: headers and records at positions of the file, and a journal as a
sequence of segments, each a header and the records behind it. `Original` is the database as it
was when the transaction began. The functions that write a header or a record leave it in the
file, and the functions that read one find it there.
-/

namespace VxSqlite

/-! ## Words -/

@[simp] theorem length_sqlite3Put4byte (v : UInt32) : (sqlite3Put4byte v).length = 4 := rfl

/-- Reading back a stored number. -/
theorem sqlite3Get4byte_put4byte (v : UInt32) : sqlite3Get4byte (sqlite3Put4byte v) = v := by
  have hv := v.toNat_lt
  apply UInt32.toNat_inj.mp
  simp only [sqlite3Get4byte, sqlite3Put4byte, List.take_succ_cons, List.take_zero,
    List.foldl_cons, List.foldl_nil, UInt32.toNat_add, UInt32.toNat_mul, UInt8.toNat_toUInt32,
    UInt32.toNat_toUInt8, UInt32.toNat_shiftRight, Nat.shiftRight_eq_div_pow, UInt32.reduceToNat,
    Nat.reduceMod, Nat.reducePow]
  omega

/-- Only the first four bytes of a list are read. -/
theorem sqlite3Get4byte_append (v : UInt32) (rest : List UInt8) :
    sqlite3Get4byte (sqlite3Put4byte v ++ rest) = v := by
  have htake : (sqlite3Put4byte v ++ rest).take 4 = (sqlite3Put4byte v).take 4 := rfl
  rw [sqlite3Get4byte, htake]
  exact sqlite3Get4byte_put4byte v

/-! ## The database before the transaction -/

/-- The database as it was when a transaction began: whole pages of a size that a journal may
state, on a device with such a sector size. -/
structure Original where
  pageSize : Nat
  sectorSize : Nat
  nPage : Nat
  content : List UInt8
  length_eq : content.length = nPage * pageSize
  length_lt : content.length < 2 ^ 31
  pageSize_le : pageSize ≤ 65536
  sectorSize_le : sectorSize ≤ 65536
  sizes_valid : JournalSizesValid (UInt32.ofNat pageSize) (UInt32.ofNat sectorSize)

namespace Original

variable (o : Original)

/-- A page of the database, numbered from 1 on. -/
def page (k : Nat) : List UInt8 := block o.pageSize o.content k

/-- The position of the first header at or behind a position. -/
def hdrOffset (off : Nat) : Nat :=
  if off ≠ 0 then ((off - 1) / o.sectorSize + 1) * o.sectorSize else 0

/-- The fields that all headers of the journal have behind the first twelve bytes. -/
def hdrFields (cksumInit : UInt32) : List UInt8 :=
  sqlite3Put4byte cksumInit ++ sqlite3Put4byte (UInt32.ofNat o.nPage) ++
    sqlite3Put4byte (UInt32.ofNat o.sectorSize) ++ sqlite3Put4byte (UInt32.ofNat o.pageSize)

/-- The checksum of a page of the database. -/
def pageCksum (cksumInit : UInt32) (k : Nat) : UInt32 :=
  pagerCksumFrom (o.page k) cksumInit (o.pageSize - 200)

/-- The bytes of the record of a page. -/
def record (cksumInit : UInt32) (k : Nat) : List UInt8 :=
  sqlite3Put4byte (UInt32.ofNat k) ++ o.page k ++ sqlite3Put4byte (o.pageCksum cksumInit k)

/-- The page whose number marks a master journal is never journalled. -/
def mjPgno : Nat := 0x40000000 / o.pageSize + 1

/-- A page that the journal may hold. -/
def Journalled (k : Nat) : Prop := 1 ≤ k ∧ k ≤ o.nPage ∧ k ≠ o.mjPgno

instance (k : Nat) : Decidable (o.Journalled k) := inferInstanceAs (Decidable (_ ∧ _ ∧ _))

theorem toNat_pageSize : (UInt32.ofNat o.pageSize).toNat = o.pageSize := by
  have h := o.pageSize_le
  rw [UInt32.toNat_ofNat', Nat.mod_eq_of_lt (by omega)]

theorem toNat_sectorSize : (UInt32.ofNat o.sectorSize).toNat = o.sectorSize := by
  have h := o.sectorSize_le
  rw [UInt32.toNat_ofNat', Nat.mod_eq_of_lt (by omega)]

theorem le_pageSize : 512 ≤ o.pageSize := by
  have h := UInt32.le_iff_toNat_le.mp o.sizes_valid.1
  rwa [o.toNat_pageSize] at h

theorem le_sectorSize : 32 ≤ o.sectorSize := by
  have h := UInt32.le_iff_toNat_le.mp o.sizes_valid.2.1
  rwa [o.toNat_sectorSize] at h

theorem nPage_lt : o.nPage < 2 ^ 22 := by
  have hlen := o.length_eq
  have hlt := o.length_lt
  have hsize := Nat.mul_le_mul_left o.nPage o.le_pageSize
  omega

theorem toNat_pgno {k : Nat} (hk : k ≤ o.nPage) : (UInt32.ofNat k).toNat = k := by
  have h := o.nPage_lt
  rw [UInt32.toNat_ofNat', Nat.mod_eq_of_lt (by omega)]

theorem length_page {k : Nat} (hk : 1 ≤ k) (hle : k ≤ o.nPage) : (o.page k).length = o.pageSize :=
  length_block hk hle (le_of_eq o.length_eq.symm)

@[simp] theorem length_hdrFields (cksumInit : UInt32) : (o.hdrFields cksumInit).length = 16 := rfl

theorem length_record (cksumInit : UInt32) {k : Nat} (hk : o.Journalled k) :
    (o.record cksumInit k).length = o.pageSize + 8 := by
  rw [record, List.length_append, List.length_append, o.length_page hk.1 hk.2.1,
    length_sqlite3Put4byte, length_sqlite3Put4byte]
  omega

/-- A size that passes the test of `readJournalHdr` is a power of two. -/
theorem isPowerOfTwo_of_test {x : Nat} (hpos : 0 < x) (hle : x ≤ 65536)
    (htest : (UInt32.ofNat x - 1) &&& UInt32.ofNat x = 0) : x.isPowerOfTwo := by
  have hx : (UInt32.ofNat x).toNat = x := by
    rw [UInt32.toNat_ofNat', Nat.mod_eq_of_lt (by omega)]
  have hsub : (UInt32.ofNat x - 1).toNat = x - 1 := by
    rw [UInt32.toNat_sub_of_le, hx]
    · rfl
    · rw [UInt32.le_iff_toNat_le, hx]
      exact hpos
  have h := congrArg UInt32.toNat htest
  rw [UInt32.toNat_and, hsub, hx, Nat.and_comm] at h
  exact (Nat.and_sub_one_eq_zero_iff_isPowerOfTwo (by omega)).mp h

/-- The smaller of the two sizes divides the sector size, so a header fills its sector. -/
theorem min_dvd_sectorSize : min o.pageSize o.sectorSize ∣ o.sectorSize := by
  obtain ⟨-, -, -, -, hpage, hsector⟩ := o.sizes_valid
  have hpage := isPowerOfTwo_of_test (by have := o.le_pageSize; omega) o.pageSize_le hpage
  have hsector := isPowerOfTwo_of_test (by have := o.le_sectorSize; omega) o.sectorSize_le hsector
  obtain ⟨a, ha⟩ := hpage
  obtain ⟨b, hb⟩ := hsector
  rcases Nat.le_total a b with hab | hab
  · have hle : o.pageSize ≤ o.sectorSize := by
      rw [ha, hb]
      exact Nat.pow_le_pow_right (Nat.succ_pos 1) hab
    rw [Nat.min_eq_left hle, ha, hb]
    exact Nat.pow_dvd_pow 2 hab
  · have hle : o.sectorSize ≤ o.pageSize := by
      rw [ha, hb]
      exact Nat.pow_le_pow_right (Nat.succ_pos 1) hab
    rw [Nat.min_eq_right hle]

theorem le_hdrOffset (off : Nat) : off ≤ o.hdrOffset off := by
  have hpos : 0 < o.sectorSize := by have := o.le_sectorSize; omega
  unfold hdrOffset
  split_ifs with h
  · have hlt := Nat.lt_div_mul_add hpos (a := off - 1)
    rw [Nat.succ_mul]
    omega
  · omega

theorem hdrOffset_lt (off : Nat) : o.hdrOffset off < off + o.sectorSize := by
  have hpos : 0 < o.sectorSize := by have := o.le_sectorSize; omega
  unfold hdrOffset
  split_ifs with h
  · have hle := Nat.div_mul_le_self (off - 1) o.sectorSize
    rw [Nat.succ_mul]
    omega
  · omega

/-- The headers are where the pager looks for them. -/
theorem journalHdrOffset_eq {pPager : Pager} {off : Nat} (hoff : pPager.journalOff = off)
    (hsector : pPager.sectorSize = o.sectorSize) : journalHdrOffset pPager = o.hdrOffset off := by
  unfold journalHdrOffset hdrOffset Pager.journalHdrSz
  rw [hoff, hsector]
  by_cases h : off = 0
  · simp [h]
  · rw [if_pos (by omega), if_pos h,
      show (off : Int) - 1 = ((off - 1 : Nat) : Int) from by omega]
    rw [Int.tdiv_eq_ediv_of_nonneg (by omega)]
    push_cast
    rfl

end Original

/-! ## Headers, records and segments -/

/-- A header at a position of the journal: `start` are its first twelve bytes. -/
structure HeaderAt (o : Original) (journal : List UInt8) (hdr : Nat) (start : List UInt8)
    (cksumInit : UInt32) : Prop where
  length_start : start.length = 12
  bytes : window journal hdr 28 = start ++ o.hdrFields cksumInit
  sector_le : hdr + o.sectorSize ≤ journal.length

/-- The first twelve bytes of a header that counts its records. -/
def countedStart (nRec : Nat) : List UInt8 := aJournalMagic ++ sqlite3Put4byte (UInt32.ofNat nRec)

/-- The records of some pages, from one position of the journal to another. -/
inductive Records (o : Original) (cksumInit : UInt32) (journal : List UInt8) :
    Nat → List Nat → Nat → Prop where
  | nil (off : Nat) : Records o cksumInit journal off [] off
  | cons {off last : Nat} {k : Nat} {ks : List Nat} : o.Journalled k →
      window journal off (o.pageSize + 8) = o.record cksumInit k →
      Records o cksumInit journal (off + (o.pageSize + 8)) ks last →
      Records o cksumInit journal off (k :: ks) last

/-- The segments of a journal that are part of it: headers that count the records behind them. -/
inductive Segments (o : Original) (journal : List UInt8) : Nat → List (List Nat) → Nat → Prop where
  | nil (off : Nat) : Segments o journal off [] off
  | cons {off middle last : Nat} {cksumInit : UInt32} {ks : List Nat} {rest : List (List Nat)} :
      HeaderAt o journal (o.hdrOffset off) (countedStart ks.length) cksumInit →
      Records o cksumInit journal (o.hdrOffset off + o.sectorSize) ks middle →
      middle ≤ journal.length → Segments o journal middle rest last →
      Segments o journal off (ks :: rest) last

@[simp] theorem length_countedStart (nRec : Nat) : (countedStart nRec).length = 12 := rfl

variable {o : Original} {journal journal' : List UInt8} {cksumInit : UInt32}

/-- Windows on the same cells are the same. -/
theorem window_congr {lo hi offset count : Nat}
    (hsame : ∀ i, lo ≤ i → i < hi → journal'[i]? = journal[i]?) (hlo : lo ≤ offset)
    (hhi : offset + count ≤ hi) : window journal' offset count = window journal offset count := by
  apply List.ext_getElem?
  intro i
  rw [window, window, List.getElem?_take, List.getElem?_take, List.getElem?_drop,
    List.getElem?_drop]
  split
  · exact hsame (offset + i) (by omega) (by omega)
  · rfl

namespace HeaderAt

variable {hdr : Nat} {start : List UInt8}

theorem bytes_le (h : HeaderAt o journal hdr start cksumInit) : hdr + 28 ≤ journal.length := by
  have h28 : (window journal hdr 28).length = 28 := by
    rw [h.bytes, List.length_append, h.length_start, o.length_hdrFields]
  rw [length_window] at h28
  omega

theorem congr (h : HeaderAt o journal hdr start cksumInit)
    (hsame : ∀ i, hdr ≤ i → i < hdr + o.sectorSize → journal'[i]? = journal[i]?)
    (hle : journal.length ≤ journal'.length) : HeaderAt o journal' hdr start cksumInit := by
  refine ⟨h.length_start, ?_, h.sector_le.trans hle⟩
  have hsector := o.le_sectorSize
  rw [window_congr hsame (le_refl hdr) (by omega)]
  exact h.bytes

/-- The first eight bytes. -/
theorem magic (h : HeaderAt o journal hdr start cksumInit) :
    window journal hdr 8 = start.take 8 := by
  have hlen := h.length_start
  have hsub : window (window journal hdr 28) 0 8 = window journal (hdr + 0) 8 :=
    window_window (by omega)
  rw [Nat.add_zero, h.bytes] at hsub
  rw [← hsub, window, List.drop_zero, List.take_append_of_le_length (by omega)]

/-- The count of records. -/
theorem nRec (h : HeaderAt o journal hdr start cksumInit) :
    word journal (hdr + 8) = sqlite3Get4byte (start.drop 8) := by
  have hlen := h.length_start
  have hsub : window (window journal hdr 28) 8 4 = window journal (hdr + 8) 4 :=
    window_window (by omega)
  have htake : ((start.drop 8).take 4) = start.drop 8 :=
    List.take_of_length_le (by rw [List.length_drop]; omega)
  rw [word, ← hsub, h.bytes, window, List.drop_append_of_le_length (by omega),
    List.take_append_of_le_length (by rw [List.length_drop]; omega), htake]

/-- The fields behind the count. -/
theorem field (h : HeaderAt o journal hdr start cksumInit) {i : Nat} (hi : i + 4 ≤ 16) :
    word journal (hdr + 12 + i) = sqlite3Get4byte (window (o.hdrFields cksumInit) i 4) := by
  have hsub : window (window journal hdr 28) (12 + i) 4 = window journal (hdr + (12 + i)) 4 :=
    window_window (by omega)
  have hright := window_append_right start (o.hdrFields cksumInit) i 4
  rw [h.length_start] at hright
  rw [word, Nat.add_assoc, ← hsub, h.bytes, hright]

theorem word_cksumInit (h : HeaderAt o journal hdr start cksumInit) :
    word journal (hdr + 12) = cksumInit := by
  rw [show hdr + 12 = hdr + 12 + 0 from rfl, h.field (by omega)]
  exact sqlite3Get4byte_put4byte cksumInit

theorem word_nPage (h : HeaderAt o journal hdr start cksumInit) :
    word journal (hdr + 16) = UInt32.ofNat o.nPage := by
  rw [show hdr + 16 = hdr + 12 + 4 from rfl, h.field (by omega)]
  exact sqlite3Get4byte_put4byte _

theorem word_sectorSize (h : HeaderAt o journal hdr start cksumInit) :
    word journal (hdr + 20) = UInt32.ofNat o.sectorSize := by
  rw [show hdr + 20 = hdr + 12 + 8 from rfl, h.field (by omega)]
  exact sqlite3Get4byte_put4byte _

theorem word_pageSize (h : HeaderAt o journal hdr start cksumInit) :
    word journal (hdr + 24) = UInt32.ofNat o.pageSize := by
  rw [show hdr + 24 = hdr + 12 + 12 from rfl, h.field (by omega)]
  exact sqlite3Get4byte_put4byte _

/-- Storing other first bytes leaves the other fields. -/
theorem restart (h : HeaderAt o journal hdr start cksumInit) {start' : List UInt8}
    (hstart : start'.length = 12) :
    HeaderAt o (overlay journal hdr start') hdr start' cksumInit := by
  have hle := h.bytes_le
  refine ⟨hstart, ?_, ?_⟩
  · have htail : window (overlay journal hdr start') (hdr + 12) 16 = window journal (hdr + 12) 16 :=
      window_overlay_outside start' (by omega) (Or.inr (by omega))
    have hhead : window (overlay journal hdr start') hdr 12 = start' := by
      have hself : window (overlay journal hdr start') hdr start'.length = start' :=
        window_overlay_self start' (by omega)
      rwa [hstart] at hself
    have hold : window journal (hdr + 12) 16 = o.hdrFields cksumInit := by
      have hsub : window (window journal hdr 28) 12 16 = window journal (hdr + 12) 16 :=
        window_window (by omega)
      have hright := window_append_right start (o.hdrFields cksumInit) 0 16
      rw [h.length_start, Nat.add_zero] at hright
      rw [← hsub, h.bytes, hright]
      rfl
    have hsplit : window (overlay journal hdr start') hdr 28 =
        window (overlay journal hdr start') hdr 12 ++
          window (overlay journal hdr start') (hdr + 12) 16 := by
      rw [window, window, window, ← List.drop_drop, ← List.take_add]
    rw [hsplit, hhead, htail, hold]
  · rw [length_overlay start' (by omega)]
    exact h.sector_le.trans (le_max_left _ _)

end HeaderAt

namespace Records

variable {off last : Nat} {ks : List Nat}

theorem last_eq (h : Records o cksumInit journal off ks last) :
    last = off + ks.length * (o.pageSize + 8) := by
  induction h with
  | nil off => simp
  | cons _ _ _ ih =>
      rw [ih, List.length_cons, Nat.succ_mul]
      omega

theorem off_le (h : Records o cksumInit journal off ks last) : off ≤ last := by
  rw [h.last_eq]
  exact Nat.le_add_right _ _

theorem journalled (h : Records o cksumInit journal off ks last) : ∀ k ∈ ks, o.Journalled k := by
  induction h with
  | nil off => simp
  | cons hk _ _ ih => simpa using ⟨hk, ih⟩

theorem congr (h : Records o cksumInit journal off ks last)
    (hsame : ∀ i, off ≤ i → i < last → journal'[i]? = journal[i]?) :
    Records o cksumInit journal' off ks last := by
  induction h with
  | nil off => exact .nil off
  | @cons off last k ks hk hbytes hrest ih =>
      have hle := hrest.off_le
      refine .cons hk ?_ (ih fun i hlo hhi => hsame i (by omega) hhi)
      rw [window_congr hsame (le_refl off) hle]
      exact hbytes

/-- One more record at the end. -/
theorem snoc (h : Records o cksumInit journal off ks last) {k : Nat} (hk : o.Journalled k)
    (hbytes : window journal last (o.pageSize + 8) = o.record cksumInit k) :
    Records o cksumInit journal off (ks ++ [k]) (last + (o.pageSize + 8)) := by
  induction h with
  | nil off => exact .cons hk hbytes (.nil _)
  | cons hk' hbytes' _ ih => exact .cons hk' hbytes' (ih hbytes)

end Records

namespace Segments

variable {off last : Nat} {segments : List (List Nat)}

theorem off_le (h : Segments o journal off segments last) : off ≤ last := by
  induction h with
  | nil off => exact le_refl off
  | @cons off _ _ _ _ _ _ hrecords _ _ ih =>
      have hstart := o.le_hdrOffset off
      have hend := hrecords.off_le
      omega

theorem last_le (h : Segments o journal off segments last) (hle : off ≤ journal.length) :
    last ≤ journal.length := by
  induction h with
  | nil off => exact hle
  | cons _ _ hmiddle _ ih => exact ih hmiddle

theorem congr (h : Segments o journal off segments last)
    (hsame : ∀ i, off ≤ i → i < last → journal'[i]? = journal[i]?)
    (hle : journal.length ≤ journal'.length) : Segments o journal' off segments last := by
  induction h with
  | nil off => exact .nil off
  | @cons off middle last _ _ _ hheader hrecords hmiddle hrest ih =>
      have hstart := o.le_hdrOffset off
      have hbehind := hrecords.off_le
      have hend := hrest.off_le
      refine .cons (hheader.congr (fun i hlo hhi => hsame i (by omega) (by omega)) hle)
        (hrecords.congr fun i hlo hhi => hsame i (by omega) (by omega)) (hmiddle.trans hle)
        (ih fun i hlo hhi => hsame i (by omega) hhi)

/-- One more segment at the end. -/
theorem snoc (h : Segments o journal off segments last) {ks : List Nat} {next : Nat}
    (hheader : HeaderAt o journal (o.hdrOffset last) (countedStart ks.length) cksumInit)
    (hrecords : Records o cksumInit journal (o.hdrOffset last + o.sectorSize) ks next)
    (hnext : next ≤ journal.length) : Segments o journal off (segments ++ [ks]) next := by
  induction h with
  | nil off => exact .cons hheader hrecords hnext (.nil _)
  | cons hheader' hrecords' hmiddle _ ih =>
      exact .cons hheader' hrecords' hmiddle (ih hheader hrecords)

theorem journalled (h : Segments o journal off segments last) :
    ∀ k ∈ segments.flatten, o.Journalled k := by
  induction h with
  | nil off => simp
  | cons _ hrecords _ _ ih =>
      intro k hk
      rw [List.flatten_cons, List.mem_append] at hk
      exact hk.elim (hrecords.journalled k) (ih k)

end Segments

end VxSqlite
