import VxSqlite.Pager.PageUse

/-!
# Journalling pages

What makes a page writable: the journal is opened when the first page is written, the page is
appended to it if the original has it, and only then may its data change. An error on the way
leaves a journal from which the transaction can be undone.
-/

namespace VxSqlite

variable {σ : Type} {env : Env σ} {view : σ → Disk} {calls : WriterCallbacks σ} {o : Original}
  {zFilename zJournal : CString} {f : Nat} {content content' : Nat → Option (List UInt8)}

/-! ## The journal grows -/

section JournalHolds

variable {journal : List UInt8} {synced : List (List Nat)} {last next : Nat} {current : List Nat}
  {pPager pPager' : Pager}

/-- What is appended to a journal leaves what it holds as it is. -/
theorem JournalHolds.append (h : JournalHolds o journal synced last current next pPager)
    (text : List UInt8) : JournalHolds o (journal ++ text) synced last current next pPager := by
  have hle := h.header.sector_le
  have hnext := h.next_le
  have hcells : ∀ i, i < journal.length → (journal ++ text)[i]? = journal[i]? :=
    fun i hi => List.getElem?_append_left hi
  have hlength : journal.length ≤ (journal ++ text).length := by
    rw [List.length_append]
    exact Nat.le_add_right _ _
  have hstart := o.le_hdrOffset last
  exact {
    segments := h.segments.congr (fun i _ hi => hcells i (by omega)) hlength
    header := h.header.congr (fun i _ hi => hcells i (by omega)) hlength
    records := h.records.congr fun i _ hi => hcells i (by omega)
    journalHdr := h.journalHdr
    journalOff := h.journalOff
    nRec := h.nRec
    next_le := hnext.trans hlength }

/-- A record at the end of a journal is one more page that it holds. -/
theorem JournalHolds.recorded (h : JournalHolds o journal synced last current next pPager)
    (hlength : journal.length = next) {k : Nat} (hk : o.Journalled k)
    (hinit : pPager'.cksumInit = pPager.cksumInit) (hhdr : pPager'.journalHdr = pPager.journalHdr)
    (hoff : pPager'.journalOff = ((next + (o.pageSize + 8) : Nat) : Int))
    (hnRec : pPager'.nRec = pPager.nRec + 1) :
    JournalHolds o (journal ++ o.record pPager.cksumInit k) synced last (current ++ [k])
      (next + (o.pageSize + 8)) pPager' := by
  have hgrown := h.append (o.record pPager.cksumInit k)
  have hrecord := o.length_record pPager.cksumInit hk
  have hbytes : window (journal ++ o.record pPager.cksumInit k) next (o.pageSize + 8) =
      o.record pPager.cksumInit k := by
    have hright := window_append_right journal (o.record pPager.cksumInit k) 0 (o.pageSize + 8)
    rw [Nat.add_zero, hlength, ← hrecord] at hright
    rw [← hrecord, hright]
    exact window_self _
  exact {
    segments := hgrown.segments
    header := by rw [hinit]; exact hgrown.header
    records := by rw [hinit]; exact hgrown.records.snoc hk hbytes
    journalHdr := hhdr.trans h.journalHdr
    journalOff := hoff
    nRec := by rw [hnRec, h.nRec, List.length_append, List.length_singleton]
    next_le := by rw [List.length_append, hlength, hrecord] }

end JournalHolds

/-! ## Opening the journal -/

/-- The journal is created empty, under its name, or it is not opened. -/
theorem openJournalFile_ends (laws : Lawful env.os view) {pPager : Pager} {w : World σ}
    (hsettled : Settled o zFilename zJournal pPager) (hdb : NamedFile (view w.os) pPager.fd f)
    (hclosed : ¬ IsOpen pPager.jfd) (hnone : (view w.os).dir pPager.zJournal = none) :
    ∃ ret, openJournalFile env pPager w = .ok ret ∧
      (ret.rc = .cantopen ∧ ret.pPager = pPager ∧
          Undisturbed (view w.os) (view ret.world.os) ∨
        ret.rc = .ok ∧ ret.pPager = { pPager with jfd := ret.pPager.jfd } ∧
          NamedFile (view ret.world.os) pPager.fd f ∧
          (view ret.world.os).data f = (view w.os).data f ∧
          ∃ j, JournalFile f j ret.pPager (view ret.world.os) ∧
            (view ret.world.os).data j = []) := by
  obtain ⟨w₁, hunmoved, hview⟩ : ∃ w₁, databaseIsUnmoved env pPager w = (.ok, w₁) ∧
      view w₁.os = view w.os := by
    simp only [databaseIsUnmoved]
    split_ifs
    · exact ⟨_, rfl, rfl⟩
    · exact ⟨_, rfl, rfl⟩
    · exact ⟨_, rfl, rfl⟩
  have hfits : pPager.zJournal.length < maxVerixFileName := by
    rw [hsettled.zJournal]
    exact hsettled.fits
  obtain ⟨opened, hopened, hcases⟩ := sqlite3OsOpen_cases laws.dir hfits
    (by rw [hsettled.zJournal]; exact hsettled.plain) pPager.jfd (journalOpenFlags pPager) w₁
  refine ⟨⟨opened.rc, { pPager with jfd := opened.file }, opened.world⟩, ?_, ?_⟩
  · rw [openJournalFile, if_pos hclosed, hunmoved]
    simp only [if_true, hopened, ok_bind]
    rfl
  rw [hview] at hcases
  rcases hcases with ⟨hrc, hfile, hsame⟩ | ⟨hrc, has⟩
  · refine Or.inl ⟨hrc, ?_, .of_eq hsame⟩
    dsimp only
    rw [hfile]
  · obtain ⟨hfilename, -⟩ := has.object hfits
    obtain ⟨hf, hdisk⟩ : ∃ hf, view opened.world.os =
        ((view w.os).create pPager.zJournal).seek opened.file.h (view w.os).created 0 hf := by
      rcases has.disk with ⟨g, -, hg, -⟩ | ⟨-, -, hdisk⟩
      · cases hnone.symm.trans hg
      · exact hdisk
    have hlt := (view w.os).dir_lt _ _ hdb.named
    have hname : pPager.fd.filename ≠ pPager.zJournal := by
      rw [hsettled.filename, hsettled.zJournal]
      exact hsettled.apart
    refine Or.inr ⟨hrc, rfl, ⟨(has.openOn_other hdb.openOn).2, ?_⟩, ?_, (view w.os).created,
      ⟨⟨⟨0, ?_⟩, ?_⟩, hfilename, has.method, Nat.ne_of_lt hlt⟩, ?_⟩
    · rw [has.dir_other hname]
      exact hdb.named
    · rw [hdisk, Disk.seek_data]
      exact Function.update_of_ne (Nat.ne_of_lt hlt) ..
    · rw [hdisk, Disk.seek_handles, Function.update_self]
    · show (view opened.world.os).dir opened.file.filename = _
      rw [hfilename, hdisk, Disk.seek_dir]
      exact Function.update_self ..
    · rw [hdisk, Disk.seek_data]
      exact Function.update_self ..

/-- The journal is opened and begun, or not opened, or what was begun is no journal yet. -/
theorem pagerOpenJournal_ends (s : Surroundings env view calls o) {synced : List (List Nat)}
    {current : List Nat} {p : Writer} {w : World σ}
    (h : Underway o zFilename zJournal f content true synced current p (view w.os))
    (heState : p.eState = .writerLocked) :
    ∃ ret, pagerOpenJournal env calls p w = .ok ret ∧ KeepsUse p ret.writer ∧
      (ret.rc = .ok ∧ IsOpen ret.writer.jfd ∧ Underway o zFilename zJournal f content true [] []
          ret.writer (view ret.world.os) ∨
        ret.rc = .cantopen ∧ Underway o zFilename zJournal f content true [] []
          ret.writer (view ret.world.os) ∨
        ret.rc = .ioerrWrite ∧ Underway o zFilename zJournal f content false [] []
          ret.writer (view ret.world.os)) := by
  have hcache := h.cache
  have htransparent := h.transparent rfl
  have hmode : ¬ PagerUseWal p.toPager ∧ p.journalMode ≠ .off := by
    refine ⟨h.settled.noWal, ?_⟩
    rw [h.settled.deletes.1]
    decide
  cases h.stage with
  | writing _ _ _ _ _ hwrites =>
      rcases hwrites with ⟨hcachemod, -⟩ | ⟨hdbmod, -⟩
      · cases heState.symm.trans hcachemod
      · cases heState.symm.trans hdbmod
  | idle hlocked hclosed hnone hdbSize hdirty _ =>
      obtain ⟨-, horig, hfileSize⟩ := hlocked.resolve_left fun hreader => by
        cases heState.symm.trans hreader
      obtain ⟨ret, hret, hends⟩ := openJournalFile_ends s.laws h.settled h.db hclosed hnone
      obtain ⟨rc, pPager, w₁⟩ := ret
      dsimp only at hends
      rcases hends with ⟨rfl, rfl, hsame⟩ | ⟨rfl, hpager, hdb, hdata, j, hfile, hempty⟩
      · refine ⟨⟨.cantopen, { p with pInJournal := .null }, w₁⟩, ?_, ⟨fun hbegun => hbegun, rfl,
          fun _ hcached => hcached, fun _ _ hwritable => hwritable⟩, Or.inr (Or.inl ⟨rfl, ?_⟩)⟩
        · rw [pagerOpenJournal, if_neg (by rw [h.errCode]; exact fun hnot => hnot rfl),
            if_pos hmode]
          simp only [hret, ok_bind, reduceCtorEq, if_false]
          rfl
        · refine h.restage (by rw [hsame.data]) (hsame.namedFile h.db) rfl rfl rfl
            (.idle hlocked hclosed (by rw [hsame.dir]; exact hnone) hdbSize hdirty rfl)
            (fun _ hk => hk) (fun hnil => hnil) (hcache.congr rfl (fun _ => Iff.rfl) rfl
              (fun _ _ _ hflag => hflag) hcache.inUse) fun _ => ?_
          exact htransparent.congr rfl (fun _ => Iff.rfl) (fun _ _ hflag => hflag)
      · obtain ⟨jfd, rfl⟩ : ∃ jfd, pPager = { p.toPager with jfd := jfd } := ⟨_, hpager⟩
        let created : Writer := { p with
          pInJournal := sqlite3BitvecCreate p.dbSize
          jfd := jfd
          nRec := 0
          journalOff := 0
          setMaster := false
          journalHdr := 0 }
        obtain ⟨ret, hwrite, hwritten, htouch⟩ := writeJournalHdr_append s.laws.file
          (show OpenOn (view w₁.os) created.jfd j from hfile.named.openOn)
          (show created.journalOff = _ from by rw [hempty]; rfl) h.settled.pageSize
          h.settled.sectorSize h.settled.noSync
          (by rw [show created.journalMode = p.journalMode from rfl, h.settled.deletes.1]; decide)
          s.fuel (calls.randomness p)
        have hrun : ∀ ret', writeJournalHdr env created.toPager o.nPage (calls.randomness p) w₁ =
            .ok ret' → pagerOpenJournal env calls p w = .ok (if ret'.rc ≠ .ok then
              ⟨ret'.rc, { created.put ret'.pPager with pInJournal := .null }, ret'.world⟩
            else ⟨ret'.rc, { created.put ret'.pPager with eState := .writerCachemod },
              ret'.world⟩) := by
          intro ret' hret'
          rw [← horig] at hret'
          rw [pagerOpenJournal, if_neg (by rw [h.errCode]; exact fun hnot => hnot rfl),
            if_pos hmode]
          simp only [hret, ok_bind, if_true]
          show ((writeJournalHdr env created.toPager p.dbOrigSize (calls.randomness p) w₁ >>= _)
            >>= _) = _
          rw [hret', ok_bind]
          by_cases hrc : ret'.rc ≠ .ok
          · rw [if_pos hrc]
            exact if_pos hrc
          · rw [if_neg hrc]
            exact if_neg hrc
        have hdata' := htouch.data f hfile.apart
        have hfits : DivisorFits p.dbSize := by
          have hlt := o.nPage_lt
          have hnptr : bitvecNptr = 125 := rfl
          rw [DivisorFits, hdbSize]
          omega
        obtain ⟨rc, pPager, w₂⟩ := ret
        dsimp only at hwritten htouch hdata'
        rw [hempty] at hwritten
        refine ⟨_, hrun _ hwrite, ?_⟩
        cases hwritten with
        | written hrc haligned hjournal hpager =>
            dsimp only at hrc hpager
            subst hrc hpager
            rw [if_neg (fun hnot => hnot rfl)]
            have hbegun : PagerState.writerCachemod ≠ .reader := by decide
            refine ⟨⟨fun _ => hbegun, rfl, fun _ hcached => hcached,
              fun _ _ hwritable => hwritable⟩,
              Or.inl ⟨rfl, hfile.isOpen, ?_⟩⟩
            refine h.restage (hdata'.trans hdata) (htouch.namedFile hdb) rfl rfl rfl
              (.writing j 0 (0 + o.sectorSize) (hfile.touches htouch rfl rfl) ?_
                (Or.inl ⟨rfl, rfl⟩) ?_ ?_ ?_ horig ?_ ?_) (fun _ hk => hk) (fun hnil => hnil)
              (hcache.congr rfl (fun _ => Iff.rfl) rfl (fun _ _ _ hflag => hflag) hcache.inUse)
              fun _ => ?_
            · rw [hjournal]
              exact .begun (.nil 0) rfl rfl rfl rfl rfl
            · rw [hjournal, List.nil_append, o.length_hdrSector, Nat.zero_add]
            · exact sqlite3BitvecCreate_represents hfits
            · exact (sqlite3BitvecCreate_iSize hfits).trans hdbSize
            · rw [hdata', hdata, h.whole rfl, o.length_eq]
              exact congrArg (· * o.pageSize) hfileSize.symm
            · exact le_of_eq (hfileSize.trans hdbSize.symm)
            · exact htransparent.congr rfl (fun _ => Iff.rfl) (fun _ _ hflag => hflag)
        | failed m hrc hm hwhere hjournal hpager =>
            dsimp only at hrc
            obtain ⟨journalHdr, journalOff, rfl⟩ : ∃ journalHdr journalOff,
                pPager = { created.toPager with
                  journalHdr := journalHdr
                  journalOff := journalOff
                  cksumInit := calls.randomness p } := ⟨_, _, hpager⟩
            subst hrc
            rw [if_pos (show ResultCode.ioerrWrite ≠ .ok from by decide)]
            refine ⟨⟨fun hbegun => hbegun, rfl, fun _ hcached => hcached,
              fun _ _ hwritable => hwritable⟩,
              Or.inr (Or.inr ⟨rfl, ?_⟩)⟩
            refine h.restage (hdata'.trans hdata) (htouch.namedFile hdb) rfl rfl rfl
              (.opening j heState (hfile.touches htouch rfl rfl) ?_ hdbSize hdirty) (fun _ hk => hk)
              (fun hnil => hnil) ⟨hcache.page, hcache.original, hcache.behind,
                fun hready => (by cases hready), fun hready => (by cases hready), hcache.inUse⟩
              (fun hready => by cases hready)
            rw [hjournal, List.nil_append, List.length_take, o.length_hdrSector]
            omega

/-! ## A page becomes writable -/

/-- Making a page dirty. -/
theorem sqlite3PcacheMakeDirty_eq (p : Writer) (k : Nat) : ∃ pDirty,
    sqlite3PcacheMakeDirty p k =
        { p with dontWrite := Function.update p.dontWrite k false, pDirty := pDirty } ∧
      ∀ l, l ∈ pDirty ↔ l = k ∨ l ∈ p.pDirty := by
  rw [sqlite3PcacheMakeDirty]
  by_cases hk : k ∈ p.pDirty
  · refine ⟨p.pDirty, if_pos hk, fun l => ?_⟩
    exact ⟨Or.inr, fun h => h.elim (fun heq => heq ▸ hk) fun h => h⟩
  · exact ⟨k :: p.pDirty, if_neg hk, fun l => List.mem_cons⟩

/-- The writer once page `k` is dirty, with other flags and another journal. -/
def Writer.dirtied (p : Writer) (k : Nat) (pDirty : List Nat) (needSync : Nat → Bool) (nRec : Nat)
    (journalOff : Int) (pInJournal : Bitvec) : Writer :=
  { p with
    dontWrite := Function.update p.dontWrite k false
    pDirty := pDirty
    needSync := needSync
    nRec := nRec
    journalOff := journalOff
    pInJournal := pInJournal
    dbSize := max p.dbSize k }

section Dirtied

variable {synced : List (List Nat)} {current current' : List Nat} {p : Writer} {d d' : Disk}
  {k : Nat} {pDirty : List Nat} {needSync : Nat → Bool} {nRec : Nat} {journalOff : Int}
  {pInJournal : Bitvec}

/-- A page may become dirty once it is journalled, if it has to be. -/
theorem Underway.dirtied (h : Underway o zFilename zJournal f content true synced current p d)
    (hcached : (p.pPCache.page k).isSome) (hdata : d'.data f = d.data f)
    (hdb : NamedFile d' p.fd f) (hdirty : ∀ l, l ∈ pDirty ↔ l = k ∨ l ∈ p.pDirty)
    (hneedSync : ∀ l, p.needSync l = true → needSync l = true)
    (hmore : ∀ l ∈ synced.flatten ++ current, l ∈ synced.flatten ++ current')
    (hcurrent : ∀ l ∈ current', l ∈ current ∨ l = k ∧ needSync k = true)
    (hjournalled : k ≤ o.nPage → k ∈ synced.flatten ++ current')
    (hstage : JournalStage o f (p.dirtied k pDirty needSync nRec journalOff pInJournal) d' true
      synced current') :
    Underway o zFilename zJournal f content true synced current'
      (p.dirtied k pDirty needSync nRec journalOff pInJournal) d' := by
  have hcache := h.cache
  have htransparent := h.transparent rfl
  obtain ⟨pData, hpage⟩ := Option.isSome_iff_exists.mp hcached
  obtain ⟨-, -, hne, hle⟩ := hcache.page k pData hpage
  refine {
    settled := h.settled.congr rfl
    db := hdb
    errCode := h.errCode
    stage := hstage
    restored := by rw [hdata]; exact h.restored
    whole := by rw [hdata]; exact h.whole
    size_le := ?_
    size_ne := ?_
    cache := ⟨hcache.page, ?_, ?_, fun _ => ?_, fun _ => ?_, hcache.inUse⟩
    transparent := fun _ => ⟨?_, ?_, ?_⟩ }
  · show max p.dbSize k * o.pageSize ≤ 2 ^ 32
    rcases max_choice p.dbSize k with heq | heq
    · rw [heq]
      exact h.size_le
    · rw [heq]
      exact hle
  · show max p.dbSize k ≠ o.mjPgno
    rcases max_choice p.dbSize k with heq | heq
    · rw [heq]
      exact h.size_ne
    · rw [heq]
      exact hne
  · intro l data hl hold hnot
    exact hcache.original l data hl hold fun hmem => hnot (hmore l hmem)
  · exact fun l data hl hbehind =>
      hcache.behind l data hl (lt_of_le_of_lt (le_max_left _ _) hbehind)
  · intro l hl
    rcases (hdirty l).mp hl with rfl | hl
    · exact ⟨hcached, le_max_right _ _, hjournalled⟩
    · obtain ⟨hsome, hsize, hold⟩ := hcache.dirty rfl l hl
      exact ⟨hsome, hsize.trans (le_max_left _ _), fun hle => hmore l (hold hle)⟩
  · intro l hl
    rcases hcurrent l hl with hold | ⟨rfl, hneed⟩
    · obtain ⟨hmem, hneed⟩ := hcache.unsynced rfl l hold
      exact ⟨(hdirty l).mpr (Or.inr hmem), hneedSync l hneed⟩
    · exact ⟨(hdirty l).mpr (Or.inl rfl), hneed⟩
  · rw [hdata]
    exact htransparent.image
  · rw [hdata]
    exact fun l data hl hclean => htransparent.clean l data hl fun hmem =>
      hclean ((hdirty l).mpr (Or.inr hmem))
  · intro l hl hgiven
    have hflag : Function.update p.dontWrite k false l = true := hgiven
    have hlk : l ≠ k := by
      intro heq
      rw [heq, Function.update_self] at hflag
      cases hflag
    rw [Function.update_of_ne hlk] at hflag
    exact htransparent.given l (((hdirty l).mp hl).resolve_left hlk) hflag

end Dirtied

/-- How the writing of a page ends: the references are as before unless there was an I/O error, and
on success the page is writable. -/
structure Written (view : σ → Disk) (o : Original) (zFilename zJournal : CString) (f : Nat)
    (content : Nat → Option (List UInt8)) (p : Writer) (k : Nat) (ret : WriterRet σ) : Prop where
  course : Course o zFilename zJournal f content ret.rc ret.writer (view ret.world.os)
  uses : ¬ ret.rc.IsIoerr → UseEnds p ret.writer p.refs
  writable : ret.rc = .ok → Writable ret.writer k

section WriteJournalled

variable {synced : List (List Nat)} {current : List Nat} {p : Writer} {w : World σ} {k : Nat}
  {pDirty : List Nat}

/-- A page that has become dirty is writable, and those that were writable still are. -/
theorem Writer.dirtied_uses (hdirty : ∀ l, l ∈ pDirty ↔ l = k ∨ l ∈ p.pDirty)
    (needSync : Nat → Bool) (nRec : Nat) (journalOff : Int) (pInJournal : Bitvec) :
    UseEnds p (p.dirtied k pDirty needSync nRec journalOff pInJournal) p.refs ∧
      Writable (p.dirtied k pDirty needSync nRec journalOff pInJournal) k := by
  have hself : Function.update p.dontWrite k false k = false := Function.update_self ..
  refine ⟨⟨fun hbegun => hbegun, rfl, fun l _ hwritable => ⟨?_, ?_⟩⟩,
    (hdirty k).mpr (Or.inl rfl), hself⟩
  · exact (hdirty l).mpr (Or.inr hwritable.1)
  · show Function.update p.dontWrite k false l = false
    by_cases hlk : l = k
    · rw [hlk, hself]
    · rw [Function.update_of_ne hlk]
      exact hwritable.2

theorem Written.dirtied {current' : List Nat} {needSync : Nat → Bool} {nRec : Nat}
    {journalOff : Int} {pInJournal : Bitvec} (hdirty : ∀ l, l ∈ pDirty ↔ l = k ∨ l ∈ p.pDirty)
    (h : Underway o zFilename zJournal f content true synced current'
      (p.dirtied k pDirty needSync nRec journalOff pInJournal) (view w.os)) :
    Written view o zFilename zJournal f content p k
      ⟨.ok, p.dirtied k pDirty needSync nRec journalOff pInJournal, w⟩ := by
  obtain ⟨huses, hwritable⟩ := p.dirtied_uses hdirty needSync nRec journalOff pInJournal
  exact ⟨.goesOn synced current' ok_not_ioerr h,
    fun _ => huses, fun _ => hwritable⟩

theorem writeJournalled_written (s : Surroundings env view calls o)
    (h : Underway o zFilename zJournal f content true synced current p (view w.os))
    (hjfd : IsOpen p.jfd) (hcached : (p.pPCache.page k).isSome) :
    ∃ ret, writeJournalled env p k w = .ok ret ∧
      Written view o zFilename zJournal f content p k ret := by
  obtain ⟨pDirty, hmake, hdirty⟩ := sqlite3PcacheMakeDirty_eq p k
  obtain ⟨pData, hpage⟩ := Option.isSome_iff_exists.mp hcached
  obtain ⟨-, hpos, hne, -⟩ := h.cache.page k pData hpage
  cases h.stage with
  | idle _ hclosed => exact absurd hjfd hclosed
  | writing j last next hfile hholds hwrites hlength hbits hiSize horig hfileLength hgrown =>
      have htest := hbits.test k
      -- what a page that needs no record leaves
      have hstays : ∀ needSync : Nat → Bool, (∀ l, p.needSync l = true → needSync l = true) →
          (k ≤ o.nPage → k ∈ synced.flatten ++ current) →
          Underway o zFilename zJournal f content true synced current
            (p.dirtied k pDirty needSync p.nRec p.journalOff p.pInJournal) (view w.os) := by
        intro needSync hneedSync hjournalled
        exact h.dirtied hcached rfl h.db hdirty hneedSync (fun _ hl => hl) (fun _ hl => Or.inl hl)
          hjournalled (.writing j last next
            (hfile.touches ((Undisturbed.refl _).touches f) rfl rfl) (hholds.pager rfl rfl rfl rfl)
            hwrites hlength hbits hiSize horig hfileLength (hgrown.trans (le_max_left _ _)))
      have hneedSync : ∀ l, p.needSync l = true → Function.update p.needSync k true l = true := by
        intro l hl
        by_cases hlk : l = k
        · rw [hlk, Function.update_self]
        · rw [Function.update_of_ne hlk]
          exact hl
      let made : Writer :=
        { p with dontWrite := Function.update p.dontWrite k false, pDirty := pDirty }
      by_cases hmem : k ∈ synced.flatten ++ current
      · rw [decide_eq_true (List.mem_toFinset.mpr hmem)] at htest
        refine ⟨_, ?_, .dirtied hdirty (hstays p.needSync (fun _ hflag => hflag) fun _ => hmem)⟩
        rw [writeJournalled, hmake]
        show (sqlite3BitvecTest p.pInJournal k >>= _) = _
        rw [htest]
        rfl
      rw [decide_eq_false (fun hset => hmem (List.mem_toFinset.mp hset))] at htest
      have hrun : ∀ ret', journalPage env made k w = .ok ret' → writeJournalled env p k w =
          if ret'.rc ≠ .ok then .ok ret'
          else .ok { ret' with
            writer := { ret'.writer with dbSize := max ret'.writer.dbSize k } } := by
        intro ret' hret'
        have hnoWal : false = false ∧ ¬ PagerUseWal made.toPager := ⟨rfl, h.settled.noWal⟩
        rw [writeJournalled, hmake]
        show (sqlite3BitvecTest p.pInJournal k >>= fun inJournal =>
          (if inJournal = false ∧ ¬ PagerUseWal made.toPager then journalPage env made k w
            else .ok ⟨.ok, made, w⟩) >>= _) = _
        rw [htest, ok_bind, if_pos hnoWal, hret']
        rfl
      by_cases hold : k ≤ p.dbOrigSize ∧ IsOpen p.jfd
      · have hle : k ≤ o.nPage := by
          rw [← horig]
          exact hold.1
        have hpData : (made.setNeedSync k true).pData k = o.page k := by
          show (p.pPCache.page k).getD [] = _
          rw [hpage, Option.getD_some]
          exact h.cache.original k pData hpage hle hmem
        have hk : o.Journalled k := ⟨hpos, hle, hne⟩
        obtain ⟨ret, hwrite, happend, htouch, hpager, hfailed⟩ := writeJournalRecord_append
          s.laws.file (show OpenOn (view w.os) p.toPager.jfd j from hfile.named.openOn)
          (by rw [hlength]; exact hholds.journalOff) h.settled.pageSize hk s.fuel
        have hret : journalPage env made k w = if ret.rc ≠ .ok then
              .ok ⟨ret.rc, (made.setNeedSync k true).put ret.pPager, ret.world⟩
            else sqlite3BitvecSet p.pInJournal k >>= fun pInJournal => .ok ⟨.ok,
              { (made.setNeedSync k true).put ret.pPager with pInJournal := pInJournal },
                ret.world⟩ := by
          rw [journalPage, if_pos hold]
          show (writeJournalRecord env p.toPager k ((made.setNeedSync k true).pData k) w >>= _) = _
          rw [hpData, hwrite]
          rfl
        obtain ⟨rc, pPager, w'⟩ := ret
        dsimp only at happend htouch hpager hfailed hret
        rcases happend with ⟨rfl, hjournal⟩ | ⟨rfl, m, hm, hjournal⟩
        · obtain ⟨bits, hset', hsize, hbits'⟩ : ∃ bits,
              sqlite3BitvecSet p.pInJournal k = .ok bits ∧ bits.iSize = p.pInJournal.iSize ∧
                bits.Represents ((BitOp.set k).onSet (synced.flatten ++ current).toFinset) :=
            hbits.perform (show 1 ≤ (BitOp.set k).bit from hpos)
              (show k ≤ p.pInJournal.iSize by rw [hiSize]; exact hle)
          rw [if_neg (fun hnot => hnot rfl), hset', ok_bind, hpager rfl, hlength] at hret
          rw [hrun _ hret, if_neg (fun hnot => hnot rfl)]
          have hset₂ : (synced.flatten ++ (current ++ [k])).toFinset =
              insert k (synced.flatten ++ current).toFinset := by
            rw [← List.append_assoc, List.toFinset_append, List.toFinset_cons, List.toFinset_nil,
              insert_empty_eq, Finset.union_comm]
            rfl
          have hunder : Underway o zFilename zJournal f content true synced (current ++ [k])
              (p.dirtied k pDirty (Function.update p.needSync k true) (p.nRec + 1)
                ((next + (o.pageSize + 8) : Nat) : Int) bits) (view w'.os) := by
            refine h.dirtied hcached (htouch.data f hfile.apart) (htouch.namedFile h.db) hdirty
              hneedSync ?_ ?_ ?_ (.writing j last (next + (o.pageSize + 8))
                (hfile.touches htouch rfl rfl) ?_ ?_ ?_ ?_ (hsize.trans hiSize) horig ?_
                (hgrown.trans (le_max_left _ _)))
            · intro l hl
              rw [← List.append_assoc]
              exact List.mem_append_left _ hl
            · intro l hl
              rcases List.mem_append.mp hl with hl | hl
              · exact Or.inl hl
              · exact Or.inr ⟨List.mem_singleton.mp hl, Function.update_self ..⟩
            · intro _
              simp
            · rw [hjournal]
              exact hholds.recorded hlength hk rfl rfl rfl rfl
            · exact hwrites
            · rw [hjournal, List.length_append, hlength, o.length_record _ hk]
            · rw [hset₂]
              exact hbits'
            · rw [htouch.data f hfile.apart]
              exact hfileLength
          exact ⟨_, rfl, .dirtied hdirty hunder⟩
        · have hioerr := ioerrWrite_ioerr
          have hnotOk : ResultCode.ioerrWrite ≠ .ok := by decide
          rw [if_pos hnotOk, hfailed hnotOk] at hret
          rw [hrun _ hret, if_pos hnotOk]
          refine ⟨_, rfl, .undoable false synced current hioerr ?_, fun hnot => absurd hioerr hnot,
            fun hnot => absurd hnot hnotOk⟩
          refine h.restage (htouch.data f hfile.apart) (htouch.namedFile h.db) rfl rfl rfl
            (.torn j last next (hfile.touches htouch rfl rfl) ?_ hwrites ?_) (fun _ hl => hl)
            (fun hnil => hnil) ⟨h.cache.page, h.cache.original, h.cache.behind,
              fun hready => (by cases hready), fun hready => (by cases hready), h.cache.inUse⟩
            (fun hready => by cases hready)
          · rw [hjournal]
            exact (hholds.append _).pager rfl rfl rfl rfl
          · rw [hjournal, List.length_append, List.length_take, hlength]
            rw [o.length_record _ hk] at hm ⊢
            omega
      · have hnew : ¬ k ≤ o.nPage := by
          rw [← horig]
          exact fun hle => hold ⟨hle, hjfd⟩
        by_cases hdbmod : p.eState ≠ .writerDbmod
        · have hret : journalPage env made k w = .ok ⟨.ok, made.setNeedSync k true, w⟩ := by
            rw [journalPage, if_neg hold]
            exact if_pos hdbmod
          rw [hrun _ hret, if_neg (fun hnot => hnot rfl)]
          exact ⟨_, rfl, .dirtied hdirty (hstays (Function.update p.needSync k true) hneedSync
            fun hle => absurd hle hnew)⟩
        · have hret : journalPage env made k w = .ok ⟨.ok, made, w⟩ := by
            rw [journalPage, if_neg hold]
            exact if_neg hdbmod
          rw [hrun _ hret, if_neg (fun hnot => hnot rfl)]
          exact ⟨_, rfl, .dirtied hdirty (hstays p.needSync (fun _ hflag => hflag)
            fun hle => absurd hle hnew)⟩

/-- Opening the journal first changes nothing about it. -/
theorem KeepsUse.written {p' : Writer} {ret : WriterRet σ} (h : KeepsUse p p')
    (hwritten : Written view o zFilename zJournal f content p' k ret) :
    Written view o zFilename zJournal f content p k ret := by
  refine ⟨hwritten.course, fun hioerr => ?_, hwritten.writable⟩
  have hends := h.useEnds (hwritten.uses hioerr)
  rw [h.refs] at hends
  exact hends

/-- A page in use is made writable. -/
theorem pagerWrite_written (s : Surroundings env view calls o)
    (h : Underway o zFilename zJournal f content true synced current p (view w.os))
    (hbegun : p.eState ≠ .reader) (huse : k ∈ p.refs) :
    ∃ ret, pagerWrite env calls p k w = .ok ret ∧
      Written view o zFilename zJournal f content p k ret := by
  by_cases heState : p.eState = .writerLocked
  · obtain ⟨ret, hret, hkeeps, hends⟩ := pagerOpenJournal_ends s h heState
    rw [pagerWrite, if_pos heState, hret, ok_bind]
    obtain ⟨rc, p', w'⟩ := ret
    dsimp only at hkeeps hends ⊢
    rcases hends with ⟨rfl, hjfd, hunder⟩ | ⟨rfl, hunder⟩ | ⟨rfl, hunder⟩
    · rw [if_neg (fun hnot => hnot rfl)]
      obtain ⟨ret, hret', hwritten⟩ := writeJournalled_written s hunder hjfd
        (hunder.cache.inUse k (by rw [hkeeps.refs]; exact huse))
      exact ⟨ret, hret', hkeeps.written hwritten⟩
    · refine ⟨⟨.cantopen, p', w'⟩, rfl, .goesOn [] []
        (show ¬ ResultCode.cantopen.IsIoerr from by decide) hunder, fun _ => ?_,
        fun hrc => by cases hrc⟩
      exact ⟨hkeeps.begun, hkeeps.refs, hkeeps.writable⟩
    · have hioerr := ioerrWrite_ioerr
      exact ⟨⟨.ioerrWrite, p', w'⟩, rfl, .undoable false [] [] hioerr hunder,
        fun hnot => absurd hioerr hnot, fun hrc => by cases hrc⟩
  · have hjfd : IsOpen p.jfd := by
      cases h.stage with
      | idle hstate =>
          rcases hstate with hreader | ⟨hlocked, -⟩
          · exact absurd hreader hbegun
          · exact absurd hlocked heState
      | writing j last next hfile => exact hfile.isOpen
    rw [pagerWrite, if_neg heState]
    exact writeJournalled_written s h hjfd (h.cache.inUse k huse)

end WriteJournalled

/-! ## The pages of a sector -/

section LargeSector

variable {synced : List (List Nat)} {current : List Nat} {p : Writer} {w : World σ} {pgno : Nat}

/-- Whether a page is journalled can be looked up. -/
theorem Underway.pageInJournal
    (h : Underway o zFilename zJournal f content true synced current p (view w.os)) (k : Nat) :
    ∃ inJournal, pageInJournal p k = .ok inJournal := by
  cases h.stage with
  | idle _ _ _ _ _ hbits =>
      rw [VxSqlite.pageInJournal, hbits, sqlite3BitvecTest]
      split_ifs
      · exact ⟨_, rfl⟩
      · exact ⟨_, rfl⟩
  | writing _ _ _ _ _ _ _ hbits => exact ⟨_, hbits.test k⟩

theorem UseEnds.trans {p p' p'' : Writer} {refs refs' : List Nat} (h : UseEnds p p' refs)
    (h' : UseEnds p' p'' refs') (hsub : ∀ k ∈ p.refs, k ∈ refs) : UseEnds p p'' refs' :=
  ⟨fun hbegun => h'.begun (h.begun hbegun), h'.refs, fun k hk hwritable =>
    h'.writable k (by rw [h.refs]; exact hsub k hk) (h.writable k hk hwritable)⟩

/-- How the loop over the pages of a sector ends: page `pgno` is writable if it was, or if it is
one of them. -/
structure SectorWritten (view : σ → Disk) (o : Original) (zFilename zJournal : CString) (f : Nat)
    (content : Nat → Option (List UInt8)) (pgno : Nat) (pages : List Nat) (p : Writer)
    (ret : WriterRet σ) : Prop where
  course : Course o zFilename zJournal f content ret.rc ret.writer (view ret.world.os)
  uses : ¬ ret.rc.IsIoerr → UseEnds p ret.writer p.refs
  writable : ret.rc = .ok → pgno ∈ pages ∨ Writable p pgno → Writable ret.writer pgno

/-- A page of the sector is taken into use, made writable and given back. -/
theorem sectorPage_written (s : Surroundings env view calls o)
    (h : Underway o zFilename zJournal f content true synced current p (view w.os))
    (hbegun : p.eState ≠ .reader) (huse : pgno ∈ p.refs) {pg : Nat}
    (hle : pg * o.pageSize ≤ 2 ^ 32) :
    ∃ acquired, sqlite3PagerGet env calls p pg w = .ok acquired ∧
      (acquired.rc ≠ .ok →
        SectorWritten view o zFilename zJournal f content pgno [pg] p acquired) ∧
      (acquired.rc = .ok → ∃ written,
        pagerWrite env calls acquired.writer pg acquired.world = .ok written ∧
        SectorWritten view o zFilename zJournal f content pgno [pg] p
          { written with writer := sqlite3PcacheRelease written.writer pg }) := by
  obtain ⟨acquired, hget, hgot⟩ := sqlite3PagerGet_got s h hle
  refine ⟨acquired, hget, fun hrc => ⟨hgot.course, hgot.refused hrc, fun hok => absurd hok hrc⟩, ?_⟩
  intro hrc
  have hioerr : ¬ acquired.rc.IsIoerr := by
    rw [hrc]
    decide
  obtain ⟨synced', current', hunder⟩ := hgot.course.underway hioerr
  have htaken := hgot.taken hrc
  have hpg : pg ∈ acquired.writer.refs := by
    rw [htaken.refs]
    exact List.mem_cons_self
  obtain ⟨written, hwrite, hwritten⟩ := pagerWrite_written s hunder (htaken.begun hbegun) hpg
  refine ⟨written, hwrite, hwritten.course.released pg, fun hnot => ?_, fun hok hor => ?_⟩
  · have hreleased := sqlite3PcacheRelease_useEnds written.writer pg
    have huses := htaken.trans (hwritten.uses hnot) fun k hk => List.mem_cons_of_mem _ hk
    have hall := huses.trans hreleased fun k hk => by
      rw [htaken.refs]
      exact List.mem_cons_of_mem _ hk
    rw [(hwritten.uses hnot).refs, htaken.refs, List.erase_cons_head] at hall
    exact hall
  · have hok' : written.rc = .ok := hok
    have hnot : ¬ written.rc.IsIoerr := by
      rw [hok']
      decide
    have hmem : pgno ∈ acquired.writer.refs := by
      rw [htaken.refs]
      exact List.mem_cons_of_mem _ huse
    have hmem' : pgno ∈ written.writer.refs := by
      rw [(hwritten.uses hnot).refs]
      exact hmem
    refine (sqlite3PcacheRelease_useEnds written.writer pg).writable pgno hmem' ?_
    rcases hor with hpg | hwritable
    · rw [List.mem_singleton] at hpg
      rw [hpg]
      exact hwritten.writable hok'
    · exact (hwritten.uses hnot).writable pgno hmem (htaken.writable pgno huse hwritable)

/-- One more page in front of the loop. -/
theorem SectorWritten.cons {p₁ : Writer} {pg : Nat} {pages : List Nat} {ret : WriterRet σ}
    (huses : UseEnds p p₁ p.refs) (hwritable : pgno = pg ∨ Writable p pgno → Writable p₁ pgno)
    (h : SectorWritten view o zFilename zJournal f content pgno pages p₁ ret) :
    SectorWritten view o zFilename zJournal f content pgno (pg :: pages) p ret := by
  refine ⟨h.course, fun hnot => ?_, fun hrc hor => h.writable hrc ?_⟩
  · have hall := huses.trans (h.uses hnot) fun _ hk => hk
    rw [huses.refs] at hall
    exact hall
  · rcases hor with hmem | hold
    · rcases List.mem_cons.mp hmem with heq | hmem
      · exact Or.inr (hwritable (Or.inl heq))
      · exact Or.inl hmem
    · exact Or.inr (hwritable (Or.inr hold))

/-- A page of the cache is looked up and given back. -/
theorem Underway.lookedUp {ready : Bool} {d : Disk}
    (h : Underway o zFilename zJournal f content ready synced current p d) {pg : Nat}
    (hcached : (p.pPCache.page pg).isSome) :
    Underway o zFilename zJournal f content ready synced current
        (sqlite3PcacheRelease (sqlite3PcacheRef p pg) pg) d ∧
      UseEnds p (sqlite3PcacheRelease (sqlite3PcacheRef p pg) pg) p.refs := by
  have huses := sqlite3PcacheRelease_useEnds (sqlite3PcacheRef p pg) pg
  have hrefs : (sqlite3PcacheRef p pg).refs.erase pg = p.refs := List.erase_cons_head ..
  rw [hrefs] at huses
  exact ⟨(h.referenced hcached).released pg, huses.begun, huses.refs,
    fun k hk hwritable => huses.writable k (List.mem_cons_of_mem _ hk) hwritable⟩

/-- The loop over the pages of a sector. The induction is on the pages. -/
theorem writeSectorPages_written (s : Surroundings env view calls o) {pages : List Nat}
    (needSync : Bool) (hpages : ∀ pg ∈ pages, pg * o.pageSize ≤ 2 ^ 32)
    (h : Underway o zFilename zJournal f content true synced current p (view w.os))
    (hbegun : p.eState ≠ .reader) (huse : pgno ∈ p.refs) (hne : pgno ≠ o.mjPgno) :
    ∃ ret flag, writeSectorPages env calls pgno pages needSync p w = .ok (ret, flag) ∧
      SectorWritten view o zFilename zJournal f content pgno pages p ret := by
  induction pages generalizing p w needSync synced current with
  | nil =>
      exact ⟨⟨.ok, p, w⟩, needSync, rfl,
        .goesOn synced current ok_not_ioerr h,
        fun _ => ⟨fun hbegun => hbegun, rfl, fun _ _ hwritable => hwritable⟩,
        fun _ hor => hor.resolve_left List.not_mem_nil⟩
  | cons pg pages ih =>
      have hle := hpages pg List.mem_cons_self
      have hrest : ∀ pg ∈ pages, pg * o.pageSize ≤ 2 ^ 32 :=
        fun pg hpg => hpages pg (List.mem_cons_of_mem _ hpg)
      obtain ⟨inJournal, hin⟩ := h.pageInJournal pg
      have hsame : UseEnds p p p.refs := ⟨fun hbegun => hbegun, rfl, fun _ _ hwritable => hwritable⟩
      rw [writeSectorPages, hin, ok_bind]
      by_cases hcond : pg = pgno ∨ inJournal = false
      · rw [if_pos hcond]
        by_cases hmj : pg ≠ p.mjPgno
        · rw [if_pos hmj]
          obtain ⟨acquired, hget, hrefused, htaken⟩ := sectorPage_written s h hbegun huse hle
          rw [hget, ok_bind]
          by_cases hrc : acquired.rc ≠ .ok
          · rw [if_pos hrc]
            have hends := hrefused hrc
            exact ⟨acquired, needSync, rfl, hends.course, hends.uses, fun hok => absurd hok hrc⟩
          rw [if_neg hrc]
          obtain ⟨written, hwrite, hends⟩ := htaken (not_not.mp hrc)
          rw [hwrite, ok_bind]
          by_cases hrc' : written.rc ≠ .ok
          · exact ⟨_, _, if_pos hrc', hends.course, hends.uses, fun hok => absurd hok hrc'⟩
          · have hok := not_not.mp hrc'
            have hioerr : ¬ written.rc.IsIoerr := by
              rw [hok]
              decide
            obtain ⟨synced', current', hunder⟩ := hends.course.underway hioerr
            have huses := hends.uses hioerr
            obtain ⟨ret, flag, hrun, hret⟩ := ih
              (needSync || written.writer.needSync pg) hrest hunder (huses.begun hbegun)
              (by rw [huses.refs]; exact huse)
            refine ⟨ret, flag, (if_neg hrc').trans hrun, .cons huses (fun hor => ?_) hret⟩
            refine hends.writable hok (hor.imp_left fun heq => ?_)
            rw [heq]
            exact List.mem_singleton_self pg
        · rw [if_neg hmj]
          obtain ⟨ret, flag, hrun, hret⟩ := ih needSync hrest h hbegun huse
          refine ⟨ret, flag, hrun, .cons hsame (fun hor => hor.resolve_left fun heq => hne ?_) hret⟩
          have hmj' : p.mjPgno = o.mjPgno := by
            rw [Pager.mjPgno, Original.mjPgno, h.settled.pageSize]
          rw [heq, not_not.mp hmj, hmj']
      · rw [if_neg hcond]
        have hother : ∀ hor : pgno = pg ∨ Writable p pgno, Writable p pgno :=
          fun hor => hor.resolve_left fun heq => hcond (Or.inl heq.symm)
        by_cases hcached : (p.pPCache.page pg).isSome
        · rw [if_pos hcached]
          obtain ⟨hunder, huses⟩ := h.lookedUp hcached
          obtain ⟨ret, flag, hrun, hret⟩ := ih (needSync || p.needSync pg) hrest hunder
            (huses.begun hbegun) (by rw [huses.refs]; exact huse)
          exact ⟨ret, flag, hrun,
            .cons huses (fun hor => huses.writable pgno huse (hother hor)) hret⟩
        · rw [if_neg hcached]
          obtain ⟨ret, flag, hrun, hret⟩ := ih needSync hrest h hbegun huse
          exact ⟨ret, flag, hrun, .cons hsame hother hret⟩

/-- Marking a page of the sector for a sync. -/
theorem Underway.markSectorPage {d : Disk}
    (h : Underway o zFilename zJournal f content true synced current p d) (pg : Nat) :
    Underway o zFilename zJournal f content true synced current (markSectorPage p pg) d ∧
      UseEnds p (VxSqlite.markSectorPage p pg) p.refs := by
  rw [VxSqlite.markSectorPage]
  split_ifs with hcached
  · let marked := (sqlite3PcacheRef p pg).setNeedSync pg true
    have hmarked : Underway o zFilename zJournal f content true synced current marked d := by
      refine (h.referenced hcached).samePages rfl (.refl d) rfl (fun _ => Iff.rfl) ?_
        (fun _ _ hflag => hflag) (h.referenced hcached).cache.inUse
      intro l _ hl
      show Function.update p.needSync pg true l = true
      by_cases hlpg : l = pg
      · rw [hlpg, Function.update_self]
      · rw [Function.update_of_ne hlpg]
        exact hl
    have huses := sqlite3PcacheRelease_useEnds marked pg
    have hrefs : marked.refs.erase pg = p.refs := List.erase_cons_head ..
    rw [hrefs] at huses
    exact ⟨hmarked.released pg, huses.begun, huses.refs,
      fun k hk hwritable => huses.writable k (List.mem_cons_of_mem _ hk) hwritable⟩
  · exact ⟨h, fun hbegun => hbegun, rfl, fun _ _ hwritable => hwritable⟩

theorem Underway.markSectorPages {d : Disk}
    (h : Underway o zFilename zJournal f content true synced current p d) (pages : List Nat) :
    Underway o zFilename zJournal f content true synced current
        (pages.foldl VxSqlite.markSectorPage p) d ∧
      UseEnds p (pages.foldl VxSqlite.markSectorPage p) p.refs := by
  induction pages generalizing p with
  | nil => exact ⟨h, fun hbegun => hbegun, rfl, fun _ _ hwritable => hwritable⟩
  | cons pg pages ih =>
      obtain ⟨hmarked, huses⟩ := h.markSectorPage pg
      obtain ⟨hrest, hends⟩ := ih hmarked
      have hall := huses.trans hends fun _ hk => hk
      rw [huses.refs] at hall
      exact ⟨hrest, hall⟩

/-- A page is one of its sector's. -/
theorem mem_sectorPages (hpgno : 1 ≤ pgno) (hpage : 0 < p.pageSize)
    (hsector : p.sectorSize > p.pageSize) : pgno ∈ sectorPages p pgno := by
  have hn : 0 < p.sectorSize / p.pageSize := Nat.div_pos (Nat.le_of_lt hsector) hpage
  simp only [sectorPages]
  generalize p.sectorSize / p.pageSize = n at hn ⊢
  have hlo : (pgno - 1) / n * n ≤ pgno - 1 := Nat.div_mul_le_self _ _
  have hhi : pgno - 1 < (pgno - 1) / n * n + n := by
    have hlt := Nat.lt_mul_div_succ (pgno - 1) hn
    rw [Nat.mul_add, Nat.mul_one, Nat.mul_comm] at hlt
    exact hlt
  generalize (pgno - 1) / n * n = pg0 at hlo hhi ⊢
  refine List.mem_map.mpr ⟨pgno - (pg0 + 1), List.mem_range.mpr ?_, by omega⟩
  split_ifs <;> omega

/-- The pages of a sector are behind neither the page nor the end of the database. -/
theorem le_of_mem_sectorPages (hpgno : 1 ≤ pgno) {pg : Nat} (h : pg ∈ sectorPages p pgno) :
    pg ≤ max pgno p.dbSize := by
  simp only [sectorPages] at h
  generalize p.sectorSize / p.pageSize = n at h
  have hlo : (pgno - 1) / n * n ≤ pgno - 1 := Nat.div_mul_le_self _ _
  generalize (pgno - 1) / n * n = pg0 at hlo h
  obtain ⟨i, hi, rfl⟩ := List.mem_map.mp h
  have hlt := List.mem_range.mp hi
  split_ifs at hlt <;> omega

/-- Whether pages may be spilled makes no difference to how a call has ended. -/
theorem Course.doNotSpill {rc : ResultCode} {d : Disk}
    (h : Course o zFilename zJournal f content rc p d) (doNotSpill : Nat) :
    Course o zFilename zJournal f content rc { p with doNotSpill := doNotSpill } d := by
  cases h with
  | goesOn synced current hrc hunder =>
      exact .goesOn synced current hrc (hunder.samePages rfl (.refl d) rfl (fun _ => Iff.rfl)
        (fun _ _ hflag => hflag) (fun _ _ hflag => hflag) hunder.cache.inUse)
  | undoable ready synced current hrc hunder =>
      exact .undoable ready synced current hrc (hunder.samePages rfl (.refl d) rfl
        (fun _ => Iff.rfl) (fun _ _ hflag => hflag) (fun _ _ hflag => hflag) hunder.cache.inUse)
  | broken hrc heState herrCode hsurvives => exact .broken hrc heState herrCode hsurvives

/-- A page in use is made writable where a sector holds several pages. -/
theorem pagerWriteLargeSector_written (s : Surroundings env view calls o)
    (h : Underway o zFilename zJournal f content true synced current p (view w.os))
    (hbegun : p.eState ≠ .reader) (huse : pgno ∈ p.refs) (hsector : p.sectorSize > p.pageSize) :
    ∃ ret, pagerWriteLargeSector env calls p pgno w = .ok ret ∧
      Written view o zFilename zJournal f content p pgno ret := by
  obtain ⟨pData, hpage⟩ := Option.isSome_iff_exists.mp (h.cache.inUse pgno huse)
  obtain ⟨-, hpgno, hne, hle⟩ := h.cache.page pgno pData hpage
  have hsize := o.le_pageSize
  have hpages : pgno ∈ sectorPages p pgno :=
    mem_sectorPages hpgno (by rw [h.settled.pageSize]; omega) hsector
  let started : Writer := { p with doNotSpill := p.doNotSpill ||| spillflagNosync }
  have hstarted : Underway o zFilename zJournal f content true synced current started
      (view w.os) :=
    h.samePages rfl (.refl _) rfl (fun _ => Iff.rfl) (fun _ _ hflag => hflag)
      (fun _ _ hflag => hflag) h.cache.inUse
  have hsector : ∀ pg ∈ sectorPages p pgno, pg * o.pageSize ≤ 2 ^ 32 := by
    intro pg hpg
    rcases le_max_iff.mp (le_of_mem_sectorPages hpgno hpg) with hfirst | hsecond
    · exact (Nat.mul_le_mul_right _ hfirst).trans hle
    · exact (Nat.mul_le_mul_right _ hsecond).trans h.size_le
  obtain ⟨ret, flag, hrun, hwritten⟩ :=
    writeSectorPages_written s false hsector hstarted hbegun huse hne
  let marked : Writer := if ret.rc = .ok ∧ flag = true then
      (sectorPages p pgno).foldl markSectorPage ret.writer
    else ret.writer
  have hmarked : Course o zFilename zJournal f content ret.rc marked (view ret.world.os) ∧
      UseEnds ret.writer marked ret.writer.refs := by
    by_cases hcond : ret.rc = .ok ∧ flag = true
    · have hioerr : ¬ ret.rc.IsIoerr := by
        rw [hcond.1]
        decide
      obtain ⟨synced', current', hunder⟩ := hwritten.course.underway hioerr
      obtain ⟨hunder', huses⟩ := hunder.markSectorPages (sectorPages p pgno)
      rw [show marked = _ from if_pos hcond]
      exact ⟨.goesOn synced' current' hioerr hunder', huses⟩
    · rw [show marked = _ from if_neg hcond]
      exact ⟨hwritten.course, fun hbegun => hbegun, rfl, fun _ _ hwritable => hwritable⟩
  obtain ⟨hcourse, huses⟩ := hmarked
  refine ⟨{ ret with writer := { marked with
    doNotSpill := marked.doNotSpill - (marked.doNotSpill &&& spillflagNosync) } }, ?_,
    hcourse.doNotSpill _, fun hnot => ?_, fun hrc => ?_⟩
  · simp only [pagerWriteLargeSector]
    show (writeSectorPages env calls pgno (sectorPages p pgno) false started w >>= _) = _
    rw [hrun]
    rfl
  · have hall := (hwritten.uses hnot).trans huses fun _ hk => hk
    exact ⟨hall.begun, huses.refs.trans (hwritten.uses hnot).refs, hall.writable⟩
  · have hok : ret.rc = .ok := hrc
    have hioerr : ¬ ret.rc.IsIoerr := by
      rw [hok]
      decide
    have hwritable := huses.writable pgno (by rw [(hwritten.uses hioerr).refs]; exact huse)
      (hwritten.writable hok (Or.inl hpages))
    exact ⟨hwritable.1, hwritable.2⟩

/-- `sqlite3PagerWrite` makes a page in use writable, or returns an error. -/
theorem sqlite3PagerWrite_written (s : Surroundings env view calls o)
    (h : Underway o zFilename zJournal f content true synced current p (view w.os))
    (hbegun : p.eState ≠ .reader) (huse : pgno ∈ p.refs) :
    ∃ ret, sqlite3PagerWrite env calls p pgno w = .ok ret ∧
      Written view o zFilename zJournal f content p pgno ret := by
  rw [sqlite3PagerWrite]
  by_cases hsector : p.sectorSize > p.pageSize
  · rw [if_pos hsector]
    exact pagerWriteLargeSector_written s h hbegun huse hsector
  · rw [if_neg hsector]
    exact pagerWrite_written s h hbegun huse

end LargeSector

end VxSqlite
