import VxSqlite.Pager.PageWrites

/-!
# Pages in use

Taking a page into use and giving it back during a transaction. A page that is new to the cache
comes with the data that a reader is to see, and the dirty page that a full cache gives up for it is
written to the database file, behind a synced journal if it needs one. The pages that are in use
stay as they are.
-/

namespace VxSqlite

variable {σ : Type} {env : Env σ} {view : σ → Disk} {calls : WriterCallbacks σ} {o : Original}
  {zFilename zJournal : CString} {f : Nat} {content : Nat → Option (List UInt8)}

/-! ## Giving up a dirty page -/

/-- A page that `sqlite3PagerWrite` has made writable, and that is wanted. -/
def Writable (p : Writer) (k : Nat) : Prop := k ∈ p.pDirty ∧ p.dontWrite k = false

/-- The cache holds no other pages, and those in use are as writable as they were. -/
structure KeepsUse (p p' : Writer) : Prop where
  begun : p.eState ≠ .reader → p'.eState ≠ .reader
  refs : p'.refs = p.refs
  cached : ∀ k, (p'.pPCache.page k).isSome → (p.pPCache.page k).isSome
  writable : ∀ k ∈ p.refs, Writable p k → Writable p' k

theorem KeepsUse.refl (p : Writer) : KeepsUse p p :=
  ⟨fun h => h, rfl, fun _ hcached => hcached, fun _ _ h => h⟩

theorem KeepsUse.trans {p p' p'' : Writer} (h : KeepsUse p p') (h' : KeepsUse p' p'') :
    KeepsUse p p'' :=
  ⟨fun hbegun => h'.begun (h.begun hbegun), h'.refs.trans h.refs,
    fun k hcached => h.cached k (h'.cached k hcached),
    fun k hk hwritable => h'.writable k (by rw [h.refs]; exact hk) (h.writable k hk hwritable)⟩

theorem Flushes.keepsUse {p p' : Writer} (h : Flushes p p') : KeepsUse p p' := by
  have hcached := h.cached
  obtain ⟨_, _, _, _, rfl⟩ := h.exists
  exact ⟨fun hbegun => hbegun, rfl, fun k hk => (hcached k).symm.trans hk,
    fun _ _ hwritable => hwritable⟩

theorem Syncs.keepsUse {p p' : Writer} (h : Syncs p p') (hbegun : p'.eState ≠ .reader) :
    KeepsUse p p' := by
  unfold Syncs at h
  rw [h] at hbegun ⊢
  exact ⟨fun _ => hbegun, rfl, fun _ hcached => hcached, fun _ _ hwritable => hwritable⟩

/-- A page that is not in use may be made clean. -/
theorem sqlite3PcacheMakeClean_keepsUse {p : Writer} {k : Nat} (hfree : k ∉ p.refs) :
    KeepsUse p (sqlite3PcacheMakeClean p k) := by
  by_cases hk : k ∈ p.pDirty
  · obtain ⟨page1Ref, hclean⟩ := sqlite3PcacheMakeClean_eq hk
    rw [hclean]
    refine ⟨fun hbegun => hbegun, rfl, fun _ hcached => hcached,
      fun l hl hwritable => ⟨?_, hwritable.2⟩⟩
    have hlk : l ≠ k := fun heq => hfree (heq ▸ hl)
    exact (List.mem_erase_of_ne hlk).mpr hwritable.1
  · rw [sqlite3PcacheMakeClean, if_neg hk]
    exact .refl p

/-- A dirty page has an open journal. -/
theorem Underway.journal_isOpen {synced : List (List Nat)} {current : List Nat} {p : Writer}
    {d : Disk} (h : Underway o zFilename zJournal f content true synced current p d) {k : Nat}
    (hk : k ∈ p.pDirty) : IsOpen p.jfd := by
  cases h.stage with
  | idle _ _ _ _ hdirty =>
      rw [hdirty] at hk
      cases hk
  | writing j last next hfile => exact hfile.isOpen

/-- A transaction that has counted segments may write to the database file. -/
theorem Underway.synced_eState {synced : List (List Nat)} {current : List Nat} {p : Writer}
    {d : Disk} (h : Underway o zFilename zJournal f content true synced current p d)
    (hne : synced ≠ []) : p.eState = .writerDbmod := by
  cases h.stage with
  | idle => exact absurd rfl hne
  | writing j last next _ _ hwrites => exact (hwrites.resolve_left fun hnone => hne hnone.2).1

/-- A dirty page that needs no sync is not behind the last counted segment. -/
theorem Underway.unneeded {synced : List (List Nat)} {current : List Nat} {p : Writer}
    {d : Disk} (h : Underway o zFilename zJournal f content true synced current p d) {k : Nat}
    (hk : k ∈ p.pDirty) (hneed : ¬ (p.needSync k = true ∨ p.eState = .writerCachemod)) :
    synced ≠ [] ∧ k ∉ current := by
  rw [not_or] at hneed
  refine ⟨?_, fun hcurrent => hneed.1 (h.cache.unsynced rfl k hcurrent).2⟩
  cases h.stage with
  | idle _ _ _ _ hdirty =>
      rw [hdirty] at hk
      cases hk
  | writing j last next _ _ hwrites =>
      rcases hwrites with ⟨heState, -⟩ | ⟨-, hne⟩
      · exact absurd heState hneed.2
      · exact hne

/-- Writing one dirty page and making it clean. -/
theorem pagerWritePagelist_one (s : Surroundings env view calls o) {synced : List (List Nat)}
    {current : List Nat} {p : Writer} {w : World σ}
    (h : Underway o zFilename zJournal f content true synced current p (view w.os)) {k : Nat}
    (hk : k ∈ p.pDirty) (hne : synced ≠ []) (hnot : k ∉ current) :
    ∃ ret, pagerWritePagelist env p [k] w = .ok ret ∧ Flushes p ret.writer ∧
      (ret.rc = .ok ∧ Underway o zFilename zJournal f content true synced current
          (sqlite3PcacheMakeClean ret.writer k) (view ret.world.os) ∨
        ret.rc = .ioerrWrite ∧ Survives o zFilename zJournal f (view ret.world.os)) := by
  obtain ⟨hlength, hgrown⟩ : ((view w.os).data f).length = p.dbFileSize * o.pageSize ∧
      p.dbFileSize ≤ p.dbSize := by
    cases h.stage with
    | idle _ _ _ _ hdirty =>
        rw [hdirty] at hk
        cases hk
    | writing _ _ _ _ _ _ _ _ _ _ hlength hgrown => exact ⟨hlength, hgrown⟩
  have hlist : ∀ l ∈ [k], l ∈ p.pDirty ∧ l ∉ current := by
    intro l hl
    rw [List.mem_singleton] at hl
    exact hl ▸ ⟨hk, hnot⟩
  obtain ⟨ret, hret, htouch, hflushes, hends⟩ := pagerWritePagelist_ends s
    (h.writesPages h.cache (h.transparent rfl) hlength hgrown) hlist
  refine ⟨ret, hret, hflushes, ?_⟩
  rcases hends with ⟨hrc, hwrites⟩ | ⟨hrc, hfailed⟩
  · exact Or.inl ⟨hrc, h.cleaned hne htouch hflushes hk hnot hwrites⟩
  · exact Or.inr ⟨hrc, (h.damaged hne htouch hflushes hfailed).survives⟩

/-- What giving up a dirty page leaves. -/
def Spilled (view : σ → Disk) (o : Original) (zFilename zJournal : CString) (f : Nat)
    (content : Nat → Option (List UInt8)) (p : Writer) (ret : WriterRet σ) : Prop :=
  Course o zFilename zJournal f content ret.rc ret.writer (view ret.world.os) ∧
    (¬ ret.rc.IsIoerr → KeepsUse p ret.writer)

/-- An I/O error is noted. -/
theorem writerError_ioerr {ret : WriterRet σ} (h : ret.rc.IsIoerr) :
    (writerError ret).writer.eState = .error ∧ (writerError ret).writer.errCode ≠ .ok := by
  show (pagerError ret.writer.toPager ret.rc).eState = _ ∧
    (pagerError ret.writer.toPager ret.rc).errCode ≠ .ok
  rw [pagerError, if_pos (Or.inr h)]
  refine ⟨rfl, fun hok => ?_⟩
  have hrc : ret.rc = .ok := hok
  rw [hrc] at h
  exact absurd h (by decide)

/-- Other errors are not, but for a full disk. -/
theorem writerError_eq {ret : WriterRet σ} (hioerr : ¬ ret.rc.IsIoerr)
    (hfull : ret.rc.code % 256 ≠ ResultCode.full.code) : writerError ret = ret := by
  rw [writerError, pagerError, if_neg (not_or.mpr ⟨hfull, hioerr⟩)]
  rfl

theorem Spilled.failed {p q : Writer} {w : World σ}
    (h : Survives o zFilename zJournal f (view w.os)) :
    Spilled view o zFilename zJournal f content p (writerError ⟨.ioerrWrite, q, w⟩) := by
  have hioerr := ioerrWrite_ioerr
  have hret : (⟨.ioerrWrite, q, w⟩ : WriterRet σ).rc.IsIoerr := hioerr
  obtain ⟨heState, herrCode⟩ := writerError_ioerr hret
  exact ⟨.broken hioerr heState herrCode h, fun hnot => absurd hioerr hnot⟩

theorem Spilled.goesOn {synced : List (List Nat)} {current : List Nat} {p q : Writer}
    {rc : ResultCode} {w : World σ} (hrc : rc = .ok ∨ rc = .busy)
    (h : Underway o zFilename zJournal f content true synced current q (view w.os))
    (hkeeps : KeepsUse p q) :
    Spilled view o zFilename zJournal f content p (writerError ⟨rc, q, w⟩) := by
  have hioerr : ¬ rc.IsIoerr := by rcases hrc with rfl | rfl <;> decide
  have hfull : rc.code % 256 ≠ ResultCode.full.code := by rcases hrc with rfl | rfl <;> decide
  rw [writerError_eq hioerr hfull]
  exact ⟨.goesOn synced current hioerr h, fun _ => hkeeps⟩

/-- Writing a dirty page that is not in use. -/
theorem stressWrite_spilled (s : Surroundings env view calls o) {synced : List (List Nat)}
    {current : List Nat} {p q : Writer} {w : World σ}
    (h : Underway o zFilename zJournal f content true synced current q (view w.os)) {k : Nat}
    (hk : k ∈ q.pDirty) (hne : synced ≠ []) (hnot : k ∉ current) (hfree : k ∉ q.refs)
    (hkeeps : KeepsUse p q) :
    ∃ ret, stressWrite env k ⟨.ok, q, w⟩ = .ok ret ∧
      Spilled view o zFilename zJournal f content p ret := by
  obtain ⟨ret, hret, hflushes, hends⟩ := pagerWritePagelist_one s h hk hne hnot
  rw [stressWrite, if_pos rfl, hret, ok_bind]
  obtain ⟨rc, q', w'⟩ := ret
  dsimp only at hends hflushes ⊢
  rcases hends with ⟨rfl, hunder⟩ | ⟨rfl, hsurvives⟩
  · refine ⟨_, rfl, ?_⟩
    have hfree' : k ∉ q'.refs := by rw [hflushes.keepsUse.refs]; exact hfree
    exact .goesOn (Or.inl rfl) hunder
      ((hkeeps.trans hflushes.keepsUse).trans (sqlite3PcacheMakeClean_keepsUse hfree'))
  · exact ⟨_, rfl, .failed hsurvives⟩

theorem pagerStress_spilled (s : Surroundings env view calls o) {synced : List (List Nat)}
    {current : List Nat} {p : Writer} {w : World σ}
    (h : Underway o zFilename zJournal f content true synced current p (view w.os)) {k : Nat}
    (hk : k ∈ p.pDirty) (hfree : k ∉ p.refs) :
    ∃ ret, pagerStress env calls p k w = .ok ret ∧
      Spilled view o zFilename zJournal f content p ret := by
  have hstays : ∃ ret, (Except.ok ⟨.ok, p, w⟩ : Except Fault (WriterRet σ)) = .ok ret ∧
      Spilled view o zFilename zJournal f content p ret :=
    ⟨_, rfl, .goesOn _ _ ok_not_ioerr h, fun _ => .refl p⟩
  rw [pagerStress, if_neg (by rw [h.errCode]; exact fun hnot => hnot rfl)]
  by_cases hspill : p.doNotSpill ≠ 0 ∧
      (p.doNotSpill &&& spillflagNever ≠ 0 ∨ p.needSync k = true)
  · rw [if_pos hspill]
    exact hstays
  rw [if_neg hspill]
  by_cases hneed : p.needSync k = true ∨ p.eState = .writerCachemod
  · rw [if_pos hneed]
    obtain ⟨ret, hret, hends⟩ := syncJournal_ends s h (h.journal_isOpen hk) true
    rw [hret, ok_bind]
    obtain ⟨rc, q, w'⟩ := ret
    dsimp only at hends ⊢
    cases hends with
    | unchanged hrc hwriter hunder =>
        rcases hrc with rfl | rfl
        · refine ⟨_, rfl, .goesOn (Or.inr rfl) hunder ?_⟩
          rw [hwriter]
          exact ⟨fun hbegun => hbegun, rfl, fun _ hcached => hcached,
            fun _ _ hwritable => hwritable⟩
        · exact ⟨_, rfl, .failed hunder.survives⟩
    | lost hrc _ hsurvives =>
        subst hrc
        exact ⟨_, rfl, .failed hsurvives⟩
    | closed _ _ _ hnew => cases hnew
    | begun hrc _ hsyncs hunder =>
        subst hrc
        have hdirty : q.pDirty = p.pDirty :=
          (congrArg (fun p : Writer => p.pDirty) hsyncs).trans rfl
        have hkeeps := hsyncs.keepsUse (hunder.synced_eState (by simp) ▸ (by decide))
        exact stressWrite_spilled s hunder (by rw [hdirty]; exact hk) (by simp) List.not_mem_nil
          (by rw [hkeeps.refs]; exact hfree) hkeeps
  · rw [if_neg hneed, ok_bind]
    obtain ⟨hne, hnot⟩ := h.unneeded hk hneed
    exact stressWrite_spilled s h hk hne hnot hfree (.refl p)

/-- A cache that is full gives up a dirty page, if the disk is not busy. -/
theorem pcacheSpill_spilled (s : Surroundings env view calls o) {synced : List (List Nat)}
    {current : List Nat} {p : Writer} {w : World σ}
    (h : Underway o zFilename zJournal f content true synced current p (view w.os)) :
    ∃ ret, pcacheSpill env calls p w = .ok ret ∧
      Spilled view o zFilename zJournal f content p ret := by
  have hstays : ∃ ret, (Except.ok ⟨.ok, p, w⟩ : Except Fault (WriterRet σ)) = .ok ret ∧
      Spilled view o zFilename zJournal f content p ret :=
    ⟨_, rfl, .goesOn _ _ ok_not_ioerr h, fun _ => .refl p⟩
  rw [pcacheSpill]
  cases calls.victim p with
  | none => exact hstays
  | some victim =>
      dsimp only
      by_cases hvictim : victim ∈ p.pDirty ∧ victim ∉ p.refs
      swap
      · rw [if_neg hvictim]
        exact hstays
      obtain ⟨ret, hret, hcourse, hkeeps⟩ := pagerStress_spilled s h hvictim.1 hvictim.2
      rw [if_pos hvictim, hret, ok_bind]
      refine ⟨_, rfl, ?_⟩
      split_ifs with hbusy
      · have hioerr : ¬ ret.rc.IsIoerr := by
          rw [hbusy]
          decide
        obtain ⟨synced', current', hunder⟩ := hcourse.underway hioerr
        exact ⟨.goesOn synced' current' ok_not_ioerr hunder,
          fun _ => hkeeps hioerr⟩
      · exact ⟨hcourse, hkeeps⟩

/-- Pages in use and dirty pages stay in the cache as they are. -/
theorem pcacheRecycle_page {p : Writer} {pages : List Nat} {k : Nat}
    (hk : k ∈ p.pDirty ∨ k ∈ p.refs) : (pcacheRecycle p pages).pPCache.page k = p.pPCache.page k :=
  if_neg fun hgone => hk.elim hgone.2.1 hgone.2.2

/-- Every page of the cache has been there before. -/
theorem pcacheRecycle_cached {p : Writer} {pages : List Nat} {k : Nat} {pData : List UInt8}
    (h : (pcacheRecycle p pages).pPCache.page k = some pData) : p.pPCache.page k = some pData := by
  have hpage : (if k ∈ pages ∧ k ∉ p.pDirty ∧ k ∉ p.refs then none else p.pPCache.page k) =
      some pData := h
  split_ifs at hpage
  exact hpage

theorem pcacheRecycle_keepsUse (p : Writer) (pages : List Nat) :
    KeepsUse p (pcacheRecycle p pages) := by
  refine ⟨fun hbegun => hbegun, rfl, fun k hk => ?_, fun _ _ hwritable => hwritable⟩
  obtain ⟨pData, hcached⟩ := Option.isSome_iff_exists.mp hk
  rw [pcacheRecycle_cached hcached]
  rfl

/-- A page that leaves the cache is clean, so that a reader finds in the file what was in the
cache. -/
theorem Underway.recycled {ready : Bool} {synced : List (List Nat)} {current : List Nat}
    {p : Writer} {d : Disk} (h : Underway o zFilename zJournal f content ready synced current p d)
    (pages : List Nat) :
    Underway o zFilename zJournal f content ready synced current (pcacheRecycle p pages) d := by
  have hcache := h.cache
  refine h.alike rfl (.refl d) (fun hnil => hnil) ⟨?_, ?_, ?_, ?_, hcache.unsynced, ?_⟩
    fun hready => ?_
  · exact fun k pData hcached => hcache.page k pData (pcacheRecycle_cached hcached)
  · exact fun k pData hcached => hcache.original k pData (pcacheRecycle_cached hcached)
  · exact fun k pData hcached => hcache.behind k pData (pcacheRecycle_cached hcached)
  · intro hready k hk
    rw [pcacheRecycle_page (p := p) (Or.inl hk)]
    exact hcache.dirty hready k hk
  · intro k hk
    rw [pcacheRecycle_page (p := p) (Or.inr hk)]
    exact hcache.inUse k hk
  · have htransparent := h.transparent hready
    refine ⟨fun k pData hk hcontent => ?_, fun k pData hcached => ?_, htransparent.given⟩
    · have himage := htransparent.image k pData hk hcontent
      unfold Writer.image at himage ⊢
      cases hcached : p.pPCache.page k with
      | none =>
          have hstill : (pcacheRecycle p pages).pPCache.page k = none := by
            show (if _ then _ else _) = _
            rw [hcached, ite_self]
          rw [hstill, ← hcached]
          exact himage
      | some data =>
          by_cases hgone : k ∈ pages ∧ k ∉ p.pDirty ∧ k ∉ p.refs
          · have hnone : (pcacheRecycle p pages).pPCache.page k = none := if_pos hgone
            rw [hcached, Option.getD_some, htransparent.clean k data hcached hgone.2.1
              (by rw [hcontent]; exact Option.some_ne_none pData)] at himage
            rw [hnone]
            exact himage
          · have hstays : (pcacheRecycle p pages).pPCache.page k = p.pPCache.page k := if_neg hgone
            rw [hstays]
            exact himage
    · exact htransparent.clean k pData (pcacheRecycle_cached hcached)

/-- Pages that leave the cache change nothing about how a call has ended. -/
theorem Course.recycled {rc : ResultCode} {p : Writer} {d : Disk}
    (h : Course o zFilename zJournal f content rc p d) (pages : List Nat) :
    Course o zFilename zJournal f content rc (pcacheRecycle p pages) d := by
  cases h with
  | goesOn synced current hrc hunder => exact .goesOn synced current hrc (hunder.recycled pages)
  | undoable ready synced current hrc hunder =>
      exact .undoable ready synced current hrc (hunder.recycled pages)
  | broken hrc heState herrCode hsurvives => exact .broken hrc heState herrCode hsurvives

/-- The cache finds room for a page: a dirty page is spilled if need be, and clean ones leave. -/
theorem pcacheFetch_spilled (s : Surroundings env view calls o) {synced : List (List Nat)}
    {current : List Nat} {p : Writer} {w : World σ}
    (h : Underway o zFilename zJournal f content true synced current p (view w.os)) :
    ∃ ret, pcacheFetch env calls p w = .ok ret ∧
      Spilled view o zFilename zJournal f content p ret := by
  obtain ⟨ret, hret, hcourse, hkeeps⟩ := pcacheSpill_spilled s h
  rw [pcacheFetch, hret, ok_bind]
  by_cases hrc : ret.rc ≠ .ok
  · rw [if_pos hrc]
    exact ⟨ret, rfl, hcourse, hkeeps⟩
  · rw [if_neg hrc]
    exact ⟨_, rfl, hcourse.recycled _,
      fun hioerr => (hkeeps hioerr).trans (pcacheRecycle_keepsUse _ _)⟩

/-! ## Taking a page into use -/

/-- The page list and the references of a writer, once a call has ended. -/
structure UseEnds (p p' : Writer) (refs : List Nat) : Prop where
  begun : p.eState ≠ .reader → p'.eState ≠ .reader
  refs : p'.refs = refs
  writable : ∀ k ∈ p.refs, Writable p k → Writable p' k

theorem KeepsUse.useEnds {p p' p'' : Writer} {refs : List Nat} (h : KeepsUse p p')
    (h' : UseEnds p' p'' refs) : UseEnds p p'' refs :=
  ⟨fun hbegun => h'.begun (h.begun hbegun), h'.refs,
    fun k hk hwritable => h'.writable k (by rw [h.refs]; exact hk) (h.writable k hk hwritable)⟩

/-- A page is read as it is in the file, with zeros past the end. -/
theorem readDbPage_at (laws : FileLaws env.os view) {pPager : Pager} {w : World σ}
    (hopen : OpenOn (view w.os) pPager.fd f) (hpos : 0 < pPager.pageSize) {k : Nat} (hk : 1 ≤ k)
    (hle : k * pPager.pageSize ≤ 2 ^ 32)
    (walReadFrame : Nat → World σ → ResultCode × List UInt8 × World σ) :
    ∃ dbFileVers w', readDbPage env walReadFrame pPager k 0 w =
        (.ok, paddedBlock 0 pPager.pageSize ((view w.os).data f) k,
          { pPager with dbFileVers := dbFileVers }, w') ∧
      Undisturbed (view w.os) (view w'.os) := by
  have hend : (k - 1) * pPager.pageSize + pPager.pageSize = k * pPager.pageSize := by
    rw [← Nat.succ_mul, Nat.succ_eq_add_one, Nat.sub_add_cancel hk]
  have hoffset : ((k : Int) - 1) * pPager.pageSize = (((k - 1) * pPager.pageSize : Nat) : Int) := by
    rw [show (k : Int) - 1 = ((k - 1 : Nat) : Int) from by omega]
    push_cast
    rfl
  obtain ⟨w', hread, hsame⟩ := sqlite3OsRead_at laws hopen hpos hoffset (by omega)
  have hok : ∀ rc : ResultCode, rc = .ok ∨ rc = .ioerrShortRead →
      (if rc = .ioerrShortRead then .ok else rc) = ResultCode.ok := by
    intro rc hrc
    rcases hrc with rfl | rfl <;> rfl
  have hrc := hok (if (k - 1) * pPager.pageSize + pPager.pageSize ≤ ((view w.os).data f).length
    then .ok else .ioerrShortRead) (by split_ifs <;> simp)
  refine ⟨if k = 1 then window (paddedBlock 0 pPager.pageSize ((view w.os).data f) k) 24 16
    else pPager.dbFileVers, w', ?_, hsame⟩
  simp only [readDbPage, ne_eq, not_true_eq_false, if_false, hread, hrc, paddedBlock]
  split_ifs <;> rfl

/-- The page that `sqlite3PagerAcquire` fills in has the data of the file, unless its number is
out of range. -/
theorem acquireNew_ends (laws : FileLaws env.os view) {p : Writer} {w : World σ}
    (hopen : OpenOn (view w.os) p.fd f) (hisOpen : IsOpen p.fd) (hpage : p.pageSize = o.pageSize)
    (hlength : ((view w.os).data f).length ≤ p.dbSize * o.pageSize) {k : Nat} (hk : 1 ≤ k)
    (hle : k * o.pageSize ≤ 2 ^ 32) :
    ∃ rc p' w', acquireNew env p k w = (rc, p', w') ∧ Undisturbed (view w.os) (view w'.os) ∧
      (rc = .ok ∧ k ≠ o.mjPgno ∧ (∃ dbFileVers,
          p' = Writer.setData { p with dbFileVers := dbFileVers } k
            (paddedBlock 0 o.pageSize ((view w.os).data f) k)) ∨
        (rc = .corrupt ∨ rc = .full) ∧ p' = p) := by
  have hmj : p.mjPgno = o.mjPgno := by rw [Pager.mjPgno, Original.mjPgno, hpage]
  have hpos := o.le_pageSize
  unfold acquireNew
  by_cases hrange : k > pagerMaxPgno ∨ k = p.mjPgno
  · rw [if_pos hrange]
    exact ⟨_, _, _, rfl, .refl _, Or.inr ⟨Or.inl rfl, rfl⟩⟩
  rw [if_neg hrange]
  have hne : k ≠ o.mjPgno := fun heq => hrange (Or.inr (heq.trans hmj.symm))
  by_cases hnew : p.dbSize < k ∨ ¬ IsOpen p.fd
  · have hlt : p.dbSize < k := hnew.resolve_right (not_not.mpr hisOpen)
    rw [if_pos hnew]
    by_cases hfull : k > p.mxPgno
    · rw [if_pos hfull]
      exact ⟨_, _, _, rfl, .refl _, Or.inr ⟨Or.inr rfl, rfl⟩⟩
    rw [if_neg hfull]
    refine ⟨_, _, _, rfl, .refl _, Or.inl ⟨rfl, hne, p.dbFileVers, ?_⟩⟩
    have hbehind : p.dbSize * o.pageSize ≤ (k - 1) * o.pageSize :=
      Nat.mul_le_mul_right o.pageSize (by omega)
    have hzero : List.replicate p.pageSize 0 =
        paddedBlock 0 o.pageSize ((view w.os).data f) k := by
      rw [hpage, paddedBlock, ByteStore.padded_of_length_le (hlength.trans hbehind)]
    exact congrArg (p.setData k) hzero
  · rw [if_neg hnew]
    obtain ⟨dbFileVers, w', hread, hsame⟩ := readDbPage_at laws hopen
      (show 0 < p.pageSize by omega) hk (by rw [hpage]; exact hle) (fun _ w => (.ok, [], w))
    rw [hread]
    refine ⟨_, _, _, rfl, hsame, Or.inl ⟨rfl, hne, dbFileVers, ?_⟩⟩
    exact congrArg (fun size => Writer.setData { p with dbFileVers := dbFileVers } k
      (paddedBlock 0 size ((view w.os).data f) k)) hpage

section Acquire

variable {synced : List (List Nat)} {current : List Nat} {p : Writer} {d d' : Disk} {k : Nat}

/-- A page that is not in the cache is not dirty. -/
theorem Underway.not_dirty (h : Underway o zFilename zJournal f content true synced current p d)
    (hnone : p.pPCache.page k = none) : k ∉ p.pDirty := by
  intro hk
  have hcached := (h.cache.dirty rfl k hk).1
  rw [hnone] at hcached
  cases hcached

/-- The file has no more pages than the database. -/
theorem Underway.length_le (h : Underway o zFilename zJournal f content true synced current p d) :
    (d.data f).length ≤ p.dbSize * o.pageSize := by
  have hwhole := h.whole
  cases h.stage with
  | idle _ _ _ hdbSize => rw [hwhole rfl, o.length_eq, hdbSize]
  | writing _ _ _ _ _ _ _ _ _ _ hlength hgrown =>
      rw [hlength]
      exact Nat.mul_le_mul_right o.pageSize hgrown

/-- The file's page is the original's, if the journal does not hold it. -/
theorem Underway.paddedBlock_eq
    (h : Underway o zFilename zJournal f content true synced current p d) (hk : 1 ≤ k)
    (hle : k ≤ o.nPage) (hnot : k ∉ synced.flatten) :
    paddedBlock 0 o.pageSize (d.data f) k = o.page k := by
  rw [paddedBlock_of_le 0 hk hle h.restored.length_le]
  exact h.restored.block_eq k hk hle hnot

/-- The page that was filled in, in use. -/
def Writer.filled (p : Writer) (k : Nat) (dbFileVers pData : List UInt8) : Writer :=
  Writer.setData { pcacheFetchFinishWithInit p k with dbFileVers := dbFileVers } k pData

/-- A page that is new to the cache has the data that a reader is to see. -/
theorem Underway.filled (h : Underway o zFilename zJournal f content true synced current p d)
    (hsame : Undisturbed d d') (hnone : p.pPCache.page k = none) (hk : 1 ≤ k) (hne : k ≠ o.mjPgno)
    (hle : k * o.pageSize ≤ 2 ^ 32) (dbFileVers : List UInt8) :
    Underway o zFilename zJournal f content true synced current
      (p.filled k dbFileVers (paddedBlock 0 o.pageSize (d.data f) k)) d' := by
  have hdirty := h.not_dirty hnone
  have hcache := h.cache
  have htransparent := h.transparent rfl
  let p' := p.filled k dbFileVers (paddedBlock 0 o.pageSize (d.data f) k)
  have hself : p'.pPCache.page k = some (paddedBlock 0 o.pageSize (d.data f) k) :=
    Function.update_self ..
  have hother : ∀ l, l ≠ k → p'.pPCache.page l = p.pPCache.page l :=
    fun l hl => Function.update_of_ne hl ..
  have hsome : ∀ l, (p.pPCache.page l).isSome → (p'.pPCache.page l).isSome := by
    intro l hl
    by_cases hlk : l = k
    · rw [hlk, hself]
      rfl
    · rw [hother l hlk]
      exact hl
  have hflag : ∀ (flags : Nat → Bool) l, l ∈ p.pDirty → Function.update flags k false l = flags l :=
    fun flags l hl => Function.update_of_ne (fun heq : l = k => hdirty (heq ▸ hl)) ..
  refine h.alike rfl hsame (fun hnil => hnil) ⟨?_, ?_, ?_, ?_, ?_, ?_⟩ fun _ => ⟨?_, ?_, ?_⟩
  · intro l pData hl
    by_cases hlk : l = k
    · subst hlk
      cases hself.symm.trans hl
      exact ⟨length_paddedBlock 0 _ _ _, hk, hne, hle⟩
    · exact hcache.page l pData ((hother l hlk).symm.trans hl)
  · intro l pData hl hold hnot
    by_cases hlk : l = k
    · subst hlk
      cases hself.symm.trans hl
      exact h.paddedBlock_eq hk hold fun hmem => hnot (List.mem_append_left _ hmem)
    · exact hcache.original l pData ((hother l hlk).symm.trans hl) hold hnot
  · intro l pData hl hbehind
    by_cases hlk : l = k
    · subst hlk
      cases hself.symm.trans hl
      have hmul : p.dbSize * o.pageSize ≤ (l - 1) * o.pageSize :=
        Nat.mul_le_mul_right o.pageSize (Nat.le_sub_one_of_lt hbehind)
      rw [paddedBlock, ByteStore.padded_of_length_le (h.length_le.trans hmul)]
    · exact hcache.behind l pData ((hother l hlk).symm.trans hl) hbehind
  · intro _ l hl
    exact ⟨hsome l (hcache.dirty rfl l hl).1, (hcache.dirty rfl l hl).2⟩
  · intro _ l hl
    obtain ⟨hmem, hneed⟩ := hcache.unsynced rfl l hl
    exact ⟨hmem, (hflag p.needSync l hmem).trans hneed⟩
  · intro l hl
    rcases List.mem_cons.mp hl with rfl | hl
    · show (p'.pPCache.page l).isSome = true
      rw [hself]
      rfl
    · exact hsome l (hcache.inUse l hl)
  · intro l pData hl hcontent
    by_cases hlk : l = k
    · subst hlk
      have himage := htransparent.image l pData hl hcontent
      rw [Writer.image, hnone, Option.getD_none] at himage
      rw [Writer.image_of_cached hself]
      exact himage
    · have heq : p'.image o.pageSize (d.data f) l = p.image o.pageSize (d.data f) l := by
        rw [Writer.image, hother l hlk, Writer.image]
      rw [heq]
      exact htransparent.image l pData hl hcontent
  · intro l pData hl hclean hcontent
    by_cases hlk : l = k
    · subst hlk
      exact (Option.some.inj (hself.symm.trans hl)).symm
    · exact htransparent.clean l pData ((hother l hlk).symm.trans hl) hclean hcontent
  · intro l hl hgiven
    exact htransparent.given l hl ((hflag p.dontWrite l hl).symm.trans hgiven)

theorem Writer.filled_useEnds (hdirty : k ∉ p.pDirty) (dbFileVers pData : List UInt8) :
    UseEnds p (p.filled k dbFileVers pData) (k :: p.refs) := by
  refine ⟨fun hbegun => hbegun, rfl, fun l _ hwritable => ⟨hwritable.1, ?_⟩⟩
  have hlk : l ≠ k := fun heq => hdirty (heq ▸ hwritable.1)
  have hflag : Function.update p.dontWrite k false l = p.dontWrite l :=
    Function.update_of_ne hlk ..
  exact hflag.trans hwritable.2

/-- A page that could not be filled in is dropped. -/
theorem Underway.dropped (h : Underway o zFilename zJournal f content true synced current p d)
    (hsame : Undisturbed d d') (hnone : p.pPCache.page k = none) :
    Underway o zFilename zJournal f content true synced current
        (sqlite3PcacheDrop (pcacheFetchFinishWithInit p k) k) d' ∧
      UseEnds p (sqlite3PcacheDrop (pcacheFetchFinishWithInit p k) k) p.refs := by
  have hdirty := h.not_dirty hnone
  have hlist : p.pDirty.erase k = p.pDirty := List.erase_of_not_mem hdirty
  have hpage : Function.update p.pPCache.page k none = p.pPCache.page := by
    rw [← hnone, Function.update_eq_self]
  have hrefs : (k :: p.refs).erase k = p.refs := List.erase_cons_head ..
  have hflag : ∀ (flags : Nat → Bool) l, l ∈ p.pDirty →
      Function.update (Function.update flags k false) k false l = flags l := by
    intro flags l hl
    rw [Function.update_idem]
    exact Function.update_of_ne (fun heq : l = k => hdirty (heq ▸ hl)) ..
  refine ⟨h.samePages rfl hsame hpage ?_ ?_ ?_ ?_, fun hbegun => hbegun, hrefs, ?_⟩
  · intro l
    show l ∈ p.pDirty.erase k ↔ _
    rw [hlist]
  · intro l hl hneed
    exact (hflag p.needSync l hl).trans hneed
  · intro l hl hgiven
    exact (hflag p.dontWrite l hl).symm.trans hgiven
  · intro l hl
    exact h.cache.inUse l (by rw [← hrefs]; exact hl)
  · intro l _ hwritable
    exact ⟨by show l ∈ p.pDirty.erase k; rw [hlist]; exact hwritable.1,
      (hflag p.dontWrite l hwritable.1).trans hwritable.2⟩

end Acquire

/-- How `sqlite3PagerGet` ends: the page is in use once more, or the references are as before. -/
structure Got (view : σ → Disk) (o : Original) (zFilename zJournal : CString) (f : Nat)
    (content : Nat → Option (List UInt8)) (p : Writer) (k : Nat) (ret : WriterRet σ) : Prop where
  course : Course o zFilename zJournal f content ret.rc ret.writer (view ret.world.os)
  taken : ret.rc = .ok → UseEnds p ret.writer (k :: p.refs)
  refused : ret.rc ≠ .ok → ¬ ret.rc.IsIoerr → UseEnds p ret.writer p.refs

/-- A page of the cache is referenced. -/
theorem Underway.referenced {ready : Bool} {synced : List (List Nat)} {current : List Nat}
    {p : Writer} {d : Disk} (h : Underway o zFilename zJournal f content ready synced current p d)
    {k : Nat} (hcached : (p.pPCache.page k).isSome) :
    Underway o zFilename zJournal f content ready synced current (sqlite3PcacheRef p k) d := by
  refine h.samePages rfl (.refl d) rfl (fun _ => Iff.rfl) (fun _ _ hflag => hflag)
    (fun _ _ hflag => hflag) ?_
  intro l hl
  rcases List.mem_cons.mp hl with rfl | hl
  · exact hcached
  · exact h.cache.inUse l hl

theorem sqlite3PagerGet_got (s : Surroundings env view calls o) {synced : List (List Nat)}
    {current : List Nat} {p : Writer} {w : World σ}
    (h : Underway o zFilename zJournal f content true synced current p (view w.os)) {k : Nat}
    (hle : k * o.pageSize ≤ 2 ^ 32) :
    ∃ ret, sqlite3PagerGet env calls p k w = .ok ret ∧
      Got view o zFilename zJournal f content p k ret := by
  have hok := ok_not_ioerr
  by_cases hzero : k = 0
  · refine ⟨⟨.corrupt, p, w⟩, if_pos hzero, ?_⟩
    exact ⟨.goesOn _ _ (show ¬ ResultCode.corrupt.IsIoerr from by decide) h,
      fun hrc => (by cases hrc), fun _ _ => ⟨fun hbegun => hbegun, rfl,
        fun _ _ hwritable => hwritable⟩⟩
  let used : Writer := { p with hasBeenUsed := true }
  have hunder : Underway o zFilename zJournal f content true synced current used (view w.os) :=
    h.samePages rfl (.refl _) rfl (fun _ => Iff.rfl) (fun _ _ hflag => hflag)
      (fun _ _ hflag => hflag) h.cache.inUse
  have hget : sqlite3PagerGet env calls p k w = if used.errCode ≠ .ok then
        .ok ⟨used.errCode, used, w⟩
      else if (used.pPCache.page k).isSome then .ok ⟨.ok, sqlite3PcacheRef used k, w⟩
      else do
        let fetched ← pcacheFetch env calls used w
        if fetched.rc ≠ .ok then return fetched
        else
          let acquired := acquireNew env (pcacheFetchFinishWithInit fetched.writer k) k
            fetched.world
          if acquired.1 ≠ .ok then
            return ⟨acquired.1, sqlite3PcacheDrop acquired.2.1 k, acquired.2.2⟩
          else return ⟨.ok, acquired.2.1, acquired.2.2⟩ := by
    rw [sqlite3PagerGet, if_neg hzero]
    rfl
  rw [hget, if_neg (by rw [hunder.errCode]; exact fun hnot => hnot rfl)]
  by_cases hcached : (used.pPCache.page k).isSome
  · rw [if_pos hcached]
    exact ⟨_, rfl, .goesOn _ _ hok (hunder.referenced hcached),
      fun _ => ⟨fun hbegun => hbegun, rfl, fun _ _ hwritable => hwritable⟩,
      fun hrc => absurd rfl hrc⟩
  rw [if_neg hcached]
  obtain ⟨⟨rc, q, w₁⟩, hret, hcourse, hkeeps⟩ := pcacheFetch_spilled s hunder
  rw [hret, ok_bind]
  dsimp only at hcourse hkeeps ⊢
  by_cases hrc : rc = .ok
  swap
  · rw [if_pos hrc]
    exact ⟨_, rfl, hcourse, fun heq => absurd heq hrc, fun _ hioerr =>
      ⟨(hkeeps hioerr).begun, (hkeeps hioerr).refs, (hkeeps hioerr).writable⟩⟩
  subst hrc
  rw [if_neg (fun hnot => hnot rfl)]
  obtain ⟨synced', current', hfetched⟩ := hcourse.underway hok
  have hkept := hkeeps hok
  have hnone : q.pPCache.page k = none := by
    exact Option.not_isSome_iff_eq_none.mp fun hstill => hcached (hkept.cached k hstill)
  obtain ⟨rc, q', w₂, hacquire, hsame, hends⟩ := acquireNew_ends (o := o)
    (p := pcacheFetchFinishWithInit q k) s.laws.file hfetched.db.openOn hfetched.settled.isOpen
    hfetched.settled.pageSize hfetched.length_le (Nat.pos_of_ne_zero hzero) hle
  rw [hacquire]
  dsimp only
  rcases hends with ⟨rfl, hne, dbFileVers, rfl⟩ | ⟨hrc, rfl⟩
  · rw [if_neg (fun hnot => hnot rfl)]
    have hfilled := hfetched.filled hsame hnone (Nat.pos_of_ne_zero hzero) hne hle dbFileVers
    refine ⟨_, rfl, .goesOn _ _ hok hfilled, fun _ => ?_, fun hrc => absurd rfl hrc⟩
    have hends := hkept.useEnds
      (q.filled_useEnds (hfetched.not_dirty hnone) dbFileVers
        (paddedBlock 0 o.pageSize ((view w₁.os).data f) k))
    rw [hkept.refs] at hends
    exact ⟨hends.begun, hends.refs, hends.writable⟩
  · have hioerr : ¬ rc.IsIoerr := by rcases hrc with rfl | rfl <;> decide
    have hnotOk : rc ≠ .ok := by rcases hrc with rfl | rfl <;> decide
    rw [if_pos hnotOk]
    obtain ⟨hdropped, huse⟩ := hfetched.dropped hsame hnone
    refine ⟨_, rfl, .goesOn _ _ hioerr hdropped, fun heq => absurd heq hnotOk, fun _ _ => ?_⟩
    have hends := hkept.useEnds huse
    rw [hkept.refs] at hends
    exact ⟨hends.begun, hends.refs, hends.writable⟩

/-! ## Giving a page back -/

/-- Giving a reference back may move a dirty page to the head of the list, or unpin page 1. -/
theorem sqlite3PcacheRelease_eq (p : Writer) (k : Nat) : ∃ nRefSum page1Ref pDirty,
    sqlite3PcacheRelease p k = { p with
      refs := p.refs.erase k
      pDirty := pDirty
      pPCache := { p.pPCache with nRefSum := nRefSum, page1Ref := page1Ref } } ∧
      ∀ l, l ∈ pDirty ↔ l ∈ p.pDirty := by
  simp only [sqlite3PcacheRelease]
  by_cases hused : k ∈ p.refs.erase k
  · rw [if_pos hused]
    exact ⟨_, _, _, rfl, fun _ => Iff.rfl⟩
  rw [if_neg hused]
  by_cases hk : k ∈ p.pDirty
  · rw [if_pos hk]
    refine ⟨_, _, _, rfl, fun l => ?_⟩
    by_cases hlk : l = k
    · rw [hlk]
      exact iff_of_true List.mem_cons_self hk
    · rw [List.mem_cons, List.mem_erase_of_ne hlk]
      exact or_iff_right hlk
  · rw [if_neg hk, pcacheUnpin]
    split_ifs
    · exact ⟨_, _, _, rfl, fun _ => Iff.rfl⟩
    · exact ⟨_, _, _, rfl, fun _ => Iff.rfl⟩

section Release

variable {ready : Bool} {synced : List (List Nat)} {current : List Nat} {p : Writer} {d : Disk}

theorem Underway.released
    (h : Underway o zFilename zJournal f content ready synced current p d) (k : Nat) :
    Underway o zFilename zJournal f content ready synced current (sqlite3PcacheRelease p k) d := by
  obtain ⟨nRefSum, page1Ref, pDirty, hrelease, hdirty⟩ := sqlite3PcacheRelease_eq p k
  rw [hrelease]
  exact h.samePages rfl (.refl d) rfl hdirty (fun _ _ hflag => hflag) (fun _ _ hflag => hflag)
    fun l hl => h.cache.inUse l (List.mem_of_mem_erase hl)

theorem sqlite3PcacheRelease_useEnds (p : Writer) (k : Nat) :
    UseEnds p (sqlite3PcacheRelease p k) (p.refs.erase k) := by
  obtain ⟨nRefSum, page1Ref, pDirty, hrelease, hdirty⟩ := sqlite3PcacheRelease_eq p k
  rw [hrelease]
  exact ⟨fun hbegun => hbegun, rfl,
    fun l _ hwritable => ⟨(hdirty l).mpr hwritable.1, hwritable.2⟩⟩

/-- Giving a page back changes nothing about how a call has ended. -/
theorem Course.released {rc : ResultCode} (h : Course o zFilename zJournal f content rc p d)
    (k : Nat) : Course o zFilename zJournal f content rc (sqlite3PcacheRelease p k) d := by
  cases h with
  | goesOn synced current hrc hunder => exact .goesOn synced current hrc (hunder.released k)
  | undoable ready synced current hrc hunder =>
      exact .undoable ready synced current hrc (hunder.released k)
  | broken hrc heState herrCode hsurvives =>
      obtain ⟨nRefSum, page1Ref, pDirty, hrelease, -⟩ := sqlite3PcacheRelease_eq p k
      rw [hrelease]
      exact .broken hrc heState herrCode hsurvives

end Release

end VxSqlite
