import VxSqlite.Pager.Spill

/-!
# Writing pages to the database file

The loop of `pager_write_pagelist` and the spilling of a dirty page. A page is overwritten in the
file only if the original has no such page or a counted segment of the journal holds it, so a
write that fails leaves a database that can be restored; and if all writes succeed, the file has
the pages as the cache does.
-/

namespace VxSqlite

variable {σ : Type} {env : Env σ} {view : σ → Disk} {calls : WriterCallbacks σ} {o : Original}
  {zFilename zJournal : CString} {f : Nat} {content content' : Nat → Option (List UInt8)}

/-! ## Pages of the cache -/

@[simp] theorem Writer.setData_page_self (p : Writer) (k : Nat) (pData : List UInt8) :
    (p.setData k pData).pPCache.page k = some pData := Function.update_self ..

theorem Writer.setData_page_ne (p : Writer) {k l : Nat} (hne : l ≠ k) (pData : List UInt8) :
    (p.setData k pData).pPCache.page l = p.pPCache.page l := Function.update_of_ne hne ..

theorem Writer.image_of_cached {p : Writer} {k : Nat} {pData : List UInt8}
    (h : p.pPCache.page k = some pData) (pageSize : Nat) (file : List UInt8) :
    p.image pageSize file k = pData := by
  rw [Writer.image, h]
  rfl

/-- New data for a dirty page. -/
theorem CacheHolds.setData {synced current : List Nat} {p : Writer} {k : Nat}
    (h : CacheHolds o true synced current p) (hk : k ∈ p.pDirty) {pData : List UInt8}
    (hlength : pData.length = o.pageSize) :
    CacheHolds o true synced current (p.setData k pData) := by
  obtain ⟨hcached, hsize, hjournalled⟩ := h.dirty rfl k hk
  obtain ⟨old, hold⟩ := Option.isSome_iff_exists.mp hcached
  have hsome : ∀ l, (p.pPCache.page l).isSome → ((p.setData k pData).pPCache.page l).isSome := by
    intro l hl
    by_cases hlk : l = k
    · rw [hlk, p.setData_page_self]
      rfl
    · rw [p.setData_page_ne hlk]
      exact hl
  refine ⟨?_, ?_, ?_, ?_, h.unsynced, fun l hl => hsome l (h.inUse l hl)⟩
  · intro l data hl
    by_cases hlk : l = k
    · subst hlk
      rw [p.setData_page_self] at hl
      cases hl
      exact ⟨hlength, (h.page l old hold).2⟩
    · rw [p.setData_page_ne hlk] at hl
      exact h.page l data hl
  · intro l data hl hle hnot
    by_cases hlk : l = k
    · subst hlk
      exact absurd (hjournalled hle) hnot
    · rw [p.setData_page_ne hlk] at hl
      exact h.original l data hl hle hnot
  · intro l data hl hlt
    have hlk : l ≠ k := fun heq => absurd hsize (Nat.not_le.mpr (heq ▸ hlt))
    rw [p.setData_page_ne hlk] at hl
    exact h.behind l data hl hlt
  · intro _ l hl
    exact ⟨hsome l (h.dirty rfl l hl).1, (h.dirty rfl l hl).2⟩

/-- New data for a page that is pending. -/
theorem Transparent.setData {pageSize : Nat} {file : List UInt8} {pending : Nat → Prop} {p : Writer}
    (h : Transparent pageSize file content pending p) {k : Nat} {pData : List UInt8}
    (hpending : pending k) (hothers : ∀ l, l ≠ k → content' l = content l)
    (hdata : ∀ data, content' k = some data → unstamped k pData = unstamped k data)
    (hgiven : k ∈ p.pDirty → p.dontWrite k = true → content' k = none) :
    Transparent pageSize file content' pending (p.setData k pData) := by
  refine ⟨?_, ?_, ?_⟩
  · intro l data hl hcontent
    by_cases hlk : l = k
    · subst hlk
      rw [Writer.image_of_cached (p.setData_page_self l pData)]
      exact hdata data hcontent
    · rw [hothers l hlk] at hcontent
      rw [Writer.image, p.setData_page_ne hlk]
      exact h.image l data hl hcontent
  · intro l data hl hnot hcontent
    have hlk : l ≠ k := fun heq => hnot (heq ▸ hpending)
    rw [p.setData_page_ne hlk] at hl
    exact h.clean l data hl hnot (by rw [← hothers l hlk]; exact hcontent)
  · intro l hl hflag
    by_cases hlk : l = k
    · subst hlk
      exact hgiven hl hflag
    · rw [hothers l hlk]
      exact h.given l hl hflag

/-! ## One page -/

/-- The writers differ at most in the fields that the writing of pages moves, and the cache holds
the same pages. -/
structure Flushes (p p' : Writer) : Prop where
  frame : p' = { p with
    pPCache := p'.pPCache
    dbFileVers := p'.dbFileVers
    dbFileSize := p'.dbFileSize
    dbHintSize := p'.dbHintSize }
  cached : ∀ k, (p'.pPCache.page k).isSome = (p.pPCache.page k).isSome

theorem Flushes.refl (p : Writer) : Flushes p p := ⟨rfl, fun _ => rfl⟩

theorem Flushes.trans {p p' p'' : Writer} (h : Flushes p p') (h' : Flushes p' p'') :
    Flushes p p'' := by
  obtain ⟨hframe, hcached⟩ := h
  obtain ⟨hframe', hcached'⟩ := h'
  refine ⟨?_, fun k => (hcached' k).trans (hcached k)⟩
  rw [hframe] at hframe'
  exact hframe'

/-- Storing the change counter on page 1. -/
theorem pagerWriteChangecounter_flushes {p : Writer} (h : (p.pPCache.page 1).isSome) :
    Flushes p (pagerWriteChangecounter p) := by
  refine ⟨rfl, fun k => ?_⟩
  rw [pagerWriteChangecounter]
  by_cases hk : k = 1
  · rw [hk, Writer.setData_page_self, h]
    rfl
  · rw [Writer.setData_page_ne _ hk]

/-- Where the writing of dirty pages stands: the file has every page but the pending ones as the
cache does. -/
structure WritesPages (o : Original) (f : Nat) (content : Nat → Option (List UInt8))
    (synced current : List Nat) (pending : Nat → Prop) (p : Writer) (d : Disk) : Prop where
  openOn : OpenOn d p.fd f
  pageSize : p.pageSize = o.pageSize
  restored : RestoredBut o.pageSize o.content o.nPage (fun k => k ∈ synced) (d.data f)
  length_eq : (d.data f).length = p.dbFileSize * o.pageSize
  grown : p.dbFileSize ≤ p.dbSize
  cache : CacheHolds o true synced current p
  transparent : Transparent o.pageSize (d.data f) content pending p

/-- What a write that fails leaves. -/
structure WriteFailed (o : Original) (f : Nat) (synced current : List Nat) (p : Writer)
    (d : Disk) : Prop where
  restored : RestoredBut o.pageSize o.content o.nPage (fun k => k ∈ synced) (d.data f)
  grown : p.dbFileSize ≤ p.dbSize
  cache : CacheHolds o false synced current p

variable {synced current : List Nat} {pending : Nat → Prop} {p : Writer} {d : Disk}

theorem WritesPages.mono {more : Nat → Prop}
    (h : WritesPages o f content synced current pending p d) (himp : ∀ k, pending k → more k) :
    WritesPages o f content synced current more p d :=
  ⟨h.openOn, h.pageSize, h.restored, h.length_eq, h.grown, h.cache, h.transparent.image,
    fun k pData hcached hnot => h.transparent.clean k pData hcached fun hk => hnot (himp k hk),
    h.transparent.given⟩

/-- A page that its owner has given up need not be written. -/
theorem WritesPages.skip (h : WritesPages o f content synced current pending p d) {k : Nat}
    (hk : k ∈ p.pDirty) (hgiven : p.dontWrite k = true) :
    WritesPages o f content synced current (fun l => pending l ∧ l ≠ k) p d := by
  refine ⟨h.openOn, h.pageSize, h.restored, h.length_eq, h.grown, h.cache, h.transparent.image, ?_,
    h.transparent.given⟩
  intro l pData hcached hnot hcontent
  by_cases hlk : l = k
  · subst hlk
    exact absurd (h.transparent.given l hk hgiven) hcontent
  · exact h.transparent.clean l pData hcached (fun hpending => hnot ⟨hpending, hlk⟩) hcontent

/-- The change counter may be stored in page 1. -/
theorem pagerWriteChangecounter_holds {file : List UInt8}
    (hcache : CacheHolds o true synced current p)
    (htransparent : Transparent o.pageSize file content pending p) (hdirty : 1 ∈ p.pDirty)
    (hpending : pending 1) :
    CacheHolds o true synced current (pagerWriteChangecounter p) ∧
      Transparent o.pageSize file content pending (pagerWriteChangecounter p) := by
  obtain ⟨pData, hcached⟩ := Option.isSome_iff_exists.mp (hcache.dirty rfl 1 hdirty).1
  have hlength := (hcache.page 1 pData hcached).1
  have hpage := o.le_pageSize
  have hpData : p.pData 1 = pData := by rw [Writer.pData, hcached, Option.getD_some]
  rw [pagerWriteChangecounter, hpData]
  refine ⟨hcache.setData hdirty ?_,
    htransparent.setData hpending (fun _ _ => rfl) ?_ (htransparent.given 1)⟩
  · rw [length_changecounterData _ (by omega), hlength]
  · intro data hcontent
    have himage := htransparent.image 1 data (le_refl 1) hcontent
    rw [Writer.image_of_cached hcached] at himage
    rw [unstamped_changecounterData _ (by omega), himage]

/-- Before page 1 is written, the change counter is stored in it. -/
theorem WritesPages.stamped (h : WritesPages o f content synced current pending p d)
    (hdirty : 1 ∈ p.pDirty) (hpending : pending 1) :
    WritesPages o f content synced current pending (pagerWriteChangecounter p) d := by
  obtain ⟨hcache, htransparent⟩ :=
    pagerWriteChangecounter_holds h.cache h.transparent hdirty hpending
  exact ⟨h.openOn, h.pageSize, h.restored, h.length_eq, h.grown, hcache, htransparent⟩

/-- Writing a dirty page that is not behind the last counted segment. -/
theorem WritesPages.write (s : Surroundings env view calls o) {w : World σ}
    (h : WritesPages o f content synced current pending p (view w.os)) {k : Nat}
    (hk : k ∈ p.pDirty) (hnot : k ∉ current) {pData : List UInt8}
    (hcached : p.pPCache.page k = some pData) (dbFileVers : List UInt8) :
    ∃ rc w', verixWrite env p.fd pData (((k : Int) - 1) * p.pageSize) w = .ok (rc, w') ∧
      Touches f (view w.os) (view w'.os) ∧
      (rc = .ok ∧ WritesPages o f content synced current (fun l => pending l ∧ l ≠ k)
          { p with dbFileVers := dbFileVers, dbFileSize := max p.dbFileSize k } (view w'.os) ∨
        rc = .ioerrWrite ∧ WriteFailed o f synced current
          { p with dbFileVers := dbFileVers, dbFileSize := max p.dbFileSize k } (view w'.os)) := by
  obtain ⟨hlength, hpos, -, hmax⟩ := h.cache.page k pData hcached
  obtain ⟨-, hle, hjournalled⟩ := h.cache.dirty rfl k hk
  have hpage := o.le_pageSize
  have htodo : k ≤ o.nPage → k ∈ synced := by
    intro hold
    exact (List.mem_append.mp (hjournalled hold)).resolve_right hnot
  have hend : (k - 1) * o.pageSize + o.pageSize = k * o.pageSize := by
    rw [← Nat.succ_mul, Nat.succ_eq_add_one, Nat.sub_add_cancel hpos]
  have hoffset : ((k : Int) - 1) * p.pageSize = (((k - 1) * o.pageSize : Nat) : Int) := by
    rw [h.pageSize, show (k : Int) - 1 = ((k - 1 : Nat) : Int) from by omega]
    push_cast
    rfl
  have hne : pData ≠ [] := by
    intro hnil
    rw [hnil, List.length_nil] at hlength
    omega
  obtain ⟨rc, w', hwrite, hends, htouch⟩ := verixWrite_at s.laws.file h.openOn hne hoffset
    (by omega) (by rw [hlength]; exact s.fuel)
  have hgrown : max p.dbFileSize k ≤ p.dbSize := max_le h.grown hle
  have hcache : CacheHolds o true synced current
      { p with dbFileVers := dbFileVers, dbFileSize := max p.dbFileSize k } :=
    h.cache.congr rfl (fun _ => Iff.rfl) rfl (fun _ _ _ hflag => hflag) h.cache.inUse
  refine ⟨rc, w', hwrite, htouch, ?_⟩
  rcases hends with ⟨hrc, hstart, hdata⟩ | ⟨hrc, m, hm, hstart, hdata⟩
  · refine Or.inl ⟨hrc, htouch.openOn _ _ h.openOn, h.pageSize, ?_, ?_, hgrown, hcache, ?_⟩
    · rw [hdata]
      exact h.restored.damage (le_of_eq hlength) hpos hstart htodo
    · rw [hdata, length_overlay _ hstart, hlength, hend, h.length_eq, Nat.mul_max_mul_right]
    · rw [hdata]
      refine ⟨?_, ?_, h.transparent.given⟩
      · intro l data hl hcontent
        rw [← h.transparent.image l data hl hcontent]
        congr 1
        show (p.pPCache.page l).getD _ = (p.pPCache.page l).getD _
        by_cases hlk : l = k
        · rw [hlk, hcached, Option.getD_some, Option.getD_some]
        · rw [paddedBlock_overlay_ne 0 (le_of_eq hlength) hpos hl hlk hstart]
      · intro l data hl hclean hcontent
        by_cases hlk : l = k
        · subst hlk
          cases hcached.symm.trans hl
          exact (paddedBlock_overlay_self 0 hlength hstart).symm
        · have hposl := (h.cache.page l data hl).2.1
          rw [paddedBlock_overlay_ne 0 (le_of_eq hlength) hpos hposl hlk hstart]
          exact h.transparent.clean l data hl (fun hpending => hclean ⟨hpending, hlk⟩) hcontent
  · refine Or.inr ⟨hrc, ?_, hgrown, hcache.undoable⟩
    rw [hdata]
    rcases hstart with hstart | rfl
    · exact h.restored.damage (by rw [List.length_take]; omega) hpos hstart htodo
    · rw [List.take_zero, overlay_nil]
      exact h.restored

/-- One turn of the loop over the pages. -/
theorem writePages_step (s : Surroundings env view calls o) {w : World σ}
    (h : WritesPages o f content synced current pending p (view w.os)) {k : Nat}
    (hk : k ∈ p.pDirty) (hnot : k ∉ current) (hgiven : p.dontWrite k = false) :
    ∃ rc p' w', (∀ pList, writePages env (k :: pList) p w =
        if rc = .ok then writePages env pList p' w' else .ok ⟨rc, p', w'⟩) ∧
      Touches f (view w.os) (view w'.os) ∧ Flushes p p' ∧
      (rc = .ok ∧
          WritesPages o f content synced current (fun l => pending l ∧ l ≠ k) p' (view w'.os) ∨
        rc = .ioerrWrite ∧ WriteFailed o f synced current p' (view w'.os)) := by
  have hcond : k ≤ p.dbSize ∧ p.dontWrite k = false := ⟨(h.cache.dirty rfl k hk).2.1, hgiven⟩
  have hmore := h.mono fun l (hl : pending l) => (Or.inl hl : pending l ∨ l = k)
  obtain ⟨q, hq, hwrites, hflushes, hdirty⟩ : ∃ q,
      (if k = 1 then pagerWriteChangecounter p else p) = q ∧
        WritesPages o f content synced current (fun l => pending l ∨ l = k) q (view w.os) ∧
        Flushes p q ∧ q.pDirty = p.pDirty := by
    by_cases hone : k = 1
    · subst hone
      exact ⟨_, if_pos rfl, hmore.stamped hk (Or.inr rfl),
        pagerWriteChangecounter_flushes (h.cache.dirty rfl 1 hk).1, rfl⟩
    · exact ⟨_, if_neg hone, hmore, .refl p, rfl⟩
  rw [← hdirty] at hk
  obtain ⟨pData, hcached⟩ := Option.isSome_iff_exists.mp (hwrites.cache.dirty rfl k hk).1
  have hpData : q.pData k = pData := by rw [Writer.pData, hcached, Option.getD_some]
  have hpageSize : q.pageSize = p.pageSize := hwrites.pageSize.trans h.pageSize.symm
  obtain ⟨rc, w', hwrite, htouch, hends⟩ := hwrites.write s hk hnot hcached
    (if k = 1 then window pData 24 16 else q.dbFileVers)
  let p' : Writer := { q with
    dbFileVers := if k = 1 then window pData 24 16 else q.dbFileVers
    dbFileSize := max q.dbFileSize k }
  have hp' : ∀ q', q' = (if k = 1 then q.put { q.toPager with dbFileVers := window pData 24 16 }
      else q) → q'.put { q'.toPager with dbFileSize := max q'.dbFileSize k } = p' := by
    intro q' hq'
    subst hq'
    simp only [p']
    split_ifs <;> rfl
  refine ⟨rc, p', w', ?_, htouch, hflushes.trans ⟨rfl, fun _ => rfl⟩,
    hends.imp_left fun hok => ⟨hok.1, ?_⟩⟩
  · intro pList
    rw [hpageSize] at hwrite
    rw [writePages, if_pos hcond]
    dsimp only
    rw [hq, hpData, hwrite, ok_bind, hp' _ rfl]
    rfl
  · exact hok.2.mono fun l hl => ⟨hl.1.resolve_right hl.2, hl.2⟩

/-- The loop over the pages writes all that are still wanted, or stops at a write that fails. The
induction is on the pages. -/
theorem writePages_ends (s : Surroundings env view calls o) {pList : List Nat} {w : World σ}
    (h : WritesPages o f content synced current pending p (view w.os))
    (hlist : ∀ k ∈ pList, k ∈ p.pDirty ∧ k ∉ current) :
    ∃ ret, writePages env pList p w = .ok ret ∧ Touches f (view w.os) (view ret.world.os) ∧
      Flushes p ret.writer ∧
      (ret.rc = .ok ∧ WritesPages o f content synced current (fun k => pending k ∧ k ∉ pList)
          ret.writer (view ret.world.os) ∨
        ret.rc = .ioerrWrite ∧
          WriteFailed o f synced current ret.writer (view ret.world.os)) := by
  induction pList generalizing pending p w with
  | nil =>
      exact ⟨⟨.ok, p, w⟩, rfl, (Undisturbed.refl _).touches f, .refl p,
        Or.inl ⟨rfl, h.mono fun k hk => ⟨hk, List.not_mem_nil⟩⟩⟩
  | cons k pList ih =>
      obtain ⟨hk, hnot⟩ := hlist k List.mem_cons_self
      have hrest : ∀ l, (pending l ∧ l ≠ k) ∧ l ∉ pList → pending l ∧ l ∉ k :: pList := by
        intro l hl
        rw [List.mem_cons, not_or]
        exact ⟨hl.1.1, hl.1.2, hl.2⟩
      by_cases hgiven : p.dontWrite k = false
      · obtain ⟨rc, p₁, w₁, hstep, htouch, hflushes, hends⟩ := writePages_step s h hk hnot hgiven
        have hdirty : p₁.pDirty = p.pDirty :=
          (congrArg (fun q : Writer => q.pDirty) hflushes.frame).trans rfl
        rw [hstep]
        rcases hends with ⟨rfl, hwrites⟩ | ⟨rfl, hfailed⟩
        · obtain ⟨ret, hret, htouch', hflushes', hends'⟩ := ih hwrites fun l hl => by
            rw [hdirty]
            exact hlist l (List.mem_cons_of_mem _ hl)
          exact ⟨ret, by rw [if_pos rfl]; exact hret, htouch.trans htouch',
            hflushes.trans hflushes', hends'.imp_left fun hok => ⟨hok.1, hok.2.mono hrest⟩⟩
        · exact ⟨_, if_neg (by decide), htouch, hflushes, Or.inr ⟨rfl, hfailed⟩⟩
      · have hskip : ¬ (k ≤ p.dbSize ∧ p.dontWrite k = false) := fun hcond => hgiven hcond.2
        obtain ⟨ret, hret, htouch, hflushes, hends⟩ :=
          ih (h.skip hk (eq_true_of_ne_false hgiven)) fun l hl =>
            hlist l (List.mem_cons_of_mem _ hl)
        exact ⟨ret, by rw [writePages, if_neg hskip]; exact hret, htouch, hflushes,
          hends.imp_left fun hok => ⟨hok.1, hok.2.mono hrest⟩⟩

/-- Before the loop, the system may be told how large the file will be. -/
theorem pagerWritePagelist_ends (s : Surroundings env view calls o) {pList : List Nat} {w : World σ}
    (h : WritesPages o f content synced current pending p (view w.os))
    (hlist : ∀ k ∈ pList, k ∈ p.pDirty ∧ k ∉ current) :
    ∃ ret, pagerWritePagelist env p pList w = .ok ret ∧
      Touches f (view w.os) (view ret.world.os) ∧ Flushes p ret.writer ∧
      (ret.rc = .ok ∧ WritesPages o f content synced current (fun k => pending k ∧ k ∉ pList)
          ret.writer (view ret.world.os) ∨
        ret.rc = .ioerrWrite ∧
          WriteFailed o f synced current ret.writer (view ret.world.os)) := by
  by_cases hhint : p.dbHintSize < p.dbSize ∧ (1 < pList.length ∨ pList.any (· > p.dbHintSize))
  · let q : Writer := { p with dbHintSize := p.dbSize }
    have hview : (verixFileControl env p.fd fcntlSizeHint () w).2.2.os = w.os := rfl
    have hq : WritesPages o f content synced current pending q
        (view (verixFileControl env p.fd fcntlSizeHint () w).2.2.os) := by
      rw [hview]
      exact ⟨h.openOn, h.pageSize, h.restored, h.length_eq, h.grown,
        h.cache.congr rfl (fun _ => Iff.rfl) rfl (fun _ _ _ hflag => hflag) h.cache.inUse,
        h.transparent.image, h.transparent.clean, h.transparent.given⟩
    obtain ⟨ret, hret, htouch, hflushes, hends⟩ := writePages_ends s hq hlist
    rw [hview] at htouch
    refine ⟨ret, ?_, htouch, (show Flushes p q from ⟨rfl, fun _ => rfl⟩).trans hflushes, hends⟩
    simp only [pagerWritePagelist, if_pos hhint]
    exact hret
  · obtain ⟨ret, hret, hends⟩ := writePages_ends s h hlist
    refine ⟨ret, ?_, hends⟩
    simp only [pagerWritePagelist, if_neg hhint]
    exact hret

/-! ## The transaction behind the writes -/

section Underway

variable {ready : Bool} {synced : List (List Nat)} {current : List Nat} {p p' : Writer}
  {d d' : Disk}

/-- What the writing of pages leaves. -/
theorem Flushes.exists (h : Flushes p p') : ∃ pPCache dbFileVers dbFileSize dbHintSize,
    p' = { p with
      pPCache := pPCache
      dbFileVers := dbFileVers
      dbFileSize := dbFileSize
      dbHintSize := dbHintSize } :=
  ⟨_, _, _, _, h.frame⟩

/-- With the journal synced, the dirty pages may be written. -/
theorem Underway.writesPages
    (h : Underway o zFilename zJournal f content ready synced current p d)
    (hcache : CacheHolds o true synced.flatten current p)
    (htransparent : Transparent o.pageSize (d.data f) content (· ∈ p.pDirty) p)
    (hlength : (d.data f).length = p.dbFileSize * o.pageSize) (hgrown : p.dbFileSize ≤ p.dbSize) :
    WritesPages o f content synced.flatten current (· ∈ p.pDirty) p d :=
  ⟨h.db.openOn, h.settled.pageSize, h.restored, hlength, hgrown, hcache, htransparent⟩

/-- After a write that has failed, the transaction can only be undone. -/
theorem Underway.damaged
    (h : Underway o zFilename zJournal f content ready synced current p d) (hne : synced ≠ [])
    (htouch : Touches f d d') (hflushes : Flushes p p')
    (hfailed : WriteFailed o f synced.flatten current p' d') :
    Underway o zFilename zJournal f content false synced current p' d' := by
  have hpage := o.le_pageSize
  have hgrown := hfailed.grown
  have hcache := hfailed.cache
  obtain ⟨_, _, _, _, rfl⟩ := hflushes.exists
  refine {
    settled := h.settled.congr rfl
    db := htouch.namedFile h.db
    errCode := h.errCode
    stage := ?_
    restored := hfailed.restored
    whole := fun hnil => absurd hnil hne
    size_le := h.size_le
    size_ne := h.size_ne
    cache := hcache
    transparent := fun hready => by cases hready }
  cases h.stage with
  | idle => exact absurd rfl hne
  | opening => exact absurd rfl hne
  | writing j last next hfile hholds hwrites hlength =>
      have hdata := htouch.data j (Ne.symm hfile.apart)
      rw [← hdata] at hholds hlength
      exact .torn j last next (hfile.touches htouch rfl rfl) (hholds.pager rfl rfl rfl rfl) hwrites
        (by omega)
  | torn j last next hfile hholds hwrites hlength =>
      have hdata := htouch.data j (Ne.symm hfile.apart)
      rw [← hdata] at hholds hlength
      exact .torn j last next (hfile.touches htouch rfl rfl) (hholds.pager rfl rfl rfl rfl) hwrites
        hlength
  | closed j last hclosed heState =>
      exact .closed j last (hclosed.touches htouch rfl rfl rfl) heState hgrown

/-- Making a dirty page clean. -/
theorem sqlite3PcacheMakeClean_eq {k : Nat} (hk : k ∈ p.pDirty) :
    ∃ page1Ref, sqlite3PcacheMakeClean p k = { p with
      needSync := Function.update p.needSync k false
      pDirty := p.pDirty.erase k
      pPCache := { p.pPCache with page1Ref := page1Ref } } := by
  rw [sqlite3PcacheMakeClean, if_pos hk, pcacheUnpin]
  split_ifs
  · exact ⟨_, rfl⟩
  · exact ⟨_, rfl⟩

/-- A page that is not behind the last counted segment may become clean. -/
theorem CacheHolds.makeClean {synced current : List Nat} {k : Nat}
    (h : CacheHolds o true synced current p) (hk : k ∈ p.pDirty) (hnot : k ∉ current) :
    CacheHolds o true synced current (sqlite3PcacheMakeClean p k) := by
  obtain ⟨page1Ref, hclean⟩ := sqlite3PcacheMakeClean_eq hk
  rw [hclean]
  refine ⟨h.page, h.original, h.behind, fun _ l hl => h.dirty rfl l (List.mem_of_mem_erase hl), ?_,
    h.inUse⟩
  intro _ l hl
  have hlk : l ≠ k := fun heq => hnot (heq ▸ hl)
  obtain ⟨hmem, hflag⟩ := h.unsynced rfl l hl
  exact ⟨(List.mem_erase_of_ne hlk).mpr hmem, (Function.update_of_ne hlk _ _).trans hflag⟩

theorem Transparent.makeClean {pageSize : Nat} {file : List UInt8} {pending : Nat → Prop} {k : Nat}
    (h : Transparent pageSize file content pending p) (hk : k ∈ p.pDirty)
    (himp : ∀ l, pending l → l ∈ p.pDirty.erase k) :
    Transparent pageSize file content (· ∈ (sqlite3PcacheMakeClean p k).pDirty)
      (sqlite3PcacheMakeClean p k) := by
  obtain ⟨page1Ref, hclean⟩ := sqlite3PcacheMakeClean_eq hk
  rw [hclean]
  exact ⟨h.image, fun l pData hcached hnot => h.clean l pData hcached fun hl => hnot (himp l hl),
    fun l hl => h.given l (List.mem_of_mem_erase hl)⟩

/-- A page that was written is clean, and the transaction goes on. -/
theorem Underway.cleaned
    (h : Underway o zFilename zJournal f content true synced current p d) (hne : synced ≠ [])
    (htouch : Touches f d d') (hflushes : Flushes p p') {k : Nat} (hk : k ∈ p.pDirty)
    (hnot : k ∉ current)
    (hwrites : WritesPages o f content synced.flatten current (fun l => l ∈ p.pDirty ∧ l ∉ [k]) p'
      d') :
    Underway o zFilename zJournal f content true synced current (sqlite3PcacheMakeClean p' k)
      d' := by
  have hdirty : p'.pDirty = p.pDirty :=
    (congrArg (fun q : Writer => q.pDirty) hflushes.frame).trans rfl
  have hk' : k ∈ p'.pDirty := by rwa [hdirty]
  have hcache := hwrites.cache.makeClean hk' hnot
  have htransparent : Transparent o.pageSize (d'.data f) content
      (· ∈ (sqlite3PcacheMakeClean p' k).pDirty) (sqlite3PcacheMakeClean p' k) := by
    refine hwrites.transparent.makeClean hk' fun l hl => ?_
    rw [hdirty]
    exact (List.mem_erase_of_ne (by simpa using hl.2)).mpr hl.1
  have hlength := hwrites.length_eq
  have hgrown := hwrites.grown
  obtain ⟨page1Ref, hclean⟩ := sqlite3PcacheMakeClean_eq hk'
  rw [hclean] at hcache htransparent ⊢
  obtain ⟨_, _, _, _, rfl⟩ := hflushes.exists
  refine {
    settled := h.settled.congr rfl
    db := htouch.namedFile h.db
    errCode := h.errCode
    stage := ?_
    restored := hwrites.restored
    whole := fun hnil => absurd hnil hne
    size_le := h.size_le
    size_ne := h.size_ne
    cache := hcache
    transparent := fun _ => htransparent }
  cases h.stage with
  | idle => exact absurd rfl hne
  | writing j last next hfile hholds hstate hnext hbits hiSize horig =>
      have hdata := htouch.data j (Ne.symm hfile.apart)
      rw [← hdata] at hholds hnext
      exact .writing j last next (hfile.touches htouch rfl rfl) (hholds.pager rfl rfl rfl rfl)
        hstate hnext hbits hiSize horig hlength hgrown

end Underway

end VxSqlite
