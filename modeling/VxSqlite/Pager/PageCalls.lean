import VxSqlite.Lib.Run
import VxSqlite.Pager.PageJournal

/-!
# Runs of a client within a write transaction

A client begins a write transaction, takes pages into use and gives them back, makes them
writable, stores data in them and gives up data that it does not want any more, in any order and
any number of times. It keeps some page in use all the time. The pager journals and spills as it
has to, its cache uses the memory of clean pages again, and the system may fail as its laws allow:
in its opens, writes, truncations and removals, not in its reads. In every state of such a run the
disk can be recovered to what it was before the transaction, and a page in use reads as the client
last stored it.
-/

namespace VxSqlite

variable {σ : Type}

/-! ## Clients -/

/-- What a client does. It stores data in a page in use without asking the pager. Between its calls
the cache may use the memory of pages again. -/
inductive PageCall where
  | begin (exFlag : Bool)
  | get (pgno : Nat)
  | release (pgno : Nat)
  | write (pgno : Nat)
  | store (pgno : Nat) (pData : List UInt8)
  | dontWrite (pgno : Nat)
  | recycle (pages : List Nat)

/-- A pager in the hands of a client: the result of the last call and, as ghosts, whether a write
transaction has begun, the pages that the client may store data in, and what it expects to read
in each page, if anything. -/
structure Client (σ : Type) where
  writer : Writer
  world : World σ
  rc : ResultCode
  begun : Bool
  writable : List Nat
  content : Nat → Option (List UInt8)

/-- What the client has after a call. -/
def Client.returned (c : Client σ) (ret : WriterRet σ) : Client σ :=
  { c with writer := ret.writer, world := ret.world, rc := ret.rc }

section Perform

variable (env : Env σ) (calls : WriterCallbacks σ)

/-- Perform a call. -/
def PageCall.perform (c : Client σ) : PageCall → Except Fault (Client σ)
  | .begin exFlag => do
      let ret ← sqlite3PagerBegin env calls c.writer exFlag c.world
      return { c.returned ret with begun := c.begun || ret.rc = .ok }
  | .get pgno => do
      let ret ← sqlite3PagerGet env calls c.writer pgno c.world
      return c.returned ret
  | .release pgno =>
      .ok { c with
        writer := sqlite3PcacheRelease c.writer pgno
        writable := c.writable.filter (· ≠ pgno) }
  | .write pgno => do
      let ret ← sqlite3PagerWrite env calls c.writer pgno c.world
      return { c.returned ret with
        writable := if ret.rc = .ok then pgno :: c.writable else c.writable }
  | .store pgno pData =>
      .ok { c with
        writer := c.writer.setData pgno pData
        content := Function.update c.content pgno (some pData) }
  | .dontWrite pgno =>
      .ok { c with
        writer := sqlite3PagerDontWrite c.writer pgno
        writable := c.writable.filter (· ≠ pgno)
        content := Function.update c.content pgno none }
  | .recycle pages => .ok { c with writer := pcacheRecycle c.writer pages }

/-- A call that does not come to an end stops the run. -/
def PageCall.step (c : Client σ) (call : PageCall) : Option (Client σ) :=
  match call.perform env calls c with
  | .ok c' => some c'
  | .error _ => none

end Perform

/-- What a client may do: after an I/O error it only gives pages back, it never gives the last one
back, it takes pages into use that end within the 4 GiB that the port can address, makes pages
writable that it has in use once the transaction has begun, and stores whole pages in those only. -/
def PageCall.Allowed (pageSize : Nat) (c : Client σ) : PageCall → Prop
  | .begin _ => ¬ c.rc.IsIoerr
  | .get pgno => ¬ c.rc.IsIoerr ∧ pgno * pageSize ≤ 2 ^ 32
  | .release pgno => c.writer.refs.erase pgno ≠ []
  | .write pgno => ¬ c.rc.IsIoerr ∧ c.begun = true ∧ pgno ∈ c.writer.refs
  | .store pgno pData => ¬ c.rc.IsIoerr ∧ pgno ∈ c.writable ∧ pData.length = pageSize
  | .dontWrite _ => ¬ c.rc.IsIoerr
  | .recycle _ => True

instance PageCall.decidableAllowed (pageSize : Nat) (c : Client σ) (call : PageCall) :
    Decidable (call.Allowed pageSize c) :=
  match call with
  | .begin _ => inferInstanceAs (Decidable (¬ _))
  | .get _ => inferInstanceAs (Decidable (_ ∧ _))
  | .release _ => inferInstanceAs (Decidable (_ ≠ _))
  | .write _ => inferInstanceAs (Decidable (_ ∧ _ ∧ _))
  | .store _ _ => inferInstanceAs (Decidable (_ ∧ _ ∧ _))
  | .dontWrite _ => inferInstanceAs (Decidable (¬ _))
  | .recycle _ => inferInstanceAs (Decidable True)

/-- What a client can rely on: whatever happens next, the database can be recovered, and unless an
I/O error was returned the pages in use read as they should. -/
structure Client.Safe (view : σ → Disk) (o : Original) (zFilename zJournal : CString) (f : Nat)
    (c : Client σ) : Prop where
  survives : Survives o zFilename zJournal f (view c.world.os)
  reads : ¬ c.rc.IsIoerr → ∀ k ∈ c.writer.refs, ∀ pData, c.content k = some pData →
    unstamped k (c.writer.pData k) = unstamped k pData

variable {env : Env σ} {view : σ → Disk} {calls : WriterCallbacks σ} {o : Original}
  {zFilename zJournal : CString} {f : Nat}

/-! ## The beginning of a transaction -/

/-- A pager that reads a database without a journal: it is about to begin its first write
transaction, has some page in use and holds no page but as it is in the file. -/
structure ReadsDatabase (o : Original) (zFilename zJournal : CString) (f : Nat) (p : Writer)
    (d : Disk) : Prop where
  settled : Settled o zFilename zJournal p.toPager
  db : NamedFile d p.fd f
  errCode : p.errCode = .ok
  eState : p.eState = .reader
  jfd : ¬ IsOpen p.jfd
  noJournal : d.dir p.zJournal = none
  data : d.data f = o.content
  dbSize : p.dbSize = o.nPage
  nPage_ne : o.nPage ≠ o.mjPgno
  pDirty : p.pDirty = []
  pInJournal : p.pInJournal = .null
  page : ∀ k pData, p.pPCache.page k = some pData → o.Journalled k ∧ pData = o.page k
  inUse : ∀ k ∈ p.refs, (p.pPCache.page k).isSome
  refs_ne : p.refs ≠ []

theorem ReadsDatabase.underway {p : Writer} {d : Disk}
    (h : ReadsDatabase o zFilename zJournal f p d) :
    Underway o zFilename zJournal f o.pages true [] [] p d := by
  have hlt := o.length_lt
  rw [o.length_eq] at hlt
  have hpage : ∀ k, o.Journalled k → paddedBlock 0 o.pageSize o.content k = o.page k :=
    fun k hk => paddedBlock_of_le 0 hk.1 hk.2.1 (le_of_eq o.length_eq.symm)
  exact {
    settled := h.settled
    db := h.db
    errCode := h.errCode
    stage := .idle (Or.inl h.eState) h.jfd h.noJournal h.dbSize h.pDirty h.pInJournal
    restored := by rw [h.data]; exact .start o.length_eq _
    whole := fun _ => h.data
    size_le := by rw [h.dbSize]; omega
    size_ne := by rw [h.dbSize]; exact h.nPage_ne
    cache := by
      refine ⟨?_, ?_, ?_, fun _ k hk => ?_, fun _ _ hk => absurd hk List.not_mem_nil, h.inUse⟩
      · intro k pData hcached
        obtain ⟨hk, rfl⟩ := h.page k pData hcached
        have hmul := Nat.mul_le_mul_right o.pageSize hk.2.1
        exact ⟨o.length_page hk.1 hk.2.1, hk.1, hk.2.2, by omega⟩
      · exact fun k pData hcached _ _ => (h.page k pData hcached).2
      · intro k pData hcached hbehind
        rw [h.dbSize] at hbehind
        exact absurd (h.page k pData hcached).1.2.1 (Nat.not_le.mpr hbehind)
      · rw [h.pDirty] at hk
        cases hk
    transparent := by
      intro _
      rw [h.data]
      refine ⟨?_, ?_, fun k hk => ?_⟩
      · intro k pData _ hcontent
        cases hcontent
        cases hcached : p.pPCache.page k with
        | none => rw [Writer.image, hcached, Option.getD_none]
        | some data =>
            obtain ⟨hk, rfl⟩ := h.page k data hcached
            rw [Writer.image_of_cached hcached, hpage k hk]
      · intro k pData hcached _ _
        obtain ⟨hk, rfl⟩ := h.page k pData hcached
        exact (hpage k hk).symm
      · rw [h.pDirty] at hk
        cases hk }

/-- Beginning a transaction takes the lock or is refused it. -/
theorem sqlite3PagerBegin_begun (s : Surroundings env view calls o)
    {content : Nat → Option (List UInt8)} {synced : List (List Nat)} {current : List Nat}
    {p : Writer} {w : World σ}
    (h : Underway o zFilename zJournal f content true synced current p (view w.os))
    (exFlag : Bool) :
    ∃ ret, sqlite3PagerBegin env calls p exFlag w = .ok ret ∧ ¬ ret.rc.IsIoerr ∧
      Underway o zFilename zJournal f content true synced current ret.writer
        (view ret.world.os) ∧
      KeepsUse p ret.writer ∧ (ret.rc = .ok → ret.writer.eState ≠ .reader) := by
  have hok := ok_not_ioerr
  have hbusy := busy_not_ioerr
  rw [sqlite3PagerBegin, if_neg (by rw [h.errCode]; exact fun hnot => hnot rfl)]
  by_cases heState : p.eState = .reader
  swap
  · exact ⟨_, if_neg heState, hok, h, .refl p, fun _ => heState⟩
  rw [if_pos heState]
  -- a pager that gets no more than another lock is as before
  have hlocked : ∀ (eLock : LockLevel) {d' : Disk}, Undisturbed (view w.os) d' →
      Underway o zFilename zJournal f content true synced current { p with eLock := eLock } d' :=
    fun eLock _ hsame => h.samePages rfl hsame rfl (fun _ => Iff.rfl) (fun _ _ hflag => hflag)
      (fun _ _ hflag => hflag) h.cache.inUse
  obtain ⟨hsame, hpager, -⟩ := pagerLockDb_undisturbed s.laws.lock h.db.openOn .reserved
  have hrc := pagerLockDb_rc s.laws.lock h.db.openOn .reserved
  generalize pagerLockDb env p.toPager .reserved w = reserved at hsame hpager hrc ⊢
  obtain ⟨rc, reserved, w₁⟩ := reserved
  dsimp only at hsame hpager hrc ⊢
  obtain ⟨eLock, rfl⟩ : ∃ eLock, reserved = { p.toPager with eLock := eLock } := ⟨_, hpager⟩
  by_cases hrefused : rc ≠ .ok
  · refine ⟨_, if_pos hrefused, ?_, hlocked eLock hsame, ⟨fun hbegun => hbegun, rfl,
      fun _ hcached => hcached, fun _ _ hwritable => hwritable⟩, fun hok => absurd hok hrefused⟩
    rcases hrc with rfl | rfl
    · exact hok
    · exact hbusy
  rw [if_neg hrefused]
  obtain ⟨locked, hwait, hrc', hsame', eLock', hpager'⟩ : ∃ locked : PagerRet σ,
      (if exFlag then pagerWaitOnLock env calls.toPagerCallbacks
          { p.toPager with eLock := eLock } .exclusive w₁
        else .ok ⟨.ok, { p.toPager with eLock := eLock }, w₁⟩) = .ok locked ∧
        (locked.rc = .ok ∨ locked.rc = .busy) ∧
        Undisturbed (view w.os) (view locked.world.os) ∧
        ∃ eLock', locked.pPager = { p.toPager with eLock := eLock' } := by
    by_cases hexFlag : exFlag = true
    · obtain ⟨limit, hlt, hlimit⟩ := s.givesUp
      have hopen : OpenOn (view w₁.os) ({ p.toPager with eLock := eLock } : Pager).fd f :=
        hsame.openOn _ _ h.db.openOn
      obtain ⟨ret, hret, hends, hsame₂, hpager₂⟩ := waitOnLockLoop_ends s .exclusive hopen
        (Nat.zero_le limit) (by rwa [Nat.zero_add]) hlimit
      exact ⟨ret, (if_pos hexFlag).trans hret, hends, hsame.trans hsame₂, _, hpager₂⟩
    · exact ⟨_, if_neg hexFlag, Or.inl rfl, hsame, eLock, rfl⟩
  obtain ⟨rc', locked, w₂⟩ := locked
  dsimp only at hrc' hsame' hpager'
  subst hpager'
  show ∃ ret, (_ >>= _) = _ ∧ _
  rw [hwait, ok_bind]
  by_cases hrefused' : rc' ≠ .ok
  · refine ⟨_, if_pos hrefused', ?_, hlocked eLock' hsame', ⟨fun hbegun => hbegun, rfl,
      fun _ hcached => hcached, fun _ _ hwritable => hwritable⟩,
      fun hok => absurd hok hrefused'⟩
    rcases hrc' with rfl | rfl
    · exact hok
    · exact hbusy
  refine ⟨_, if_neg hrefused', hok, ?_, ⟨fun _ hnot => (by cases hnot), rfl,
    fun _ hcached => hcached, fun _ _ hwritable => hwritable⟩, fun _ hnot => (by cases hnot)⟩
  have htransparent := h.transparent rfl
  cases h.stage with
  | idle hstate hclosed hnone hdbSize hdirty hbits =>
      refine h.restage (congrFun hsame'.data f) (hsame'.namedFile h.db) rfl rfl rfl
        (.idle (Or.inr ⟨rfl, hdbSize, hdbSize⟩) hclosed ?_ hdbSize hdirty hbits) (fun _ hk => hk)
        (fun hnil => hnil) (h.cache.congr rfl (fun _ => Iff.rfl) rfl (fun _ _ _ hflag => hflag)
          h.cache.inUse) fun _ => htransparent.congr rfl (fun _ => Iff.rfl)
            (fun _ _ hflag => hflag)
      rw [hsame'.dir]
      exact hnone
  | writing _ _ _ _ _ hwrites =>
      rcases hwrites with ⟨hstate, -⟩ | ⟨hstate, -⟩
      · cases heState.symm.trans hstate
      · cases heState.symm.trans hstate

/-! ## Storing and giving up data -/

section Contents

variable {synced : List (List Nat)} {current : List Nat} {p : Writer} {d : Disk} {k : Nat}
  {content : Nat → Option (List UInt8)}

/-- A writable page may be given new data. -/
theorem Underway.stored (h : Underway o zFilename zJournal f content true synced current p d)
    (hwritable : Writable p k) {pData : List UInt8} (hlength : pData.length = o.pageSize) :
    Underway o zFilename zJournal f (Function.update content k (some pData)) true synced current
      (p.setData k pData) d := by
  have hcache := h.cache
  refine h.alike rfl (.refl d) (fun hnil => hnil) (hcache.setData hwritable.1 hlength) fun _ => ?_
  refine (h.transparent rfl).setData hwritable.1 (fun l hl => Function.update_of_ne hl ..) ?_ ?_
  · intro data hdata
    rw [Function.update_self] at hdata
    cases hdata
    rfl
  · intro _ hflag
    rw [hwritable.2] at hflag
    cases hflag

/-- A page may be given up. -/
theorem Underway.givenUp (h : Underway o zFilename zJournal f content true synced current p d)
    (k : Nat) :
    Underway o zFilename zJournal f (Function.update content k none) true synced current
      (sqlite3PagerDontWrite p k) d := by
  have htransparent := h.transparent rfl
  have hless : ∀ l data, Function.update content k none l = some data →
      l ≠ k ∧ content l = some data := by
    intro l data hdata
    by_cases hlk : l = k
    · rw [hlk, Function.update_self] at hdata
      cases hdata
    · rw [Function.update_of_ne hlk] at hdata
      exact ⟨hlk, hdata⟩
  have hgone : ∀ (dontWrite : Nat → Bool), (∀ l, l ≠ k → dontWrite l = p.dontWrite l) →
      Underway o zFilename zJournal f (Function.update content k none) true synced current
        { p with dontWrite := dontWrite } d := by
    intro dontWrite hothers
    refine h.alike rfl (.refl d) (fun hnil => hnil) (h.cache.congr rfl (fun _ => Iff.rfl) rfl
      (fun _ _ _ hflag => hflag) h.cache.inUse) fun _ => ⟨?_, ?_, ?_⟩
    · exact fun l data hl hdata => htransparent.image l data hl (hless l data hdata).2
    · intro l pData hcached hpending hdata
      obtain ⟨data, hsome⟩ := Option.ne_none_iff_exists'.mp hdata
      refine htransparent.clean l pData hcached hpending ?_
      rw [(hless l data hsome).2]
      exact Option.some_ne_none data
    · intro l hl hflag
      by_cases hlk : l = k
      · rw [hlk, Function.update_self]
      · rw [Function.update_of_ne hlk]
        refine htransparent.given l hl ?_
        rw [← hothers l hlk]
        exact hflag
  rw [sqlite3PagerDontWrite]
  by_cases hk : k ∈ p.pDirty
  · rw [if_pos hk]
    exact hgone _ fun l hl => Function.update_of_ne hl ..
  · rw [if_neg hk]
    exact hgone p.dontWrite fun _ _ => rfl

end Contents

/-! ## Runs -/

/-- What holds between two calls of a client. -/
structure Client.Holds (view : σ → Disk) (o : Original) (zFilename zJournal : CString) (f : Nat)
    (c : Client σ) : Prop where
  course : Course o zFilename zJournal f c.content c.rc c.writer (view c.world.os)
  begun : ¬ c.rc.IsIoerr → c.begun = true → c.writer.eState ≠ .reader
  writable : ¬ c.rc.IsIoerr → ∀ k ∈ c.writable, k ∈ c.writer.refs ∧ Writable c.writer k

theorem Client.Holds.safe {c : Client σ} (h : c.Holds view o zFilename zJournal f) :
    c.Safe view o zFilename zJournal f := by
  refine ⟨h.course.survives, fun hrc k hk pData hcontent => ?_⟩
  obtain ⟨synced, current, hunder⟩ := h.course.underway hrc
  obtain ⟨data, hcached⟩ := Option.isSome_iff_exists.mp (hunder.cache.inUse k hk)
  have himage := (hunder.transparent rfl).image k pData (hunder.cache.page k data hcached).2.1
    hcontent
  rw [Writer.image_of_cached hcached] at himage
  rw [Writer.pData, hcached]
  exact himage

/-- Pages that were writable still are, if they are in use. -/
theorem UseEnds.stillWritable {p p' : Writer} {refs writable : List Nat}
    (h : UseEnds p p' refs) (hmore : ∀ k ∈ p.refs, k ∈ refs)
    (hwritable : ∀ k ∈ writable, k ∈ p.refs ∧ Writable p k) :
    ∀ k ∈ writable, k ∈ p'.refs ∧ Writable p' k := by
  intro k hk
  obtain ⟨huse, hwritten⟩ := hwritable k hk
  exact ⟨by rw [h.refs]; exact hmore k huse, h.writable k huse hwritten⟩

/-- Every allowed call comes to an end, and what holds before it holds after it. -/
theorem PageCall.perform_holds (s : Surroundings env view calls o) {c : Client σ}
    (h : c.Holds view o zFilename zJournal f) {call : PageCall}
    (hallowed : call.Allowed o.pageSize c) :
    ∃ c', call.perform env calls c = .ok c' ∧ c'.Holds view o zFilename zJournal f := by
  cases call with
  | begin exFlag =>
      have hrc : ¬ c.rc.IsIoerr := hallowed
      obtain ⟨synced, current, hunder⟩ := h.course.underway hrc
      obtain ⟨ret, hret, hends, hunder', huse, hbegun⟩ := sqlite3PagerBegin_begun s hunder exFlag
      refine ⟨{ c.returned ret with begun := c.begun || ret.rc = .ok }, ?_,
        .goesOn synced current hends hunder', fun _ hor => ?_, fun _ k hk => ?_⟩
      · rw [PageCall.perform, hret]
        rfl
      · rcases Bool.or_eq_true_iff.mp hor with hold | hok
        · exact huse.begun (h.begun hrc hold)
        · exact hbegun (of_decide_eq_true hok)
      · obtain ⟨hmem, hwritable⟩ := h.writable hrc k hk
        exact ⟨by show k ∈ ret.writer.refs; rw [huse.refs]; exact hmem,
          huse.writable k hmem hwritable⟩
  | get pgno =>
      obtain ⟨hrc, hle⟩ := hallowed
      obtain ⟨synced, current, hunder⟩ := h.course.underway hrc
      obtain ⟨ret, hret, hgot⟩ := sqlite3PagerGet_got s hunder hle
      have hends : ¬ ret.rc.IsIoerr → ∃ refs, UseEnds c.writer ret.writer refs ∧
          ∀ k ∈ c.writer.refs, k ∈ refs := by
        intro hioerr
        by_cases hok : ret.rc = .ok
        · exact ⟨_, hgot.taken hok, fun k hk => List.mem_cons_of_mem pgno hk⟩
        · exact ⟨_, hgot.refused hok hioerr, fun _ hk => hk⟩
      refine ⟨c.returned ret, ?_, hgot.course, fun hioerr hbegun => ?_, fun hioerr => ?_⟩
      · rw [PageCall.perform, hret]
        rfl
      · obtain ⟨refs, huse, -⟩ := hends hioerr
        exact huse.begun (h.begun hrc hbegun)
      · obtain ⟨refs, huse, hmore⟩ := hends hioerr
        exact huse.stillWritable hmore (h.writable hrc)
  | release pgno =>
      have huse := sqlite3PcacheRelease_useEnds c.writer pgno
      refine ⟨_, rfl, h.course.released pgno, fun hioerr hbegun => ?_, fun hioerr k hk => ?_⟩
      · exact huse.begun (h.begun hioerr hbegun)
      · obtain ⟨hmem, hne⟩ := List.mem_filter.mp hk
        obtain ⟨hrefs, hwritable⟩ := h.writable hioerr k hmem
        refine ⟨?_, huse.writable k ?_ hwritable⟩
        · rw [huse.refs]
          exact (List.mem_erase_of_ne (of_decide_eq_true hne)).mpr hrefs
        · exact hrefs
  | write pgno =>
      obtain ⟨hrc, hbegun, hrefs⟩ := hallowed
      obtain ⟨synced, current, hunder⟩ := h.course.underway hrc
      obtain ⟨ret, hret, hwritten⟩ :=
        sqlite3PagerWrite_written s hunder (h.begun hrc hbegun) hrefs
      refine ⟨{ c.returned ret with
          writable := if ret.rc = .ok then pgno :: c.writable else c.writable }, ?_,
        hwritten.course, fun hioerr hbegun => ?_, fun hioerr k hk => ?_⟩
      · rw [PageCall.perform, hret]
        rfl
      · exact (hwritten.uses hioerr).begun (h.begun hrc hbegun)
      · have huse := hwritten.uses hioerr
        have hstill := huse.stillWritable (fun _ hmem => hmem) (h.writable hrc)
        have hk' : k ∈ if ret.rc = .ok then pgno :: c.writable else c.writable := hk
        by_cases hok : ret.rc = .ok
        · rw [if_pos hok] at hk'
          rcases List.mem_cons.mp hk' with rfl | hmem
          · exact ⟨by show k ∈ ret.writer.refs; rw [huse.refs]; exact hrefs,
              hwritten.writable hok⟩
          · exact hstill k hmem
        · rw [if_neg hok] at hk'
          exact hstill k hk'
  | store pgno pData =>
      obtain ⟨hrc, hmem, hlength⟩ := hallowed
      obtain ⟨synced, current, hunder⟩ := h.course.underway hrc
      obtain ⟨-, hwritable⟩ := h.writable hrc pgno hmem
      exact ⟨_, rfl, .goesOn synced current hrc (hunder.stored hwritable hlength), h.begun,
        h.writable⟩
  | dontWrite pgno =>
      have hrc : ¬ c.rc.IsIoerr := hallowed
      obtain ⟨synced, current, hunder⟩ := h.course.underway hrc
      refine ⟨_, rfl, .goesOn synced current hrc (hunder.givenUp pgno), fun hioerr hbegun => ?_,
        fun hioerr k hk => ?_⟩
      · have hold := h.begun hrc hbegun
        show (sqlite3PagerDontWrite c.writer pgno).eState ≠ .reader
        unfold sqlite3PagerDontWrite
        split_ifs
        · exact hold
        · exact hold
      · obtain ⟨hmem, hne⟩ := List.mem_filter.mp hk
        obtain ⟨hrefs, hwritable⟩ := h.writable hrc k hmem
        have hne' : k ≠ pgno := of_decide_eq_true hne
        show k ∈ (sqlite3PagerDontWrite c.writer pgno).refs ∧
          Writable (sqlite3PagerDontWrite c.writer pgno) k
        unfold sqlite3PagerDontWrite
        split_ifs
        · exact ⟨hrefs, hwritable.1, (Function.update_of_ne hne' ..).trans hwritable.2⟩
        · exact ⟨hrefs, hwritable⟩
  | recycle pages => exact ⟨_, rfl, h.course.recycled pages, h.begun, h.writable⟩

theorem PageCall.step_eq_some {c c' : Client σ} {call : PageCall} :
    call.step env calls c = some c' ↔ call.perform env calls c = .ok c' := by
  unfold PageCall.step
  cases call.perform env calls c with
  | error fault => simp
  | ok next => simp

theorem PageCall.step_holds (s : Surroundings env view calls o) {c c' : Client σ}
    {call : PageCall} (h : c.Holds view o zFilename zJournal f)
    (hallowed : call.Allowed o.pageSize c) (hstep : call.step env calls c = some c') :
    c'.Holds view o zFilename zJournal f := by
  obtain ⟨next, hperform, hnext⟩ := PageCall.perform_holds s h hallowed
  cases hperform.symm.trans (PageCall.step_eq_some.mp hstep)
  exact hnext

theorem ReadsDatabase.holds {p : Writer} {w : World σ}
    (h : ReadsDatabase o zFilename zJournal f p (view w.os)) :
    (⟨p, w, .ok, false, [], o.pages⟩ : Client σ).Holds view o zFilename zJournal f := by
  refine ⟨.goesOn [] [] ok_not_ioerr h.underway, ?_, ?_⟩
  · intro _ hbegun
    cases hbegun
  · intro _ k hk
    cases hk

theorem pageCalls_hold (s : Surroundings env view calls o) {p : Writer} {w : World σ}
    (hstart : ReadsDatabase o zFilename zJournal f p (view w.os)) {run : List PageCall}
    (hallowed : Run.EachStep (PageCall.step env calls)
      (fun c call => call.Allowed o.pageSize c) ⟨p, w, .ok, false, [], o.pages⟩ run) :
    Run.Always (PageCall.step env calls) (Client.Holds view o zFilename zJournal f)
      ⟨p, w, .ok, false, [], o.pages⟩ run :=
  Run.always_of_eachStep (fun _ _ _ hc hcall heq => PageCall.step_holds s hc hcall heq)
    hstart.holds hallowed

/-- The flash writes what it is given, or nothing. -/
theorem smallFlash_takesShortWrites (room : Nat) :
    TakesShortWrites (smallFlash room) Flash.toDisk := by
  intro s h f p bytes hopen _
  rw [smallFlash_write_eq hopen, flash_write_eq hopen]
  split_ifs
  · exact Or.inr rfl
  · exact Or.inl rfl
  · exact Or.inl rfl

/-- Nobody answers a busy database, no bytes are random, and the cache is never full. -/
def WriterCallbacks.none : WriterCallbacks σ where
  xBusyHandler _ w := (false, w)
  busyFuel := 1
  walOpen _ w := (.cantopen, w)
  walEndReadTransaction w := w
  walBeginReadTransaction w := (.ok, false, w)
  walDbsize _ := 0
  randomness _ := 0
  victim _ := Option.none
  recycled _ := []

/-- The cache is always full: it gives up the first of its dirty pages and takes the memory of
every page that it may. -/
def WriterCallbacks.crowded : WriterCallbacks σ :=
  { WriterCallbacks.none with
    victim := fun p => p.pDirty.head?
    recycled := fun p => List.range (p.dbSize + 1) }

theorem sectorPage_valid :
    (List.replicate 4096 (0 : UInt8)).length < 2 ^ 31 ∧
      JournalSizesValid (UInt32.ofNat 4096) (UInt32.ofNat 4096) := by
  rw [List.length_replicate]
  decide

/-- A database of one page of zeros that is as large as a sector. -/
def Original.sectorPage : Original where
  pageSize := 4096
  sectorSize := 4096
  nPage := 1
  content := List.replicate 4096 0
  length_eq := List.length_replicate
  length_lt := sectorPage_valid.1
  pageSize_le := Nat.le_of_ble_eq_true rfl
  sectorSize_le := Nat.le_of_ble_eq_true rfl
  sizes_valid := sectorPage_valid.2

/-- The flash with the database, open on handle 0. -/
def World.sectorPage : World Flash :=
  .opened (ascii "db") (List.replicate 4096 0) Original.sectorPage.length_lt

/-- A pager that reads the database, with its page in use. -/
def Writer.sectorPage : Writer where
  toPager := { Pager.opened (.on 0 (ascii "db")) (ascii "db") with
    eState := .reader
    eLock := .shared
    dbSize := 1
    pPCache := ⟨fun k => if k = 1 then some (List.replicate 4096 0) else none, 1, true⟩ }
  pInJournal := .null
  dbOrigSize := 0
  dbHintSize := 0
  doNotSpill := 0
  needSync _ := false
  dontWrite _ := false
  pDirty := []
  refs := [1]

theorem sectorPage_readsDatabase : ReadsDatabase .sectorPage (ascii "db") (ascii "db-journal") 0
    .sectorPage (Flash.toDisk World.sectorPage.os) where
  settled := {
    apart := by decide
    fits := by decide
    plain := by decide
    isOpen := rfl
    filename := rfl
    zJournal := rfl
    sjfd := by decide
    noWal := by decide
    deletes := ⟨rfl, rfl, rfl⟩
    noSync := rfl
    pageSize := rfl
    sectorSize := rfl }
  db := ⟨⟨0, rfl⟩, rfl⟩
  errCode := rfl
  eState := rfl
  jfd := by decide
  noJournal := rfl
  data := rfl
  dbSize := rfl
  nPage_ne := by decide
  pDirty := rfl
  pInJournal := rfl
  page := by
    intro k pData hcached
    by_cases hk : k = 1
    · subst hk
      have hpage : Original.sectorPage.page 1 = List.replicate 4096 0 :=
        List.take_of_length_le (le_of_eq List.length_replicate)
      cases hcached
      exact ⟨by decide, hpage.symm⟩
    · have hnone : Writer.sectorPage.pPCache.page k = none := if_neg hk
      rw [hnone] at hcached
      cases hcached
  inUse := by
    intro k hk
    cases List.mem_singleton.mp hk
    rfl
  refs_ne := by decide

/-- A device on which a journal has room for two headers and the start of a record. -/
def crowdedFlash : Env Flash := ⟨smallFlash 8200, .quiet, none, 4096⟩

theorem sectorPage_surroundings :
    Surroundings crowdedFlash Flash.toDisk .crowded .sectorPage where
  laws := smallFlash_lawful 8200
  shortWrites := smallFlash_takesShortWrites 8200
  fuel := le_refl 4096
  handler := fun _ _ => .refl _
  givesUp := ⟨0, Nat.zero_lt_one, fun _ => rfl⟩

/-- The client begins to work. -/
def Client.sectorPage : Client Flash :=
  ⟨.sectorPage, .sectorPage, .ok, false, [], Original.sectorPage.pages⟩

/-- The client adds a page and gives it back, takes another one, for which the cache gives up the
first, and takes the first again. -/
def PageCall.spill : List PageCall :=
  [.begin false, .get 2, .write 2, .store 2 (List.replicate 4096 1), .release 2, .get 3, .get 2]

/-- Then it changes the page of the database, which the journal has no room for. -/
def PageCall.change : List PageCall := PageCall.spill ++ [.write 1, .release 2]

/-- The run is allowed: page 2 is written to the database file before the commit and read from it
again, and the last page cannot be made writable. -/
theorem change_allowed :
    Run.EachStep (PageCall.step crowdedFlash .crowded)
        (fun c call => call.Allowed Original.sectorPage.pageSize c) .sectorPage PageCall.change ∧
      ((Run.run (PageCall.step crowdedFlash .crowded) .sectorPage PageCall.spill).any
        fun c => c.rc = .ok ∧ c.writer.pDirty = [] ∧ (c.world.os.data 0).length = 8192) ∧
      ((Run.run (PageCall.step crowdedFlash .crowded) .sectorPage PageCall.change).any
        fun c => c.rc = .ioerrWrite) := by
  decide +kernel

end VxSqlite
