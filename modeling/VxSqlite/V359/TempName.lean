import VxSqlite.Flash
import VxSqlite.Lib.Run
import VxSqlite.V359.File
import Mathlib.Data.List.Flatten

/-!
# Temporary names in SQLite 3.5.9

Every `sqlite3PagerOpen` asks for the name of a statement journal, and one for a temporary
database asks for the name of the database right before. The only thing a name is made of is the
tick counter. A `Terminal` is a world with the pagers that are open in it; its pagers hold
different names in every state of a run exactly if each open reads ticks that differ from each
other and from the ticks behind the names that are held.
-/

namespace VxSqlite.V359

variable {σ : Type}

/-! ## The pager's names and files -/

/-- Which of the three allocations of an open succeed. -/
structure Allocations where
  zPathname : Bool
  pPager : Bool
  pTmpSpace : Bool

/-- The names of a pager and the files it opens by them. `ticks` lists the values of the tick
counter that its temporary names were made of; no function of the pager reads it. -/
structure PagerFiles where
  zFilename : CString
  zStmtJrnl : CString
  vfsFlags : Nat
  fd : VerixFile
  stfd : VerixFile
  tempFile : Bool
  stmtOpen : Bool
  ticks : List Int

/-- The names that `verixGetTempname` made for the pager. -/
def PagerFiles.tempnames (pPager : PagerFiles) : List CString :=
  if pPager.tempFile then [pPager.zFilename, pPager.zStmtJrnl] else [pPager.zStmtJrnl]

/-- The name of a database in memory. -/
def memoryName : CString := ascii ":memory:"

/-- No file name is given, and the database is a temporary file. -/
def IsTemporary (zFilename : Option CString) : Prop := zFilename = none ∨ zFilename = some []

instance (zFilename : Option CString) : Decidable (IsTemporary zFilename) :=
  inferInstanceAs (Decidable (_ ∨ _))

/-- A path with the ticks that were read for it and the world after. -/
structure Pathname (σ : Type) where
  zPathname : CString
  ticks : List Int
  world : World σ

/-- A temporary name with the ticks it was made of. -/
def pagerTempname (env : Env σ) (w : World σ) : Except Fault (Pathname σ) := do
  let name ← verixGetTempname env w
  return ⟨name.1, [(env.sys .readTicks w).value], name.2⟩

/-- The path of the database: the name as it stands, nothing in memory, or a temporary name. -/
def pagerPathname (env : Env σ) (zFilename : Option CString) (w : World σ) :
    Except Fault (Pathname σ) :=
  if IsTemporary zFilename then pagerTempname env w
  else if zFilename = some memoryName then .ok ⟨[], [], w⟩
  else .ok ⟨(verixFullPathname (zFilename.getD [])).2, [], w⟩

/-- `sizeof("-journal")`. -/
def sizeofJournal : Nat := 9

/-- Close a file if it is open. -/
def sqlite3OsClose (env : Env σ) (pId : VerixFile) (w : World σ) : VerixFile × World σ :=
  if pId.pMethod then ({ pId with pMethod := false }, (verixClose env pId w).2) else (pId, w)

/-- What an open returns: the code, the pager if there is one, and the world after. -/
structure OpenRet (σ : Type) where
  rc : ResultCode
  pPager : Option PagerFiles
  world : World σ

/-- The end of an open whose file is in place or not needed: allocate the page-sized space. -/
def pagerOpened (env : Env σ) (mem : Allocations) (pPager : PagerFiles) (w : World σ) :
    OpenRet σ :=
  if mem.pTmpSpace then ⟨.ok, some pPager, w⟩
  else ⟨.nomem, none, (sqlite3OsClose env pPager.fd w).2⟩

/-- Open a pager. A named database is opened at once, a temporary one when it is first written. -/
def sqlite3PagerOpen (env : Env σ) (zFilename : Option CString) (vfsFlags : Nat)
    (mem : Allocations) (w : World σ) : Except Fault (OpenRet σ) :=
  if mem.zPathname = false then .ok ⟨.nomem, none, w⟩
  else do
    let path ← pagerPathname env zFilename w
    let stmt ← pagerTempname env path.world
    if mem.pPager = false then return ⟨.nomem, none, stmt.world⟩
    let pPager : PagerFiles :=
      { zFilename := path.zPathname
        zStmtJrnl := stmt.zPathname
        vfsFlags := vfsFlags
        fd := .zeroed
        stfd := .zeroed
        tempFile := IsTemporary zFilename
        stmtOpen := false
        ticks := path.ticks ++ stmt.ticks }
    if IsTemporary zFilename ∨ zFilename = some memoryName then
      return pagerOpened env mem pPager stmt.world
    else if path.zPathname.length > mxPathname - sizeofJournal then
      return ⟨.cantopen, none, stmt.world⟩
    else
      let opened ← verixOpen env pPager.zFilename pPager.fd vfsFlags stmt.world
      if opened.rc ≠ .ok then
        return ⟨opened.rc, none, (sqlite3OsClose env opened.file opened.world).2⟩
      else return pagerOpened env mem { pPager with fd := opened.file } opened.world

/-- Open a temporary file by its name, to be deleted when it is closed. -/
def sqlite3PagerOpentemp (env : Env σ) (pFile : VerixFile) (zFilename : CString) (vfsFlags : Nat)
    (w : World σ) : Except Fault (Opened σ) :=
  verixOpen env zFilename pFile
    (vfsFlags ||| openReadwrite ||| openCreate ||| openExclusive ||| openDeleteonclose) w

/-- `SQLITE_OPEN_SUBJOURNAL`. -/
def openSubjournal : Nat := 0x2000

/-! ## Any number of pagers -/

/-- A world and the pagers that are open in it. -/
structure Terminal (σ : Type) where
  world : World σ
  pagers : List PagerFiles

/-- What happens on a terminal: a pager is opened, the `i`-th one opens its temporary database in
order to write it, or its statement journal, or is closed, or something else runs. -/
inductive PagerAction (σ : Type) where
  | open (zFilename : Option CString) (vfsFlags : Nat) (mem : Allocations)
  | writePagelist (i : Nat)
  | stmtBegin (i : Nat)
  | close (i : Nat)
  | elapse (w : World σ)

/-- One step of the terminal; `none` where there is no such pager or the code has no defined
behaviour. -/
def PagerAction.step (env : Env σ) (s : Terminal σ) : PagerAction σ → Option (Terminal σ)
  | .open zFilename vfsFlags mem =>
      match sqlite3PagerOpen env zFilename vfsFlags mem s.world with
      | .ok ret => some ⟨ret.world, ret.pPager.toList ++ s.pagers⟩
      | .error _ => none
  | .writePagelist i => do
      let pPager ← s.pagers[i]?
      if pPager.fd.pMethod ∨ pPager.tempFile = false then return s
      else
        let opened ← (sqlite3PagerOpentemp env pPager.fd pPager.zFilename pPager.vfsFlags
          s.world).toOption
        return ⟨opened.world, s.pagers.set i { pPager with fd := opened.file }⟩
  | .stmtBegin i => do
      let pPager ← s.pagers[i]?
      if pPager.stmtOpen then return s
      else
        let opened ← (sqlite3PagerOpentemp env pPager.stfd pPager.zStmtJrnl openSubjournal
          s.world).toOption
        return ⟨opened.world, s.pagers.set i
          { pPager with stfd := opened.file, stmtOpen := opened.rc = .ok }⟩
  | .close i => do
      let pPager ← s.pagers[i]?
      let w := if pPager.stmtOpen then (sqlite3OsClose env pPager.stfd s.world).2 else s.world
      return ⟨(sqlite3OsClose env pPager.fd w).2, s.pagers.eraseIdx i⟩
  | .elapse w => some ⟨w, s.pagers⟩

/-- The temporary names that the open pagers hold. -/
def Terminal.tempnames (s : Terminal σ) : List CString := s.pagers.flatMap PagerFiles.tempnames

/-- The ticks behind the temporary names that the open pagers hold. -/
def Terminal.ticks (s : Terminal σ) : List Int := s.pagers.flatMap PagerFiles.ticks

/-- All temporary names of open pagers are different. -/
def Terminal.NamesDiffer (s : Terminal σ) : Prop := s.tempnames.Nodup

/-- The ticks that an open reads: two for a temporary database, one for any other. -/
def openTicks (env : Env σ) (zFilename : Option CString) (w : World σ) : List Int :=
  let first := env.sys .readTicks w
  if IsTemporary zFilename then [first.value, (env.sys .readTicks first.world).value]
  else [first.value]

/-- An open that succeeds reads ticks which, as `int`s, differ from each other and from those
behind the names that are held. -/
def PagerAction.ReadsFreshTicks (env : Env σ) (s : Terminal σ) : PagerAction σ → Prop
  | .open zFilename vfsFlags mem =>
      (∃ pPager w, sqlite3PagerOpen env zFilename vfsFlags mem s.world =
        .ok ⟨.ok, some pPager, w⟩) →
      ((openTicks env zFilename s.world ++ s.ticks).map toInt).Nodup
  | _ => True

/-! ## What the names are made of -/

variable {env : Env σ} {s s' : Terminal σ} {w : World σ}

/-- A temporary name stands for a tick, narrowed to an `int`. -/
theorem nodup_tempname_iff (ticks : List Int) :
    (ticks.map tempname).Nodup ↔ (ticks.map toInt).Nodup := by
  have hsplit : ticks.map tempname = (ticks.map toInt).map fun t => ascii "tmp" ++ formatInt t := by
    rw [List.map_map]
    rfl
  rw [hsplit]
  apply List.nodup_map_iff
  intro x y h
  exact formatInt_injective (List.append_cancel_left h)

theorem pagerTempname_eq {path : Pathname σ} (h : pagerTempname env w = .ok path) :
    path.ticks = [(env.sys .readTicks w).value] ∧
      path.zPathname = tempname (env.sys .readTicks w).value ∧
      path.world = (env.sys .readTicks w).world := by
  obtain ⟨name, hname, heq⟩ := bind_eq_ok_iff.mp h
  obtain ⟨zBuf, hstored, hname⟩ := bind_eq_ok_iff.mp hname
  cases heq
  cases hname
  obtain ⟨rfl, -⟩ := storeString_eq_ok_iff.mp hstored
  exact ⟨rfl, rfl, rfl⟩

/-- The path asks for a tick only where it is a temporary name, and is made of it then. -/
theorem pagerPathname_eq {zFilename : Option CString} {path : Pathname σ}
    (h : pagerPathname env zFilename w = .ok path) :
    (IsTemporary zFilename ∧ path.ticks = [(env.sys .readTicks w).value] ∧
        path.zPathname = tempname (env.sys .readTicks w).value ∧
        path.world = (env.sys .readTicks w).world) ∨
      (¬ IsTemporary zFilename ∧ path.ticks = [] ∧ path.world = w) := by
  unfold pagerPathname at h
  by_cases htemp : IsTemporary zFilename
  · rw [if_pos htemp] at h
    exact Or.inl ⟨htemp, pagerTempname_eq h⟩
  · rw [if_neg htemp] at h
    split at h
    all_goals
      cases h
      exact Or.inr ⟨htemp, rfl, rfl⟩

theorem pagerOpened_eq {mem : Allocations} {built pPager : PagerFiles}
    (h : (pagerOpened env mem built w).pPager = some pPager) :
    (pagerOpened env mem built w).rc = .ok ∧ pPager = built := by
  unfold pagerOpened at h ⊢
  split at h
  · rename_i hspace
    cases h
    rw [if_pos hspace]
    exact ⟨rfl, rfl⟩
  · cases h

/-- A pager that is handed out comes with `SQLITE_OK`, and its temporary names are made of the
ticks that its open read. -/
theorem sqlite3PagerOpen_names {zFilename : Option CString} {vfsFlags : Nat} {mem : Allocations}
    {ret : OpenRet σ} {pPager : PagerFiles}
    (hopen : sqlite3PagerOpen env zFilename vfsFlags mem w = .ok ret)
    (hpager : ret.pPager = some pPager) :
    ret.rc = .ok ∧ pPager.ticks = openTicks env zFilename w ∧
      pPager.tempnames = pPager.ticks.map tempname := by
  unfold sqlite3PagerOpen at hopen
  by_cases hpathname : mem.zPathname = false
  · rw [if_pos hpathname] at hopen
    cases hopen
    cases hpager
  rw [if_neg hpathname] at hopen
  obtain ⟨path, hpath, hrest⟩ := bind_eq_ok_iff.mp hopen
  obtain ⟨stmt, hstmt, hrest⟩ := bind_eq_ok_iff.mp hrest
  -- whichever way the open goes, the pager is the one built here, up to its file
  obtain ⟨hrc, fd, hbuilt⟩ : ret.rc = .ok ∧ ∃ fd, pPager =
      { zFilename := path.zPathname, zStmtJrnl := stmt.zPathname, vfsFlags := vfsFlags, fd := fd,
        stfd := .zeroed, tempFile := IsTemporary zFilename, stmtOpen := false,
        ticks := path.ticks ++ stmt.ticks } := by
    split at hrest
    · cases hrest
      cases hpager
    · split at hrest
      · cases hrest
        obtain ⟨hrc, heq⟩ := pagerOpened_eq hpager
        exact ⟨hrc, _, heq⟩
      · split at hrest
        · cases hrest
          cases hpager
        · obtain ⟨opened, -, hrest⟩ := bind_eq_ok_iff.mp hrest
          split at hrest
          · cases hrest
            cases hpager
          · cases hrest
            obtain ⟨hrc, heq⟩ := pagerOpened_eq hpager
            exact ⟨hrc, _, heq⟩
  obtain ⟨hticks, hname, -⟩ := pagerTempname_eq hstmt
  refine ⟨hrc, ?_⟩
  rw [hbuilt]
  unfold PagerFiles.tempnames openTicks
  rcases pagerPathname_eq hpath with ⟨htemp, hfirst, hfilename, hworld⟩ | ⟨htemp, hfirst, hworld⟩
  · rw [hworld] at hticks hname
    simp [htemp, hfirst, hticks, hfilename, hname]
  · rw [hworld] at hticks hname
    simp [htemp, hfirst, hticks, hname]

/-! ## Runs -/

/-- What a pager holds: its temporary names and the ticks behind them. -/
def PagerFiles.held (pPager : PagerFiles) : List CString × List Int :=
  (pPager.tempnames, pPager.ticks)

/-- Every name that is held is made of the tick next to it. -/
def Terminal.Accounted (s : Terminal σ) : Prop :=
  ∀ pPager ∈ s.pagers, pPager.tempnames = pPager.ticks.map tempname

theorem Terminal.Accounted.tempnames_eq (h : s.Accounted) :
    s.tempnames = s.ticks.map tempname := by
  unfold Terminal.tempnames Terminal.ticks
  rw [List.map_flatMap]
  exact List.flatMap_congr h

/-- Replacing a pager by one that holds the same changes nothing of what is held. -/
theorem map_held_set {pagers : List PagerFiles} {i : Nat} {pPager other : PagerFiles}
    (hget : pagers[i]? = some pPager) (hheld : other.held = pPager.held) :
    (pagers.set i other).map PagerFiles.held = pagers.map PagerFiles.held := by
  obtain ⟨hlt, hget⟩ := List.getElem?_eq_some_iff.mp hget
  rw [List.map_set, hheld, ← hget, ← List.getElem_map PagerFiles.held (h := by simpa using hlt)]
  exact List.set_getElem_self _

/-- A step other than an open adds nothing to what is held. -/
theorem PagerAction.step_held {action : PagerAction σ}
    (haction : ∀ zFilename vfsFlags mem, action ≠ .open zFilename vfsFlags mem)
    (hstep : action.step env s = some s') :
    (s'.pagers.map PagerFiles.held).Sublist (s.pagers.map PagerFiles.held) := by
  cases action with
  | «open» zFilename vfsFlags mem => exact absurd rfl (haction zFilename vfsFlags mem)
  | writePagelist i =>
      obtain ⟨pPager, hget, hrest⟩ := Option.bind_eq_some_iff.mp hstep
      split at hrest
      · cases hrest
        exact List.Sublist.refl _
      · obtain ⟨opened, -, hrest⟩ := Option.bind_eq_some_iff.mp hrest
        cases hrest
        show List.Sublist ((s.pagers.set i _).map PagerFiles.held) _
        rw [map_held_set hget]
        rfl
  | stmtBegin i =>
      obtain ⟨pPager, hget, hrest⟩ := Option.bind_eq_some_iff.mp hstep
      split at hrest
      · cases hrest
        exact List.Sublist.refl _
      · obtain ⟨opened, -, hrest⟩ := Option.bind_eq_some_iff.mp hrest
        cases hrest
        show List.Sublist ((s.pagers.set i _).map PagerFiles.held) _
        rw [map_held_set hget]
        rfl
  | close i =>
      obtain ⟨pPager, -, hrest⟩ := Option.bind_eq_some_iff.mp hstep
      cases hrest
      exact (List.eraseIdx_sublist s.pagers i).map PagerFiles.held
  | elapse w =>
      cases hstep
      exact List.Sublist.refl _

/-- What is held by fewer pagers is still accounted for, and still differs. -/
theorem Terminal.keeps_of_sublist
    (hheld : (s'.pagers.map PagerFiles.held).Sublist (s.pagers.map PagerFiles.held))
    (haccounted : s.Accounted) (hdiffer : s.NamesDiffer) : s'.Accounted ∧ s'.NamesDiffer := by
  constructor
  · intro pPager hmem
    have hheldMem := hheld.subset (List.mem_map_of_mem hmem)
    obtain ⟨other, hother, heq⟩ := List.mem_map.mp hheldMem
    have hnames : other.tempnames = pPager.tempnames := congrArg Prod.fst heq
    have hticks : other.ticks = pPager.ticks := congrArg Prod.snd heq
    rw [← hnames, ← hticks]
    exact haccounted other hother
  · have hnames := hheld.flatMap Prod.fst
    rw [List.flatMap_map, List.flatMap_map] at hnames
    exact hnames.nodup hdiffer

/-- An open adds the names made of the ticks it read, if it hands out a pager. -/
theorem step_open_cases {zFilename : Option CString} {vfsFlags : Nat} {mem : Allocations}
    (hstep : PagerAction.step env s (.open zFilename vfsFlags mem) = some s') :
    s'.pagers = s.pagers ∨ ∃ pPager, s'.pagers = pPager :: s.pagers ∧
      (∃ w', sqlite3PagerOpen env zFilename vfsFlags mem s.world = .ok ⟨.ok, some pPager, w'⟩) ∧
      pPager.ticks = openTicks env zFilename s.world ∧
      pPager.tempnames = pPager.ticks.map tempname := by
  simp only [PagerAction.step] at hstep
  split at hstep
  · rename_i ret hopen
    cases hstep
    rcases hpager : ret.pPager with _ | pPager
    · left
      simp
    · right
      obtain ⟨hrc, hticks, hnames⟩ := sqlite3PagerOpen_names hopen hpager
      obtain ⟨rc, pager, w'⟩ := ret
      cases hrc
      cases hpager
      exact ⟨pPager, rfl, ⟨w', hopen⟩, hticks, hnames⟩
  · cases hstep

/-- Where the pager of an open is handed out, the names still differ exactly if the ticks were
fresh. -/
theorem differ_cons_iff (haccounted : s.Accounted) {pPager : PagerFiles}
    {zFilename : Option CString} (hpagers : s'.pagers = pPager :: s.pagers)
    (hticks : pPager.ticks = openTicks env zFilename s.world)
    (hnames : pPager.tempnames = pPager.ticks.map tempname) :
    s'.Accounted ∧ (s'.NamesDiffer ↔
      ((openTicks env zFilename s.world ++ s.ticks).map toInt).Nodup) := by
  constructor
  · intro other hmem
    rw [hpagers] at hmem
    rcases List.mem_cons.mp hmem with rfl | hold
    · exact hnames
    · exact haccounted other hold
  · have hall : s'.tempnames = (openTicks env zFilename s.world ++ s.ticks).map tempname := by
      rw [List.map_append, ← haccounted.tempnames_eq, ← hticks, ← hnames, Terminal.tempnames,
        hpagers, List.flatMap_cons]
      rfl
    rw [Terminal.NamesDiffer, hall, nodup_tempname_iff]

/-- What is kept along a run with fresh ticks. -/
def Terminal.Orderly (s : Terminal σ) : Prop := s.Accounted ∧ s.NamesDiffer

theorem Terminal.Orderly.step {action : PagerAction σ} (h : s.Orderly)
    (hfresh : action.ReadsFreshTicks env s) (hstep : action.step env s = some s') :
    s'.Orderly := by
  cases action with
  | «open» zFilename vfsFlags mem =>
      rcases step_open_cases hstep with hsame | ⟨pPager, hpagers, ⟨w', hopen⟩, hticks, hnames⟩
      · exact keeps_of_sublist (hsame ▸ List.Sublist.refl _) h.1 h.2
      · obtain ⟨haccounted, hdiffer⟩ := differ_cons_iff h.1 hpagers hticks hnames
        exact ⟨haccounted, hdiffer.mpr (hfresh ⟨pPager, w', hopen⟩)⟩
  | _ =>
      exact keeps_of_sublist (PagerAction.step_held (by simp) hstep) h.1 h.2

/-- A step that keeps the names different has read fresh ticks. -/
theorem Terminal.Orderly.fresh_of_differ {action : PagerAction σ} (h : s.Orderly)
    (hstep : action.step env s = some s') (hdiffer : s'.NamesDiffer) :
    action.ReadsFreshTicks env s := by
  cases action with
  | «open» zFilename vfsFlags mem =>
      intro hopens
      obtain ⟨pPager, w', hopen⟩ := hopens
      have hnames := sqlite3PagerOpen_names hopen rfl
      have hpagers : s'.pagers = pPager :: s.pagers := by
        simp only [PagerAction.step, hopen] at hstep
        cases hstep
        rfl
      exact (differ_cons_iff h.1 hpagers hnames.2.1 hnames.2.2).2.mp hdiffer
  | _ => trivial

/-- In every run from a terminal without open pagers, whatever the tick counter reads, the
temporary names of open pagers all differ in every state exactly if every open that succeeds reads
ticks which, as `int`s, differ from each other and from those behind the names that are held. -/
theorem temp_names_differ_iff (hstart : s.pagers = []) {actions : List (PagerAction σ)}
    {final : Terminal σ} (hrun : Run.run (PagerAction.step env) s actions = some final) :
    Run.Always (PagerAction.step env) Terminal.NamesDiffer s actions ↔
      Run.EachStep (PagerAction.step env) (PagerAction.ReadsFreshTicks env) s actions := by
  have horderly : s.Orderly := by
    unfold Terminal.Orderly Terminal.Accounted Terminal.NamesDiffer Terminal.tempnames
    rw [hstart]
    simp
  have himplies : ∀ s : Terminal σ, s.Orderly → s.NamesDiffer := fun s h => h.2
  apply Run.always_iff_eachStep_of_implies himplies
  · intro s action s' h hfresh hstep
    exact h.step hfresh hstep
  · intro s action s' h hstep hdiffer
    exact h.fresh_of_differ hstep hdiffer
  · exact horderly
  · exact hrun

/-- A terminal on an empty disk, without pagers, whose tick counter stands still. -/
def emptyTerminal : Terminal Flash := ⟨.on (Flash.ofFiles [] (by simp)), []⟩

/-- A temporary database is opened and written, and a statement is begun. -/
def temporaryDatabase : List (PagerAction Flash) :=
  [.open none 0 ⟨true, true, true⟩, .writePagelist 0, .stmtBegin 0]

theorem temporaryDatabase_runs :
    (Run.run (PagerAction.step quietFlash) emptyTerminal temporaryDatabase).isSome :=
  rfl

/-- `temp_names_differ_iff` for a temporary database with a statement. -/
theorem temp_names_differ_iff_temporary :
    Run.Always (PagerAction.step quietFlash) Terminal.NamesDiffer emptyTerminal
        temporaryDatabase ↔
      Run.EachStep (PagerAction.step quietFlash) (PagerAction.ReadsFreshTicks quietFlash)
        emptyTerminal temporaryDatabase :=
  temp_names_differ_iff rfl (Option.some_get temporaryDatabase_runs).symm

/-- Within one tick the temporary database and its statement journal get the same name, and both
are open on the same file. -/
theorem statement_journal_on_database :
    ¬ Run.Always (PagerAction.step quietFlash) Terminal.NamesDiffer emptyTerminal
      temporaryDatabase ∧
    ∃ s, Run.run (PagerAction.step quietFlash) emptyTerminal temporaryDatabase = some s ∧
      ∃ pPager ∈ s.pagers, pPager.zFilename = ascii "tmp0" ∧ pPager.zStmtJrnl = ascii "tmp0" ∧
        s.world.os.handles pPager.fd.h = some (0, 0) ∧
        s.world.os.handles pPager.stfd.h = some (0, 0) := by
  constructor
  · intro halways
    have hdiffer := (halways.2 _ rfl).head
    exact absurd hdiffer (by unfold Terminal.NamesDiffer; decide)
  · refine ⟨_, rfl, _, List.mem_cons_self, rfl, rfl, rfl, rfl⟩

end VxSqlite.V359
