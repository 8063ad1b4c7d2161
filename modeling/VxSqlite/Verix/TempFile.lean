import VxSqlite.Flash
import VxSqlite.Lib.Run
import VxSqlite.Verix.Objects

/-!
# Exclusive creation

SQLite asks for a new, private file with `SQLITE_OPEN_CREATE|SQLITE_OPEN_EXCLUSIVE`; the port
passes only the first flag on. An open of this kind yields a new, empty file exactly if the name
it builds is not in the directory. `Marked` adds to a session, for every object opened so, the
number the next file had at its open: files with smaller numbers are older than the object. As
long as only missing names are opened, the marked objects keep files of their own, and closing
one never removes an older file.
-/

namespace VxSqlite

variable {σ : Type} {env : Env σ} {view : σ → Disk}

/-- The flags ask for a file that must not exist yet. -/
def ExclusiveCreate (flags : Nat) : Prop :=
  HasFlag flags openCreate ∧ HasFlag flags openExclusive

instance (flags : Nat) : Decidable (ExclusiveCreate flags) := inferInstanceAs (Decidable (_ ∧ _))

/-- The object is open on a file that did not exist before, and that is empty. -/
def OpensFresh (d d' : Disk) (file : VerixFile) : Prop :=
  ∃ f, OpenOn d' file f ∧ d.created ≤ f ∧ d'.data f = []

/-- A handle is open on one file. -/
theorem OpenOn.unique {d : Disk} {pFile : VerixFile} {f g : Nat} (hf : OpenOn d pFile f)
    (hg : OpenOn d pFile g) : f = g := by
  obtain ⟨p, hp⟩ := hf
  obtain ⟨q, hq⟩ := hg
  rw [hp] at hq
  cases hq
  rfl

/-- Whatever the flags, the file is fresh exactly if its name was missing. -/
theorem OpenedAs.fresh_iff {zName : Option CString} {flags : Nat} {filename : CString}
    {d d' : Disk} {file : VerixFile} (h : OpenedAs env zName flags filename d d' file) :
    OpensFresh d d' file ↔ d.dir filename = none := by
  rcases h.disk with ⟨f, hf, hdir, hdisk⟩ | ⟨hdir, -, hf, hdisk⟩
  · constructor
    · rintro ⟨g, hopen, hnew, -⟩
      have hopen' : OpenOn d' file f := ⟨0, by simp [hdisk]⟩
      have heq := hopen.unique hopen'
      omega
    · intro hnone
      rw [hdir] at hnone
      cases hnone
  · refine iff_of_true ⟨d.created, ⟨0, by simp [hdisk]⟩, le_refl _, ?_⟩ hdir
    simp [hdisk, Disk.create]

/-! ## Marked sessions -/

/-- A session, and for each object opened by an exclusive create the number of the next file at
that time. -/
structure Marked (σ : Type) where
  session : Session σ
  born : Nat → Option Nat

/-- The marks after a call. -/
def Marked.bornAfter (view : σ → Disk) (s : Marked σ) (result : VfsResult) :
    VfsCall → Nat → Option Nat
  | .xOpen _ slot flags =>
      match result with
      | .opened .ok _ => Function.update s.born slot
          (if ExclusiveCreate flags then some (view s.session.world.os).created else none)
      | _ => s.born
  | .xClose slot => Function.update s.born slot none
  | _ => s.born

/-- A call of the session, with its marks. -/
def Marked.step (env : Env σ) (view : σ → Disk) (s : Marked σ) (call : VfsCall) :
    Option (Marked σ) :=
  match call.perform env s.session with
  | .ok (result, next) => some ⟨next, s.bornAfter view result call⟩
  | .error _ => none

/-- An exclusive create builds a name that is not in the directory, and one that is to be
deleted on close also remembers that name. -/
def VfsCall.OpensMissing (env : Env σ) (view : σ → Disk) (s : Session σ) : VfsCall → Prop
  | .xOpen zName _ flags => ExclusiveCreate flags →
      ∀ named, verixOpenFilename env zName s.world = .ok named →
        (view s.world.os).dir named.1 = none ∧
          (HasFlag flags openDeleteonclose → verixOpenStrcpy env zName = .ok named.1)
  | _ => True

/-- Every marked object is open on the file that its open created, and the name it removes when
it is closed leads to no older file. -/
structure Marked.Private (view : σ → Disk) (s : Marked σ) : Prop where
  handles : s.session.HandlesOpen view
  method : ∀ slot n, s.born slot = some n → (s.session.files slot).pMethod = true
  own : ∀ slot n, s.born slot = some n →
    OpenOn (view s.session.world.os) (s.session.files slot) n
  apart : ∀ slot slot' n, s.born slot = some n → s.born slot' = some n → slot = slot'
  names : ∀ slot n, s.born slot = some n → (s.session.files slot).temporary = true →
    ∀ f, (view s.session.world.os).dir (s.session.files slot).filename = some f → n ≤ f

/-- The file of a marked object has a number below that of the next file. -/
theorem Marked.Private.born_lt {s : Marked σ} (h : s.Private view) {slot n : Nat}
    (hborn : s.born slot = some n) : n < (view s.session.world.os).created := by
  obtain ⟨p, hp⟩ := h.own slot n hborn
  exact (view s.session.world.os).handles_lt _ _ _ hp

/-- A change that moves no marked object, closes none of their handles and binds no name to an
older file keeps them private. -/
theorem Marked.Private.keeps {s s' : Marked σ} (h : s.Private view)
    (hhandles : s'.session.HandlesOpen view)
    (hborn : ∀ slot n, s'.born slot = some n →
      s.born slot = some n ∧ s'.session.files slot = s.session.files slot)
    (hopen : ∀ slot n, s'.born slot = some n →
      OpenOn (view s'.session.world.os) (s.session.files slot) n)
    (hdir : ∀ name f, (view s'.session.world.os).dir name = some f →
      (view s.session.world.os).dir name = some f ∨ (view s.session.world.os).created ≤ f) :
    s'.Private view := by
  constructor
  · exact hhandles
  · intro slot n hn
    rw [(hborn slot n hn).2]
    exact h.method slot n (hborn slot n hn).1
  · intro slot n hn
    rw [(hborn slot n hn).2]
    exact hopen slot n hn
  · intro slot slot' n hn hn'
    exact h.apart slot slot' n (hborn slot n hn).1 (hborn slot' n hn').1
  · intro slot n hn htemp f hf
    obtain ⟨hold, hfile⟩ := hborn slot n hn
    rw [hfile] at htemp hf
    rcases hdir _ f hf with hbefore | hnew
    · exact h.names slot n hold htemp f hbefore
    · have := h.born_lt hold
      omega

/-- An open binds its name to the file the name had, or to a new one. -/
theorem OpenedAs.dir_cases {zName : Option CString} {flags : Nat} {filename : CString}
    {d d' : Disk} {file : VerixFile} (h : OpenedAs env zName flags filename d d' file)
    {name : CString} {f : Nat} (hf : d'.dir name = some f) :
    d.dir name = some f ∨ d.created ≤ f := by
  rcases h.disk with ⟨g, hg, -, hdisk⟩ | ⟨-, -, hg, hdisk⟩
  · left
    simpa [hdisk] using hf
  · by_cases hname : name = filename
    · right
      simp [hdisk, Disk.create, hname] at hf
      omega
    · left
      simpa [hdisk, Disk.create, Function.update_of_ne hname] using hf

/-- After an exclusive create of a missing name, all marked objects are private, the new one
included. -/
theorem Marked.Private.opened {s : Marked σ} (h : s.Private view) {zName : Option CString}
    {filename : CString} {slot flags : Nat} {world : World σ} {file : VerixFile}
    (hopened : OpenedAs env zName flags filename (view s.session.world.os) (view world.os) file)
    (hmissing : (view s.session.world.os).dir filename = none)
    (hstored : HasFlag flags openDeleteonclose → verixOpenStrcpy env zName = .ok filename) :
    Marked.Private view ⟨⟨world, Function.update s.session.files slot file⟩,
      Function.update s.born slot (some (view s.session.world.os).created)⟩ := by
  have hnew : OpenOn (view world.os) file (view s.session.world.os).created ∧
      (view world.os).dir filename = some (view s.session.world.os).created := by
    rcases hopened.disk with ⟨g, -, hdir, -⟩ | ⟨-, -, hg, hdisk⟩
    · rw [hdir] at hmissing
      cases hmissing
    · exact ⟨⟨0, by simp [hdisk]⟩, by simp [hdisk, Disk.create]⟩
  constructor
  · exact h.handles.opened hopened
  · intro a n hn
    by_cases hac : a = slot
    · subst hac
      simpa using hopened.method
    · simp only [Function.update_of_ne hac] at hn ⊢
      exact h.method a n hn
  · intro a n hn
    by_cases hac : a = slot
    · subst hac
      simp only [Function.update_self, Option.some.injEq] at hn ⊢
      rw [← hn]
      exact hnew.1
    · simp only [Function.update_of_ne hac] at hn ⊢
      exact (hopened.openOn_other (h.own a n hn)).2
  · intro a b n ha hb
    by_cases hac : a = slot
    · by_cases hbc : b = slot
      · rw [hac, hbc]
      · -- an older mark is below the new one
        simp only [hac, Function.update_self, Function.update_of_ne hbc, Option.some.injEq] at ha hb
        have := h.born_lt hb
        omega
    · by_cases hbc : b = slot
      · simp only [hbc, Function.update_self, Function.update_of_ne hac, Option.some.injEq] at ha hb
        have := h.born_lt ha
        omega
      · simp only [Function.update_of_ne hac, Function.update_of_ne hbc] at ha hb
        exact h.apart a b n ha hb
  · intro a n hn htemp f hf
    by_cases hac : a = slot
    · subst hac
      simp only [Function.update_self, Option.some.injEq] at hn htemp hf
      have hflag : HasFlag flags openDeleteonclose := by
        simpa [hopened.temporary] using htemp
      have hname := hopened.stored
      rw [hstored hflag] at hname
      cases hname
      rw [hnew.2] at hf
      cases hf
      omega
    · simp only [Function.update_of_ne hac] at hn htemp hf
      rcases hopened.dir_cases hf with hbefore | hafter
      · exact h.names a n hn htemp f hbefore
      · have := h.born_lt hn
        omega

/-- An object that is marked after the mark of `slot` is taken away is another one. -/
theorem born_of_update_none {born : Nat → Option Nat} {slot a n : Nat}
    (h : Function.update born slot none a = some n) : a ≠ slot ∧ born a = some n := by
  by_cases hac : a = slot
  · rw [hac, Function.update_self] at h
    cases h
  · exact ⟨hac, by rwa [Function.update_of_ne hac] at h⟩

/-- One call keeps the marked objects private. -/
theorem Marked.step_private (laws : NamingLaws env.os view) {s s' : Marked σ} {call : VfsCall}
    (h : s.Private view) (hproper : call.Proper s.session)
    (hmissing : call.OpensMissing env view s.session) (hstep : s.step env view call = some s') :
    s'.Private view := by
  obtain ⟨result, next, hperform, rfl⟩ : ∃ result next,
      call.perform env s.session = .ok (result, next) ∧
        ⟨next, s.bornAfter view result call⟩ = s' := by
    unfold step at hstep
    split at hstep
    · rename_i result next heq
      exact ⟨result, next, heq, by simpa using hstep⟩
    · cases hstep
  have hhandles : next.HandlesOpen view :=
    VfsCall.perform_handlesOpen laws h.handles hproper hperform
  by_cases hcall : call.ChangesNames
  · cases call with
    | xOpen zName slot flags =>
        obtain ⟨opened, hopen, heq⟩ := bind_eq_ok_iff.mp hperform
        cases heq
        obtain ⟨named, hnamed, ⟨hrc, hfile, hview⟩ | ⟨hrc, hopened⟩⟩ := verixOpen_cases laws hopen
        · -- nothing was opened
          rw [hrc]
          refine h.keeps hhandles (fun a n hn => ⟨hn, by simp [hfile]⟩) ?_ ?_
          · intro a n hn
            simp only [hview]
            exact h.own a n hn
          · intro name f hf
            exact Or.inl (by simpa only [hview] using hf)
        · rw [hrc]
          simp only [bornAfter]
          by_cases hexclusive : ExclusiveCreate flags
          · -- the name was missing, so the file is new and its number above every older one
            rw [if_pos hexclusive]
            obtain ⟨hdir, hstored⟩ := hmissing hexclusive named hnamed
            exact h.opened hopened hdir hstored
          · rw [if_neg hexclusive]
            refine h.keeps hhandles ?_ ?_ fun name f hf => hopened.dir_cases hf
            · intro a n hn
              obtain ⟨hac, hn⟩ := born_of_update_none hn
              exact ⟨hn, by simp only [Function.update_of_ne hac]⟩
            · intro a n hn
              exact (hopened.openOn_other (h.own a n (born_of_update_none hn).2)).2
    | xClose slot =>
        cases hperform
        have hslot := hproper.method slot rfl
        obtain ⟨g, hg⟩ := h.handles.openOn slot hslot
        refine h.keeps hhandles ?_ ?_ ?_
        · intro a n hn
          obtain ⟨hac, hn⟩ := born_of_update_none hn
          exact ⟨hn, by simp only [Function.update_of_ne hac]⟩
        · intro a n hn
          obtain ⟨hac, hn⟩ := born_of_update_none hn
          exact verixClose_openOn_other laws.dir hg (h.own a n hn)
            (h.handles.distinct a slot (h.method a n hn) hslot hac)
        · intro name f hf
          rcases verixClose_dir laws.dir hg name with hdir | ⟨-, -, hdir⟩
          · exact Or.inl (by rwa [hdir] at hf)
          · rw [hdir] at hf
            cases hf
    | xDelete zName =>
        cases hperform
        refine h.keeps hhandles (fun a n hn => ⟨hn, rfl⟩) ?_ ?_
        · intro a n hn
          exact verixDelete_keeps_openOn laws.dir zName (h.own a n hn)
        · intro name f hf
          rcases verixDelete_dir laws.dir zName name s.session.world with hdir | ⟨-, hdir⟩
          · exact Or.inl (by rwa [hdir] at hf)
          · rw [hdir] at hf
            cases hf
    | _ => exact hcall.elim
  · obtain ⟨hfiles, hdisk⟩ := VfsCall.perform_keeps laws h.handles hproper hcall hperform
    have hborn : s.bornAfter view result call = s.born := by
      cases call with
      | xOpen zName slot flags => exact absurd trivial hcall
      | xClose slot => exact absurd trivial hcall
      | _ => rfl
    rw [hborn]
    refine h.keeps hhandles (fun a n hn => ⟨hn, by rw [hfiles]⟩) ?_ ?_
    · intro a n hn
      exact hdisk.openOn _ n (h.own a n hn)
    · intro name f hf
      exact Or.inl (by rwa [hdisk.dir] at hf)

/-- No file is open through two marked objects. -/
def Marked.FilesApart (view : σ → Disk) (s : Marked σ) : Prop :=
  ∀ slot slot' n n' f, slot ≠ slot' → s.born slot = some n → s.born slot' = some n' →
    OpenOn (view s.session.world.os) (s.session.files slot) f →
    ¬ OpenOn (view s.session.world.os) (s.session.files slot') f

/-- Closing a marked object removes no name of a file that is older than its open. -/
def Marked.ClosesOwn (env : Env σ) (view : σ → Disk) (s : Marked σ) : Prop :=
  ∀ slot n name f, s.born slot = some n → (view s.session.world.os).dir name = some f →
    (view (verixClose env (s.session.files slot) s.session.world).2.os).dir name = none → n ≤ f

theorem Marked.Private.filesApart {s : Marked σ} (h : s.Private view) : s.FilesApart view := by
  intro slot slot' n n' f hne hn hn' hf hf'
  have hsame : f = n := hf.unique (h.own slot n hn)
  have hsame' : f = n' := hf'.unique (h.own slot' n' hn')
  subst hsame
  subst hsame'
  exact hne (h.apart slot slot' f hn hn')

theorem Marked.Private.closesOwn (laws : DirLaws env.os view) {s : Marked σ} (h : s.Private view) :
    s.ClosesOwn env view := by
  intro slot n name f hn hf hgone
  rcases verixClose_dir laws (h.own slot n hn) name with hdir | ⟨htemp, hname, -⟩
  · rw [hdir, hf] at hgone
    cases hgone
  · rw [hname] at hf
    exact h.names slot n hn htemp f hf

/-- The start of a process: no object is open, none is marked. -/
def Marked.start (os : σ) (errno lastErrno : Int) : Marked σ :=
  ⟨.start os errno lastErrno fun _ => .zeroed, fun _ => none⟩

/-- An exclusive create that returns `SQLITE_OK` opens a new, empty file exactly if the name it
builds is missing. In a run that opens only missing names exclusively, and remembers those that
are to be deleted, no two exclusively created files that are open are the same, and closing one
removes no file that existed before it was opened. -/
theorem exclusive_create_private {σ : Type} (env : Env σ) (view : σ → Disk)
    (laws : NamingLaws env.os view) :
    (∀ (zName : Option CString) (id : VerixFile) (flags : Nat) (w : World σ)
      (named : CString × World σ) (opened : Opened σ), ExclusiveCreate flags →
      verixOpenFilename env zName w = .ok named →
      verixOpen env zName id flags w = .ok opened → opened.rc = .ok →
      (OpensFresh (view w.os) (view opened.world.os) opened.file ↔
        (view w.os).dir named.1 = none)) ∧
    ∀ (os : σ) (errno lastErrno : Int) (calls : List VfsCall),
      Run.EachStep (Marked.step env view)
        (fun s call => call.Proper s.session ∧ call.OpensMissing env view s.session)
        (.start os errno lastErrno) calls →
      Run.Always (Marked.step env view)
        (fun s => s.Private view ∧ s.FilesApart view ∧ s.ClosesOwn env view)
        (.start os errno lastErrno) calls := by
  constructor
  · intro zName id flags w named opened _ hnamed hopen hok
    obtain ⟨named', hnamed', ⟨hrc, -, -⟩ | ⟨-, hopened⟩⟩ := verixOpen_cases laws hopen
    · rw [hok] at hrc
      cases hrc
    · cases hnamed.symm.trans hnamed'
      exact hopened.fresh_iff
  · intro os errno lastErrno calls hcalls
    have hstart : (Marked.start os errno lastErrno).Private view := by
      refine ⟨.start os errno lastErrno, ?_, ?_, ?_, ?_⟩
      · intro slot n hn
        cases hn
      · intro slot n hn
        cases hn
      · intro slot slot' n hn
        cases hn
      · intro slot n hn
        cases hn
    have halways := Run.always_of_eachStep (fun s call s' hs hgood hstep =>
      Marked.step_private laws hs hgood.1 hgood.2 hstep) hstart hcalls
    exact halways.mono fun s hs => ⟨hs, hs.filesApart, hs.closesOwn laws.dir⟩

/-- Two master journals are created beside an old file, and one of them is closed. -/
def sampleCreates : List VfsCall :=
  [.xOpen (some (ascii "db-mj1")) 0 0x4016, .xOpen (some (ascii "db-mj2")) 1 0x401e, .xClose 1]

/-- The sample on a `flash` that holds one file. -/
theorem exclusive_create_private_flash :
    (∃ opened, verixOpen quietFlash (some (ascii "db-mj1")) .zeroed 0x4016
        (.on (Flash.ofFiles [(ascii "db", [1])] (by decide))) = .ok opened ∧
      (OpensFresh (Flash.ofFiles [(ascii "db", [1])] (by decide)).toDisk opened.world.os.toDisk
          opened.file ↔
        (Flash.ofFiles [(ascii "db", [1])] (by decide)).dir (ascii "db-mj1") = none)) ∧
    Run.Always (Marked.step quietFlash Flash.toDisk)
      (fun s => s.Private Flash.toDisk ∧ s.FilesApart Flash.toDisk ∧
        s.ClosesOwn quietFlash Flash.toDisk)
      (.start (Flash.ofFiles [(ascii "db", [1])] (by decide)) 0 0) sampleCreates := by
  obtain ⟨hfresh, hruns⟩ := exclusive_create_private quietFlash Flash.toDisk
    flash_lawful.naming
  constructor
  · refine ⟨_, rfl, ?_⟩
    exact hfresh (some (ascii "db-mj1")) .zeroed 0x4016
      (.on (Flash.ofFiles [(ascii "db", [1])] (by decide))) _ _ (by decide) rfl rfl rfl
  · refine hruns (Flash.ofFiles [(ascii "db", [1])] (by decide)) 0 0 sampleCreates ?_
    refine ⟨⟨⟨nofun, fun _ _ _ h => ?_, nofun⟩, fun _ named hnamed => ?_⟩, fun _ hfirst => ?_⟩
    · cases h
      rfl
    · cases hnamed
      exact ⟨rfl, fun _ => rfl⟩
    cases hfirst
    refine ⟨⟨⟨nofun, fun _ _ _ h => ?_, nofun⟩, fun _ named hnamed => ?_⟩, fun _ hsecond => ?_⟩
    · cases h
      rfl
    · cases hnamed
      exact ⟨rfl, fun _ => rfl⟩
    cases hsecond
    refine ⟨⟨⟨?_, nofun, nofun⟩, trivial⟩, fun _ _ => trivial⟩
    intro _ h
    cases h
    rfl

/-- Creating a master journal exclusively opens the one that is there, with its three bytes. Two
anonymous temporary files opened in one tick, on a platform that reads the null pointer as an
empty string, are the same file. -/
theorem exclusive_create_reuses_file :
    (∃ opened, verixOpen quietFlash (some (ascii "db-mj1")) .zeroed 0x4016
        (.on (Flash.ofFiles [(ascii "db-mj1", [1, 2, 3])] (by decide))) = .ok opened ∧
      opened.rc = .ok ∧ opened.world.os.handles opened.file.h = some (0, 0) ∧
      opened.world.os.data 0 = [1, 2, 3]) ∧
    (∃ first second, verixOpen { quietFlash with nullString := some [] } none .zeroed 0x1e
        (.on (Flash.ofFiles [] (by decide))) = .ok first ∧
      verixOpen { quietFlash with nullString := some [] } none .zeroed 0x1e first.world =
        .ok second ∧
      first.rc = .ok ∧ second.rc = .ok ∧ first.file.h ≠ second.file.h ∧
      second.world.os.handles first.file.h = second.world.os.handles second.file.h) ∧
    ¬ ∀ (zName : Option CString) (id : VerixFile) (flags : Nat) (w : World Flash)
      (opened : Opened Flash), ExclusiveCreate flags →
      verixOpen quietFlash zName id flags w = .ok opened → opened.rc = .ok →
      OpensFresh w.os.toDisk opened.world.os.toDisk opened.file := by
  refine ⟨⟨_, rfl, rfl, rfl, rfl⟩, ⟨_, _, rfl, rfl, rfl, rfl, by decide, rfl⟩, ?_⟩
  intro h
  obtain ⟨f, ⟨p, hp⟩, hnew, -⟩ := h (some (ascii "db-mj1")) .zeroed 0x4016
    (.on (Flash.ofFiles [(ascii "db-mj1", [1, 2, 3])] (by decide))) _ (by decide) rfl rfl
  cases hp
  exact absurd hnew (by decide)

end VxSqlite
