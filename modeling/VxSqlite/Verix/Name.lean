import VxSqlite.Flash
import VxSqlite.Lib.Run
import VxSqlite.Verix.Objects

/-!
# The handle and the remembered name

`verixOpen` opens the name that `sprintf` builds from its argument and remembers a plain copy of
the argument. `NameKept` says that the two are the same on every system; it holds of exactly the
names that are present and have no percent sign. From there the handle and the name of every
open object denote the same file through all later calls, as long as no name in use is removed:
sizes asked for by name are those of the file behind the handle, and closing an object that is
to be deleted removes the file it had open and no other.
-/

namespace VxSqlite

/-! ## One open -/

/-- Opening the name is defined, and where it returns `SQLITE_OK` the handle comes from `open()`
on exactly the name that is remembered. -/
def NameKept (zName : Option CString) : Prop :=
  ∀ (σ : Type) (env : Env σ) (id : VerixFile) (flags : Nat) (w : World σ),
    ∃ filename v opened, verixOpenFilename env zName w = .ok (filename, v) ∧
      verixOpen env zName id flags w = .ok opened ∧
      (opened.rc = .ok →
        opened.file.h =
            (env.sys (.openFile filename (verixOpenFlags flags)) (env.logPrintf v)).value ∧
          opened.file.filename = filename)

/-- A name is plain if it is present and `sprintf` prints it as it stands. -/
def PlainName (zName : Option CString) : Prop := ∃ name, zName = some name ∧ percent ∉ name

variable {σ : Type} {env : Env σ} {view : σ → Disk}

/-- A plain name that fits the arrays is built and stored as it stands. -/
theorem verixOpenFilename_plain (env : Env σ) {name : CString} (hplain : percent ∉ name)
    (hlen : name.length < maxVerixFileName) (w : World σ) :
    verixOpenFilename env (some name) w = .ok (name, w) := by
  have hstore : storeString maxVerixFileName name = .ok name :=
    storeString_eq_ok_iff.mpr ⟨rfl, hlen⟩
  simp only [verixOpenFilename, sprintfNoArgs_plain hplain, ok_bind, hstore]
  rfl

theorem verixOpenStrcpy_fits (env : Env σ) {name : CString}
    (hlen : name.length < maxVerixFileName) :
    verixOpenStrcpy env (some name) = .ok name :=
  storeString_eq_ok_iff.mpr ⟨rfl, hlen⟩

/-- Once the name can be copied, the rest of the open is defined and remembers the copy. -/
theorem verixOpenFile_stored {zName : Option CString} {stored : CString}
    (hstored : verixOpenStrcpy env zName = .ok stored) (id : VerixFile) (flags : Nat)
    (filename : CString) (w : World σ) :
    ∃ opened, verixOpenFile env zName id flags filename w = .ok opened ∧
      (opened.rc = .ok →
        opened.file.h =
            (env.sys (.openFile filename (verixOpenFlags flags)) (env.logPrintf w)).value ∧
          opened.file.filename = stored) := by
  by_cases hfail : (env.sys (.openFile filename (verixOpenFlags flags))
      (env.logPrintf w)).value = -1
  · simp only [verixOpenFile, if_pos hfail]
    exact ⟨_, rfl, by simp⟩
  · simp only [verixOpenFile, if_neg hfail, hstored]
    exact ⟨_, rfl, fun _ => ⟨rfl, rfl⟩⟩

theorem PlainName.nameKept {zName : Option CString} (hplain : PlainName zName)
    (hlen : ∀ name, zName = some name → name.length < maxVerixFileName) : NameKept zName := by
  obtain ⟨name, rfl, hpercent⟩ := hplain
  intro σ env id flags w
  have hnamed := verixOpenFilename_plain env hpercent (hlen name rfl) w
  obtain ⟨opened, hopened, hok⟩ :=
    verixOpenFile_stored (verixOpenStrcpy_fits env (hlen name rfl)) id flags name w
  exact ⟨name, w, opened, hnamed, by simp only [verixOpen, hnamed, ok_bind, hopened], hok⟩

/-- On `flash` a file that may be created is opened. -/
theorem verixOpen_flash {zName : Option CString} {id : VerixFile} {w : World Flash}
    {opened : Opened Flash} (h : verixOpen quietFlash zName id openCreate w = .ok opened) :
    opened.rc = .ok ∧ verixOpenStrcpy quietFlash zName = .ok opened.file.filename := by
  obtain ⟨⟨filename, v⟩, -, hcases⟩ := verixOpen_cases flash_lawful.naming h
  rcases hcases with ⟨hrc, -, -⟩ | ⟨hrc, hopened⟩
  · exfalso
    obtain ⟨named, -, hfile⟩ := bind_eq_ok_iff.mp h
    have hpos := named.2.os.nextHandle_pos
    have hvalue : (quietFlash.sys (.openFile named.1 (verixOpenFlags openCreate))
        (quietFlash.logPrintf named.2)).value ≠ -1 := by
      rw [Env.sys_value, show quietFlash.os = flash from rfl, flash_open_value (by decide),
        Env.logPrintf_os]
      omega
    simp only [verixOpenFile] at hfile
    rw [if_neg hvalue] at hfile
    split at hfile
    · cases hfile
    · cases hfile
      cases hrc
  · exact ⟨hrc, hopened.stored⟩

/-- A kept name is plain: the null pointer is not a string, and `sprintf` prints a name with a
percent sign shorter than it is, or has no argument for it. -/
theorem NameKept.plainName {zName : Option CString} (hkept : NameKept zName) : PlainName zName := by
  -- every file of the empty file system can be created
  obtain ⟨filename, v, opened, hnamed, hopen, hok⟩ :=
    hkept Flash quietFlash .zeroed openCreate (.on (Flash.ofFiles [] (by simp)))
  obtain ⟨hrc, hstored⟩ := verixOpen_flash hopen
  rw [(hok hrc).2] at hstored
  cases zName with
  | none => cases hstored
  | some name =>
      obtain ⟨rfl, -⟩ := storeString_eq_ok_iff.mp hstored
      obtain ⟨text, htext, hrest⟩ := bind_eq_ok_iff.mp hnamed
      obtain ⟨built, hbuilt, heq⟩ := bind_eq_ok_iff.mp hrest
      cases heq
      obtain ⟨rfl, -⟩ := storeString_eq_ok_iff.mp hbuilt
      exact ⟨text, rfl, sprintfNoArgs_eq_self_iff.mp htext⟩

/-! ## All later states -/

/-- The handles of the open objects are open and apart, and each object's remembered name leads
to the file its handle is open on. -/
structure Session.Denotes (view : σ → Disk) (s : Session σ) : Prop where
  handles : s.HandlesOpen view
  named : ∀ slot, (s.files slot).pMethod = true →
    ∃ f, NamedFile (view s.world.os) (s.files slot) f

/-- The call keeps the names in use: a plain name that fits is opened, and no name that an open
object remembers is removed, the object that is being closed apart. -/
def VfsCall.KeepsNames (s : Session σ) : VfsCall → Prop
  | .xOpen zName _ _ =>
      ∃ name, zName = some name ∧ percent ∉ name ∧ name.length < maxVerixFileName
  | .xDelete zName => ∀ slot, (s.files slot).pMethod = true → (s.files slot).filename ≠ zName
  | .xClose slot => (s.files slot).temporary = true → ∀ slot', slot' ≠ slot →
      (s.files slot').pMethod = true → (s.files slot').filename ≠ (s.files slot).filename
  | _ => True

/-- After opening a plain name, the new object and the ones before it denote their files. -/
theorem Session.Denotes.named_opened {s : Session σ} (h : s.Denotes view) {name : CString}
    {slot flags : Nat} {world : World σ} {file : VerixFile} (hlen : name.length < maxVerixFileName)
    (hopened : OpenedAs env (some name) flags name (view s.world.os) (view world.os) file) (a : Nat)
    (ha : (Function.update s.files slot file a).pMethod = true) :
    ∃ f, NamedFile (view world.os) (Function.update s.files slot file a) f := by
  have hname : file.filename = name := by
    have hstored := hopened.stored
    rw [verixOpenStrcpy_fits env hlen] at hstored
    cases hstored
    rfl
  obtain ⟨f, hf, hdir⟩ := hopened.openOn_new
  by_cases hac : a = slot
  · subst hac
    simp only [Function.update_self]
    exact ⟨f, hf, by rw [hname]; exact hdir⟩
  · simp only [Function.update_of_ne hac] at ha ⊢
    obtain ⟨g, hg, hnamed⟩ := h.named a ha
    refine ⟨g, (hopened.openOn_other hg).2, ?_⟩
    by_cases hsame : (s.files a).filename = name
    · -- the same name leads both objects to one file
      rcases hopened.disk with ⟨f', hf', hdir', hdisk⟩ | ⟨hmissing, -⟩
      · rw [hdisk, Disk.seek_dir]
        exact hnamed
      · rw [hsame, hmissing] at hnamed
        cases hnamed
    · rw [hopened.dir_other hsame]
      exact hnamed

/-- One call keeps the invariant. -/
theorem VfsCall.step_denotes (laws : NamingLaws env.os view) {s s' : Session σ} {call : VfsCall}
    (h : s.Denotes view) (hproper : call.Proper s) (hkeeps : call.KeepsNames s)
    (hstep : call.step env s = some s') : s'.Denotes view := by
  obtain ⟨result, hperform⟩ := VfsCall.step_eq_some_iff.mp hstep
  refine ⟨VfsCall.perform_handlesOpen laws h.handles hproper hperform, ?_⟩
  intro a ha
  by_cases hcall : call.ChangesNames
  · cases call with
    | xOpen zName slot flags =>
        obtain ⟨name, rfl, hpercent, hlen⟩ := hkeeps
        obtain ⟨opened, hopen, heq⟩ := bind_eq_ok_iff.mp hperform
        cases heq
        obtain ⟨named, hnamed, hcases⟩ := verixOpen_cases laws hopen
        rw [verixOpenFilename_plain env hpercent hlen] at hnamed
        cases hnamed
        rcases hcases with ⟨-, hfile, hview⟩ | ⟨-, hopened⟩
        · -- nothing was opened, and the object is as it was
          simp only [hfile, Function.update_eq_self, hview] at ha ⊢
          exact h.named a ha
        · exact h.named_opened hlen hopened a ha
    | xClose slot =>
        cases hperform
        have hslot := hproper.method slot rfl
        obtain ⟨f, hf⟩ := h.named slot hslot
        obtain ⟨hac, ha⟩ := open_of_closed ha
        obtain ⟨g, hg, hnamed⟩ := h.named a ha
        simp only [Function.update_of_ne hac]
        refine ⟨g, verixClose_openOn_other laws.dir hf.openOn hg
          (h.handles.distinct a slot ha hslot hac), ?_⟩
        rcases verixClose_dir laws.dir hf.openOn (s.files a).filename with hdir | ⟨htemp, hname, -⟩
        · rw [hdir]
          exact hnamed
        · -- the name that was removed is one that `a` remembers
          exact absurd hname (hkeeps htemp a hac ha)
    | xDelete zName =>
        cases hperform
        obtain ⟨g, hg, hnamed⟩ := h.named a ha
        refine ⟨g, verixDelete_keeps_openOn laws.dir zName hg, ?_⟩
        rcases verixDelete_dir laws.dir zName (s.files a).filename s.world with hdir | ⟨hname, -⟩
        · rw [hdir]
          exact hnamed
        · exact absurd hname (hkeeps a ha)
    | _ => exact hcall.elim
  · obtain ⟨hfiles, hdisk⟩ := VfsCall.perform_keeps laws h.handles hproper hcall hperform
    rw [hfiles] at ha ⊢
    obtain ⟨f, hf⟩ := h.named a ha
    exact ⟨f, hdisk.openOn _ f hf.openOn, by rw [hdisk.dir]; exact hf.named⟩

/-- Asking for the size of an open object by its name answers for the file behind its handle. -/
def Session.SizesAgree (env : Env σ) (view : σ → Disk) (s : Session σ) : Prop :=
  ∀ slot, (s.files slot).pMethod = true → ∃ f, OpenOn (view s.world.os) (s.files slot) f ∧
    ∀ pSize, ∃ w, verixFileSize env (s.files slot) pSize s.world =
      (.ok, (((view s.world.os).data f).length : Int), w)

/-- Closing a temporary object with `SQLITE_OK` removes the name of the file it has open, and no
other name. -/
def Session.ClosesAgree (env : Env σ) (view : σ → Disk) (s : Session σ) : Prop :=
  ∀ slot, (s.files slot).pMethod = true → (s.files slot).temporary = true →
    (verixClose env (s.files slot) s.world).1 = .ok →
    ∃ f, OpenOn (view s.world.os) (s.files slot) f ∧
      (view s.world.os).dir (s.files slot).filename = some f ∧
      (view (verixClose env (s.files slot) s.world).2.os).dir =
        Function.update (view s.world.os).dir (s.files slot).filename none

theorem Session.Denotes.sizesAgree (sizes : ReportsSizes env.os view) {s : Session σ}
    (h : s.Denotes view) : s.SizesAgree env view := by
  intro slot hslot
  obtain ⟨f, hf⟩ := h.named slot hslot
  refine ⟨f, hf.openOn, ?_⟩
  intro pSize
  obtain ⟨w, hsize, -⟩ := verixFileSize_named sizes hf.named pSize
  exact ⟨w, hsize⟩

theorem Session.Denotes.closesAgree (laws : DirLaws env.os view) {s : Session σ}
    (h : s.Denotes view) : s.ClosesAgree env view := by
  intro slot hslot htemp hok
  obtain ⟨f, hf⟩ := h.named slot hslot
  refine ⟨f, hf.openOn, hf.named, ?_⟩
  obtain ⟨locks, ⟨hnot | hnot, -⟩ | ⟨-, -, -, hview⟩⟩ := verixClose_cases laws hf.openOn
  · rw [htemp] at hnot
    cases hnot
  · exact absurd hok hnot
  · rw [hview]
    rfl

/-- A name that fits the arrays is opened and remembered as one name exactly if it is plain. If
only plain names are opened and no name in use is removed, then in every state of a run the
handle and the name of every open object denote one file: sizes are those of the file behind
the handle, and closing a temporary object removes its own file and no other. -/
theorem handle_and_name_agree {σ : Type} (env : Env σ) (view : σ → Disk)
    (laws : NamingLaws env.os view) (sizes : ReportsSizes env.os view) :
    (∀ zName, (∀ name, zName = some name → name.length < maxVerixFileName) →
      (NameKept zName ↔ PlainName zName)) ∧
    ∀ (os : σ) (errno lastErrno : Int) (calls : List VfsCall),
      Run.EachStep (VfsCall.step env) (fun s call => call.Proper s ∧ call.KeepsNames s)
        (.start os errno lastErrno fun _ => .zeroed) calls →
      Run.Always (VfsCall.step env)
        (fun s => s.Denotes view ∧ s.SizesAgree env view ∧ s.ClosesAgree env view)
        (.start os errno lastErrno fun _ => .zeroed) calls := by
  constructor
  · exact fun zName hlen => ⟨NameKept.plainName, fun hplain => hplain.nameKept hlen⟩
  · intro os errno lastErrno calls hcalls
    have hstart : (Session.start os errno lastErrno fun _ => .zeroed).Denotes view := by
      refine ⟨.start os errno lastErrno, ?_⟩
      intro slot hslot
      cases hslot
    have halways := Run.always_of_eachStep (fun s call s' hs hgood hstep =>
      VfsCall.step_denotes laws hs hgood.1 hgood.2 hstep) hstart hcalls
    exact halways.mono fun s hs => ⟨hs, hs.sizesAgree sizes, hs.closesAgree laws.dir⟩

/-- A database is created and written, a temporary file is opened beside it and closed. -/
def sampleSession : List VfsCall :=
  [.xOpen (some (ascii "db")) 0 6, .xWrite 0 [1, 2] 0, .xOpen (some (ascii "tmp7")) 1 30,
    .xFileSize 0 0, .xClose 1]

/-- The name of the sample's database, and the states of the sample on an empty `flash`. -/
theorem handle_and_name_agree_flash :
    (NameKept (some (ascii "db")) ↔ PlainName (some (ascii "db"))) ∧
    Run.Always (VfsCall.step quietFlash)
      (fun s => s.Denotes Flash.toDisk ∧ s.SizesAgree quietFlash Flash.toDisk ∧
        s.ClosesAgree quietFlash Flash.toDisk)
      (.start (Flash.ofFiles [] (by simp)) 0 0 fun _ => .zeroed) sampleSession := by
  obtain ⟨hkept, hruns⟩ := handle_and_name_agree quietFlash Flash.toDisk
    flash_lawful.naming flash_fileLaws.dirGetFileSz
  refine ⟨hkept _ ?_, hruns (Flash.ofFiles [] (by simp)) 0 0 sampleSession ?_⟩
  · intro name h
    cases h
    decide
  · refine ⟨⟨⟨nofun, fun _ _ _ h => ?_, nofun⟩, _, rfl, by decide, by decide⟩, fun _ hopen => ?_⟩
    · cases h
      rfl
    cases hopen
    refine ⟨⟨⟨fun _ h => ?_, nofun, nofun⟩, trivial⟩, fun _ hwrite => ?_⟩
    · cases h
      rfl
    cases hwrite
    refine ⟨⟨⟨nofun, fun _ _ _ h => ?_, nofun⟩, _, rfl, by decide, by decide⟩, fun _ htemp => ?_⟩
    · cases h
      rfl
    cases htemp
    refine ⟨⟨⟨fun _ h => ?_, nofun, nofun⟩, trivial⟩, fun _ hsize => ?_⟩
    · cases h
      rfl
    cases hsize
    refine ⟨⟨⟨fun _ h => ?_, nofun, nofun⟩, fun _ slot hne hslot => ?_⟩, fun _ _ => trivial⟩
    · cases h
      rfl
    · match slot with
      | 0 => decide
      | 1 => exact absurd rfl hne
      | _ + 2 => cases hslot

/-- Opening `a%%b` for reading and writing: the handle is on `a%b`, whose three bytes are read
through it, while the size query by name answers for an empty `a%%b`. -/
theorem percent_name_differs :
    (∃ opened w, verixOpen quietFlash (some (ascii "a%%b")) .zeroed openReadwrite
        (.on (Flash.ofFiles [(ascii "a%%b", []), (ascii "a%b", [1, 2, 3])] (by decide))) =
          .ok opened ∧ opened.rc = .ok ∧ opened.file.filename = ascii "a%%b" ∧
      (opened.world.os.handles opened.file.h).map Prod.fst = opened.world.os.dir (ascii "a%b") ∧
      verixFileSize quietFlash opened.file 0 opened.world = (.ok, 0, w)) ∧
    ¬ ∀ zName, (∀ name, zName = some name → name.length < maxVerixFileName) → NameKept zName := by
  refine ⟨⟨_, _, rfl, rfl, rfl, rfl, rfl⟩, ?_⟩
  intro h
  obtain ⟨name, hname, hplain⟩ :=
    (h (some (ascii "a%%b")) (fun name h => by cases h; decide)).plainName
  cases hname
  exact hplain (by decide)

end VxSqlite
