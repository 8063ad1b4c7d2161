import VxSqlite.Verix.Name

/-!
# The names a pager opens

`sqlite3PagerOpen` takes the full pathname of the database, refuses it when the journal's name
would not fit `mxPathname`, and derives the names of the journal and of the write-ahead log. All
three are later opened through `verixOpen`, whose arrays are shorter than `mxPathname`.
-/

namespace VxSqlite

/-- The names of a pager's files. -/
structure PagerNames where
  zFilename : CString
  zJournal : CString
  zWal : CString
  deriving DecidableEq

/-- The names of the files of a database. -/
def PagerNames.derived (path : CString) : PagerNames :=
  ⟨path, path ++ ascii "-journal", path ++ ascii "-wal"⟩

/-- The names that the pager hands to `xOpen`. -/
def PagerNames.all (names : PagerNames) : List CString :=
  [names.zFilename, names.zJournal, names.zWal]

variable {σ : Type}

/-- The part of `sqlite3PagerOpen` that settles the names. Without a name it goes on to open a
temporary file, which has none. -/
def sqlite3PagerOpenNames (env : Env σ) (zFilename : CString) (w : World σ) :
    Except ResultCode (Option PagerNames) × World σ :=
  if zFilename = [] then (.ok none, w)
  else
    let full := verixFullPathname env zFilename w
    let zPathname := full.2.1
    let nPathname := sqlite3Strlen30 zPathname
    let rc := if full.1 = .ok ∧ nPathname + 8 > mxPathname then .cantopen else full.1
    if rc ≠ .ok then (.error rc, full.2.2)
    else
      (.ok (some (.derived (zPathname.take nPathname))), full.2.2)

/-- A name is accepted if what is printed of it leaves room for the suffix of the journal. -/
theorem sqlite3PagerOpenNames_eq_some_iff {env : Env σ} {zFilename : CString} {w : World σ}
    {names : PagerNames} :
    (sqlite3PagerOpenNames env zFilename w).1 = .ok (some names) ↔
      zFilename ≠ [] ∧ sqlite3Strlen30 zFilename + 8 ≤ mxPathname ∧
        names = .derived (zFilename.take (sqlite3Strlen30 zFilename)) := by
  have hprinted := length_take_sqlite3Strlen30 zFilename
  simp only [sqlite3PagerOpenNames, verixFullPathname]
  generalize zFilename.take (sqlite3Strlen30 zFilename) = path at hprinted ⊢
  rw [← hprinted]
  by_cases hempty : zFilename = []
  · simp [hempty]
  rw [if_neg hempty]
  by_cases hfits : path.length + 8 ≤ mxPathname
  · -- nothing is cut, so the measured length is the path's own
    have htake : path.take (mxPathname - 1) = path :=
      List.take_of_length_le (by unfold mxPathname at *; omega)
    have hlen : sqlite3Strlen30 path = path.length :=
      sqlite3Strlen30_of_lt (by unfold mxPathname at *; omega)
    simp [htake, hlen, hempty, hfits, Nat.not_lt.mpr hfits, eq_comm]
  · have hlen : (path.take (mxPathname - 1)).length = min (mxPathname - 1) path.length :=
      List.length_take
    have hlong : mxPathname < sqlite3Strlen30 (path.take (mxPathname - 1)) + 8 := by
      rw [sqlite3Strlen30_of_lt] <;> unfold mxPathname at * <;> omega
    simp [hlong, hfits]

/-! ## Names that fit -/

/-- Every percent sign of a format is half of `%%`. -/
def percentsPaired : CString → Bool
  | [] => true
  | [c] => c ≠ percent
  | c :: d :: rest =>
      if c = percent then d = percent && percentsPaired rest else percentsPaired (d :: rest)

/-- `sprintf` without arguments prints exactly the formats whose percent signs are paired. -/
theorem sprintfNoArgs_isOk_iff {format : CString} :
    (∃ text, sprintfNoArgs format = .ok text) ↔ percentsPaired format = true := by
  fun_induction sprintfNoArgs format with
  | case1 => simp [percentsPaired]
  | case2 => simp_all [percentsPaired]
  | case3 c hc => simp [percentsPaired, hc]
  | case4 rest ih =>
      simp only [percentsPaired, if_true, decide_true, Bool.true_and, ← ih]
      exact exists_bind_pure_iff
  | case5 d rest hd => simp [percentsPaired, hd]
  | case6 c d rest hc ih =>
      simp only [percentsPaired, if_neg hc, ← ih]
      exact exists_bind_pure_iff

/-- A suffix without percent signs pairs none. -/
theorem percentsPaired_append {name suffix : CString} (hsuffix : percent ∉ suffix) :
    percentsPaired (name ++ suffix) = percentsPaired name := by
  have hpaired : ∀ text : CString, percent ∉ text → percentsPaired text = true := fun text htext =>
    sprintfNoArgs_isOk_iff.mp ⟨text, sprintfNoArgs_plain htext⟩
  fun_induction percentsPaired name with
  | case1 => exact hpaired suffix hsuffix
  | case2 c =>
      cases suffix with
      | nil => rfl
      | cons d rest =>
          have hd : d ≠ percent := fun heq => hsuffix (by simp [heq])
          by_cases hc : c = percent
          · simp [percentsPaired, hc, hd]
          · simp [percentsPaired, hc, hpaired (d :: rest) hsuffix]
  | case3 d rest ih =>
      simp only [List.cons_append, percentsPaired, if_true, ih]
  | case4 c d rest hc ih =>
      simp only [List.cons_append, percentsPaired, if_neg hc] at ih ⊢
      exact ih

/-- Opening the name is defined on every system: `verixOpen` writes past neither of its arrays,
and formats only what it has. -/
def OpensWithinBuffers (zName : CString) : Prop :=
  ∀ (σ : Type) (env : Env σ) (id : VerixFile) (flags : Nat) (w : World σ),
    ∃ opened, verixOpen env (some zName) id flags w = .ok opened

/-- The arrays hold exactly the names shorter than them with paired percent signs. -/
theorem opensWithinBuffers_iff {zName : CString} :
    OpensWithinBuffers zName ↔
      percentsPaired zName = true ∧ zName.length < maxVerixFileName := by
  constructor
  · intro h
    obtain ⟨opened, hopen⟩ :=
      h Flash quietFlash .zeroed openCreate (.on (Flash.ofFiles [] (by simp)))
    obtain ⟨named, hnamed, -⟩ := bind_eq_ok_iff.mp hopen
    obtain ⟨text, htext, -⟩ := bind_eq_ok_iff.mp hnamed
    obtain ⟨-, hstored⟩ := verixOpen_flash hopen
    exact ⟨sprintfNoArgs_isOk_iff.mp ⟨text, htext⟩, (storeString_eq_ok_iff.mp hstored).2⟩
  · intro h σ env id flags w
    obtain ⟨hpaired, hlen⟩ := h
    obtain ⟨text, htext⟩ := sprintfNoArgs_isOk_iff.mpr hpaired
    have hshort := (length_sprintfNoArgs htext).1
    have hbuilt : storeString maxVerixFileName text = .ok text :=
      storeString_eq_ok_iff.mpr ⟨rfl, by omega⟩
    obtain ⟨opened, hopened, -⟩ :=
      verixOpenFile_stored (verixOpenStrcpy_fits env hlen) id flags text w
    refine ⟨opened, ?_⟩
    simp only [verixOpen, verixOpenFilename, htext, hbuilt, ok_bind]
    exact hopened

/-- For a database name that the pager accepts, all three names fit exactly if in the path that it
opens, which is what is printed of the name, the percent signs are paired and the journal's name is
shorter than the arrays. -/
theorem pagerNames_fit_iff {env : Env σ} {zFilename : CString} {w : World σ} {names : PagerNames}
    (h : (sqlite3PagerOpenNames env zFilename w).1 = .ok (some names)) :
    names.zFilename = zFilename.take (sqlite3Strlen30 zFilename) ∧
      ((∀ zName ∈ names.all, OpensWithinBuffers zName) ↔
        percentsPaired names.zFilename = true ∧
          names.zFilename.length + 8 < maxVerixFileName) := by
  obtain ⟨-, -, rfl⟩ := sqlite3PagerOpenNames_eq_some_iff.mp h
  refine ⟨rfl, ?_⟩
  simp only [PagerNames.derived]
  generalize zFilename.take (sqlite3Strlen30 zFilename) = path
  have hjournal : percentsPaired (path ++ ascii "-journal") = percentsPaired path :=
    percentsPaired_append (by decide)
  have hwal : percentsPaired (path ++ ascii "-wal") = percentsPaired path :=
    percentsPaired_append (by decide)
  have hjournalLen : (ascii "-journal").length = 8 := by decide
  have hwalLen : (ascii "-wal").length = 4 := by decide
  simp only [PagerNames.all, List.mem_cons, List.not_mem_nil, or_false, forall_eq_or_imp,
    forall_eq, opensWithinBuffers_iff, hjournal, hwal, List.length_append, hjournalLen, hwalLen]
  constructor
  · intro hfit
    exact hfit.2.1
  · intro hjournalFits
    obtain ⟨hpaired, hlen⟩ := hjournalFits
    exact ⟨⟨hpaired, by omega⟩, ⟨hpaired, hlen⟩, hpaired, by omega⟩

/-- The names of a database called `db`. -/
theorem pagerNames_fit_iff_db :
    (∀ zName ∈ [ascii "db", ascii "db-journal", ascii "db-wal"], OpensWithinBuffers zName) ↔
      percentsPaired (ascii "db") = true ∧ (ascii "db").length + 8 < maxVerixFileName := by
  have haccepted : (sqlite3PagerOpenNames quietFlash (ascii "db")
      (.on (Flash.ofFiles [] (by simp)))).1 =
        .ok (some ⟨ascii "db", ascii "db-journal", ascii "db-wal"⟩) := by rfl
  exact (pagerNames_fit_iff haccepted).2

/-- A name of 42 bytes is accepted, and fits itself, but its journal's name overruns the arrays. -/
theorem journal_name_overflows :
    (sqlite3PagerOpenNames quietFlash (List.replicate 42 97) (.on (Flash.ofFiles [] (by simp)))).1 =
      .ok (some ⟨List.replicate 42 97, List.replicate 42 97 ++ ascii "-journal",
        List.replicate 42 97 ++ ascii "-wal"⟩) ∧
    verixOpen quietFlash (some (List.replicate 42 97 ++ ascii "-journal")) .zeroed
      (openReadwrite ||| openCreate) (.on (Flash.ofFiles [] (by simp))) = .error .overflow ∧
    ¬ ∀ (zFilename : CString) (names : PagerNames),
      (sqlite3PagerOpenNames quietFlash zFilename (.on (Flash.ofFiles [] (by simp)))).1 =
        .ok (some names) → ∀ zName ∈ names.all, OpensWithinBuffers zName := by
  have haccepted : (sqlite3PagerOpenNames quietFlash (List.replicate 42 97)
      (.on (Flash.ofFiles [] (by simp)))).1 =
        .ok (some ⟨List.replicate 42 97, List.replicate 42 97 ++ ascii "-journal",
          List.replicate 42 97 ++ ascii "-wal"⟩) := by rfl
  refine ⟨haccepted, rfl, ?_⟩
  intro h
  have hfits := (opensWithinBuffers_iff.mp (h _ _ haccepted
    (List.replicate 42 97 ++ ascii "-journal")
    (by simp [PagerNames.all]))).2
  revert hfits
  decide

end VxSqlite
