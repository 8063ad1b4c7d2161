import VxSqlite.Pager.Basic
import VxSqlite.Pager.Names

/-!
# The full pathname in memory

`verixFullPathname` prints the name into the pager's buffer with `sqlite3_snprintf`, which cuts
it to `mxPathname` bytes with their terminator, ignores `nFull` and reports nothing. What keeps a
cut name from being used is the test that `sqlite3PagerOpen` makes on the length it measures in
that buffer afterwards: a cut name is always too long for it. Only the length of the name itself is
measured wrong, by `sqlite3Strlen30`, where it does not fit 30 bits.
-/

namespace VxSqlite

variable {σ : Type}

/-- `sqlite3_snprintf(n, zBuf, "%s", text)`: as much of the text as is measured and fits, and a
NUL. -/
def sqlite3Snprintf (n : Nat) (zBuf : Buffer UInt8) (text : CString) : Buffer UInt8 :=
  if n = 0 then zBuf
  else
    let length := sqlite3Strlen30 text
    -- `sqlite3StrAccumEnlarge` shortens a text that does not fit to the room left for it
    let nChar := if length ≥ n then n - 1 else length
    (zBuf.memcpy 0 (text.take nChar)).memset nChar 0 1

/-- `verixFullPathname` on its output buffer. -/
def verixFullPathnameInto (env : Env σ) (zRelative : CString) (_nFull : Nat)
    (zFull : Buffer UInt8) (w : World σ) : ResultCode × Buffer UInt8 × World σ :=
  (.ok, sqlite3Snprintf mxPathname zFull zRelative, env.logPrintf w)

/-- `sqlite3OsFullPathname`. -/
def sqlite3OsFullPathname (env : Env σ) (zPath : CString) (nPathOut : Nat)
    (zPathOut : Buffer UInt8) (w : World σ) : ResultCode × Buffer UInt8 × World σ :=
  verixFullPathnameInto env zPath nPathOut (zPathOut.memset 0 0 1) w

/-- How `sqlite3PagerOpen` leaves its part about the main file: it has returned a code before any
file was opened, or it has called `xOpen` on the database's name. -/
inductive PagerOpening (σ : Type) where
  | refused (rc : ResultCode) (w : World σ)
  | tempFile (w : World σ)
  | opening (names : PagerNames) (opened : Except Fault (Opened σ))

/-- `sqlite3PagerOpen` for a database that is not in memory, up to the call that opens its file.
`raw` is the content of the memory allocated for the pathname. -/
def sqlite3PagerOpen (env : Env σ) (raw : Int → UInt8) (zFilename : CString) (vfsFlags : Nat)
    (w : World σ) : PagerOpening σ :=
  if zFilename = [] then .tempFile w
  else
    let room := mxPathname + 1
    let zPathname := (Buffer.untouched raw).memset 0 0 1
    let full := sqlite3OsFullPathname env zFilename room zPathname w
    -- the string is looked for in all of the `room * 2` bytes allocated
    let pathname := full.2.1.cString (room * 2)
    let nPathname := sqlite3Strlen30 pathname
    let rc := if full.1 = .ok ∧ nPathname + 8 > mxPathname then .cantopen else full.1
    if rc ≠ .ok then .refused rc full.2.2
    else
      let names := PagerNames.derived (pathname.take nPathname)
      .opening names (sqlite3OsOpen env names.zFilename .zeroed vfsFlags full.2.2)

/-- The string that `sqlite3_snprintf` leaves is what `%s` prints of the text, cut to the size. -/
theorem cString_sqlite3Snprintf {n size : Nat} (hn : 0 < n) (hsize : n ≤ size)
    (zBuf : Buffer UInt8) {text : CString} (hnul : 0 ∉ text) :
    (sqlite3Snprintf n zBuf text).cString size =
      (text.take (sqlite3Strlen30 text)).take (n - 1) := by
  have hlen := length_take_sqlite3Strlen30 text
  have hnul' : 0 ∉ text.take (sqlite3Strlen30 text) := fun hmem => hnul (List.mem_of_mem_take hmem)
  have hprint : sqlite3Snprintf n zBuf text =
      (zBuf.memcpy 0 ((text.take (sqlite3Strlen30 text)).take (n - 1))).memset
        ((text.take (sqlite3Strlen30 text)).take (n - 1)).length 0 1 := by
    have hchar : (if sqlite3Strlen30 text ≥ n then n - 1 else sqlite3Strlen30 text) =
        min (n - 1) (sqlite3Strlen30 text) := by
      split <;> omega
    simp only [sqlite3Snprintf, if_neg (Nat.ne_of_gt hn), hchar, List.take_take, List.length_take,
      Nat.min_eq_left ((Nat.min_le_right (n - 1) _).trans (sqlite3Strlen30_le text))]
  rw [hprint]
  generalize text.take (sqlite3Strlen30 text) = printed at hnul'
  have hshort : (printed.take (n - 1)).length < size := by
    rw [List.length_take]
    omega
  have hnul'' : 0 ∉ printed.take (n - 1) := fun hmem => hnul' (List.mem_of_mem_take hmem)
  generalize printed.take (n - 1) = cut at hshort hnul''
  refine Buffer.cString_eq _ ?_ ?_ hnul'' hshort
  · intro i hi
    simp [Buffer.memset, Buffer.memcpy, hi]
  · simp [Buffer.memset]

/-- Everything that is stored lies in the first `n` bytes. -/
theorem sqlite3Snprintf_stored (n : Nat) (zBuf : Buffer UInt8) (text : CString) {i : Int}
    (h : (sqlite3Snprintf n zBuf text).stored i = true) :
    zBuf.stored i = true ∨ 0 ≤ i ∧ i < n := by
  simp only [sqlite3Snprintf] at h
  split at h
  · exact Or.inl h
  · simp only [Buffer.memset_stored, Buffer.memcpy_stored, List.length_take] at h
    rcases h with (h | h) | h
    · exact Or.inl h
    · right
      split at h <;> omega
    · right
      split at h <;> omega

/-- A NUL is stored among the first `n` bytes. -/
theorem sqlite3Snprintf_terminated {n : Nat} (hn : 0 < n) (zBuf : Buffer UInt8) (text : CString) :
    ∃ i : Nat, i < n ∧ (sqlite3Snprintf n zBuf text).cell i = 0 := by
  refine ⟨if sqlite3Strlen30 text ≥ n then n - 1 else sqlite3Strlen30 text, by split <;> omega, ?_⟩
  simp [sqlite3Snprintf, Nat.ne_of_gt hn, Buffer.memset]

/-- Opening a pager on a name refuses it if the journal's name would not fit, and otherwise opens
the file of exactly what is printed of that name. -/
theorem sqlite3PagerOpen_eq (env : Env σ) (raw : Int → UInt8) {zFilename : CString}
    (hne : zFilename ≠ []) (hnul : 0 ∉ zFilename) (vfsFlags : Nat) (w : World σ) :
    sqlite3PagerOpen env raw zFilename vfsFlags w =
      if sqlite3Strlen30 zFilename + 8 ≤ mxPathname then
        .opening (.derived (zFilename.take (sqlite3Strlen30 zFilename)))
          (sqlite3OsOpen env (zFilename.take (sqlite3Strlen30 zFilename)) .zeroed vfsFlags
            (env.logPrintf w))
      else .refused .cantopen (env.logPrintf w) := by
  have hpath : (sqlite3Snprintf mxPathname (((Buffer.untouched raw).memset 0 0 1).memset 0 0 1)
      zFilename).cString ((mxPathname + 1) * 2) =
        (zFilename.take (sqlite3Strlen30 zFilename)).take (mxPathname - 1) :=
    cString_sqlite3Snprintf (by decide) (by decide) _ hnul
  have hprinted := length_take_sqlite3Strlen30 zFilename
  simp only [sqlite3PagerOpen, if_neg hne, sqlite3OsFullPathname, verixFullPathnameInto, hpath]
  generalize zFilename.take (sqlite3Strlen30 zFilename) = path at hprinted ⊢
  rw [← hprinted]
  by_cases hfits : path.length + 8 ≤ mxPathname
  · -- the path is shorter than the cut, so the measured length is its own
    have hcut : path.take (mxPathname - 1) = path :=
      List.take_of_length_le (by unfold mxPathname at *; omega)
    have hmeasured : sqlite3Strlen30 path = path.length :=
      sqlite3Strlen30_of_lt (by unfold mxPathname at *; omega)
    simp [hcut, hmeasured, hfits, Nat.not_lt.mpr hfits, PagerNames.derived]
  · have hmeasured : mxPathname < sqlite3Strlen30 (path.take (mxPathname - 1)) + 8 := by
      have hlen : (path.take (mxPathname - 1)).length = min (mxPathname - 1) path.length :=
        List.length_take
      rw [sqlite3Strlen30_of_lt] <;> unfold mxPathname at * <;> omega
    simp [hmeasured, hfits]

/-- The two models of the names agree. -/
theorem sqlite3PagerOpen_opening_iff (env : Env σ) (raw : Int → UInt8) {zFilename : CString}
    (hnul : 0 ∉ zFilename) (vfsFlags : Nat) (w : World σ) (names : PagerNames) :
    (∃ opened, sqlite3PagerOpen env raw zFilename vfsFlags w = .opening names opened) ↔
      (sqlite3PagerOpenNames env zFilename w).1 = .ok (some names) := by
  rw [sqlite3PagerOpenNames_eq_some_iff]
  by_cases hne : zFilename = []
  · simp [sqlite3PagerOpen, hne]
  · rw [sqlite3PagerOpen_eq env raw hne hnul]
    by_cases hfits : sqlite3Strlen30 zFilename + 8 ≤ mxPathname
    · simp [hne, hfits, eq_comm]
    · simp [hne, hfits]

end VxSqlite
