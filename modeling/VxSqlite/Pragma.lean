import VxSqlite.Flash
import VxSqlite.Pager.Basic

/-!
# How a PRAGMA is dispatched

`sqlite3Pragma` from its entry to the lookup of the pragma's name, with the functions that find the
database and `sqlite3_file_control`. The file of the database is asked first, and only its
`SQLITE_NOTFOUND` leads to the lookup. `verixFileControl` has one answer for every opcode, so
`sqlite3Pragma_lookup_iff` says that a pragma is looked up exactly if its database has no open file.
-/

namespace VxSqlite

/-! ## Names -/

/-- `sqlite3UpperToLower`. -/
def upperToLower (c : UInt8) : UInt8 := if 65 ≤ c ∧ c ≤ 90 then c + 32 else c

/-- `sqlite3StrICmp` returns 0: the strings are equal up to the case of ASCII letters. -/
def StrICmpEq (zLeft zRight : CString) : Prop :=
  zLeft.map upperToLower = zRight.map upperToLower

instance (zLeft zRight : CString) : Decidable (StrICmpEq zLeft zRight) :=
  inferInstanceAs (Decidable (_ = _))

/-- The loop of `sqlite3Dequote`: a doubled quote stands for itself, a single one ends the text. -/
def dequoteLoop (quote : UInt8) : CString → CString
  | [] => []
  | [c] => if c = quote then [] else [c]
  | c :: d :: rest =>
      if c = quote then if d = quote then quote :: dequoteLoop quote rest else []
      else c :: dequoteLoop quote (d :: rest)

/-- Remove the quotation marks around a name. -/
def sqlite3Dequote : CString → CString
  | [] => []
  | quote :: rest =>
      if quote = 39 ∨ quote = 34 ∨ quote = 96 then dequoteLoop quote rest
      else if quote = 91 then dequoteLoop 93 rest
      else quote :: rest

/-- The name that a token of the SQL text stands for. -/
def sqlite3NameFromToken (pName : CString) : CString := sqlite3Dequote pName

/-! ## Databases -/

/-- A database of a connection: its name, and the file of its pager if its b-tree is open. -/
structure Db where
  zName : CString
  pBt : Option VerixFile

/-- What a connection and its parser bring to a pragma. -/
structure Sqlite3 where
  aDb : List Db
  initBusy : Bool
  initIDb : Nat
  explain : Bool

/-- The index of the database with a name; the search runs from the last database down. -/
def sqlite3FindDbName (db : Sqlite3) (zName : CString) : Option Nat :=
  (List.range db.aDb.length).reverse.find? fun i =>
    (db.aDb[i]?).any fun pDb => StrICmpEq pDb.zName zName

/-- The b-tree with a name, or the first one that is open. -/
def sqlite3DbNameToBtree (db : Sqlite3) (zDbName : Option CString) : Option VerixFile :=
  db.aDb.findSome? fun pDb =>
    if zDbName.all fun zName => StrICmpEq zName pDb.zName then pDb.pBt else none

/-- The database and the unqualified name of `[database.]id`, or the text of the error. -/
def sqlite3TwoPartName (db : Sqlite3) (pName1 pName2 : CString) :
    Except CString (Nat × CString) :=
  if pName2 ≠ [] then
    if db.initBusy then .error (ascii "corrupt database")
    else
      match sqlite3FindDbName db (sqlite3NameFromToken pName1) with
      | none => .error (ascii "unknown database " ++ pName1)
      | some iDb => .ok (iDb, pName2)
  else .ok (db.initIDb, pName1)

variable {σ : Type}

/-- Open the temporary database if it is not. `btreeOpen` opens its b-tree. -/
def sqlite3OpenTempDatabase
    (btreeOpen : World σ → Except ResultCode VerixFile × World σ) (db : Sqlite3) (w : World σ) :
    Except CString Sqlite3 × World σ :=
  if ((db.aDb[1]?).bind Db.pBt).isNone ∧ db.explain = false then
    let opened := btreeOpen w
    match opened.1 with
    | .error _ =>
        (.error (ascii "unable to open a temporary database file for storing temporary tables"),
          opened.2)
    | .ok pBt =>
        (.ok { db with aDb := db.aDb.modify 1 fun pDb => { pDb with pBt := some pBt } }, opened.2)
  else (.ok db, w)

/-! ## File controls -/

/-- `SQLITE_FCNTL_FILE_POINTER`. -/
def fcntlFilePointer : Int := 7

/-- `SQLITE_FCNTL_PRAGMA`. -/
def fcntlPragma : Int := 14

/-- What a file control returns: its code, and the argument as the callee leaves it. For
`SQLITE_FCNTL_FILE_POINTER` the argument becomes the file. -/
structure FileControl (σ arg : Type) where
  rc : ResultCode
  pArg : arg ⊕ VerixFile
  world : World σ

/-- `sqlite3_file_control`. -/
def sqlite3FileControl {arg : Type} (env : Env σ) (db : Sqlite3) (zDbName : Option CString)
    (op : Int) (pArg : arg) (w : World σ) : FileControl σ arg :=
  match sqlite3DbNameToBtree db zDbName with
  | none => ⟨.error, .inl pArg, w⟩
  | some fd =>
      if op = fcntlFilePointer then ⟨.ok, .inr fd, w⟩
      else if IsOpen fd then
        let control := verixFileControl env fd op pArg w
        ⟨control.1, .inl control.2.1, control.2.2⟩
      else ⟨.notfound, .inl pArg, w⟩

/-- The array `aFcntl`: the result the file may store, the pragma's name and its argument. -/
structure FcntlPragma where
  result : Option CString
  zLeft : CString
  zRight : Option CString
  deriving DecidableEq

/-! ## The pragma -/

/-- What `sqlite3Pragma` comes to: it fails with a message, compiles to a statement that does
nothing but return the file's result, fails with the file's code, or goes on to look the name up in
`aPragmaNames`. -/
inductive PragmaOutcome where
  | message (text : CString)
  | noop (result : Option CString)
  | failed (rc : ResultCode) (result : Option CString)
  | lookup (iDb : Nat) (zLeft : CString) (zRight : Option CString)
  deriving DecidableEq

/-- What `sqlite3Pragma` knows when it asks the file. -/
structure PragmaStart (σ : Type) where
  iDb : Nat
  zLeft : CString
  zRight : Option CString
  zDb : Option CString
  db : Sqlite3
  world : World σ

/-- The beginning of `sqlite3Pragma`, up to the file control. -/
def pragmaStart (btreeOpen : World σ → Except ResultCode VerixFile × World σ) (db : Sqlite3)
    (pId1 pId2 : CString) (pValue : Option CString) (minusFlag : Bool) (w : World σ) :
    Except (CString × World σ) (PragmaStart σ) :=
  match sqlite3TwoPartName db pId1 pId2 with
  | .error text => .error (text, w)
  | .ok (iDb, pId) =>
      let opened := if iDb = 1 then sqlite3OpenTempDatabase btreeOpen db w else (.ok db, w)
      match opened.1 with
      | .error text => .error (text, opened.2)
      | .ok db =>
          let zRight := if minusFlag then pValue.map (ascii "-" ++ ·)
            else pValue.map sqlite3NameFromToken
          let zDb := if pId2 ≠ [] then (db.aDb[iDb]?).map Db.zName else none
          .ok ⟨iDb, sqlite3NameFromToken pId, zRight, zDb, db, opened.2⟩

/-- The file control of `sqlite3Pragma` and what it decides. -/
def pragmaDispatch (env : Env σ) (start : PragmaStart σ) : PragmaOutcome × World σ :=
  let control := sqlite3FileControl env start.db start.zDb fcntlPragma
    (⟨none, start.zLeft, start.zRight⟩ : FcntlPragma) start.world
  let result := match control.pArg with
    | .inl aFcntl => aFcntl.result
    | .inr _ => none
  if control.rc = .ok then (.noop result, control.world)
  else if control.rc ≠ .notfound then (.failed control.rc result, control.world)
  else (.lookup start.iDb start.zLeft start.zRight, control.world)

/-- `sqlite3Pragma`, up to the lookup of the name. -/
def sqlite3Pragma (env : Env σ) (btreeOpen : World σ → Except ResultCode VerixFile × World σ)
    (db : Sqlite3) (pId1 pId2 : CString) (pValue : Option CString) (minusFlag : Bool)
    (w : World σ) : PragmaOutcome × World σ :=
  match pragmaStart btreeOpen db pId1 pId2 pValue minusFlag w with
  | .error failed => (.message failed.1, failed.2)
  | .ok start => pragmaDispatch env start

variable {env : Env σ}

/-! ## The answer of the port -/

/-- A file control did something: it changed its argument or the system. -/
def ActedOn {arg : Type} (env : Env σ) (fd : VerixFile) (op : Int) (pArg : arg) (w : World σ) :
    Prop :=
  (verixFileControl env fd op pArg w).2.1 ≠ pArg ∨ (verixFileControl env fd op pArg w).2.2.os ≠ w.os

/-- `SQLITE_OK` stands for an opcode that was acted on, `SQLITE_NOTFOUND` for every other. -/
def FileControlHonest {arg : Type} (env : Env σ) (fd : VerixFile) (op : Int) (pArg : arg)
    (w : World σ) : Prop :=
  ((verixFileControl env fd op pArg w).1 = .ok → ActedOn env fd op pArg w) ∧
    (¬ ActedOn env fd op pArg w → (verixFileControl env fd op pArg w).1 = .notfound)

/-- The port acts on no opcode and claims to have acted on every one. -/
theorem verixFileControl_not_honest {arg : Type} (fd : VerixFile) (op : Int) (pArg : arg)
    (w : World σ) : ¬ FileControlHonest env fd op pArg w := by
  intro h
  rcases h.1 rfl with hchanged | hchanged
  · exact hchanged rfl
  · exact hchanged rfl

/-- A file control on an open file succeeds and does nothing; without an open file it is not
found. -/
theorem sqlite3FileControl_rc (env : Env σ) {arg : Type} {db : Sqlite3}
    {zDbName : Option CString} {fd : VerixFile}
    (hfd : sqlite3DbNameToBtree db zDbName = some fd) {op : Int}
    (hop : op ≠ fcntlFilePointer) (pArg : arg) (w : World σ) :
    (sqlite3FileControl env db zDbName op pArg w).rc = (if IsOpen fd then .ok else .notfound) ∧
      (sqlite3FileControl env db zDbName op pArg w).pArg = .inl pArg := by
  simp only [sqlite3FileControl, hfd, if_neg hop]
  split_ifs
  · exact ⟨rfl, rfl⟩
  · exact ⟨rfl, rfl⟩

/-- A pragma compiles to a statement that does nothing if its database has an open file, and goes
on to the lookup if it has none. -/
theorem pragmaDispatch_outcome (env : Env σ) {start : PragmaStart σ} {fd : VerixFile}
    (hfd : sqlite3DbNameToBtree start.db start.zDb = some fd) :
    (pragmaDispatch env start).1 =
      if IsOpen fd then .noop none else .lookup start.iDb start.zLeft start.zRight := by
  obtain ⟨hrc, hpArg⟩ := sqlite3FileControl_rc env hfd (by decide : fcntlPragma ≠ fcntlFilePointer)
    (⟨none, start.zLeft, start.zRight⟩ : FcntlPragma) start.world
  simp only [pragmaDispatch, hrc, hpArg]
  by_cases hopen : IsOpen fd
  · simp only [hopen, if_true]
  · simp only [hopen, if_false]
    rfl

/-- No file control of the port is honest, and for every pragma, with any argument or none, whose
database is found: the name is looked up exactly if the database has no open file, and with an
open file the statement does nothing. -/
theorem sqlite3Pragma_lookup_iff
    {btreeOpen : World σ → Except ResultCode VerixFile × World σ} {db : Sqlite3}
    {pId1 pId2 : CString} {pValue : Option CString} {minusFlag : Bool} {w : World σ}
    {start : PragmaStart σ} {fd : VerixFile}
    (hstart : pragmaStart btreeOpen db pId1 pId2 pValue minusFlag w = .ok start)
    (hfd : sqlite3DbNameToBtree start.db start.zDb = some fd) :
    (∀ (arg : Type) (op : Int) (pArg : arg) (w : World σ), ¬ FileControlHonest env fd op pArg w) ∧
      ((sqlite3Pragma env btreeOpen db pId1 pId2 pValue minusFlag w).1 =
          .lookup start.iDb start.zLeft start.zRight ↔ ¬ IsOpen fd) ∧
      (IsOpen fd →
        (sqlite3Pragma env btreeOpen db pId1 pId2 pValue minusFlag w).1 = .noop none) := by
  have houtcome := pragmaDispatch_outcome env hfd
  refine ⟨fun _ => verixFileControl_not_honest fd, ?_, ?_⟩
  · simp only [sqlite3Pragma, hstart, houtcome]
    by_cases hopen : IsOpen fd
    · simp [hopen]
    · simp [hopen]
  · intro hopen
    simp only [sqlite3Pragma, hstart, houtcome, if_pos hopen]

/-- A connection with one database, on the given file. -/
def Sqlite3.main (fd : VerixFile) : Sqlite3 := ⟨[⟨ascii "main", some fd⟩], false, 0, false⟩

/-- `PRAGMA main.user_version = 7` on an open file. -/
theorem sqlite3Pragma_lookup_iff_user_version :
    ((sqlite3Pragma quietFlash (fun w => (.error .cantopen, w)) (.main (.on 0 (ascii "db")))
        (ascii "main") (ascii "user_version") (some (ascii "7")) false
        (.opened (ascii "db") [1] (by decide))).1 =
          .lookup 0 (ascii "user_version") (some (ascii "7")) ↔ ¬ IsOpen (.on 0 (ascii "db"))) ∧
      (IsOpen (.on 0 (ascii "db")) →
        (sqlite3Pragma quietFlash (fun w => (.error .cantopen, w)) (.main (.on 0 (ascii "db")))
          (ascii "main") (ascii "user_version") (some (ascii "7")) false
          (.opened (ascii "db") [1] (by decide))).1 = .noop none) := by
  have hstart : pragmaStart (fun w => (.error .cantopen, w)) (.main (.on 0 (ascii "db")))
      (ascii "main") (ascii "user_version") (some (ascii "7")) false
      (.opened (ascii "db") [1] (by decide)) =
        .ok ⟨0, ascii "user_version", some (ascii "7"), some (ascii "main"),
          .main (.on 0 (ascii "db")), .opened (ascii "db") [1] (by decide)⟩ := rfl
  exact (sqlite3Pragma_lookup_iff hstart rfl).2

/-- The same pragma does nothing on an open file and is looked up on a closed one. -/
theorem pragma_on_open_file_noop :
    (sqlite3Pragma quietFlash (fun w => (.error .cantopen, w)) (.main (.on 0 (ascii "db")))
      (ascii "user_version") [] (some (ascii "7")) false
      (.opened (ascii "db") [1] (by decide))).1 = .noop none ∧
    (sqlite3Pragma quietFlash (fun w => (.error .cantopen, w)) (.main .zeroed)
      (ascii "user_version") [] (some (ascii "7")) false
      (.opened (ascii "db") [1] (by decide))).1 =
        .lookup 0 (ascii "user_version") (some (ascii "7")) ∧
    ¬ ∀ (fd : VerixFile) (pId1 : CString) (w : World Flash), IsOpen fd →
      ∃ iDb zLeft zRight, (sqlite3Pragma quietFlash (fun w => (.error .cantopen, w)) (.main fd)
        pId1 [] none false w).1 = .lookup iDb zLeft zRight := by
  refine ⟨rfl, rfl, ?_⟩
  intro h
  obtain ⟨iDb, zLeft, zRight, hlookup⟩ := h (.on 0 (ascii "db")) (ascii "user_version")
    (.opened (ascii "db") [1] (by decide)) rfl
  cases hlookup

end VxSqlite
