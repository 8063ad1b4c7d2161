import VxSqlite.Verix.File

/-!
# The VFS methods of the port

Opening, deleting and probing files by name, the full pathname, randomness, sleep, the current
time and the last error: the functions of `verix.c` that `sqlite3_os_init` registers. Stores
into the C arrays `filename[50]`, `verixFile.filename` and `msg[20]` go through `storeString`,
which faults where the C code writes past the array.
-/

namespace VxSqlite

/-! ## The flags of `xOpen` -/

/-- `SQLITE_OPEN_READONLY`. -/
def openReadonly : Nat := 0x1

/-- `SQLITE_OPEN_READWRITE`. -/
def openReadwrite : Nat := 0x2

/-- `SQLITE_OPEN_CREATE`. -/
def openCreate : Nat := 0x4

/-- `SQLITE_OPEN_DELETEONCLOSE`. -/
def openDeleteonclose : Nat := 0x8

/-- `SQLITE_OPEN_EXCLUSIVE`. -/
def openExclusive : Nat := 0x10

/-- `flags & bits` is non-zero. -/
def HasFlag (flags bits : Nat) : Prop := flags &&& bits ≠ 0

instance (flags bits : Nat) : Decidable (HasFlag flags bits) := inferInstanceAs (Decidable (_ ≠ _))

/-- `ENOENT`. -/
def ENOENT : Int := 2

/-- `MAX_VERIX_FILE_NAME`, and the size of the local array in `verixOpen`. -/
def maxVerixFileName : Nat := 50

/-- The `mxPathname` that `sqlite3_os_init` registers. -/
def mxPathname : Nat := 128

variable {σ : Type}

/-- What `verixOpen` returns and stores: its result, the file object, the flags stored through
`pOutFlags` (the caller may pass no place for them) and the world. -/
structure Opened (σ : Type) where
  rc : ResultCode
  file : VerixFile
  outFlags : Option Nat
  world : World σ

/-- The first lines of `verixOpen`: the text built in the local array `filename`, which is the
name that is then opened. -/
def verixOpenFilename (env : Env σ) (zName : Option CString) (w : World σ) :
    Except Fault (CString × World σ) :=
  match zName with
  | none => do
      let ticks := env.sys .readTicks w
      let filename ← storeString maxVerixFileName (ascii "tmp" ++ formatInt (toInt ticks.value))
      return (filename, ticks.world)
  | some name => do
      let text ← sprintfNoArgs name
      let filename ← storeString maxVerixFileName text
      return (filename, w)

/-- `strcpy(pFile->filename, zName)`. -/
def verixOpenStrcpy (env : Env σ) (zName : Option CString) : Except Fault CString :=
  match zName with
  | some name => storeString maxVerixFileName name
  | none =>
      match env.nullString with
      | none => .error .nullRead
      | some text => storeString maxVerixFileName text

/-- The flags `verixOpen` gives to `open()`. -/
def verixOpenFlags (flags : Nat) : OpenFlags :=
  ⟨HasFlag flags openReadwrite, HasFlag flags openCreate⟩

/-- The rest of `verixOpen`, from the first log line on. -/
def verixOpenFile (env : Env σ) (zName : Option CString) (id : VerixFile) (flags : Nat)
    (filename : CString) (w : World σ) : Except Fault (Opened σ) :=
  let isTemp : Bool := HasFlag flags openDeleteonclose
  let w := env.logPrintf w
  let opened := env.sys (.openFile filename (verixOpenFlags flags)) w
  if opened.value = -1 then
    .ok ⟨.cantopen, id, none, (env.logPrintf opened.world).saveErrno⟩
  else
    let w := env.logPrintf opened.world
    let outFlags := if HasFlag flags openReadwrite then openReadwrite else openReadonly
    match verixOpenStrcpy env zName with
    | .error fault => .error fault
    | .ok stored => .ok ⟨.ok, ⟨true, opened.value, isTemp, stored⟩, some outFlags, w⟩

/-- Open a file. `zName` is `none` for an anonymous temporary file, `id` the file object as the
caller hands it over. -/
def verixOpen (env : Env σ) (zName : Option CString) (id : VerixFile) (flags : Nat) (w : World σ) :
    Except Fault (Opened σ) := do
  let (filename, w) ← verixOpenFilename env zName w
  verixOpenFile env zName id flags filename w

/-- Delete the named file. -/
def verixDelete (env : Env σ) (zFilename : CString) (w : World σ) : ResultCode × World σ :=
  let ret := env.sys (.remove zFilename) w
  let w := env.logPrintf ret.world
  if ret.value = 0 then (.ok, w)
  else (if w.errno = ENOENT then .ioerrDeleteNoent else .ioerrDelete, w)

/-- The flags of `xAccess`. -/
inductive AccessFlag where
  | exists
  | readwrite
  | read
  deriving DecidableEq

/-- Check whether the named file exists, or can be written. -/
def verixAccess (env : Env σ) (zFilename : CString) (flags : AccessFlag) (w : World σ) :
    ResultCode × Bool × World σ :=
  let attr := env.sys (.dirGetAttributes zFilename) w
  let rc := match flags with
    | .read | .exists => attr.value.isSome
    -- all bits of `-1` are set, `ATTR_READONLY` among them
    | .readwrite => attr.value = some false
  (.ok, rc, env.logPrintf attr.world)

/-- `sqlite3Strlen30`: the lower 30 bits of the length of a string. -/
def sqlite3Strlen30 (z : CString) : Nat := z.length % 0x40000000

/-- `sqlite3_snprintf(pVfs->mxPathname, zFull, "%s", zRelative)`. Of a string, `%s` prints as much
as `sqlite3Strlen30` counts. -/
def verixFullPathname (env : Env σ) (zRelative : CString) (w : World σ) :
    ResultCode × CString × World σ :=
  (.ok, (zRelative.take (sqlite3Strlen30 zRelative)).take (mxPathname - 1), env.logPrintf w)

/-- A string below a gigabyte is measured right. -/
theorem sqlite3Strlen30_of_lt {z : CString} (h : z.length < 0x40000000) :
    sqlite3Strlen30 z = z.length :=
  Nat.mod_eq_of_lt h

theorem sqlite3Strlen30_le (z : CString) : sqlite3Strlen30 z ≤ z.length := Nat.mod_le _ _

/-- What `%s` prints of a string is as long as it was measured. -/
theorem length_take_sqlite3Strlen30 (z : CString) :
    (z.take (sqlite3Strlen30 z)).length = sqlite3Strlen30 z := by
  rw [List.length_take, Nat.min_eq_left (sqlite3Strlen30_le z)]

/-- The loop of `verixRandomness`. -/
def verixRandomnessLoop (env : Env σ) : Nat → World σ → List UInt8 × World σ
  | 0, w => ([], w)
  | n + 1, w =>
      let r := env.sys .rand w
      let rest := verixRandomnessLoop env n r.world
      (UInt8.ofInt (r.value.tmod 255) :: rest.1, rest.2)

/-- Write `nBuf` bytes of randomness. -/
def verixRandomness (env : Env σ) (nBuf : Nat) (w : World σ) : Nat × List UInt8 × World σ :=
  (nBuf, verixRandomnessLoop env nBuf (env.logPrintf w))

/-- Sleep, and return the microseconds slept. -/
def verixSleep (env : Env σ) (microsec : Int) (w : World σ) : Int × World σ :=
  let slept := env.sys (.svcWait ((microsec + 999).tdiv 1000)) (env.logPrintf w)
  ((microsec + 999).tdiv 1000 * 1000, slept.world)

/-! ## The current time -/

/-- The white space that `atoi` skips. -/
def isSpace (c : UInt8) : Bool := c = 32 || (9 ≤ c && c ≤ 13)

/-- The value of the digits at the front of a string, after the value `acc` of those before. -/
def atoiDigits (acc : Int) : CString → Int
  | [] => acc
  | c :: rest => if 48 ≤ c ∧ c ≤ 57 then atoiDigits (10 * acc + (c.toNat - 48)) rest else acc

/-- The C library's `atoi`. -/
def atoi (text : CString) : Int :=
  match text.dropWhile isSpace with
  | 45 :: rest => -atoiDigits 0 rest
  | 43 :: rest => atoiDigits 0 rest
  | rest => atoiDigits 0 rest

/-- `memcpy(field, &buf[start], 2)` into a zeroed `char field[3]`: the C string up to a NUL. -/
def clockField (buf : List UInt8) (start : Nat) : CString :=
  ((buf.drop start).take 2).takeWhile (· ≠ 0)

/-- Lines 603 to 606: the day number of a year, month and day. -/
def verixJdn (year month day : Int) : Int :=
  let a := (14 - month).tdiv 12
  let y := year + 4800 - a
  let m := month + 12 * a - 3
  day + (153 * m + 2).tdiv 5 + 365 * y + y.tdiv 4 - y.tdiv 100 + y.tdiv 400 - 32045

/-- The value that the digits of the clock stand for. All of its terms are C integers, so the
`double` holds an integer. -/
def verixClockValue (clock : List UInt8) : Int :=
  -- `buf[16]` is zeroed before `read_clock` fills the front of it
  let buf := (clock ++ List.replicate 16 0).take 16
  let day := atoi (clockField buf 6)
  let month := atoi (clockField buf 4)
  let year := atoi (clockField buf 2)
  let hour := atoi (clockField buf 8)
  let minute := atoi (clockField buf 10)
  let second := atoi (clockField buf 12)
  verixJdn year month day + (hour - 12).tdiv 24 + minute.tdiv 1440 + second.tdiv 86400

/-- The value stored in `*prNow`. -/
def verixCurrentTime (env : Env σ) (w : World σ) : Int × World σ :=
  let clock := env.sys .readClock (env.logPrintf w)
  (verixClockValue clock.value, clock.world)

/-! ## The last error -/

/-- The text of `verixGetLastError` in its array `msg[20]`. -/
def verixErrorText (w : World σ) : Except Fault CString :=
  storeString 20 (ascii "verix errno: " ++ formatInt w.lastErrno)

/-- Copy the text of the last error into the caller's buffer of `nBuf` bytes. -/
def verixGetLastError (nBuf : Nat) (zBuf : Buffer UInt8) (w : World σ) :
    Except Fault (Int × Buffer UInt8) := do
  let msg ← verixErrorText w
  if msg.length ≥ nBuf then return (1, zBuf.memcpy 0 (msg.take nBuf))
  else return (0, zBuf.memcpy 0 msg)

end VxSqlite
