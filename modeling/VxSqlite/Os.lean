import VxSqlite.Lib.Except
import VxSqlite.Lib.Narrow
import Mathlib.Tactic.SplitIfs

/-!
# The operating system under the port

The port sees the terminal's operating system through the calls of `Syscall`. An `Os σ`
answers them on a state of its own, so a theorem over every `Os` covers every behaviour the
system can show, faults included; what a result needs from the system is stated as a law about
its answers. `World` adds to the system's state the C variable `errno`, the port's global
`last_errno` and two marks about the log lines passed so far. `Env` is everything outside the port's
own code: the system, the build (with or without `LOG_PRINTF`) and what the platform finds
where the null pointer is read as a string.
-/

namespace VxSqlite

/-- A NUL-terminated C string, its terminator left out. -/
abbrev CString := List UInt8

/-- The C string of an ASCII literal. -/
def ascii (text : String) : CString := text.toList.map fun c => UInt8.ofNat c.toNat

/-- The mode bits of the system's `open()` that the port sets: `O_RDWR` (against `O_RDONLY`)
and `O_CREAT`. -/
structure OpenFlags where
  rdwr : Bool
  creat : Bool
  deriving DecidableEq

/-- The system calls of the port, each with the type of its answer. `read` answers `-1` as
`none` and otherwise the bytes it copied; `write` answers `-1` as `none` and otherwise how many
bytes it took; `getFileSize` answers its return value and the size it stored;
`dirGetAttributes` answers `-1` as `none` and otherwise whether `ATTR_READONLY` is set. -/
inductive Syscall : Type → Type where
  | openFile (name : CString) (flags : OpenFlags) : Syscall Int
  | close (h : Int) : Syscall Int
  | remove (name : CString) : Syscall Int
  | lseek (h offset : Int) : Syscall Int
  | read (h amt : Int) : Syscall (Option (List UInt8))
  | write (h : Int) (bytes : List UInt8) : Syscall (Option Nat)
  | getFileSize (h : Int) : Syscall (Int × Int)
  | dirGetFileSz (name : CString) : Syscall Int
  | dirGetAttributes (name : CString) : Syscall (Option Bool)
  | delete_ (h count : Int) : Syscall Int
  | lock (h : Int) : Syscall Int
  | unlock (h : Int) : Syscall Int
  | readTicks : Syscall Int
  | readClock : Syscall (List UInt8)
  | rand : Syscall Int
  | svcWait (milliseconds : Int) : Syscall Unit

/-- An answer of the system: the value, the system's next state, and the `errno` the call
leaves if it sets one. -/
structure Reply (σ α : Type) where
  value : α
  os : σ
  errno : Option Int

/-- An operating system with states `σ`. -/
structure Os (σ : Type) where
  call : {α : Type} → Syscall α → σ → Reply σ α

/-- The two builds of the port. Where `LOG_PRINTF` is active, `errnoAfter n` is the value the
`n`-th call of `rt_log_printf` leaves in `errno`. -/
inductive Build where
  | quiet
  | logging (errnoAfter : Nat → Int)

/-- What surrounds the port's code. `nullString` is what a string read through the null pointer
finds, `none` where the platform traps; `writeFuel` bounds the `write()` calls that one
`verixWrite` is followed through. -/
structure Env (σ : Type) where
  os : Os σ
  build : Build
  nullString : Option CString
  writeFuel : Nat

/-- The state the port runs in. `logged` counts the `LOG_PRINTF` lines passed, printed or not,
and `stale` says that one was passed since a system call last set `errno`; no function of the
port reads them. -/
structure World (σ : Type) where
  os : σ
  errno : Int
  lastErrno : Int
  logged : Nat
  stale : Bool

/-- The value of a system call and the world after it. -/
structure Answer (σ α : Type) where
  value : α
  world : World σ

/-- Where the C code has no defined behaviour (a store past the end of an array, a conversion
specification without an argument, a string read through the null pointer), or where the model
stops following the `write()` loop. -/
inductive Fault where
  | overflow
  | missingArgument
  | nullRead
  | unfinished
  deriving DecidableEq

variable {σ α : Type}

/-- Make a system call. -/
def Env.sys (env : Env σ) (c : Syscall α) (w : World σ) : Answer σ α :=
  let reply := env.os.call c w.os
  ⟨reply.value, { w with
    os := reply.os
    errno := reply.errno.getD w.errno
    stale := w.stale && reply.errno.isNone }⟩

/-- What a `LOG_PRINTF` line leaves in `errno`: the old value in the quiet build, whatever
`rt_log_printf` leaves there in the other. -/
def Build.errnoAfterLog (build : Build) (w : World σ) : Int :=
  match build with
  | .quiet => w.errno
  | .logging errnoAfter => errnoAfter w.logged

/-- `LOG_PRINTF((...))`. -/
def Env.logPrintf (env : Env σ) (w : World σ) : World σ :=
  { w with errno := env.build.errnoAfterLog w, logged := w.logged + 1, stale := true }

/-- `last_errno = errno`. -/
def World.saveErrno (w : World σ) : World σ := { w with lastErrno := w.errno }

@[simp] theorem Env.sys_value (env : Env σ) (c : Syscall α) (w : World σ) :
    (env.sys c w).value = (env.os.call c w.os).value := rfl

@[simp] theorem Env.sys_os (env : Env σ) (c : Syscall α) (w : World σ) :
    (env.sys c w).world.os = (env.os.call c w.os).os := rfl

@[simp] theorem Env.sys_lastErrno (env : Env σ) (c : Syscall α) (w : World σ) :
    (env.sys c w).world.lastErrno = w.lastErrno := rfl

@[simp] theorem Env.logPrintf_os (env : Env σ) (w : World σ) : (env.logPrintf w).os = w.os := rfl

@[simp] theorem Env.logPrintf_lastErrno (env : Env σ) (w : World σ) :
    (env.logPrintf w).lastErrno = w.lastErrno := rfl

@[simp] theorem Env.logPrintf_stale (env : Env σ) (w : World σ) :
    (env.logPrintf w).stale = true := rfl

@[simp] theorem World.saveErrno_os (w : World σ) : w.saveErrno.os = w.os := rfl

@[simp] theorem World.saveErrno_lastErrno (w : World σ) : w.saveErrno.lastErrno = w.errno := rfl

/-! ## C strings of numbers and formats -/

/-- The decimal digits of a natural number, as `%d` prints them. -/
def digits (n : Nat) : CString := (Nat.toDigits 10 n).map fun c => UInt8.ofNat c.toNat

/-- What `%d` prints for an `int`. -/
def formatInt (x : Int) : CString :=
  if x < 0 then ascii "-" ++ digits x.natAbs else digits x.natAbs

/-- The character `%`. -/
def percent : UInt8 := 37

/-- A printed natural number consists of the characters `0` to `9`. -/
theorem digit_of_mem_digits {c : UInt8} {n : Nat} (h : c ∈ digits n) : 48 ≤ c ∧ c ≤ 57 := by
  obtain ⟨d, hd, rfl⟩ := List.mem_map.mp h
  have hdigit := Nat.isDigit_of_mem_toDigits (by decide) (by decide) hd
  rw [Char.isDigit_iff_toNat] at hdigit
  have hlow : '0'.toNat = 48 := rfl
  have hhigh : '9'.toNat = 57 := rfl
  have hnat : (UInt8.ofNat d.toNat).toNat = d.toNat := by
    rw [UInt8.toNat_ofNat', Nat.mod_eq_of_lt (by omega)]
  rw [UInt8.le_iff_toNat_le, UInt8.le_iff_toNat_le, hnat]
  exact hdigit

/-- Different natural numbers print differently. -/
theorem digits_injective {m n : Nat} (h : digits m = digits n) : m = n := by
  have hread : ∀ k, (digits k).map (fun c => Char.ofNat c.toNat) = Nat.toDigits 10 k := by
    intro k
    rw [digits, List.map_map]
    conv_rhs => rw [← List.map_id (Nat.toDigits 10 k)]
    apply List.map_congr_left
    intro d hd
    have hdigit := Nat.isDigit_of_mem_toDigits (by decide) (by decide) hd
    rw [Char.isDigit_iff_toNat] at hdigit
    have hhigh : '9'.toNat = 57 := rfl
    simp only [Function.comp_apply, UInt8.toNat_ofNat', id_eq]
    rw [Nat.mod_eq_of_lt (by omega), Char.ofNat_toNat]
  have hdigits : Nat.toDigits 10 m = Nat.toDigits 10 n := by rw [← hread m, ← hread n, h]
  have hvalue := congrArg (fun ds => Nat.ofDigitChars 10 ds 0) hdigits
  simpa only [Nat.ofDigitChars_ten_toDigits] using hvalue

/-- Different integers print differently. -/
theorem formatInt_injective : Function.Injective formatInt := by
  have hsign : ∀ m n, ascii "-" ++ digits m ≠ digits n := by
    intro m n heq
    have hminus : (45 : UInt8) ∈ digits n := by
      rw [← heq]
      exact List.mem_append_left _ (by decide)
    exact absurd (digit_of_mem_digits hminus).1 (by decide)
  intro x y h
  unfold formatInt at h
  split at h <;> split at h
  · have hdigits := digits_injective (List.append_cancel_left h)
    omega
  · exact absurd h (hsign _ _)
  · exact absurd h.symm (hsign _ _)
  · have hdigits := digits_injective h
    omega

/-- The text `sprintf(buffer, format)` prints when it is called without further arguments:
`%%` is one percent sign, and any other conversion has no argument to convert. -/
def sprintfNoArgs : CString → Except Fault CString
  | [] => .ok []
  | [c] => if c = percent then .error .missingArgument else .ok [c]
  | c :: d :: rest =>
      if c = percent then
        if d = percent then do return percent :: (← sprintfNoArgs rest)
        else .error .missingArgument
      else do return c :: (← sprintfNoArgs (d :: rest))

/-- Store a string and its terminator into an array of `size` bytes. -/
def storeString (size : Nat) (text : CString) : Except Fault CString :=
  if text.length + 1 ≤ size then .ok text else .error .overflow

/-- A format without a percent sign is printed as it stands. -/
theorem sprintfNoArgs_plain {format : CString} (h : percent ∉ format) :
    sprintfNoArgs format = .ok format := by
  fun_induction sprintfNoArgs format with
  | case1 => rfl
  | case2 => simp_all
  | case3 c hc => rfl
  | case4 => simp_all
  | case5 => simp_all
  | case6 c d rest hc ih =>
      simp only [List.mem_cons, not_or] at h
      rw [ih (by simpa using h.2)]
      rfl

/-- What is printed is never longer than the format, and shorter if the format has a percent
sign. -/
theorem length_sprintfNoArgs {format text : CString} (h : sprintfNoArgs format = .ok text) :
    text.length ≤ format.length ∧ (percent ∈ format → text.length < format.length) := by
  fun_induction sprintfNoArgs format generalizing text with
  | case1 =>
      cases h
      simp
  | case2 => cases h
  | case3 c hc =>
      cases h
      simp [Ne.symm hc]
  | case4 rest ih =>
      obtain ⟨tail, htail, heq⟩ := bind_eq_ok_iff.mp h
      cases heq
      have := (ih htail).1
      simp only [List.length_cons]
      omega
  | case5 => cases h
  | case6 c d rest hc ih =>
      obtain ⟨tail, htail, heq⟩ := bind_eq_ok_iff.mp h
      cases heq
      have hlen := ih htail
      refine ⟨by simpa using hlen.1, ?_⟩
      intro hmem
      have hmem : percent ∈ d :: rest := by
        rcases List.mem_cons.mp hmem with heq | hmem
        · exact absurd heq.symm hc
        · exact hmem
      simpa using hlen.2 hmem

/-- A format is printed as it stands only if it has no percent sign. -/
theorem sprintfNoArgs_eq_self_iff {format : CString} :
    sprintfNoArgs format = .ok format ↔ percent ∉ format := by
  refine ⟨?_, sprintfNoArgs_plain⟩
  intro h hmem
  exact absurd ((length_sprintfNoArgs h).2 hmem) (lt_irrefl _)

theorem storeString_eq_ok_iff {size : Nat} {text stored : CString} :
    storeString size text = .ok stored ↔ text = stored ∧ text.length + 1 ≤ size := by
  unfold storeString
  split_ifs with h
  · simpa using fun _ => h
  · simpa using fun _ => by omega

end VxSqlite
