import VxSqlite.Lib.Overlay
import VxSqlite.Os
import Mathlib.Logic.Function.Basic

/-!
# Files, handles and locks

`Disk` is the abstract state of the terminal's file system: a directory of names, the content
of every file, the open handles with their positions, and for every file the handle that holds
its one lock. What a result assumes of an operating system is that its calls act on such a
state, seen through a `view`: `FileLaws` for the calls on an open file, `DirLaws` for the
directory and `LockLaws` for the lock. `flash` is an operating system that obeys them all.
-/

namespace VxSqlite

/-- A file system. Files are numbered in the order of their creation, `created` is the number
of the next one, and no file reaches the size that a `long` cannot hold. -/
structure Disk where
  dir : CString → Option Nat
  data : Nat → List UInt8
  handles : Int → Option (Nat × Nat)
  locks : Nat → Option Int
  created : Nat
  size_lt : ∀ f, (data f).length < 2 ^ 31
  dir_lt : ∀ name f, dir name = some f → f < created
  handles_lt : ∀ h f p, handles h = some (f, p) → f < created

namespace Disk

/-- Move the position of a handle on file `f`. -/
def seek (d : Disk) (h : Int) (f p : Nat) (hf : f < d.created) : Disk :=
  { d with
    handles := Function.update d.handles h (some (f, p))
    handles_lt := by
      intro h' f' p' heq
      by_cases hh : h' = h
      · subst hh
        simp only [Function.update_self, Option.some.injEq, Prod.mk.injEq] at heq
        omega
      · rw [Function.update_of_ne hh] at heq
        exact d.handles_lt h' f' p' heq }

/-- Replace the content of file `f`. -/
def put (d : Disk) (f : Nat) (content : List UInt8) (hlt : content.length < 2 ^ 31) : Disk :=
  { d with
    data := Function.update d.data f content
    size_lt := by
      intro g
      by_cases hg : g = f
      · subst hg
        simpa using hlt
      · simpa [Function.update_of_ne hg] using d.size_lt g }

/-- Replace the content of file `f` and move the position of a handle on it. -/
def putAt (d : Disk) (h : Int) (f p : Nat) (content : List UInt8)
    (hlt : content.length < 2 ^ 31) (hf : f < d.created) : Disk :=
  (d.put f content hlt).seek h f p (by exact hf)

/-- Create an empty file under a name. -/
def create (d : Disk) (name : CString) : Disk :=
  { d with
    dir := Function.update d.dir name (some d.created)
    data := Function.update d.data d.created []
    created := d.created + 1
    size_lt := by
      intro g
      by_cases hg : g = d.created
      · subst hg
        simp
      · simpa [Function.update_of_ne hg] using d.size_lt g
    dir_lt := by
      intro name' f heq
      by_cases hn : name' = name
      · subst hn
        simp only [Function.update_self, Option.some.injEq] at heq
        omega
      · rw [Function.update_of_ne hn] at heq
        exact Nat.lt_succ_of_lt (d.dir_lt name' f heq)
    handles_lt := fun h f p heq => Nat.lt_succ_of_lt (d.handles_lt h f p heq) }

/-- Remove a name. The file stays behind the handles that are open on it. -/
def unlink (d : Disk) (name : CString) : Disk :=
  { d with
    dir := Function.update d.dir name none
    dir_lt := by
      intro name' f heq
      by_cases hn : name' = name
      · subst hn
        simp at heq
      · rw [Function.update_of_ne hn] at heq
        exact d.dir_lt name' f heq }

/-- Free a handle. -/
def closeHandle (d : Disk) (h : Int) : Disk :=
  { d with
    handles := Function.update d.handles h none
    handles_lt := by
      intro h' f p heq
      by_cases hh : h' = h
      · subst hh
        simp at heq
      · rw [Function.update_of_ne hh] at heq
        exact d.handles_lt h' f p heq }

/-- Set the owner of file `f`'s lock. -/
def setLock (d : Disk) (f : Nat) (owner : Option Int) : Disk :=
  { d with locks := Function.update d.locks f owner }

section Fields

variable (d : Disk) (h : Int) (f p : Nat) (name : CString) (owner : Option Int)

@[simp] theorem seek_dir (hf) : (d.seek h f p hf).dir = d.dir := rfl
@[simp] theorem seek_data (hf) : (d.seek h f p hf).data = d.data := rfl
@[simp] theorem seek_locks (hf) : (d.seek h f p hf).locks = d.locks := rfl
@[simp] theorem seek_created (hf) : (d.seek h f p hf).created = d.created := rfl
@[simp] theorem seek_handles (hf) :
    (d.seek h f p hf).handles = Function.update d.handles h (some (f, p)) := rfl

@[simp] theorem put_dir (content) (hlt) : (d.put f content hlt).dir = d.dir := rfl
@[simp] theorem put_handles (content) (hlt) : (d.put f content hlt).handles = d.handles := rfl
@[simp] theorem put_locks (content) (hlt) : (d.put f content hlt).locks = d.locks := rfl
@[simp] theorem put_created (content) (hlt) : (d.put f content hlt).created = d.created := rfl
@[simp] theorem put_data (content) (hlt) :
    (d.put f content hlt).data = Function.update d.data f content := rfl

@[simp] theorem putAt_dir (content) (hlt) (hf) :
    (d.putAt h f p content hlt hf).dir = d.dir := rfl
@[simp] theorem putAt_locks (content) (hlt) (hf) :
    (d.putAt h f p content hlt hf).locks = d.locks := rfl
@[simp] theorem putAt_data (content) (hlt) (hf) :
    (d.putAt h f p content hlt hf).data = Function.update d.data f content := rfl
@[simp] theorem putAt_handles (content) (hlt) (hf) :
    (d.putAt h f p content hlt hf).handles = Function.update d.handles h (some (f, p)) := rfl

@[simp] theorem setLock_dir : (d.setLock f owner).dir = d.dir := rfl
@[simp] theorem setLock_data : (d.setLock f owner).data = d.data := rfl
@[simp] theorem setLock_handles : (d.setLock f owner).handles = d.handles := rfl
@[simp] theorem setLock_created : (d.setLock f owner).created = d.created := rfl
@[simp] theorem setLock_locks :
    (d.setLock f owner).locks = Function.update d.locks f owner := rfl

end Fields

end Disk

variable {σ : Type}

/-- A write puts at least one byte at the position and advances it, or fails without effect. -/
def WritesInPlace (os : Os σ) (view : σ → Disk) : Prop :=
  ∀ s h f p bytes, (hh : (view s).handles h = some (f, p)) → bytes ≠ [] →
    p ≤ ((view s).data f).length →
    ((os.call (.write h bytes) s).value = none ∧ view (os.call (.write h bytes) s).os = view s) ∨
      ∃ count hlt, 1 ≤ count ∧ count ≤ bytes.length ∧
        (os.call (.write h bytes) s).value = some count ∧
        view (os.call (.write h bytes) s).os =
          (view s).putAt h f (p + count) (overlay ((view s).data f) p (bytes.take count)) hlt
            ((view s).handles_lt h f p hh)

/-- The size query on a name answers the size of the file that it leads to. -/
def ReportsSizes (os : Os σ) (view : σ → Disk) : Prop :=
  ∀ s name f, (view s).dir name = some f →
    (os.call (.dirGetFileSz name) s).value = ((view s).data f).length ∧
      view (os.call (.dirGetFileSz name) s).os = view s

/-- The calls on an open file act on its content and its position. A seek succeeds exactly
within the file, a read copies all bytes there are up to `amt`, a write puts at least one byte
at the position and advances it or fails without effect, the size calls report the size, and
`delete_` removes bytes at the position or fails without effect. -/
structure FileLaws (os : Os σ) (view : σ → Disk) : Prop where
  lseek_inside : ∀ s h f p (offset : Int), (hh : (view s).handles h = some (f, p)) → 0 ≤ offset →
    offset ≤ ((view s).data f).length →
    (os.call (.lseek h offset) s).value = offset ∧
      view (os.call (.lseek h offset) s).os =
        (view s).seek h f offset.toNat ((view s).handles_lt h f p hh)
  lseek_outside : ∀ s h f p (offset : Int), (view s).handles h = some (f, p) →
    offset < 0 ∨ ((view s).data f).length < offset →
    (os.call (.lseek h offset) s).value = -1 ∧ view (os.call (.lseek h offset) s).os = view s
  read : ∀ s h f p (amt : Int), (hh : (view s).handles h = some (f, p)) → 0 ≤ amt →
    (os.call (.read h amt) s).value = some (window ((view s).data f) p amt.toNat) ∧
      view (os.call (.read h amt) s).os =
        (view s).seek h f (p + (window ((view s).data f) p amt.toNat).length)
          ((view s).handles_lt h f p hh)
  write : WritesInPlace os view
  getFileSize : ∀ s h f p, (view s).handles h = some (f, p) →
    (os.call (.getFileSize h) s).value = (0, (((view s).data f).length : Int)) ∧
      view (os.call (.getFileSize h) s).os = view s
  dirGetFileSz : ReportsSizes os view
  delete_ : ∀ s h f p (count : Int), (view s).handles h = some (f, p) → 0 ≤ count →
    p + count ≤ ((view s).data f).length →
    ((os.call (.delete_ h count) s).value ≠ 0 ∧ view (os.call (.delete_ h count) s).os = view s) ∨
      ∃ hlt, (os.call (.delete_ h count) s).value = 0 ∧
        view (os.call (.delete_ h count) s).os =
          (view s).put f (cut ((view s).data f) p count.toNat) hlt

/-- What is left of `FileLaws` when any call may fail at any time: a seek that succeeds moves the
position and nothing else, the size query changes nothing, and a `delete_` that fails changes
nothing. -/
structure FailureLaws (os : Os σ) (view : σ → Disk) : Prop where
  lseek : ∀ s h f p (offset : Int), (hh : (view s).handles h = some (f, p)) →
    ((os.call (.lseek h offset) s).value = -1 ∧ view (os.call (.lseek h offset) s).os = view s) ∨
      (os.call (.lseek h offset) s).value ≠ -1 ∧
        view (os.call (.lseek h offset) s).os =
          (view s).seek h f offset.toNat ((view s).handles_lt h f p hh)
  write : WritesInPlace os view
  getFileSize : ∀ s h f p, (view s).handles h = some (f, p) →
    view (os.call (.getFileSize h) s).os = view s
  delete_ : ∀ s h f p (count : Int), (view s).handles h = some (f, p) →
    (os.call (.delete_ h count) s).value ≠ 0 → view (os.call (.delete_ h count) s).os = view s

/-- `lock(h,0,0)` succeeds exactly when no other handle holds the file's lock, and then `h`
holds it; `unlock(h,0,0)` releases the lock that `h` holds. -/
structure LockLaws (os : Os σ) (view : σ → Disk) : Prop where
  lock_free : ∀ s h f p, (view s).handles h = some (f, p) →
    (view s).locks f = none ∨ (view s).locks f = some h →
    (os.call (.lock h) s).value = 0 ∧
      view (os.call (.lock h) s).os = (view s).setLock f (some h)
  lock_held : ∀ s h f p other, (view s).handles h = some (f, p) →
    (view s).locks f = some other → other ≠ h →
    (os.call (.lock h) s).value ≠ 0 ∧ view (os.call (.lock h) s).os = view s
  unlock_own : ∀ s h f p, (view s).handles h = some (f, p) → (view s).locks f = some h →
    (os.call (.unlock h) s).value = 0 ∧
      view (os.call (.unlock h) s).os = (view s).setLock f none
  unlock_other : ∀ s h f p, (view s).handles h = some (f, p) → (view s).locks f ≠ some h →
    view (os.call (.unlock h) s).os = view s

/-- `open()` with `O_CREAT` creates a missing file empty and opens an existing one unchanged,
or fails without effect; `close()` frees the handle; `_remove` returns 0 exactly when it
removed the name. -/
structure DirLaws (os : Os σ) (view : σ → Disk) : Prop where
  open_failed : ∀ s name flags, (os.call (.openFile name flags) s).value = -1 →
    view (os.call (.openFile name flags) s).os = view s
  open_existing : ∀ s name flags f, (hd : (view s).dir name = some f) →
    (os.call (.openFile name flags) s).value ≠ -1 →
    (view s).handles (os.call (.openFile name flags) s).value = none ∧
      view (os.call (.openFile name flags) s).os =
        (view s).seek (os.call (.openFile name flags) s).value f 0 ((view s).dir_lt name f hd)
  open_missing : ∀ s name flags, (view s).dir name = none →
    (os.call (.openFile name flags) s).value ≠ -1 →
    flags.creat = true ∧ (view s).handles (os.call (.openFile name flags) s).value = none ∧
      view (os.call (.openFile name flags) s).os =
        ((view s).create name).seek (os.call (.openFile name flags) s).value (view s).created 0
          (Nat.lt_succ_self _)
  close : ∀ s h f p, (view s).handles h = some (f, p) →
    (os.call (.close h) s).value = 0 ∧
      ∃ locks, view (os.call (.close h) s).os = { (view s).closeHandle h with locks := locks }
  remove : ∀ s name,
    ((os.call (.remove name) s).value = 0 ∧ (view s).dir name ≠ none ∧
        view (os.call (.remove name) s).os = (view s).unlink name) ∨
      ((os.call (.remove name) s).value ≠ 0 ∧ view (os.call (.remove name) s).os = view s)

/-- The calls that only ask the system for something. -/
def Syscall.IsQuery : {α : Type} → Syscall α → Prop
  | _, .dirGetFileSz _ => True
  | _, .dirGetAttributes _ => True
  | _, .readTicks => True
  | _, .readClock => True
  | _, .rand => True
  | _, .svcWait _ => True
  | _, _ => False

/-- A system that obeys all the laws, and whose queries leave the file system alone. -/
structure Lawful (os : Os σ) (view : σ → Disk) : Prop where
  file : FileLaws os view
  lock : LockLaws os view
  dir : DirLaws os view
  query : ∀ {α : Type} (c : Syscall α) s, c.IsQuery → view (os.call c s).os = view s

end VxSqlite
