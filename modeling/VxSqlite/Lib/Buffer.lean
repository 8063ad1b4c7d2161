import Mathlib.Data.List.Basic
import Mathlib.Tactic.Ring

/-!
# The memory around a pointer

A `Buffer` is what a callee sees of the memory at a pointer it was handed: the cell at every
index, also before the pointer and past the end of the object it points to, and which cells
have been stored to. `memset` and `memcpy` are the C library's. The marks of `stored` make it
a statement about a buffer that nothing outside the caller's object was written.
-/

namespace VxSqlite

/-- Memory relative to a pointer, with a mark on every cell that has been stored to. -/
structure Buffer (α : Type) where
  cell : Int → α
  stored : Int → Bool

namespace Buffer

variable {α : Type}

/-- Memory with the given content that nobody has stored to yet. -/
def untouched (cell : Int → α) : Buffer α := ⟨cell, fun _ => false⟩

/-- `memset(&buffer[start], value, count)`. -/
def memset (buffer : Buffer α) (start : Int) (value : α) (count : Int) : Buffer α where
  cell i := if start ≤ i ∧ i < start + count then value else buffer.cell i
  stored i := buffer.stored i || decide (start ≤ i ∧ i < start + count)

/-- `memcpy(&buffer[start], source, source.length)`. -/
def memcpy (buffer : Buffer α) (start : Int) (source : List α) : Buffer α where
  cell i := if start ≤ i then (source[(i - start).toNat]?).getD (buffer.cell i) else buffer.cell i
  stored i := buffer.stored i || decide (start ≤ i ∧ i < start + source.length)

/-- The first `count` cells. -/
def contents (buffer : Buffer α) (count : Nat) : List α :=
  (List.range count).map fun i : Nat => buffer.cell i

@[simp] theorem length_contents (buffer : Buffer α) (count : Nat) :
    (buffer.contents count).length = count := by
  simp [contents]

theorem getElem?_contents (buffer : Buffer α) {count i : Nat} (h : i < count) :
    (buffer.contents count)[i]? = some (buffer.cell i) := by
  simp [contents, h]

/-- Two pieces of memory that differ in a cell differ in their contents. -/
theorem contents_ne {buffer buffer' : Buffer α} {count i : Nat} (hi : i < count)
    (hne : buffer'.cell i ≠ buffer.cell i) : buffer'.contents count ≠ buffer.contents count := by
  intro heq
  have hcell := congrArg (fun cells => cells[i]?) heq
  simp only [getElem?_contents _ hi, Option.some.injEq] at hcell
  exact hne hcell

@[simp] theorem memset_stored (buffer : Buffer α) (start : Int) (value : α) (count i : Int) :
    (buffer.memset start value count).stored i = true ↔
      buffer.stored i = true ∨ start ≤ i ∧ i < start + count := by
  simp [memset]

@[simp] theorem memcpy_stored (buffer : Buffer α) (start : Int) (source : List α) (i : Int) :
    (buffer.memcpy start source).stored i = true ↔
      buffer.stored i = true ∨ start ≤ i ∧ i < start + source.length := by
  simp [memcpy]

/-- Setting a range that covers the whole object determines its content. -/
theorem contents_memset (buffer : Buffer α) (value : α) {start length : Int} {count : Nat}
    (hstart : start ≤ 0) (hend : count ≤ start + length) :
    (buffer.memset start value length).contents count = List.replicate count value := by
  apply List.ext_getElem?
  intro i
  by_cases hi : i < count
  · rw [getElem?_contents _ hi, List.getElem?_replicate_of_lt hi]
    have hin : start ≤ i ∧ (i : Int) < start + length := by omega
    simp only [memset, if_pos hin]
  · rw [List.getElem?_eq_none (by simpa using hi), List.getElem?_eq_none (by simpa using hi)]

/-- A copy that fills the object determines its content. -/
theorem contents_memcpy (buffer : Buffer α) (source : List α) :
    (buffer.memcpy 0 source).contents source.length = source := by
  apply List.ext_getElem?
  intro i
  by_cases hi : i < source.length
  · rw [getElem?_contents _ hi, List.getElem?_eq_getElem hi]
    simp [memcpy, hi]
  · rw [List.getElem?_eq_none (by simpa using hi), List.getElem?_eq_none (by simpa using hi)]

theorem contents_memcpy_of_length (buffer : Buffer α) {source : List α} {count : Nat}
    (h : source.length = count) : (buffer.memcpy 0 source).contents count = source := by
  rw [← h]
  exact buffer.contents_memcpy source

/-- The cell behind a copy keeps its content. -/
theorem memcpy_cell_length (buffer : Buffer α) (source : List α) :
    (buffer.memcpy 0 source).cell source.length = buffer.cell source.length := by
  simp [memcpy]

/-- A copy into the front of the object and zeros over its rest determine its content. -/
theorem contents_memcpy_memset (buffer : Buffer α) (source : List α) (value : α) {count : Nat}
    (h : source.length ≤ count) :
    ((buffer.memcpy 0 source).memset source.length value (count - source.length)).contents count =
      source ++ List.replicate (count - source.length) value := by
  apply List.ext_getElem?
  intro i
  by_cases hi : i < count
  · rw [getElem?_contents _ hi]
    by_cases hs : i < source.length
    · rw [List.getElem?_append_left hs, List.getElem?_eq_getElem hs]
      simp [memset, memcpy, hs]
    · rw [List.getElem?_append_right (by omega), List.getElem?_replicate_of_lt (by omega)]
      have hin : (source.length : Int) ≤ i ∧
          (i : Int) < source.length + (count - source.length) := by
        omega
      simp only [memset, if_pos hin]
  · rw [List.getElem?_eq_none (by simpa using hi), List.getElem?_eq_none ?_]
    simp only [List.length_append, List.length_replicate]
    omega

/-- The C string at the front of an object of `size` bytes. -/
def cString (buffer : Buffer UInt8) (size : Nat) : List UInt8 :=
  (buffer.contents size).takeWhile fun c => c ≠ 0

/-- The string at the front is the text that stands before the first NUL. -/
theorem cString_eq (buffer : Buffer UInt8) {text : List UInt8} {size : Nat}
    (hcells : ∀ i : Nat, i < text.length → text[i]? = some (buffer.cell i))
    (hend : buffer.cell text.length = 0) (hnul : 0 ∉ text) (hsize : text.length < size) :
    buffer.cString size = text := by
  have hsplit : buffer.contents size =
      text ++ 0 :: (buffer.contents size).drop (text.length + 1) := by
    apply List.ext_getElem?
    intro i
    rcases Nat.lt_trichotomy i text.length with hlt | heq | hgt
    · rw [List.getElem?_append_left hlt, getElem?_contents _ (by omega), hcells i hlt]
    · subst heq
      rw [List.getElem?_append_right (Nat.le_refl _), getElem?_contents _ hsize, hend]
      simp
    · rw [List.getElem?_append_right (by omega), List.getElem?_cons, if_neg (by omega),
        List.getElem?_drop]
      congr 1
      omega
  rw [cString, hsplit, List.takeWhile_append_of_pos]
  · simp
  · intro c hc
    simpa using fun heq : c = 0 => hnul (heq ▸ hc)

end Buffer

end VxSqlite
