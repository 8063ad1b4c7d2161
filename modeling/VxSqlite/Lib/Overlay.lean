import Mathlib.Data.List.Basic
import Mathlib.Tactic.Ring

/-!
# Windows and overlays of a list

The content of a file is a list of cells. `window` reads a range of it, `overlay` lays a buffer
over it from an offset on (growing it where the buffer reaches past the end) and `cut` removes
a range. The laws say which cells change, and that overlays laid end to end compose, which is
what a write that is split into partial writes needs.
-/

namespace VxSqlite

variable {α : Type}

/-- At most `count` cells from `offset` on. -/
def window (content : List α) (offset count : Nat) : List α :=
  (content.drop offset).take count

/-- `content` with `buffer` laid over the cells from `offset` on. -/
def overlay (content : List α) (offset : Nat) (buffer : List α) : List α :=
  content.take offset ++ buffer ++ content.drop (offset + buffer.length)

/-- `content` without the `count` cells from `offset` on. -/
def cut (content : List α) (offset count : Nat) : List α :=
  content.take offset ++ content.drop (offset + count)

@[simp] theorem length_window (content : List α) (offset count : Nat) :
    (window content offset count).length = min count (content.length - offset) := by
  simp [window]

@[simp] theorem overlay_nil (content : List α) (offset : Nat) :
    overlay content offset [] = content := by
  simp [overlay]

theorem length_overlay {content : List α} {offset : Nat} (buffer : List α)
    (h : offset ≤ content.length) :
    (overlay content offset buffer).length = max content.length (offset + buffer.length) := by
  simp only [overlay, List.length_append, List.length_take, List.length_drop]
  omega

/-- Laying a second buffer directly behind the first is laying both at once. -/
theorem overlay_append {content : List α} {offset : Nat} (first second : List α)
    (h : offset ≤ content.length) :
    overlay (overlay content offset first) (offset + first.length) second =
      overlay content offset (first ++ second) := by
  have hhead : (content.take offset ++ first).length = offset + first.length := by
    simp only [List.length_append, List.length_take]
    omega
  have hdrop : ((content.take offset ++ first) ++ content.drop (offset + first.length)).drop
      (offset + first.length + second.length) =
        content.drop (offset + first.length + second.length) := by
    rw [List.drop_append, hhead, List.drop_of_length_le (by omega), List.nil_append,
      List.drop_drop]
    congr 1
    omega
  simp only [overlay, hdrop, List.length_append, ← List.append_assoc]
  rw [List.take_append_of_le_length (by omega), List.take_of_length_le (by omega)]
  congr 2
  omega

/-- A cell outside the buffer's range is the old one. -/
theorem getElem?_overlay_outside {content : List α} {offset : Nat} (buffer : List α) {i : Nat}
    (h : offset ≤ content.length) (hi : i < offset ∨ offset + buffer.length ≤ i) :
    (overlay content offset buffer)[i]? = content[i]? := by
  have hhead : (content.take offset).length = offset := by simp [h]
  rcases hi with hi | hi
  · rw [overlay, List.append_assoc, List.getElem?_append_left (by omega),
      List.getElem?_take_of_lt hi]
  · rw [overlay, List.append_assoc, List.getElem?_append_right (by omega), hhead,
      List.getElem?_append_right (by omega), List.getElem?_drop]
    congr 1
    omega

/-- A cell inside the buffer's range is the buffer's. -/
theorem getElem?_overlay_inside {content : List α} {offset : Nat} (buffer : List α) {i : Nat}
    (h : offset ≤ content.length) (hlo : offset ≤ i) (hhi : i < offset + buffer.length) :
    (overlay content offset buffer)[i]? = buffer[i - offset]? := by
  have hhead : (content.take offset).length = offset := by simp [h]
  rw [overlay, List.append_assoc, List.getElem?_append_right (by omega), hhead,
    List.getElem?_append_left (by omega)]

/-- The buffer is read back where it was laid. -/
theorem window_overlay_self {content : List α} {offset : Nat} (buffer : List α)
    (h : offset ≤ content.length) :
    window (overlay content offset buffer) offset buffer.length = buffer := by
  have hhead : (content.take offset).length = offset := by simp [h]
  rw [window, overlay, List.append_assoc, List.drop_append_of_le_length (by omega),
    List.drop_of_length_le (by omega), List.nil_append, List.take_append_of_le_length (by omega),
    List.take_of_length_le (by omega)]

/-- A window that lies inside the content has exactly the requested length. -/
theorem length_window_of_le {content : List α} {offset count : Nat}
    (h : offset + count ≤ content.length) : (window content offset count).length = count := by
  rw [length_window]
  omega

/-- Cutting everything from an offset on keeps exactly the cells before it. -/
theorem cut_to_end {content : List α} {offset : Nat} :
    cut content offset (content.length - offset) = content.take offset := by
  rw [cut, List.drop_of_length_le (by omega), List.append_nil]

end VxSqlite
