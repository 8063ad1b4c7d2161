import VxSqlite.Lib.Overlay

/-!
# The byte array that a file stands for

The abstract store behind a file: one array of cells that is read, overlaid, truncated and
measured. `Effect` relates a call to its answers and to the array after it. A read past the end
is answered short, padded to the requested length; a write or a truncation may also fail, a
write then having laid a proper prefix of its buffer and a truncation nothing. `Trace` is a
sequence of such calls.
-/

namespace VxSqlite.ByteStore

/-- The calls on an array of cells. -/
inductive Call (α : Type) where
  | read (offset count : Nat)
  | write (offset : Nat) (buffer : List α)
  | truncate (count : Nat)
  | size

/-- The answers to a call. -/
inductive Answer (α : Type) where
  | done
  | cells (read : List α)
  | short (read : List α)
  | length (count : Nat)
  | failed
  deriving DecidableEq

variable {α : Type}

/-- A read of `count` cells, filled up with `pad` past the end of the array. -/
def padded (pad : α) (content : List α) (offset count : Nat) : List α :=
  window content offset count ++
    List.replicate (count - (window content offset count).length) pad

/-- What a call may answer, and the array it leaves. -/
inductive Effect (pad : α) (content : List α) : Call α → Answer α → List α → Prop where
  | read (offset count : Nat) : offset + count ≤ content.length →
      Effect pad content (.read offset count) (.cells (window content offset count)) content
  | readShort (offset count : Nat) : content.length < offset + count →
      Effect pad content (.read offset count) (.short (padded pad content offset count)) content
  | write (offset : Nat) (buffer : List α) :
      Effect pad content (.write offset buffer) .done (overlay content offset buffer)
  | writeFailed (offset taken : Nat) (buffer : List α) : taken < buffer.length →
      Effect pad content (.write offset buffer) .failed
        (overlay content offset (buffer.take taken))
  | truncate (count : Nat) :
      Effect pad content (.truncate count) .done (content.take count)
  | truncateFailed (count : Nat) : Effect pad content (.truncate count) .failed content
  | size : Effect pad content .size (.length content.length) content

/-- A sequence of calls with the answers to them. -/
inductive Trace (pad : α) : List α → List (Call α) → List (Answer α) → List α → Prop where
  | nil (content : List α) : Trace pad content [] [] content
  | cons {content middle final : List α} {call : Call α} {answer : Answer α}
      {calls : List (Call α)} {answers : List (Answer α)} :
      Effect pad content call answer middle → Trace pad middle calls answers final →
      Trace pad content (call :: calls) (answer :: answers) final

@[simp] theorem length_padded (pad : α) (content : List α) (offset count : Nat) :
    (padded pad content offset count).length = count := by
  simp only [padded, List.length_append, List.length_replicate, length_window]
  omega

/-- A padded read inside the array is the plain one. -/
theorem padded_of_le {pad : α} {content : List α} {offset count : Nat}
    (h : offset + count ≤ content.length) :
    padded pad content offset count = window content offset count := by
  simp [padded, length_window_of_le h]

/-- A padded read from the end on, or from behind it, is padding only. -/
theorem padded_of_length_le {pad : α} {content : List α} {offset count : Nat}
    (h : content.length ≤ offset) :
    padded pad content offset count = List.replicate count pad := by
  simp [padded, window, List.drop_of_length_le h]

/-- Every cell of a padded read is the array's cell, or the padding past the end. -/
theorem getElem?_padded {pad : α} {content : List α} {offset count i : Nat} (hi : i < count) :
    (padded pad content offset count)[i]? = some ((content[offset + i]?).getD pad) := by
  by_cases hin : offset + i < content.length
  · have hlen : i < (window content offset count).length := by
      rw [length_window]
      omega
    rw [padded, List.getElem?_append_left hlen, window, List.getElem?_take_of_lt hi,
      List.getElem?_drop, List.getElem?_eq_getElem hin, Option.getD_some]
  · have hlen : (window content offset count).length ≤ i := by
      rw [length_window]
      omega
    rw [padded, List.getElem?_append_right hlen, List.getElem?_replicate_of_lt (by omega),
      List.getElem?_eq_none (by omega), Option.getD_none]

/-- Filling a partial read up with padding is the padded read exactly if every cell that was not
read is padding, or lies past the end of the array. -/
theorem window_append_eq_padded_iff {pad : α} {content : List α} {offset count k : Nat}
    (hk : k ≤ count) :
    window content offset k ++ List.replicate (count - (window content offset k).length) pad =
        padded pad content offset count ↔
      ∀ i, (window content offset k).length ≤ i → i < count →
        (content[offset + i]?).getD pad = pad := by
  have hlen := length_window content offset k
  constructor
  · intro h i hlo hhi
    have hcell := congrArg (fun cells => cells[i]?) h
    rw [List.getElem?_append_right hlo, List.getElem?_replicate_of_lt (by omega),
      getElem?_padded hhi] at hcell
    exact (Option.some.inj hcell).symm
  · intro h
    apply List.ext_getElem?
    intro i
    by_cases hi : i < count
    · rw [getElem?_padded hi]
      by_cases hread : i < (window content offset k).length
      · rw [List.getElem?_append_left hread, window, List.getElem?_take_of_lt (by omega),
          List.getElem?_drop, List.getElem?_eq_getElem (by omega), Option.getD_some]
      · rw [List.getElem?_append_right (by omega), List.getElem?_replicate_of_lt (by omega),
          h i (by omega) hi]
    · rw [List.getElem?_eq_none ?_, List.getElem?_eq_none (by rw [length_padded]; omega)]
      rw [List.length_append, List.length_replicate]
      omega

end VxSqlite.ByteStore
