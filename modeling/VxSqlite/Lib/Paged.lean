import VxSqlite.Lib.ByteStore

/-!
# Restoring a file block by block

A list is cut into blocks of one size, the first of which has the number 1. `RestoredBut todo`
says that a list has every block of an original but those numbered in `todo`; laying the
original's block over one of them takes its number out of `todo`, and a list of the original's
length with nothing left to do is the original. A list also stands for blocks past its end, which
are padding.
-/

namespace VxSqlite

variable {α : Type}

/-! ## More about windows -/

/-- A buffer laid over the end of a list is appended to it. -/
theorem overlay_length (content buffer : List α) :
    overlay content content.length buffer = content ++ buffer := by
  rw [overlay, List.take_length, List.drop_of_length_le (by omega), List.append_nil]

/-- A buffer that lies inside a list does not change its length. -/
theorem length_overlay_inside {content buffer : List α} {offset : Nat}
    (h : offset + buffer.length ≤ content.length) :
    (overlay content offset buffer).length = content.length := by
  rw [length_overlay buffer (by omega)]
  omega

theorem window_append_left {first : List α} (second : List α) {offset count : Nat}
    (h : offset + count ≤ first.length) :
    window (first ++ second) offset count = window first offset count := by
  rw [window, window, List.drop_append_of_le_length (by omega),
    List.take_append_of_le_length (by rw [List.length_drop]; omega)]

theorem window_append_right (first second : List α) (offset count : Nat) :
    window (first ++ second) (first.length + offset) count = window second offset count := by
  rw [window, window, List.drop_append, List.drop_of_length_le (by omega), List.nil_append,
    Nat.add_sub_cancel_left]

theorem window_self (content : List α) : window content 0 content.length = content := by
  rw [window, List.drop_zero, List.take_length]

/-- A window of a window. -/
theorem window_window {content : List α} {offset count start length : Nat}
    (h : start + length ≤ count) :
    window (window content offset count) start length = window content (offset + start) length := by
  rw [window, window, window, List.drop_take, List.drop_drop, List.take_take]
  congr 1
  omega

/-- A window that ends before a buffer, or begins behind it, shows the old content. -/
theorem window_overlay_outside {content : List α} {start : Nat} (buffer : List α)
    (hstart : start ≤ content.length) {offset count : Nat}
    (h : offset + count ≤ start ∨ start + buffer.length ≤ offset) :
    window (overlay content start buffer) offset count = window content offset count := by
  apply List.ext_getElem?
  intro i
  rw [window, window, List.getElem?_take, List.getElem?_take, List.getElem?_drop,
    List.getElem?_drop]
  split
  · exact getElem?_overlay_outside buffer hstart (by omega)
  · rfl

/-- Cutting a list off behind a window does not change the window. -/
theorem window_take {content : List α} {count offset length : Nat} (h : offset + length ≤ count) :
    window (content.take count) offset length = window content offset length := by
  rw [window, window, List.drop_take, List.take_take, Nat.min_eq_left (by omega)]

/-! ## Blocks -/

/-- The block with a number, from 1 on. -/
def block (size : Nat) (content : List α) (k : Nat) : List α :=
  window content ((k - 1) * size) size

/-- The list is at least as long as the original, and has all its blocks but those to do. -/
structure RestoredBut (size : Nat) (original : List α) (count : Nat) (todo : Nat → Prop)
    (content : List α) : Prop where
  length_le : count * size ≤ content.length
  block_eq : ∀ k, 1 ≤ k → k ≤ count → ¬ todo k → block size content k = block size original k

variable {size count : Nat} {original content : List α} {todo : Nat → Prop}

theorem block_end_le {k : Nat} (hk : 1 ≤ k) (hle : k ≤ count) :
    (k - 1) * size + size ≤ count * size := by
  calc (k - 1) * size + size = (k - 1 + 1) * size := (Nat.succ_mul _ _).symm
    _ ≤ count * size := Nat.mul_le_mul_right size (by omega)

theorem length_block {k : Nat} (hk : 1 ≤ k) (hle : k ≤ count)
    (hlen : count * size ≤ content.length) : (block size content k).length = size :=
  length_window_of_le ((block_end_le hk hle).trans hlen)

/-- A buffer that lies within one block leaves all other blocks as they are. -/
theorem block_overlay_ne {buffer : List α} (hbuffer : buffer.length ≤ size) {k l : Nat}
    (hk : 1 ≤ k) (hl : 1 ≤ l) (hne : l ≠ k) (hstart : (k - 1) * size ≤ content.length) :
    block size (overlay content ((k - 1) * size) buffer) l = block size content l := by
  refine window_overlay_outside buffer hstart ?_
  rcases lt_or_gt_of_ne hne with hlt | hgt
  · left
    calc (l - 1) * size + size = (l - 1 + 1) * size := (Nat.succ_mul _ _).symm
      _ ≤ (k - 1) * size := Nat.mul_le_mul_right size (by omega)
  · right
    calc (k - 1) * size + buffer.length ≤ (k - 1) * size + size := by omega
      _ = (k - 1 + 1) * size := (Nat.succ_mul _ _).symm
      _ ≤ (l - 1) * size := Nat.mul_le_mul_right size (by omega)

theorem block_overlay_self {buffer : List α} (hbuffer : buffer.length = size) {k : Nat}
    (hstart : (k - 1) * size ≤ content.length) :
    block size (overlay content ((k - 1) * size) buffer) k = buffer := by
  subst hbuffer
  exact window_overlay_self buffer hstart

/-- Lists of whole blocks are equal if their blocks are. -/
theorem eq_of_blocks {first second : List α} (hfirst : first.length = count * size)
    (hsecond : second.length = count * size)
    (h : ∀ k, 1 ≤ k → k ≤ count → block size first k = block size second k) : first = second := by
  apply List.ext_getElem?
  intro i
  by_cases hi : i < count * size
  · have hpos : 0 < size := Nat.pos_of_mul_pos_left (lt_of_le_of_lt (Nat.zero_le i) hi)
    have hdiv : i / size < count := Nat.div_lt_of_lt_mul (by rwa [Nat.mul_comm])
    have hblock := congrArg (fun b => b[i % size]?)
      (h (i / size + 1) (Nat.succ_pos _) (Nat.succ_le_of_lt hdiv))
    have hsplit : i / size * size + i % size = i := Nat.div_add_mod' i size
    simpa only [block, window, Nat.add_sub_cancel, List.getElem?_take_of_lt (Nat.mod_lt i hpos),
      List.getElem?_drop, hsplit] using hblock
  · rw [List.getElem?_eq_none (by omega), List.getElem?_eq_none (by omega)]

namespace RestoredBut

/-- Nothing is to do on the original itself. -/
theorem start (hlen : original.length = count * size) (todo : Nat → Prop) :
    RestoredBut size original count todo original :=
  ⟨le_of_eq hlen.symm, fun _ _ _ _ => rfl⟩

theorem mono {more : Nat → Prop} (h : RestoredBut size original count todo content)
    (himp : ∀ k, todo k → more k) : RestoredBut size original count more content :=
  ⟨h.length_le, fun k hk hle hnot => h.block_eq k hk hle fun htodo => hnot (himp k htodo)⟩

/-- Writing into a block that is to do anyway, or behind the original, does no harm. -/
theorem damage (h : RestoredBut size original count todo content) {buffer : List α}
    (hbuffer : buffer.length ≤ size) {k : Nat} (hk : 1 ≤ k)
    (hstart : (k - 1) * size ≤ content.length) (htodo : k ≤ count → todo k) :
    RestoredBut size original count todo (overlay content ((k - 1) * size) buffer) := by
  refine ⟨?_, ?_⟩
  · rw [length_overlay buffer hstart]
    exact le_max_of_le_left h.length_le
  · intro l hl hle hnot
    have hne : l ≠ k := by
      intro heq
      exact hnot (heq ▸ htodo (heq ▸ hle))
    rw [block_overlay_ne hbuffer hk hl hne hstart]
    exact h.block_eq l hl hle hnot

/-- Laying the original's block over one to do takes it off the list. -/
theorem restore (h : RestoredBut size original count todo content)
    (hlen : original.length = count * size) {k : Nat} (hk : 1 ≤ k) (hle : k ≤ count) :
    RestoredBut size original count (fun l => todo l ∧ l ≠ k)
      (overlay content ((k - 1) * size) (block size original k)) := by
  have hblock : (block size original k).length = size := length_block hk hle (le_of_eq hlen.symm)
  have hstart : (k - 1) * size ≤ content.length :=
    (Nat.le_add_right _ _).trans ((block_end_le hk hle).trans h.length_le)
  refine ⟨?_, ?_⟩
  · rw [length_overlay _ hstart]
    exact le_max_of_le_left h.length_le
  · intro l hl hle' hnot
    by_cases hne : l = k
    · rw [hne, block_overlay_self hblock hstart]
    · rw [block_overlay_ne (le_of_eq hblock) hk hl hne hstart]
      exact h.block_eq l hl hle' fun htodo => hnot ⟨htodo, hne⟩

/-- What lies behind the original can be cut off. -/
theorem take (h : RestoredBut size original count todo content) :
    RestoredBut size original count todo (content.take (count * size)) := by
  refine ⟨?_, ?_⟩
  · rw [List.length_take]
    exact le_min (le_refl _) h.length_le
  · intro k hk hle hnot
    rw [block, window_take (block_end_le hk hle)]
    exact h.block_eq k hk hle hnot

/-- With nothing left to do, a list of the original's length is the original. -/
theorem eq_original (h : RestoredBut size original count todo content)
    (hdone : ∀ k, ¬ todo k) (hlen : original.length = count * size)
    (hlength : content.length = count * size) : content = original :=
  eq_of_blocks hlength hlen fun k hk hle => h.block_eq k hk hle (hdone k)

end RestoredBut

/-! ## Blocks past the end -/

/-- The block with a number, filled up past the end of the list. -/
def paddedBlock (pad : α) (size : Nat) (content : List α) (k : Nat) : List α :=
  ByteStore.padded pad content ((k - 1) * size) size

section PaddedBlock

variable (pad : α)

@[simp] theorem length_paddedBlock (size : Nat) (content : List α) (k : Nat) :
    (paddedBlock pad size content k).length = size :=
  ByteStore.length_padded pad content _ size

/-- A block inside the list has no padding. -/
theorem paddedBlock_of_le {k : Nat} (hk : 1 ≤ k) (hle : k ≤ count)
    (hlen : count * size ≤ content.length) :
    paddedBlock pad size content k = block size content k :=
  ByteStore.padded_of_le ((block_end_le hk hle).trans hlen)

/-- A block behind the list is all padding. -/
theorem paddedBlock_of_lt {k : Nat} (hlt : count < k) (hlen : content.length = count * size) :
    paddedBlock pad size content k = List.replicate size pad := by
  refine ByteStore.padded_of_length_le ?_
  rw [hlen]
  exact Nat.mul_le_mul_right size (by omega)

/-- Lists with the same cells in a block have the same padded block. -/
theorem paddedBlock_congr {first second : List α} {k : Nat}
    (h : ∀ i, (k - 1) * size ≤ i → i < (k - 1) * size + size →
      (first[i]?).getD pad = (second[i]?).getD pad) :
    paddedBlock pad size first k = paddedBlock pad size second k := by
  apply List.ext_getElem?
  intro i
  by_cases hi : i < size
  · rw [paddedBlock, paddedBlock, ByteStore.getElem?_padded hi, ByteStore.getElem?_padded hi,
      h _ (by omega) (by omega)]
  · rw [List.getElem?_eq_none (by simpa using hi), List.getElem?_eq_none (by simpa using hi)]

/-- Laying a buffer over a block leaves all others as they are. -/
theorem paddedBlock_overlay_ne {buffer : List α} (hbuffer : buffer.length ≤ size) {k l : Nat}
    (hk : 1 ≤ k) (hl : 1 ≤ l) (hne : l ≠ k) (hstart : (k - 1) * size ≤ content.length) :
    paddedBlock pad size (overlay content ((k - 1) * size) buffer) l =
      paddedBlock pad size content l := by
  refine paddedBlock_congr pad fun i hlo hhi => ?_
  rw [getElem?_overlay_outside buffer hstart]
  have hsucc : ∀ m, 1 ≤ m → (m - 1) * size + size = m * size := by
    intro m hm
    rw [← Nat.succ_mul, Nat.succ_eq_add_one, Nat.sub_add_cancel hm]
  have hkEnd := hsucc k hk
  have hlEnd := hsucc l hl
  rcases lt_or_gt_of_ne hne with hlt | hgt
  · have hbefore : l * size ≤ (k - 1) * size := Nat.mul_le_mul_right size (by omega)
    omega
  · have hbehind : k * size ≤ (l - 1) * size := Nat.mul_le_mul_right size (by omega)
    omega

/-- The block that a buffer was laid over is the buffer. -/
theorem paddedBlock_overlay_self {buffer : List α} (hbuffer : buffer.length = size) {k : Nat}
    (hstart : (k - 1) * size ≤ content.length) :
    paddedBlock pad size (overlay content ((k - 1) * size) buffer) k = buffer := by
  subst hbuffer
  have hend : (k - 1) * buffer.length + buffer.length ≤
      (overlay content ((k - 1) * buffer.length) buffer).length := by
    rw [length_overlay buffer hstart]
    exact le_max_right _ _
  rw [paddedBlock, ByteStore.padded_of_le hend]
  exact window_overlay_self buffer hstart

end PaddedBlock

end VxSqlite
