import VxSqlite.Lib.Except
import VxSqlite.Lib.Probing
import VxSqlite.Os
import Mathlib.Data.Finset.Insert
import Mathlib.Logic.Function.Basic
import Mathlib.Tactic.IntervalCases

/-!
# The set of journalled pages

`Bitvec` of SQLite's `bitvec.c`, in which the pager keeps the pages it has journalled: a straight
bitmap for few bits, else a hash table, which is divided among sub-bitmaps when it gets too full.
The C union is an inductive type here, with the null pointer as a case of its own. Its `u32` fields
are numbers below `2 ^ 32`. Failing allocations are left out; a probe of the hash table that finds
no cell to stop at does not end. `WellFormed` is what every operation keeps, and `Holds` says which
bits are set. All of it is for bitmaps whose size leaves room for the divisor to be computed; for a
larger one the divisor is 0, and the table that was to be divided is one without values.
-/

namespace VxSqlite

/-- `BITVEC_USIZE`, with the pointers of the terminal. -/
def bitvecUsize : Nat := (512 - 3 * 4) / 4 * 4

/-- `BITVEC_NELEM`. -/
def bitvecNelem : Nat := bitvecUsize

/-- `BITVEC_NBIT`. -/
def bitvecNbit : Nat := bitvecNelem * 8

/-- `BITVEC_NINT`. -/
def bitvecNint : Nat := bitvecUsize / 4

/-- `BITVEC_MXHASH`. -/
def bitvecMxhash : Nat := bitvecNint / 2

/-- `BITVEC_NPTR`. -/
def bitvecNptr : Nat := bitvecUsize / 4

/-- A pointer to a `Bitvec`: the null pointer, or one of the three representations. -/
inductive Bitvec where
  | null
  | bitmap (iSize : Nat) (aBitmap : List UInt8)
  | hash (iSize nSet : Nat) (aHash : List Nat)
  | sub (iSize iDivisor : Nat) (apSub : Nat → Bitvec)

/-- `sqlite3BitvecSize`. -/
def Bitvec.iSize : Bitvec → Nat
  | .null => 0
  | .bitmap iSize _ => iSize
  | .hash iSize _ _ => iSize
  | .sub iSize _ _ => iSize

/-- Create a bitmap for the bits up to `iSize`, which is passed as a `u32`, all clear. -/
def sqlite3BitvecCreate (iSize : Nat) : Bitvec :=
  let iSize := iSize % 2 ^ 32
  if iSize ≤ bitvecNbit then .bitmap iSize (List.replicate bitvecNelem 0)
  else .hash iSize 0 (List.replicate bitvecNint 0)

/-- `iDivisor` of a bitmap that is divided, computed with `u32` values. -/
def bitvecDivisor (iSize : Nat) : Nat := (iSize + bitvecNptr - 1) % 2 ^ 32 / bitvecNptr

/-- The bitmap of a hash table whose values have been moved away, with its divisor set. A divisor
of 0 is none: the bitmap is still a hash table, and its memory is zeroed. -/
def bitvecDivided (iSize nSet : Nat) : Bitvec :=
  if bitvecDivisor iSize = 0 then .hash iSize nSet (List.replicate bitvecNint 0)
  else .sub iSize (bitvecDivisor iSize) fun _ => .null

/-- `BITVEC_HASH(i-1)`, for the value `i` of a bit. -/
def bitvecHash (i : Nat) : Nat := (i - 1) % bitvecNint

/-- The loops over `aHash`: from the cell of `i` on, the first that is free or holds `key`. -/
def bitvecProbe (aHash : List Nat) (key i : Nat) : Except Fault Nat :=
  match Probing.probe 0 bitvecNint aHash key bitvecNint (bitvecHash i) with
  | none => .error .unfinished
  | some h => .ok h

/-- `1 << (i & (BITVEC_SZELEM-1))`. -/
def bitvecMask (i : Nat) : UInt8 := 1 <<< UInt8.ofNat (i % 8)

/-- The rest of `sqlite3BitvecTest` and its loop, behind `i--`. -/
def bitvecTestAt : Bitvec → Nat → Except Fault Bool
  | .null, _ => .ok false
  | .sub _ iDivisor apSub, i => bitvecTestAt (apSub (i / iDivisor)) (i % iDivisor)
  | .bitmap _ aBitmap, i => .ok (decide (aBitmap[i / 8]?.getD 0 &&& bitvecMask i ≠ 0))
  | .hash _ _ aHash, i => do
      let h ← bitvecProbe aHash (i + 1) (i + 1)
      return decide (Probing.cell 0 aHash h = i + 1)

/-- Whether the `i`-th bit is set. -/
def sqlite3BitvecTest (p : Bitvec) (i : Nat) : Except Fault Bool :=
  if i > p.iSize ∨ i = 0 then .ok false else bitvecTestAt p (i - 1)

/-- `sqlite3BitvecSet` behind `i--`. A hash table that gets too full is divided: its values are
set again, now in the sub-bitmaps. -/
def bitvecSetAt : Nat → Bitvec → Nat → Except Fault Bitvec
  | 0, _, _ => .error .unfinished
  | _ + 1, .null, _ => .ok .null
  | fuel + 1, .sub iSize iDivisor apSub, i => do
      let bin := i / iDivisor
      let child := match apSub bin with
        | .null => sqlite3BitvecCreate iDivisor
        | p => p
      let child ← bitvecSetAt fuel child (i % iDivisor)
      return .sub iSize iDivisor (Function.update apSub bin child)
  | _ + 1, .bitmap iSize aBitmap, i =>
      .ok (.bitmap iSize (aBitmap.set (i / 8) (aBitmap[i / 8]?.getD 0 ||| bitvecMask i)))
  | fuel + 1, .hash iSize nSet aHash, i => do
      let h ← bitvecProbe aHash (i + 1) (i + 1)
      if Probing.cell 0 aHash h = i + 1 then return .hash iSize nSet aHash
      else if bitvecMxhash ≤ nSet ∧
          (Probing.cell 0 aHash (bitvecHash (i + 1)) ≠ 0 ∨ bitvecNint - 1 ≤ nSet) then
        let p ← bitvecSetAt fuel (bitvecDivided iSize nSet) i
        aHash.foldlM (fun p value => if value ≠ 0 then bitvecSetAt fuel p (value - 1) else .ok p) p
      else return .hash iSize (nSet + 1) (aHash.set h (i + 1))

/-- Set the `i`-th bit, which must be in range. -/
def sqlite3BitvecSet (p : Bitvec) (i : Nat) : Except Fault Bitvec :=
  bitvecSetAt (p.iSize + 1) p (i - 1)

/-- Store a value back into a hash table that is built anew; `nSet` counts along. -/
def bitvecRefill (table : Nat × List Nat) (value : Nat) : Except Fault (Nat × List Nat) := do
  let h ← bitvecProbe table.2 0 value
  return (table.1 + 1, table.2.set h value)

/-- `sqlite3BitvecClear` behind `i--`. A hash table is filled again with all its other values. -/
def bitvecClearAt : Bitvec → Nat → Except Fault Bitvec
  | .null, _ => .ok .null
  | .sub iSize iDivisor apSub, i => do
      let bin := i / iDivisor
      let child ← bitvecClearAt (apSub bin) (i % iDivisor)
      return .sub iSize iDivisor (Function.update apSub bin child)
  | .bitmap iSize aBitmap, i =>
      .ok (.bitmap iSize (aBitmap.set (i / 8) (aBitmap[i / 8]?.getD 0 &&& ~~~bitvecMask i)))
  | .hash iSize _ aHash, i => do
      let table ← (aHash.filter fun value => value ≠ 0 ∧ value ≠ i + 1).foldlM bitvecRefill
        (0, List.replicate bitvecNint 0)
      return .hash iSize table.1 table.2

/-- Clear the `i`-th bit, which must be in range. -/
def sqlite3BitvecClear (p : Bitvec) (i : Nat) : Except Fault Bitvec := bitvecClearAt p (i - 1)

/-! ## What an operation keeps -/

/-- The hash table of a `Bitvec` and its count: no more than all but one cell are taken. -/
structure Bitvec.HashTable (iSize nSet : Nat) (aHash : List Nat) : Prop where
  chained : Probing.Chained 0 bitvecHash bitvecNint aHash
  count : nSet = (Probing.keys 0 aHash).length
  room : nSet < bitvecNint
  range : ∀ value ∈ aHash, value ≤ iSize

/-- The divisor of a bitmap of this size can be computed. -/
def DivisorFits (iSize : Nat) : Prop := iSize + bitvecNptr ≤ 2 ^ 32

/-- Each representation is used where it belongs, and the sub-bitmaps have the size that the
divisor gives them. -/
def Bitvec.WellFormed : Bitvec → Prop
  | .null => True
  | .bitmap iSize aBitmap => iSize ≤ bitvecNbit ∧ aBitmap.length = bitvecNelem
  | .hash iSize nSet aHash => bitvecNbit < iSize ∧ DivisorFits iSize ∧ HashTable iSize nSet aHash
  | .sub iSize iDivisor apSub => bitvecNbit < iSize ∧ DivisorFits iSize ∧
      iDivisor = bitvecDivisor iSize ∧
      ∀ bin, (apSub bin).WellFormed ∧ (apSub bin = .null ∨ (apSub bin).iSize = iDivisor)

/-- The bit behind the index `i` is set. -/
def Bitvec.Holds : Bitvec → Nat → Prop
  | .null, _ => False
  | .bitmap _ aBitmap, i => aBitmap[i / 8]?.getD 0 &&& bitvecMask i ≠ 0
  | .hash _ _ aHash, i => i + 1 ∈ aHash
  | .sub _ iDivisor apSub, i => (apSub (i / iDivisor)).Holds (i % iDivisor)

/-! ## The bitmap -/

theorem bitvecMask_toBitVec (i : Nat) : (bitvecMask i).toBitVec = BitVec.twoPow 8 (i % 8) := by
  have hlt : i % 8 < 8 := Nat.mod_lt _ (by omega)
  unfold bitvecMask
  interval_cases i % 8 <;> rfl

/-- Testing with the mask of `i` reads the bit `i % 8`. -/
theorem and_bitvecMask_ne_zero_iff (x : UInt8) (i : Nat) :
    x &&& bitvecMask i ≠ 0 ↔ x.toBitVec.getLsbD (i % 8) = true := by
  rw [ne_eq, ← UInt8.toBitVec_inj, UInt8.toBitVec_and, bitvecMask_toBitVec, BitVec.and_twoPow]
  have hlt : i % 8 < 8 := Nat.mod_lt _ (by omega)
  by_cases h : x.toBitVec.getLsbD (i % 8) = true
  · simp only [h, if_true, iff_true]
    interval_cases i % 8 <;> decide
  · simp [h]

theorem or_bitvecMask (x : UInt8) (i j : Nat) :
    (x ||| bitvecMask i) &&& bitvecMask j ≠ 0 ↔ j % 8 = i % 8 ∨ x &&& bitvecMask j ≠ 0 := by
  simp only [and_bitvecMask_ne_zero_iff, UInt8.toBitVec_or, bitvecMask_toBitVec,
    BitVec.getLsbD_or, BitVec.getLsbD_twoPow, Bool.or_eq_true]
  by_cases heq : j % 8 = i % 8
  · simp [heq, show i % 8 < 8 from by omega]
  · simp [heq, Ne.symm heq]

theorem and_not_bitvecMask (x : UInt8) (i j : Nat) :
    (x &&& ~~~bitvecMask i) &&& bitvecMask j ≠ 0 ↔ j % 8 ≠ i % 8 ∧ x &&& bitvecMask j ≠ 0 := by
  simp only [and_bitvecMask_ne_zero_iff, UInt8.toBitVec_and, UInt8.toBitVec_not,
    bitvecMask_toBitVec, BitVec.getLsbD_and, BitVec.getLsbD_not, BitVec.getLsbD_twoPow]
  by_cases heq : j % 8 = i % 8
  · simp [heq]
  · simp [heq, Ne.symm heq, show j % 8 < 8 from by omega]

/-- Changing the byte of bit `i` of a bitmap, seen at bit `j`. -/
theorem getD_set_byte {aBitmap : List UInt8} {i : Nat} (hi : i / 8 < aBitmap.length) (j : Nat)
    (byte : UInt8) :
    (aBitmap.set (i / 8) byte)[j / 8]?.getD 0 =
      if i / 8 = j / 8 then byte else aBitmap[j / 8]?.getD 0 := by
  rw [List.getElem?_set]
  split_ifs <;> rfl

/-! ## The hash table -/

section HashTable

variable {iSize nSet : Nat} {aHash : List Nat}

open Bitvec

theorem bitvecHash_lt (i : Nat) : bitvecHash i < bitvecNint :=
  Nat.mod_lt _ (show 0 < bitvecNint from by decide)

theorem Bitvec.HashTable.exists_free (h : HashTable iSize nSet aHash) :
    ∃ k < bitvecNint, Probing.cell 0 aHash k = 0 :=
  Probing.exists_free h.chained.length (h.count ▸ h.room)

/-- The search for a value ends at the value, or at a free cell where it may be stored. -/
theorem Bitvec.HashTable.probe (h : HashTable iSize nSet aHash) {value : Nat} (hvalue : value ≠ 0) :
    ∃ k < bitvecNint, bitvecProbe aHash value value = .ok k ∧
      Probing.Path 0 bitvecHash bitvecNint aHash value k ∧
      (value ∈ aHash → Probing.cell 0 aHash k = value) ∧
      (value ∉ aHash → Probing.cell 0 aHash k = 0) := by
  obtain ⟨k, hk, hprobe, hrest⟩ := h.chained.probe hvalue h.exists_free (bitvecHash_lt value)
  exact ⟨k, hk, by rw [bitvecProbe, hprobe], hrest⟩

/-- Storing a value at a free cell on its path. -/
theorem Bitvec.HashTable.insert (h : HashTable iSize nSet aHash) {value k : Nat}
    (hk : k < bitvecNint) (hpath : Probing.Path 0 bitvecHash bitvecNint aHash value k)
    (hfree : Probing.cell 0 aHash k = 0) (hvalue : value ≠ 0) (hroom : nSet + 1 < bitvecNint)
    (hrange : value ≤ iSize) : HashTable iSize (nSet + 1) (aHash.set k value) where
  chained := h.chained.insert hk hpath hvalue
  count := by
    rw [Probing.length_keys_set (by rwa [h.chained.length]) hfree hvalue, h.count]
  room := hroom
  range := by
    intro x hx
    rcases List.mem_or_eq_of_mem_set hx with hmem | heq
    · exact h.range x hmem
    · exact heq ▸ hrange

theorem Bitvec.HashTable.empty (iSize : Nat) :
    HashTable iSize 0 (List.replicate bitvecNint 0) where
  chained := Probing.chained_replicate bitvecHash bitvecNint
  count := by simp [Probing.keys]
  room := by decide
  range := by
    intro x hx
    rw [List.eq_of_mem_replicate hx]
    exact Nat.zero_le _

end HashTable

/-! ## The operations -/

/-- A size that leaves room for the divisor is passed as it is. -/
theorem sqlite3BitvecCreate_eq {iSize : Nat} (h : DivisorFits iSize) :
    sqlite3BitvecCreate iSize =
      if iSize ≤ bitvecNbit then .bitmap iSize (List.replicate bitvecNelem 0)
      else .hash iSize 0 (List.replicate bitvecNint 0) := by
  have hnptr : bitvecNptr = 125 := rfl
  have hlt : iSize < 2 ^ 32 := by
    unfold DivisorFits at h
    omega
  rw [sqlite3BitvecCreate, Nat.mod_eq_of_lt hlt]

theorem sqlite3BitvecCreate_iSize {iSize : Nat} (h : DivisorFits iSize) :
    (sqlite3BitvecCreate iSize).iSize = iSize := by
  rw [sqlite3BitvecCreate_eq h]
  split_ifs <;> rfl

theorem sqlite3BitvecCreate_ne_null (iSize : Nat) : sqlite3BitvecCreate iSize ≠ .null := by
  unfold sqlite3BitvecCreate
  simp only
  split_ifs <;> simp

theorem sqlite3BitvecCreate_wellFormed {iSize : Nat} (h : DivisorFits iSize) :
    (sqlite3BitvecCreate iSize).WellFormed := by
  rw [sqlite3BitvecCreate_eq h]
  split_ifs with hsmall
  · exact ⟨hsmall, List.length_replicate⟩
  · exact ⟨by omega, h, .empty iSize⟩

/-- All bits are clear when the bitmap is created. -/
theorem sqlite3BitvecCreate_holds {iSize : Nat} (h : DivisorFits iSize) (i : Nat) :
    ¬ (sqlite3BitvecCreate iSize).Holds i := by
  rw [sqlite3BitvecCreate_eq h]
  split_ifs
  · simp only [Bitvec.Holds, List.getElem?_replicate, ne_eq, not_not]
    split_ifs <;> simp
  · intro hmem
    have := List.eq_of_mem_replicate hmem
    omega

/-- A test ends, and says whether the bit is set. -/
theorem bitvecTestAt_eq {p : Bitvec} (hp : p.WellFormed) (i : Nat) :
    ∃ set, bitvecTestAt p i = .ok set ∧ (set = true ↔ p.Holds i) := by
  induction p generalizing i with
  | null => exact ⟨false, rfl, by simp [Bitvec.Holds]⟩
  | bitmap iSize aBitmap => exact ⟨_, rfl, by simp [Bitvec.Holds]⟩
  | hash iSize nSet aHash =>
      obtain ⟨-, -, htable⟩ := hp
      obtain ⟨k, -, hprobe, -, hfound, hfree⟩ := htable.probe (show i + 1 ≠ 0 from by omega)
      refine ⟨decide (Probing.cell 0 aHash k = i + 1), ?_, ?_⟩
      · rw [bitvecTestAt, hprobe]
        rfl
      · rw [decide_eq_true_eq]
        show _ ↔ i + 1 ∈ aHash
        constructor
        · intro hcell
          by_contra hmem
          rw [hfree hmem] at hcell
          omega
        · exact hfound
  | sub iSize iDivisor apSub ih => exact ih _ (hp.2.2.2 _).1 _

/-- How deep the bitmap may become. -/
def Bitvec.height : Bitvec → Nat
  | .sub iSize _ _ => iSize - 1
  | p => p.iSize

theorem Bitvec.height_le (p : Bitvec) : p.height ≤ p.iSize := by
  cases p with
  | sub iSize iDivisor apSub => exact Nat.sub_le _ _
  | _ => exact le_refl _

/-- `p'` is `p` with the bit behind the index `i` set as well. -/
structure Bitvec.Adds (p p' : Bitvec) (i : Nat) : Prop where
  wellFormed : p'.WellFormed
  ne_null : p' ≠ .null
  iSize : p'.iSize = p.iSize
  height : p'.height ≤ p.height
  holds : ∀ j < p.iSize, p'.Holds j ↔ j = i ∨ p.Holds j

/-- The divisor of a bitmap with more bits than one node holds is positive and smaller, and leaves
room for the divisors of the sub-bitmaps. -/
theorem bitvecDivisor_bounds {iSize : Nat} (h : bitvecNbit < iSize) (hfits : DivisorFits iSize) :
    0 < bitvecDivisor iSize ∧ bitvecDivisor iSize < iSize - 1 ∧
      DivisorFits (bitvecDivisor iSize) := by
  have hnbit : bitvecNbit = 4000 := rfl
  have hnptr : bitvecNptr = 125 := rfl
  unfold DivisorFits bitvecDivisor at *
  rw [hnptr] at hfits ⊢
  omega

/-- A bitmap whose divisor can be computed is divided among sub-bitmaps. -/
theorem bitvecDivided_eq {iSize nSet : Nat} (h : bitvecNbit < iSize) (hfits : DivisorFits iSize) :
    bitvecDivided iSize nSet = .sub iSize (bitvecDivisor iSize) fun _ => .null :=
  if_neg (Nat.ne_of_gt (bitvecDivisor_bounds h hfits).1)

/-- Within one sub-bitmap the remainders tell the indices apart. -/
theorem mod_eq_iff_of_div_eq {d i j : Nat} (hdiv : j / d = i / d) : j % d = i % d ↔ j = i := by
  constructor
  · intro hmod
    rw [← Nat.div_add_mod j d, ← Nat.div_add_mod i d, hdiv, hmod]
  · intro heq
    rw [heq]

/-- Setting a bit in a sub-bitmap. -/
theorem Bitvec.Adds.sub {iSize iDivisor i : Nat} {apSub : Nat → Bitvec} {child child' : Bitvec}
    (hp : (Bitvec.sub iSize iDivisor apSub).WellFormed) (hiSize : child.iSize = iDivisor)
    (hchild : ∀ j < iDivisor, child.Holds j ↔ (apSub (i / iDivisor)).Holds j)
    (h : child.Adds child' (i % iDivisor)) :
    (Bitvec.sub iSize iDivisor apSub).Adds
      (.sub iSize iDivisor (Function.update apSub (i / iDivisor) child')) i := by
  obtain ⟨hsize, hfits, hdivisor, hsub⟩ := hp
  have hpos : 0 < iDivisor := by rw [hdivisor]; exact (bitvecDivisor_bounds hsize hfits).1
  refine ⟨⟨hsize, hfits, hdivisor, ?_⟩, by simp, rfl, le_refl _, ?_⟩
  · intro bin
    by_cases hbin : bin = i / iDivisor
    · subst hbin
      rw [Function.update_self]
      exact ⟨h.wellFormed, Or.inr (by rw [h.iSize, hiSize])⟩
    · rw [Function.update_of_ne hbin]
      exact hsub bin
  · intro j _
    show (Function.update apSub (i / iDivisor) child' (j / iDivisor)).Holds (j % iDivisor) ↔ _
    have hmod : j % iDivisor < iDivisor := Nat.mod_lt _ hpos
    by_cases hbin : j / iDivisor = i / iDivisor
    · rw [hbin, Function.update_self, h.holds _ (by omega), hchild _ hmod, ← hbin,
        mod_eq_iff_of_div_eq hbin]
      rfl
    · have hne : j ≠ i := fun heq => hbin (by rw [heq])
      rw [Function.update_of_ne hbin]
      simp [hne, Bitvec.Holds]

/-- Setting a bit in a bitmap. -/
theorem Bitvec.Adds.bitmap {iSize i : Nat} {aBitmap : List UInt8}
    (hp : (Bitvec.bitmap iSize aBitmap).WellFormed) (hi : i < iSize) :
    (Bitvec.bitmap iSize aBitmap).Adds
      (.bitmap iSize (aBitmap.set (i / 8) (aBitmap[i / 8]?.getD 0 ||| bitvecMask i))) i := by
  obtain ⟨hsize, hlength⟩ := hp
  refine ⟨⟨hsize, by rwa [List.length_set]⟩, by simp, rfl, le_refl _, ?_⟩
  intro j _
  have hbyte : i / 8 < aBitmap.length := by
    have hnelem : bitvecNelem = 500 := rfl
    have hnbit : bitvecNbit = 4000 := rfl
    omega
  simp only [Bitvec.Holds, getD_set_byte hbyte]
  split_ifs with heq
  · rw [or_bitvecMask, heq, show j % 8 = i % 8 ↔ j = i from by omega]
  · simp [show j ≠ i from by omega]

/-- The sub-bitmap in which a bit is set: the one that is there, or a new one. -/
theorem Bitvec.exists_child {iSize iDivisor : Nat} {apSub : Nat → Bitvec}
    (hp : (Bitvec.sub iSize iDivisor apSub).WellFormed) (bin : Nat) :
    ∃ child : Bitvec, (match apSub bin with
        | .null => sqlite3BitvecCreate iDivisor
        | p => p) = child ∧ child.WellFormed ∧ child ≠ .null ∧ child.iSize = iDivisor ∧
        ∀ j < iDivisor, child.Holds j ↔ (apSub bin).Holds j := by
  have hbin := hp.2.2.2 bin
  have hfits : DivisorFits iDivisor := by
    rw [hp.2.2.1]
    exact (bitvecDivisor_bounds hp.1 hp.2.1).2.2
  cases hcase : apSub bin with
  | null =>
      refine ⟨_, rfl, sqlite3BitvecCreate_wellFormed hfits, sqlite3BitvecCreate_ne_null _,
        sqlite3BitvecCreate_iSize hfits, ?_⟩
      intro j _
      simp [sqlite3BitvecCreate_holds hfits, Bitvec.Holds]
  | _ =>
      rw [hcase] at hbin
      exact ⟨_, rfl, hbin.1, by simp, by simpa using hbin.2, fun _ _ => Iff.rfl⟩

/-- A setter that adds its bit to every bitmap it is deep enough for. -/
def Setter (set : Bitvec → Nat → Except Fault Bitvec) (fuel : Nat) : Prop :=
  ∀ {p : Bitvec} {i : Nat}, p.WellFormed → p ≠ .null → i < p.iSize → p.height < fuel →
    ∃ p', set p i = .ok p' ∧ p.Adds p' i

/-- Dividing a hash table: first the new value is set, then all the old ones. -/
theorem Setter.divide {set : Bitvec → Nat → Except Fault Bitvec} {fuel iSize nSet i : Nat}
    {aHash : List Nat} (hset : Setter set fuel) (hsize : bitvecNbit < iSize)
    (hfits : DivisorFits iSize) (hfuel : iSize ≤ fuel)
    (htable : Bitvec.HashTable iSize nSet aHash) (hi : i < iSize) :
    ∃ p', (do
      let p ← set (bitvecDivided iSize nSet) i
      aHash.foldlM (fun p value => if value ≠ 0 then set p (value - 1) else .ok p) p) = .ok p' ∧
      (Bitvec.hash iSize nSet aHash).Adds p' i := by
  have hbounds := bitvecDivisor_bounds hsize hfits
  let divided := Bitvec.sub iSize (bitvecDivisor iSize) fun _ => .null
  have hdivided : divided.WellFormed := ⟨hsize, hfits, rfl, fun _ => ⟨trivial, Or.inl rfl⟩⟩
  have hheight : divided.height < fuel := show iSize - 1 < fuel from by omega
  obtain ⟨first, hfirst, hadds⟩ := hset hdivided (by simp [divided]) (show i < iSize from hi)
    hheight
  obtain ⟨p', hfold, hwf, hnull, hiSize, hheight', hholds⟩ := exists_foldlM
    (f := fun p value => if value ≠ 0 then set p (value - 1) else .ok p) (l := aHash)
    (fun front p => p.WellFormed ∧ p ≠ .null ∧ p.iSize = iSize ∧ p.height ≤ divided.height ∧
      ∀ j < iSize, p.Holds j ↔ j = i ∨ j + 1 ∈ front)
    ⟨hadds.wellFormed, hadds.ne_null, hadds.iSize, hadds.height, by
      intro j hj
      rw [hadds.holds j hj]
      simp [divided, Bitvec.Holds]⟩
    (by
      intro front value rest p hsplit hinv
      obtain ⟨hwf, hnull, hpSize, hpHeight, hholds⟩ := hinv
      have hle : value ≤ iSize := htable.range value (by simp [hsplit])
      by_cases hzero : value = 0
      · refine ⟨p, by simp [hzero], hwf, hnull, hpSize, hpHeight, ?_⟩
        intro j hj
        rw [hholds j hj]
        simp [hzero]
      · obtain ⟨next, hnext, hadds⟩ := hset hwf hnull
          (show value - 1 < p.iSize from by omega) (lt_of_le_of_lt hpHeight hheight)
        refine ⟨next, by simp [hzero, hnext], hadds.wellFormed, hadds.ne_null,
          hadds.iSize.trans hpSize, hadds.height.trans hpHeight, ?_⟩
        intro j hj
        rw [hadds.holds j (by omega), hholds j hj, List.mem_append, List.mem_singleton,
          show j = value - 1 ↔ j + 1 = value from by omega]
        tauto)
  refine ⟨p', ?_, hwf, hnull, hiSize, hheight'.trans (Nat.sub_le _ _), hholds⟩
  rw [bitvecDivided_eq hsize hfits, show set (.sub iSize (bitvecDivisor iSize) fun _ => .null) i =
    .ok first from hfirst]
  exact hfold

/-- Setting a bit succeeds if the fuel is more than the bitmap may become deep. -/
theorem bitvecSetAt_setter (fuel : Nat) : Setter (bitvecSetAt fuel) fuel := by
  induction fuel with
  | zero =>
      intro p i _ _ _ hfuel
      omega
  | succ fuel ih =>
      intro p i hp hne hi hfuel
      cases p with
      | null => exact absurd rfl hne
      | bitmap iSize aBitmap => exact ⟨_, rfl, .bitmap hp hi⟩
      | sub iSize iDivisor apSub =>
          have hbounds := bitvecDivisor_bounds hp.1 hp.2.1
          rw [← hp.2.2.1] at hbounds
          have hheight : iSize - 1 < fuel + 1 := hfuel
          have hmod : i % iDivisor < iDivisor := Nat.mod_lt _ hbounds.1
          obtain ⟨child, hchild, hwf, hnull, hiSize, hholds⟩ :=
            Bitvec.exists_child hp (i / iDivisor)
          obtain ⟨child', hset, hadds⟩ := ih hwf hnull
            (show i % iDivisor < child.iSize from by omega)
            (lt_of_le_of_lt child.height_le (by omega))
          refine ⟨.sub iSize iDivisor (Function.update apSub (i / iDivisor) child'), ?_,
            .sub hp hiSize hholds hadds⟩
          simp only [bitvecSetAt, hchild, hset]
          rfl
      | hash iSize nSet aHash =>
          obtain ⟨hsize, hfits, htable⟩ := hp
          have hiSize : i < iSize := hi
          have hheight : iSize < fuel + 1 := hfuel
          obtain ⟨k, hk, hprobe, hpath, hfound, hfree⟩ :=
            htable.probe (show i + 1 ≠ 0 from by omega)
          simp only [bitvecSetAt, hprobe, ok_bind]
          by_cases hmem : i + 1 ∈ aHash
          · rw [if_pos (hfound hmem)]
            refine ⟨_, rfl, ⟨hsize, hfits, htable⟩, by simp, rfl, le_refl _, ?_⟩
            intro j _
            refine ⟨Or.inr, ?_⟩
            intro h
            rcases h with rfl | h
            · exact hmem
            · exact h
          · rw [if_neg (by rw [hfree hmem]; omega)]
            split_ifs with hfull
            · exact ih.divide hsize hfits (by omega) htable hiSize
            · have hroom : nSet + 1 < bitvecNint := by
                have := htable.room
                have hnint : bitvecNint = 125 := rfl
                have hmxhash : bitvecMxhash = 62 := rfl
                omega
              have hlt : k < aHash.length := by rwa [htable.chained.length]
              refine ⟨_, rfl, ⟨hsize, hfits, htable.insert hk hpath (hfree hmem) (by omega) hroom
                (by omega)⟩, by simp, rfl, le_refl _, ?_⟩
              intro j _
              show j + 1 ∈ aHash.set k (i + 1) ↔ _
              rw [Probing.mem_set_iff hlt (hfree hmem) (by omega),
                show j + 1 = i + 1 ↔ j = i from by omega]
              rfl

/-- `p'` is `p` with the bit behind the index `i` clear. -/
structure Bitvec.Removes (p p' : Bitvec) (i : Nat) : Prop where
  wellFormed : p'.WellFormed
  null : p' = .null ↔ p = .null
  iSize : p'.iSize = p.iSize
  holds : ∀ j < p.iSize, p'.Holds j ↔ j ≠ i ∧ p.Holds j

/-- A hash table is filled again with the values that are left. -/
theorem bitvecRefill_fold {iSize nSet : Nat} {aHash : List Nat}
    (htable : Bitvec.HashTable iSize nSet aHash) {values : List Nat}
    (hsub : values.Sublist (Probing.keys 0 aHash)) :
    ∃ table, values.foldlM bitvecRefill (0, List.replicate bitvecNint 0) = .ok table ∧
      Bitvec.HashTable iSize table.1 table.2 ∧ ∀ value ≠ 0, value ∈ table.2 ↔ value ∈ values := by
  obtain ⟨table, hfold, hresult, -, hmem⟩ := exists_foldlM (f := bitvecRefill) (l := values)
    (b := (0, List.replicate bitvecNint 0))
    (fun front table => Bitvec.HashTable iSize table.1 table.2 ∧ table.1 = front.length ∧
      ∀ value ≠ 0, value ∈ table.2 ↔ value ∈ front)
    ⟨.empty iSize, rfl, by
      intro value hvalue
      simp [hvalue]⟩
    (by
      intro front value rest table hsplit hinv
      obtain ⟨hinv, hcount, hmem⟩ := hinv
      have hkey : value ∈ Probing.keys 0 aHash := hsub.subset (by simp [hsplit])
      obtain ⟨hin, hvalue⟩ := List.mem_filter.mp hkey
      have hvalue : value ≠ 0 := by simpa using hvalue
      obtain ⟨k, hk, hprobe, hpath, hfree⟩ :=
        Probing.probe_free value hinv.exists_free (bitvecHash_lt value)
      have hlt : k < table.2.length := by rwa [hinv.chained.length]
      have hroom : table.1 + 1 < bitvecNint := by
        have hle := hsub.length_le
        rw [hsplit, List.length_append, List.length_cons, ← htable.count] at hle
        have := htable.room
        omega
      refine ⟨(table.1 + 1, table.2.set k value), ?_, hinv.insert hk hpath hfree hvalue hroom
        (htable.range value hin), by simp [hcount], ?_⟩
      · simp only [bitvecRefill, bitvecProbe, hprobe]
        rfl
      · intro x hx
        rw [Probing.mem_set_iff hlt hfree hx, hmem x hx, List.mem_append,
          List.mem_singleton, or_comm])
  exact ⟨table, hfold, hresult, hmem⟩

/-- Clearing a bit succeeds. -/
theorem bitvecClearAt_removes {p : Bitvec} {i : Nat} (hp : p.WellFormed) (hi : i < p.iSize) :
    ∃ p', bitvecClearAt p i = .ok p' ∧ p.Removes p' i := by
  induction p generalizing i with
  | null => exact absurd hi (Nat.not_lt_zero i)
  | bitmap iSize aBitmap =>
      obtain ⟨hsize, hlength⟩ := hp
      refine ⟨_, rfl, ⟨hsize, by rwa [List.length_set]⟩, by simp, rfl, ?_⟩
      intro j _
      have hiSize : i < iSize := hi
      have hbyte : i / 8 < aBitmap.length := by
        have hnelem : bitvecNelem = 500 := rfl
        have hnbit : bitvecNbit = 4000 := rfl
        omega
      simp only [Bitvec.Holds, getD_set_byte hbyte]
      split_ifs with heq
      · rw [and_not_bitvecMask, heq, show j % 8 ≠ i % 8 ↔ j ≠ i from by omega]
      · simp [show j ≠ i from by omega]
  | hash iSize nSet aHash =>
      obtain ⟨hsize, hfits, htable⟩ := hp
      have hsub : (aHash.filter fun value => value ≠ 0 ∧ value ≠ i + 1).Sublist
          (Probing.keys 0 aHash) := by
        apply List.monotone_filter_right
        intro value
        simpa using fun hvalue _ => hvalue
      obtain ⟨table, hfold, hresult, hmem⟩ := bitvecRefill_fold htable hsub
      refine ⟨.hash iSize table.1 table.2, ?_, ⟨hsize, hfits, hresult⟩, by simp, rfl, ?_⟩
      · rw [bitvecClearAt, hfold]
        rfl
      · intro j _
        show j + 1 ∈ table.2 ↔ j ≠ i ∧ j + 1 ∈ aHash
        rw [hmem (j + 1) (by omega), List.mem_filter]
        simp [and_comm]
  | sub iSize iDivisor apSub ih =>
      obtain ⟨hsize, hfits, hdivisor, hsub⟩ := hp
      have hpos : 0 < iDivisor := by rw [hdivisor]; exact (bitvecDivisor_bounds hsize hfits).1
      have hmod : i % iDivisor < iDivisor := Nat.mod_lt _ hpos
      obtain ⟨child, hclear, hremoves⟩ : ∃ child,
          bitvecClearAt (apSub (i / iDivisor)) (i % iDivisor) = .ok child ∧
          (child.WellFormed ∧ (child = .null ∨ child.iSize = iDivisor)) ∧
          ∀ j < iDivisor, child.Holds j ↔ j ≠ i % iDivisor ∧ (apSub (i / iDivisor)).Holds j := by
        obtain ⟨hwf, hcase⟩ := hsub (i / iDivisor)
        rcases hcase with hnull | hiSize
        · rw [hnull]
          exact ⟨.null, rfl, ⟨trivial, Or.inl rfl⟩, fun _ _ => by simp [Bitvec.Holds]⟩
        · obtain ⟨child, hclear, hremoves⟩ := ih _ hwf (show i % iDivisor < _ from by omega)
          exact ⟨child, hclear, ⟨hremoves.wellFormed, Or.inr (hremoves.iSize.trans hiSize)⟩,
            fun j hj => hremoves.holds j (by omega)⟩
      refine ⟨.sub iSize iDivisor (Function.update apSub (i / iDivisor) child), ?_,
        ⟨hsize, hfits, hdivisor, ?_⟩, by simp, rfl, ?_⟩
      · simp only [bitvecClearAt, hclear]
        rfl
      · intro bin
        by_cases hbin : bin = i / iDivisor
        · subst hbin
          rw [Function.update_self]
          exact hremoves.1
        · rw [Function.update_of_ne hbin]
          exact hsub bin
      · intro j _
        show (Function.update apSub (i / iDivisor) child (j / iDivisor)).Holds (j % iDivisor) ↔
          j ≠ i ∧ (apSub (j / iDivisor)).Holds (j % iDivisor)
        by_cases hbin : j / iDivisor = i / iDivisor
        · rw [hbin, Function.update_self, hremoves.2 _ (Nat.mod_lt _ hpos),
            ne_eq, mod_eq_iff_of_div_eq hbin]
        · have hne : j ≠ i := fun heq => hbin (by rw [heq])
          rw [Function.update_of_ne hbin]
          simp [hne]

/-! ## A run of operations -/

/-- An operation on the bits of a bitmap. -/
inductive BitOp where
  | set (i : Nat)
  | clear (i : Nat)

namespace BitOp

/-- The bit that the operation is about. -/
def bit : BitOp → Nat
  | .set i => i
  | .clear i => i

/-- Perform the operation. -/
def perform (p : Bitvec) : BitOp → Except Fault Bitvec
  | .set i => sqlite3BitvecSet p i
  | .clear i => sqlite3BitvecClear p i

/-- The operation on the set of bits that are set. -/
def onSet (bits : Finset Nat) : BitOp → Finset Nat
  | .set i => insert i bits
  | .clear i => bits.erase i

end BitOp

/-- The bitmap stands for a set of bits, all of them in range. -/
structure Bitvec.Represents (p : Bitvec) (bits : Finset Nat) : Prop where
  wellFormed : p.WellFormed
  ne_null : p ≠ .null
  range : ∀ i ∈ bits, 1 ≤ i ∧ i ≤ p.iSize
  holds : ∀ i < p.iSize, p.Holds i ↔ i + 1 ∈ bits

theorem sqlite3BitvecCreate_represents {iSize : Nat} (h : DivisorFits iSize) :
    (sqlite3BitvecCreate iSize).Represents ∅ where
  wellFormed := sqlite3BitvecCreate_wellFormed h
  ne_null := sqlite3BitvecCreate_ne_null iSize
  range := by simp
  holds := by simp [sqlite3BitvecCreate_holds h]

/-- A test ends, and reads the set. -/
theorem Bitvec.Represents.test {p : Bitvec} {bits : Finset Nat} (h : p.Represents bits) (i : Nat) :
    sqlite3BitvecTest p i = .ok (decide (i ∈ bits)) := by
  unfold sqlite3BitvecTest
  split_ifs with hrange
  · have hmem : i ∉ bits := by
      intro hmem
      have := h.range i hmem
      omega
    simp [hmem]
  · obtain ⟨set, htest, hset⟩ := bitvecTestAt_eq h.wellFormed (i - 1)
    rw [htest, h.holds (i - 1) (by omega), show i - 1 + 1 = i from by omega] at *
    congr 1
    by_cases hmem : i ∈ bits <;> simp_all

/-- An operation on a bit in range acts on the set. -/
theorem Bitvec.Represents.perform {p : Bitvec} {bits : Finset Nat} (h : p.Represents bits)
    {op : BitOp} (hlo : 1 ≤ op.bit) (hhi : op.bit ≤ p.iSize) :
    ∃ p', op.perform p = .ok p' ∧ p'.iSize = p.iSize ∧ p'.Represents (op.onSet bits) := by
  cases op with
  | set i =>
      have hlo : 1 ≤ i := hlo
      have hhi : i ≤ p.iSize := hhi
      obtain ⟨p', hset, hadds⟩ := bitvecSetAt_setter (p.iSize + 1) h.wellFormed h.ne_null
        (show i - 1 < p.iSize from by omega) (Nat.lt_succ_of_le p.height_le)
      refine ⟨p', hset, hadds.iSize, hadds.wellFormed, hadds.ne_null, ?_, ?_⟩
      · intro j hj
        rw [hadds.iSize]
        rcases Finset.mem_insert.mp hj with rfl | hj
        · exact ⟨hlo, hhi⟩
        · exact h.range j hj
      · intro j hj
        rw [hadds.iSize] at hj
        rw [hadds.holds j hj, h.holds j hj]
        show _ ↔ j + 1 ∈ insert i bits
        rw [Finset.mem_insert, show j = i - 1 ↔ j + 1 = i from by omega]
  | clear i =>
      have hlo : 1 ≤ i := hlo
      have hhi : i ≤ p.iSize := hhi
      obtain ⟨p', hclear, hremoves⟩ := bitvecClearAt_removes h.wellFormed
        (show i - 1 < p.iSize from by omega)
      refine ⟨p', hclear, hremoves.iSize, hremoves.wellFormed,
        fun hnull => h.ne_null (hremoves.null.mp hnull), ?_, ?_⟩
      · intro j hj
        rw [hremoves.iSize]
        exact h.range j (Finset.mem_of_mem_erase hj)
      · intro j hj
        rw [hremoves.iSize] at hj
        rw [hremoves.holds j hj, h.holds j hj]
        show _ ↔ j + 1 ∈ bits.erase i
        rw [Finset.mem_erase, show j ≠ i - 1 ↔ j + 1 ≠ i from by omega]

/-- Whatever bits in range of a bitmap of at most `2 ^ 32 - 125` bits are set and cleared in
whatever order, every operation and every test ends, and the tests answer as the set of the bits
that are set. -/
theorem bitvec_tests_set {iSize : Nat} {ops : List BitOp} (hfits : iSize + bitvecNptr ≤ 2 ^ 32)
    (hrange : ∀ op ∈ ops, 1 ≤ op.bit ∧ op.bit ≤ iSize) :
    ∃ p, ops.foldlM BitOp.perform (sqlite3BitvecCreate iSize) = .ok p ∧
      ∀ i, sqlite3BitvecTest p i = .ok (decide (i ∈ ops.foldl BitOp.onSet ∅)) := by
  obtain ⟨p, hrun, hsize, hp⟩ := exists_foldlM (f := BitOp.perform) (l := ops)
    (b := sqlite3BitvecCreate iSize)
    (fun front p => p.iSize = iSize ∧ p.Represents (front.foldl BitOp.onSet ∅))
    ⟨sqlite3BitvecCreate_iSize hfits, sqlite3BitvecCreate_represents hfits⟩
    (by
      intro front op rest p hsplit hinv
      obtain ⟨hsize, hp⟩ := hinv
      obtain ⟨hlo, hhi⟩ := hrange op (by simp [hsplit])
      obtain ⟨p', hperform, hsize', hp'⟩ := hp.perform hlo (by omega)
      exact ⟨p', hperform, hsize'.trans hsize, by rwa [List.foldl_append]⟩)
  exact ⟨p, hrun, hp.test⟩

/-- Bits that collide in the hash table, one of them cleared again. -/
theorem bitvec_tests_set_colliding :
    ∃ p, [BitOp.set 7, .set 132, .set 257, .clear 132].foldlM BitOp.perform
        (sqlite3BitvecCreate 5000) = .ok p ∧
      ∀ i, sqlite3BitvecTest p i = .ok (decide (i ∈
        [BitOp.set 7, .set 132, .set 257, .clear 132].foldl BitOp.onSet ∅)) :=
  bitvec_tests_set (by decide) (by decide)

end VxSqlite
