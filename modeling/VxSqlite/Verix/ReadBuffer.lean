import VxSqlite.Flash

/-!
# What a read does to the caller's buffer

`verixRead` hands the caller's buffer to `read()` and zeroes what is left of it, from the count
that `read()` returned on. `ReadOutcome` is everything the system can make of a read. Only the
return value `-1` leads outside the buffer, to the byte before it.
-/

namespace VxSqlite

variable {σ : Type}

/-- What the system makes of a read: the seek fails, `read()` returns `-1`, or it delivers some
bytes and returns their count. -/
inductive ReadOutcome where
  | seekFailed
  | readFailed
  | delivered (bytes : List UInt8)
  deriving DecidableEq

namespace ReadOutcome

/-- The bytes that `read()` delivered. -/
def bytes : ReadOutcome → List UInt8
  | delivered bytes => bytes
  | _ => []

/-- What `read()` returned, as an outcome. -/
def ofRead : Option (List UInt8) → ReadOutcome
  | none => readFailed
  | some bytes => delivered bytes

end ReadOutcome

/-- The outcome of the two system calls of `verixRead`. -/
def readOutcome (env : Env σ) (pFile : VerixFile) (amt offset : Int) (w : World σ) : ReadOutcome :=
  let ls := env.sys (.lseek pFile.h (toInt offset)) w
  if ls.value = -1 then .seekFailed else .ofRead (env.sys (.read pFile.h amt) ls.world).value

/-- What `verixRead` makes of an outcome: its result code and the buffer it leaves. -/
def afterRead (pBuf : Buffer UInt8) (amt : Int) : ReadOutcome → ResultCode × Buffer UInt8
  | .seekFailed => (.ioerrShortRead, pBuf.memset 0 0 amt)
  | .readFailed => (.ioerrShortRead, (pBuf.memcpy 0 []).memset (-1) 0 (amt + 1))
  | .delivered bytes =>
      if (bytes.length : Int) = amt then (.ok, pBuf.memcpy 0 bytes)
      else (.ioerrShortRead, (pBuf.memcpy 0 bytes).memset bytes.length 0 (amt - bytes.length))

/-- The result of `verixRead` depends on the system through the outcome alone. -/
theorem verixRead_afterRead (env : Env σ) (pFile : VerixFile) (pBuf : Buffer UInt8) {amt : Int}
    (hamt : 0 < amt) (offset : Int) (w : World σ) :
    (verixRead env pFile pBuf amt offset w).1 =
        (afterRead pBuf amt (readOutcome env pFile amt offset w)).1 ∧
      (verixRead env pFile pBuf amt offset w).2.1 =
        (afterRead pBuf amt (readOutcome env pFile amt offset w)).2 := by
  unfold verixRead readOutcome
  dsimp only
  by_cases hseek : (env.sys (.lseek pFile.h (toInt offset)) w).value = -1
  · simp only [if_pos hseek]
    exact ⟨rfl, rfl⟩
  · simp only [if_neg hseek]
    rcases (env.sys (.read pFile.h amt)
      (env.sys (.lseek pFile.h (toInt offset)) w).world).value with _ | bytes
    · have hne : ¬ readCount none = amt := by
        show ¬ (-1 : Int) = amt
        omega
      rw [if_neg hne, show amt - readCount none = amt + 1 from by simp [readCount]]
      exact ⟨rfl, rfl⟩
    · by_cases hcount : readCount (some bytes) = amt
      · have hafter : afterRead pBuf amt (.delivered bytes) = (.ok, pBuf.memcpy 0 bytes) :=
          if_pos hcount
        rw [if_pos hcount, ReadOutcome.ofRead, hafter]
        exact ⟨rfl, rfl⟩
      · have hafter : afterRead pBuf amt (.delivered bytes) = (.ioerrShortRead,
            (pBuf.memcpy 0 bytes).memset bytes.length 0 (amt - bytes.length)) :=
          if_neg hcount
        rw [if_neg hcount, ReadOutcome.ofRead, hafter]
        exact ⟨rfl, rfl⟩

/-- Every byte stored lies in the caller's buffer of `amt` bytes, and after a short read each
byte of the buffer is one that was delivered or zero. -/
structure ReadsIntoBuffer (amt : Int) (delivered : List UInt8) (rc : ResultCode)
    (buffer : Buffer UInt8) : Prop where
  inBounds : ∀ i, buffer.stored i = true → 0 ≤ i ∧ i < amt
  determined : rc = .ioerrShortRead → ∀ i : Nat, (i : Int) < amt →
    delivered[i]? = some (buffer.cell i) ∨ buffer.cell i = 0

/-- After a short read the buffer is determined, whatever the outcome was. -/
theorem afterRead_determined (cells : Int → UInt8) (amt : Int) (outcome : ReadOutcome) {i : Nat}
    (hi : (i : Int) < amt)
    (hshort : (afterRead (.untouched cells) amt outcome).1 = .ioerrShortRead) :
    outcome.bytes[i]? = some ((afterRead (.untouched cells) amt outcome).2.cell i) ∨
      (afterRead (.untouched cells) amt outcome).2.cell i = 0 := by
  cases outcome with
  | seekFailed =>
      right
      have hin : (0 : Int) ≤ i ∧ (i : Int) < 0 + amt := by omega
      simp only [afterRead, Buffer.memset, if_pos hin]
  | readFailed =>
      right
      have hin : (-1 : Int) ≤ i ∧ (i : Int) < -1 + (amt + 1) := by omega
      simp only [afterRead, Buffer.memset, if_pos hin]
  | delivered bytes =>
      simp only [afterRead] at hshort ⊢
      split at hshort
      · cases hshort
      · rename_i hcount
        rw [if_neg hcount]
        by_cases hlt : i < bytes.length
        · left
          simp [ReadOutcome.bytes, Buffer.memset, Buffer.memcpy, hlt]
        · right
          have hin : (bytes.length : Int) ≤ i ∧
              (i : Int) < bytes.length + (amt - bytes.length) := by
            omega
          simp only [Buffer.memset, if_pos hin]

/-- Unless `read()` returned `-1`, nothing outside the buffer is stored to. -/
theorem afterRead_inBounds (cells : Int → UInt8) {amt : Int} {outcome : ReadOutcome}
    (hcount : (outcome.bytes.length : Int) ≤ amt) (houtcome : outcome ≠ .readFailed) {i : Int}
    (hi : (afterRead (.untouched cells) amt outcome).2.stored i = true) : 0 ≤ i ∧ i < amt := by
  cases outcome with
  | seekFailed =>
      simp only [afterRead, Buffer.memset_stored, Buffer.untouched, Bool.false_eq_true,
        false_or] at hi
      omega
  | readFailed => exact absurd rfl houtcome
  | delivered bytes =>
      simp only [ReadOutcome.bytes] at hcount
      simp only [afterRead] at hi
      split at hi
      · simp only [Buffer.memcpy_stored, Buffer.untouched, Bool.false_eq_true, false_or] at hi
        omega
      · simp only [Buffer.memset_stored, Buffer.memcpy_stored, Buffer.untouched,
          Bool.false_eq_true, false_or] at hi
        omega

/-- `verixRead` stays in its buffer and determines it exactly if `read()` does not return `-1`. -/
theorem verixRead_intoBuffer_iff (env : Env σ) (pFile : VerixFile) (cells : Int → UInt8)
    (amt offset : Int) (w : World σ) (hamt : 0 < amt)
    (hcount : ((readOutcome env pFile amt offset w).bytes.length : Int) ≤ amt) :
    ReadsIntoBuffer amt (readOutcome env pFile amt offset w).bytes
        (verixRead env pFile (.untouched cells) amt offset w).1
        (verixRead env pFile (.untouched cells) amt offset w).2.1 ↔
      readOutcome env pFile amt offset w ≠ .readFailed := by
  obtain ⟨hrc, hbuffer⟩ := verixRead_afterRead env pFile (.untouched cells) hamt offset w
  rw [hrc, hbuffer]
  generalize readOutcome env pFile amt offset w = outcome at hcount ⊢
  constructor
  · rintro hinto rfl
    -- the zeros start at the index that `read()` returned
    have hbefore := hinto.inBounds (-1) (by
      simp only [afterRead, Buffer.memset_stored]
      omega)
    omega
  · intro houtcome
    exact ⟨fun i hi => afterRead_inBounds cells hcount houtcome hi,
      fun hshort i hi => afterRead_determined cells amt outcome hi hshort⟩

/-- A read of four bytes of which two are there. -/
theorem verixRead_intoBuffer_short :
    ReadsIntoBuffer 4 [1, 2]
        (verixRead quietFlash (.on 0 (ascii "a.db")) (.untouched fun _ => 7) 4 0
          (.opened (ascii "a.db") [1, 2] (by decide))).1
        (verixRead quietFlash (.on 0 (ascii "a.db")) (.untouched fun _ => 7) 4 0
          (.opened (ascii "a.db") [1, 2] (by decide))).2.1 ↔
      readOutcome quietFlash (.on 0 (ascii "a.db")) 4 0
        (.opened (ascii "a.db") [1, 2] (by decide)) ≠ .readFailed :=
  verixRead_intoBuffer_iff quietFlash (.on 0 (ascii "a.db")) (fun _ => 7) 4 0
    (.opened (ascii "a.db") [1, 2] (by decide)) (by decide) (by decide)

/-- A page read that fails stores a zero into the byte before the page. -/
theorem failed_read_stores_before :
    (verixRead ⟨deafFlash, .quiet, none, 64⟩ (.on 0 (ascii "a.db")) (.untouched fun _ => 7) 4 0
        (.opened (ascii "a.db") [1, 2, 3, 4] (by decide))).2.1.stored (-1) = true ∧
    ¬ ∀ (env : Env Flash) pFile cells amt offset w, 0 < amt →
      ((readOutcome env pFile amt offset w).bytes.length : Int) ≤ amt →
      ReadsIntoBuffer amt (readOutcome env pFile amt offset w).bytes
        (verixRead env pFile (.untouched cells) amt offset w).1
        (verixRead env pFile (.untouched cells) amt offset w).2.1 := by
  refine ⟨rfl, ?_⟩
  intro h
  have hinto := h ⟨deafFlash, .quiet, none, 64⟩ (.on 0 (ascii "a.db")) (fun _ => 7) 4 0
    (.opened (ascii "a.db") [1, 2, 3, 4] (by decide)) (by decide) (by decide)
  have hbefore := hinto.inBounds (-1) rfl
  omega

end VxSqlite
