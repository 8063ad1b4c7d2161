import VxSqlite.Flash
import VxSqlite.Verix.Content

/-!
# The port as a byte array

A file object is used through a sequence of `verixRead`, `verixWrite`, `verixTruncate` and
`verixFileSize` calls. As long as every access stays in range, each call has the effect and the
answer of the same call on an array of bytes, however the system splits the writes. The step
lemma relates one call; the simulation is by induction on the sequence.
-/

namespace VxSqlite

/-- A call on an open file, with the memory the caller hands over. -/
inductive IoCall where
  | read (pBuf : Buffer UInt8) (amt offset : Nat)
  | write (pBuf : List UInt8) (offset : Nat)
  | truncate (nByte : Nat)
  | fileSize (pSize : Int)

namespace IoCall

variable {σ : Type}

/-- The call on the array of bytes that the file stands for. -/
def onBytes : IoCall → ByteStore.Call UInt8
  | .read _ amt offset => .read offset amt
  | .write pBuf offset => .write offset pBuf
  | .truncate nByte => .truncate nByte
  | .fileSize _ => .size

/-- What the caller learns: the result code together with the buffer it handed over. -/
def perform (env : Env σ) (pFile : VerixFile) :
    IoCall → World σ → Except Fault (ByteStore.Answer UInt8 × World σ)
  | .read pBuf amt offset, w =>
      match verixRead env pFile pBuf amt offset w with
      | (.ok, pBuf, w) => .ok (.cells (pBuf.contents amt), w)
      | (.ioerrShortRead, pBuf, w) => .ok (.short (pBuf.contents amt), w)
      | (_, _, w) => .ok (.failed, w)
  | .write pBuf offset, w =>
      match verixWrite env pFile pBuf offset w with
      | .ok (.ok, w) => .ok (.done, w)
      | .ok (_, w) => .ok (.failed, w)
      | .error fault => .error fault
  | .truncate nByte, w =>
      match verixTruncate env pFile nByte w with
      | (.ok, w) => .ok (.done, w)
      | (_, w) => .ok (.failed, w)
  | .fileSize pSize, w =>
      match verixFileSize env pFile pSize w with
      | (.ok, size, w) => .ok (.length size.toNat, w)
      | (_, _, w) => .ok (.failed, w)

/-- The calls made one after the other, with their answers. -/
def performAll (env : Env σ) (pFile : VerixFile) :
    List IoCall → World σ → Except Fault (List (ByteStore.Answer UInt8) × World σ)
  | [], w => .ok ([], w)
  | call :: rest, w => do
      let (answer, w) ← call.perform env pFile w
      let (answers, w) ← performAll env pFile rest w
      return (answer :: answers, w)

/-- The access is in range of a file of `size` bytes: positions fit an `int`, a write starts at
or before the end and a truncation does not grow the file. -/
def InRange (size : Nat) : IoCall → Prop
  | .read _ amt offset => 0 < amt ∧ offset + amt < 2 ^ 31
  | .write pBuf offset => 0 < pBuf.length ∧ offset + pBuf.length < 2 ^ 31 ∧ offset ≤ size
  | .truncate nByte => nByte ≤ size
  | .fileSize _ => True

instance (size : Nat) : (call : IoCall) → Decidable (call.InRange size)
  | .read _ _ _ => inferInstanceAs (Decidable (_ ∧ _))
  | .write _ _ => inferInstanceAs (Decidable (_ ∧ _))
  | .truncate _ => inferInstanceAs (Decidable (_ ≤ _))
  | .fileSize _ => inferInstanceAs (Decidable True)

/-- Every call is in range of the file as it is when the call is made. -/
def AllInRange (env : Env σ) (view : σ → Disk) (pFile : VerixFile) (f : Nat) :
    List IoCall → World σ → Prop
  | [], _ => True
  | call :: rest, w =>
      call.InRange ((view w.os).data f).length ∧
        ∀ answer w', call.perform env pFile w = .ok (answer, w') →
          AllInRange env view pFile f rest w'

/-- The `write()` calls that the call needs at most. -/
def writeCalls : IoCall → Nat
  | .write pBuf _ => pBuf.length
  | _ => 0

end IoCall

open IoCall

variable {σ : Type} {env : Env σ} {view : σ → Disk}

/-- One call in range answers, and has the effect of the call on the array of bytes. The file
object stays usable afterwards. -/
theorem IoCall.perform_effect (laws : FileLaws env.os view) {pFile : VerixFile} {f : Nat}
    {w : World σ} {call : IoCall} (hfile : NamedFile (view w.os) pFile f)
    (hrange : call.InRange ((view w.os).data f).length) (hfuel : call.writeCalls ≤ env.writeFuel) :
    ∃ answer w', call.perform env pFile w = .ok (answer, w') ∧
      ByteStore.Effect 0 ((view w.os).data f) call.onBytes answer ((view w'.os).data f) ∧
      NamedFile (view w'.os) pFile f := by
  have hsize := (view w.os).size_lt f
  cases call with
  | read pBuf amt offset =>
      obtain ⟨-, hlt⟩ := hrange
      have hoffset : toInt offset = offset := toInt_natCast (by omega)
      by_cases hin : offset ≤ ((view w.os).data f).length
      · obtain ⟨rc, buf, w', hread, hrc, hbuf, hdata, hsame⟩ :=
          verixRead_inside laws hfile.openOn rfl pBuf amt offset hoffset hin
        by_cases hfull : offset + amt ≤ ((view w.os).data f).length
        · rw [if_pos hfull] at hrc
          subst hrc
          rw [ByteStore.padded_of_le hfull] at hbuf
          refine ⟨.cells (buf.contents amt), w', by simp only [perform, hread], ?_,
            hfile.sameBut hsame⟩
          rw [hdata, hbuf]
          exact .read offset amt hfull
        · rw [if_neg hfull] at hrc
          subst hrc
          refine ⟨.short (buf.contents amt), w', by simp only [perform, hread], ?_,
            hfile.sameBut hsame⟩
          rw [hdata, hbuf]
          exact .readShort offset amt (by omega)
      · -- the seek past the end fails, and the zeros are what a read past the end delivers
        obtain ⟨buf, w', hread, hbuf, hview⟩ :=
          verixRead_outside laws hfile.openOn pBuf amt offset (by omega)
        refine ⟨.short (buf.contents amt), w', by simp only [perform, hread], ?_, by rwa [hview]⟩
        have hpast : ((view w.os).data f).length ≤ offset := by omega
        rw [hview, hbuf, ← ByteStore.padded_of_length_le hpast]
        exact .readShort offset amt (by omega)
  | write pBuf offset =>
      obtain ⟨-, hlt, hle⟩ := hrange
      obtain ⟨rc, w', taken, hwrite, -, hrc, hdata, hsame⟩ :=
        verixWrite_inside laws hfile.openOn rfl pBuf offset (toInt_natCast (by omega)) hle hfuel
      rcases hrc with ⟨rfl, htaken⟩ | ⟨rfl, htaken⟩
      · refine ⟨.done, w', by simp only [perform, hwrite], ?_, hfile.sameBut hsame⟩
        rw [hdata, htaken, List.take_length]
        exact .write offset pBuf
      · refine ⟨.failed, w', by simp only [perform, hwrite], ?_, hfile.sameBut hsame⟩
        rw [hdata]
        exact .writeFailed offset taken pBuf htaken
  | truncate nByte =>
      obtain ⟨rc, w', htruncate, hrc, hsame⟩ :=
        verixTruncate_inside laws hfile.openOn rfl nByte
          (toInt_natCast (lt_of_le_of_lt hrange hsize)) hrange
      rcases hrc with ⟨rfl, hdata⟩ | ⟨rfl, hdata⟩
      · refine ⟨.done, w', by simp only [perform, htruncate], ?_, hfile.sameBut hsame⟩
        rw [hdata]
        exact .truncate nByte
      · refine ⟨.failed, w', by simp only [perform, htruncate], ?_, hfile.sameBut hsame⟩
        rw [hdata]
        exact .truncateFailed nByte
  | fileSize pSize =>
      obtain ⟨w', hfileSize, hview⟩ := verixFileSize_named laws.dirGetFileSz hfile.named pSize
      refine ⟨.length ((view w.os).data f).length, w', ?_, ?_, by rwa [hview]⟩
      · simp only [perform, hfileSize, Int.toNat_natCast]
      · rw [hview]
        exact .size

/-- A sequence of calls in range on one file object whose remembered name leads to the file its
handle is open on answers every call as the array of bytes does, and leaves the array's
content. -/
theorem performAll_simulates_byteStore (laws : FileLaws env.os view) {pFile : VerixFile} {f : Nat}
    {w : World σ} {calls : List IoCall} (hfile : NamedFile (view w.os) pFile f)
    (hrange : AllInRange env view pFile f calls w)
    (hfuel : ∀ call ∈ calls, call.writeCalls ≤ env.writeFuel) :
    ∃ answers w', performAll env pFile calls w = .ok (answers, w') ∧
      ByteStore.Trace 0 ((view w.os).data f) (calls.map onBytes) answers ((view w'.os).data f) ∧
      NamedFile (view w'.os) pFile f := by
  induction calls generalizing w with
  | nil => exact ⟨[], w, rfl, .nil _, hfile⟩
  | cons call rest ih =>
      obtain ⟨hcall, hrest⟩ := hrange
      obtain ⟨answer, w₁, hperform, heffect, hfile₁⟩ :=
        call.perform_effect laws hfile hcall (hfuel call (by simp))
      obtain ⟨answers, w₂, hall, htrace, hfile₂⟩ :=
        ih hfile₁ (hrest answer w₁ hperform) fun c hc => hfuel c (by simp [hc])
      refine ⟨answer :: answers, w₂, ?_, .cons heffect htrace, hfile₂⟩
      simp only [performAll, hperform, ok_bind, hall]
      rfl

/-- A write across the end of the file, a short read, a truncation and a size query. -/
def sampleCalls : List IoCall :=
  [.write [7, 8, 9] 2, .read (.untouched fun _ => 1) 4 3, .truncate 4, .fileSize 0]

/-- The sample calls on a three-byte file of `flash`. -/
theorem performAll_simulates_byteStore_flash :
    ∃ answers w', performAll quietFlash (.on 0 (ascii "db")) sampleCalls
        (.opened (ascii "db") [1, 2, 3] (by decide)) = .ok (answers, w') ∧
      ByteStore.Trace 0 [1, 2, 3]
        [.write 2 [7, 8, 9], .read 3 4, .truncate 4, .size] answers (w'.os.data 0) ∧
      NamedFile w'.os.toDisk (.on 0 (ascii "db")) 0 := by
  have hfile : NamedFile (World.opened (ascii "db") [1, 2, 3] (by decide)).os.toDisk
      (.on 0 (ascii "db")) 0 := ⟨⟨0, rfl⟩, rfl⟩
  have hrange : AllInRange quietFlash Flash.toDisk (.on 0 (ascii "db")) 0 sampleCalls
      (.opened (ascii "db") [1, 2, 3] (by decide)) := by
    refine ⟨by decide, ?_⟩
    intro _ _ hwrite
    cases hwrite
    refine ⟨by decide, ?_⟩
    intro _ _ hread
    cases hread
    refine ⟨by decide, ?_⟩
    intro _ _ htruncate
    cases htruncate
    exact ⟨by decide, fun _ _ _ => trivial⟩
  exact performAll_simulates_byteStore flash_fileLaws hfile hrange (by decide)

end VxSqlite
