import VxSqlite.Flash
import VxSqlite.Verix.Content

/-!
# Positions beyond an `int`

`verixRead`, `verixWrite` and `verixTruncate` receive a 64-bit position and narrow it to `int`
before they seek. `ReadExact`, `WriteExact` and `TruncateExact` say that on every system the
call acts at the position it was given or fails. Each holds of a position exactly when the
narrowed one is the same position or lies outside the file, up to the edges that the three
calls treat differently.
-/

namespace VxSqlite

/-- A read at `offset` that returns `SQLITE_OK` returns the bytes there, and no read changes
the file. -/
def ReadExact (content : List UInt8) (offset : Nat) : Prop :=
  ∀ (σ : Type) (env : Env σ) (view : σ → Disk) (pFile : VerixFile) (f : Nat) (w : World σ)
    (pBuf : Buffer UInt8) (amt : Nat), FileLaws env.os view → OpenOn (view w.os) pFile f →
    (view w.os).data f = content → 0 < amt →
    ∃ rc buf w', verixRead env pFile pBuf amt offset w = (rc, buf, w') ∧
      (view w'.os).data f = content ∧
      (rc = .ok → offset + amt ≤ content.length ∧ buf.contents amt = window content offset amt)

/-- A write at `offset` changes no byte outside its range, and one that returns `SQLITE_OK` has
put the buffer there. -/
def WriteExact (content : List UInt8) (offset : Nat) : Prop :=
  ∀ (σ : Type) (env : Env σ) (view : σ → Disk) (pFile : VerixFile) (f : Nat) (w : World σ)
    (pBuf : List UInt8), FileLaws env.os view → OpenOn (view w.os) pFile f →
    (view w.os).data f = content → 0 < pBuf.length → pBuf.length ≤ env.writeFuel →
    ∃ rc w', verixWrite env pFile pBuf offset w = .ok (rc, w') ∧
      (∀ i, i < offset ∨ offset + pBuf.length ≤ i → ((view w'.os).data f)[i]? = content[i]?) ∧
      (rc = .ok → window ((view w'.os).data f) offset pBuf.length = pBuf)

/-- A truncation to `nByte` keeps every byte below `nByte`; if it returns `SQLITE_OK` the file
has that size, and otherwise the file is unchanged. -/
def TruncateExact (content : List UInt8) (nByte : Nat) : Prop :=
  ∀ (σ : Type) (env : Env σ) (view : σ → Disk) (pFile : VerixFile) (f : Nat) (w : World σ),
    FileLaws env.os view → OpenOn (view w.os) pFile f → (view w.os).data f = content →
    ∃ rc w', verixTruncate env pFile nByte w = (rc, w') ∧
      (∀ i, i < nByte → ((view w'.os).data f)[i]? = content[i]?) ∧
      (rc = .ok → ((view w'.os).data f).length = nByte) ∧
      (rc ≠ .ok → (view w'.os).data f = content)

/-- The narrowed position is at most the largest `int`. -/
theorem toInt_lt (x : Int) : toInt x < 2 ^ 31 := by
  have := (narrow_inWord 32 (by omega) x).2
  unfold toInt
  omega

variable {content : List UInt8}

/-- The file object of the concrete worlds is open on their file. -/
theorem World.opened_openOn (name : CString) (hlt : content.length < 2 ^ 31) :
    OpenOn (World.opened name content hlt).os.toDisk (.on 0 name) 0 :=
  ⟨0, World.opened_handles name content hlt⟩

/-- A read is exact unless the narrowed position is a wrong one with a byte at it: at the end
of the file it is short, since there is no byte to read. -/
theorem readExact_iff (hlt : content.length < 2 ^ 31) (offset : Nat) :
    ReadExact content offset ↔
      toInt offset = offset ∨ toInt offset < 0 ∨ content.length ≤ toInt offset := by
  constructor
  · intro hexact
    rcases narrowed_cases content.length offset with hout | ⟨p, hp, hle, heq | hlow⟩
    · omega
    · omega
    · by_contra hin
      -- one byte at the narrowed position is read with `SQLITE_OK`
      have laws : FileLaws quietFlash.os Flash.toDisk := flash_fileLaws
      have hopen := World.opened_openOn [] hlt
      obtain ⟨rc, buf, w', hread, hrc, -⟩ :=
        verixRead_inside laws hopen rfl (.untouched fun _ => 0) 1 offset hp hle
      obtain ⟨rc₁, buf₁, w₁, hread₁, -, hok⟩ :=
        hexact Flash quietFlash _ _ 0 _ (.untouched fun _ => 0) 1 laws hopen rfl (by omega)
      cases hread.symm.trans hread₁
      rw [World.opened_data, if_pos (by omega)] at hrc
      have := (hok hrc).1
      omega
  · intro hcond σ env view pFile f w pBuf amt laws hopen hcontent hamt
    rcases narrowed_cases content.length offset with hout | ⟨p, hp, hle, hcase⟩
    · obtain ⟨buf, w', hread, -, hview⟩ :=
        verixRead_outside laws hopen pBuf amt offset (by rw [hcontent]; exact hout)
      exact ⟨_, buf, w', hread, by rw [hview, hcontent], by simp⟩
    · obtain ⟨rc, buf, w', hread, hrc, hbuf, hdata, -⟩ :=
        verixRead_inside laws hopen hcontent pBuf amt offset hp hle
      refine ⟨rc, buf, w', hread, hdata, ?_⟩
      intro hok
      rw [hok] at hrc
      have hfull : p + amt ≤ content.length := by
        by_contra hshort
        rw [if_neg hshort] at hrc
        cases hrc
      have heq : p = offset := by omega
      subst heq
      exact ⟨hfull, by rw [hbuf, ByteStore.padded_of_le hfull]⟩

/-- On the file system without faults, a byte that fits below the size limit is written. -/
theorem verixWrite_flash {w : World Flash} {pFile : VerixFile} {f : Nat}
    (hopen : OpenOn w.os.toDisk pFile f) (byte : UInt8) (offset : Int) {p : Nat}
    (hp : toInt offset = p) (hle : p ≤ (w.os.data f).length) (hlt : p + 1 < 2 ^ 31) :
    ∃ w', verixWrite quietFlash pFile [byte] offset w = .ok (.ok, w') := by
  have laws : FileLaws quietFlash.os Flash.toDisk := flash_fileLaws
  obtain ⟨q, hq⟩ := hopen
  obtain ⟨hseek, hview⟩ := laws.lseek_inside w.os pFile.h f q p hq (by omega) (by omega)
  have hne : ((p : Nat) : Int) ≠ -1 := by omega
  have hpos : (quietFlash.os.call (.lseek pFile.h p) w.os).os.handles pFile.h = some (f, p) := by
    simp [hview]
  have hsize := w.os.size_lt f
  have hwrite : (quietFlash.os.call (.write pFile.h [byte])
      (quietFlash.os.call (.lseek pFile.h p) w.os).os).value = some 1 := by
    refine flash_write_value hpos ?_
    rw [hview, Disk.seek_data, length_overlay _ hle]
    simp only [List.length_singleton]
    omega
  refine ⟨quietFlash.logPrintf (quietFlash.sys (.write pFile.h [byte])
    (quietFlash.sys (.lseek pFile.h p) w).world).world, ?_⟩
  simp only [verixWrite, hp, Env.sys_value, hseek, if_neg hne]
  rw [show quietFlash.writeFuel = 63 + 1 from rfl, verixWriteLoop]
  simp only [Env.sys_value, Env.sys_os, hwrite, List.drop_succ_cons, List.drop_nil]
  rfl

/-- A write is exact unless the narrowed position is a wrong one with room for a byte. -/
theorem writeExact_iff (hlt : content.length < 2 ^ 31) (offset : Nat) :
    WriteExact content offset ↔
      toInt offset = offset ∨ toInt offset < 0 ∨ content.length < toInt offset ∨
        toInt offset = 2 ^ 31 - 1 := by
  constructor
  · intro hexact
    rcases narrowed_cases content.length offset with hout | ⟨p, hp, hle, heq | hlow⟩
    · omega
    · omega
    · by_contra hin
      -- a byte that differs from the one at the narrowed position is written there
      have laws : FileLaws quietFlash.os Flash.toDisk := flash_fileLaws
      have hopen := World.opened_openOn [] hlt
      obtain ⟨byte, hbyte⟩ : ∃ byte : UInt8, content[p]? ≠ some byte := by
        by_cases hzero : content[p]? = some 0
        · exact ⟨1, by simp [hzero]⟩
        · exact ⟨0, hzero⟩
      have hword := toInt_lt offset
      have hfuel : [byte].length ≤ quietFlash.writeFuel := by simp [quietFlash]
      obtain ⟨w', hwrite⟩ := verixWrite_flash hopen byte offset hp hle (by omega)
      obtain ⟨rc₁, w₁, taken, hwrite₁, -, hrc, hdata, -⟩ :=
        verixWrite_inside laws hopen rfl [byte] offset hp hle hfuel
      cases hwrite.symm.trans hwrite₁
      have htaken : taken = 1 := by simpa using hrc
      obtain ⟨rc₂, w₂, hwrite₂, houtside, -⟩ :=
        hexact Flash quietFlash _ _ 0 _ [byte] laws hopen rfl (by simp) hfuel
      cases hwrite.symm.trans hwrite₂
      have hat := houtside p (Or.inl (by omega))
      rw [hdata, htaken, World.opened_data,
        getElem?_overlay_inside _ hle (le_refl p) (by simp)] at hat
      exact hbyte (by simpa using hat.symm)
  · intro hcond σ env view pFile f w pBuf laws hopen hcontent hamt hfuel
    rcases narrowed_cases content.length offset with hout | ⟨p, hp, hle, hcase⟩
    · obtain ⟨w', hwrite, hview⟩ :=
        verixWrite_outside laws hopen pBuf offset (by rw [hcontent]; exact hout)
      exact ⟨_, w', hwrite, fun i _ => by rw [hview, hcontent], by simp⟩
    · obtain ⟨rc, w', taken, hwrite, htaken, hrc, hdata, -⟩ :=
        verixWrite_inside laws hopen hcontent pBuf offset hp hle hfuel
      have hlen : (pBuf.take taken).length = taken := by simpa using htaken
      have hsize := (view w'.os).size_lt f
      rw [hdata, length_overlay _ hle, hlen] at hsize
      by_cases heq : p = offset
      · subst heq
        refine ⟨rc, w', hwrite, ?_, ?_⟩
        · intro i hi
          rw [hdata]
          exact getElem?_overlay_outside _ hle (by omega)
        · intro hok
          have hall : taken = pBuf.length := by simpa [hok] using hrc
          rw [hdata, hall, List.take_length]
          exact window_overlay_self pBuf hle
      · -- there is no room at the last position of an `int`, so nothing was written
        have htaken : taken = 0 := by omega
        have hfail : rc ≠ .ok := by
          rintro rfl
          simp only [htaken] at hrc
          rcases hrc with ⟨-, h⟩ | ⟨h, -⟩
          · omega
          · cases h
        refine ⟨rc, w', hwrite, ?_, fun hok => absurd hok hfail⟩
        intro i _
        rw [hdata, htaken, List.take_zero, overlay_nil]

/-- On the file system without faults, truncating inside the file succeeds. -/
theorem verixTruncate_flash {w : World Flash} {pFile : VerixFile} {f : Nat}
    (hopen : OpenOn w.os.toDisk pFile f) (nByte : Int) {n : Nat} (hn : toInt nByte = n)
    (hle : n ≤ (w.os.data f).length) :
    ∃ w', verixTruncate quietFlash pFile nByte w = (.ok, w') ∧
      w'.os.data f = (w.os.data f).take n := by
  have laws : FileLaws quietFlash.os Flash.toDisk := flash_fileLaws
  obtain ⟨rc, w', htruncate, hrc, -⟩ := verixTruncate_inside laws hopen rfl nByte hn hle
  obtain ⟨q, hq⟩ := hopen
  have hsize := (laws.getFileSize w.os pFile.h f q hq).1
  have hstay : (quietFlash.os.call (.getFileSize pFile.h) w.os).os = w.os := by
    simp only [quietFlash, flash, hq]
  obtain ⟨hseek, hview⟩ := laws.lseek_inside w.os pFile.h f q n hq (by omega) (by omega)
  have hne : ((n : Nat) : Int) ≠ -1 := by omega
  have hpos : (quietFlash.os.call (.lseek pFile.h n) w.os).os.handles pFile.h = some (f, n) := by
    simp [hview]
  have hdelete : ∀ count, (quietFlash.os.call (.delete_ pFile.h count)
      (quietFlash.os.call (.lseek pFile.h n) w.os).os).value = 0 := flash_delete_value hpos
  have hok : (verixTruncate quietFlash pFile nByte w).1 = .ok := by
    simp only [verixTruncate, hn, Env.sys_value, Env.sys_os, hsize, hstay, hseek, hne, hdelete,
      ne_eq, not_true_eq_false, if_false]
  rw [htruncate] at hok
  rcases hrc with ⟨rfl, hdata⟩ | ⟨rfl, -⟩
  · exact ⟨w', htruncate, hdata⟩
  · cases hok

/-- A truncation is exact unless the narrowed size is a wrong one that the file has. -/
theorem truncateExact_iff (hlt : content.length < 2 ^ 31) (nByte : Nat) :
    TruncateExact content nByte ↔
      toInt nByte = nByte ∨ toInt nByte < 0 ∨ content.length < toInt nByte := by
  constructor
  · intro hexact
    rcases narrowed_cases content.length nByte with hout | ⟨n, hn, hle, heq | hlow⟩
    · omega
    · omega
    · -- the file is truncated with `SQLITE_OK` to the narrowed size
      have laws : FileLaws quietFlash.os Flash.toDisk := flash_fileLaws
      have hopen := World.opened_openOn [] hlt
      obtain ⟨w', htruncate, hdata⟩ := verixTruncate_flash hopen nByte hn hle
      obtain ⟨rc₁, w₁, htruncate₁, -, hsize, -⟩ :=
        hexact Flash quietFlash _ _ 0 _ laws hopen rfl
      cases htruncate.symm.trans htruncate₁
      have hlen := hsize rfl
      rw [hdata, World.opened_data, List.length_take] at hlen
      omega
  · intro hcond σ env view pFile f w laws hopen hcontent
    rcases narrowed_cases content.length nByte with hout | ⟨n, hn, hle, hcase⟩
    · obtain ⟨w', htruncate, hview⟩ :=
        verixTruncate_outside laws hopen nByte (by rw [hcontent]; exact hout)
      exact ⟨_, w', htruncate, fun i _ => by rw [hview, hcontent], by simp,
        fun _ => by rw [hview, hcontent]⟩
    · have heq : n = nByte := by omega
      subst heq
      obtain ⟨rc, w', htruncate, hrc, -⟩ := verixTruncate_inside laws hopen hcontent n hn hle
      refine ⟨rc, w', htruncate, ?_⟩
      rcases hrc with ⟨rfl, hdata⟩ | ⟨rfl, hdata⟩
      · refine ⟨?_, ?_, by simp⟩
        · intro i hi
          rw [hdata, List.getElem?_take_of_lt hi]
        · intro _
          rw [hdata, List.length_take]
          omega
      · exact ⟨fun i _ => by rw [hdata], by simp, fun _ => hdata⟩

/-- A position that the port narrows is never taken for another one, by any of the three calls,
exactly if the narrowed position is the same or lies outside the file. -/
theorem positionExact_iff (hlt : content.length < 2 ^ 31) (position : Nat) :
    ReadExact content position ∧ WriteExact content position ∧ TruncateExact content position ↔
      toInt position = position ∨ toInt position < 0 ∨ content.length < toInt position := by
  rw [readExact_iff hlt, writeExact_iff hlt, truncateExact_iff hlt]
  omega

/-- The byte at position `2 ^ 32` of a five-byte file. -/
theorem positionExact_iff_at : ReadExact [1, 2, 3, 4, 5] (2 ^ 32) ∧
    WriteExact [1, 2, 3, 4, 5] (2 ^ 32) ∧ TruncateExact [1, 2, 3, 4, 5] (2 ^ 32) ↔
      toInt (2 ^ 32) = 2 ^ 32 ∨ toInt (2 ^ 32) < 0 ∨
        ([1, 2, 3, 4, 5] : List UInt8).length < toInt (2 ^ 32) := by
  have h := @positionExact_iff [1, 2, 3, 4, 5] (by decide) (2 ^ 32)
  exact_mod_cast h

/-- Page 1048577 of 4096 bytes lies at position `2 ^ 32`, which is narrowed to 0: writing it
overwrites the front of the database with `SQLITE_OK`. -/
theorem writes_over_first_page :
    (∃ w', verixWrite quietFlash (.on 0 (ascii "db")) [9] ((1048577 - 1) * 4096)
        (.opened (ascii "db") [1, 2, 3] (by decide)) = .ok (.ok, w') ∧
      w'.os.data 0 = [9, 2, 3]) ∧
    ¬ ∀ content : List UInt8, content.length < 2 ^ 31 → ∀ position,
      ReadExact content position ∧ WriteExact content position ∧
        TruncateExact content position := by
  refine ⟨⟨_, rfl, rfl⟩, ?_⟩
  intro h
  have hwrite := (writeExact_iff (by decide) _).mp (h [1, 2, 3] (by decide) (2 ^ 32)).2.1
  revert hwrite
  decide

end VxSqlite
