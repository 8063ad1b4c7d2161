import VxSqlite.Disk
import VxSqlite.Verix.Vfs

/-!
# A file system without faults

`flash` is an operating system whose calls act directly on a `Disk`: every write is taken whole
as long as the file stays below the size limit, handles are numbered upwards and the clock and
tick counter stand still. It obeys `FileLaws`, `LockLaws` and `DirLaws`, so what is proved
under these laws is not empty, and the concrete runs of the development are runs of it.
-/

namespace VxSqlite

/-- A disk, the next handle `open()` gives out, and the value of the tick counter. -/
structure Flash extends Disk where
  nextHandle : Int
  ticks : Int
  nextHandle_pos : 0 ≤ nextHandle
  handles_fresh : ∀ h, nextHandle ≤ h → handles h = none

namespace Flash

/-- Change the disk without giving out a handle. -/
def withDisk (s : Flash) (d : Disk) (h : ∀ x, s.nextHandle ≤ x → d.handles x = none) : Flash :=
  { s with toDisk := d, handles_fresh := h }

/-- Put a handle that is already given out on file `f`. -/
theorem seek_fresh (s : Flash) {h : Int} {f p : Nat} (hh : s.handles h = some (f, p)) (q : Nat)
    (hf : f < s.created) (x : Int) (hx : s.nextHandle ≤ x) :
    (s.toDisk.seek h f q hf).handles x = none := by
  have hne : x ≠ h := by
    rintro rfl
    rw [s.handles_fresh x hx] at hh
    cases hh
  simpa [Function.update_of_ne hne] using s.handles_fresh x hx

/-- Give out the next handle on file `f`. -/
def give (s : Flash) (d : Disk) (f : Nat) (hf : f < d.created)
    (hd : d.handles = s.handles) : Flash where
  toDisk := d.seek s.nextHandle f 0 hf
  nextHandle := s.nextHandle + 1
  ticks := s.ticks
  nextHandle_pos := by have := s.nextHandle_pos; omega
  handles_fresh := by
    intro x hx
    have hne : x ≠ s.nextHandle := by omega
    simpa [Function.update_of_ne hne, hd] using s.handles_fresh x (by omega)

end Flash

/-- A file system that holds the given files, none of them open. -/
def Flash.ofFiles (files : List (CString × List UInt8))
    (hlt : ∀ file ∈ files, file.2.length < 2 ^ 31) : Flash where
  dir name := files.findIdx? fun file => file.1 = name
  data f := ((files[f]?).map Prod.snd).getD []
  handles _ := none
  locks _ := none
  created := files.length
  nextHandle := 0
  ticks := 0
  nextHandle_pos := le_refl 0
  handles_fresh _ _ := rfl
  size_lt f := by
    cases hf : files[f]? with
    | none => simp
    | some file => exact hlt file (List.mem_of_getElem? hf)
  dir_lt name f h := (List.findIdx?_eq_some_iff_getElem.mp h).1
  handles_lt h f p heq := by cases heq

/-- A file system without a file. -/
def Flash.empty : Flash :=
  .ofFiles [] (List.forall_mem_nil _)

open Flash

/-- `EIO`. -/
def EIO : Int := 5

/-- `EBADF`. -/
def EBADF : Int := 9

/-- The file system without faults. -/
def flash : Os Flash where
  call
    | .openFile name flags, s =>
        match hd : s.dir name with
        | some f => ⟨s.nextHandle, s.give s.toDisk f (s.dir_lt name f hd) rfl, none⟩
        | none =>
            if flags.creat then
              ⟨s.nextHandle, s.give (s.toDisk.create name) s.created (Nat.lt_succ_self _) rfl, none⟩
            else ⟨-1, s, some ENOENT⟩
    | .close h, s =>
        if (s.handles h).isSome then
          ⟨0, s.withDisk (s.toDisk.closeHandle h) (by
            intro x hx
            by_cases hxh : x = h
            · simp [Disk.closeHandle, hxh]
            · simpa [Disk.closeHandle, Function.update_of_ne hxh] using s.handles_fresh x hx),
            none⟩
        else ⟨-1, s, some EBADF⟩
    | .remove name, s =>
        if (s.dir name).isSome then ⟨0, s.withDisk (s.toDisk.unlink name) s.handles_fresh, none⟩
        else ⟨-1, s, some ENOENT⟩
    | .lseek h offset, s =>
        match hh : s.handles h with
        | none => ⟨-1, s, some EBADF⟩
        | some (f, p) =>
            if 0 ≤ offset ∧ offset ≤ (s.data f).length then
              ⟨offset, s.withDisk (s.toDisk.seek h f offset.toNat (s.handles_lt h f p hh))
                (s.seek_fresh hh _ _), none⟩
            else ⟨-1, s, some EIO⟩
    | .read h amt, s =>
        match hh : s.handles h with
        | none => ⟨none, s, some EBADF⟩
        | some (f, p) =>
            let bytes := window (s.data f) p amt.toNat
            ⟨some bytes, s.withDisk (s.toDisk.seek h f (p + bytes.length) (s.handles_lt h f p hh))
              (s.seek_fresh hh _ _), none⟩
    | .write h bytes, s =>
        match hh : s.handles h with
        | none => ⟨none, s, some EBADF⟩
        | some (f, p) =>
            if hlt : (overlay (s.data f) p bytes).length < 2 ^ 31 then
              ⟨some bytes.length,
                s.withDisk (s.toDisk.putAt h f (p + bytes.length) (overlay (s.data f) p bytes) hlt
                  (s.handles_lt h f p hh)) (s.seek_fresh hh _ (s.handles_lt h f p hh)), none⟩
            else ⟨none, s, some EIO⟩
    | .getFileSize h, s =>
        match s.handles h with
        | none => ⟨(-1, 0), s, some EBADF⟩
        | some (f, _) => ⟨(0, (s.data f).length), s, none⟩
    | .dirGetFileSz name, s =>
        match s.dir name with
        | none => ⟨-1, s, some ENOENT⟩
        | some f => ⟨(s.data f).length, s, none⟩
    | .dirGetAttributes name, s => ⟨(s.dir name).map fun _ => false, s, none⟩
    | .delete_ h count, s =>
        match s.handles h with
        | none => ⟨-1, s, some EBADF⟩
        | some (f, p) =>
            if hlt : (cut (s.data f) p count.toNat).length < 2 ^ 31 then
              ⟨0, s.withDisk (s.toDisk.put f (cut (s.data f) p count.toNat) hlt) s.handles_fresh,
                none⟩
            else ⟨-1, s, some EIO⟩
    | .lock h, s =>
        match s.handles h with
        | none => ⟨-1, s, some EBADF⟩
        | some (f, _) =>
            if s.locks f = none ∨ s.locks f = some h then
              ⟨0, s.withDisk (s.toDisk.setLock f (some h)) s.handles_fresh, none⟩
            else ⟨-1, s, some EIO⟩
    | .unlock h, s =>
        match s.handles h with
        | none => ⟨-1, s, some EBADF⟩
        | some (f, _) =>
            if s.locks f = some h then
              ⟨0, s.withDisk (s.toDisk.setLock f none) s.handles_fresh, none⟩
            else ⟨-1, s, some EIO⟩
    | .readTicks, s => ⟨s.ticks, s, none⟩
    | .readClock, s => ⟨List.replicate 14 48, s, none⟩
    | .rand, s => ⟨0, s, none⟩
    | .svcWait _, s => ⟨(), s, none⟩

/-! ## The calls on an open handle -/

variable {s : Flash} {h : Int} {f p : Nat}

theorem flash_lseek_eq (hh : s.handles h = some (f, p)) (offset : Int) :
    flash.call (.lseek h offset) s =
      if 0 ≤ offset ∧ offset ≤ (s.data f).length then
        ⟨offset, s.withDisk (s.toDisk.seek h f offset.toNat (s.handles_lt h f p hh))
          (s.seek_fresh hh _ _), none⟩
      else ⟨-1, s, some EIO⟩ := by
  simp only [flash]
  split
  · rename_i hnone
    cases hh.symm.trans hnone
  · rename_i f' p' heq
    cases hh.symm.trans heq
    rfl

theorem flash_read_eq (hh : s.handles h = some (f, p)) (amt : Int) :
    flash.call (.read h amt) s =
      ⟨some (window (s.data f) p amt.toNat),
        s.withDisk (s.toDisk.seek h f (p + (window (s.data f) p amt.toNat).length)
          (s.handles_lt h f p hh)) (s.seek_fresh hh _ _), none⟩ := by
  simp only [flash]
  split
  · rename_i hnone
    cases hh.symm.trans hnone
  · rename_i f' p' heq
    cases hh.symm.trans heq
    rfl

theorem flash_write_eq (hh : s.handles h = some (f, p)) (bytes : List UInt8) :
    flash.call (.write h bytes) s =
      if hlt : (overlay (s.data f) p bytes).length < 2 ^ 31 then
        ⟨some bytes.length,
          s.withDisk (s.toDisk.putAt h f (p + bytes.length) (overlay (s.data f) p bytes) hlt
            (s.handles_lt h f p hh)) (s.seek_fresh hh _ (s.handles_lt h f p hh)), none⟩
      else ⟨none, s, some EIO⟩ := by
  simp only [flash]
  split
  · rename_i hnone
    cases hh.symm.trans hnone
  · rename_i f' p' heq
    cases hh.symm.trans heq
    rfl

/-- Deleting bytes leaves a file within the size limit. -/
theorem Flash.length_cut_lt (s : Flash) (f p count : Nat) :
    (cut (s.data f) p count).length < 2 ^ 31 := by
  have hsize := s.size_lt f
  simp only [cut, List.length_append, List.length_take, List.length_drop]
  omega

/-- A write that keeps the file below the size limit is taken whole. -/
theorem flash_write_value {bytes : List UInt8} (hh : s.handles h = some (f, p))
    (hlt : (overlay (s.data f) p bytes).length < 2 ^ 31) :
    (flash.call (.write h bytes) s).value = some bytes.length := by
  rw [flash_write_eq hh, dif_pos hlt]

/-- Deleting bytes of an open file succeeds. -/
theorem flash_delete_value (hh : s.handles h = some (f, p)) (count : Int) :
    (flash.call (.delete_ h count) s).value = 0 := by
  simp only [flash, hh, dif_pos (s.length_cut_lt f p count.toNat)]

/-! ## The laws -/

theorem flash_fileLaws : FileLaws flash Flash.toDisk where
  lseek_inside s h f p offset hh hlo hhi := by
    rw [flash_lseek_eq hh, if_pos ⟨hlo, hhi⟩]
    exact ⟨rfl, rfl⟩
  lseek_outside s h f p offset hh hout := by
    rw [flash_lseek_eq hh, if_neg (by omega)]
    exact ⟨rfl, rfl⟩
  read s h f p amt hh hamt := by
    rw [flash_read_eq hh]
    exact ⟨rfl, rfl⟩
  write s h f p bytes hh hne hp := by
    rw [flash_write_eq hh]
    by_cases hlt : (overlay (s.data f) p bytes).length < 2 ^ 31
    · rw [dif_pos hlt]
      refine Or.inr ⟨bytes.length, by simpa using hlt, ?_, le_refl _, rfl, ?_⟩
      · exact List.length_pos_iff.mpr hne
      · simp only [List.take_length]
        rfl
    · rw [dif_neg hlt]
      exact Or.inl ⟨rfl, rfl⟩
  getFileSize s h f p hh := by
    simp only [flash, hh]
    exact ⟨trivial, trivial⟩
  dirGetFileSz s name f hd := by
    simp only [flash, hd]
    exact ⟨trivial, trivial⟩
  delete_ s h f p count hh hcount hle := by
    have hlt := s.length_cut_lt f p count.toNat
    refine Or.inr ⟨hlt, ?_⟩
    simp only [flash, hh, dif_pos hlt]
    exact ⟨trivial, rfl⟩

theorem flash_lockLaws : LockLaws flash Flash.toDisk where
  lock_free s h f p hh hfree := by
    simp only [flash, hh, if_pos hfree]
    exact ⟨trivial, rfl⟩
  lock_held s h f p other hh hlock hne := by
    simp only [flash, hh, hlock]
    rw [if_neg (by simpa using hne)]
    exact ⟨by simp, rfl⟩
  unlock_own s h f p hh hlock := by
    simp only [flash, hh, if_pos hlock]
    exact ⟨trivial, rfl⟩
  unlock_other s h f p hh hlock := by
    simp only [flash, hh, if_neg hlock]

theorem flash_dirLaws : DirLaws flash Flash.toDisk where
  open_failed s name flags hv := by
    have hpos := s.nextHandle_pos
    simp only [flash] at hv ⊢
    split at hv
    · simp only at hv
      omega
    · rename_i hd
      split at hv
      · simp only at hv
        omega
      · rename_i hcreat
        split
        · simp_all
        · rfl
  open_existing s name flags f hd hv := by
    simp only [flash] at hv ⊢
    split
    · rename_i f' heq
      cases hd.symm.trans heq
      exact ⟨s.handles_fresh _ (le_refl _), rfl⟩
    · simp_all
  open_missing s name flags hd hv := by
    simp only [flash] at hv ⊢
    split
    · simp_all
    · by_cases hcreat : flags.creat = true
      · simp only [hcreat, if_true, true_and]
        exact ⟨s.handles_fresh _ (le_refl _), rfl⟩
      · split at hv
        · simp_all
        · simp [hcreat] at hv
  close s h f p hh := by
    simp only [flash, hh, Option.isSome_some, if_true, true_and]
    exact ⟨s.locks, rfl⟩
  remove s name := by
    cases hd : s.dir name with
    | none => exact Or.inr (by simp [flash, hd])
    | some f =>
        refine Or.inl ?_
        simp only [flash, hd, Option.isSome_some, if_true]
        exact ⟨trivial, by simp, rfl⟩

theorem flash_lawful : Lawful flash Flash.toDisk where
  file := flash_fileLaws
  lock := flash_lockLaws
  dir := flash_dirLaws
  query c s hc := by
    cases c with
    | dirGetFileSz name =>
        simp only [flash]
        split <;> rfl
    | dirGetAttributes name => rfl
    | readTicks => rfl
    | readClock => rfl
    | rand => rfl
    | svcWait ms => rfl
    | _ => exact hc.elim

/-- With `O_CREAT` every open succeeds. -/
theorem flash_open_value {s : Flash} {name : CString} {flags : OpenFlags}
    (hcreat : flags.creat = true) :
    (flash.call (.openFile name flags) s).value = s.nextHandle := by
  simp only [flash]
  split
  · rfl
  · rw [if_pos hcreat]

/-! ## Faulty devices -/

/-- `flash`, but every read fails. -/
def deafFlash : Os Flash where
  call
    | .read _ _, s => ⟨none, s, some EIO⟩
    | c, s => flash.call c s

/-- A device without room, whose `write()` takes no byte and calls that no error. -/
def fullFlash : Os Flash where
  call
    | .write _ _, s => ⟨some 0, s, none⟩
    | c, s => flash.call c s

/-- A device with room for `room` bytes a file, whose `write()` fails if its bytes do not fit. -/
def smallFlash (room : Nat) : Os Flash where
  call
    | .write h bytes, s =>
        match s.handles h with
        | none => ⟨none, s, some EBADF⟩
        | some (_, p) =>
            if p + bytes.length ≤ room then flash.call (.write h bytes) s else ⟨none, s, some EIO⟩
    | c, s => flash.call c s

/-- A device with room for `room` bytes a file, whose `write()` takes one byte at a time. -/
def tightFlash (room : Nat) : Os Flash where
  call
    | .write h bytes, s =>
        match s.handles h with
        | none => ⟨none, s, some EBADF⟩
        | some (_, p) =>
            if p < room then flash.call (.write h (bytes.take 1)) s else ⟨none, s, some EIO⟩
    | c, s => flash.call c s

theorem smallFlash_write_eq {s : Flash} {h : Int} {f p : Nat} (hh : s.handles h = some (f, p))
    (room : Nat) (bytes : List UInt8) :
    (smallFlash room).call (.write h bytes) s =
      if p + bytes.length ≤ room then flash.call (.write h bytes) s else ⟨none, s, some EIO⟩ := by
  simp only [smallFlash, hh]

theorem smallFlash_lawful (room : Nat) : Lawful (smallFlash room) Flash.toDisk where
  file := {
    lseek_inside := flash_fileLaws.lseek_inside
    lseek_outside := flash_fileLaws.lseek_outside
    read := flash_fileLaws.read
    write := by
      intro s h f p bytes hh hne hle
      rw [smallFlash_write_eq hh]
      split_ifs
      · exact flash_fileLaws.write s h f p bytes hh hne hle
      · exact Or.inl ⟨rfl, rfl⟩
    getFileSize := flash_fileLaws.getFileSize
    dirGetFileSz := flash_fileLaws.dirGetFileSz
    delete_ := flash_fileLaws.delete_ }
  lock := { flash_lockLaws with }
  dir := { flash_dirLaws with }
  query := by
    intro α c s hc
    cases c with
    | write h bytes => exact hc.elim
    | _ => exact flash_lawful.query _ s hc

theorem flash_failureLaws : FailureLaws flash Flash.toDisk where
  lseek s h f p offset hh := by
    rw [flash_lseek_eq hh]
    by_cases hinside : 0 ≤ offset ∧ offset ≤ (s.data f).length
    · rw [if_pos hinside]
      refine Or.inr ⟨?_, rfl⟩
      show offset ≠ -1
      omega
    · rw [if_neg hinside]
      exact Or.inl ⟨rfl, rfl⟩
  write := flash_fileLaws.write
  getFileSize s h f p hh := (flash_fileLaws.getFileSize s h f p hh).2
  delete_ s h f p count hh hfailed := absurd (flash_delete_value hh count) hfailed

theorem tightFlash_failureLaws (room : Nat) : FailureLaws (tightFlash room) Flash.toDisk where
  lseek := flash_failureLaws.lseek
  write s h f p bytes hh hne hle := by
    simp only [tightFlash, hh]
    split
    · have hone : bytes.take 1 ≠ [] := by simpa using hne
      rcases flash_fileLaws.write s h f p (bytes.take 1) hh hone hle with
        hfailed | ⟨count, hlt, hpos, hcount, hvalue, hview⟩
      · exact Or.inl hfailed
      · have htake : (bytes.take 1).take count = bytes.take count := by
          rw [List.take_take, min_eq_left (hcount.trans (List.length_take_le 1 bytes))]
        refine Or.inr ⟨count, by rwa [← htake], hpos,
          hcount.trans (List.length_take_le' 1 bytes), hvalue, ?_⟩
        simp only [← htake]
        exact hview
    · exact Or.inl ⟨rfl, rfl⟩
  getFileSize := flash_failureLaws.getFileSize
  delete_ := flash_failureLaws.delete_

/-! ## Concrete worlds -/

/-- `flash` under the build without logging, on a platform that traps a null read. -/
def quietFlash : Env Flash := ⟨flash, .quiet, none, 64⟩

/-- A world on a state of the operating system. -/
def World.on {σ : Type} (os : σ) : World σ := ⟨os, 0, 0, 0, false⟩

/-- The file object that `verixOpen` makes for a named file on a handle. -/
def VerixFile.on (h : Int) (name : CString) : VerixFile := ⟨true, h, false, name⟩

/-- A world that holds one file, open on handle 0. -/
def World.opened (name : CString) (content : List UInt8) (hlt : content.length < 2 ^ 31) :
    World Flash :=
  let s := Flash.ofFiles [(name, content)] (by simpa using hlt)
  .on (s.give s.toDisk 0 (by simp [s, Flash.ofFiles]) rfl)

theorem World.opened_handles (name : CString) (content : List UInt8)
    (hlt : content.length < 2 ^ 31) :
    (World.opened name content hlt).os.handles 0 = some (0, 0) := by
  simp [World.opened, World.on, Flash.give, Flash.ofFiles]

theorem World.opened_data (name : CString) (content : List UInt8)
    (hlt : content.length < 2 ^ 31) : (World.opened name content hlt).os.data 0 = content := rfl

end VxSqlite
