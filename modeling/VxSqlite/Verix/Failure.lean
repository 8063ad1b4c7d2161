import VxSqlite.Flash
import VxSqlite.Verix.Content

/-!
# What a failing write or truncation leaves

Every system call may fail here, the ones in the middle of an operation included, as long as a
call that fails has not changed the file (`FailureLaws`). A write that fails has laid a proper
prefix of its buffer over the content and a truncation that fails has changed nothing, so
rolling back by writing the old pages again restores the file.
-/

namespace VxSqlite

variable {σ : Type} {env : Env σ} {view : σ → Disk}

/-- The file holds the old content with a proper prefix of the buffer laid over it from `offset`
on, and nothing else has changed. -/
def PrefixWritten (f : Nat) (d d' : Disk) (offset : Nat) (pBuf : List UInt8) : Prop :=
  ∃ k < pBuf.length, d'.data f = overlay (d.data f) offset (pBuf.take k) ∧ SameBut f d d'

/-- A write inside the file returns, and if it fails it has written a proper prefix. -/
theorem verixWrite_failed (laws : FailureLaws env.os view) {pFile : VerixFile} {f : Nat}
    {w : World σ} (hopen : OpenOn (view w.os) pFile f) {pBuf : List UInt8} (hne : pBuf ≠ [])
    {offset : Nat} (hle : offset ≤ ((view w.os).data f).length) (hlt : offset < 2 ^ 31)
    (hfuel : pBuf.length ≤ env.writeFuel) :
    ∃ rc w', verixWrite env pFile pBuf offset w = .ok (rc, w') ∧
      (rc ≠ .ok → PrefixWritten f (view w.os) (view w'.os) offset pBuf) := by
  obtain ⟨p, hp⟩ := hopen
  have hseek := laws.lseek w.os pFile.h f p (toInt offset) hp
  rw [toInt_natCast hlt] at hseek
  rcases hseek with ⟨hvalue, hview⟩ | ⟨hvalue, hview⟩
  · -- the seek failed, so nothing has been written
    refine ⟨.ioerrWrite, (env.logPrintf (env.sys (.lseek pFile.h offset) w).world).saveErrno, ?_,
      fun _ => ⟨0, List.length_pos_iff.mpr hne, ?_⟩⟩
    · simp only [verixWrite, toInt_natCast hlt, Env.sys_value, hvalue, if_true]
    · rw [World.saveErrno_os, Env.logPrintf_os, Env.sys_os, hview]
      exact ⟨by simp, SameBut.refl f _⟩
  · let start := (env.sys (.lseek pFile.h offset) w).world
    have hpos : (view start.os).handles pFile.h = some (f, offset) := by
      rw [Env.sys_os, hview]
      simp
    have hdata : (view start.os).data f = (view w.os).data f := by
      rw [Env.sys_os, hview, Disk.seek_data]
    have hsame : SameBut f (view w.os) (view start.os) := by
      rw [Env.sys_os, hview]
      exact SameBut.seek hp _
    obtain ⟨rc, w', taken, hloop, -, hrc, hdata', hsame'⟩ :=
      verixWriteLoop_spec laws.write env.writeFuel pBuf start offset hpos
        (by rw [hdata]; exact hle) hfuel
    refine ⟨rc, w', ?_, ?_⟩
    · simp only [verixWrite, toInt_natCast hlt, Env.sys_value, if_neg hvalue]
      exact hloop
    · intro hfailed
      have htaken : taken < pBuf.length := by
        rcases hrc with ⟨hok, -⟩ | ⟨-, htaken⟩
        · exact absurd hok hfailed
        · exact htaken
      exact ⟨taken, htaken, by rw [hdata', hdata], hsame.trans hsame'⟩

/-- A truncation that fails has changed nothing but the position, whichever call failed. -/
theorem verixTruncate_failed (laws : FailureLaws env.os view) {pFile : VerixFile} {f : Nat}
    {w : World σ} (hopen : OpenOn (view w.os) pFile f) (nByte : Int)
    (hfailed : (verixTruncate env pFile nByte w).1 ≠ .ok) :
    (view (verixTruncate env pFile nByte w).2.os).data f = (view w.os).data f ∧
      SameBut f (view w.os) (view (verixTruncate env pFile nByte w).2.os) := by
  obtain ⟨p, hp⟩ := hopen
  let size := env.sys (.getFileSize pFile.h) w
  let ls := env.sys (.lseek pFile.h (toInt nByte)) size.world
  let deleted := env.sys (.delete_ pFile.h (size.value.2 - toInt nByte)) ls.world
  have hsize : view size.world.os = view w.os := laws.getFileSize w.os pFile.h f p hp
  have hp' : (view size.world.os).handles pFile.h = some (f, p) := by rw [hsize, hp]
  by_cases hquery : size.value.1 ≠ 0
  · have heq : verixTruncate env pFile nByte w =
        (.ioerrTruncate, (env.logPrintf size.world).saveErrno) := if_pos hquery
    rw [heq, World.saveErrno_os, Env.logPrintf_os, hsize]
    exact ⟨rfl, SameBut.refl f _⟩
  have hrest : verixTruncate env pFile nByte w =
      if ls.value = -1 then (.ioerrTruncate, (env.logPrintf ls.world).saveErrno)
      else if deleted.value ≠ 0 then (.ioerrTruncate, (env.logPrintf deleted.world).saveErrno)
      else (.ok, env.logPrintf deleted.world) := if_neg hquery
  rcases laws.lseek size.world.os pFile.h f p (toInt nByte) hp' with
    ⟨hvalue, hview⟩ | ⟨hvalue, hview⟩
  · have heq : verixTruncate env pFile nByte w =
        (.ioerrTruncate, (env.logPrintf ls.world).saveErrno) := hrest.trans (if_pos hvalue)
    rw [heq, World.saveErrno_os, Env.logPrintf_os, Env.sys_os, hview, hsize]
    exact ⟨rfl, SameBut.refl f _⟩
  replace hrest := hrest.trans (if_neg hvalue)
  have hpos : (view ls.world.os).handles pFile.h = some (f, (toInt nByte).toNat) := by
    rw [Env.sys_os, hview]
    simp
  by_cases hdelete : deleted.value ≠ 0
  · have heq : verixTruncate env pFile nByte w =
        (.ioerrTruncate, (env.logPrintf deleted.world).saveErrno) := hrest.trans (if_pos hdelete)
    have hkept : view deleted.world.os = view ls.world.os :=
      laws.delete_ ls.world.os pFile.h f _ _ hpos hdelete
    rw [heq, World.saveErrno_os, Env.logPrintf_os, hkept, Env.sys_os, hview, ← hsize]
    exact ⟨rfl, SameBut.seek hp' _⟩
  · rw [hrest, if_neg hdelete] at hfailed
    exact absurd rfl hfailed

/-- Whatever call fails, a write has damaged nothing outside the range it has written, which is
a proper prefix of the one it was to write, and a truncation has damaged nothing. -/
theorem failure_damages_nothing (laws : FailureLaws env.os view) {pFile : VerixFile} {f : Nat}
    {w : World σ} (hopen : OpenOn (view w.os) pFile f) :
    (∀ (pBuf : List UInt8) (offset : Nat), pBuf ≠ [] → offset ≤ ((view w.os).data f).length →
      offset < 2 ^ 31 → pBuf.length ≤ env.writeFuel →
      ∃ rc w', verixWrite env pFile pBuf offset w = .ok (rc, w') ∧
        (rc ≠ .ok → PrefixWritten f (view w.os) (view w'.os) offset pBuf)) ∧
    (∀ nByte : Int, (verixTruncate env pFile nByte w).1 ≠ .ok →
      (view (verixTruncate env pFile nByte w).2.os).data f = (view w.os).data f ∧
        SameBut f (view w.os) (view (verixTruncate env pFile nByte w).2.os)) :=
  ⟨fun _ _ hne hle hlt hfuel => verixWrite_failed laws hopen hne hle hlt hfuel,
    fun nByte hfailed => verixTruncate_failed laws hopen nByte hfailed⟩

/-- A write of three bytes on a device with room for one of them, and a truncation to a negative
size. -/
theorem failure_damages_nothing_tight :
    (∃ w', verixWrite ⟨tightFlash 2, .quiet, none, 8⟩ (.on 0 (ascii "a.db")) [9, 9, 9] (1 : Nat)
        (.opened (ascii "a.db") [1, 2, 3, 4] (by decide)) = .ok (.ioerrWrite, w') ∧
      PrefixWritten 0 (World.opened (ascii "a.db") [1, 2, 3, 4] (by decide)).os.toDisk
        w'.os.toDisk 1 [9, 9, 9]) ∧
    (verixTruncate ⟨tightFlash 2, .quiet, none, 8⟩ (.on 0 (ascii "a.db")) (-1)
      (.opened (ascii "a.db") [1, 2, 3, 4] (by decide))).2.os.data 0 = [1, 2, 3, 4] := by
  have hopen : OpenOn (World.opened (ascii "a.db") [1, 2, 3, 4] (by decide)).os.toDisk
      (.on 0 (ascii "a.db")) 0 := ⟨0, World.opened_handles _ _ _⟩
  obtain ⟨hwrite, htruncate⟩ := @failure_damages_nothing _ ⟨tightFlash 2, .quiet, none, 8⟩ _
    (tightFlash_failureLaws 2) _ _ _ hopen
  obtain ⟨rc, w', hrun, hprefix⟩ :=
    hwrite [9, 9, 9] 1 (by simp) (by decide) (by decide) (by decide)
  have hrc : rc = .ioerrWrite := by
    have hfirst := congrArg (fun r => r.toOption.map Prod.fst) hrun
    exact (Option.some.inj hfirst).symm
  subst hrc
  exact ⟨⟨w', hrun, hprefix (by decide)⟩, (htruncate (-1) (by decide)).1⟩

end VxSqlite
