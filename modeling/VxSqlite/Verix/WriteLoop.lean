import VxSqlite.Flash
import VxSqlite.Lib.Drain
import VxSqlite.V359.File

/-!
# When the write loop ends

The loop of `verixWrite`, of this port and of the one of 3.5.9 alike, offers the rest of its
buffer to `write()` until all of it is taken or a call answers `-1`. A call that takes nothing
is no reason to stop, so on a device that is full and says so with `0` the loop goes on for
ever; that is the only way in which it does not end.
-/

namespace VxSqlite

open Drain

variable {σ : Type}

/-- `write()` on a handle, as the loop sees it. -/
def writeSink (env : Env σ) (h : Int) (bytes : List UInt8) (w : World σ) :
    Option Nat × World σ :=
  ((env.sys (.write h bytes) w).value, (env.sys (.write h bytes) w).world)

/-- The environment with another bound on the calls that are followed. -/
def Env.withFuel (env : Env σ) (fuel : Nat) : Env σ := { env with writeFuel := fuel }

/-- The world after the seek with which a write starts. -/
def sought (env : Env σ) (pFile : VerixFile) (offset : Int) (w : World σ) : World σ :=
  (env.sys (.lseek pFile.h (toInt offset)) w).world

/-- The seek with which a write starts fails. -/
def SeekFails (env : Env σ) (pFile : VerixFile) (offset : Int) (w : World σ) : Prop :=
  (env.sys (.lseek pFile.h (toInt offset)) w).value = -1

/-- From some `write()` on, with bytes left and no `-1` before, every call takes no byte. -/
def DeviceStalls (env : Env σ) (pFile : VerixFile) (pBuf : List UInt8) (offset : Int)
    (w : World σ) : Prop :=
  Stalls (writeSink env pFile.h) pBuf (sought env pFile offset w)

/-- What a write loop returns at the end of a `drain`. -/
def written (done failed : World σ → World σ) :
    Option (Bool × World σ) → Except Fault (ResultCode × World σ)
  | none => .error .unfinished
  | some (true, w) => .ok (.ok, done w)
  | some (false, w) => .ok (.ioerrWrite, failed w)

/-- The loop is `drain` on the sink `write()`. -/
theorem verixWriteLoop_eq_drain (env : Env σ) (h : Int) (fuel : Nat) (pBuf : List UInt8)
    (w : World σ) :
    verixWriteLoop env h fuel pBuf w =
      written env.logPrintf (fun w' => env.logPrintf w'.saveErrno)
        (drain (writeSink env h) fuel pBuf w) := by
  induction fuel generalizing pBuf w with
  | zero => cases pBuf <;> rfl
  | succ fuel ih =>
      cases pBuf with
      | nil => rfl
      | cons byte rest =>
          simp only [verixWriteLoop, drain, writeSink]
          cases (env.sys (.write h (byte :: rest)) w).value with
          | none => rfl
          | some count => exact ih _ _

/-- So is the loop of the earlier port. -/
theorem V359.verixWriteLoop_eq_drain (env : Env σ) (h : Int) (fuel : Nat) (pBuf : List UInt8)
    (w : World σ) :
    V359.verixWriteLoop env h fuel pBuf w =
      written id id (drain (writeSink env h) fuel pBuf w) := by
  induction fuel generalizing pBuf w with
  | zero => cases pBuf <;> rfl
  | succ fuel ih =>
      cases pBuf with
      | nil => rfl
      | cons byte rest =>
          simp only [V359.verixWriteLoop, drain, writeSink]
          cases (env.sys (.write h (byte :: rest)) w).value with
          | none => rfl
          | some count => exact ih _ _

/-- A write returns after finitely many `write()` calls, with `SQLITE_OK` or
`SQLITE_IOERR_WRITE`. -/
def Returns (write : Nat → Except Fault (ResultCode × World σ)) : Prop :=
  ∃ fuel rc w, write fuel = .ok (rc, w) ∧ (rc = .ok ∨ rc = .ioerrWrite)

/-- A loop that is `drain` with a result of either kind at its end returns exactly if the sink
does not stall. -/
theorem returns_iff_of_drain {sink : List UInt8 → World σ → Option Nat × World σ}
    {pBuf : List UInt8} {w : World σ} {write : Nat → Except Fault (ResultCode × World σ)}
    (done failed : World σ → World σ)
    (h : ∀ fuel, write fuel = written done failed (drain sink fuel pBuf w)) :
    Returns write ↔ ¬ Stalls sink pBuf w := by
  rw [← exists_drain_iff]
  constructor
  · intro hreturns
    obtain ⟨fuel, rc, w', hwrite, -⟩ := hreturns
    rw [h] at hwrite
    rcases hdrain : drain sink fuel pBuf w with _ | result
    · rw [hdrain] at hwrite
      cases hwrite
    · exact ⟨fuel, result, hdrain⟩
  · intro hends
    obtain ⟨fuel, ⟨all, w'⟩, hdrain⟩ := hends
    cases all
    · exact ⟨fuel, .ioerrWrite, failed w', by rw [h, hdrain]; rfl, Or.inr rfl⟩
    · exact ⟨fuel, .ok, done w', by rw [h, hdrain]; rfl, Or.inl rfl⟩

/-- `verixWrite` returns, in this port and in the one of 3.5.9, exactly if its seek fails or the
device does not stall: from no call on does `write()` answer `0` for ever while bytes are left. -/
theorem verixWrite_returns_iff (env : Env σ) (pFile : VerixFile) (pBuf : List UInt8)
    (offset : Int) (w : World σ) :
    (Returns (fun fuel => verixWrite (env.withFuel fuel) pFile pBuf offset w) ↔
        SeekFails env pFile offset w ∨ ¬ DeviceStalls env pFile pBuf offset w) ∧
      (Returns (fun fuel => V359.verixWrite (env.withFuel fuel) pFile pBuf offset w) ↔
        SeekFails env pFile offset w ∨ ¬ DeviceStalls env pFile pBuf offset w) := by
  by_cases hseek : (env.sys (.lseek pFile.h (toInt offset)) w).value = -1
  · have hfails : SeekFails env pFile offset w := hseek
    refine ⟨⟨fun _ => Or.inl hfails, fun _ => ?_⟩, ⟨fun _ => Or.inl hfails, fun _ => ?_⟩⟩
    · exact ⟨0, .ioerrWrite, _, if_pos hseek, Or.inr rfl⟩
    · exact ⟨0, .ioerrWrite, _, if_pos hseek, Or.inr rfl⟩
  · have hfails : ¬ SeekFails env pFile offset w := hseek
    rw [or_iff_right hfails]
    constructor
    · apply returns_iff_of_drain env.logPrintf fun w' => env.logPrintf w'.saveErrno
      intro fuel
      have hloop : verixWrite (env.withFuel fuel) pFile pBuf offset w =
          verixWriteLoop (env.withFuel fuel) pFile.h fuel pBuf (sought env pFile offset w) :=
        if_neg hseek
      rw [hloop]
      exact verixWriteLoop_eq_drain (env.withFuel fuel) pFile.h fuel pBuf _
    · apply returns_iff_of_drain id id
      intro fuel
      have hloop : V359.verixWrite (env.withFuel fuel) pFile pBuf offset w =
          V359.verixWriteLoop (env.withFuel fuel) pFile.h fuel pBuf (sought env pFile offset w) :=
        if_neg hseek
      rw [hloop]
      exact V359.verixWriteLoop_eq_drain (env.withFuel fuel) pFile.h fuel pBuf _

/-- On the full device a write of one byte over the only byte of a file does not return. -/
theorem verixWrite_full_device :
    ¬ Returns (fun fuel => verixWrite ⟨fullFlash, .quiet, none, fuel⟩
      (.on 0 (ascii "a.db")) [1] 0 (World.opened (ascii "a.db") [0] (by decide))) := by
  have hloop : ∀ limit fuel (w : World Flash),
      verixWriteLoop ⟨fullFlash, .quiet, none, limit⟩ 0 fuel [1] w = .error .unfinished := by
    intro limit fuel
    induction fuel with
    | zero => exact fun w => rfl
    | succ fuel ih => exact fun w => ih _
  intro hreturns
  obtain ⟨fuel, rc, w, hwrite, -⟩ := hreturns
  cases (hloop fuel fuel _).symm.trans hwrite

end VxSqlite
