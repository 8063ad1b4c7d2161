import VxSqlite.Flash
import VxSqlite.Verix.Content

/-!
# Writes past the end of a file

SQLite grows a file by writing behind its end and takes the gap to be filled with zeros.
`verixWrite` seeks first, as `verixRead` does, but where the read takes a failed seek for the end
of the file, the write gives up, so no write with a gap before it ever grows a file.
-/

namespace VxSqlite

variable {σ : Type} {env : Env σ} {view : σ → Disk}

/-- The content of a file that a write behind its end has grown: the old content, zeros up to
`offset`, and the buffer. -/
def grown (content : List UInt8) (offset : Nat) (pBuf : List UInt8) : List UInt8 :=
  content ++ List.replicate (offset - content.length) 0 ++ pBuf

/-- `verixWrite` at `offset` returns `SQLITE_OK` and grows file `f`. -/
def WriteGrows (env : Env σ) (view : σ → Disk) (pFile : VerixFile) (f : Nat) (pBuf : List UInt8)
    (offset : Nat) (w : World σ) : Prop :=
  ∃ w', verixWrite env pFile pBuf offset w = .ok (.ok, w') ∧
    (view w'.os).data f = grown ((view w.os).data f) offset pBuf

/-- A write with a gap before it never grows the file: it fails, and the file stays as it was. -/
theorem verixWrite_never_grows (laws : FileLaws env.os view) {pFile : VerixFile} {f : Nat}
    {w : World σ} (hopen : OpenOn (view w.os) pFile f) (pBuf : List UInt8) {offset : Nat}
    (hgap : ((view w.os).data f).length < offset) (hlt : offset + pBuf.length < 2 ^ 31) :
    ¬ WriteGrows env view pFile f pBuf offset w ∧
      ∃ w', verixWrite env pFile pBuf offset w = .ok (.ioerrWrite, w') ∧
        view w'.os = view w.os := by
  have hout : (((view w.os).data f).length : Int) < toInt offset := by
    rw [toInt_natCast (by omega)]
    exact_mod_cast hgap
  obtain ⟨w', hwrite, hview⟩ := verixWrite_outside laws hopen pBuf offset (Or.inr hout)
  refine ⟨?_, w', hwrite, hview⟩
  intro hgrows
  obtain ⟨w'', hok, -⟩ := hgrows
  cases hwrite.symm.trans hok

/-- One byte behind a gap of one byte. -/
theorem verixWrite_never_grows_gap :
    ¬ WriteGrows quietFlash Flash.toDisk (.on 0 (ascii "a.db")) 0 [9] 3
        (.opened (ascii "a.db") [1, 2] (by decide)) ∧
      ∃ w', verixWrite quietFlash (.on 0 (ascii "a.db")) [9] (3 : Nat)
          (.opened (ascii "a.db") [1, 2] (by decide)) = .ok (.ioerrWrite, w') ∧
        w'.os.toDisk = (World.opened (ascii "a.db") [1, 2] (by decide)).os.toDisk :=
  @verixWrite_never_grows _ quietFlash _ flash_fileLaws (.on 0 (ascii "a.db")) 0
    (.opened (ascii "a.db") [1, 2] (by decide)) ⟨0, World.opened_handles _ _ _⟩ [9] 3 (by decide)
    (by decide)

/-- With a gap of one byte before the buffer, the write fails where the read of the same
position finds the end of the file. -/
theorem gap_refused :
    (∃ w', verixWrite quietFlash (.on 0 (ascii "a.db")) [9] 3
        (.opened (ascii "a.db") [1, 2] (by decide)) = .ok (.ioerrWrite, w') ∧
      w'.os.data 0 = [1, 2]) ∧
    (verixRead quietFlash (.on 0 (ascii "a.db")) (.untouched fun _ => 7) 1 3
      (.opened (ascii "a.db") [1, 2] (by decide))).1 = .ioerrShortRead ∧
    ¬ ∀ (content pBuf : List UInt8) (hlt : content.length < 2 ^ 31) (offset : Nat), pBuf ≠ [] →
      content.length < offset → offset + pBuf.length < 2 ^ 31 →
      WriteGrows quietFlash Flash.toDisk (.on 0 (ascii "a.db")) 0 pBuf offset
        (.opened (ascii "a.db") content hlt) := by
  refine ⟨⟨_, rfl, rfl⟩, rfl, ?_⟩
  intro h
  obtain ⟨w', hok, -⟩ := h [1, 2] [9] (by decide) 3 (by simp) (by decide) (by decide)
  cases hok

end VxSqlite
