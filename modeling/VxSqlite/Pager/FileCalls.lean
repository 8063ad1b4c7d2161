import VxSqlite.Lib.ByteStore
import VxSqlite.Pager.JournalWrite
import VxSqlite.Verix.Objects

/-!
# The pager's file calls as operations on bytes

What the pager's reads and writes do to the content of the file behind the handle, as long as
positions stay below `2 ^ 32`, so that the port narrows none of them to another position in the
file. `Undisturbed` and `Touches` are the frames: what a call leaves of the rest of the disk.
-/

namespace VxSqlite

variable {σ : Type} {env : Env σ} {view : σ → Disk}

/-! ## Frames -/

/-- The names and the content of the files are the same, and open handles are open on the same
files. -/
structure Undisturbed (d d' : Disk) : Prop where
  dir : d'.dir = d.dir
  data : d'.data = d.data
  openOn : ∀ pFile f, OpenOn d pFile f → OpenOn d' pFile f

/-- The same, but for the content of file `f`. -/
structure Touches (f : Nat) (d d' : Disk) : Prop where
  dir : d'.dir = d.dir
  data : ∀ g, g ≠ f → d'.data g = d.data g
  openOn : ∀ pFile f, OpenOn d pFile f → OpenOn d' pFile f

theorem Undisturbed.refl (d : Disk) : Undisturbed d d := ⟨rfl, rfl, fun _ _ h => h⟩

theorem Undisturbed.trans {d d' d'' : Disk} (h : Undisturbed d d') (h' : Undisturbed d' d'') :
    Undisturbed d d'' :=
  ⟨h'.dir.trans h.dir, h'.data.trans h.data,
    fun pFile f hopen => h'.openOn pFile f (h.openOn pFile f hopen)⟩

theorem Undisturbed.of_eq {d d' : Disk} (h : d' = d) : Undisturbed d d' := h ▸ .refl d

theorem Undisturbed.touches {d d' : Disk} (h : Undisturbed d d') (f : Nat) : Touches f d d' :=
  ⟨h.dir, fun g _ => by rw [h.data], h.openOn⟩

theorem Touches.trans {f : Nat} {d d' d'' : Disk} (h : Touches f d d') (h' : Touches f d' d'') :
    Touches f d d'' :=
  ⟨h'.dir.trans h.dir, fun g hg => (h'.data g hg).trans (h.data g hg),
    fun pFile g hopen => h'.openOn pFile g (h.openOn pFile g hopen)⟩

theorem SameBut.touches {f : Nat} {d d' : Disk} (h : SameBut f d d') : Touches f d d' :=
  ⟨h.dir, h.data, h.openOn⟩

/-- A call that touches no more than `f`, and leaves its content as it was, disturbs nothing. -/
theorem Touches.undisturbed {f : Nat} {d d' : Disk} (h : Touches f d d')
    (hdata : d'.data f = d.data f) : Undisturbed d d' := by
  refine ⟨h.dir, ?_, h.openOn⟩
  funext g
  by_cases hg : g = f
  · rw [hg, hdata]
  · exact h.data g hg

theorem Undisturbed.namedFile {d d' : Disk} (h : Undisturbed d d') {pFile : VerixFile} {f : Nat}
    (hnamed : NamedFile d pFile f) : NamedFile d' pFile f :=
  ⟨h.openOn pFile f hnamed.openOn, by rw [h.dir]; exact hnamed.named⟩

theorem Touches.namedFile {d d' : Disk} {g : Nat} (h : Touches g d d') {pFile : VerixFile}
    {f : Nat} (hnamed : NamedFile d pFile f) : NamedFile d' pFile f :=
  ⟨h.openOn pFile f hnamed.openOn, by rw [h.dir]; exact hnamed.named⟩

/-! ## Positions -/

/-- A position below `2 ^ 32` is narrowed to itself or to one outside of any file. -/
theorem toInt_position (size : Nat) {offset : Nat} (hlt : offset < 2 ^ 32) :
    (toInt (offset : Int) = offset ∧ offset ≤ size) ∨
      ((toInt (offset : Int) < 0 ∨ (size : Int) < toInt (offset : Int)) ∧
        (size < 2 ^ 31 → size < offset)) := by
  rcases narrowed_cases size offset with hout | ⟨p, hp, hle, heq | hfar⟩
  · right
    refine ⟨hout, ?_⟩
    intro hsize
    by_cases hsmall : offset < 2 ^ 31
    · rw [toInt_natCast hsmall] at hout
      omega
    · omega
  · subst heq
    exact Or.inl ⟨hp, hle⟩
  · omega

/-! ## Reading -/

/-- The four bytes of a file at a position, as a number. -/
def word (content : List UInt8) (offset : Nat) : UInt32 :=
  sqlite3Get4byte (window content offset 4)

/-- A read returns the bytes at the position, with zeros past the end of the file, and
`SQLITE_OK` exactly if none are missing. -/
theorem sqlite3OsRead_at (laws : FileLaws env.os view) {pFile : VerixFile} {f : Nat}
    {w : World σ} (hopen : OpenOn (view w.os) pFile f) {amt : Nat} (hamt : 0 < amt) {pos : Int}
    {offset : Nat} (hpos : pos = offset) (hlt : offset < 2 ^ 32) :
    ∃ w', sqlite3OsRead env pFile amt pos w =
        (if offset + amt ≤ ((view w.os).data f).length then .ok else .ioerrShortRead,
          ByteStore.padded 0 ((view w.os).data f) offset amt, w') ∧
      Undisturbed (view w.os) (view w'.os) := by
  subst hpos
  have hsize := (view w.os).size_lt f
  rcases toInt_position ((view w.os).data f).length hlt with ⟨hp, hle⟩ | ⟨hout, hfar⟩
  · obtain ⟨rc, buf, w', hread, hrc, hbuf, hdata, hsame⟩ :=
      verixRead_inside laws hopen rfl (.untouched fun _ => 0) amt offset hp hle
    refine ⟨w', ?_, hsame.touches.undisturbed hdata⟩
    rw [sqlite3OsRead, hread, hrc, hbuf]
  · obtain ⟨buf, w', hread, hbuf, hview⟩ :=
      verixRead_outside laws hopen (.untouched fun _ => 0) amt offset hout
    have hpast := hfar hsize
    refine ⟨w', ?_, .of_eq hview⟩
    have hempty : window ((view w.os).data f) offset amt = [] :=
      List.length_eq_zero_iff.mp (by rw [length_window]; omega)
    rw [sqlite3OsRead, hread, hbuf, if_neg (by omega), ByteStore.padded, hempty]
    rfl

/-- A read inside the file. -/
theorem sqlite3OsRead_within (laws : FileLaws env.os view) {pFile : VerixFile} {f : Nat}
    {w : World σ} (hopen : OpenOn (view w.os) pFile f) {amt : Nat} (hamt : 0 < amt) {pos : Int}
    {offset : Nat} (hpos : pos = offset) (hle : offset + amt ≤ ((view w.os).data f).length) :
    ∃ w', sqlite3OsRead env pFile amt pos w =
        (.ok, window ((view w.os).data f) offset amt, w') ∧
      Undisturbed (view w.os) (view w'.os) := by
  have hsize := (view w.os).size_lt f
  obtain ⟨w', hread, hsame⟩ := sqlite3OsRead_at laws hopen hamt hpos (by omega)
  rw [if_pos hle, ByteStore.padded_of_le hle] at hread
  exact ⟨w', hread, hsame⟩

theorem read32bits_within (laws : FileLaws env.os view) {pFile : VerixFile} {f : Nat}
    {w : World σ} (hopen : OpenOn (view w.os) pFile f) {pos : Int} {offset : Nat}
    (hpos : pos = offset) (hle : offset + 4 ≤ ((view w.os).data f).length) :
    ∃ w', read32bits env pFile pos w = (.ok, word ((view w.os).data f) offset, w') ∧
      Undisturbed (view w.os) (view w'.os) := by
  obtain ⟨w', hread, hsame⟩ := sqlite3OsRead_within laws hopen (Nat.succ_pos 3) hpos hle
  exact ⟨w', by rw [read32bits, hread]; rfl, hsame⟩

theorem verixFileSize_at (laws : FileLaws env.os view) {pFile : VerixFile} {f : Nat}
    {w : World σ} (hnamed : NamedFile (view w.os) pFile f) (pSize : Int) :
    ∃ w', verixFileSize env pFile pSize w = (.ok, (((view w.os).data f).length : Int), w') ∧
      Undisturbed (view w.os) (view w'.os) := by
  obtain ⟨w', hsize, hview⟩ := verixFileSize_named laws.dirGetFileSz hnamed.named pSize
  exact ⟨w', hsize, .of_eq hview⟩

/-! ## Writing -/

/-- How a write ends: the whole buffer lies in the file, or an error is returned and no more than
a proper prefix of it. -/
def WriteEnds (content : List UInt8) (offset : Nat) (pBuf : List UInt8) (rc : ResultCode)
    (content' : List UInt8) : Prop :=
  rc = .ok ∧ offset ≤ content.length ∧ content' = overlay content offset pBuf ∨
    rc = .ioerrWrite ∧ ∃ k, k < pBuf.length ∧ (offset ≤ content.length ∨ k = 0) ∧
      content' = overlay content offset (pBuf.take k)

theorem verixWrite_at (laws : FileLaws env.os view) {pFile : VerixFile} {f : Nat} {w : World σ}
    (hopen : OpenOn (view w.os) pFile f) {pBuf : List UInt8} (hne : pBuf ≠ []) {pos : Int}
    {offset : Nat} (hpos : pos = offset) (hlt : offset < 2 ^ 32)
    (hfuel : pBuf.length ≤ env.writeFuel) :
    ∃ rc w', verixWrite env pFile pBuf pos w = .ok (rc, w') ∧
      WriteEnds ((view w.os).data f) offset pBuf rc ((view w'.os).data f) ∧
      Touches f (view w.os) (view w'.os) := by
  subst hpos
  rcases toInt_position ((view w.os).data f).length hlt with ⟨hp, hle⟩ | ⟨hout, -⟩
  · obtain ⟨rc, w', taken, hwrite, -, hrc, hdata, hsame⟩ :=
      verixWrite_inside laws hopen rfl pBuf offset hp hle hfuel
    refine ⟨rc, w', hwrite, ?_, hsame.touches⟩
    rcases hrc with ⟨hrc, htaken⟩ | ⟨hrc, htaken⟩
    · rw [htaken, List.take_length] at hdata
      exact Or.inl ⟨hrc, hle, hdata⟩
    · exact Or.inr ⟨hrc, taken, htaken, Or.inl hle, hdata⟩
  · obtain ⟨w', hwrite, hview⟩ := verixWrite_outside laws hopen pBuf offset hout
    refine ⟨.ioerrWrite, w', hwrite, Or.inr ⟨rfl, 0, List.length_pos_iff.mpr hne, Or.inr rfl, ?_⟩,
      (Undisturbed.of_eq hview).touches f⟩
    rw [hview, List.take_zero, overlay_nil]

/-- The system takes a write of at most twelve bytes whole or not at all. -/
def TakesShortWrites (os : Os σ) (view : σ → Disk) : Prop :=
  ∀ s h f p bytes, (view s).handles h = some (f, p) → bytes.length ≤ 12 →
    (os.call (.write h bytes) s).value = none ∨
      (os.call (.write h bytes) s).value = some bytes.length

/-- On such a system a short write that fails has written nothing. -/
theorem verixWrite_short (laws : FileLaws env.os view) (hshort : TakesShortWrites env.os view)
    {pFile : VerixFile} {f : Nat} {w : World σ} (hopen : OpenOn (view w.os) pFile f)
    {pBuf : List UInt8} (hne : pBuf ≠ []) (hlen : pBuf.length ≤ 12) {pos : Int} {offset : Nat}
    (hpos : pos = offset) (hlt : offset < 2 ^ 32) (hfuel : pBuf.length ≤ env.writeFuel) :
    ∃ rc w', verixWrite env pFile pBuf pos w = .ok (rc, w') ∧
      (rc = .ok ∧ offset ≤ ((view w.os).data f).length ∧
          (view w'.os).data f = overlay ((view w.os).data f) offset pBuf ∨
        rc = .ioerrWrite ∧ (view w'.os).data f = (view w.os).data f) ∧
      Touches f (view w.os) (view w'.os) := by
  subst hpos
  rcases toInt_position ((view w.os).data f).length hlt with ⟨hp, hle⟩ | ⟨hout, -⟩
  · obtain ⟨q, hq⟩ := hopen
    obtain ⟨hseek, hview⟩ := laws.lseek_inside w.os pFile.h f q offset hq (by omega) (by omega)
    rw [Int.toNat_natCast] at hview
    let sought := (env.sys (.lseek pFile.h offset) w).world
    have hsought : (view sought.os).handles pFile.h = some (f, offset) := by
      rw [Env.sys_os, hview]
      simp
    have hdata : (view sought.os).data f = (view w.os).data f := by
      rw [Env.sys_os, hview, Disk.seek_data]
    have hsame : Touches f (view w.os) (view sought.os) := by
      rw [Env.sys_os, hview]
      exact (SameBut.seek hq _).touches
    have hwrite : verixWrite env pFile pBuf offset w =
        verixWriteLoop env pFile.h env.writeFuel pBuf sought := by
      have hne : ((offset : Nat) : Int) ≠ -1 := by omega
      simp only [verixWrite, hp, Env.sys_value, hseek, if_neg hne]
      rfl
    obtain ⟨byte, rest, rfl⟩ := List.exists_cons_of_ne_nil hne
    obtain ⟨fuel, hfuel⟩ := Nat.exists_eq_add_of_lt
      (show 0 < env.writeFuel from lt_of_lt_of_le (Nat.succ_pos rest.length) hfuel)
    rw [Nat.zero_add] at hfuel
    rw [hwrite, hfuel, verixWriteLoop]
    -- the one call of `write()` fails, or takes the whole buffer
    rcases laws.write sought.os pFile.h f offset (byte :: rest) hsought (by simp)
      (by rw [hdata]; exact hle) with ⟨hvalue, hview'⟩ | ⟨count, hlt', -, -, hvalue, hview'⟩
    · rw [Env.sys_value, hvalue]
      refine ⟨_, _, rfl, Or.inr ⟨rfl, ?_⟩, hsame.trans ?_⟩
      · rw [Env.logPrintf_os, World.saveErrno_os, Env.sys_os, hview', hdata]
      · exact (Undisturbed.of_eq hview').touches f
    · have hcount : count = (byte :: rest).length := by
        rcases hshort sought.os pFile.h f offset (byte :: rest) hsought hlen with hnone | hsome
        · cases hvalue.symm.trans hnone
        · exact Option.some.inj (hvalue.symm.trans hsome)
      subst hcount
      rw [Env.sys_value, hvalue]
      refine ⟨.ok, env.logPrintf (env.sys (.write pFile.h (byte :: rest)) sought).world, ?_,
        Or.inl ⟨rfl, hle, ?_⟩, hsame.trans ?_⟩
      · simp [List.drop_length, verixWriteLoop]
      · rw [Env.logPrintf_os, Env.sys_os, hview', Disk.putAt_data, Function.update_self,
          List.take_length, hdata]
      · show Touches f _ (view (env.os.call (.write pFile.h (byte :: rest)) sought.os).os)
        rw [hview']
        exact (SameBut.putAt hsought _ _).touches
  · obtain ⟨w', hwrite, hview⟩ := verixWrite_outside laws hopen pBuf offset hout
    exact ⟨.ioerrWrite, w', hwrite, Or.inr ⟨rfl, by rw [hview]⟩,
      (Undisturbed.of_eq hview).touches f⟩

/-- A truncation cuts the file off at the position, or fails and leaves it as it was. -/
theorem verixTruncate_at (laws : FileLaws env.os view) {pFile : VerixFile} {f : Nat} {w : World σ}
    (hopen : OpenOn (view w.os) pFile f) {nByte : Int} {n : Nat} (hn : nByte = n)
    (hlt : n < 2 ^ 32) :
    ∃ rc w', verixTruncate env pFile nByte w = (rc, w') ∧
      (rc = .ok ∧ n ≤ ((view w.os).data f).length ∧
          (view w'.os).data f = ((view w.os).data f).take n ∨
        rc = .ioerrTruncate ∧ (view w'.os).data f = (view w.os).data f) ∧
      Touches f (view w.os) (view w'.os) := by
  subst hn
  rcases toInt_position ((view w.os).data f).length hlt with ⟨hp, hle⟩ | ⟨hout, -⟩
  · obtain ⟨rc, w', htruncate, hrc, hsame⟩ := verixTruncate_inside laws hopen rfl n hp hle
    refine ⟨rc, w', htruncate, ?_, hsame.touches⟩
    rcases hrc with ⟨hrc, hdata⟩ | hfailed
    · exact Or.inl ⟨hrc, hle, hdata⟩
    · exact Or.inr hfailed
  · obtain ⟨w', htruncate, hview⟩ := verixTruncate_outside laws hopen n hout
    exact ⟨.ioerrTruncate, w', htruncate, Or.inr ⟨rfl, by rw [hview]⟩,
      (Undisturbed.of_eq hview).touches f⟩

end VxSqlite
