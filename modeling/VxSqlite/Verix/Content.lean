import VxSqlite.Disk
import VxSqlite.Lib.ByteStore
import VxSqlite.Verix.File

/-!
# What the I/O methods do to an open file

One result for each I/O method of the port under `FileLaws`: which result code it returns and
what it leaves of the file's content. `OpenOn` says that a file object's handle is open on a
file and `NamedFile` that its remembered name leads to the same file. Positions are natural
numbers that fit the `int` the port narrows them to.
-/

namespace VxSqlite

variable {σ : Type}

/-- The handle of the file object is open on file `f`. -/
def OpenOn (d : Disk) (pFile : VerixFile) (f : Nat) : Prop :=
  ∃ p, d.handles pFile.h = some (f, p)

/-- The handle and the remembered name of the file object denote the same file `f`. -/
structure NamedFile (d : Disk) (pFile : VerixFile) (f : Nat) : Prop where
  openOn : OpenOn d pFile f
  named : d.dir pFile.filename = some f

/-- Two disks agree on everything but the positions of handles and the content of file `f`. -/
structure SameBut (f : Nat) (d d' : Disk) : Prop where
  dir : d'.dir = d.dir
  locks : d'.locks = d.locks
  created : d'.created = d.created
  openOn : ∀ pFile g, OpenOn d pFile g → OpenOn d' pFile g
  data : ∀ g, g ≠ f → d'.data g = d.data g

theorem SameBut.refl (f : Nat) (d : Disk) : SameBut f d d :=
  ⟨rfl, rfl, rfl, fun _ _ h => h, fun _ _ => rfl⟩

theorem SameBut.trans {f : Nat} {d d' d'' : Disk} (h : SameBut f d d') (h' : SameBut f d' d'') :
    SameBut f d d'' :=
  ⟨h'.dir.trans h.dir, h'.locks.trans h.locks, h'.created.trans h.created,
    fun pFile g hopen => h'.openOn pFile g (h.openOn pFile g hopen),
    fun g hg => (h'.data g hg).trans (h.data g hg)⟩

/-- Moving a position of a handle that is open on `f` keeps the rest. -/
theorem SameBut.seek {f p q : Nat} {d : Disk} {h : Int} (hh : d.handles h = some (f, p))
    (hf : f < d.created) : SameBut f d (d.seek h f q hf) := by
  refine ⟨rfl, rfl, rfl, ?_, fun _ _ => rfl⟩
  intro pFile g hopen
  obtain ⟨r, hr⟩ := hopen
  by_cases heq : pFile.h = h
  · rw [heq, hh] at hr
    cases hr
    exact ⟨q, by simp [heq]⟩
  · exact ⟨r, by simpa [Function.update_of_ne heq] using hr⟩

/-- Replacing the content of `f` keeps the rest. -/
theorem SameBut.put {f : Nat} {d : Disk} {content : List UInt8} (hlt : content.length < 2 ^ 31) :
    SameBut f d (d.put f content hlt) :=
  ⟨rfl, rfl, rfl, fun _ _ h => h, fun g hg => by simp [Function.update_of_ne hg]⟩

theorem SameBut.putAt {f p q : Nat} {d : Disk} {h : Int} {content : List UInt8}
    (hh : d.handles h = some (f, p)) (hlt : content.length < 2 ^ 31) (hf : f < d.created) :
    SameBut f d (d.putAt h f q content hlt hf) :=
  (SameBut.put hlt).trans (SameBut.seek (d := d.put f content hlt) hh hf)

theorem NamedFile.sameBut {d d' : Disk} {pFile : VerixFile} {f g : Nat} (h : NamedFile d pFile f)
    (hsame : SameBut g d d') : NamedFile d' pFile f :=
  ⟨hsame.openOn pFile f h.openOn, by rw [hsame.dir]; exact h.named⟩

/-- A natural number below `2 ^ 31` survives the narrowing to `int`. -/
theorem toInt_natCast {n : Nat} (h : n < 2 ^ 31) : toInt (n : Int) = n :=
  narrow_of_inWord ⟨by omega, by omega⟩

/-- A narrowed position that is not outside the file is a position in it, a whole word below the
wide one unless they agree. -/
theorem narrowed_cases (size offset : Nat) :
    (toInt offset < 0 ∨ size < toInt offset) ∨
      ∃ p : Nat, toInt offset = p ∧ p ≤ size ∧ (p = offset ∨ p + 2 ^ 32 ≤ offset) := by
  by_cases hout : toInt offset < 0 ∨ (size : Int) < toInt offset
  · exact Or.inl hout
  · right
    refine ⟨(toInt offset).toNat, by omega, by omega, ?_⟩
    by_cases heq : toInt offset = offset
    · exact Or.inl (by omega)
    · have hfar : toInt offset + 2 ^ 32 ≤ offset :=
        add_le_of_narrow_ne (Int.natCast_nonneg offset) heq (by omega)
      exact Or.inr (by omega)

variable {env : Env σ} {view : σ → Disk}

/-- Where the narrowed offset lies inside the file, the seek to it succeeds and the read behind it
delivers the bytes there. -/
theorem seek_read_inside (laws : FileLaws env.os view) {pFile : VerixFile} {f : Nat}
    {w : World σ} {content : List UInt8} (hopen : OpenOn (view w.os) pFile f)
    (hcontent : (view w.os).data f = content) (count : Nat) {offset : Int} {p : Nat}
    (hp : toInt offset = p) (hle : p ≤ content.length) :
    let ls := env.sys (.lseek pFile.h (toInt offset)) w
    let reply := env.sys (.read pFile.h count) ls.world
    ls.value ≠ -1 ∧ reply.value = some (window content p count) ∧
      (view reply.world.os).data f = content ∧ SameBut f (view w.os) (view reply.world.os) := by
  intro ls reply
  obtain ⟨q, hq⟩ := hopen
  obtain ⟨hseek, hview⟩ := laws.lseek_inside w.os pFile.h f q p hq (by omega)
    (by rw [hcontent]; omega)
  rw [Int.toNat_natCast, ← hp] at hview
  have hpos : (view ls.world.os).handles pFile.h = some (f, p) := by simp [ls, hview]
  have hdata : (view ls.world.os).data f = content := by
    rw [Env.sys_os, hview, Disk.seek_data, hcontent]
  obtain ⟨hread, hview'⟩ := laws.read ls.world.os pFile.h f p (count : Int) hpos (by omega)
  rw [hdata, Int.toNat_natCast] at hread hview'
  refine ⟨?_, hread, ?_, ?_⟩
  · rw [Env.sys_value, hp, hseek]
    omega
  · rw [Env.sys_os, hview', Disk.seek_data, hdata]
  · rw [Env.sys_os, hview']
    exact SameBut.trans (hview ▸ SameBut.seek hq _) (SameBut.seek hpos _)

/-- What `verixRead` leaves when the narrowed offset lies inside the file: the bytes there,
followed by zeros past the end of the file, and `SQLITE_OK` exactly if none are missing. -/
theorem verixRead_inside (laws : FileLaws env.os view) {pFile : VerixFile} {f : Nat}
    {w : World σ} {content : List UInt8} (hopen : OpenOn (view w.os) pFile f)
    (hcontent : (view w.os).data f = content) (pBuf : Buffer UInt8) (count : Nat) (offset : Int)
    {p : Nat} (hp : toInt offset = p) (hle : p ≤ content.length) :
    ∃ rc buf w', verixRead env pFile pBuf count offset w = (rc, buf, w') ∧
      rc = (if p + count ≤ content.length then .ok else .ioerrShortRead) ∧
      buf.contents count = ByteStore.padded 0 content p count ∧
      (view w'.os).data f = content ∧ SameBut f (view w.os) (view w'.os) := by
  obtain ⟨hseek, hread, hdata, hsame⟩ := seek_read_inside laws hopen hcontent count hp hle
  have hlen := length_window content p count
  simp only [verixRead, hseek, hread, readCount, Option.getD_some, if_false]
  generalize (env.sys (.read pFile.h count)
    (env.sys (.lseek pFile.h (toInt offset)) w).world).world = got at hdata hsame
  by_cases hfull : p + count ≤ content.length
  · have hcount : (window content p count).length = count := length_window_of_le hfull
    refine ⟨.ok, pBuf.memcpy 0 (window content p count), env.logPrintf got, ?_, by simp [hfull], ?_,
      hdata, hsame⟩
    · rw [hcount, if_pos rfl]
    · rw [ByteStore.padded_of_le hfull]
      have := pBuf.contents_memcpy (window content p count)
      rwa [hcount] at this
  · have hcount : ((window content p count).length : Int) ≠ count := by omega
    refine ⟨.ioerrShortRead, (pBuf.memcpy 0 (window content p count)).memset
      (window content p count).length 0 (count - (window content p count).length),
      (env.logPrintf got).saveErrno, ?_, by simp [hfull], ?_, hdata, hsame⟩
    · rw [if_neg hcount]
    · exact pBuf.contents_memcpy_memset _ 0 (by omega)

/-- What `verixRead` leaves when the narrowed offset lies outside the file: zeros, and
`SQLITE_IOERR_SHORT_READ`. -/
theorem verixRead_outside (laws : FileLaws env.os view) {pFile : VerixFile} {f : Nat}
    {w : World σ} (hopen : OpenOn (view w.os) pFile f) (pBuf : Buffer UInt8) (count : Nat)
    (offset : Int) (hout : toInt offset < 0 ∨ ((view w.os).data f).length < toInt offset) :
    ∃ buf w', verixRead env pFile pBuf count offset w = (.ioerrShortRead, buf, w') ∧
      buf.contents count = List.replicate count 0 ∧ view w'.os = view w.os := by
  obtain ⟨p, hp⟩ := hopen
  obtain ⟨hseek, hview⟩ := laws.lseek_outside w.os pFile.h f p (toInt offset) hp hout
  refine ⟨pBuf.memset 0 0 count,
    env.logPrintf (env.sys (.lseek pFile.h (toInt offset)) w).world.saveErrno, ?_,
    pBuf.contents_memset 0 (le_refl 0) (by omega), by simpa using hview⟩
  simp only [verixRead, Env.sys_value, hseek, if_true]

/-- The write loop lays a prefix of its buffer over the content from the position of the handle
on: all of it if it returns `SQLITE_OK`, and otherwise a proper part. It returns within as many
`write()` calls as the buffer has bytes. The induction is on the number of calls left. -/
theorem verixWriteLoop_spec (hwrite : WritesInPlace env.os view) {h : Int} {f : Nat} (fuel : Nat)
    (pBuf : List UInt8) (w : World σ) (p : Nat) (hp : (view w.os).handles h = some (f, p))
    (hle : p ≤ ((view w.os).data f).length) (hfuel : pBuf.length ≤ fuel) :
    ∃ rc w' taken, verixWriteLoop env h fuel pBuf w = .ok (rc, w') ∧ taken ≤ pBuf.length ∧
      (rc = .ok ∧ taken = pBuf.length ∨ rc = .ioerrWrite ∧ taken < pBuf.length) ∧
      (view w'.os).data f = overlay ((view w.os).data f) p (pBuf.take taken) ∧
      SameBut f (view w.os) (view w'.os) := by
  induction fuel generalizing pBuf w p with
  | zero =>
      have hnil : pBuf = [] := List.length_eq_zero_iff.mp (by omega)
      subst hnil
      exact ⟨.ok, env.logPrintf w, 0, rfl, by simp, by simp, by simp,
        by simpa using SameBut.refl _ _⟩
  | succ fuel ih =>
      cases pBuf with
      | nil =>
          exact ⟨.ok, env.logPrintf w, 0, rfl, by simp, by simp, by simp,
            by simpa using SameBut.refl _ _⟩
      | cons byte rest =>
          rcases hwrite w.os h f p (byte :: rest) hp (by simp) hle with
            ⟨hvalue, hview⟩ | ⟨count, hlt, hone, hcount, hvalue, hview⟩
          · refine ⟨.ioerrWrite,
              env.logPrintf (env.sys (.write h (byte :: rest)) w).world.saveErrno, 0, ?_, by simp,
              by simp, ?_, ?_⟩
            · simp [verixWriteLoop, hvalue]
            · simp [hview]
            · simpa [hview] using SameBut.refl _ _
          · -- the system took `count` bytes: the position has moved with the buffer
            have hp' : (view (env.sys (.write h (byte :: rest)) w).world.os).handles h =
                some (f, p + count) := by
              rw [Env.sys_os, hview]
              simp
            have hdata : (view (env.sys (.write h (byte :: rest)) w).world.os).data f =
                overlay ((view w.os).data f) p ((byte :: rest).take count) := by
              rw [Env.sys_os, hview]
              simp
            have htaken : ((byte :: rest).take count).length = count := by
              rw [List.length_take]
              omega
            have hle' : p + count ≤
                ((view (env.sys (.write h (byte :: rest)) w).world.os).data f).length := by
              rw [hdata, length_overlay _ hle, htaken]
              omega
            have hsame : SameBut f (view w.os)
                (view (env.sys (.write h (byte :: rest)) w).world.os) := by
              rw [Env.sys_os, hview]
              exact SameBut.putAt hp hlt _
            obtain ⟨rc, w', taken, hloop, hle'', hrc, hdata', hsame'⟩ :=
              ih ((byte :: rest).drop count) _ (p + count) hp' hle'
                (by rw [List.length_drop]; omega)
            rw [List.length_drop] at hle'' hrc
            refine ⟨rc, w', count + taken, ?_, by omega, ?_, ?_, hsame.trans hsame'⟩
            · simp [verixWriteLoop, hvalue, hloop]
            · rcases hrc with ⟨hrc, heq⟩ | ⟨hrc, hlt'⟩
              · exact Or.inl ⟨hrc, by omega⟩
              · exact Or.inr ⟨hrc, by omega⟩
            · have happend := overlay_append ((byte :: rest).take count)
                (((byte :: rest).drop count).take taken) hle
              rw [htaken] at happend
              rw [hdata', hdata, happend, List.take_add]

/-- `verixWrite` at a position inside the file lays a prefix of the buffer over the content
there: the whole buffer if it returns `SQLITE_OK`, a proper part of it otherwise. -/
theorem verixWrite_inside (laws : FileLaws env.os view) {pFile : VerixFile} {f : Nat}
    {w : World σ} {content : List UInt8} (hopen : OpenOn (view w.os) pFile f)
    (hcontent : (view w.os).data f = content) (pBuf : List UInt8) (offset : Int) {p : Nat}
    (hp : toInt offset = p) (hle : p ≤ content.length) (hfuel : pBuf.length ≤ env.writeFuel) :
    ∃ rc w' taken, verixWrite env pFile pBuf offset w = .ok (rc, w') ∧ taken ≤ pBuf.length ∧
      (rc = .ok ∧ taken = pBuf.length ∨ rc = .ioerrWrite ∧ taken < pBuf.length) ∧
      (view w'.os).data f = overlay content p (pBuf.take taken) ∧
      SameBut f (view w.os) (view w'.os) := by
  obtain ⟨q, hq⟩ := hopen
  obtain ⟨hseek, hview⟩ := laws.lseek_inside w.os pFile.h f q p hq (by omega)
    (by rw [hcontent]; omega)
  have hne : ((p : Nat) : Int) ≠ -1 := by omega
  have hpos : (view (env.sys (.lseek pFile.h p) w).world.os).handles pFile.h = some (f, p) := by
    simp [hview]
  have hdata : (view (env.sys (.lseek pFile.h p) w).world.os).data f = content := by
    simp [hview, hcontent]
  obtain ⟨rc, w', taken, hloop, htaken, hrc, hdata', hsame⟩ :=
    verixWriteLoop_spec laws.write env.writeFuel pBuf _ p hpos (by rw [hdata]; exact hle) hfuel
  refine ⟨rc, w', taken, ?_, htaken, hrc, by rw [hdata', hdata], SameBut.trans ?_ hsame⟩
  · simp only [verixWrite, hp, Env.sys_value, hseek, if_neg hne]
    exact hloop
  · rw [Env.sys_os, hview]
    exact SameBut.seek hq _

/-- `verixWrite` at a position outside the file fails and changes nothing. -/
theorem verixWrite_outside (laws : FileLaws env.os view) {pFile : VerixFile} {f : Nat}
    {w : World σ} (hopen : OpenOn (view w.os) pFile f) (pBuf : List UInt8) (offset : Int)
    (hout : toInt offset < 0 ∨ ((view w.os).data f).length < toInt offset) :
    ∃ w', verixWrite env pFile pBuf offset w = .ok (.ioerrWrite, w') ∧ view w'.os = view w.os := by
  obtain ⟨p, hp⟩ := hopen
  obtain ⟨hseek, hview⟩ := laws.lseek_outside w.os pFile.h f p (toInt offset) hp hout
  refine ⟨(env.logPrintf (env.sys (.lseek pFile.h (toInt offset)) w).world).saveErrno, ?_, by
    simpa using hview⟩
  simp only [verixWrite, Env.sys_value, hseek, if_true]

/-- `verixTruncate` to a size inside the file keeps exactly that many bytes, or fails and
changes no content. -/
theorem verixTruncate_inside (laws : FileLaws env.os view) {pFile : VerixFile} {f : Nat}
    {w : World σ} {content : List UInt8} (hopen : OpenOn (view w.os) pFile f)
    (hcontent : (view w.os).data f = content) (nByte : Int) {n : Nat} (hn : toInt nByte = n)
    (hle : n ≤ content.length) :
    ∃ rc w', verixTruncate env pFile nByte w = (rc, w') ∧
      (rc = .ok ∧ (view w'.os).data f = content.take n ∨
        rc = .ioerrTruncate ∧ (view w'.os).data f = content) ∧
      SameBut f (view w.os) (view w'.os) := by
  obtain ⟨q, hq⟩ := hopen
  -- `s₀` is the system after the size query, `s` after the seek
  obtain ⟨hsize, hview₀⟩ := laws.getFileSize w.os pFile.h f q hq
  rw [hcontent] at hsize
  generalize hs₀ : (env.os.call (.getFileSize pFile.h) w.os).os = s₀ at hview₀
  obtain ⟨hseek, hview⟩ := laws.lseek_inside s₀ pFile.h f q n (by rw [hview₀, hq]) (by omega)
    (by rw [hview₀, hcontent]; omega)
  rw [Int.toNat_natCast] at hview
  generalize hs : (env.os.call (.lseek pFile.h n) s₀).os = s at hview
  have hpos : (view s).handles pFile.h = some (f, n) := by simp [hview]
  have hdata : (view s).data f = content := by rw [hview, Disk.seek_data, hview₀, hcontent]
  have hseek' : SameBut f (view w.os) (view s) := by
    rw [hview]
    exact SameBut.trans (hview₀ ▸ SameBut.refl f _)
      (SameBut.seek (by rw [hview₀, hq]) _)
  have hne : ((n : Nat) : Int) ≠ -1 := by omega
  have hrest : (((content.length : Int) - n)).toNat = content.length - n := by omega
  let sought := (env.sys (.lseek pFile.h n) (env.sys (.getFileSize pFile.h) w).world).world
  have hos : sought.os = s := by rw [Env.sys_os, Env.sys_os, hs₀, hs]
  have hsought : (env.sys (.lseek pFile.h n)
      (env.sys (.getFileSize pFile.h) w).world).value = n := by
    rw [Env.sys_value, Env.sys_os, hs₀, hseek]
  let deleted := env.sys (.delete_ pFile.h ((content.length : Int) - n)) sought
  rcases laws.delete_ s pFile.h f n ((content.length : Int) - n) hpos (by omega)
    (by rw [hdata]; omega) with ⟨hvalue, hview'⟩ | ⟨hlt, hvalue, hview'⟩
  · -- `delete_()` failed and left the file as it was
    have hval : deleted.value ≠ 0 := by rw [Env.sys_value, hos]; exact hvalue
    refine ⟨.ioerrTruncate, (env.logPrintf deleted.world).saveErrno, ?_, Or.inr ⟨rfl, ?_⟩, ?_⟩
    · simp only [verixTruncate, hn, Env.sys_value _ (.getFileSize _), hsize, ne_eq,
        not_true_eq_false, if_false, hsought, if_neg hne]
      exact if_pos hval
    · rw [World.saveErrno_os, Env.logPrintf_os, Env.sys_os, hos, hview', hdata]
    · rwa [World.saveErrno_os, Env.logPrintf_os, Env.sys_os, hos, hview']
  · have hval : ¬ deleted.value ≠ 0 := by rw [Env.sys_value, hos, hvalue]; simp
    refine ⟨.ok, env.logPrintf deleted.world, ?_, Or.inl ⟨rfl, ?_⟩, ?_⟩
    · simp only [verixTruncate, hn, Env.sys_value _ (.getFileSize _), hsize, ne_eq,
        not_true_eq_false, if_false, hsought, if_neg hne]
      exact if_neg hval
    · rw [Env.logPrintf_os, Env.sys_os, hos, hview', Disk.put_data, Function.update_self, hdata,
        hrest, cut_to_end]
    · rw [Env.logPrintf_os, Env.sys_os, hos, hview']
      exact hseek'.trans (SameBut.put _)

/-- `verixTruncate` to a size outside the file fails and changes nothing. -/
theorem verixTruncate_outside (laws : FileLaws env.os view) {pFile : VerixFile} {f : Nat}
    {w : World σ} (hopen : OpenOn (view w.os) pFile f) (nByte : Int)
    (hout : toInt nByte < 0 ∨ ((view w.os).data f).length < toInt nByte) :
    ∃ w', verixTruncate env pFile nByte w = (.ioerrTruncate, w') ∧ view w'.os = view w.os := by
  obtain ⟨q, hq⟩ := hopen
  obtain ⟨hsize, hview₀⟩ := laws.getFileSize w.os pFile.h f q hq
  obtain ⟨hseek, hview⟩ := laws.lseek_outside (env.os.call (.getFileSize pFile.h) w.os).os pFile.h f
    q (toInt nByte) (by rw [hview₀, hq]) (by rw [hview₀]; exact hout)
  refine ⟨(env.logPrintf (env.sys (.lseek pFile.h (toInt nByte))
    (env.sys (.getFileSize pFile.h) w).world).world).saveErrno, ?_, by simp [hview, hview₀]⟩
  simp only [verixTruncate, Env.sys_value, hsize, Env.sys_os, hseek, ne_eq, not_true_eq_false,
    if_false, if_true]

/-- The size query on a name answers the size of the file it leads to. -/
theorem sys_dirGetFileSz_named (sizes : ReportsSizes env.os view) {name : CString} {f : Nat}
    {w : World σ} (hnamed : (view w.os).dir name = some f) :
    (env.sys (.dirGetFileSz name) w).value = ((view w.os).data f).length ∧
      (env.sys (.dirGetFileSz name) w).value ≠ -1 ∧
      view (env.sys (.dirGetFileSz name) w).world.os = view w.os := by
  obtain ⟨hsize, hview⟩ := sizes w.os name f hnamed
  refine ⟨hsize, ?_, hview⟩
  rw [Env.sys_value, hsize]
  omega

/-- `verixFileSize` reports the size of the file that the remembered name leads to. -/
theorem verixFileSize_named (sizes : ReportsSizes env.os view) {pFile : VerixFile} {f : Nat}
    {w : World σ} (hnamed : (view w.os).dir pFile.filename = some f) (pSize : Int) :
    ∃ w', verixFileSize env pFile pSize w = (.ok, (((view w.os).data f).length : Int), w') ∧
      view w'.os = view w.os := by
  obtain ⟨hsize, hne, hview⟩ := sys_dirGetFileSz_named sizes hnamed
  refine ⟨env.logPrintf (env.sys (.dirGetFileSz pFile.filename) w).world, ?_, hview⟩
  rw [verixFileSize, if_neg hne, hsize]

end VxSqlite
