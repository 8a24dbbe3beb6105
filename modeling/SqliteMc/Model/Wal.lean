import SqliteMc.Model.Log

/-!
# The write-ahead log

The frames of the write-ahead log. A page is encrypted on its way into the log, before the checksum of
its frame is made; in the legacy format the file layer encrypts it, after that.

* `appends_writeFrame`: the frames stand in the log, whatever else is written.
* `readFrame_spec`: a frame is read back.
* `recoverFrame_spec`: what a recovery looks at.
-/

namespace SqliteMc

namespace Native

open Buffer ChaCha20

/-- A frame of the log: its page, and what `walEncodeFrame` writes after the page number into the
header, of which the checksums depend on the page as it is written. -/
structure WalFrame where
  pgno : Nat
  data : Bytes
  rest : Bytes → Bytes
  length_rest : ∀ pData, (rest pData).length = 20

namespace WalFrame

/-- `walEncodeFrame`. -/
def header (f : WalFrame) (pData : Bytes) : Bytes :=
  store32BE (BitVec.ofNat 32 f.pgno) ++ f.rest pData

/-- `walWriteOneFrame` at this offset, in one piece. -/
def writeFrame (d : Digests) (v : Vfs) (offset : Nat) (f : WalFrame) : Vfs :=
  let pData := Vfs.pagerCodec d v f.data f.pgno
  let v := Vfs.mcIoWrite d pData.2 .wal (f.header pData.1) offset
  Vfs.mcIoWrite d v .wal pData.1 (offset + 24)

/-- `sqlite3WalReadFrame` of the frame at this offset. -/
def readFrame (d : Digests) (ps : Nat) (v : Vfs) (offset : Nat) : Rc × Bytes × Vfs :=
  Vfs.mcIoRead d v .wal ps (offset + 24)

/-- The frame as `walIndexRecover` reads it, to verify its checksum. -/
def recoverFrame (d : Digests) (ps : Nat) (v : Vfs) (offset : Nat) : Rc × Bytes × Vfs :=
  Vfs.mcIoRead d v .wal (ps + 24) offset

variable {d : Digests} {v : Vfs} {c : Codec} {f : WalFrame} {offset : Nat}

/-- A page that can be written to the log. -/
structure Fits (c : Codec) (f : WalFrame) : Prop where
  length : f.data.length = c.pageSize
  pos : 0 < f.pgno
  lt : f.pgno < 2 ^ 32
  first : PageCipher.StartsDatabase f.pgno f.data

/-- The frame as it stands in the log. Outside the legacy format its header was made for the bytes that
stand there. -/
structure FrameAt (d : Digests) (c : Codec) (file : Bytes) (offset : Nat) (f : WalFrame) : Prop where
  le : offset + (c.pageSize + 24) ≤ file.length
  pgno : slice file offset 4 = store32BE (BitVec.ofNat 32 f.pgno)
  page : Sealed d (c.key false) c.reserved f.pgno f.data (slice file (offset + 24) c.pageSize)
  header : c.walLegacy = 0 →
    slice file offset 24 = f.header (slice file (offset + 24) c.pageSize)

theorem length_header (f : WalFrame) (pData : Bytes) : (f.header pData).length = 24 := by
  rw [header, List.length_append, length_store32BE, f.length_rest]

/-- A frame stays where it is when something is written behind it. -/
theorem FrameAt.write_after {file data : Bytes} {o : Nat} (h : FrameAt d c file o f)
    (ho : o + (c.pageSize + 24) ≤ offset) : FrameAt d c (FileImage.write file data offset) o f := by
  have hle := h.le
  refine ⟨?_, ?_, ?_, fun hlegacy => ?_⟩
  · rw [FileImage.length_write]
    omega
  · rw [FileImage.slice_write_of_disjoint (by omega) (by omega), h.pgno]
  · rw [FileImage.slice_write_of_disjoint (by omega) (by omega)]
    exact h.page
  · rw [FileImage.slice_write_of_disjoint (by omega) (by omega),
      FileImage.slice_write_of_disjoint (by omega) (by omega), h.header hlegacy]

-- ---------------------------------------------------------------------------
-- Writing
-- ---------------------------------------------------------------------------

/-- A header and a page that were written one after the other. -/
theorem frameAt_of_write {file bytes pData : Bytes} (hf : Fits c f)
    (hpage : Sealed d (c.key false) c.reserved f.pgno f.data bytes)
    (hlegacy : c.walLegacy = 0 → pData = bytes) :
    FrameAt d c (FileImage.write file (f.header pData ++ bytes) offset) offset f := by
  have hlen : (f.header pData ++ bytes).length = c.pageSize + 24 := by
    rw [List.length_append, length_header, hpage.length, hf.length, Nat.add_comm]
  -- frame header and page are one write, and read back as such
  have hself := FileImage.slice_write_self file (f.header pData ++ bytes) offset
  rw [hlen] at hself
  have hpart {o n : Nat} (hon : o + n ≤ c.pageSize + 24) :
      slice (FileImage.write file (f.header pData ++ bytes) offset) (offset + o) n =
        slice (f.header pData ++ bytes) o n := by
    rw [← slice_slice hon, hself]
  have hheader : slice (FileImage.write file (f.header pData ++ bytes) offset) (offset + 0) 24 =
      f.header pData := by
    rw [hpart (by omega), slice_append_left (by rw [length_header]), slice_zero_eq_take,
      List.take_of_length_le (by rw [length_header])]
  have hbody : slice (FileImage.write file (f.header pData ++ bytes) offset) (offset + 24)
      c.pageSize = bytes := by
    have hright := slice_append_right (f.header pData) bytes 0 c.pageSize
    rw [length_header, Nat.add_zero, slice_zero_eq_take,
      List.take_of_length_le (by rw [hpage.length, hf.length])] at hright
    rw [hpart (by omega), hright]
  have hnumber : slice (FileImage.write file (f.header pData ++ bytes) offset) (offset + 0) 4 =
      store32BE (BitVec.ofNat 32 f.pgno) := by
    rw [hpart (by omega), slice_append_left (by rw [length_header]; omega), header,
      slice_append_left (by rw [length_store32BE]), slice_zero_eq_take,
      List.take_of_length_le (by rw [length_store32BE])]
  rw [Nat.add_zero] at hheader hnumber
  refine ⟨?_, hnumber, ?_, fun hzero => ?_⟩
  · rw [FileImage.length_write, hlen]
    exact Nat.le_max_right _ _
  · rw [hbody]
    exact hpage
  · rw [hheader, hbody, hlegacy hzero]

/-- What `sqlite3mcPagerCodec` makes of a page, and what it leaves alone. -/
theorem pagerCodec_spec (hc : c.AtRest) (hsettled : c.Settled) (h : Vfs.Logs c .wal v)
    (hf : Fits c f) :
    let pData := Vfs.pagerCodec d v f.data f.pgno
    Vfs.Logs c .wal pData.2 ∧ pData.2.files = v.files ∧ pData.1.length = c.pageSize ∧
      (c.walLegacy = 0 → Sealed d (c.key false) c.reserved f.pgno f.data pData.1) ∧
      (c.walLegacy ≠ 0 → pData.1 = f.data) := by
  obtain ⟨c', hcodec, hs⟩ := h.uses.exists_codec
  obtain ⟨hps, hres, henc, hwal⟩ := Codec.fields_congr hs
  have hactive : v.active .mainDb = some c' :=
    Vfs.active_of_codec hcodec (henc.trans hc.isEncrypted) (Or.inl rfl)
  have hkept := Vfs.settings_apply d v (.pagerCodec f.data f.pgno)
  intro pData
  -- without the legacy format the pager encrypts the page; with it the page comes as it is
  by_cases hlegacy : c.walLegacy = 0
  · have hstore : pData = ((c'.store d f.data f.pgno true v.rng).1,
        { v with codec := some (c'.store d f.data f.pgno true v.rng).2.1
                 rng := (c'.store d f.data f.pgno true v.rng).2.2 }) := by
      show Vfs.pagerCodec d v f.data f.pgno = _
      rw [Vfs.pagerCodec, hactive]
      exact if_pos (hwal.trans hlegacy)
    obtain ⟨hsealed, -, -⟩ : Sealed d (c'.key true) c'.reserved f.pgno f.data
        (c'.store d f.data f.pgno true v.rng).1 ∧ _ :=
      Codec.sealed_store (hc.toConsistent.congr hs.symm) v.rng (hf.length.trans hps.symm) hf.first
    rw [Codec.key_congr hs, hres, hsettled] at hsealed
    refine ⟨⟨h.uses.congr hkept, ?_⟩, ?_, ?_, fun _ => ?_, fun hne => absurd hlegacy hne⟩
    · rw [hstore]
      exact h.pMainDb
    · rw [hstore]
    · rw [hstore]
      exact hsealed.length.trans hf.length
    · rw [hstore]
      exact hsealed
  · have hsame : pData = (f.data, v) := by
      show Vfs.pagerCodec d v f.data f.pgno = _
      rw [Vfs.pagerCodec, hactive]
      exact if_neg fun hzero => hlegacy (hwal.symm.trans hzero)
    rw [hsame]
    exact ⟨h, rfl, hf.length, fun hzero => absurd hzero hlegacy, fun _ => rfl⟩

/-- The header of a frame is written as it is, and so is a page outside the legacy format. -/
theorem writeWal_raw (hc : c.AtRest) (h : Vfs.Logs c .wal v) {data : Bytes}
    (hraw : c.walLegacy = 0 ∨ data.length = 24) :
    Vfs.mcIoWrite d v .wal data offset = v.writeReal .wal data offset := by
  obtain ⟨c', hactive, hs⟩ := h.exists_active hc.isEncrypted
  obtain ⟨hps, -, -, hwal⟩ := Codec.fields_congr hs
  have hge := hc.pageSize_ge
  show Vfs.writeWal d v data offset = _
  rw [Vfs.writeWal, hactive]
  dsimp only
  rw [hps, hwal]
  -- in the legacy format a header is told from a page by its length
  by_cases hlegacy : c.walLegacy = 0
  · rw [if_pos hlegacy]
  · have hlen : data.length = 24 := hraw.resolve_left hlegacy
    rw [if_neg hlegacy, hlen, if_neg (by omega : ¬ 24 = c.pageSize),
      if_neg (by omega : ¬ 24 = c.pageSize + 24)]

/-- A write to the log leaves it a log of its database. -/
theorem logs_write (h : Vfs.Logs c .wal v) (data : Bytes) (offset : Nat) :
    Vfs.Logs c .wal (Vfs.mcIoWrite d v .wal data offset) := by
  have hframe := Vfs.frame_write d v .wal data offset
  refine ⟨h.uses.congr hframe.settings, ?_⟩
  obtain ⟨file, hfile⟩ : ∃ file, (Vfs.mcIoWrite d v .wal data offset).files .wal =
      { v.files .wal with file := file } := by
    show ∃ file, (Vfs.writeWal d v data offset).files .wal = _
    unfold Vfs.writeWal
    split
    · exact ⟨_, Vfs.setFile_self _⟩
    · dsimp only
      split_ifs <;> exact ⟨_, Vfs.setFile_self _⟩
  rw [hfile]
  exact h.pMainDb

/-- In the legacy format a page is encrypted under the number that stands before it. -/
theorem writeWal_legacy (hc : c.AtRest) (h : Vfs.Logs c .wal v) (hf : Fits c f)
    (hlegacy : c.walLegacy ≠ 0) (hle : offset + 4 ≤ (v.files .wal).file.length)
    (hno : slice (v.files .wal).file offset 4 = store32BE (BitVec.ofNat 32 f.pgno)) :
    ∃ bytes, Sealed d (c.key false) c.reserved f.pgno f.data bytes ∧
      ((Vfs.mcIoWrite d v .wal f.data (offset + 24)).files .wal).file =
        FileImage.write (v.files .wal).file bytes (offset + 24) := by
  obtain ⟨c', hactive, hs⟩ := h.exists_active hc.isEncrypted
  obtain ⟨hps, hres, -, hwal⟩ := Codec.fields_congr hs
  have hpos := hf.pos
  have hlen : f.data.length = c'.pageSize := hf.length.trans hps.symm
  -- the number is read back from the header, which was written just before
  have hwrite : Vfs.mcIoWrite d v .wal f.data (offset + 24) =
      v.writePage d c' .wal f.data f.pgno (offset + 24) false := by
    show Vfs.writeWal d v f.data (offset + 24) = _
    rw [Vfs.writeWal, hactive]
    dsimp only
    rw [if_neg (by omega), if_pos hlen, Nat.add_sub_cancel, Vfs.xRead_of_le hle, hno]
    dsimp only
    rw [if_pos rfl, get4byte_pgno hf.lt, if_pos (by omega)]
  obtain ⟨hsealed, -, -⟩ : Sealed d (c'.key false) c'.reserved f.pgno f.data
      (c'.store d f.data f.pgno false v.rng).1 ∧ _ :=
    Codec.sealed_store (hc.toConsistent.congr hs.symm) v.rng hlen hf.first
  rw [Codec.key_congr hs, hres] at hsealed
  refine ⟨_, hsealed, ?_⟩
  rw [hwrite, Vfs.writePage, Vfs.writeReal, Vfs.setFile_self]
  rfl

/-- A frame stands where it was written. -/
theorem writeFrame_spec (hc : c.AtRest) (hsettled : c.Settled) (h : Vfs.Logs c .wal v)
    (hf : Fits c f) (offset : Nat) :
    Vfs.Logs c .wal (writeFrame d v offset f) ∧
      FrameAt d c ((writeFrame d v offset f).files .wal).file offset f ∧
      (∃ bytes, ((writeFrame d v offset f).files .wal).file =
        FileImage.write (v.files .wal).file bytes offset) ∧
      (writeFrame d v offset f).files .mainDb = v.files .mainDb := by
  obtain ⟨hlogs1, hfiles1, hlen, hnew, hold⟩ := pagerCodec_spec (d := d) hc hsettled h hf
  have hframe : writeFrame d v offset f = Vfs.mcIoWrite d
      (Vfs.mcIoWrite d (Vfs.pagerCodec d v f.data f.pgno).2 .wal
        (f.header (Vfs.pagerCodec d v f.data f.pgno).1) offset) .wal
      (Vfs.pagerCodec d v f.data f.pgno).1 (offset + 24) := rfl
  rw [hframe]
  generalize Vfs.pagerCodec d v f.data f.pgno = pData at *
  -- the header, then the page
  have hlogs2 := logs_write (d := d) hlogs1 (f.header pData.1) offset
  have hlogs3 := logs_write (d := d) hlogs2 pData.1 (offset + 24)
  have hheader : ((Vfs.mcIoWrite d pData.2 .wal (f.header pData.1) offset).files .wal).file =
      FileImage.write (v.files .wal).file (f.header pData.1) offset := by
    rw [writeWal_raw hc hlogs1 (Or.inr (f.length_header _)), Vfs.writeReal, Vfs.setFile_self, hfiles1]
    rfl
  have hdb : (Vfs.mcIoWrite d (Vfs.mcIoWrite d pData.2 .wal (f.header pData.1) offset) .wal pData.1
      (offset + 24)).files .mainDb = v.files .mainDb := by
    rw [(Vfs.frame_write d _ .wal pData.1 (offset + 24)).files .mainDb (by decide),
      (Vfs.frame_write d pData.2 .wal (f.header pData.1) offset).files .mainDb (by decide), hfiles1]
  obtain ⟨bytes, hsealed, hraw, hbody⟩ : ∃ bytes,
      Sealed d (c.key false) c.reserved f.pgno f.data bytes ∧ (c.walLegacy = 0 → pData.1 = bytes) ∧
      ((Vfs.mcIoWrite d (Vfs.mcIoWrite d pData.2 .wal (f.header pData.1) offset) .wal pData.1
        (offset + 24)).files .wal).file = FileImage.write
          (FileImage.write (v.files .wal).file (f.header pData.1) offset) bytes (offset + 24) := by
    by_cases hlegacy : c.walLegacy = 0
    · refine ⟨pData.1, hnew hlegacy, fun _ => rfl, ?_⟩
      rw [writeWal_raw hc hlogs2 (Or.inl hlegacy), Vfs.writeReal, Vfs.setFile_self, hheader]
      rfl
    · have hle : offset + 4 ≤ ((Vfs.mcIoWrite d pData.2 .wal (f.header pData.1) offset).files
          .wal).file.length := by
        rw [hheader, FileImage.length_write, length_header]
        omega
      have hno : slice ((Vfs.mcIoWrite d pData.2 .wal (f.header pData.1) offset).files .wal).file
          offset 4 = store32BE (BitVec.ofNat 32 f.pgno) := by
        have hself := FileImage.slice_write_self (v.files .wal).file (f.header pData.1) offset
        have hfirst : slice (slice (FileImage.write (v.files .wal).file (f.header pData.1) offset)
            offset (f.header pData.1).length) 0 4 = _ := slice_slice (by rw [length_header]; omega)
        rw [Nat.add_zero, hself] at hfirst
        rw [hheader, ← hfirst, header, slice_append_left (by rw [length_store32BE]),
          slice_zero_eq_take, List.take_of_length_le (by rw [length_store32BE])]
      obtain ⟨bytes, hsealed, hfile⟩ := writeWal_legacy (d := d) hc hlogs2 hf hlegacy hle hno
      rw [hheader] at hfile
      refine ⟨bytes, hsealed, fun hzero => absurd hzero hlegacy, ?_⟩
      rw [← hfile, hold hlegacy]
  have hall : ((Vfs.mcIoWrite d (Vfs.mcIoWrite d pData.2 .wal (f.header pData.1) offset) .wal pData.1
      (offset + 24)).files .wal).file =
      FileImage.write (v.files .wal).file (f.header pData.1 ++ bytes) offset := by
    rw [hbody, FileImage.write_append, length_header]
  refine ⟨hlogs3, ?_, ⟨_, hall⟩, hdb⟩
  rw [hall]
  exact frameAt_of_write hf hsealed hraw

/-- The write-ahead log is a log of frames. -/
theorem appends_writeFrame (d : Digests) (hc : c.AtRest) (hsettled : c.Settled) :
    Vfs.Appends c .wal (c.pageSize + 24) (FrameAt d c) (Fits c) (writeFrame d) where
  stands offset h hf := (writeFrame_spec hc hsettled h hf offset).2.1
  logs offset h hf := (writeFrame_spec hc hsettled h hf offset).1
  writes offset h hf := (writeFrame_spec hc hsettled h hf offset).2.2.1
  mainDb offset h hf := (writeFrame_spec hc hsettled h hf offset).2.2.2
  keeps h ho := h.write_after ho

-- ---------------------------------------------------------------------------
-- Reading
-- ---------------------------------------------------------------------------

/-- A frame is decrypted under the page number in its header. -/
theorem readFrame_spec (hc : c.AtRest) (h : Vfs.Logs c .wal v) (hf : Fits c f)
    (hat : FrameAt d c (v.files .wal).file offset f) :
    Restores (c.pageSize - c.reserved) f.data
      ((readFrame d c.pageSize v offset).1, (readFrame d c.pageSize v offset).2.1) := by
  obtain ⟨c', hactive, hs⟩ := h.exists_active hc.isEncrypted
  obtain ⟨hps, hres, -, -⟩ := Codec.fields_congr hs
  have hle := hat.le
  have hpos := hf.pos
  have hsealed := hat.page
  rw [← Codec.key_congr hs, ← hres] at hsealed
  obtain ⟨hload, -⟩ := Codec.load_of_sealed (hc.toConsistent.congr hs.symm) hsealed
  rw [hf.length, hres] at hload
  -- the number is read back from the header, and the page is opened under it
  unfold readFrame Vfs.mcIoRead
  rw [Vfs.xRead_of_le (by omega)]
  dsimp only
  rw [if_neg (by decide), Vfs.readWal, hactive]
  dsimp only
  rw [if_pos hps.symm, Nat.add_sub_cancel, Vfs.xRead_of_le (by omega), hat.pgno]
  dsimp only
  rw [if_pos rfl, get4byte_pgno hf.lt, if_pos (by omega)]
  exact hload

/-- A recovery reads a frame as it stands in the log. -/
theorem recoverFrame_spec (hc : c.AtRest) (h : Vfs.Logs c .wal v) (hlegacy : c.walLegacy = 0)
    (hle : offset + (c.pageSize + 24) ≤ (v.files .wal).file.length) :
    recoverFrame d c.pageSize v offset =
      (.ok, slice (v.files .wal).file offset (c.pageSize + 24), v) := by
  obtain ⟨c', hactive, hs⟩ := h.exists_active hc.isEncrypted
  obtain ⟨hps, -, -, hwal⟩ := Codec.fields_congr hs
  unfold recoverFrame Vfs.mcIoRead
  rw [Vfs.xRead_of_le hle]
  dsimp only
  rw [if_neg (by decide), Vfs.readWal, hactive]
  dsimp only
  rw [if_neg (by omega), if_neg fun hcase => hcase.1 (hwal.trans hlegacy)]

end WalFrame

end Native

end SqliteMc
