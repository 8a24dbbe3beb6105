import SqliteMc.Model.Log

/-!
# The rollback journal

The records that the pager writes to the rollback journal before it changes the pages of a
database, and their playback, both through the file layer of the encryption extension.

* `appends_addRecord`: the records stand in the journal, whatever else is written.
* `playbackOnePage_spec`: a record that is played back puts its page into the database.
* `playback_spec`: all records, one after the other.
-/

namespace SqliteMc

namespace Native

open Buffer ChaCha20

/-- What the pager knows of the database and its journal during a playback. -/
structure Pager where
  pageSize : Nat
  dbSize : Nat
  cksumInit : BitVec 32
  journalHdr : Nat
  noSync : Bool
  lckPgno : Nat

/-- The page that a record of the journal is about, and its content. -/
structure Record where
  pgno : Nat
  data : Bytes

/-- What `pager_playback_one_page` returns: `SQLITE_DONE`, or another result code. -/
inductive Played where
  | done
  | rc (rc : Rc)
  deriving DecidableEq

namespace Pager

/-- The loop of `pager_cksum`: every 200th byte, from the byte at `i` down. -/
def cksumLoop (data : Bytes) : Nat → BitVec 32 → Nat → BitVec 32
  | 0, cksum, _ => cksum
  | fuel + 1, cksum, i =>
    if i = 0 then cksum else cksumLoop data fuel (cksum + (byte data i).setWidth 32) (i - 200)

/-- `pager_cksum`. -/
def cksum (p : Pager) (data : Bytes) : BitVec 32 :=
  cksumLoop data p.pageSize p.cksumInit (p.pageSize - 200)

/-- `write32bits` on the journal. -/
def write32bits (d : Digests) (v : Vfs) (offset : Nat) (val : BitVec 32) : Vfs :=
  Vfs.mcIoWrite d v .mainJournal (store32BE val) offset

/-- `pagerAddPageToRollbackJournal` at this offset. -/
def addRecord (d : Digests) (p : Pager) (v : Vfs) (offset : Nat) (r : Record) : Vfs :=
  let v := write32bits d v offset (BitVec.ofNat 32 r.pgno)
  let v := Vfs.mcIoWrite d v .mainJournal r.data (offset + 4)
  write32bits d v (offset + 4 + p.pageSize) (p.cksum r.data)

/-- The writes that `pagerAddPageToRollbackJournal` makes, each with its place. -/
def recordWrites (p : Pager) (offset : Nat) (r : Record) : List (Bytes × Nat) :=
  [(store32BE (BitVec.ofNat 32 r.pgno), offset), (r.data, offset + 4),
    (store32BE (p.cksum r.data), offset + 4 + p.pageSize)]

/-- `pagerAddPageToRollbackJournal` when the process ends after `n` of its writes. -/
def addRecordPart (d : Digests) (p : Pager) (n : Nat) (v : Vfs) (offset : Nat) (r : Record) : Vfs :=
  ((p.recordWrites offset r).take n).foldl
    (fun v write => Vfs.mcIoWrite d v .mainJournal write.1 write.2) v

/-- `pager_playback_one_page` for a record of the rollback journal, when the page is in no cache and
the database may be written. -/
def playbackOnePage (d : Digests) (p : Pager) (v : Vfs) (offset : Nat) : Played × Vfs :=
  let number := Vfs.mcIoRead d v .mainJournal 4 offset
  if number.1 ≠ .ok then (.rc number.1, number.2.2)
  else
    let page := Vfs.mcIoRead d number.2.2 .mainJournal p.pageSize (offset + 4)
    if page.1 ≠ .ok then (.rc page.1, page.2.2)
    else
      let pgno := get4byte number.2.1
      if pgno = 0 ∨ pgno = p.lckPgno then (.done, page.2.2)
      else if p.dbSize < pgno then (.rc .ok, page.2.2)
      else
        let sum := Vfs.mcIoRead d page.2.2 .mainJournal 4 (offset + 4 + p.pageSize)
        if sum.1 ≠ .ok then (.rc sum.1, sum.2.2)
        else if (p.cksum page.2.1).toNat ≠ get4byte sum.2.1 then (.done, sum.2.2)
        else if p.noSync ∨ offset + (p.pageSize + 8) ≤ p.journalHdr then
          (.rc .ok, Vfs.mcIoWrite d sum.2.2 .mainDb page.2.1 ((pgno - 1) * p.pageSize))
        else (.rc .ok, sum.2.2)

/-- The loop of `pager_playback` over the records that follow one header. -/
def playback (d : Digests) (p : Pager) : Nat → Vfs → Nat → Played × Vfs
  | 0, v, _ => (.rc .ok, v)
  | n + 1, v, offset =>
    let one := p.playbackOnePage d v offset
    if one.1 = .rc .ok then p.playback d n one.2 (offset + (p.pageSize + 8)) else one

-- ---------------------------------------------------------------------------
-- The checksum
-- ---------------------------------------------------------------------------

/-- The checksum depends only on the bytes that its loop comes to. -/
theorem cksumLoop_congr {a b : Bytes} {n : Nat} (h : a.take n = b.take n) (fuel : Nat)
    (cksum : BitVec 32) {i : Nat} (hi : i < n) : cksumLoop a fuel cksum i = cksumLoop b fuel cksum i := by
  induction fuel generalizing cksum i with
  | zero => rfl
  | succ fuel ih =>
    have hbyte : byte a i = byte b i := by
      rw [byte, byte, List.getD_eq_getElem?_getD, List.getD_eq_getElem?_getD,
        getElem?_of_take_eq h hi]
    rw [cksumLoop, cksumLoop, hbyte, ih _ (by omega)]

/-- The checksum does not look at the last bytes of a page. -/
theorem cksum_congr {p : Pager} {a b : Bytes} {n : Nat} (h : a.take n = b.take n)
    (hn : p.pageSize - 200 < n) : p.cksum a = p.cksum b :=
  cksumLoop_congr h _ _ hn

-- ---------------------------------------------------------------------------
-- One record
-- ---------------------------------------------------------------------------

variable {d : Digests} {v v' : Vfs} {c : Codec} {p : Pager} {r : Record} {offset : Nat}

/-- The journal of a database under this codec. -/
abbrev Ready (c : Codec) (v : Vfs) : Prop := Vfs.Logs c .mainJournal v

/-- The record as it stands in the journal: the page is encrypted under the read key. -/
structure RecordAt (d : Digests) (c : Codec) (p : Pager) (file : Bytes) (offset : Nat) (r : Record) :
    Prop where
  le : offset + (c.pageSize + 8) ≤ file.length
  pgno : slice file offset 4 = store32BE (BitVec.ofNat 32 r.pgno)
  page : Sealed d (c.key false) c.reserved r.pgno r.data (slice file (offset + 4) c.pageSize)
  cksum : slice file (offset + 4 + c.pageSize) 4 = store32BE (p.cksum r.data)

/-- A page that can be journalled. -/
structure Fits (c : Codec) (p : Pager) (r : Record) : Prop where
  length : r.data.length = c.pageSize
  pos : 0 < r.pgno
  lt : r.pgno < 2 ^ 32
  first : PageCipher.StartsDatabase r.pgno r.data
  ne_lckPgno : r.pgno ≠ p.lckPgno
  le_dbSize : r.pgno ≤ p.dbSize

/-- Four bytes are written as they are, and are the number of the page that follows. -/
theorem write32bits_spec (hc : c.AtRest) (h : Ready c v) (offset : Nat) (val : BitVec 32) :
    let v' := write32bits d v offset val
    Ready c v' ∧ (v'.files .mainJournal).pageNo = val.toNat ∧ (v'.files .mainJournal).file =
      FileImage.write (v.files .mainJournal).file (store32BE val) offset := by
  obtain ⟨c', hactive, hs⟩ := h.exists_active hc.isEncrypted
  obtain ⟨hps, -, -, -⟩ := Codec.fields_congr hs
  have hge := hc.pageSize_ge
  -- four bytes are no page, so the number is noted and the bytes are written as they are
  have hwrite : write32bits d v offset val = (v.writeReal .mainJournal (store32BE val) offset).setFile
      .mainJournal { (v.writeReal .mainJournal (store32BE val) offset).files .mainJournal with
        pageNo := get4byte (store32BE val) } := by
    show Vfs.writeJournal d v .mainJournal (store32BE val) offset = _
    rw [Vfs.writeJournal, hactive]
    dsimp only
    rw [if_neg (by rw [length_store32BE]; omega), if_pos (length_store32BE val)]
  intro v'
  have hframe : Vfs.Frame .mainJournal v v' := Vfs.frame_write d v .mainJournal _ offset
  have hself : v'.files .mainJournal =
      { v.files .mainJournal with
        file := xWrite (v.files .mainJournal).file (store32BE val) offset
        pageNo := get4byte (store32BE val) } := by
    show (write32bits d v offset val).files .mainJournal = _
    rw [hwrite, Vfs.setFile_self, Vfs.writeReal, Vfs.setFile_self]
  refine ⟨⟨h.uses.congr hframe.settings, ?_⟩, ?_, ?_⟩
  · rw [hself]
    exact h.pMainDb
  · rw [hself, ← get4byte_store32BE]
  · rw [hself]
    rfl

/-- The page that follows its number is encrypted under the read key. -/
theorem writePage_spec (hc : c.AtRest) (h : Ready c v) (hr : Fits c p r)
    (hno : (v.files .mainJournal).pageNo = r.pgno) (offset : Nat) :
    let v' := Vfs.mcIoWrite d v .mainJournal r.data offset
    Ready c v' ∧ ∃ stored, Sealed d (c.key false) c.reserved r.pgno r.data stored ∧
      (v'.files .mainJournal).file =
        FileImage.write (v.files .mainJournal).file stored offset := by
  obtain ⟨c', hactive, hs⟩ := h.exists_active hc.isEncrypted
  obtain ⟨hps, hres, -, -⟩ := Codec.fields_congr hs
  have hpos := hr.pos
  intro v'
  -- a page is stored under the read key, as the page whose number was noted
  have hwrite : v' = v.writePage d c' .mainJournal r.data r.pgno offset false := by
    show Vfs.writeJournal d v .mainJournal r.data offset = _
    rw [Vfs.writeJournal, hactive]
    dsimp only
    rw [if_pos ⟨hr.length.trans hps.symm, by omega⟩, hno]
  have hframe : Vfs.Frame .mainJournal v v' := Vfs.frame_write d v .mainJournal _ offset
  have hself : v'.files .mainJournal =
      { v.files .mainJournal with
        file := xWrite (v.files .mainJournal).file (c'.store d r.data r.pgno false v.rng).1 offset } := by
    rw [hwrite, Vfs.writePage, Vfs.writeReal, Vfs.setFile_self]
  refine ⟨⟨h.uses.congr hframe.settings, ?_⟩, (c'.store d r.data r.pgno false v.rng).1, ?_, ?_⟩
  · rw [hself]
    exact h.pMainDb
  · obtain ⟨hsealed, -, -⟩ : Sealed d (c'.key false) c'.reserved r.pgno r.data
        (c'.store d r.data r.pgno false v.rng).1 ∧ _ :=
      Codec.sealed_store (hc.toConsistent.congr hs.symm) v.rng (hr.length.trans hps.symm) hr.first
    rwa [Codec.key_congr hs, hres] at hsealed
  · rw [hself]
    rfl

/-- Adding a record changes no other file than the journal. -/
theorem frame_addRecord (d : Digests) (p : Pager) (v : Vfs) (offset : Nat) (r : Record) :
    Vfs.Frame .mainJournal v (p.addRecord d v offset r) :=
  ((Vfs.frame_write d v .mainJournal _ _).trans (Vfs.frame_write d _ .mainJournal _ _)).trans
    (Vfs.frame_write d _ .mainJournal _ _)

/-- The three parts of a record stand one after the other. -/
theorem addRecord_spec (hc : c.AtRest) (hp : p.pageSize = c.pageSize) (h : Ready c v)
    (hr : Fits c p r) (offset : Nat) :
    let v' := p.addRecord d v offset r
    Ready c v' ∧ RecordAt d c p (v'.files .mainJournal).file offset r ∧
      ∃ bytes, (v'.files .mainJournal).file =
        FileImage.write (v.files .mainJournal).file bytes offset := by
  -- three writes: the number, which is noted, the page and its checksum
  obtain ⟨h1, hno, hfile1⟩ : Ready c (write32bits d v offset (BitVec.ofNat 32 r.pgno)) ∧ _ :=
    write32bits_spec hc h offset _
  rw [← get4byte_store32BE, get4byte_pgno hr.lt] at hno
  obtain ⟨h2, stored, hsealed, hfile2⟩ : Ready c (Vfs.mcIoWrite d _ .mainJournal r.data (offset + 4)) ∧
    _ := writePage_spec hc h1 hr hno (offset + 4)
  obtain ⟨h3, -, hfile3⟩ : Ready c (write32bits d _ (offset + 4 + p.pageSize) (p.cksum r.data)) ∧ _ :=
    write32bits_spec hc h2 (offset + 4 + p.pageSize) (p.cksum r.data)
  intro v'
  have hstored : stored.length = c.pageSize := hsealed.length.trans hr.length
  generalize hpg : store32BE (BitVec.ofNat 32 r.pgno) = number at *
  generalize hck : store32BE (p.cksum r.data) = sum at *
  have hnumber : number.length = 4 := by rw [← hpg, length_store32BE]
  have hsum : sum.length = 4 := by rw [← hck, length_store32BE]
  generalize hfile : (v.files .mainJournal).file = file at *
  -- together they are one write of the record
  have hall : (v'.files .mainJournal).file =
      FileImage.write file (number ++ (stored ++ sum)) offset := by
    rw [FileImage.write_append, FileImage.write_append, hnumber, hstored, ← hp, ← hfile1, ← hfile2]
    exact hfile3
  have hlen : (number ++ (stored ++ sum)).length = c.pageSize + 8 := by
    rw [List.length_append, List.length_append]
    omega
  have hself := FileImage.slice_write_self file (number ++ (stored ++ sum)) offset
  rw [← hall, hlen] at hself
  -- so each part of the record stands where it was written
  have hpart {o n : Nat} (hon : o + n ≤ c.pageSize + 8) :
      slice (v'.files .mainJournal).file (offset + o) n = slice (number ++ (stored ++ sum)) o n := by
    rw [← slice_slice hon, hself]
  refine ⟨h3, ⟨?_, ?_, ?_, ?_⟩, _, hall⟩
  · rw [hall, FileImage.length_write, hlen]
    exact Nat.le_max_right _ _
  · have hzero : slice (v'.files .mainJournal).file (offset + 0) 4 = _ := hpart (by omega)
    rw [Nat.add_zero, slice_append_left (by omega), slice_zero_eq_take,
      List.take_of_length_le (by omega)] at hzero
    rw [hzero, hpg]
  · have hmiddle := slice_append_right number (stored ++ sum) 0 c.pageSize
    have hfirst : slice (stored ++ sum) 0 c.pageSize = stored := by
      rw [slice_append_left (by omega), slice_zero_eq_take, List.take_of_length_le (by omega)]
    rw [hnumber, hfirst] at hmiddle
    rw [hpart (by omega), hmiddle]
    exact hsealed
  · have hlast := slice_append_right number (stored ++ sum) c.pageSize 4
    have hrest := slice_append_right stored sum 0 4
    rw [hstored, Nat.add_zero, slice_zero_eq_take, List.take_of_length_le (by omega)] at hrest
    rw [hnumber, hrest] at hlast
    rw [Nat.add_assoc, hpart (by omega), hlast, hck]

/-- A record stays where it is when something is written behind it. -/
theorem RecordAt.write_after {file data : Bytes} {o : Nat} (h : RecordAt d c p file o r)
    (ho : o + (c.pageSize + 8) ≤ offset) : RecordAt d c p (FileImage.write file data offset) o r := by
  have hle := h.le
  refine ⟨?_, ?_, ?_, ?_⟩
  · rw [FileImage.length_write]
    omega
  · rw [FileImage.slice_write_of_disjoint (by omega) (by omega), h.pgno]
  · rw [FileImage.slice_write_of_disjoint (by omega) (by omega)]
    exact h.page
  · rw [FileImage.slice_write_of_disjoint (by omega) (by omega), h.cksum]

/-- Records that stand in the journal one after the other. -/
abbrev Recorded (d : Digests) (c : Codec) (p : Pager) : Bytes → Nat → List Record → Prop :=
  Vfs.Appended (RecordAt d c p) (c.pageSize + 8)

/-- The journal is a log of records. -/
theorem appends_addRecord (d : Digests) (hc : c.AtRest) (hp : p.pageSize = c.pageSize) :
    Vfs.Appends c .mainJournal (c.pageSize + 8) (RecordAt d c p) (Fits c p) (p.addRecord d) where
  stands offset h hr := (addRecord_spec hc hp h hr offset).2.1
  logs offset h hr := (addRecord_spec hc hp h hr offset).1
  writes offset h hr := (addRecord_spec hc hp h hr offset).2.2
  mainDb offset _ _ := (frame_addRecord d p _ offset _).files .mainDb (by decide)
  keeps h ho := h.write_after ho

-- ---------------------------------------------------------------------------
-- A record that is cut off
-- ---------------------------------------------------------------------------

/-- Whatever is written to the journal after its records leaves them and the database alone. -/
theorem recorded_write {rs : List Record} {o : Nat} (hc : c.AtRest) (hp : p.pageSize = c.pageSize)
    (hrec : Recorded d c p (v.files .mainJournal).file o rs)
    (ho : o + rs.length * (c.pageSize + 8) ≤ offset) (data : Bytes) :
    let v' := Vfs.mcIoWrite d v .mainJournal data offset
    Recorded d c p (v'.files .mainJournal).file o rs ∧ v'.files .mainDb = v.files .mainDb := by
  -- whatever the write is taken for, it writes at its own offset
  have hfile : ∃ bytes, ((Vfs.mcIoWrite d v .mainJournal data offset).files .mainJournal).file =
      FileImage.write (v.files .mainJournal).file bytes offset := by
    show ∃ bytes, ((Vfs.writeJournal d v .mainJournal data offset).files .mainJournal).file = _
    unfold Vfs.writeJournal
    split
    · exact ⟨data, by rw [Vfs.writeReal, Vfs.setFile_self]; rfl⟩
    · rename_i c' _
      dsimp only
      split_ifs
      · exact ⟨_, by rw [Vfs.writePage, Vfs.writeReal, Vfs.setFile_self]; rfl⟩
      · exact ⟨data, by rw [Vfs.setFile_self, Vfs.writeReal, Vfs.setFile_self]; rfl⟩
      · exact ⟨data, by rw [Vfs.writeReal, Vfs.setFile_self]; rfl⟩
  obtain ⟨bytes, hbytes⟩ := hfile
  intro v'
  refine ⟨?_, (Vfs.frame_write d v .mainJournal data offset).files .mainDb (by decide)⟩
  rw [show (v'.files .mainJournal).file = _ from hbytes]
  exact (appends_addRecord d hc hp).keeps_all hrec ho

/-- So does a part of a record. -/
theorem recorded_addRecordPart {rs : List Record} {o : Nat} (hc : c.AtRest)
    (hp : p.pageSize = c.pageSize) (hrec : Recorded d c p (v.files .mainJournal).file o rs)
    (ho : o + rs.length * (c.pageSize + 8) ≤ offset) (n : Nat) (r : Record) :
    let v' := p.addRecordPart d n v offset r
    Recorded d c p (v'.files .mainJournal).file o rs ∧ v'.files .mainDb = v.files .mainDb := by
  -- the writes of a record begin no earlier than the record
  have hafter : ∀ write ∈ (p.recordWrites offset r).take n,
      o + rs.length * (c.pageSize + 8) ≤ write.2 := by
    intro write hwrite
    rcases List.mem_cons.mp (List.mem_of_mem_take hwrite) with rfl | hwrite
    · exact ho
    · rcases List.mem_cons.mp hwrite with rfl | hwrite
      · exact Nat.le_add_right_of_le ho
      · rw [List.mem_singleton.mp hwrite]
        exact Nat.le_add_right_of_le (Nat.le_add_right_of_le ho)
  unfold addRecordPart
  generalize (p.recordWrites offset r).take n = writes at *
  induction writes generalizing v with
  | nil => exact ⟨hrec, rfl⟩
  | cons write writes ih =>
    obtain ⟨hwrite, hrest⟩ := List.forall_mem_cons.mp hafter
    obtain ⟨hrec', hdb⟩ := recorded_write hc hp hrec hwrite write.1
    obtain ⟨hrec'', hdb'⟩ := ih hrec' hrest
    exact ⟨hrec'', hdb'.trans hdb⟩

/-- A step of a transaction: a page is journalled, or something is done to the files. -/
def step (d : Digests) (p : Pager) : Vfs × Nat → Vfs.Event Record → Vfs × Nat :=
  Vfs.Event.step d (p.pageSize + 8) (p.addRecord d)

-- ---------------------------------------------------------------------------
-- Playback
-- ---------------------------------------------------------------------------

/-- Four bytes are read as they are, and are the number of the page that follows. -/
theorem read32bits_spec (hc : c.AtRest) (h : Ready c v) {o : Nat}
    (ho : o + 4 ≤ (v.files .mainJournal).file.length) :
    let r := Vfs.mcIoRead d v .mainJournal 4 o
    r.1 = .ok ∧ r.2.1 = slice (v.files .mainJournal).file o 4 ∧
      (r.2.2.files .mainJournal).pageNo = get4byte (slice (v.files .mainJournal).file o 4) := by
  obtain ⟨c', hactive, hs⟩ := h.exists_active hc.isEncrypted
  obtain ⟨hps, -, -, -⟩ := Codec.fields_congr hs
  have hge := hc.pageSize_ge
  -- four bytes are no page, so the number is noted and handed out as it is
  have hread : Vfs.mcIoRead d v .mainJournal 4 o =
      (.ok, slice (v.files .mainJournal).file o 4, v.setFile .mainJournal
        { v.files .mainJournal with
          pageNo := get4byte (slice (v.files .mainJournal).file o 4) }) := by
    unfold Vfs.mcIoRead
    rw [Vfs.xRead_of_le ho]
    dsimp only
    rw [if_neg (by decide), Vfs.readJournal, hactive]
    dsimp only
    rw [if_neg (by omega), if_pos rfl]
  intro r
  have hr : r = _ := hread
  rw [hr]
  refine ⟨rfl, rfl, ?_⟩
  dsimp only
  rw [Vfs.setFile_self]

/-- The page that follows its number is decrypted under the read key. -/
theorem readPage_spec (hc : c.AtRest) (h : Ready c v) {o : Nat} (hr : Fits c p r)
    (hno : (v.files .mainJournal).pageNo = r.pgno)
    (ho : o + c.pageSize ≤ (v.files .mainJournal).file.length)
    (hsealed : Sealed d (c.key false) c.reserved r.pgno r.data
      (slice (v.files .mainJournal).file o c.pageSize)) :
    Restores (c.pageSize - c.reserved) r.data
      ((Vfs.mcIoRead d v .mainJournal c.pageSize o).1,
        (Vfs.mcIoRead d v .mainJournal c.pageSize o).2.1) := by
  obtain ⟨c', hactive, hs⟩ := h.exists_active hc.isEncrypted
  obtain ⟨hps, hres, -, -⟩ := Codec.fields_congr hs
  have hpos := hr.pos
  rw [← Codec.key_congr hs, ← hres] at hsealed
  obtain ⟨hload, -⟩ := Codec.load_of_sealed (hc.toConsistent.congr hs.symm) hsealed
  rw [hr.length, hres] at hload
  unfold Vfs.mcIoRead
  rw [Vfs.xRead_of_le ho]
  dsimp only
  rw [if_neg (by decide), Vfs.readJournal, hactive]
  dsimp only
  rw [if_pos ⟨hps.symm, by omega⟩, hno]
  exact hload

/-- A first page is still the start of a database without its last bytes. -/
theorem startsDatabase_congr {a b : Bytes} {n page : Nat} (h : a.take n = b.take n) (hn : 24 ≤ n)
    (hb : PageCipher.StartsDatabase page b) : PageCipher.StartsDatabase page a := by
  intro hpage
  obtain ⟨hheader, hvalid⟩ := hb hpage
  have hfirst : slice a 0 16 = slice b 0 16 := slice_eq_of_take_eq h (by omega)
  have hnext : slice a 16 8 = slice b 16 8 := slice_eq_of_take_eq h (by omega)
  rw [slice_zero_eq_take, slice_zero_eq_take] at hfirst
  rw [hfirst, hnext]
  exact ⟨hheader, hvalid⟩

/-- A record that is played back puts its page into the database, but for the reserved bytes. -/
theorem playbackOnePage_spec {m : Vfs.Pages} (hc : c.AtRest) (hp : p.pageSize = c.pageSize)
    (hreserved : c.reserved < 200) (h : Ready c v) (hr : Fits c p r)
    (hat : RecordAt d c p (v.files .mainJournal).file offset r) (hm : Vfs.Represents d c v m)
    (hsynced : p.noSync = true ∨ offset + (c.pageSize + 8) ≤ p.journalHdr) :
    ∃ data v', p.playbackOnePage d v offset = (.rc .ok, v') ∧ Ready c v' ∧
      (v'.files .mainJournal).file = (v.files .mainJournal).file ∧
      data.take (c.pageSize - c.reserved) = r.data.take (c.pageSize - c.reserved) ∧
      Vfs.Represents d c v' (Function.update m (r.pgno - 1) (some ⟨c.key true, data⟩)) := by
  have hge := hc.pageSize_ge
  have hle := hat.le
  have hpos := hr.pos
  -- the number
  have hframe1 := Vfs.readFrame_read d v .mainJournal 4 offset
  obtain ⟨hok1, hbytes1, hno⟩ := read32bits_spec (d := d) hc h (o := offset) (by omega)
  rw [hat.pgno] at hbytes1 hno
  generalize hv1 : Vfs.mcIoRead d v .mainJournal 4 offset = r1 at *
  have hready1 : Ready c r1.2.2 :=
    ⟨h.uses.congr hframe1.settings, (hframe1.pMainDb _).trans h.pMainDb⟩
  have hpgno : get4byte r1.2.1 = r.pgno := by
    rw [hbytes1, get4byte_pgno hr.lt]
  rw [get4byte_pgno hr.lt] at hno
  have hfile1 := hframe1.file .mainJournal
  -- the page
  have hframe2 := Vfs.readFrame_read d r1.2.2 .mainJournal c.pageSize (offset + 4)
  have hpage : Restores (c.pageSize - c.reserved) r.data
      ((Vfs.mcIoRead d r1.2.2 .mainJournal c.pageSize (offset + 4)).1,
        (Vfs.mcIoRead d r1.2.2 .mainJournal c.pageSize (offset + 4)).2.1) :=
    readPage_spec hc hready1 hr hno (by rw [hfile1]; omega) (by rw [hfile1]; exact hat.page)
  generalize hv2 : Vfs.mcIoRead d r1.2.2 .mainJournal c.pageSize (offset + 4) = r2 at *
  have hready2 : Ready c r2.2.2 :=
    ⟨hready1.uses.congr hframe2.settings, (hframe2.pMainDb _).trans hready1.pMainDb⟩
  have hfile2 := (hframe2.file .mainJournal).trans hfile1
  -- the checksum, which does not cover the reserved bytes
  have hframe3 := Vfs.readFrame_read d r2.2.2 .mainJournal 4 (offset + 4 + c.pageSize)
  obtain ⟨hok3, hbytes3, -⟩ := read32bits_spec (d := d) hc hready2 (o := offset + 4 + c.pageSize)
    (by rw [hfile2]; omega)
  rw [hfile2, hat.cksum] at hbytes3
  generalize hv3 : Vfs.mcIoRead d r2.2.2 .mainJournal 4 (offset + 4 + c.pageSize) = r3 at *
  have hready3 : Ready c r3.2.2 :=
    ⟨hready2.uses.congr hframe3.settings, (hframe3.pMainDb _).trans hready2.pMainDb⟩
  have hfile3 := (hframe3.file .mainJournal).trans hfile2
  have hsum : (p.cksum r2.2.1).toNat = get4byte r3.2.1 := by
    rw [hbytes3, get4byte_store32BE, cksum_congr hpage.take (by rw [hp]; omega)]
  -- the write
  have hfirst : PageCipher.StartsDatabase r.pgno r2.2.1 :=
    startsDatabase_congr hpage.take (by omega) hr.first
  have hlen : r2.2.1.length = c.pageSize := hpage.length.trans hr.length
  have hwhole : Vfs.Whole c.pageSize (.write .mainDb r2.2.1 ((r.pgno - 1) * c.pageSize)) := by
    refine ⟨Nat.mul_mod_left _ _, by rw [hlen, Nat.mod_self], fun hzero _ => ?_⟩
    have hone : r.pgno = 0 + 1 := by
      rcases Nat.mul_eq_zero.mp hzero with hz | hz <;> omega
    rw [List.take_of_length_le (by omega)]
    show PageCipher.StartsDatabase (0 + 1) r2.2.1
    rwa [← hone]
  have hm3 : Vfs.Represents d c r3.2.2 m :=
    hm.congr ((hframe3.file .mainDb).trans ((hframe2.file .mainDb).trans (hframe1.file .mainDb)))
  have hput := Vfs.represents_apply hc.toConsistent hc.isEncrypted hready3.uses hm3 hwhole
  rw [Vfs.effect_page (by omega) hlen] at hput
  have hspares : Vfs.Spares .mainJournal (.write .mainDb r2.2.1 ((r.pgno - 1) * c.pageSize)) :=
    fun h => by cases h
  obtain ⟨hready4, hfile4⟩ := Vfs.logs_apply (d := d) hready3 hspares
  refine ⟨r2.2.1, _, ?_, hready4, hfile4.trans hfile3, hpage.take, hput⟩
  have hok2 : r2.1 = .ok := hpage.rc
  have hnot : ¬(r.pgno = 0 ∨ r.pgno = p.lckPgno) := by
    rintro (hzero | hlck)
    · omega
    · exact hr.ne_lckPgno hlck
  have hdb := hr.le_dbSize
  unfold playbackOnePage
  rw [hp, hv1]
  dsimp only
  rw [hv2, hpgno, hv3, if_neg (not_not_intro hok1), if_neg (not_not_intro hok2), if_neg hnot,
    if_neg (by omega), if_neg (not_not_intro hok3), if_neg (not_not_intro hsum), if_pos hsynced]
  rfl

/-- All records of a journal, each about another page. -/
theorem playback_spec {rs : List Record} {m : Vfs.Pages} (hc : c.AtRest)
    (hp : p.pageSize = c.pageSize) (hreserved : c.reserved < 200) (h : Ready c v)
    (hrs : ∀ r ∈ rs, Fits c p r) (hdistinct : (rs.map Record.pgno).Nodup)
    (hrec : Recorded d c p (v.files .mainJournal).file offset rs) (hm : Vfs.Represents d c v m)
    (hsynced : p.noSync = true ∨ offset + rs.length * (c.pageSize + 8) ≤ p.journalHdr) :
    ∃ v' m', p.playback d rs.length v offset = (.rc .ok, v') ∧ Ready c v' ∧
      Vfs.Represents d c v' m' ∧ (∀ i, (∀ r ∈ rs, r.pgno ≠ i + 1) → m' i = m i) ∧
      ∀ r ∈ rs, ∃ data, m' (r.pgno - 1) = some ⟨c.key true, data⟩ ∧
        data.take (c.pageSize - c.reserved) = r.data.take (c.pageSize - c.reserved) := by
  induction rs generalizing v m offset with
  | nil => exact ⟨v, m, rfl, h, hm, fun _ _ => rfl, fun r hr => by cases hr⟩
  | cons r rs ih =>
    obtain ⟨hr, hrest⟩ := List.forall_mem_cons.mp hrs
    obtain ⟨hnew, hdistinct'⟩ := List.nodup_cons.mp hdistinct
    have hpos := hr.pos
    rw [List.length_cons, Nat.succ_mul] at hsynced
    obtain ⟨data, v1, hone, hready, hfile, htake, hm1⟩ :=
      playbackOnePage_spec hc hp hreserved h hr hrec.1 hm (hsynced.imp_right fun hs => by omega)
    have hrec' : Recorded d c p (v1.files .mainJournal).file (offset + (c.pageSize + 8)) rs := by
      rw [hfile]
      exact hrec.2
    obtain ⟨v', m', hplay, hready', hm', hother, hpages⟩ :=
      ih hready hrest hdistinct' hrec' hm1 (hsynced.imp_right fun hs => by omega)
    refine ⟨v', m', ?_, hready', hm', fun i hi => ?_, ?_⟩
    · rw [List.length_cons, playback, hone]
      dsimp only
      rw [if_pos rfl, hp]
      exact hplay
    · obtain ⟨hi0, hi'⟩ := List.forall_mem_cons.mp hi
      rw [hother i hi', Function.update_of_ne (by omega)]
    · refine List.forall_mem_cons.mpr ⟨⟨data, ?_, htake⟩, hpages⟩
      -- no later record is about the same page
      have hlast : ∀ r' ∈ rs, r'.pgno ≠ r.pgno - 1 + 1 := fun r' hr' heq =>
        hnew (List.mem_map.mpr ⟨r', hr', by omega⟩)
      rw [hother _ hlast, Function.update_self]

end Pager

end Native

end SqliteMc
